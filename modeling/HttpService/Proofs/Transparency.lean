import HttpService.Pipeline.Probe
import HttpService.Proofs.Forgetting
import HttpService.Proofs.Observers
/-! # Observers are transparent

What observers in the chains of a router leave unchanged. Routers are filled alike if their routes
agree in methods and paths: `Route.match?_both`. What the dispatcher does once a chain has stopped
does not depend on the start of the request, the counters or the log, so that with `Segment.follows`
a router with observers answers and signals like the one without: `observers_transparent`. Counters
can be read, so chains that read them are not steady: `counters_show`. -/
set_option autoImplicit false

namespace HttpService

namespace Route

variable {α : Type}

theorem tree_map (made : α -> Route) (items : List α) (method : Method) :
    tree method (items.map made) =
      ((items.filter fun item => (made item).method = method).foldlM
        (fun (tree : Node α) item => tree.insert (made item).path item) {}).map
          (Node.map made) := by
  have kept : (items.map made).filter (fun route => route.method = method) =
      (items.filter fun item => (made item).method = method).map made := by
    rw [List.filter_map]
    rfl
  have filled := foldlM_insert_map made path
    (items.filter fun item => (made item).method = method) {}
  rw [Node.map_empty] at filled
  rw [tree, kept, filled]

variable (one other : α -> Route)
  (sameMethod : ∀ item, (one item).method = (other item).method)
  (samePath : ∀ item, (one item).path = (other item).path)

include sameMethod samePath

theorem tree_both (items : List α) (method : Method) :
    ∃ grown : Except RouteError (Node α),
      tree method (items.map one) = grown.map (Node.map one) ∧
        tree method (items.map other) = grown.map (Node.map other) := by
  refine ⟨_, tree_map one items method, ?_⟩
  rw [tree_map other items method]
  simp only [sameMethod, samePath]

/-- Routes made of the same items, with the same methods and paths, match the same requests. -/
theorem match?_both (items : List α) (request : Request) :
    (match? (items.map one) request = none ∧ match? (items.map other) request = none) ∨
      ∃ item ∈ items, ∃ params, match? (items.map one) request = some (one item, params) ∧
        match? (items.map other) request = some (other item, params) := by
  -- In the tree of the items with their membership, every value is a member.
  have spread (made : α -> Route) : items.map made = items.attach.map fun item => made item.val :=
    List.attach_map_val.symm
  rw [spread one, spread other]
  obtain ⟨grown, first, second⟩ := tree_both (fun item => one item.val)
    (fun item => other item.val) (fun item => sameMethod item.val)
    (fun item => samePath item.val) items.attach request.method
  simp only [match?, first, second]
  cases grown with
  | error reason => exact .inl ⟨rfl, rfl⟩
  | ok root =>
      simp only [Except.map, Node.map_lookup]
      cases root.lookup request.uri.path with
      | none => exact .inl ⟨rfl, rfl⟩
      | some found => exact .inr ⟨found.value.val, found.value.property, _, rfl, rfl⟩

end Route

namespace Router

variable {plain attended : World}

theorem deliver_attended (related : plain.Attended attended) :
    (deliver plain).1 = (deliver attended).1 ∧ (deliver plain).2.Attended (deliver attended).2 := by
  have same := congrArg (fun world : World =>
    { world with exchange := { world.exchange with response := none } }) related.same
  have taken : ({ plain with exchange := plain.exchange.takeResponse.2 } : World).Attended
      { attended with exchange := attended.exchange.takeResponse.2 } := ⟨same, related.log⟩
  simp only [deliver, Exchange.takeResponse, related.response] at taken ⊢
  cases attended.exchange.response with
  | some response => exact ⟨rfl, taken⟩
  | none => exact ⟨rfl, taken.addLog .unanswered⟩

theorem signal_attended (related : plain.Attended attended) (signal : Signal) :
    (plain.signal signal).2.Attended (attended.signal signal).2 := by
  have same := congrArg (fun world : World =>
    { world with
      channel := (world.channel.send signal).2
      sent := world.sent ++ [signal] }) related.same
  refine ⟨same, ?_⟩
  simp only [World.signal, related.channel]
  exact related.log.append (List.Sublist.refl _)

theorem settleFailure_attended (related : plain.Attended attended) (failure : Failure) :
    (settleFailure failure plain).Attended (settleFailure failure attended) := by
  simp only [settleFailure]
  split
  · split
    · exact related.addLog _
    · exact signal_attended (related.addLog _) _
  · exact related.addLog _

theorem conclude_attended {plain attended : Stop × World} (stop : attended.1 = plain.1)
    (related : plain.2.Attended attended.2) :
    (conclude attended).1 = (conclude plain).1 ∧
      (conclude plain).2.Attended (conclude attended).2 := by
  obtain ⟨plainStop, plainAfter⟩ := plain
  obtain ⟨_, attendedAfter⟩ := attended
  cases stop
  rcases plainStop with ⟨(failure | done) | payload⟩ | _
  · obtain ⟨response, after⟩ := deliver_attended (settleFailure_attended related failure)
    exact ⟨congrArg Reply.response response.symm, after⟩
  · obtain ⟨response, after⟩ := deliver_attended related
    exact ⟨congrArg Reply.response response.symm, after⟩
  · exact ⟨rfl, related⟩
  · exact ⟨rfl, related⟩

theorem received_attended (related : plain.Attended attended) :
    (received plain).Attended (received attended) := by
  have same := congrArg received related.same
  exact ⟨same, related.log⟩

end Router

/-- A route, with the layers that are to be inserted among its own. -/
structure WatchedRoute where
  method : Method
  path : String
  segments : List Segment
  handler : Handler

namespace WatchedRoute

def plain (route : WatchedRoute) : Route :=
  ⟨route.method, route.path, Segment.originals route.segments, route.handler⟩

def attended (route : WatchedRoute) : Route :=
  ⟨route.method, route.path, Segment.chain route.segments, route.handler⟩

structure Sound (route : WatchedRoute) : Prop where
  segments : ∀ segment ∈ route.segments, segment.Sound
  handler : route.handler.Steady

end WatchedRoute

namespace Router

open Segment

/-- A router can be filled with the routes and their observers if it can without them. -/
theorem ofRoutes_attended {layers : List Layer} {routes : List WatchedRoute} {router : Router}
    (built : ofRoutes layers (routes.map WatchedRoute.plain) = .ok router) (outer : List Layer) :
    ∃ watched, ofRoutes outer (routes.map WatchedRoute.attended) = .ok watched := by
  have trees := (keeps_foldlM (routes.map WatchedRoute.plain) (keeps_nil layers) built).2
  apply ofRoutes_ok
  intro method
  obtain ⟨root, grown, -⟩ := trees method
  obtain ⟨items, first, second⟩ := Route.tree_both WatchedRoute.plain
    WatchedRoute.attended (fun _ => rfl) (fun _ => rfl) routes method
  rw [List.nil_append, first] at grown
  cases items with
  | error reason => cases grown
  | ok tree => exact ⟨_, second⟩

variable {wide : List Segment} {routes : List WatchedRoute} {router watched : Router}

theorem dispatch_attended (soundWide : ∀ segment ∈ wide, segment.Sound)
    (soundRoutes : ∀ route ∈ routes, route.Sound)
    (built : ofRoutes (originals wide) (routes.map WatchedRoute.plain) = .ok router)
    (watching : ofRoutes (chain wide) (routes.map WatchedRoute.attended) = .ok watched)
    (limit : Option Nat) (request : Request) {plain attended : World}
    (related : plain.Attended attended)
    (orderly : ∀ route params,
      Route.match? (routes.map WatchedRoute.plain) request = some (route, params) ->
        Orderly (unattended limit route.handler 0 (originals wide ++ route.layers)
          ⟨none, { request with params }⟩ (received plain)).1) :
    (watched.dispatch limit request attended).1 = (router.dispatch limit request plain).1 ∧
      (router.dispatch limit request plain).2.Attended
        (watched.dispatch limit request attended).2 := by
  rcases Route.match?_both WatchedRoute.plain WatchedRoute.attended
    (fun _ => rfl) (fun _ => rfl) routes request with
      ⟨unmatched, unmatchedToo⟩ | ⟨route, listed, params, matched, matchedToo⟩
  · simp only [dispatch, find?_ofRoutes built, find?_ofRoutes watching, unmatched, unmatchedToo,
      Option.map_none]
    exact ⟨trivial, related⟩
  · rw [dispatch_matched built limit request matched,
      dispatch_matched watching limit request matchedToo]
    have sound : ∀ segment ∈ wide ++ route.segments, segment.Sound := by
      intro segment present
      rcases List.mem_append.mp present with outer | inner
      · exact soundWide segment outer
      · exact (soundRoutes route listed).segments segment inner
    have plainChain : originals (wide ++ route.segments) =
        originals wide ++ originals route.segments :=
      List.filterMap_append
    have wholeChain : chain (wide ++ route.segments) = chain wide ++ chain route.segments :=
      List.map_append
    have like := (follows (soundRoutes route listed).handler sound 0 ⟨none, { request with params }⟩
      (received plain) (received attended) (received_inTime limit plain)
      (received_attended related) (by rw [plainChain]; exact orderly _ _ matched)).1
    have stop := like.stop
    have world := like.world
    rw [narrate_faithful, unattended_faithful, plainChain, wholeChain, compose_append,
      compose_append] at stop world
    exact conclude_attended stop world

/-- **Observers are transparent.** Let observers be inserted into a steady chain that does not
panic. Then each layer and the handler are called with the same as before, the same responses are
passed to the exchange and win, and each of them ends in the same way; so does the whole chain, and
the states differ at most in the start of the request, in the counters and by more lines in the log.
A router with observers can be filled like the one without, and its dispatcher replies the same and
sends the same signals. -/
theorem observers_transparent :
    (∀ (handler : Handler) (segments : List Segment), handler.Steady ->
      (∀ segment ∈ segments, segment.Sound) ->
      ∀ limit passage (plain attended : World), plain.InTime limit -> plain.Attended attended ->
        let original := unattended limit handler 0 (originals segments) passage plain
        let watched := narrate limit handler 0 segments passage attended
        original.2 = (compose (originals segments) handler passage).run limit plain ∧
        watched.2 = (compose (chain segments) handler passage).run limit attended ∧
        (Orderly original.1 -> watched.1 = original.1 ∧ watched.2.1 = original.2.1 ∧
          original.2.2.Attended watched.2.2)) ∧
    ∀ (wide : List Segment) (routes : List WatchedRoute) (router : Router),
      (∀ segment ∈ wide, segment.Sound) -> (∀ route ∈ routes, route.Sound) ->
      ofRoutes (originals wide) (routes.map WatchedRoute.plain) = .ok router ->
      ∃ watched, ofRoutes (chain wide) (routes.map WatchedRoute.attended) = .ok watched ∧
        ∀ limit request (plain attended : World), plain.Attended attended ->
          (∀ route params,
            Route.match? (routes.map WatchedRoute.plain) request = some (route, params) ->
              Orderly (unattended limit route.handler 0 (originals wide ++ route.layers)
                ⟨none, { request with params }⟩ (received plain)).1) ->
          let original := router.dispatch limit request plain
          let observed := watched.dispatch limit request attended
          observed.1 = original.1 ∧ observed.2.sent = original.2.sent ∧
          observed.2.channel = original.2.channel ∧ original.2.Attended observed.2 := by
  constructor
  · intro handler segments steady sound limit passage plain attended inTime related original watched
    refine ⟨unattended_faithful limit handler 0 _ passage plain,
      narrate_faithful limit handler 0 segments passage attended, ?_⟩
    intro orderly
    obtain ⟨events, stop, world⟩ :=
      (follows steady sound 0 passage plain attended inTime related orderly).1
    exact ⟨events, stop, world⟩
  · intro wide routes router soundWide soundRoutes built
    obtain ⟨watched, watching⟩ := ofRoutes_attended built (chain wide)
    refine ⟨watched, watching, ?_⟩
    intro limit request plain attended related orderly original observed
    obtain ⟨reply, world⟩ :=
      dispatch_attended soundWide soundRoutes built watching limit request related orderly
    exact ⟨reply, world.sent.symm, world.channel.symm, world⟩

def spentRoute : WatchedRoute where
  method := .get
  path := "/spent"
  segments := [.inserted Layer.panics, .kept Layer.errors, .inserted Layer.logger,
    .kept (Layer.responding (.bare .ok))]
  handler := Handler.responding (.bare .notFound) (Handler.failing (.shutdown "disk" none))

theorem spentRoute_sound : spentRoute.Sound := by
  have errors : Layer.errors.Steady := Stage.steady .errors
  have responding : (Layer.responding (.bare .ok)).Steady := fun passage =>
    Task.matches_self ⟨id, fun _ => ⟨id, fun _ _ => trivial⟩⟩
  constructor
  · simp [spentRoute, Segment.Sound, Layer.observers, errors, responding]
  · exact fun passage => Task.matches_self ⟨id, fun _ => ⟨id, fun _ => trivial⟩⟩

/-- With observers, the response to a request for a shutdown is the one written first, as without
them, and the same signal is sent. -/
theorem observers_transparent_spent :
    (narrate none spentRoute.handler 0 spentRoute.segments default {}).1 =
        [.entered 0 default, .entered 1 default, .responded 1 (.bare .ok) true, .entered 2 default,
          .responded 2 (.bare .notFound) false,
          .left 2 (.returned (.error (.shutdown "disk" none))),
          .left 1 (.returned (.error (.shutdown "disk" none))),
          .responded 0 (Failure.response (.shutdown "disk" none)) false,
          .left 0 (.returned (.error (.shutdown "disk" none)))] ∧
      ∃ router watched, ofRoutes [Layer.errors] [spentRoute.plain] = .ok router ∧
        ofRoutes [Layer.metrics, Layer.errors] [spentRoute.attended] = .ok watched ∧
        (watched.dispatch none (.get "/spent") {}).1 =
          (router.dispatch none (.get "/spent") {}).1 ∧
        (watched.dispatch none (.get "/spent") {}).2.sent = [.integrity "disk"] := by
  constructor
  · have told := observers_transparent.1 spentRoute.handler spentRoute.segments
      spentRoute_sound.handler spentRoute_sound.segments none default {} {} rfl ⟨rfl, .refl _⟩
    exact (told.2.2 (by decide)).1
  · obtain ⟨router, built⟩ : ∃ router, ofRoutes [Layer.errors] [spentRoute.plain] = .ok router :=
      ⟨_, rfl⟩
    have errors : Layer.errors.Steady := Stage.steady .errors
    have soundWide : ∀ segment ∈ [.inserted Layer.metrics, .kept Layer.errors],
        Segment.Sound segment := by
      simp [Segment.Sound, Layer.observers, errors]
    have soundRoutes : ∀ route ∈ [spentRoute], route.Sound := by
      simpa using spentRoute_sound
    have orderly (route : Route) (params : List (String × String))
        (matched : Route.match? [spentRoute.plain] (.get "/spent") = some (route, params)) :
        Orderly (unattended none route.handler 0 ([Layer.errors] ++ route.layers)
          ⟨none, { Request.get "/spent" with params }⟩ (received {})).1 := by
      have only : Route.match? [spentRoute.plain] (.get "/spent") =
          some (spentRoute.plain, []) := rfl
      cases only.symm.trans matched
      decide
    obtain ⟨watched, watching, dispatches⟩ := observers_transparent.2
      [.inserted Layer.metrics, .kept Layer.errors] [spentRoute] router soundWide soundRoutes built
    obtain ⟨reply, sent, -⟩ := dispatches none (.get "/spent") {} {} ⟨rfl, .refl _⟩ orderly
    refine ⟨router, watched, built, watching, reply, sent.trans ?_⟩
    cases built
    rfl

/-! ## Counters can be read -/

def Reply.response? : Reply -> Option Response
  | .response answer => some answer
  | _ => none

def countersRoute : Route := ⟨.get, "/metrics", [], Handler.counters⟩

def tally : Layer := fun passage =>
  .forward passage fun _ => .act .readCounters fun counters =>
    .perform (.respond (.json .ok counters.toJson)) .succeed

/-- Metrics shows in answers that are made of the counters: in the second of two requests, or
already in the first if a layer outside reads them after its call. -/
theorem counters_show :
    (∀ passage, (Handler.counters passage).Only (· ≠ .readStarted)) ∧
      (∃ router watched, ofRoutes [] [countersRoute] = .ok router ∧
        ofRoutes [Layer.metrics] [countersRoute] = .ok watched ∧
        (watched.serve none [Request.get "/metrics", Request.get "/metrics"] {}).1 ≠
          (router.serve none [Request.get "/metrics", Request.get "/metrics"] {}).1) ∧
      ((compose [tally, Layer.metrics] (fun _ => .succeed) default).run none
          {}).2.exchange.response ≠
        ((compose [tally] (fun _ => .succeed) default).run none {}).2.exchange.response := by
  refine ⟨fun passage => ⟨nofun, fun _ => ⟨nofun, fun _ => trivial⟩⟩, ⟨_, _, rfl, rfl, ?_⟩, ?_⟩
  · intro same
    have responses := congrArg (List.map Reply.response?) same
    revert responses
    decide +kernel
  · decide +kernel

end Router

end HttpService
