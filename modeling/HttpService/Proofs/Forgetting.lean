import HttpService.Proofs.Answers
import HttpService.Proofs.Indifference
import HttpService.Proofs.Mediation
/-! # Requests leave no trace for later ones

A chain whose layers and handler go by their exchange, their request and the clock does the same in
any two states that look alike to it, whatever came before: `World.LooksLike` is what such a chain
can tell apart, `Layer.Isolated` says that a layer adds nothing to it, and `Task.Secluded` is a
condition on the task alone from which that follows. The standard layers share counters with other
requests and are isolated all the same. `dispatch_forgets` concludes for requests after any
others. -/
set_option autoImplicit false

namespace HttpService

/-- The states look alike to a request: its exchange, the time spent on it and the clock agree. -/
structure World.LooksLike (first second : World) : Prop where
  exchange : first.exchange = second.exchange
  elapsed : first.elapsed = second.elapsed
  now : first.now = second.now

def Action.Own : Action -> Prop
  | .count _ => False
  | .readCounters => False
  | _ => True

namespace World.LooksLike

variable {first second : World}

theorem inTime (alike : first.LooksLike second) {limit : Option Nat} :
    first.InTime limit ↔ second.InTime limit := by
  rw [World.InTime, World.InTime, alike.elapsed]

theorem trans {third : World} (alike : first.LooksLike second) (further : second.LooksLike third) :
    first.LooksLike third :=
  ⟨alike.exchange.trans further.exchange, alike.elapsed.trans further.elapsed,
    alike.now.trans further.now⟩

theorem symm (alike : first.LooksLike second) : second.LooksLike first :=
  ⟨alike.exchange.symm, alike.elapsed.symm, alike.now.symm⟩

theorem perform (alike : first.LooksLike second) (action : Action) :
    (first.perform action).2.LooksLike (second.perform action).2 := by
  obtain ⟨exchange, elapsed, now⟩ := alike
  cases action with
  | respond response =>
      simp only [World.perform, World.respond, exchange]
      split
      · exact ⟨rfl, elapsed, now⟩
      · exact ⟨exchange, elapsed, now⟩
  | markStarted => exact ⟨by simp only [World.perform, exchange, elapsed], elapsed, now⟩
  | pause milliseconds => exact ⟨exchange, by simp only [World.perform, elapsed], now⟩
  | _ => exact ⟨exchange, elapsed, now⟩

theorem answer (alike : first.LooksLike second) {action : Action} (own : action.Own) :
    (first.perform action).1 = (second.perform action).1 := by
  obtain ⟨exchange, elapsed, now⟩ := alike
  cases action with
  | respond response =>
      simp only [World.perform, World.respond, exchange]
      split <;> rfl
  | readTrace => simp only [World.perform, exchange]
  | readStarted => simp only [World.perform, exchange, elapsed]
  | readStatus => simp only [World.perform, exchange]
  | readClock => simp only [World.perform, now]
  | count counter => exact own.elim
  | readCounters => exact own.elim
  | _ => rfl

end World.LooksLike

structure SameEnd (first second : Stop × World) : Prop where
  stop : first.1 = second.1
  state : first.2.LooksLike second.2

def Handler.Isolated (handler : Handler) : Prop :=
  ∀ limit passage (first second : World), first.InTime limit -> first.LooksLike second ->
    SameEnd ((handler passage).run limit first) ((handler passage).run limit second)

/-- Around an isolated handler the layer makes another one. -/
def Layer.Isolated (layer : Layer) : Prop :=
  ∀ inner : Handler, inner.Isolated -> Handler.Isolated (layer.wrap inner)

theorem isolated_compose {layers : List Layer} {handler : Handler}
    (around : ∀ layer ∈ layers, layer.Isolated) (inside : handler.Isolated) :
    Handler.Isolated (compose layers handler) := by
  induction layers with
  | nil => exact inside
  | cons layer rest ih =>
      have inner := ih fun other listed => around other (List.mem_cons_of_mem _ listed)
      exact around layer List.mem_cons_self _ inner

namespace Task

variable {Call : Type}

/-- Wherever an answer decides how the task goes on, it is read off the request's own exchange or
off the clock. -/
def Secluded : Task Call -> Prop
  | .done _ => True
  | .act action next =>
      (action.Own ∨ ∀ answer other, next answer = next other) ∧ ∀ answer, (next answer).Secluded
  | .call _ next => ∀ ending, (next ending).Secluded
  | .stall => True

theorem Secluded.perform {action : Action} {next : Task Call} (rest : next.Secluded) :
    (Task.perform action next).Secluded :=
  ⟨.inr fun _ _ => rfl, fun _ => rest⟩

/-- In states that look alike, an action of a secluded task leads to the same task. -/
theorem Secluded.next_eq {action : Action} {next : action.Answer -> Task Call}
    (secluded : (act action next).Secluded) {first second : World}
    (alike : first.LooksLike second) :
    next (first.perform action).1 = next (second.perform action).1 := by
  cases secluded.1 with
  | inl own => rw [alike.answer own]
  | inr ignored => exact ignored _ _

theorem sameEnd_act {limit : Option Nat} {action : Action} {next : action.Answer -> Task Empty}
    {first second : World} (alike : first.LooksLike second)
    (onwards : (first.perform action).2.InTime limit ->
      SameEnd ((next (first.perform action).1).run limit (first.perform action).2)
        ((next (second.perform action).1).run limit (second.perform action).2)) :
    SameEnd ((act action next).run limit first) ((act action next).run limit second) := by
  have performed := alike.perform action
  by_cases inTime : (first.perform action).2.InTime limit
  · rw [run_act limit action next first inTime,
      run_act limit action next second (performed.inTime.mp inTime)]
    exact onwards inTime
  · rw [run_act_late limit action next first inTime,
      run_act_late limit action next second fun still => inTime (performed.inTime.mpr still)]
    exact ⟨rfl, performed⟩

theorem Secluded.sameEnd {limit : Option Nat} {task : Task Empty} (secluded : task.Secluded)
    {first second : World} (alike : first.LooksLike second) :
    SameEnd (task.run limit first) (task.run limit second) := by
  induction task generalizing first second with
  | done ending => exact ⟨rfl, alike⟩
  | act action next ih =>
      apply sameEnd_act alike
      intro _
      rw [secluded.next_eq alike]
      exact ih _ (secluded.2 _) (alike.perform action)
  | call argument _ => exact argument.elim
  | stall => exact ⟨rfl, alike⟩

theorem Secluded.sameEnd_plug {limit : Option Nat} {task : Task Passage}
    (secluded : task.Secluded) {inner : Handler} (isolated : inner.Isolated)
    {first second : World} (inTime : first.InTime limit) (alike : first.LooksLike second) :
    SameEnd ((task.plug inner).run limit first) ((task.plug inner).run limit second) := by
  induction task generalizing first second with
  | done ending => exact ⟨rfl, alike⟩
  | act action next ih =>
      apply sameEnd_act alike
      intro still
      rw [secluded.next_eq alike]
      exact ih _ (secluded.2 _) still (alike.perform action)
  | call passage next ih =>
      have inside := isolated limit passage first second inTime alike
      rw [run_plug_call, run_plug_call]
      cases ran : (inner passage).run limit first with
      | mk stop after =>
          cases ranOther : (inner passage).run limit second with
          | mk other afterOther =>
              rw [ran, ranOther] at inside
              obtain ⟨sameStop, afterwards⟩ := inside
              simp only at sameStop
              subst sameStop
              cases stop with
              | cutOff => exact ⟨rfl, afterwards⟩
              | ended ending =>
                  exact ih ending (secluded ending) (inTime_of_run limit _ _ _ _ inTime ran)
                    afterwards
  | stall => exact ⟨rfl, alike⟩

end Task

theorem Handler.isolated_of_secluded {handler : Handler}
    (secluded : ∀ passage, (handler passage).Secluded) : handler.Isolated :=
  fun _ passage _ _ _ alike => (secluded passage).sameEnd alike

theorem Layer.isolated_of_secluded {layer : Layer}
    (secluded : ∀ passage, (layer passage).Secluded) : layer.Isolated :=
  fun _ inside _ passage _ _ inTime alike => (secluded passage).sameEnd_plug inside inTime alike

namespace Layer

theorem looksLike_countRequest (world : World) : (countRequest world).LooksLike world := by
  simp only [countRequest]
  split <;> exact ⟨rfl, rfl, rfl⟩

theorem looksLike_metricsExit (ending : Ending) (world : World) :
    (metricsExit ending world).2.LooksLike world := by
  have counted := looksLike_countRequest world
  rcases ending with ⟨failure | done⟩ | payload
  · exact ⟨counted.exchange, counted.elapsed, counted.now⟩
  · exact counted
  · exact ⟨rfl, rfl, rfl⟩

/-- Metrics goes by a total that all requests share, but only to decide on a sample. -/
theorem isolated_metrics : metrics.Isolated := by
  intro inner inside limit passage first second inTime alike
  rw [run_metrics limit inner passage first inTime,
    run_metrics limit inner passage second (alike.inTime.mp inTime)]
  obtain ⟨sameStop, afterwards⟩ := inside limit passage first second inTime alike
  generalize (inner passage).run limit first = firstRun at sameStop afterwards ⊢
  generalize (inner passage).run limit second = secondRun at sameStop afterwards ⊢
  obtain ⟨firstStop, firstAfter⟩ := firstRun
  obtain ⟨secondStop, secondAfter⟩ := secondRun
  simp only at sameStop afterwards
  subst sameStop
  cases firstStop with
  | cutOff => exact ⟨rfl, afterwards⟩
  | ended ending =>
      have firstLeft := looksLike_metricsExit ending firstAfter
      have secondLeft := looksLike_metricsExit ending secondAfter
      refine ⟨?_, firstLeft.trans (afterwards.trans secondLeft.symm)⟩
      rcases ending with ⟨failure | done⟩ | payload <;> rfl

end Layer

theorem Task.secluded_forward {passage : Passage} {next : Outcome -> Task Passage}
    (rest : ∀ outcome, (next outcome).Secluded) : (Task.forward passage next).Secluded := by
  intro ending
  cases ending with
  | returned outcome => exact rest outcome
  | panicked payload => trivial

namespace Stage

theorem secluded {stage : Stage} (other : stage ≠ .metrics) (passage : Passage) :
    (stage.layer passage).Secluded := by
  match stage with
  | .metrics => exact absurd rfl other
  | .logger =>
      refine .perform (.perform (Task.secluded_forward ?_))
      intro outcome
      exact ⟨.inl trivial, fun status => .perform trivial⟩
  | .errors =>
      apply Task.secluded_forward
      intro outcome
      cases outcome with
      | ok done => trivial
      | error failure =>
          refine .perform (.perform ?_)
          split <;> trivial
  | .panics =>
      intro ending
      cases ending with
      | returned outcome => trivial
      | panicked payload => exact .perform trivial
  | .authenticate verifier =>
      refine ⟨.inl trivial, ?_⟩
      intro now
      simp only
      split
      · trivial
      · exact fun ending => trivial
  | .authorize rule =>
      simp only [layer, Layer.authorize]
      split
      · trivial
      · split
        · trivial
        · exact fun ending => trivial

/-- Every layer of this library is isolated. -/
theorem isolated (stage : Stage) : stage.layer.Isolated := by
  by_cases counts : stage = .metrics
  · subst counts
    exact Layer.isolated_metrics
  · exact Layer.isolated_of_secluded (secluded counts)

end Stage

structure Route.Isolated (route : Route) : Prop where
  layers : ∀ layer ∈ route.layers, layer.Isolated
  handler : route.handler.Isolated

theorem Route.Isolated.whole {route : Route} (isolated : route.Isolated) :
    (route.whole Layer.standard).Isolated := by
  apply isolated_compose
  · have listed : Layer.standard =
        [Stage.logger, .errors, .metrics, .panics].map Stage.layer := rfl
    rw [listed]
    intro layer present
    obtain ⟨stage, -, rfl⟩ := List.mem_map.mp present
    exact stage.isolated
  · exact isolated_compose isolated.layers isolated.handler

structure Exchange.Fresh (exchange : Exchange) : Prop where
  started : exchange.started = none
  status : exchange.status = none
  response : exchange.response = none

theorem World.traces_perform (world : World) (action : Action) :
    (world.perform action).2.traces = world.traces := by
  cases action with
  | respond response =>
      simp only [perform, respond]
      split <;> rfl
  | _ => rfl

theorem Task.traces_run (limit : Option Nat) (task : Task Empty) (world : World) :
    (task.run limit world).2.traces = world.traces := by
  induction task generalizing world with
  | done ending => rfl
  | act action next ih =>
      simp only [run]
      split
      · exact world.traces_perform action
      · exact (ih _ _).trans (world.traces_perform action)
  | call argument _ => exact argument.elim
  | stall => rfl

namespace Router

def conclude : Stop × World -> Reply × World
  | (.ended (.returned outcome), world) =>
      (.response (settle outcome world).1, (settle outcome world).2)
  | (.ended (.panicked payload), world) => (.panicked payload, world)
  | (.cutOff, world) => (.cutOff, world)

theorem conclude_sameEnd {first second : Stop × World} (same : SameEnd first second) :
    (conclude first).1 = (conclude second).1 := by
  obtain ⟨firstStop, firstAfter⟩ := first
  obtain ⟨secondStop, secondAfter⟩ := second
  obtain ⟨sameStop, afterwards⟩ := same
  simp only at sameStop afterwards
  subst sameStop
  rcases firstStop with ⟨outcome | payload⟩ | _
  · simp only [conclude, settle_response, afterwards.exchange]
  · rfl
  · rfl

theorem conclude_traces (result : Stop × World) : (conclude result).2.traces = result.2.traces := by
  have delivered (world : World) : (deliver world).2.traces = world.traces := by
    simp only [deliver]
    split <;> rfl
  obtain ⟨stop, after⟩ := result
  rcases stop with ⟨(failure | done) | payload⟩ | _
  · have same := congrArg World.traces (settleFailure_apart failure after)
    exact (delivered _).trans same
  · exact delivered after
  · rfl
  · rfl

variable {routes : List Route} {router : Router}

theorem dispatch_matched {layers : List Layer} (built : ofRoutes layers routes = .ok router)
    (limit : Option Nat) (request : Request) {route : Route} {params : List (String × String)}
    (matched : Route.match? routes request = some (route, params)) (world : World) :
    router.dispatch limit request world =
      conclude ((route.whole layers ⟨none, { request with params }⟩).run limit
        (received world)) := by
  simp only [dispatch, find?_ofRoutes built, matched, Option.map_some]
  generalize (route.whole layers ⟨none, { request with params }⟩).run limit (received world) = result
  rcases result with ⟨⟨outcome | payload⟩ | _, after⟩ <;> rfl

theorem dispatch_isolated (built : ofRoutes Layer.standard routes = .ok router)
    (limit : Option Nat) (request : Request)
    (isolated : ∀ route params, Route.match? routes request = some (route, params) ->
      route.Isolated) (first second : World) (sameClock : first.now = second.now)
    (sameTrace : first.traces 0 = second.traces 0) :
    (router.dispatch limit request first).1 = (router.dispatch limit request second).1 := by
  cases found : Route.match? routes request with
  | none => rw [dispatch_standard built, dispatch_standard built, found]
  | some matched =>
      obtain ⟨route, params⟩ := matched
      rw [dispatch_matched built limit request found, dispatch_matched built limit request found]
      apply conclude_sameEnd
      have alike : (received first).LooksLike (received second) :=
        ⟨by simp only [received, sameTrace], rfl, sameClock⟩
      exact (isolated route params found).whole limit _ _ _ (received_inTime limit first) alike

/-- **History does not matter.** A request to an isolated route is answered at any moment, and under
any identifier, as it would have been answered then and under that in the initial state, whatever
requests came before, to whatever routes; more generally, in any two states with the same clock and
the same identifier to come it is answered alike. The chain of any matched request is called with no
claims and on an exchange on which nothing is recorded but the next identifier, which is used up by
that; what an earlier request has left in its own exchange changes nothing. -/
theorem dispatch_forgets (routes : List Route) (router : Router)
    (built : ofRoutes Layer.standard routes = .ok router) (limit : Option Nat)
    (earlier : List Request) (request : Request) (world : World)
    (isolated : ∀ route params, Route.match? routes request = some (route, params) ->
      route.Isolated) :
    (∀ moment traces,
      (router.dispatch limit request
        { (router.serve limit earlier world).2 with now := moment, traces := traces }).1 =
      (router.dispatch limit request { world with now := moment, traces := traces }).1) ∧
    (∀ first second : World, first.now = second.now -> first.traces 0 = second.traces 0 ->
      (router.dispatch limit request first).1 = (router.dispatch limit request second).1) ∧
    ∀ (state : World) route params, Route.match? routes request = some (route, params) ->
      (∃ called : World, called.exchange.Fresh ∧ called.exchange.trace = state.traces 0 ∧
        router.dispatch limit request state =
          conclude
            ((route.whole Layer.standard ⟨none, { request with params }⟩).run limit called)) ∧
      ((router.dispatch limit request state).2.traces = fun later => state.traces (later + 1)) ∧
      ∀ exchange, router.dispatch limit request { state with exchange } =
        router.dispatch limit request state := by
  refine ⟨?_, ?_, ?_⟩
  · intro moment traces
    exact dispatch_isolated built limit request isolated _ _ rfl rfl
  · exact dispatch_isolated built limit request isolated
  · intro state route params matched
    have called := dispatch_matched built limit request matched
    refine ⟨⟨received state, ⟨rfl, rfl, rfl⟩, rfl, called state⟩, ?_, ?_⟩
    · rw [called, conclude_traces, Task.traces_run]
      rfl
    · intro exchange
      rw [called, called]
      rfl

def steadyRoute : Route where
  method := .get
  path := "/steady"
  layers := [Layer.metrics]
  handler := fun _ => .act .readStatus fun status =>
    match status with
    | none => .perform (.respond (.bare .ok)) .succeed
    | some _ => .fail (.auth "taken")

def roughRoutes : List Route :=
  [{ method := .get, path := "/twice", layers := []
     handler := fun _ =>
       .perform (.respond (.bare .noContent)) (.perform (.respond (.bare .notFound)) .succeed) },
    { method := .get, path := "/unsound", layers := []
      handler := fun _ => .fail (.shutdown "disk" none) },
    { method := .get, path := "/panics", layers := [], handler := fun _ => .panic .other }]

theorem steadyRoute_isolated : steadyRoute.Isolated := by
  constructor
  · intro layer listed
    rw [List.mem_singleton.mp listed]
    exact Layer.isolated_metrics
  · apply Handler.isolated_of_secluded
    intro passage
    refine ⟨.inl trivial, ?_⟩
    intro status
    cases status with
    | none => exact .perform trivial
    | some status => trivial

theorem match?_steady : Route.match? (steadyRoute :: roughRoutes) (.get "/steady") =
    some (steadyRoute, []) := rfl

/-- The thousandth request is sampled, and answered as the first one would be. -/
theorem dispatch_forgets_steady : ∃ router,
    ofRoutes Layer.standard (steadyRoute :: roughRoutes) = .ok router ∧ steadyRoute.Isolated ∧
      let before : World := { counters := { requests := 996 } }
      let rough := ["/twice", "/unsound", "/panics"].map Request.get
      let now : Moment := ⟨1700000009, 0⟩
      let traces : Nat -> TraceId := fun _ => .given "late"
      (router.dispatch none (.get "/steady")
        { (router.serve none rough before).2 with now, traces }).1 =
        (router.dispatch none (.get "/steady") { now, traces }).1 := by
  obtain ⟨router, built⟩ : ∃ router,
      ofRoutes Layer.standard (steadyRoute :: roughRoutes) = .ok router := ⟨_, rfl⟩
  have isolated (route : Route) (params : List (String × String))
      (matched : Route.match? (steadyRoute :: roughRoutes) (.get "/steady") =
        some (route, params)) : route.Isolated := by
    rw [match?_steady] at matched
    cases matched
    exact steadyRoute_isolated
  refine ⟨router, built, steadyRoute_isolated, ?_⟩
  have forgets := dispatch_forgets (steadyRoute :: roughRoutes) router built none
    (["/twice", "/unsound", "/panics"].map Request.get) (.get "/steady")
    { counters := { requests := 996 } } isolated
  exact (forgets.1 _ _).trans (forgets.2.1 _ _ rfl rfl)

end Router

end HttpService
