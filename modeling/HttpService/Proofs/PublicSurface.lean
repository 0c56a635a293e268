import HttpService.Proofs.Escalation
import HttpService.Proofs.LiteralRoutes
import HttpService.Proofs.TrafficRuns
import HttpService.Service
/-! # What the service answers to whom

The two routers of the program answer five requests and no other. `Surface` lists them, with what a
run of requests to both leaves as it was: nobody can make the service signal a shutdown or panic from
outside, and asking for the counters does not change them. -/
set_option autoImplicit false

namespace HttpService

/-! ## Answering -/

def alive : Response := .jsonBytes .ok (Bytes.ofText "\x7b\"status\":\"ok\"\x7d")

def readyToServe : Response := .jsonBytes .ok (Bytes.ofText "\x7b\"status\":\"ready\"\x7d")

def unauthorized : Response :=
  .jsonBytes .unauthorized (Bytes.ofText "\x7b\"error\":\"Unauthorized\"\x7d")

theorem Failure.response_auth (message : String) : (Failure.auth message).response = unauthorized := by
  change Response.json .unauthorized (.object [("error", .text "Unauthorized")]) = unauthorized
  decide +kernel

namespace Task

theorem run_answer (limit : Option Nat) (response : Response) (world : World)
    (inTime : world.InTime limit) :
    (perform (.respond response) succeed : Task Empty).run limit world =
      (.ended (.returned (.ok ())), (world.respond response).2) :=
  run_act_quick limit (.respond response) _ world inTime (by simp)

end Task

namespace Handler

variable (limit : Option Nat) (passage : Passage) (world : World)

theorem run_liveness (inTime : world.InTime limit) :
    (liveness passage).run limit world =
      (.ended (.returned (.ok ())), (world.respond alive).2) := by
  have same : Response.json .ok (statusBody "ok") = alive := by decide +kernel
  rw [← same]
  exact Task.run_answer limit _ world inTime

theorem run_readiness (inTime : world.InTime limit) :
    (readiness passage).run limit world =
      (.ended (.returned (.ok ())), (world.respond readyToServe).2) := by
  have same : Response.json .ok (statusBody "ready") = readyToServe := by decide +kernel
  rw [← same]
  exact Task.run_answer limit _ world inTime

theorem run_counters (inTime : world.InTime limit) :
    (counters passage).run limit world =
      (.ended (.returned (.ok ())),
        (world.respond (.json .ok world.counters.toJson)).2) :=
  (Task.run_act_quick limit .readCounters _ world inTime (by simp)).trans
    (Task.run_answer limit _ world inTime)

end Handler

namespace Layer

theorem run_authenticate (limit : Option Nat) (verifier : Verifier) (inner : Handler)
    (passage : Passage) (world : World) (inTime : world.InTime limit) :
    ((authenticate verifier).wrap inner passage).run limit world =
      match verifier.authenticate world.now ((passage.request.header authorizationHeader).getD "") with
      | .error fault =>
          (.ended (.returned (.error (.auth ("authenticate: failed: " ++ fault.message)))), world)
      | .ok claims => (inner { passage with claims := some claims }).run limit world := by
  simp only [wrap, authenticate]
  rw [Task.run_plug_act limit inner .readClock _ world inTime (by simp)]
  simp only [World.perform]
  cases verifier.authenticate world.now ((passage.request.header authorizationHeader).getD "") with
  | error fault => rfl
  | ok claims => exact Task.run_proceed limit inner _ world

theorem run_authorize (limit : Option Nat) (rule : Rule) (inner : Handler) (claims : Claims)
    (request : Request) (world : World) :
    ((authorize rule).wrap inner ⟨some claims, request⟩).run limit world =
      if rule.allows claims none then (inner ⟨some claims, request⟩).run limit world
      else (.ended (.returned (.error (.auth
        ("authorize: rule[" ++ rule.name ++ "]: " ++ rule.refusal claims)))), world) := by
  simp only [wrap, authorize, Rule.authorize]
  cases rule.allows claims none with
  | true => exact Task.run_proceed limit inner _ world
  | false => rfl

end Layer

namespace World

/-- Nothing was signalled and no panic was counted. -/
structure Calm (before after : World) : Prop where
  sent : after.sent = before.sent
  channel : after.channel = before.channel
  panics : after.counters.panics = before.counters.panics

theorem Calm.refl (world : World) : world.Calm world := ⟨rfl, rfl, rfl⟩

theorem Calm.trans {before between after : World} (first : before.Calm between)
    (second : between.Calm after) : before.Calm after :=
  ⟨second.sent.trans first.sent, second.channel.trans first.channel,
    second.panics.trans first.panics⟩

end World

namespace Layer

theorem standardExit_panics (line : RequestLine) (outcome : Outcome) (world : World) :
    (standardExit line (.returned outcome) world).2.counters.panics = world.counters.panics := by
  have counted (state : World) : (countRequest state).counters.panics = state.counters.panics := by
    simp only [countRequest]
    split
    · simp only [Counters.sample]
      split <;> rfl
    · rfl
  have answered (failure : Failure) (state : World) :
      ((state.addLog (.failed failure)).respond failure.response).2.counters = state.counters := by
    simp only [World.respond]
    split <;> rfl
  cases outcome with
  | ok done => exact counted world
  | error failure =>
      have both := congrArg Counters.panics (answered failure (countFailure (countRequest world)))
      exact both.trans (counted world)

end Layer

namespace Router

variable {routes : List Route} {router : Router} {route : Route}
  {params : List (String × String)} {limit : Option Nat} {request : Request} {world after : World}

/-- A standard route whose inside has answered well. -/
theorem dispatch_answered (built : ofRoutes Layer.standard routes = .ok router)
    (matched : Route.match? routes request = some (route, params)) (response : Response)
    (ran : (route.inside ⟨none, { request with params }⟩).run limit (entered request world) =
      (.ended (.returned (.ok ())), ((entered request world).respond response).2)) :
    (router.dispatch limit request world).1 = .response response := by
  have held := Layer.standardExit_response request.line (.returned (.ok ()))
    ((entered request world).respond response).2
  rw [dispatch_standard built limit request world, matched]
  simp only [ran, Ending.recovered, deliver_response, held]
  rfl

theorem dispatch_refused (built : ofRoutes Layer.standard routes = .ok router)
    (matched : Route.match? routes request = some (route, params)) (message : String)
    (ran : (route.inside ⟨none, { request with params }⟩).run limit (entered request world) =
      (.ended (.returned (.error (.auth message))), entered request world)) :
    (router.dispatch limit request world).1 = .response unauthorized := by
  have held := Layer.standardExit_response request.line (.returned (.error (.auth message)))
    (entered request world)
  rw [dispatch_standard built limit request world, matched]
  simp only [ran, Ending.recovered, settle_response, held]
  exact congrArg Reply.response (Failure.response_auth message)

theorem dispatch_calm (built : ofRoutes Layer.standard routes = .ok router)
    (matched : Route.match? routes request = some (route, params)) {outcome : Outcome}
    (ran : (route.inside ⟨none, { request with params }⟩).run limit (entered request world) =
      (.ended (.returned outcome), after))
    (mild : (Ending.returned outcome).signal? = none)
    (panics : after.counters.panics = world.counters.panics) :
    world.Calm (router.dispatch limit request world).2 := by
  have sends := sends_dispatch built limit request world
  have silent : signal? routes limit request world = none := by
    simp only [signal?, matched, ran, mild]
  rw [silent] at sends
  refine ⟨sends.recorded.trans (List.append_nil _), sends.delivered, ?_⟩
  have left := (Layer.standardExit_panics request.line outcome after).trans panics
  rw [dispatch_standard built limit request world, matched]
  simp only [ran]
  cases outcome with
  | ok done => exact (congrArg Counters.panics (settle_counters (.ok ()) _)).trans left
  | error failure =>
      exact (congrArg Counters.panics (settle_counters (Layer.remaining failure) _)).trans left

theorem dispatch_watched (built : ofRoutes [Layer.logger, Layer.errors] routes = .ok router)
    (matched : Route.match? routes request = some (route, params)) (response : Response)
    (ran : (route.inside ⟨none, { request with params }⟩).run limit (entered request world) =
      (.ended (.returned (.ok ())), ((entered request world).respond response).2)) :
    ∃ after, router.dispatch limit request world = (.response response, after) ∧
      world.Calm after ∧ after.counters = world.counters := by
  have fresh := received_inTime limit world
  have entryInTime : (entered request world).InTime limit := fresh
  have whole : (route.whole [Layer.logger, Layer.errors] ⟨none, { request with params }⟩).run limit
        (received world) =
      Layer.leave (Layer.loggerExit request.line) (Layer.leave Layer.errorsExit
        ((route.inside ⟨none, { request with params }⟩).run limit (entered request world))) := by
    simp only [Route.whole, compose, List.foldr_cons, List.foldr_nil]
    rw [Layer.run_logger limit _ _ _ fresh]
    exact congrArg _ (Layer.run_errors limit route.inside _ _ entryInTime)
  simp only [dispatch, find?_ofRoutes built, matched, Option.map_some, whole, ran]
  exact ⟨_, rfl, ⟨rfl, rfl, rfl⟩, rfl⟩

end Router

namespace Service

/-! ## The two routers -/

def pageRoute : Route := ⟨.get, "/test", [], .liveness⟩

def adminRoute (verifier : Verifier) : Route :=
  ⟨.get, "/test/auth", adminLayers verifier, .liveness⟩

def aliveRoute : Route := ⟨.get, "/healthz", [], .liveness⟩

def readyRoute : Route := ⟨.get, "/readyz", [], .readiness⟩

def countersRoute : Route := ⟨.get, "/debug/metrics", [], .counters⟩

def apiRoutes (verifier : Verifier) : List Route := [pageRoute, adminRoute verifier]

def debugRoutes : List Route := [aliveRoute, readyRoute, countersRoute]

theorem apiRoutes_literal (verifier : Verifier) :
    Route.areLiteral ((apiRoutes verifier).map Route.path) = true := by
  have paths : (apiRoutes verifier).map Route.path = ["/test", "/test/auth"] := rfl
  rw [paths]
  decide +kernel

theorem apiRoutes_get (verifier : Verifier) :
    ∀ route ∈ apiRoutes verifier, route.method = .get := by
  intro route member
  simp only [apiRoutes, List.mem_cons, List.not_mem_nil, or_false] at member
  rcases member with rfl | rfl <;> rfl

theorem debugRoutes_literal : Route.areLiteral (debugRoutes.map Route.path) = true := by
  have paths : debugRoutes.map Route.path = ["/healthz", "/readyz", "/debug/metrics"] := rfl
  rw [paths]
  decide +kernel

theorem debugRoutes_get : ∀ route ∈ debugRoutes, route.method = .get := by
  intro route member
  simp only [debugRoutes, List.mem_cons, List.not_mem_nil, or_false] at member
  rcases member with rfl | rfl | rfl <;> rfl

/-- Adding routes with the path named in the error comes to the same when there is none. -/
theorem foldlM_route {routes : List Route} (gets : ∀ route ∈ routes, route.method = .get)
    {router next : Router}
    (built : routes.foldlM (fun router route =>
      router.add route.method route.path route.layers route.handler) router = .ok next) :
    routes.foldlM (fun router added => route router added.path added.layers added.handler) router =
      .ok next := by
  induction routes generalizing router with
  | nil => exact congrArg _ (Except.ok.inj built)
  | cons added rest hypothesis =>
      obtain ⟨isGet, others⟩ := List.forall_mem_cons.mp gets
      rw [List.foldlM_cons] at built
      obtain ⟨between, stepped, further⟩ := exists_of_bind built
      rw [List.foldlM_cons, route, ← isGet, stepped]
      exact hypothesis others further

theorem apiRouter_built (verifier : Verifier) :
    ∃ api, apiRouter verifier = .ok api ∧
      Router.ofRoutes Layer.standard (apiRoutes verifier) = .ok api := by
  obtain ⟨api, built⟩ := Route.ofRoutes_literal (apiRoutes_literal verifier)
    (apiRoutes_get verifier) Layer.standard
  have routed := foldlM_route (apiRoutes_get verifier) built
  simp only [apiRoutes, List.foldlM_cons, List.foldlM_nil, bind_pure] at routed
  exact ⟨api, routed, built⟩

theorem debugRouter_built :
    ∃ debug, debugRouter = .ok debug ∧
      Router.ofRoutes [.logger, .errors] debugRoutes = .ok debug := by
  obtain ⟨debug, built⟩ := Route.ofRoutes_literal debugRoutes_literal debugRoutes_get
    [.logger, .errors]
  have routed := foldlM_route debugRoutes_get built
  simp only [debugRoutes, List.foldlM_cons, List.foldlM_nil, bind_pure] at routed
  exact ⟨debug, routed, built⟩

section Matching

variable (verifier : Verifier) (request : Request) (route : Route)
  (params : List (String × String))

theorem match?_api :
    Route.match? (apiRoutes verifier) request = some (route, params) ↔
      request.method = .get ∧ route ∈ apiRoutes verifier ∧
        request.uri.path = Bytes.ofText route.path ∧ params = [] :=
  Route.match?_literal (apiRoutes_literal verifier) (apiRoutes_get verifier) request route params

theorem match?_debug :
    Route.match? debugRoutes request = some (route, params) ↔
      request.method = .get ∧ route ∈ debugRoutes ∧
        request.uri.path = Bytes.ofText route.path ∧ params = [] :=
  Route.match?_literal debugRoutes_literal debugRoutes_get request route params

end Matching

section Answers

variable {verifier : Verifier} {api debug : Router} (limit : Option Nat) (request : Request)
  (world : World)

theorem entered_inTime : (Router.entered request world).InTime limit :=
  Router.received_inTime limit world

/-- The verifier accepts the authorization header of the request, and its claims are those of an
administrator. -/
def Admits (verifier : Verifier) (request : Request) (now : Moment) : Prop :=
  ∃ claims, verifier.authenticate now ((request.header "authorization").getD "") = .ok claims ∧
    claims.hasRole "ADMIN" = true

/-- What is inside the standard layers of the administrators' page. -/
theorem run_admin (verifier : Verifier) (passage : Passage) (inTime : world.InTime limit) :
    Admits verifier passage.request world.now ∧
        ((adminRoute verifier).inside passage).run limit world =
          (.ended (.returned (.ok ())), (world.respond alive).2) ∨
      ¬ Admits verifier passage.request world.now ∧
        ∃ message, ((adminRoute verifier).inside passage).run limit world =
          (.ended (.returned (.error (.auth message))), world) := by
  have authenticated := Layer.run_authenticate limit verifier
    ((Layer.authorize .adminOnly).wrap .liveness) passage world inTime
  have header : Layer.authorizationHeader = "authorization" := rfl
  rw [header] at authenticated
  simp only [Admits]
  cases judged : verifier.authenticate world.now
      ((passage.request.header "authorization").getD "") with
  | error fault =>
      rw [judged] at authenticated
      exact .inr ⟨by simp, _, authenticated⟩
  | ok claims =>
      rw [judged] at authenticated
      have authorized := authenticated.trans
        (Layer.run_authorize limit .adminOnly .liveness claims passage.request world)
      cases allowed : claims.hasRole "ADMIN" with
      | true =>
          have passes : Rule.adminOnly.allows claims none = true := allowed
          rw [if_pos passes] at authorized
          exact .inl ⟨⟨claims, rfl, allowed⟩,
            authorized.trans (Handler.run_liveness limit _ world inTime)⟩
      | false =>
          have stays : ¬ Rule.adminOnly.allows claims none = true := by
            rw [Bool.not_eq_true]
            exact allowed
          rw [if_neg stays] at authorized
          refine .inr ⟨?_, _, authorized⟩
          rintro ⟨other, same, holds⟩
          cases same
          rw [allowed] at holds
          cases holds

theorem dispatch_elsewhere {router : Router} (missed : router.find? request = none) :
    router.dispatch limit request world = (.response (.bare .notFound), world) := by
  rw [Router.dispatch, missed]

variable (built : Router.ofRoutes Layer.standard (apiRoutes verifier) = .ok api)

include built in
theorem api_page (asked : request.method = .get) (path : request.uri.path = Bytes.ofText "/test") :
    (api.dispatch limit request world).1 = .response alive ∧
      world.Calm (api.dispatch limit request world).2 := by
  have matched := (match?_api verifier request pageRoute []).mpr
    ⟨asked, List.mem_cons_self, path, rfl⟩
  have ran := Handler.run_liveness limit ⟨none, { request with params := [] }⟩
    (Router.entered request world) (entered_inTime limit request world)
  exact ⟨Router.dispatch_answered built matched alive ran,
    Router.dispatch_calm built matched ran rfl rfl⟩

include built in
theorem api_admin (asked : request.method = .get)
    (path : request.uri.path = Bytes.ofText "/test/auth") :
    (Admits verifier request world.now ->
        (api.dispatch limit request world).1 = .response alive) ∧
      (¬ Admits verifier request world.now ->
        (api.dispatch limit request world).1 = .response unauthorized) ∧
      world.Calm (api.dispatch limit request world).2 := by
  have matched := (match?_api verifier request (adminRoute verifier) []).mpr
    ⟨asked, List.mem_cons_of_mem _ List.mem_cons_self, path, rfl⟩
  rcases run_admin limit (Router.entered request world) verifier
      ⟨none, { request with params := [] }⟩ (entered_inTime limit request world) with
    ⟨admits, ran⟩ | ⟨refuses, message, ran⟩
  · exact ⟨fun _ => Router.dispatch_answered built matched alive ran, fun not => absurd admits not,
      Router.dispatch_calm built matched ran rfl rfl⟩
  · exact ⟨fun admits => absurd admits refuses,
      fun _ => Router.dispatch_refused built matched message ran,
      Router.dispatch_calm built matched ran rfl rfl⟩

include built in
theorem api_elsewhere (other : ¬ (request.method = .get ∧
      (request.uri.path = Bytes.ofText "/test" ∨ request.uri.path = Bytes.ofText "/test/auth"))) :
    api.dispatch limit request world = (.response (.bare .notFound), world) := by
  apply dispatch_elsewhere
  rw [Router.find?_ofRoutes built]
  cases matched : Route.match? (apiRoutes verifier) request with
  | none => rfl
  | some found =>
      obtain ⟨route, params⟩ := found
      obtain ⟨asked, member, path, _⟩ := (match?_api verifier request route params).mp matched
      simp only [apiRoutes, List.mem_cons, List.not_mem_nil, or_false] at member
      rcases member with rfl | rfl
      · exact absurd ⟨asked, .inl path⟩ other
      · exact absurd ⟨asked, .inr path⟩ other

variable (watched : Router.ofRoutes [.logger, .errors] debugRoutes = .ok debug)

include watched in
theorem debug_alive (asked : request.method = .get)
    (path : request.uri.path = Bytes.ofText "/healthz") :
    ∃ after, debug.dispatch limit request world = (.response alive, after) ∧
      world.Calm after ∧ after.counters = world.counters :=
  Router.dispatch_watched watched
    ((match?_debug request aliveRoute []).mpr ⟨asked, List.mem_cons_self, path, rfl⟩) alive
    (Handler.run_liveness limit ⟨none, { request with params := [] }⟩ _
      (entered_inTime limit request world))

include watched in
theorem debug_ready (asked : request.method = .get)
    (path : request.uri.path = Bytes.ofText "/readyz") :
    ∃ after, debug.dispatch limit request world = (.response readyToServe, after) ∧
      world.Calm after ∧ after.counters = world.counters :=
  Router.dispatch_watched watched
    ((match?_debug request readyRoute []).mpr
      ⟨asked, List.mem_cons_of_mem _ List.mem_cons_self, path, rfl⟩) readyToServe
    (Handler.run_readiness limit ⟨none, { request with params := [] }⟩ _
      (entered_inTime limit request world))

include watched in
theorem debug_counters (asked : request.method = .get)
    (path : request.uri.path = Bytes.ofText "/debug/metrics") :
    ∃ after, debug.dispatch limit request world =
        (.response (.json .ok world.counters.toJson), after) ∧
      world.Calm after ∧ after.counters = world.counters :=
  Router.dispatch_watched watched
    ((match?_debug request countersRoute []).mpr
      ⟨asked, List.mem_cons_of_mem _ (List.mem_cons_of_mem _ List.mem_cons_self), path, rfl⟩) _
    (Handler.run_counters limit ⟨none, { request with params := [] }⟩ _
      (entered_inTime limit request world))

include watched in
theorem debug_elsewhere (other : ¬ (request.method = .get ∧
      (request.uri.path = Bytes.ofText "/healthz" ∨ request.uri.path = Bytes.ofText "/readyz" ∨
        request.uri.path = Bytes.ofText "/debug/metrics"))) :
    debug.dispatch limit request world = (.response (.bare .notFound), world) := by
  apply dispatch_elsewhere
  rw [Router.find?_ofRoutes watched]
  cases matched : Route.match? debugRoutes request with
  | none => rfl
  | some found =>
      obtain ⟨route, params⟩ := found
      obtain ⟨asked, member, path, _⟩ := (match?_debug request route params).mp matched
      simp only [debugRoutes, List.mem_cons, List.not_mem_nil, or_false] at member
      rcases member with rfl | rfl | rfl
      · exact absurd ⟨asked, .inl path⟩ other
      · exact absurd ⟨asked, .inr (.inl path)⟩ other
      · exact absurd ⟨asked, .inr (.inr path)⟩ other

include built in
theorem api_calm : world.Calm (api.dispatch limit request world).2 := by
  by_cases known : request.method = .get ∧
      (request.uri.path = Bytes.ofText "/test" ∨ request.uri.path = Bytes.ofText "/test/auth")
  case pos =>
    obtain ⟨asked, path | path⟩ := known
    · exact (api_page limit request world built asked path).2
    · exact (api_admin limit request world built asked path).2.2
  case neg =>
    rw [api_elsewhere limit request world built known]
    exact .refl world

include watched in
theorem debug_calm : world.Calm (debug.dispatch limit request world).2 ∧
    (debug.dispatch limit request world).2.counters = world.counters := by
  have answered {response : Response}
      (answer : ∃ after, debug.dispatch limit request world = (.response response, after) ∧
        world.Calm after ∧ after.counters = world.counters) :
      world.Calm (debug.dispatch limit request world).2 ∧
        (debug.dispatch limit request world).2.counters = world.counters := by
    obtain ⟨after, same, calm, counters⟩ := answer
    rw [same]
    exact ⟨calm, counters⟩
  by_cases known : request.method = .get ∧
      (request.uri.path = Bytes.ofText "/healthz" ∨ request.uri.path = Bytes.ofText "/readyz" ∨
        request.uri.path = Bytes.ofText "/debug/metrics")
  case pos =>
    obtain ⟨asked, path | path | path⟩ := known
    · exact answered (debug_alive limit request world watched asked path)
    · exact answered (debug_ready limit request world watched asked path)
    · exact answered (debug_counters limit request world watched asked path)
  case neg =>
    rw [debug_elsewhere limit request world watched known]
    exact ⟨.refl world, rfl⟩

end Answers

/-! ## Requests to both listeners -/

/-- A request to one of the two listeners, with the limit it has and what the clock and the runtime
show when it comes. -/
structure Visit where
  debug : Bool
  limit : Option Nat
  request : Request
  now : Moment
  liveTasks : Option Nat

def visit (api debug : Router) (world : World) (visit : Visit) : World :=
  ((if visit.debug then debug else api).dispatch visit.limit visit.request
    { world with now := visit.now, liveTasks := visit.liveTasks }).2

section Visits

variable {verifier : Verifier} {api debug : Router}
  (built : Router.ofRoutes Layer.standard (apiRoutes verifier) = .ok api)
  (watched : Router.ofRoutes [.logger, .errors] debugRoutes = .ok debug)

include built watched in
theorem visits_calm (visits : List Visit) (world : World) :
    world.Calm (visits.foldl (visit api debug) world) := by
  induction visits generalizing world with
  | nil => exact .refl world
  | cons next rest hypothesis =>
      have first : world.Calm (visit api debug world next) := by
        rw [visit]
        cases next.debug with
        | true =>
            have calm := (debug_calm next.limit next.request
              { world with now := next.now, liveTasks := next.liveTasks } watched).1
            exact ⟨calm.sent, calm.channel, calm.panics⟩
        | false =>
            have calm := api_calm next.limit next.request
              { world with now := next.now, liveTasks := next.liveTasks } built
            exact ⟨calm.sent, calm.channel, calm.panics⟩
      exact first.trans (hypothesis _)

include watched in
theorem visits_counters (visits : List Visit) (world : World)
    (all : ∀ visit ∈ visits, visit.debug = true) :
    (visits.foldl (visit api debug) world).counters = world.counters := by
  induction visits generalizing world with
  | nil => rfl
  | cons next rest hypothesis =>
      obtain ⟨isDebug, others⟩ := List.forall_mem_cons.mp all
      have first : (visit api debug world next).counters = world.counters := by
        rw [visit, isDebug]
        exact (debug_calm next.limit next.request
          { world with now := next.now, liveTasks := next.liveTasks } watched).2
      exact (hypothesis _ others).trans first

end Visits

/-- What the two routers answer, and what no run of requests to them changes. -/
structure Surface (verifier : Verifier) (api debug : Router) : Prop where
  page : ∀ limit request world, request.method = .get ->
    request.uri.path = Bytes.ofText "/test" ->
      (api.dispatch limit request world).1 = .response alive
  admitted : ∀ limit request world, request.method = .get ->
    request.uri.path = Bytes.ofText "/test/auth" -> Admits verifier request world.now ->
      (api.dispatch limit request world).1 = .response alive
  refused : ∀ limit request world, request.method = .get ->
    request.uri.path = Bytes.ofText "/test/auth" -> ¬ Admits verifier request world.now ->
      (api.dispatch limit request world).1 = .response unauthorized
  elsewhere : ∀ limit request world, ¬ (request.method = .get ∧
      (request.uri.path = Bytes.ofText "/test" ∨ request.uri.path = Bytes.ofText "/test/auth")) ->
    api.dispatch limit request world = (.response (.bare .notFound), world)
  health : ∀ limit request world, request.method = .get ->
    request.uri.path = Bytes.ofText "/healthz" ->
      (debug.dispatch limit request world).1 = .response alive
  ready : ∀ limit request world, request.method = .get ->
    request.uri.path = Bytes.ofText "/readyz" ->
      (debug.dispatch limit request world).1 = .response readyToServe
  counters : ∀ limit request world, request.method = .get ->
    request.uri.path = Bytes.ofText "/debug/metrics" ->
      (debug.dispatch limit request world).1 = .response (.json .ok world.counters.toJson)
  debugElsewhere : ∀ limit request world, ¬ (request.method = .get ∧
      (request.uri.path = Bytes.ofText "/healthz" ∨ request.uri.path = Bytes.ofText "/readyz" ∨
        request.uri.path = Bytes.ofText "/debug/metrics")) ->
    debug.dispatch limit request world = (.response (.bare .notFound), world)
  /-- However requests to both follow each other, none signals a shutdown or counts a panic. -/
  calm : ∀ (visits : List Visit) (world : World),
    world.Calm (visits.foldl (visit api debug) world)
  /-- Requests for the counters, and all others to the same listener, do not change them. -/
  unchanged : ∀ (visits : List Visit) (world : World), (∀ visit ∈ visits, visit.debug = true) ->
    (visits.foldl (visit api debug) world).counters = world.counters

theorem surface_of_built {verifier : Verifier} {api debug : Router}
    (built : Router.ofRoutes Layer.standard (apiRoutes verifier) = .ok api)
    (watched : Router.ofRoutes [.logger, .errors] debugRoutes = .ok debug) :
    Surface verifier api debug where
  page limit request world asked path := (api_page limit request world built asked path).1
  admitted limit request world asked path := (api_admin limit request world built asked path).1
  refused limit request world asked path := (api_admin limit request world built asked path).2.1
  elsewhere limit request world other := api_elsewhere limit request world built other
  health limit request world asked path := by
    obtain ⟨after, same, _⟩ := debug_alive limit request world watched asked path
    rw [same]
  ready limit request world asked path := by
    obtain ⟨after, same, _⟩ := debug_ready limit request world watched asked path
    rw [same]
  counters limit request world asked path := by
    obtain ⟨after, same, _⟩ := debug_counters limit request world watched asked path
    rw [same]
  debugElsewhere limit request world other := debug_elsewhere limit request world watched other
  calm visits world := visits_calm built watched visits world
  unchanged visits world all := visits_counters watched visits world all

/-! ## The program -/

theorem ok_of_mapError {ε δ α : Type} {outcome : Except ε α} {change : ε -> δ} {a : α}
    (passed : outcome.mapError change = .ok a) : outcome = .ok a := by
  cases outcome with
  | error fault => cases passed
  | ok found =>
      cases passed
      rfl

def verifier (settings : AuthSettings) (keys : KeyStore) : Verifier where
  keys
  issuer := some settings.issuer
  leeway := settings.leeway

/-- A service that starts has loaded its keys and built the two routers. -/
theorem start_inversion {workspace : Workspace} {environment : List (String × String)}
    {arguments : Arguments} {service : Service}
    (started : start workspace environment arguments = .ok service) :
    ∃ keys, KeyStore.ofFolder (workspace.list service.settings.auth.keysFolder) = .ok keys ∧
      apiRouter (verifier service.settings.auth keys) = .ok service.api ∧
      debugRouter = .ok service.debug := by
  rw [start] at started
  obtain ⟨settings, _, started⟩ := exists_of_bind started
  obtain ⟨keys, loaded, started⟩ := exists_of_bind started
  obtain ⟨api, apiBuilt, started⟩ := exists_of_bind started
  obtain ⟨debug, debugBuilt, started⟩ := exists_of_bind started
  obtain ⟨debugAddress, _, started⟩ := exists_of_bind started
  obtain ⟨apiAddress, _, started⟩ := exists_of_bind started
  cases started
  exact ⟨keys, ok_of_mapError loaded, apiBuilt, debugBuilt⟩

/-- **The public surface.** Whatever the keys, the issuer and the leeway, both routers can be built
and answer what `Surface` lists, and a service that starts has just these routers. -/
theorem public_surface :
    (∀ verifier, ∃ api debug, apiRouter verifier = .ok api ∧ debugRouter = .ok debug ∧
      Surface verifier api debug) ∧
    ∀ workspace environment arguments service,
      start workspace environment arguments = .ok service ->
        ∃ keys, KeyStore.ofFolder (workspace.list service.settings.auth.keysFolder) = .ok keys ∧
          Surface (verifier service.settings.auth keys) service.api service.debug := by
  have both (verifier : Verifier) : ∃ api debug, apiRouter verifier = .ok api ∧
      debugRouter = .ok debug ∧ Surface verifier api debug := by
    obtain ⟨api, apiBuilt, built⟩ := apiRouter_built verifier
    obtain ⟨debug, debugBuilt, watched⟩ := debugRouter_built
    exact ⟨api, debug, apiBuilt, debugBuilt, surface_of_built built watched⟩
  refine ⟨both, ?_⟩
  intro workspace environment arguments service started
  obtain ⟨keys, loaded, apiBuilt, debugBuilt⟩ := start_inversion started
  obtain ⟨api, debug, sameApi, sameDebug, surface⟩ := both (verifier service.settings.auth keys)
  cases apiBuilt.symm.trans sameApi
  cases debugBuilt.symm.trans sameDebug
  exact ⟨keys, loaded, surface⟩

end Service

end HttpService
