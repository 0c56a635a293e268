import HttpService.Proofs.Answers
import HttpService.Server.Intake
/-! # What is on record of a request

Logger reports that a request begins before it calls inwards; that it is completed is reported, and
that it was there is counted, on the way out. A chain that is cut off has no way out. So a request
that the server answers with its own 503 is reported as begun, but neither reported as completed nor
counted, other than one that ends with a response, a failure or a panic: `Intake.answer_recorded`. -/
set_option autoImplicit false

namespace HttpService

/-- What the standard layers leave behind of a request. -/
inductive Mark where
  /-- Metrics has counted it. -/
  | counted
  /-- Logger has reported that it begins. -/
  | started
  /-- Logger has reported that it is completed. -/
  | completed
deriving DecidableEq

namespace Mark

def isEntry (mark : Mark) (line : RequestLine) : LogEntry -> Bool
  | .started other => mark = .started && other = line
  | .completed other _ => mark = .completed && other = line
  | _ => false

def isLeftBy (mark : Mark) (line : RequestLine) : Action -> Bool
  | .count .requests => mark = .counted
  | .log entry => mark.isEntry line entry
  | _ => false

end Mark

namespace World

/-- How often the mark of requests with this line is on record. -/
def marks (world : World) (line : RequestLine) (mark : Mark) : Nat :=
  (if mark = .counted then world.counters.requests else 0) + world.log.countP (mark.isEntry line)

variable (line : RequestLine) (mark : Mark)

theorem marks_addLog (world : World) (entry : LogEntry) :
    (world.addLog entry).marks line mark =
      world.marks line mark + (mark.isEntry line entry).toNat := by
  simp only [marks, addLog, List.countP_append, List.countP_singleton, Nat.add_assoc]
  cases mark.isEntry line entry <;> rfl

theorem marks_respond (world : World) (response : Response) :
    (world.respond response).2.marks line mark = world.marks line mark := by
  simp only [respond]
  split
  · rfl
  · exact marks_addLog line mark world _

theorem marks_perform (world : World) (action : Action) :
    (world.perform action).2.marks line mark =
      world.marks line mark + (mark.isLeftBy line action).toNat := by
  cases action with
  | respond response => exact marks_respond line mark world response
  | log entry => exact marks_addLog line mark world entry
  | count counter =>
      cases counter with
      | requests =>
          simp only [perform, marks, Counters.increment, Mark.isLeftBy]
          by_cases counted : mark = .counted
          · simp only [counted, if_true, decide_true, Bool.toNat_true]
            omega
          · simp only [counted, if_false, decide_false, Bool.toNat_false]
            rfl
      | errors => rfl
      | panics => rfl
  | sampleTasks =>
      simp only [perform, Counters.sample]
      split <;> rfl
  | _ => rfl

theorem marks_run (limit : Option Nat) (task : Task Empty) (world : World) :
    (task.run limit world).2.marks line mark =
      world.marks line mark + (task.trace limit world).countP (mark.isLeftBy line) := by
  induction task generalizing world with
  | done ending => rfl
  | act action rest ih =>
      have performed := marks_perform line mark world action
      by_cases inTime : (world.perform action).2.InTime limit
      · rw [Task.run_act limit action rest world inTime, ih, performed]
        simp only [World.InTime] at inTime
        cases left : mark.isLeftBy line action <;> simp [Task.trace, inTime, left]; omega
      · rw [Task.run_act_late limit action rest world inTime, performed]
        simp only [World.InTime, Bool.not_eq_false] at inTime
        cases left : mark.isLeftBy line action <;> simp [Task.trace, inTime, left]
  | call argument _ => exact argument.elim
  | stall => rfl

end World

/-! ## The standard layers -/

namespace Layer

variable (line : RequestLine) (mark : Mark)

theorem marks_countRequest (world : World) :
    (countRequest world).marks line mark =
      world.marks line mark + (decide (mark = .counted)).toNat := by
  have counted := World.marks_perform line mark world (.count .requests)
  simp only [countRequest]
  split
  · have sampled := World.marks_perform line mark (world.perform (.count .requests)).2 .sampleTasks
    exact sampled.trans counted
  · exact counted

theorem marks_loggerEntry (world : World) :
    (loggerEntry line world).marks line mark =
      world.marks line mark + (decide (mark = .started)).toNat := by
  have entered := World.marks_addLog line mark
    { world with exchange := world.exchange.markStarted world.elapsed } (.started line)
  simp only [Mark.isEntry, decide_true, Bool.and_true] at entered
  exact entered

/-- On the way out a request is counted and reported as completed, however it ended. -/
theorem marks_standardExit (ending : Ending) (world : World) :
    (standardExit line ending world).2.marks line mark =
      world.marks line mark + (decide (mark = .counted)).toNat +
        (decide (mark = .completed)).toNat := by
  have completed (state : World) :
      (state.addLog (.completed line state.exchange.status)).marks line mark =
        state.marks line mark + (decide (mark = .completed)).toNat := by
    rw [World.marks_addLog]
    simp only [Mark.isEntry, decide_true, Bool.and_true]
  have failed (state : World) (failure : Failure) :
      (((countFailure (countRequest state)).addLog (.failed failure)).respond
        failure.response).2.marks line mark =
          state.marks line mark + (decide (mark = .counted)).toNat := by
    rw [World.marks_respond, World.marks_addLog]
    exact marks_countRequest line mark state
  rcases ending with ⟨failure | done⟩ | payload
  · exact (completed _).trans (congrArg (· + _) (failed world failure))
  · exact (completed _).trans (congrArg (· + _) (marks_countRequest line mark world))
  · exact (completed _).trans (congrArg (· + _) (failed (countPanic world) _))

end Layer

def Ending.handedOn (ending : Ending) : Outcome :=
  match ending.recovered with
  | .ok () => .ok ()
  | .error failure => Layer.remaining failure

namespace Router

variable (line : RequestLine) (mark : Mark)

theorem marks_deliver (world : World) :
    (deliver world).2.marks line mark = world.marks line mark := by
  simp only [deliver]
  split
  · rfl
  · exact World.marks_addLog line mark _ .unanswered

theorem marks_signal (world : World) (signal : Signal) :
    (world.signal signal).2.marks line mark = world.marks line mark := by
  simp only [World.signal, World.marks, List.countP_append]
  cases (world.channel.send signal).1 <;> rfl

theorem marks_settleFailure (failure : Failure) (world : World) :
    (settleFailure failure world).marks line mark = world.marks line mark := by
  simp only [settleFailure]
  split
  · split
    · exact World.marks_addLog line mark world _
    · rw [marks_signal]
      exact World.marks_addLog line mark world _
  · exact World.marks_addLog line mark world _

theorem marks_settle (outcome : Outcome) (world : World) :
    (settle outcome world).2.marks line mark = world.marks line mark := by
  cases outcome with
  | ok done => exact marks_deliver line mark world
  | error failure =>
      simp only [settle]
      rw [marks_deliver, marks_settleFailure]

theorem marks_entered (request : Request) (world : World) :
    (entered request world).marks request.line mark =
      world.marks request.line mark + (decide (mark = .started)).toNat :=
  Layer.marks_loggerEntry request.line mark (received world)

variable {routes : List Route} {router : Router} {route : Route}
  {params : List (String × String)} {limit : Option Nat} {request : Request} {world after : World}

/-- A chain that comes to its end leaves through the standard layers. -/
theorem dispatch_ended (built : ofRoutes Layer.standard routes = .ok router)
    (found : Route.match? routes request = some (route, params)) {ending : Ending}
    (ran : (route.inside ⟨none, { request with params }⟩).run limit (entered request world) =
      (.ended ending, after)) :
    router.dispatch limit request world =
      (.response (settle ending.handedOn (Layer.standardExit request.line ending after).2).1,
        (settle ending.handedOn (Layer.standardExit request.line ending after).2).2) := by
  rw [dispatch_standard built limit request world, found]
  simp only [ran, Ending.handedOn]
  cases ending.recovered with
  | ok done => rfl
  | error failure => rfl

theorem dispatch_cutOff (built : ofRoutes Layer.standard routes = .ok router)
    (found : Route.match? routes request = some (route, params))
    (ran : (route.inside ⟨none, { request with params }⟩).run limit (entered request world) =
      (.cutOff, after)) : router.dispatch limit request world = (.cutOff, after) := by
  rw [dispatch_standard built limit request world, found]
  simp only [ran]

end Router

/-! ## The server -/

namespace Intake

def received (peer : SocketAddress) (head : Request) (body : Bytes) : Request :=
  { head with body, remote := some peer }

def line (peer : SocketAddress) (head : Request) : RequestLine := (received peer head []).line

variable {limits : Limits} {routes : List Route} {router : Router} {peer : SocketAddress}
  {head : Request} {arrivals : List Arrival} {world after : World}

/-- What becomes of a request at the server: the answer, and how often each mark is added. Besides
what is done inside the standard layers, these add one of each mark when the chain comes to its end,
and only the first one when it is cut off. -/
inductive Fate (limits : Limits) (routes : List Route) (peer : SocketAddress) (head : Request)
    (arrivals : List Arrival) (world : World) : Answer -> (Mark -> Nat) -> Prop where
  | refused {refusal : Refusal} (untaken : collect limits [] arrivals = .error refusal) :
      Fate limits routes peer head arrivals world (.response (.bare refusal.status)) fun _ => 0
  | unmatched {body : Bytes} (taken : collect limits [] arrivals = .ok body)
      (absent : Route.match? routes (received peer head body) = none) :
      Fate limits routes peer head arrivals world (.response (.bare .notFound)) fun _ => 0
  | finished {body : Bytes} {route : Route} {params : List (String × String)} {inside : Task Empty}
      {start after : World} {ending : Ending} (taken : collect limits [] arrivals = .ok body)
      (found : Route.match? routes (received peer head body) = some (route, params))
      (within : inside = route.inside ⟨none, { received peer head body with params }⟩)
      (begins : start = Router.entered (received peer head body) world)
      (ran : inside.run (some limits.write) start = (.ended ending, after)) :
      Fate limits routes peer head arrivals world
        (.response ((inside.offers (some limits.write) start).head?.getD ending.answer))
        fun mark => (inside.trace (some limits.write) start).countP
          (mark.isLeftBy (line peer head)) + 1
  | cutOff {body : Bytes} {route : Route} {params : List (String × String)} {inside : Task Empty}
      {start after : World} (taken : collect limits [] arrivals = .ok body)
      (found : Route.match? routes (received peer head body) = some (route, params))
      (within : inside = route.inside ⟨none, { received peer head body with params }⟩)
      (begins : start = Router.entered (received peer head body) world)
      (ran : inside.run (some limits.write) start = (.cutOff, after)) :
      Fate limits routes peer head arrivals world (.response unavailable)
        fun mark => (inside.trace (some limits.write) start).countP
          (mark.isLeftBy (line peer head)) + if mark = .started then 1 else 0

/-- A body that is taken is dispatched with its head. -/
theorem answer_taken {body : Bytes} (taken : collect limits [] arrivals = .ok body) :
    answer limits router peer head arrivals world =
      match router.dispatch (some limits.write) (received peer head body) world with
      | (.response response, after) => (.response response, after)
      | (.panicked payload, after) => (.panicked payload, after)
      | (.cutOff, after) => (.response unavailable, after.addLog (.answerLate peer limits.write)) := by
  simp only [answer, taken]
  rfl

section Matched

variable {body : Bytes} {route : Route} {params : List (String × String)} {inside : Task Empty}
  {start : World} (built : Router.ofRoutes Layer.standard routes = .ok router)
  (taken : collect limits [] arrivals = .ok body)
  (found : Route.match? routes (received peer head body) = some (route, params))
  (within : inside = route.inside ⟨none, { received peer head body with params }⟩)
  (begins : start = Router.entered (received peer head body) world)

include begins in
/-- What is on record when the run inside the standard layers is over. -/
theorem marks_inside {stop : Stop} (ran : inside.run (some limits.write) start = (stop, after))
    (mark : Mark) :
    after.marks (line peer head) mark =
      world.marks (line peer head) mark + (decide (mark = .started)).toNat +
        (inside.trace (some limits.write) start).countP (mark.isLeftBy (line peer head)) := by
  have marked := World.marks_run (line peer head) mark (some limits.write) inside start
  have entered : start.marks (line peer head) mark = _ :=
    begins ▸ Router.marks_entered mark (received peer head body) world
  rw [ran, entered] at marked
  exact marked

include built taken found within begins in
theorem answer_ended {ending : Ending}
    (ran : inside.run (some limits.write) start = (.ended ending, after)) :
    answer limits router peer head arrivals world =
      (.response ((inside.offers (some limits.write) start).head?.getD ending.answer),
        (Router.settle ending.handedOn
          (Layer.standardExit (line peer head) ending after).2).2) := by
  subst within begins
  have held := Task.response_run (some limits.write)
    (route.inside ⟨none, { received peer head body with params }⟩)
    (Router.entered (received peer head body) world)
  rw [ran] at held
  have left := Layer.standardExit_response (line peer head) ending after
  rw [held] at left
  rw [answer_taken taken, Router.dispatch_ended built found ran]
  refine Prod.ext (congrArg Answer.response ?_) rfl
  rw [← Router.getD_written? ending]
  exact (Router.settle_response _ _).trans (congrArg (Option.getD · Router.fallback) left)

include built taken found within begins in
theorem answer_cutOff (ran : inside.run (some limits.write) start = (.cutOff, after)) :
    answer limits router peer head arrivals world =
      (.response unavailable, after.addLog (.answerLate peer limits.write)) := by
  subst within begins
  rw [answer_taken taken, Router.dispatch_cutOff built found ran]

end Matched

/-- **What is on record of a request at the server.** A request whose body is not taken, or that
matches no route, leaves no mark. One whose chain comes to its end, with a response, a failure or a
panic, is reported as begun, counted, and reported as completed, each once. One that is cut off and
answered with the server's own 503 is reported as begun and leaves no other mark. -/
theorem answer_recorded (built : Router.ofRoutes Layer.standard routes = .ok router)
    (limits : Limits) (peer : SocketAddress) (head : Request) (arrivals : List Arrival)
    (world : World) :
    ∃ growth, Fate limits routes peer head arrivals world
        (answer limits router peer head arrivals world).1 growth ∧
      ∀ mark, (answer limits router peer head arrivals world).2.marks (line peer head) mark =
        world.marks (line peer head) mark + growth mark := by
  cases taken : collect limits [] arrivals with
  | error refusal =>
      have refused : answer limits router peer head arrivals world =
          (.response (.bare refusal.status), world.addLog (refusal.entry limits peer)) := by
        simp only [answer, taken]
      rw [refused]
      refine ⟨_, .refused taken, ?_⟩
      intro mark
      rw [World.marks_addLog]
      cases refusal <;> rfl
  | ok body =>
      cases found : Route.match? routes (received peer head body) with
      | none =>
          have dispatched := Router.dispatch_standard built (some limits.write)
            (received peer head body) world
          rw [found] at dispatched
          rw [answer_taken taken, dispatched]
          exact ⟨_, .unmatched taken found, fun _ => rfl⟩
      | some matched =>
          obtain ⟨route, params⟩ := matched
          rcases ran : (route.inside ⟨none, { received peer head body with params }⟩).run
            (some limits.write) (Router.entered (received peer head body) world) with
            ⟨ending | _, after⟩
          · rw [answer_ended built taken found rfl rfl ran]
            refine ⟨_, .finished taken found rfl rfl ran, ?_⟩
            intro mark
            -- One mark is left on the way in and the other two on the way out.
            have inside := marks_inside rfl ran mark
            have left := Layer.marks_standardExit (line peer head) mark ending after
            have once : (decide (mark = .started)).toNat + (decide (mark = .counted)).toNat +
                (decide (mark = .completed)).toNat = 1 := by
              cases mark <;> rfl
            rw [Router.marks_settle]
            omega
          · rw [answer_cutOff built taken found rfl rfl ran]
            refine ⟨_, .cutOff taken found rfl rfl ran, ?_⟩
            intro mark
            have inside := marks_inside rfl ran mark
            have apart : (after.addLog (.answerLate peer limits.write)).marks (line peer head) mark =
                after.marks (line peer head) mark := World.marks_addLog _ mark after _
            have begun : (decide (mark = .started)).toNat = if mark = .started then 1 else 0 := by
              cases mark <;> rfl
            rw [apart, inside, begun, Nat.add_right_comm, Nat.add_assoc]

def slowRoute : Route where
  method := .get
  path := "/slow"
  layers := []
  handler := fun _ => .perform (.pause 2000) (.perform (.respond (.bare .noContent)) .succeed)

def slowHead : Request := .get "/slow"

/-- A tenth of a second is not enough for it. -/
theorem answer_recorded_slow : ∃ router,
    Router.ofRoutes Layer.standard [slowRoute] = .ok router ∧
      let answered := answer { write := 100 } router default slowHead [⟨0, .finish⟩] {}
      answered.1 = .response unavailable ∧
        answered.2.marks (line default slowHead) .started = 1 ∧
        answered.2.marks (line default slowHead) .counted = 0 ∧
        answered.2.marks (line default slowHead) .completed = 0 := by
  obtain ⟨router, built⟩ : ∃ router, Router.ofRoutes Layer.standard [slowRoute] = .ok router :=
    ⟨_, rfl⟩
  obtain ⟨growth, fate, marks⟩ :=
    answer_recorded built { write := 100 } default slowHead [⟨0, .finish⟩] {}
  have body : collect { write := 100 } [] [⟨0, .finish⟩] = .ok [] := rfl
  have matched : Route.match? [slowRoute] (received default slowHead []) = some (slowRoute, []) := rfl
  refine ⟨router, built, ?_⟩
  simp only
  generalize answer { write := 100 } router default slowHead [⟨0, .finish⟩] {} = answered at *
  obtain ⟨given, after⟩ := answered
  simp only at fate marks ⊢
  cases fate with
  | refused untaken =>
      rw [body] at untaken
      cases untaken
  | unmatched taken absent =>
      rw [body] at taken
      cases taken
      rw [matched] at absent
      cases absent
  | finished taken found within begins ran =>
      rw [body] at taken
      cases taken
      rw [matched] at found
      cases found
      subst within begins
      cases ran
  | cutOff taken found within begins ran =>
      rw [body] at taken
      cases taken
      rw [matched] at found
      cases found
      subst within begins
      exact ⟨rfl, marks .started, marks .counted, marks .completed⟩

end Intake

end HttpService
