import HttpService.Proofs.Answers
import HttpService.Proofs.Indifference
/-! # When a shutdown is called for

`Ending.CallsFor` says which endings of a chain call for a signal, and `Cause.Reaches` is the walk
along the causes behind a cause that decides it. `World.Sends` relates the states before and after
some signals were sent: nothing that runs in a chain sends any, and a dispatch sends the one that
the ending calls for. `serve_escalates` follows this through a run of requests. -/
set_option autoImplicit false

namespace HttpService

namespace Cause

inductive Reaches : Cause -> Cause -> Prop where
  | here (cause : Cause) : Reaches cause cause
  | behind {cause source link : Cause} (next : cause.source? = some source)
      (rest : Reaches source link) : Reaches cause link

theorem sizeOf_source? {cause source : Cause} (next : cause.source? = some source) :
    sizeOf source < sizeOf cause := by
  induction cause with
  | because message behind _ =>
      simp only [source?, Option.some.injEq] at next
      subst next
      simp only [because.sizeOf_spec]
      omega
  | ioCarrying kind carried ih =>
      have smaller := ih next
      simp only [ioCarrying.sizeOf_spec]
      omega
  | _ => simp [source?] at next

theorem reaches_of_mem_chain {cause link : Cause} (listed : link ∈ cause.chain) :
    cause.Reaches link := by
  rw [chain, sources_eq_source?] at listed
  cases next : cause.source? with
  | none =>
      simp only [next, List.mem_singleton] at listed
      subst listed
      exact .here link
  | some source =>
      simp only [next, List.mem_cons] at listed
      cases listed with
      | inl same =>
          subst same
          exact .here link
      | inr later =>
          have smaller := sizeOf_source? next
          exact .behind next (reaches_of_mem_chain later)
termination_by sizeOf cause

theorem mem_chain_of_reaches {cause link : Cause} (reached : cause.Reaches link) :
    link ∈ cause.chain := by
  induction reached with
  | here cause => exact List.mem_cons_self
  | behind next _ ih =>
      rw [chain, sources_eq_source?, next]
      exact List.mem_cons_of_mem _ ih

theorem losesConnection_iff (cause : Cause) :
    cause.losesConnection = true ↔
      ∃ link, cause.Reaches link ∧
        (link.kind? = some .brokenPipe ∨ link.kind? = some .connectionReset) := by
  have shown (link : Cause) : link.kind?.any IoKind.losesConnection = true ↔
      link.kind? = some .brokenPipe ∨ link.kind? = some .connectionReset := by
    cases link.kind? with
    | none => simp
    | some kind => cases kind <;> simp [IoKind.losesConnection]
  simp only [losesConnection, List.any_eq_true, shown]
  constructor
  · rintro ⟨link, listed, lost⟩
    exact ⟨link, reaches_of_mem_chain listed, lost⟩
  · rintro ⟨link, reached, lost⟩
    exact ⟨link, mem_chain_of_reaches reached, lost⟩

/-- Neither a broken pipe nor a reset connection is met on the way. -/
def Connected (source : Option Cause) : Prop :=
  ∀ cause link, source = some cause -> cause.Reaches link ->
    link.kind? ≠ some .brokenPipe ∧ link.kind? ≠ some .connectionReset

end Cause

theorem Failure.losesConnection_shutdown (message : String) (source : Option Cause) :
    (shutdown message source).losesConnection = false ↔ Cause.Connected source := by
  cases source with
  | none => simp [losesConnection, Cause.Connected]
  | some cause =>
      have walk := not_congr cause.losesConnection_iff
      simp only [Bool.not_eq_true, not_exists, not_and, not_or] at walk
      simp only [losesConnection, walk, Cause.Connected, Option.some.injEq]
      constructor
      · rintro held _ link rfl reached
        exact held link reached
      · intro held link reached
        exact held cause link rfl reached

namespace Ending

/-- The ending of a chain calls for a signal: it is a failure that asks for a shutdown and was not
caused by the peer dropping the connection. The signal carries the failure's text. -/
inductive CallsFor : Ending -> Signal -> Prop where
  | integrity (message : String) (source : Option Cause) (connected : Cause.Connected source) :
      CallsFor (.returned (.error (.shutdown message source))) (.integrity message)

def signal? : Ending -> Option Signal
  | .returned (.error failure) =>
      if failure.isShutdown && !failure.losesConnection then some (.integrity failure.display)
      else none
  | _ => none

theorem signal?_eq_some (ending : Ending) (signal : Signal) :
    ending.signal? = some signal ↔ ending.CallsFor signal := by
  constructor
  · intro called
    rcases ending with ⟨failure | done⟩ | payload
    · cases failure with
      | shutdown message source =>
          simp only [signal?, Failure.isShutdown, Failure.display, Bool.true_and,
            Bool.not_eq_true', Option.ite_none_right_eq_some, Option.some.injEq] at called
          obtain ⟨stays, same⟩ := called
          subst same
          exact .integrity message source
            ((Failure.losesConnection_shutdown message source).mp stays)
      | _ => simp [signal?, Failure.isShutdown] at called
    · simp [signal?] at called
    · simp [signal?] at called
  · intro calls
    cases calls with
    | integrity message source connected =>
        have stays := (Failure.losesConnection_shutdown message source).mpr connected
        simp [signal?, Failure.isShutdown, Failure.display, stays]

end Ending

theorem Channel.pending_foldl_send (signals : List Signal) (channel : Channel)
    (listening : channel.listening = true) :
    (signals.foldl (fun channel signal => (channel.send signal).2) channel).pending =
      channel.pending.or signals.head? := by
  induction signals generalizing channel with
  | nil => simp
  | cons signal rest ih =>
      simp only [List.foldl_cons, List.head?_cons]
      cases held : channel.pending with
      | some first =>
          have full : (channel.send signal).2 = channel := by simp [send, listening, held]
          rw [full, ih channel listening, held]
          rfl
      | none =>
          have taken : (channel.send signal).2 = { channel with pending := some signal } := by
            simp [send, listening, held]
          rw [taken, ih { channel with pending := some signal } listening]
          rfl

namespace World

/-- The second state is reached from the first by sending these signals, in order. -/
structure Sends (before : World) (signals : List Signal) (after : World) : Prop where
  recorded : after.sent = before.sent ++ signals
  delivered : after.channel =
    signals.foldl (fun channel signal => (channel.send signal).2) before.channel

theorem Sends.of_same {before after : World} (recorded : after.sent = before.sent)
    (delivered : after.channel = before.channel) : before.Sends [] after := by
  refine ⟨?_, delivered⟩
  rw [recorded, List.append_nil]

theorem Sends.append {before between after : World} {first second : List Signal}
    (firstly : before.Sends first between) (secondly : between.Sends second after) :
    before.Sends (first ++ second) after := by
  constructor
  · rw [secondly.recorded, firstly.recorded, List.append_assoc]
  · rw [secondly.delivered, firstly.delivered, List.foldl_append]

theorem sends_addLog (world : World) (entry : LogEntry) :
    world.Sends [] (world.addLog entry) := .of_same rfl rfl

theorem sends_signal (world : World) (signal : Signal) :
    world.Sends [signal] (world.signal signal).2 := ⟨rfl, rfl⟩

theorem sends_perform (world : World) (action : Action) :
    world.Sends [] (world.perform action).2 := by
  cases action with
  | respond response =>
      simp only [perform, respond]
      split <;> exact .of_same rfl rfl
  | _ => exact .of_same rfl rfl

end World

theorem Task.sends_run (limit : Option Nat) (task : Task Empty) (world : World) :
    world.Sends [] (task.run limit world).2 := by
  induction task generalizing world with
  | done ending => exact .of_same rfl rfl
  | act action rest ih =>
      have performed := world.sends_perform action
      by_cases inTime : (world.perform action).2.InTime limit
      · rw [run_act limit action rest world inTime]
        exact performed.append (ih _ _)
      · rw [run_act_late limit action rest world inTime]
        exact performed
  | call argument _ => exact argument.elim
  | stall => exact .of_same rfl rfl

namespace Layer

theorem sends_countRequest (world : World) : world.Sends [] (countRequest world) := by
  simp only [countRequest]
  split <;> exact .of_same rfl rfl

theorem sends_metricsExit (ending : Ending) (world : World) :
    world.Sends [] (metricsExit ending world).2 := by
  rcases ending with ⟨failure | done⟩ | payload
  · exact (sends_countRequest world).append (.of_same rfl rfl)
  · exact sends_countRequest world
  · exact .of_same rfl rfl

theorem sends_errorsExit (ending : Ending) (world : World) :
    world.Sends [] (errorsExit ending world).2 := by
  rcases ending with ⟨failure | done⟩ | payload
  · exact (world.sends_addLog (.failed failure)).append
      (World.sends_perform _ (.respond failure.response))
  · exact .of_same rfl rfl
  · exact .of_same rfl rfl

theorem sends_standardExit (line : RequestLine) (ending : Ending) (world : World) :
    world.Sends [] (standardExit line ending world).2 := by
  have recovered : world.Sends [] (panicsExit ending world).2 := by
    cases ending <;> exact .of_same rfl rfl
  have counted := recovered.append (sends_metricsExit (panicsExit ending world).1 _)
  have answered := counted.append (sends_errorsExit
    (metricsExit (panicsExit ending world).1 (panicsExit ending world).2).1 _)
  have logged (last : Ending) (state : World) :
      state.Sends [] (loggerExit line last state).2 := by
    cases last <;> exact .of_same rfl rfl
  exact answered.append (logged _ _)

end Layer

namespace Router

theorem sends_deliver (world : World) : world.Sends [] (deliver world).2 := by
  simp only [deliver]
  split <;> exact .of_same rfl rfl

/-- What is left of a failure sends the signal that the failure calls for. -/
theorem sends_settle_remaining (failure : Failure) (world : World) :
    world.Sends (Ending.returned (.error failure)).signal?.toList
      (settle (Layer.remaining failure) world).2 := by
  simp only [Layer.remaining, Ending.signal?]
  cases asks : failure.isShutdown with
  | false => exact sends_deliver world
  | true =>
      simp only [if_true, settle, settleFailure, asks, Bool.true_and]
      cases lost : failure.losesConnection with
      | true => exact (world.sends_addLog (.connectionLost failure)).append (sends_deliver _)
      | false =>
          have logged := world.sends_addLog (.integrityLost failure)
          have signalled := logged.append (World.sends_signal _ (.integrity failure.display))
          exact signalled.append (sends_deliver _)

def signal? (routes : List Route) (limit : Option Nat) (request : Request) (world : World) :
    Option Signal :=
  match Route.match? routes request with
  | none => none
  | some (route, params) =>
      match ((route.inside ⟨none, { request with params }⟩).run limit (entered request world)).1 with
      | .ended ending => ending.signal?
      | .cutOff => none

def CallsFor (routes : List Route) (limit : Option Nat) (request : Request) (world : World)
    (signal : Signal) : Prop :=
  ∃ route params ending after, Route.match? routes request = some (route, params) ∧
    (route.inside ⟨none, { request with params }⟩).run limit (entered request world) =
      (.ended ending, after) ∧ ending.CallsFor signal

theorem signal?_eq_some (routes : List Route) (limit : Option Nat) (request : Request)
    (world : World) (signal : Signal) :
    signal? routes limit request world = some signal ↔
      CallsFor routes limit request world signal := by
  simp only [signal?, CallsFor]
  constructor
  · intro called
    split at called
    next => simp at called
    next route params matched =>
      cases ran : (route.inside ⟨none, { request with params }⟩).run limit
          (entered request world) with
      | mk stop after =>
          rw [ran] at called
          cases stop with
          | cutOff => simp at called
          | ended ending =>
              have calls := (Ending.signal?_eq_some ending signal).mp called
              exact ⟨route, params, ending, after, matched, ran, calls⟩
  · rintro ⟨route, params, ending, after, matched, ran, calls⟩
    rw [matched]
    simp only [ran]
    exact (Ending.signal?_eq_some ending signal).mpr calls

/-- A dispatch sends the signal that is called for, and no other. -/
theorem sends_dispatch {routes : List Route} {router : Router}
    (built : ofRoutes Layer.standard routes = .ok router) (limit : Option Nat)
    (request : Request) (world : World) :
    world.Sends (signal? routes limit request world).toList
      (router.dispatch limit request world).2 := by
  rw [dispatch_standard built limit request world, signal?]
  cases Route.match? routes request with
  | none => exact .of_same rfl rfl
  | some found =>
      obtain ⟨route, params⟩ := found
      have entry : world.Sends [] (entered request world) := .of_same rfl rfl
      have inside := entry.append (Task.sends_run limit
        (route.inside ⟨none, { request with params }⟩) (entered request world))
      simp only
      generalize (route.inside ⟨none, { request with params }⟩).run limit
        (entered request world) = result at inside ⊢
      obtain ⟨stop, after⟩ := result
      cases stop with
      | cutOff => exact inside
      | ended ending =>
          have left := inside.append (Layer.sends_standardExit request.line ending after)
          rcases ending with ⟨failure | done⟩ | payload
          · exact left.append (sends_settle_remaining failure _)
          · exact left.append (sends_deliver _)
          · exact left.append (sends_settle_remaining (Failure.recovered payload.value) _)

def visits (router : Router) (limit : Option Nat) :
    List Request -> World -> List (Request × World)
  | [], _ => []
  | request :: rest, world =>
      (request, world) :: router.visits limit rest (router.dispatch limit request world).2

theorem sends_serve {routes : List Route} {router : Router}
    (built : ofRoutes Layer.standard routes = .ok router) (limit : Option Nat)
    (requests : List Request) (world : World) :
    world.Sends
      ((router.visits limit requests world).filterMap fun visit =>
        signal? routes limit visit.1 visit.2)
      (router.serve limit requests world).2 := by
  induction requests generalizing world with
  | nil => exact .of_same rfl rfl
  | cons request rest ih =>
      have firstly := sends_dispatch built limit request world
      have served := firstly.append (ih (router.dispatch limit request world).2)
      simp only [visits, List.filterMap_cons]
      cases called : signal? routes limit request world with
      | none =>
          rw [called] at served
          exact served
      | some signal =>
          rw [called] at served
          exact served

/-- **Shutdown escalation.** A dispatch sends a signal exactly if what is inside the standard layers
ends in a failure that asks for a shutdown and was not caused by the peer dropping the connection;
it sends no more than this one, with the failure's text. After a run of requests the first of these
signals is pending, if nothing was pending before and somebody listens; and no reply depends on the
channel. -/
theorem serve_escalates (routes : List Route) (router : Router)
    (built : ofRoutes Layer.standard routes = .ok router) (limit : Option Nat)
    (requests : List Request) (world : World) :
    (∀ request state, (router.dispatch limit request state).2.sent =
      state.sent ++ (signal? routes limit request state).toList) ∧
    (∀ request state signal, signal? routes limit request state = some signal ↔
      CallsFor routes limit request state signal) ∧
    (world.channel.listening = true -> world.channel.pending = none ->
      (router.serve limit requests world).2.channel.pending =
        (router.visits limit requests world).findSome? fun visit =>
          signal? routes limit visit.1 visit.2) ∧
    ∀ channel, (router.serve limit requests { world with channel }).1 =
      (router.serve limit requests world).1 := by
  refine ⟨?_, ?_, ?_, ?_⟩
  · intro request state
    exact (sends_dispatch built limit request state).recorded
  · exact signal?_eq_some routes limit
  · intro listening nothing
    rw [(sends_serve built limit requests world).delivered,
      Channel.pending_foldl_send _ _ listening, nothing, List.head?_filterMap]
    rfl
  · intro channel
    exact serve_alike router limit requests rfl

def frailRoutes : List Route :=
  [{ method := .get, path := "/gone", layers := []
     handler := fun _ => .fail (.shutdown "gone" (some (.because "send" (.io .brokenPipe)))) },
    { method := .get, path := "/broken", layers := []
      handler := fun _ => .fail (.shutdown "broken" none) }]

def frailRequests : List Request :=
  ["/gone", "/broken", "/gone", "/broken"].map .get

theorem serve_escalates_frail : ∃ router,
    ofRoutes Layer.standard frailRoutes = .ok router ∧
      (router.serve none frailRequests {}).2.channel.pending = some (.integrity "broken") :=
  ⟨_, rfl, ((serve_escalates frailRoutes _ rfl none frailRequests {}).2.2.1 rfl rfl).trans rfl⟩

end Router

end HttpService
