import HttpService.Pipeline.Probe
import HttpService.Proofs.Indifference
import HttpService.Proofs.StandardLayers
/-! # Failures stop at a wall

Errors answers every failure and lets only those through that ask for a shutdown. What it leaves is
`Settled`, and none of the four layers changes a settled answer on the way out. On the way in they
change nothing but the start of the request, which Logger marks, so that `errors_firewall` speaks
of towers with Logger only around a chain that is `Timeless`. -/
set_option autoImplicit false

namespace HttpService

structure SameAnswer (first second : Stop × World) : Prop where
  stop : first.1 = second.1
  response : first.2.exchange.response = second.2.exchange.response
  status : first.2.exchange.status = second.2.exchange.status

namespace SameAnswer

variable {first second third : Stop × World}

theorem refl (result : Stop × World) : SameAnswer result result := ⟨rfl, rfl, rfl⟩

theorem trans (same : SameAnswer first second) (further : SameAnswer second third) :
    SameAnswer first third :=
  ⟨same.stop.trans further.stop, same.response.trans further.response,
    same.status.trans further.status⟩

theorem of_alike (limit : Option Nat) (task : Task Empty) {one other : World}
    (alike : one.Alike other) : SameAnswer (task.run limit one) (task.run limit other) := by
  obtain ⟨stop, afterwards⟩ := task.run_alike limit alike
  exact ⟨stop, by rw [afterwards.exchange], by rw [afterwards.exchange]⟩

end SameAnswer

/-! ## Chains that do not look at the start of the request -/

/-- The task answers the same if the request is marked as started before. -/
def Task.Timeless (task : Task Empty) : Prop :=
  ∀ limit world moment, world.InTime limit -> SameAnswer
    (task.run limit { world with exchange := world.exchange.markStarted moment })
    (task.run limit world)

namespace World

def unmarked (world : World) : World :=
  { world with exchange := { world.exchange with started := none } }

theorem hides_unmarked : Hides unmarked (· ≠ .readStarted) where
  elapsed _ := rfl
  step world action := by
    cases action with
    | respond response =>
        have same : world.unmarked.exchange.response = world.exchange.response := rfl
        simp only [perform, respond, Exchange.respond, same]
        cases world.exchange.response <;> exact ⟨fun _ => rfl, rfl⟩
    | readStarted => exact ⟨fun blind => absurd rfl blind, rfl⟩
    | _ => exact ⟨fun _ => rfl, rfl⟩

end World

namespace Task

/-- A task that never asks whether the request was marked does not depend on it. -/
theorem timeless_of_only {task : Task Empty} (blind : task.Only (· ≠ .readStarted)) :
    task.Timeless := by
  intro limit world moment _
  have marked : ({ world with exchange := world.exchange.markStarted moment } : World).unmarked =
      world.unmarked := rfl
  obtain ⟨stop, afterwards⟩ := World.hides_unmarked.run marked limit blind
  have response := congrArg (fun world : World => world.exchange.response) afterwards
  have status := congrArg (fun world : World => world.exchange.status) afterwards
  exact ⟨stop, response, status⟩

theorem Timeless.entry {task : Task Empty} (timeless : task.Timeless) {limit : Option Nat}
    {world : World} (inTime : world.InTime limit) (line : RequestLine) :
    SameAnswer (task.run limit (Layer.loggerEntry line world)) (task.run limit world) := by
  have logged : (Layer.loggerEntry line world).Alike
      { world with exchange := world.exchange.markStarted world.elapsed } := rfl
  exact (SameAnswer.of_alike limit task logged).trans (timeless limit world world.elapsed inTime)

end Task

/-! ## Settled answers -/

/-- Nothing is left of a failure, unless it asks for a shutdown and is answered. -/
inductive Settled : Stop × World -> Prop where
  | answered (world : World) : Settled (.ended (.returned (.ok ())), world)
  | handedOn {failure : Failure} {world : World} (asks : failure.isShutdown = true)
      (written : world.exchange.response.isSome) :
      Settled (.ended (.returned (.error failure)), world)
  | cutOff (world : World) : Settled (.cutOff, world)

theorem Settled.of_same {first second : Stop × World} (settled : Settled second)
    (same : SameAnswer first second) : Settled first := by
  obtain ⟨stop, world⟩ := first
  obtain ⟨sameStop, sameResponse, _⟩ := same
  cases settled with
  | answered after =>
      cases sameStop
      exact .answered world
  | @handedOn failure after asks written =>
      cases sameStop
      refine .handedOn asks ?_
      rw [sameResponse]
      exact written
  | cutOff after =>
      cases sameStop
      exact .cutOff world

namespace Layer

def Exit.Passes (exit : Exit) : Prop :=
  ∀ outcome world, Settled (.ended (.returned outcome), world) ->
    (exit (.returned outcome) world).1 = .returned outcome ∧
      (exit (.returned outcome) world).2.exchange = world.exchange

theorem Exit.Passes.same {exit : Exit} (passes : exit.Passes) {result : Stop × World}
    (settled : Settled result) : SameAnswer (leave exit result) result := by
  obtain ⟨stop, world⟩ := result
  rcases stop with ⟨outcome | payload⟩ | _
  · obtain ⟨ending, exchange⟩ := passes outcome world settled
    exact ⟨congrArg Stop.ended ending, congrArg Exchange.response exchange,
      congrArg Exchange.status exchange⟩
  · nomatch settled
  · exact .refl _

theorem Exit.Passes.around {exit : Exit} (passes : exit.Passes)
    {inside outside answer : Stop × World} (ran : outside = leave exit inside)
    (same : SameAnswer inside answer) (settled : Settled inside) : SameAnswer outside answer ∧ Settled outside := by
  subst ran
  exact ⟨(passes.same settled).trans same, settled.of_same (passes.same settled)⟩

theorem passes_panicsExit : Exit.Passes panicsExit := fun _ _ _ => ⟨rfl, rfl⟩

theorem passes_loggerExit (line : RequestLine) : Exit.Passes (loggerExit line) :=
  fun _ _ _ => ⟨rfl, rfl⟩

theorem passes_metricsExit : Exit.Passes metricsExit := by
  intro outcome world settled
  refine ⟨?_, metricsExit_exchange _ world⟩
  cases outcome <;> rfl

end Layer

namespace Exchange

variable (exchange : Exchange) (response : Response)

theorem response_respond :
    (exchange.respond response).2.response = some (exchange.response.getD response) := by
  simp only [respond]
  cases held : exchange.response <;> simp [held]

theorem status_respond :
    (exchange.respond response).2.status =
      if exchange.response.isSome then exchange.status else some response.status := by
  simp only [respond]
  cases exchange.response <;> rfl

theorem respond_written (written : exchange.response.isSome) :
    (exchange.respond response).2 = exchange := by
  obtain ⟨held, stored⟩ := Option.isSome_iff_exists.mp written
  simp [respond, stored]

end Exchange

namespace Layer

theorem exchange_errorsExit (failure : Failure) (world : World) :
    (errorsExit (.returned (.error failure)) world).2.exchange =
      (world.exchange.respond failure.response).2 := by
  simp only [errorsExit, World.respond, Exchange.respond, World.addLog]
  cases held : world.exchange.response <;> rfl

/-- A shutdown that is answered is not answered again. -/
theorem passes_errorsExit : Exit.Passes errorsExit := by
  intro outcome world settled
  cases settled with
  | answered => exact ⟨rfl, rfl⟩
  | @handedOn failure _ asks written =>
      constructor
      · simp [errorsExit, remaining, asks]
      · rw [exchange_errorsExit]
        exact world.exchange.respond_written failure.response written

/-- What Errors leaves is settled. -/
theorem settled_errorsExit {result : Stop × World}
    (calm : ∀ payload, result.1 ≠ .ended (.panicked payload)) :
    Settled (leave errorsExit result) := by
  obtain ⟨stop, world⟩ := result
  rcases stop with ⟨(failure | done) | payload⟩ | _
  · have written : (errorsExit (.returned (.error failure)) world).2.exchange.response.isSome := by
      rw [exchange_errorsExit, Exchange.response_respond]
      rfl
    cases asks : failure.isShutdown with
    | true =>
        have handed : (errorsExit (.returned (.error failure)) world).1 =
            .returned (.error failure) := by simp [errorsExit, remaining, asks]
        rw [leave, handed]
        exact .handedOn asks written
    | false =>
        have swallowed : (errorsExit (.returned (.error failure)) world).1 =
            .returned (.ok ()) := by simp [errorsExit, remaining, asks]
        rw [leave, swallowed]
        exact .answered _
  · exact .answered world
  · exact absurd rfl (calm payload)
  · exact .cutOff world

theorem sameAnswer_errorsExit {first second : Stop × World} (same : SameAnswer first second) :
    SameAnswer (leave errorsExit first) (leave errorsExit second) := by
  obtain ⟨stop, one⟩ := first
  obtain ⟨_, other⟩ := second
  obtain ⟨⟨⟩, sameResponse, sameStatus⟩ := same
  rcases stop with ⟨(failure | done) | payload⟩ | _
  · refine ⟨rfl, ?_, ?_⟩
    · simp only [leave, exchange_errorsExit, Exchange.response_respond]
      rw [sameResponse]
    · simp only [leave, exchange_errorsExit, Exchange.status_respond]
      rw [sameResponse, sameStatus]
  all_goals exact ⟨rfl, sameResponse, sameStatus⟩

variable {limit : Option Nat} {inner : Handler} {passage : Passage}

/-- A wall around a timeless chain is answered alike wherever Logger stands. -/
theorem sameAnswer_entry (timeless : (inner passage).Timeless) {world : World}
    (inTime : world.InTime limit) (line : RequestLine) :
    SameAnswer ((errors.wrap inner passage).run limit (loggerEntry line world))
      ((errors.wrap inner passage).run limit world) := by
  rw [run_errors limit inner passage world inTime,
    run_errors limit inner passage (loggerEntry line world) inTime]
  exact sameAnswer_errorsExit (timeless.entry inTime line)

/-- Around Errors, any tower of the four layers leaves the answer as it is. -/
theorem sameAnswer_tower {tower : List Layer} (known : ∀ layer ∈ tower, layer ∈ standard)
    (timeless : logger ∈ tower -> (inner passage).Timeless) {world : World}
    (inTime : world.InTime limit)
    (calm : ∀ payload, ((inner passage).run limit world).1 ≠ .ended (.panicked payload)) :
    SameAnswer ((compose tower (errors.wrap inner) passage).run limit world)
        ((errors.wrap inner passage).run limit world) ∧
      Settled ((compose tower (errors.wrap inner) passage).run limit world) := by
  induction tower generalizing world with
  | nil =>
      refine ⟨.refl _, ?_⟩
      have settled := settled_errorsExit calm
      rwa [← run_errors limit inner passage world inTime] at settled
  | cons layer rest ih =>
      have within := fun other listed => known other (List.mem_cons_of_mem layer listed)
      have inside := fun listed => timeless (List.mem_cons_of_mem layer listed)
      have listed := known layer List.mem_cons_self
      simp only [standard, List.mem_cons, List.not_mem_nil, or_false] at listed
      rcases listed with rfl | rfl | rfl | rfl
      · -- What stands inside Logger is run on a request that is marked.
        have blind := timeless List.mem_cons_self
        have entry := blind.entry inTime passage.request.line
        have entered : (loggerEntry passage.request.line world).InTime limit := inTime
        obtain ⟨same, settled⟩ := ih within inside entered (by rw [entry.stop]; exact calm)
        exact (passes_loggerExit _).around (run_logger limit _ passage world inTime)
          (same.trans (sameAnswer_entry blind inTime passage.request.line)) settled
      · obtain ⟨same, settled⟩ := ih within inside inTime calm
        exact passes_errorsExit.around (run_errors limit _ passage world inTime) same settled
      · obtain ⟨same, settled⟩ := ih within inside inTime calm
        exact passes_metricsExit.around (run_metrics limit _ passage world inTime) same settled
      · obtain ⟨same, settled⟩ := ih within inside inTime calm
        exact passes_panicsExit.around (run_panics limit _ passage world inTime) same settled

/-- **Errors is a firewall.** Where the inner chain does not panic, Errors around it ends well,
unless a failure asks for a shutdown: this one is handed on as it is. A failure leaves a response,
the one that was written first or else the one that stands for the failure, and without a failure
nothing is changed. Any tower of the four layers around this Errors ends in the same way and leaves
the same response and status; with Logger in the tower, that is if the inner chain does not depend
on whether the request was marked as started. -/
theorem errors_firewall (inner : Handler) (passage : Passage) (limit : Option Nat) (world : World)
    (inTime : world.InTime limit)
    (calm : ∀ payload, ((inner passage).run limit world).1 ≠ .ended (.panicked payload)) :
    let bare := (inner passage).run limit world
    let walled := (errors.wrap inner passage).run limit world
    (bare.1 = .ended (.returned (.ok ())) -> walled = bare) ∧
    (∀ failure, bare.1 = .ended (.returned (.error failure)) ->
      walled.1 = .ended (.returned (if failure.isShutdown then .error failure else .ok ())) ∧
      walled.2.exchange.response = some (bare.2.exchange.response.getD failure.response)) ∧
    ∀ tower, (∀ layer ∈ tower, layer ∈ standard) ->
      (logger ∈ tower -> (inner passage).Timeless) ->
      SameAnswer ((compose tower (errors.wrap inner) passage).run limit world) walled := by
  intro bare walled
  have ran : walled = leave errorsExit bare := run_errors limit inner passage world inTime
  refine ⟨?_, ?_, ?_⟩
  · intro well
    rw [ran, ← Prod.eta bare, well]
    rfl
  · intro failure failed
    rw [ran, ← Prod.eta bare, failed]
    refine ⟨rfl, ?_⟩
    rw [leave, exchange_errorsExit, Exchange.response_respond]
  · intro tower known timeless
    exact (sameAnswer_tower known timeless inTime calm).1

def exhausted : Failure := .shutdown "out of memory" none

def answeredWorld : World := { exchange := { status := some .ok, response := some (.bare .ok) } }

/-- A request for a shutdown passes a tower around Errors, and the response that was written before
stays. -/
theorem errors_firewall_exhausted :
    ((compose [errors, logger, panics, errors, metrics] (errors.wrap (Handler.failing exhausted))
        default).run none answeredWorld).1 = .ended (.returned (.error exhausted)) ∧
      ((compose [errors, logger, panics, errors, metrics] (errors.wrap (Handler.failing exhausted))
        default).run none answeredWorld).2.exchange.response = some (.bare .ok) := by
  have calm payload : ((Handler.failing exhausted default).run none answeredWorld).1 ≠
      .ended (.panicked payload) := nofun
  obtain ⟨_, failed, around⟩ :=
    errors_firewall (Handler.failing exhausted) default none answeredWorld rfl calm
  obtain ⟨stop, response⟩ := failed exhausted rfl
  have same := around [errors, logger, panics, errors, metrics] (by simp [standard])
    fun _ => Task.timeless_of_only trivial
  exact ⟨same.stop.trans stop, same.response.trans response⟩

/-- Logger around Errors shows in an answer that tells whether the request was marked. -/
theorem logger_shows_through :
    (∀ payload, ((Handler.echo none [] [] default).run none {}).1 ≠ .ended (.panicked payload)) ∧
      ((compose [errors, logger] (errors.wrap (Handler.echo none [] [])) default).run none
          {}).2.exchange.response ≠
        ((errors.wrap (Handler.echo none [] []) default).run none {}).2.exchange.response := by
  refine ⟨nofun, ?_⟩
  decide +kernel

end Layer

end HttpService
