import HttpService.Pipeline.World
/-! # Runs of tasks

How a run composes. `run_andThen` and `run_plug_call` split a run at the end of a task and at a call
inwards, `inTime_of_run` says that a run that came to its end did so within its limit, and
`run_act_quick` performs one action that takes no time.

`Task.trace` lists the actions of a run. The response that an exchange holds after a run is the one
it held before, or else the first one that the run passed to it: `response_run`. `Task.Only` bounds
the actions of a task, whatever it is answered, and `World.Hides.run` says that a task does not
depend on what its actions do not see. -/
set_option autoImplicit false

namespace HttpService

def World.InTime (world : World) (limit : Option Nat) : Prop :=
  limit.any (· < world.elapsed) = false

namespace Task

theorem run_act (limit : Option Nat) (action : Action) (next : action.Answer -> Task Empty)
    (world : World) (inTime : (world.perform action).2.InTime limit) :
    (act action next).run limit world =
      (next (world.perform action).1).run limit (world.perform action).2 := by
  simp only [World.InTime] at inTime
  simp [run, inTime]

theorem run_act_late (limit : Option Nat) (action : Action) (next : action.Answer -> Task Empty)
    (world : World) (late : ¬ (world.perform action).2.InTime limit) :
    (act action next).run limit world = (.cutOff, (world.perform action).2) := by
  simp only [World.InTime, Bool.not_eq_false] at late
  simp [run, late]

theorem elapsed_perform (world : World) (action : Action)
    (quick : ∀ milliseconds, action ≠ .pause milliseconds) :
    (world.perform action).2.elapsed = world.elapsed := by
  cases action with
  | respond response =>
      simp only [World.perform, World.respond]
      split <;> rfl
  | pause milliseconds => exact absurd rfl (quick milliseconds)
  | _ => rfl

theorem inTime_perform {limit : Option Nat} {world : World} (inTime : world.InTime limit)
    (action : Action) (quick : ∀ milliseconds, action ≠ .pause milliseconds) :
    (world.perform action).2.InTime limit := by
  rw [World.InTime, elapsed_perform world action quick]
  exact inTime

theorem run_act_quick (limit : Option Nat) (action : Action) (next : action.Answer -> Task Empty)
    (world : World) (inTime : world.InTime limit)
    (quick : ∀ milliseconds, action ≠ .pause milliseconds) :
    (act action next).run limit world =
      (next (world.perform action).1).run limit (world.perform action).2 :=
  run_act limit action next world (inTime_perform inTime action quick)

theorem run_andThen (limit : Option Nat) (first : Task Empty) (next : Ending -> Task Empty)
    (world : World) :
    (first.andThen next).run limit world =
      match first.run limit world with
      | (.ended ending, after) => (next ending).run limit after
      | (.cutOff, after) => (.cutOff, after) := by
  induction first generalizing world with
  | done ending => rfl
  | act action rest ih =>
      by_cases inTime : (world.perform action).2.InTime limit
      · simp only [andThen]
        rw [run_act limit action _ world inTime, run_act limit action rest world inTime, ih]
      · simp only [andThen]
        rw [run_act_late limit action _ world inTime, run_act_late limit action rest world inTime]
  | call argument _ => exact argument.elim
  | stall => rfl

theorem run_plug_call (limit : Option Nat) (inner : Handler) (passage : Passage)
    (rest : Ending -> Task Passage) (world : World) :
    ((call passage rest).plug inner).run limit world =
      match (inner passage).run limit world with
      | (.ended ending, after) => ((rest ending).plug inner).run limit after
      | (.cutOff, after) => (.cutOff, after) := by
  simp only [plug, run_andThen]

theorem run_proceed (limit : Option Nat) (inner : Handler) (passage : Passage) (world : World) :
    ((proceed passage).plug inner).run limit world = (inner passage).run limit world := by
  simp only [proceed, run_plug_call]
  cases (inner passage).run limit world with
  | mk stop after => cases stop <;> rfl

theorem run_plug_act (limit : Option Nat) (inner : Handler) (action : Action)
    (next : action.Answer -> Task Passage) (world : World) (inTime : world.InTime limit)
    (quick : ∀ milliseconds, action ≠ .pause milliseconds) :
    ((act action next).plug inner).run limit world =
      ((next (world.perform action).1).plug inner).run limit (world.perform action).2 :=
  run_act_quick limit action _ world inTime quick

theorem run_plug_perform (limit : Option Nat) (inner : Handler) (action : Action)
    (next : Task Passage) (world : World) (inTime : world.InTime limit)
    (quick : ∀ milliseconds, action ≠ .pause milliseconds) :
    ((perform action next).plug inner).run limit world =
      (next.plug inner).run limit (world.perform action).2 :=
  run_act_quick limit action _ world inTime quick

theorem inTime_of_run (limit : Option Nat) (task : Task Empty) (world after : World)
    (ending : Ending) (inTime : world.InTime limit)
    (ended : task.run limit world = (.ended ending, after)) : after.InTime limit := by
  induction task generalizing world with
  | done last =>
      simp only [run, Prod.mk.injEq] at ended
      rw [← ended.2]
      exact inTime
  | act action rest ih =>
      by_cases still : (world.perform action).2.InTime limit
      · rw [run_act limit action rest world still] at ended
        exact ih _ _ still ended
      · rw [run_act_late limit action rest world still] at ended
        simp at ended
  | call argument _ => exact argument.elim
  | stall => simp [run] at ended

/-! ## What a run does -/

def trace (limit : Option Nat) : Task Empty -> World -> List Action
  | .done _, _ => []
  | .act action next, world =>
      let result := world.perform action
      if limit.any (· < result.2.elapsed) then [action]
      else action :: (next result.1).trace limit result.2
  | .call argument _, _ => argument.elim
  | .stall, _ => []

theorem trace_act_quick (limit : Option Nat) (action : Action)
    (next : action.Answer -> Task Empty) (world : World) (inTime : world.InTime limit)
    (quick : ∀ milliseconds, action ≠ .pause milliseconds) :
    (act action next).trace limit world =
      action :: (next (world.perform action).1).trace limit (world.perform action).2 := by
  have still := inTime_perform inTime action quick
  simp only [World.InTime] at still
  simp [trace, still]

theorem trace_andThen (limit : Option Nat) (first : Task Empty) (next : Ending -> Task Empty)
    (world : World) :
    (first.andThen next).trace limit world =
      first.trace limit world ++
        match first.run limit world with
        | (.ended ending, after) => (next ending).trace limit after
        | (.cutOff, _) => [] := by
  induction first generalizing world with
  | done ending => rfl
  | act action rest ih =>
      by_cases late : limit.any (· < (world.perform action).2.elapsed)
      · simp [andThen, trace, run, late]
      · simp [andThen, trace, run, late, ih]
  | call argument _ => exact argument.elim
  | stall => rfl

def offer? : Action -> Option Response
  | .respond response => some response
  | _ => none

def offers (limit : Option Nat) (task : Task Empty) (world : World) : List Response :=
  (task.trace limit world).filterMap offer?

theorem response_perform (world : World) (action : Action) :
    (world.perform action).2.exchange.response = world.exchange.response.or (offer? action) := by
  cases action with
  | respond response =>
      simp only [World.perform, World.respond, Exchange.respond, offer?]
      cases held : world.exchange.response with
      | none => rfl
      | some first => simp [World.addLog, held]
  | _ => simp [World.perform, offer?, Exchange.markStarted, World.addLog, World.addNote]

/-- A run keeps the response that was written, and otherwise the first one it writes stays. -/
theorem response_run (limit : Option Nat) (task : Task Empty) (world : World) :
    (task.run limit world).2.exchange.response =
      world.exchange.response.or (task.offers limit world).head? := by
  induction task generalizing world with
  | done ending => simp [run, offers, trace]
  | act action rest ih =>
      have written := response_perform world action
      by_cases inTime : (world.perform action).2.InTime limit
      · rw [run_act limit action rest world inTime, ih, written]
        simp only [World.InTime] at inTime
        cases offered : offer? action <;> simp [offers, trace, inTime, offered]
      · rw [run_act_late limit action rest world inTime, written]
        simp only [World.InTime, Bool.not_eq_false] at inTime
        cases offered : offer? action <;> simp [offers, trace, inTime, offered]
  | call argument _ => exact argument.elim
  | stall => simp [run, offers, trace]

/-! ## What a task may do -/

variable {Call : Type}

/-- Whatever the task is answered, it performs only these actions. -/
def Only (allowed : Action -> Prop) : Task Call -> Prop
  | .done _ => True
  | .act action next => allowed action ∧ ∀ answer, (next answer).Only allowed
  | .call _ next => ∀ ending, (next ending).Only allowed
  | .stall => True

variable {allowed : Action -> Prop}

theorem only_of_forall (all : ∀ action, allowed action) (task : Task Call) : task.Only allowed := by
  induction task with
  | done ending => trivial
  | act action rest ih => exact ⟨all action, ih⟩
  | call argument rest ih => exact ih
  | stall => trivial

theorem Only.andThen {first : Task Empty} {next : Ending -> Task Empty} (only : first.Only allowed)
    (later : ∀ ending, (next ending).Only allowed) : (first.andThen next).Only allowed := by
  induction first with
  | done ending => exact later ending
  | act action rest ih => exact ⟨only.1, fun answer => ih answer (only.2 answer)⟩
  | call argument _ => exact argument.elim
  | stall => trivial

theorem Only.plug {task : Task Passage} {inner : Handler} (only : task.Only allowed)
    (inside : ∀ passage, (inner passage).Only allowed) : (task.plug inner).Only allowed := by
  induction task with
  | done ending => trivial
  | act action rest ih => exact ⟨only.1, fun answer => ih answer (only.2 answer)⟩
  | call argument rest ih => exact (inside argument).andThen fun ending => ih ending (only ending)
  | stall => trivial

theorem Only.trace {task : Task Empty} (only : task.Only allowed) (limit : Option Nat)
    (world : World) : ∀ action ∈ task.trace limit world, allowed action := by
  induction task generalizing world with
  | done ending => nofun
  | act action rest ih =>
      intro other listed
      simp only [Task.trace] at listed
      split at listed
      · rw [List.mem_singleton.mp listed]
        exact only.1
      · rcases List.mem_cons.mp listed with rfl | later
        · exact only.1
        · exact ih _ (only.2 _) _ other later
  | call argument _ => exact argument.elim
  | stall => nofun

end Task

/-! ## What a task cannot see -/

namespace World

/-- What is taken away from a state is not seen by the allowed actions, and no action makes it
spread. -/
structure Hides (hide : World -> World) (allowed : Action -> Prop) : Prop where
  elapsed : ∀ world, (hide world).elapsed = world.elapsed
  step : ∀ world action,
    (allowed action -> ((hide world).perform action).1 = (world.perform action).1) ∧
      hide ((hide world).perform action).2 = hide (world.perform action).2

namespace Hides

variable {hide : World -> World} {allowed : Action -> Prop} {first second : World}

theorem perform (hides : Hides hide allowed) (same : hide first = hide second) (action : Action) :
    (allowed action -> (first.perform action).1 = (second.perform action).1) ∧
      hide (first.perform action).2 = hide (second.perform action).2 := by
  obtain ⟨firstAnswer, firstAfter⟩ := hides.step first action
  obtain ⟨secondAnswer, secondAfter⟩ := hides.step second action
  rw [same] at firstAnswer firstAfter
  constructor
  · intro seen
    exact (firstAnswer seen).symm.trans (secondAnswer seen)
  · exact firstAfter.symm.trans secondAfter

/-- States that differ in nothing but what is hidden lead to runs that do so. -/
theorem run (hides : Hides hide allowed) (same : hide first = hide second) (limit : Option Nat)
    {task : Task Empty} (only : task.Only allowed) :
    (task.run limit first).1 = (task.run limit second).1 ∧
      hide (task.run limit first).2 = hide (task.run limit second).2 := by
  induction task generalizing first second with
  | done ending => exact ⟨rfl, same⟩
  | act action rest ih =>
      obtain ⟨sameAnswer, afterwards⟩ := hides.perform same action
      have sameTime : (first.perform action).2.elapsed = (second.perform action).2.elapsed := by
        rw [← hides.elapsed, afterwards, hides.elapsed]
      simp only [Task.run]
      rw [sameTime, sameAnswer only.1]
      split
      · exact ⟨rfl, afterwards⟩
      · exact ih _ afterwards (only.2 _)
  | call argument _ => exact argument.elim
  | stall => exact ⟨rfl, same⟩

end Hides

end World

theorem only_compose {allowed : Action -> Prop} {layers : List Layer} {handler : Handler}
    (around : ∀ layer ∈ layers, ∀ passage, (layer passage).Only allowed)
    (inside : ∀ passage, (handler passage).Only allowed) (passage : Passage) :
    (compose layers handler passage).Only allowed := by
  induction layers generalizing passage with
  | nil => exact inside passage
  | cons layer rest ih =>
      have inner := ih fun other listed => around other (List.mem_cons_of_mem _ listed)
      exact (around layer List.mem_cons_self passage).plug inner

end HttpService
