import HttpService.Proofs.TaskRuns
/-! # Watching a chain from inside

The run of a chain only shows how it stopped and the state it left. `Layer.observe` runs a chain and
reports besides which layer was called with what and how each of them ended; the handler counts as
the innermost layer. `observe_run` says that the reports change nothing: without them it is the run
of the composed handler. -/
set_option autoImplicit false

namespace HttpService

/-- A call crosses into a layer, or comes back out of it. The depth counts the layers outside. -/
inductive Crossing where
  | entered (depth : Nat) (passage : Passage)
  | left (depth : Nat) (ending : Ending)

namespace Crossing

def entry? : Crossing -> Option (Nat × Passage)
  | .entered depth passage => some (depth, passage)
  | .left _ _ => none

def entries (crossings : List Crossing) : List (Nat × Passage) := crossings.filterMap entry?

theorem entries_append (first second : List Crossing) :
    entries (first ++ second) = entries first ++ entries second :=
  List.filterMap_append

/-- What the layer at a depth was called with, call by call. -/
def callsAt (depth : Nat) (crossings : List Crossing) : List Passage :=
  (entries crossings).filterMap fun call => if call.1 = depth then some call.2 else none

end Crossing

def Stop.crossings (depth : Nat) : Stop -> List Crossing
  | .ended ending => [.left depth ending]
  | .cutOff => []

theorem Stop.entries_crossings (depth : Nat) (stop : Stop) :
    Crossing.entries (stop.crossings depth) = [] := by
  cases stop <;> rfl

abbrev Observed := Passage -> World -> List Crossing × Stop × World

namespace Task

/-- Runs a task of a layer, with the crossings of the calls it makes. -/
def observe (limit : Option Nat) (inside : Observed) :
    Task Passage -> World -> List Crossing × Stop × World
  | .done ending, world => ([], .ended ending, world)
  | .act action next, world =>
      let result := world.perform action
      if limit.any (· < result.2.elapsed) then ([], .cutOff, result.2)
      else (next result.1).observe limit inside result.2
  | .call passage next, world =>
      match inside passage world with
      | (crossings, .cutOff, after) => (crossings, .cutOff, after)
      | (crossings, .ended ending, after) =>
          let (later, stopped) := (next ending).observe limit inside after
          (crossings ++ later, stopped)
  | .stall, world => ([], .cutOff, world)

theorem observe_run (limit : Option Nat) (inside : Observed) (inner : Handler)
    (same : ∀ passage world, (inside passage world).2 = (inner passage).run limit world)
    (task : Task Passage) (world : World) :
    (task.observe limit inside world).2 = (task.plug inner).run limit world := by
  induction task generalizing world with
  | done ending => rfl
  | act action rest ih =>
      simp only [observe, plug, run]
      split
      · rfl
      · exact ih _ _
  | call passage rest ih =>
      have called := same passage world
      rw [run_plug_call, ← called]
      simp only [observe]
      rcases inside passage world with ⟨crossings, ending | _, after⟩
      · exact ih ending after
      · rfl
  | stall => rfl

inductive Quiet : Task Passage -> Prop where
  | done (ending : Ending) : Quiet (.done ending)
  | act (action : Action) (next : action.Answer -> Task Passage)
      (rest : ∀ answer, Quiet (next answer)) : Quiet (.act action next)
  | stall : Quiet .stall

theorem Quiet.perform (action : Action) {next : Task Passage} (rest : next.Quiet) :
    (Task.perform action next).Quiet :=
  .act action _ fun _ => rest

theorem observe_quiet (limit : Option Nat) (inside : Observed) {task : Task Passage}
    (quiet : task.Quiet) (world : World) : (task.observe limit inside world).1 = [] := by
  induction quiet generalizing world with
  | done ending => rfl
  | act action next _ ih =>
      simp only [observe]
      split
      · rfl
      · exact ih _ _
  | stall => rfl

/-- A call after which no other follows has the crossings of what is inside. -/
theorem observe_call (limit : Option Nat) (inside : Observed) (passage : Passage)
    {next : Ending -> Task Passage} (rest : ∀ ending, (next ending).Quiet) (world : World) :
    ((call passage next).observe limit inside world).1 = (inside passage world).1 := by
  simp only [observe]
  rcases inside passage world with ⟨crossings, ending | _, after⟩
  · have nothing := observe_quiet limit inside (rest ending) after
    simp only [nothing, List.append_nil]
  · rfl

theorem observe_forward (limit : Option Nat) (inside : Observed) (passage : Passage)
    {next : Outcome -> Task Passage} (rest : ∀ outcome, (next outcome).Quiet) (world : World) :
    ((forward passage next).observe limit inside world).1 = (inside passage world).1 := by
  apply observe_call
  intro ending
  cases ending with
  | returned outcome => exact rest outcome
  | panicked payload => exact .done _

theorem observe_act (limit : Option Nat) (inside : Observed) (action : Action)
    (next : action.Answer -> Task Passage) (world : World) (inTime : world.InTime limit)
    (quick : ∀ milliseconds, action ≠ .pause milliseconds) :
    (act action next).observe limit inside world =
      (next (world.perform action).1).observe limit inside (world.perform action).2 := by
  have still := inTime_perform inTime action quick
  simp only [World.InTime] at still
  simp [observe, still]

end Task

namespace Layer

def observe (limit : Option Nat) (handler : Handler) : Nat -> List Layer -> Observed
  | depth, [], passage, world =>
      let (stop, after) := (handler passage).run limit world
      (.entered depth passage :: stop.crossings depth, stop, after)
  | depth, layer :: rest, passage, world =>
      let (crossings, stop, after) :=
        (layer passage).observe limit (observe limit handler (depth + 1) rest) world
      (.entered depth passage :: (crossings ++ stop.crossings depth), stop, after)

/-- Watching changes nothing. -/
theorem observe_run (limit : Option Nat) (handler : Handler) (depth : Nat) (layers : List Layer)
    (passage : Passage) (world : World) :
    (observe limit handler depth layers passage world).2 =
      (compose layers handler passage).run limit world := by
  induction layers generalizing depth passage world with
  | nil => rfl
  | cons layer rest ih =>
      exact Task.observe_run limit _ (compose rest handler) (ih (depth + 1)) (layer passage) world

/-- The calls of a chain: one of its outermost layer, and those that this layer leads to. -/
theorem entries_observe_cons (limit : Option Nat) (handler : Handler) (depth : Nat) (layer : Layer)
    (rest : List Layer) (passage : Passage) (world : World) :
    Crossing.entries (observe limit handler depth (layer :: rest) passage world).1 =
      (depth, passage) :: Crossing.entries
        ((layer passage).observe limit (observe limit handler (depth + 1) rest) world).1 := by
  have apart := Crossing.entries_append
    ((layer passage).observe limit (observe limit handler (depth + 1) rest) world).1
    (((layer passage).observe limit (observe limit handler (depth + 1) rest) world).2.1.crossings
      depth)
  rw [Stop.entries_crossings, List.append_nil] at apart
  exact congrArg ((depth, passage) :: ·) apart

theorem entries_observe_nil (limit : Option Nat) (handler : Handler) (depth : Nat)
    (passage : Passage) (world : World) :
    Crossing.entries (observe limit handler depth [] passage world).1 = [(depth, passage)] := by
  have nothing := Stop.entries_crossings depth ((handler passage).run limit world).1
  exact congrArg ((depth, passage) :: ·) nothing

end Layer

end HttpService
