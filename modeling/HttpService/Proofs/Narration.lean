import HttpService.Pipeline.Standard
import HttpService.Proofs.TaskRuns
/-! # Narrations of a chain

What can be seen of a chain from its segments: what each of them is called with, what it writes and
whether it was first, and how it ends. Segments that were inserted into a chain are passed over, in
the events and in the depths that these name. `Segment.narrate_faithful` says that a narration is
that of the run of the composed handler. -/
set_option autoImplicit false

namespace HttpService

/-- Something that happens at a depth of a chain, which counts the segments outside. -/
inductive Event where
  | entered (depth : Nat) (passage : Passage)
  /-- A response was passed to the exchange; it won if it was the first. -/
  | responded (depth : Nat) (response : Response) (won : Bool)
  | left (depth : Nat) (ending : Ending)

def Event.panics : Event -> Bool
  | .left _ (.panicked _) => true
  | _ => false

/-- Nothing ended in a panic. -/
def Orderly (events : List Event) : Prop := ∀ event ∈ events, event.panics = false

instance (events : List Event) : Decidable (Orderly events) :=
  inferInstanceAs (Decidable (∀ event ∈ events, event.panics = false))

theorem Orderly.append_iff {first second : List Event} :
    Orderly (first ++ second) ↔ Orderly first ∧ Orderly second :=
  List.forall_mem_append

def Action.told (depth : Nat) : (action : Action) -> action.Answer -> List Event
  | .respond response, won => [.responded depth response won]
  | _, _ => []

def Stop.told (depth : Nat) : Stop -> List Event
  | .ended ending => [.left depth ending]
  | .cutOff => []

abbrev Narrated := List Event × Stop × World

def Narrated.preceded (narrated : Narrated) (events : List Event) : Narrated :=
  (events ++ narrated.1, narrated.2)

namespace Task

variable {Call : Type}

/-- Runs a task at a depth, with the events of it and of the calls that it makes. -/
def narrate (limit : Option Nat) (depth : Nat) (inside : Call -> World -> Narrated) :
    Task Call -> World -> Narrated
  | .done ending, world => ([], .ended ending, world)
  | .act action next, world =>
      let result := world.perform action
      if limit.any (· < result.2.elapsed) then (action.told depth result.1, .cutOff, result.2)
      else
        ((next result.1).narrate limit depth inside result.2).preceded (action.told depth result.1)
  | .call argument next, world =>
      match inside argument world with
      | (events, .cutOff, after) => (events, .cutOff, after)
      | (events, .ended ending, after) =>
          ((next ending).narrate limit depth inside after).preceded events
  | .stall, world => ([], .cutOff, world)

variable {limit : Option Nat} {depth : Nat} {inside : Call -> World -> Narrated}

theorem narrate_act {action : Action} (next : action.Answer -> Task Call) {world : World}
    (inTime : (world.perform action).2.InTime limit) :
    (act action next).narrate limit depth inside world =
      ((next (world.perform action).1).narrate limit depth inside (world.perform action).2).preceded
        (action.told depth (world.perform action).1) := by
  simp only [World.InTime] at inTime
  simp [narrate, inTime]

theorem narrate_act_late {action : Action} (next : action.Answer -> Task Call) {world : World}
    (late : ¬ (world.perform action).2.InTime limit) :
    (act action next).narrate limit depth inside world =
      (action.told depth (world.perform action).1, .cutOff, (world.perform action).2) := by
  simp only [World.InTime, Bool.not_eq_false] at late
  simp [narrate, late]

theorem narrate_run (limit : Option Nat) (depth : Nat) (inside : Empty -> World -> Narrated)
    (task : Task Empty) (world : World) :
    (task.narrate limit depth inside world).2 = task.run limit world := by
  induction task generalizing world with
  | done ending => rfl
  | act action rest ih =>
      simp only [narrate, run]
      split
      · rfl
      · exact ih _ _
  | call argument _ => exact argument.elim
  | stall => rfl

theorem narrate_plug {inside : Passage -> World -> Narrated} {inner : Handler}
    (same : ∀ passage world, (inside passage world).2 = (inner passage).run limit world)
    (task : Task Passage) (world : World) :
    (task.narrate limit depth inside world).2 = (task.plug inner).run limit world := by
  induction task generalizing world with
  | done ending => rfl
  | act action rest ih =>
      simp only [narrate, plug, run]
      split
      · rfl
      · exact ih _ _
  | call passage rest ih =>
      rw [run_plug_call, ← same passage world]
      simp only [narrate]
      rcases inside passage world with ⟨events, ending | _, after⟩
      · exact ih ending after
      · rfl
  | stall => rfl

/-- A task that only calls inwards tells what its call tells. -/
theorem narrate_proceed (inside : Passage -> World -> Narrated) (passage : Passage)
    (world : World) :
    (proceed passage).narrate limit depth inside world = inside passage world := by
  simp only [proceed, narrate]
  rcases inside passage world with ⟨events, ending | _, after⟩
  · simp [Narrated.preceded]
  · rfl

end Task

/-- A segment of a chain, which belongs to it or was inserted later. -/
inductive Segment where
  | kept (layer : Layer)
  | inserted (layer : Layer)

namespace Segment

def layer : Segment -> Layer
  | .kept layer => layer
  | .inserted layer => layer

def kept? : Segment -> Option Layer
  | .kept layer => some layer
  | .inserted _ => none

def chain (segments : List Segment) : List Layer := segments.map layer

def originals (segments : List Segment) : List Layer := segments.filterMap kept?

def enclose (depth : Nat) (passage : Passage) (result : Narrated) : Narrated :=
  (.entered depth passage :: (result.1 ++ result.2.1.told depth), result.2)

/-- Runs the segments around a handler, with all that happens in those that belong to the chain. The
outermost of these is at the given depth. -/
def narrate (limit : Option Nat) (handler : Handler) :
    Nat -> List Segment -> Passage -> World -> Narrated
  | depth, [], passage, world =>
      enclose depth passage
        ((handler passage).narrate limit depth (fun call => call.elim) world)
  | depth, .kept layer :: rest, passage, world =>
      enclose depth passage
        ((layer passage).narrate limit depth (narrate limit handler (depth + 1) rest) world)
  | depth, .inserted layer :: rest, passage, world =>
      (layer passage).narrate limit depth (narrate limit handler depth rest) world

/-- A narration is that of the run of the chain. -/
theorem narrate_faithful (limit : Option Nat) (handler : Handler) (depth : Nat)
    (segments : List Segment) (passage : Passage) (world : World) :
    (narrate limit handler depth segments passage world).2 =
      (compose (chain segments) handler passage).run limit world := by
  induction segments generalizing depth passage world with
  | nil => exact Task.narrate_run limit depth _ (handler passage) world
  | cons segment rest ih =>
      cases segment with
      | kept layer => exact Task.narrate_plug (ih (depth + 1)) (layer passage) world
      | inserted layer => exact Task.narrate_plug (ih depth) (layer passage) world

def unattended (limit : Option Nat) (handler : Handler) (depth : Nat) (layers : List Layer) :
    Passage -> World -> Narrated :=
  narrate limit handler depth (layers.map kept)

theorem unattended_faithful (limit : Option Nat) (handler : Handler) (depth : Nat)
    (layers : List Layer) (passage : Passage) (world : World) :
    (unattended limit handler depth layers passage world).2 =
      (compose layers handler passage).run limit world := by
  have same : chain (layers.map kept) = layers := by
    rw [chain, List.map_map]
    exact List.map_id layers
  rw [unattended, narrate_faithful, same]

theorem unattended_inTime {limit : Option Nat} {handler : Handler} {depth : Nat}
    {layers : List Layer} {passage : Passage} {world : World} (inTime : world.InTime limit)
    {ending : Ending}
    (ended : (unattended limit handler depth layers passage world).2.1 = .ended ending) :
    (unattended limit handler depth layers passage world).2.2.InTime limit := by
  have ran := unattended_faithful limit handler depth layers passage world
  rw [ran] at ended ⊢
  exact Task.inTime_of_run limit (compose layers handler passage) world _ ending inTime
    (Prod.ext ended rfl)

end Segment

end HttpService
