import HttpService.Pipeline.Probe
import HttpService.Proofs.Observation
import HttpService.Proofs.Registration
/-! # The order of calls in a chain

Layers are wrapped around a handler one by one, so that lists of them can be composed in parts, and
the layers of a route stand inside those of the router. A `Bracket` is a layer that makes one record
before it calls inwards, if it does, and one before it returns; `Layer.arrivals` are the calls that
the layers then lead to, one inside the other. `compose_order` says that the records of a chain of
brackets are nested like the layers, as far in as every layer calls inwards. -/
set_option autoImplicit false

namespace HttpService

namespace Task

def firstCall? : Task Passage -> World -> Option (Passage × World)
  | .done _, _ => none
  | .act action next, world =>
      let result := world.perform action
      (next result.1).firstCall? result.2
  | .call passage _, world => some (passage, world)
  | .stall, _ => none

inductive Phase where
  /-- Nothing is recorded yet. -/
  | outside
  | entered
  /-- A call has been made. -/
  | called
  | left

variable {α : Type} (read : Action -> Option α) (entry exit : α)

def Phase.records (inside : List α) : Phase -> List α
  | .outside => entry :: (inside ++ [exit])
  | .entered => inside ++ [exit]
  | .called => [exit]
  | .left => []

/-- From this phase on, the task records its entry, then calls inwards at most once, then records
its exit and returns. It records nothing else. -/
inductive Brackets : Phase -> Task Passage -> Prop where
  | unrecorded {phase : Phase} {action : Action} {next : action.Answer -> Task Passage}
      (silent : read action = none) (rest : ∀ answer, Brackets phase (next answer)) :
      Brackets phase (.act action next)
  | enter {action : Action} {next : action.Answer -> Task Passage}
      (recorded : read action = some entry) (rest : ∀ answer, Brackets .entered (next answer)) :
      Brackets .outside (.act action next)
  | call {passage : Passage} {next : Ending -> Task Passage}
      (rest : ∀ outcome, Brackets .called (next (.returned outcome))) :
      Brackets .entered (.call passage next)
  | leave {phase : Phase} {action : Action} {next : action.Answer -> Task Passage}
      (inside : phase = .entered ∨ phase = .called) (recorded : read action = some exit)
      (rest : ∀ answer, Brackets .left (next answer)) : Brackets phase (.act action next)
  | return (outcome : Outcome) : Brackets .left (.done (.returned outcome))

def Returns (task : Task Empty) (world : World) : Prop :=
  ∃ outcome after, task.run none world = (.ended (.returned outcome), after)

def records (task : Task Empty) (world : World) : List α :=
  (task.trace none world).filterMap read

variable {read entry exit} {phase : Phase} {task : Task Passage}

theorem Brackets.firstCall?_eq_none (brackets : task.Brackets read entry exit phase)
    (past : phase = .called ∨ phase = .left) (world : World) : task.firstCall? world = none := by
  induction brackets generalizing world with
  | unrecorded silent rest ih => exact ih _ past _
  | enter recorded rest ih => rcases past with impossible | impossible <;> cases impossible
  | call rest ih => rcases past with impossible | impossible <;> cases impossible
  | leave inside recorded rest ih => exact ih _ (.inr rfl) _
  | «return» outcome => rfl

/-- A bracket returns if its call does, and the records of the call come between its own. -/
theorem Brackets.run_plug (brackets : task.Brackets read entry exit phase) (inner : Handler)
    (world : World) (returns : ∀ passage state, task.firstCall? world = some (passage, state) ->
      (inner passage).Returns state) :
    (task.plug inner).Returns world ∧
      (task.plug inner).records read world =
        phase.records entry exit
          ((task.firstCall? world).elim [] fun call => (inner call.1).records read call.2) := by
  induction brackets generalizing world with
  | @unrecorded phase action next silent rest ih =>
      obtain ⟨ends, recorded⟩ := ih (world.perform action).1 (world.perform action).2 returns
      refine ⟨ends, ?_⟩
      rw [firstCall?, ← recorded]
      simp [records, plug, trace, silent]
  | @enter action next recorded rest ih =>
      obtain ⟨ends, later⟩ := ih (world.perform action).1 (world.perform action).2 returns
      refine ⟨ends, ?_⟩
      simp only [Phase.records, firstCall?] at later ⊢
      rw [← later]
      simp [records, plug, trace, recorded]
  | @call passage next rest ih =>
      obtain ⟨outcome, after, ran⟩ := returns passage world rfl
      have none := (rest outcome).firstCall?_eq_none (.inl rfl) after
      obtain ⟨ends, later⟩ := ih outcome after (by simp [none])
      constructor
      · simpa [Returns, run_plug_call, ran] using ends
      · simp only [Phase.records, firstCall?, Option.elim_some] at later ⊢
        rw [← later]
        simp [records, plug, trace_andThen, ran]
  | @leave phase action next inside recorded rest ih =>
      have none := (rest (world.perform action).1).firstCall?_eq_none (.inr rfl)
        (world.perform action).2
      obtain ⟨ends, later⟩ := ih (world.perform action).1 (world.perform action).2 (by simp [none])
      refine ⟨ends, ?_⟩
      simp only [firstCall?, none]
      rcases inside with rfl | rfl <;>
        simpa [records, plug, trace, recorded, Phase.records] using later
  | «return» outcome => exact ⟨⟨outcome, world, rfl⟩, rfl⟩

/-- The calls of a bracket are its first one and those that this leads to. -/
theorem Brackets.entries_observe (brackets : task.Brackets read entry exit phase)
    {inside : Observed} {inner : Handler}
    (same : ∀ passage world, (inside passage world).2 = (inner passage).run none world)
    (world : World) (returns : ∀ passage state, task.firstCall? world = some (passage, state) ->
      (inner passage).Returns state) :
    Crossing.entries (task.observe none inside world).1 =
      (task.firstCall? world).elim [] fun call => Crossing.entries (inside call.1 call.2).1 := by
  induction brackets generalizing world with
  | unrecorded silent rest ih => exact ih _ _ returns
  | enter recorded rest ih => exact ih _ _ returns
  | @call passage next rest ih =>
      obtain ⟨outcome, after, ran⟩ := returns passage world rfl
      have none := (rest outcome).firstCall?_eq_none (.inl rfl) after
      have later := ih outcome after (by simp [none])
      rw [none, Option.elim_none] at later
      have called := (same passage world).trans ran
      simp only [observe, firstCall?, Option.elim_some]
      cases reached : inside passage world with
      | mk crossings stopped =>
          rw [reached] at called
          cases called
          simp only [Crossing.entries_append, later, List.append_nil]
  | leave inside recorded rest ih => exact ih _ _ returns
  | «return» outcome => rfl

end Task

/-- A layer that records an entry, calls inwards at most once and records an exit. -/
structure Bracket {α : Type} (read : Action -> Option α) where
  layer : Layer
  entry : α
  exit : α
  brackets : ∀ passage, (layer passage).Brackets read entry exit .outside

namespace Layer

/-- The calls on the way in: with what each layer is called and in which state, the outermost first
and the handler last. A layer that does not call inwards is the last one to be called. -/
def arrivals : List Layer -> Passage -> World -> List (Passage × World)
  | [], passage, world => [(passage, world)]
  | layer :: rest, passage, world =>
      (passage, world) ::
        ((layer passage).firstCall? world).elim [] fun call => arrivals rest call.1 call.2

/-- A layer that is called and does not call inwards is the last one to be called. -/
theorem length_arrivals {layers : List Layer} {place : Nat} {layer : Layer}
    (here : layers[place]? = some layer) {passage called : Passage} {world state : World}
    (arrives : (arrivals layers passage world)[place]? = some (called, state))
    (halts : (layer called).firstCall? state = none) :
    (arrivals layers passage world).length = place + 1 := by
  induction layers generalizing place passage world with
  | nil => cases here
  | cons first rest ih =>
      cases place with
      | zero =>
          cases here
          cases arrives
          simp [arrivals, halts]
      | succ place =>
          simp only [arrivals, List.length_cons, List.getElem?_cons_succ] at here arrives ⊢
          cases inward : (first passage).firstCall? world with
          | none => simp [inward] at arrives
          | some call =>
              rw [inward] at arrives
              exact congrArg Nat.succ (ih here arrives)

/-- The handler is called, or one of the layers is and does not call inwards. -/
theorem arrives_or_halts (layers : List Layer) (passage : Passage) (world : World) :
    (∃ call, (arrivals layers passage world)[layers.length]? = some call) ∨
      ∃ (place : Nat) (layer : Layer) (called : Passage) (state : World),
        layers[place]? = some layer ∧
        (arrivals layers passage world)[place]? = some (called, state) ∧
        (layer called).firstCall? state = none := by
  induction layers generalizing passage world with
  | nil => exact .inl ⟨(passage, world), rfl⟩
  | cons first rest ih =>
      simp only [arrivals, List.length_cons, List.getElem?_cons_succ]
      cases inward : (first passage).firstCall? world with
      | none => exact .inr ⟨0, first, passage, world, rfl, rfl, inward⟩
      | some call =>
          rcases ih call.1 call.2 with reached | ⟨place, layer, called, state, here, arrives, halts⟩
          · exact .inl reached
          · exact .inr ⟨place + 1, layer, called, state, here, arrives, halts⟩

end Layer

namespace Bracket

variable {α : Type} {read : Action -> Option α}

def layers (brackets : List (Bracket read)) : List Layer := brackets.map layer

def inmost (read : Action -> Option α) (handler : Handler) (depth : Nat)
    (arrivals : List (Passage × World)) : List α :=
  arrivals[depth]?.elim [] fun call => (handler call.1).records read call.2

/-- The records of the brackets that are called, around those of the handler. -/
def nested (brackets : List (Bracket read)) (handler : Handler)
    (arrivals : List (Passage × World)) : List α :=
  let called := brackets.take arrivals.length
  called.map entry ++ inmost read handler brackets.length arrivals ++ (called.map exit).reverse

theorem run_compose (brackets : List (Bracket read)) (handler : Handler) (passage : Passage)
    (world : World)
    (returns : ∀ called state, (Layer.arrivals (layers brackets) passage world)[brackets.length]? =
      some (called, state) -> (handler called).Returns state) :
    (compose (layers brackets) handler passage).Returns world ∧
      (compose (layers brackets) handler passage).records read world =
        nested brackets handler (Layer.arrivals (layers brackets) passage world) := by
  induction brackets generalizing passage world with
  | nil => exact ⟨returns passage world rfl, (List.append_nil _).symm⟩
  | cons bracket rest ih =>
      have around := (bracket.brackets passage).run_plug (compose (layers rest) handler) world
      simp only [layers, List.map_cons, Layer.arrivals, List.length_cons, List.getElem?_cons_succ,
        nested, inmost, List.take_succ_cons] at returns ⊢
      cases called : (bracket.layer passage).firstCall? world with
      | none =>
          obtain ⟨ends, recorded⟩ := around (by simp [called])
          rw [called] at recorded
          refine ⟨ends, recorded.trans ?_⟩
          simp [Task.Phase.records]
      | some call =>
          rw [called] at returns
          obtain ⟨inner, within⟩ := ih call.1 call.2 returns
          obtain ⟨ends, recorded⟩ := around (by rw [called]; rintro _ _ ⟨⟩; exact inner)
          rw [called, Option.elim_some, within] at recorded
          refine ⟨ends, recorded.trans ?_⟩
          simp [Task.Phase.records, nested, inmost, layers]

/-- A bracket is called once all outside it have called inwards, and only then; likewise the
handler. -/
theorem entries_observe (brackets : List (Bracket read)) (handler : Handler) (depth : Nat)
    (passage : Passage) (world : World)
    (returns : ∀ called state, (Layer.arrivals (layers brackets) passage world)[brackets.length]? =
      some (called, state) -> (handler called).Returns state) :
    Crossing.entries (Layer.observe none handler depth (layers brackets) passage world).1 =
      ((Layer.arrivals (layers brackets) passage world).zipIdx depth).map fun call =>
        (call.2, call.1.1) := by
  induction brackets generalizing depth passage world with
  | nil => exact Layer.entries_observe_nil none handler depth passage world
  | cons bracket rest ih =>
      have within := (bracket.brackets passage).entries_observe
        (Layer.observe_run none handler (depth + 1) (layers rest)) world
      simp only [layers, List.map_cons, Layer.arrivals, List.length_cons, List.getElem?_cons_succ,
        List.zipIdx_cons] at returns within ⊢
      rw [Layer.entries_observe_cons]
      cases called : (bracket.layer passage).firstCall? world with
      | none =>
          rw [within (by simp [called]), called]
          rfl
      | some call =>
          rw [called] at returns
          have inner := (run_compose rest handler call.1 call.2 returns).1
          rw [within (by rw [called]; rintro _ _ ⟨⟩; exact inner), called]
          exact congrArg _ (ih (depth + 1) call.1 call.2 returns)

/-- **Composition order.** Layers can be composed in parts, so what is kept of a route are the
layers of the router around those of the route around its handler. A chain of layers that record an
entry, call inwards at most once and record an exit returns if its handler does. If all of them call
inwards, it records the entries from the outside in, then what the handler does, then the exits from
the inside out. Otherwise one is called and does not call inwards, this happens for the layers down
to this one, and nothing further in is called. -/
theorem compose_order :
    (∀ outer inner handler,
      compose (outer ++ inner) handler = compose outer (compose inner handler)) ∧
    (∀ layers routes router, Router.ofRoutes layers routes = .ok router -> ∀ request,
      router.find? request = (Route.match? routes request).map fun found =>
        (compose (layers ++ found.1.layers) found.1.handler, found.2)) ∧
    ∀ {α : Type} {read : Action -> Option α} (brackets : List (Bracket read)) (handler : Handler)
      (passage : Passage) (world : World),
      let chain := compose (layers brackets) handler passage
      let observed := Layer.observe none handler 0 (layers brackets) passage world
      let arrivals := Layer.arrivals (layers brackets) passage world
      (∀ called state, arrivals[brackets.length]? = some (called, state) ->
        (handler called).Returns state) ->
      chain.Returns world ∧ observed.2 = chain.run none world ∧
      Crossing.entries observed.1 = arrivals.zipIdx.map (fun call => (call.2, call.1.1)) ∧
      ((∃ call, arrivals[brackets.length]? = some call) ∨
        ∃ (place : Nat) (bracket : Bracket read) (called : Passage) (state : World),
          brackets[place]? = some bracket ∧ arrivals[place]? = some (called, state) ∧
          (bracket.layer called).firstCall? state = none) ∧
      (∀ called state, arrivals[brackets.length]? = some (called, state) ->
        chain.records read world =
          brackets.map entry ++ (handler called).records read state ++
            (brackets.map exit).reverse) ∧
      ∀ place bracket called state, brackets[place]? = some bracket ->
        arrivals[place]? = some (called, state) ->
        (bracket.layer called).firstCall? state = none ->
        arrivals.length = place + 1 ∧
        chain.records read world =
          (brackets.take (place + 1)).map entry ++
            ((brackets.take (place + 1)).map exit).reverse := by
  refine ⟨compose_append, ?_, ?_⟩
  · intro layers routes router built request
    rw [Router.find?_ofRoutes built]
    simp only [Route.whole, Route.inside, compose_append]
  · intro α read brackets handler passage world chain observed arrivals returns
    obtain ⟨ends, recorded⟩ := run_compose brackets handler passage world returns
    refine ⟨ends, Layer.observe_run none handler 0 _ passage world,
      entries_observe brackets handler 0 passage world returns, ?_, ?_, ?_⟩
    · have reached := Layer.arrives_or_halts (layers brackets) passage world
      simp only [layers, List.length_map, List.getElem?_map, Option.map_eq_some_iff] at reached
      rcases reached with whole | ⟨place, _, called, state, ⟨bracket, here, rfl⟩, arrives, halts⟩
      · exact .inl whole
      · exact .inr ⟨place, bracket, called, state, here, arrives, halts⟩
    · intro called state arrives
      have within := (List.getElem?_eq_some_iff.mp arrives).1
      refine recorded.trans ?_
      rw [nested, inmost, List.take_of_length_le (Nat.le_of_lt within), arrives, Option.elim_some]
    · intro place bracket called state here arrives halts
      have inRange := (List.getElem?_eq_some_iff.mp here).1
      have last : arrivals.length = place + 1 :=
        Layer.length_arrivals (by simp [layers, here]) arrives halts
      have uncalled : arrivals[brackets.length]? = none := List.getElem?_eq_none (by omega)
      refine ⟨last, recorded.trans ?_⟩
      rw [nested, inmost, uncalled, Option.elim_none, last, List.append_nil]

def noted : Action -> Option String
  | .note event => some event
  | _ => none

def marking (entry exit : String) : Bracket noted where
  layer := fun passage =>
    .perform (.note entry) <| .forward passage fun outcome =>
      .perform (.note exit) (.done (.returned outcome))
  entry := entry
  exit := exit
  brackets := fun _ => .enter rfl fun _ => .call fun outcome =>
    .leave (.inr rfl) rfl fun _ => .return outcome

def halting (entry exit : String) : Bracket noted where
  layer := fun _ => .perform (.note entry) <| .perform (.note exit) .succeed
  entry := entry
  exit := exit
  brackets := fun _ => .enter rfl fun _ => .leave (.inl rfl) rfl fun _ => .return (.ok ())

/-- A failure passes two layers on its way out. Where the second of three layers does not call
inwards, nobody notices that the handler would never end. -/
theorem compose_order_marking :
    (compose (layers [marking "a" "A", marking "b" "B"]) (Handler.failing (.auth "no"))
        default).records noted {} = ["a", "b", "B", "A"] ∧
      (compose (layers [marking "a" "A", halting "b" "B", marking "c" "C"]) Handler.stuck
        default).records noted {} = ["a", "b", "B", "A"] := by
  constructor
  · exact (compose_order.2.2 [marking "a" "A", marking "b" "B"] (Handler.failing (.auth "no"))
      default {} fun called state _ => ⟨.error (.auth "no"), state, rfl⟩).2.2.2.2.1 _ _ rfl
  · have uncalled : (Layer.arrivals (layers [marking "a" "A", halting "b" "B", marking "c" "C"])
        default {})[3]? = none := rfl
    exact ((compose_order.2.2 [marking "a" "A", halting "b" "B", marking "c" "C"] Handler.stuck
      default {} (fun _ _ reached => by cases uncalled.symm.trans reached)).2.2.2.2.2 1
        (halting "b" "B") default { notes := ["a"] } rfl rfl rfl).2

end Bracket

end HttpService
