import HttpService.Proofs.StandardLayers
/-! # What a task has done

`Task.Performs task deeds ending` says that the task comes to its ending by performing just these
actions, whatever answers it was given. Unlike a run it needs no state, so it can be said of a task
whose actions were performed between those of others. `performs_standard` takes the deeds of a request in
the standard layers apart, and `Tally` is what deeds come to in the counters. -/
set_option autoImplicit false

namespace HttpService

/-- An action with the answer it was given. -/
structure Deed where
  action : Action
  answer : action.Answer

namespace Task

inductive Performs : Task Empty -> List Deed -> Ending -> Prop where
  | done (ending : Ending) : Performs (.done ending) [] ending
  | act {action : Action} {next : action.Answer -> Task Empty} {deeds : List Deed} {ending : Ending}
      (answer : action.Answer) (rest : Performs (next answer) deeds ending) :
      Performs (.act action next) (⟨action, answer⟩ :: deeds) ending

@[simp] theorem performs_done {ending last : Ending} {deeds : List Deed} :
    (done ending).Performs deeds last ↔ deeds = [] ∧ last = ending := by
  constructor
  · rintro ⟨⟩
    exact ⟨rfl, rfl⟩
  · rintro ⟨rfl, rfl⟩
    exact .done last

@[simp] theorem performs_act {action : Action} {next : action.Answer -> Task Empty}
    {deeds : List Deed} {last : Ending} :
    (act action next).Performs deeds last ↔
      ∃ answer rest, deeds = ⟨action, answer⟩ :: rest ∧ (next answer).Performs rest last := by
  constructor
  · rintro ⟨⟩
    exact ⟨_, _, rfl, by assumption⟩
  · rintro ⟨answer, rest, rfl, performs⟩
    exact .act answer performs

theorem not_performs_stall {deeds : List Deed} {last : Ending} : ¬ stall.Performs deeds last := by
  rintro ⟨⟩

theorem performs_andThen {first : Task Empty} {next : Ending -> Task Empty} {deeds : List Deed}
    {last : Ending} :
    (first.andThen next).Performs deeds last ↔
      ∃ before after between, deeds = before ++ after ∧ first.Performs before between ∧
        (next between).Performs after last := by
  constructor
  · intro performs
    induction first generalizing deeds with
    | done ending => exact ⟨[], deeds, ending, rfl, .done ending, performs⟩
    | act action rest ih =>
        obtain ⟨answer, more, rfl, onwards⟩ := performs_act.mp performs
        obtain ⟨before, after, between, rfl, early, late⟩ := ih answer onwards
        exact ⟨⟨action, answer⟩ :: before, after, between, rfl, .act answer early, late⟩
    | call argument _ => exact argument.elim
    | stall => exact absurd performs not_performs_stall
  · rintro ⟨before, after, between, rfl, early, late⟩
    induction early with
    | done ending => exact late
    | act answer rest ih => exact .act answer (ih late)

/-- By the same deeds a task comes to one ending only, and no sooner. -/
theorem Performs.unique {task : Task Empty} {deeds others rest more : List Deed}
    {ending other : Ending} (performs : task.Performs deeds ending)
    (again : task.Performs others other) (same : deeds ++ rest = others ++ more) :
    deeds = others ∧ ending = other := by
  induction performs generalizing others with
  | done ending =>
      obtain ⟨rfl, rfl⟩ := performs_done.mp again
      exact ⟨rfl, rfl⟩
  | act answer performs ih =>
      obtain ⟨otherAnswer, tail, rfl, onwards⟩ := performs_act.mp again
      rw [List.cons_append, List.cons_append, List.cons.injEq] at same
      obtain ⟨first, later⟩ := same
      cases first
      obtain ⟨rfl, rfl⟩ := ih onwards later
      exact ⟨rfl, rfl⟩

end Task

/-! ## Deeds that count -/

namespace Deed

def counts (counter : Counter) (deed : Deed) : Bool :=
  match deed.action with
  | .count counted => counted == counter
  | _ => false

def samples (deed : Deed) : Bool :=
  match deed.action with
  | .sampleTasks => true
  | _ => false

def total? (deed : Deed) : Option Nat :=
  match deed with
  | ⟨.count .requests, total⟩ => some total
  | _ => none

def isDue (deed : Deed) : Bool := deed.total?.any fun total => total % Layer.sampleEvery = 0

end Deed

def Action.Neutral : Action -> Prop
  | .count _ => False
  | .sampleTasks => False
  | _ => True

namespace Task

variable {Call : Type}

/-- Whatever the task is answered, it leaves the counters alone. -/
def Neutral : Task Call -> Prop
  | .done _ => True
  | .act action next => action.Neutral ∧ ∀ answer, (next answer).Neutral
  | .call _ next => ∀ ending, (next ending).Neutral
  | .stall => True

theorem Neutral.andThen {first : Task Empty} {next : Ending -> Task Empty} (neutral : first.Neutral)
    (later : ∀ ending, (next ending).Neutral) : (first.andThen next).Neutral := by
  induction first with
  | done ending => exact later ending
  | act action rest ih => exact ⟨neutral.1, fun answer => ih answer (neutral.2 answer)⟩
  | call argument _ => exact argument.elim
  | stall => trivial

theorem Neutral.plug {task : Task Passage} {inner : Handler} (neutral : task.Neutral)
    (inside : ∀ passage, (inner passage).Neutral) : (task.plug inner).Neutral := by
  induction task with
  | done ending => trivial
  | act action rest ih => exact ⟨neutral.1, fun answer => ih answer (neutral.2 answer)⟩
  | call argument rest ih => exact (inside argument).andThen fun ending => ih ending (neutral ending)
  | stall => trivial

theorem Neutral.of_performs {task : Task Empty} (neutral : task.Neutral) {deeds : List Deed}
    {ending : Ending} (performs : task.Performs deeds ending) : ∀ deed ∈ deeds, deed.action.Neutral := by
  induction performs with
  | done ending => nofun
  | act answer rest ih =>
      intro deed present
      cases present with
      | head => exact neutral.1
      | tail _ later => exact ih (neutral.2 answer) deed later

end Task

def Handler.Neutral (handler : Handler) : Prop := ∀ passage, (handler passage).Neutral

def Layer.Neutral (layer : Layer) : Prop := ∀ passage, (layer passage).Neutral

theorem neutral_compose {layers : List Layer} {handler : Handler}
    (neutral : ∀ layer ∈ layers, layer.Neutral) (inside : handler.Neutral) :
    Handler.Neutral (compose layers handler) := by
  induction layers with
  | nil => exact inside
  | cons layer layers ih =>
      intro passage
      have inner := ih fun other present => neutral other (List.mem_cons_of_mem _ present)
      exact (neutral layer List.mem_cons_self passage).plug inner

/-! ## What a request in the standard layers does -/

/-- What the deeds come to in the counters; every total that asks for it is followed by a sample. -/
structure Tally (deeds : List Deed) (requests errors panics : Nat) : Prop where
  requests : deeds.countP (Deed.counts .requests) = requests
  errors : deeds.countP (Deed.counts .errors) = errors
  panics : deeds.countP (Deed.counts .panics) = panics
  samples : deeds.countP Deed.samples = deeds.countP Deed.isDue

theorem Tally.append {first second : List Deed} {requests errors panics : Nat}
    {moreRequests moreErrors morePanics : Nat} (tally : Tally first requests errors panics)
    (more : Tally second moreRequests moreErrors morePanics) :
    Tally (first ++ second) (requests + moreRequests) (errors + moreErrors) (panics + morePanics) := by
  constructor
  · rw [List.countP_append, tally.requests, more.requests]
  · rw [List.countP_append, tally.errors, more.errors]
  · rw [List.countP_append, tally.panics, more.panics]
  · rw [List.countP_append, List.countP_append, tally.samples, more.samples]

theorem Tally.of_neutral {deeds : List Deed} (neutral : ∀ deed ∈ deeds, deed.action.Neutral) :
    Tally deeds 0 0 0 := by
  have none (test : Deed -> Bool) (loud : ∀ deed, deed.action.Neutral -> test deed = false) :
      deeds.countP test = 0 := by
    rw [List.countP_eq_zero]
    intro deed present
    rw [loud deed (neutral deed present)]
    exact Bool.false_ne_true
  have silent (counter : Counter) (deed : Deed) (isNeutral : deed.action.Neutral) :
      deed.counts counter = false := by
    rcases deed with ⟨_ | _, _⟩ <;> first | rfl | exact isNeutral.elim
  refine ⟨none _ (silent _), none _ (silent _), none _ (silent _), ?_⟩
  rw [none Deed.samples, none Deed.isDue]
  · intro deed isNeutral
    rcases deed with ⟨_ | _, _⟩ <;> first | rfl | exact isNeutral.elim
  · intro deed isNeutral
    rcases deed with ⟨_ | _, _⟩ <;> first | rfl | exact isNeutral.elim

def Ending.isPanic : Ending -> Bool
  | .returned _ => false
  | .panicked _ => true

def Outcome.isFailure : Outcome -> Bool
  | .ok _ => false
  | .error _ => true

namespace Layer

variable {inner : Handler} {passage : Passage} {deeds : List Deed} {last : Ending}

theorem performs_forward {next : Outcome -> Task Passage}
    (performs : ((Task.forward passage next).plug inner).Performs deeds last) :
    ∃ during leaving ending, deeds = during ++ leaving ∧ (inner passage).Performs during ending ∧
      match ending with
      | .returned outcome => ((next outcome).plug inner).Performs leaving last
      | .panicked payload => leaving = [] ∧ last = .panicked payload := by
  obtain ⟨during, leaving, ending, rfl, inside, outward⟩ := Task.performs_andThen.mp performs
  refine ⟨during, leaving, ending, rfl, inside, ?_⟩
  cases ending with
  | returned outcome => exact outward
  | panicked payload => exact Task.performs_done.mp outward

/-- What is reported to Metrics is what Panics has made of the ending. -/
theorem performs_panics (performs : (panics.wrap inner passage).Performs deeds last) :
    ∃ during recovering ending, deeds = during ++ recovering ∧
      (inner passage).Performs during ending ∧ last = .returned ending.recovered ∧
      Tally recovering 0 0 ending.isPanic.toNat := by
  obtain ⟨during, recovering, ending, rfl, inside, outward⟩ := Task.performs_andThen.mp performs
  refine ⟨during, recovering, ending, rfl, inside, ?_⟩
  cases ending with
  | returned outcome =>
      obtain ⟨rfl, rfl⟩ := Task.performs_done.mp outward
      exact ⟨rfl, .of_neutral nofun⟩
  | panicked payload =>
      obtain ⟨total, rest, rfl, onwards⟩ := Task.performs_act.mp outward
      obtain ⟨rfl, rfl⟩ := Task.performs_done.mp onwards
      exact ⟨rfl, rfl, rfl, rfl, rfl⟩

theorem tally_countOutcome (outcome : Outcome)
    (performs : ((match outcome with
      | .ok () => Task.succeed
      | .error failure => Task.perform (.count .errors) (Task.fail failure) :
        Task Passage).plug inner).Performs deeds last) :
    Tally deeds 0 (Outcome.isFailure outcome).toNat 0 := by
  cases outcome with
  | ok done =>
      obtain ⟨rfl, rfl⟩ := Task.performs_done.mp performs
      exact .of_neutral nofun
  | error failure =>
      obtain ⟨total, rest, rfl, onwards⟩ := Task.performs_act.mp performs
      obtain ⟨rfl, rfl⟩ := Task.performs_done.mp onwards
      exact ⟨rfl, rfl, rfl, rfl⟩

theorem performs_metrics (performs : (metrics.wrap inner passage).Performs deeds last) :
    ∃ during leaving ending, deeds = during ++ leaving ∧ (inner passage).Performs during ending ∧
      ∀ outcome, ending = .returned outcome ->
        Tally leaving 1 (Outcome.isFailure outcome).toNat 0 := by
  obtain ⟨during, leaving, ending, rfl, inside, outward⟩ := performs_forward performs
  refine ⟨during, leaving, ending, rfl, inside, ?_⟩
  rintro outcome rfl
  obtain ⟨total, rest, rfl, onwards⟩ := Task.performs_act.mp outward
  simp only at onwards
  split at onwards
  next due =>
    obtain ⟨sampled, rest, rfl, ends⟩ := Task.performs_act.mp onwards
    have counted : Tally [⟨.count .requests, total⟩, ⟨.sampleTasks, sampled⟩] 1 0 0 := by
      refine ⟨rfl, rfl, rfl, ?_⟩
      have isDue : Deed.isDue ⟨.count .requests, total⟩ = true := decide_eq_true due
      rw [List.countP_cons_of_pos isDue]
      rfl
    simpa using counted.append (tally_countOutcome outcome ends)
  next notDue =>
    have counted : Tally [⟨.count .requests, total⟩] 1 0 0 := by
      refine ⟨rfl, rfl, rfl, ?_⟩
      have isDue : ¬ Deed.isDue ⟨.count .requests, total⟩ = true := by
        simpa [Deed.isDue, Deed.total?] using notDue
      rw [List.countP_cons_of_neg isDue]
      rfl
    simpa using counted.append (tally_countOutcome outcome onwards)

theorem performs_errors (performs : (errors.wrap inner passage).Performs deeds last) :
    ∃ during leaving ending, deeds = during ++ leaving ∧ (inner passage).Performs during ending ∧
      Tally leaving 0 0 0 := by
  obtain ⟨during, leaving, ending, rfl, inside, outward⟩ := performs_forward performs
  refine ⟨during, leaving, ending, rfl, inside, .of_neutral ?_⟩
  match ending with
  | .panicked payload =>
      rw [outward.1]
      nofun
  | .returned (.ok ()) =>
      obtain ⟨rfl, rfl⟩ := Task.performs_done.mp outward
      nofun
  | .returned (.error failure) =>
      have neutral : Task.Neutral (((Task.perform (.log (.failed failure)) <|
          .perform (.respond failure.response) <|
            if failure.isShutdown then .fail failure else .succeed) : Task Passage).plug inner) := by
        refine ⟨trivial, fun _ => ⟨trivial, fun _ => ?_⟩⟩
        split <;> trivial
      exact neutral.of_performs outward

def entry (line : RequestLine) : List Deed := [⟨.markStarted, ()⟩, ⟨.log (.started line), ()⟩]

theorem performs_logger (performs : (logger.wrap inner passage).Performs deeds last) :
    ∃ during leaving ending, deeds = entry passage.request.line ++ (during ++ leaving) ∧
      (inner passage).Performs during ending ∧ Tally leaving 0 0 0 := by
  obtain ⟨marked, rest, rfl, onwards⟩ := Task.performs_act.mp performs
  obtain ⟨logged, rest, rfl, further⟩ := Task.performs_act.mp onwards
  obtain ⟨during, leaving, ending, rfl, inside, outward⟩ := performs_forward further
  refine ⟨during, leaving, ending, rfl, inside, .of_neutral ?_⟩
  cases ending with
  | panicked payload =>
      rw [outward.1]
      nofun
  | returned outcome =>
      have neutral : Task.Neutral (((Task.act .readStatus fun status =>
          .perform (.log (.completed passage.request.line status)) (.done (.returned outcome))) :
          Task Passage).plug inner) := ⟨trivial, fun _ => ⟨trivial, fun _ => trivial⟩⟩
      exact neutral.of_performs outward

/-- The deeds of a request in the standard layers, around those of what is inside. The request, its
failure and its panic are counted once each. -/
theorem performs_standard {inside : Handler} (neutral : inside.Neutral)
    (performs : (compose standard inside passage).Performs deeds last) :
    ∃ during recovering leaving ending,
      deeds = entry passage.request.line ++ during ++ recovering ++ leaving ∧
      (inside passage).Performs during ending ∧
      (panics.wrap inside passage).Performs (during ++ recovering) (.returned ending.recovered) ∧
      Tally deeds 1 (Outcome.isFailure ending.recovered).toNat ending.isPanic.toNat := by
  obtain ⟨within, logging, answered, rfl, answering, logged⟩ := performs_logger performs
  obtain ⟨within, writing, counted, rfl, counting, written⟩ := performs_errors answering
  obtain ⟨within, leaving, reported, rfl, reporting, left⟩ := performs_metrics counting
  obtain ⟨during, recovering, ending, rfl, running, rfl, recovered⟩ := performs_panics reporting
  refine ⟨during, recovering, leaving ++ writing ++ logging, ending, ?_, running, reporting, ?_⟩
  · simp only [List.append_assoc]
  · -- Only the way out of Panics and of Metrics counts; everything around them is neutral.
    have entered : Tally (entry passage.request.line) 0 0 0 := by
      apply Tally.of_neutral
      intro deed present
      simp only [entry, List.mem_cons, List.not_mem_nil, or_false] at present
      rcases present with rfl | rfl <;> trivial
    have nothing : Tally during 0 0 0 := .of_neutral ((neutral passage).of_performs running)
    have whole := entered.append
      ((((nothing.append recovered).append (left _ rfl)).append written).append logged)
    simpa using whole

end Layer

end HttpService
