import HttpService.Proofs.Mediation
import HttpService.Proofs.Narration
/-! # Chains with observers

Logger, Metrics and Panics can be inserted anywhere into a chain. `World.Attended` relates the
states of a chain to those of the same chain with observers, `Task.Matches` relates tasks that go on
alike in such states, whatever they are told about the start of the request and the counters, and
`Segment.follows` carries both through a chain, segment by segment. -/
set_option autoImplicit false

namespace HttpService

namespace Action

/-- The answer depends on the start of the request or on the counters. -/
def Hidden : Action -> Prop
  | .readStarted => True
  | .count _ => True
  | .readCounters => True
  | _ => False

def Silent : Action -> Prop
  | .respond _ => False
  | .note _ => False
  | .pause _ => False
  | _ => True

theorem told_of_hidden {action : Action} (hidden : action.Hidden) (depth : Nat)
    (answer : action.Answer) : action.told depth answer = [] := by
  cases action with
  | respond response => exact hidden.elim
  | _ => rfl

theorem told_of_silent {action : Action} (silent : action.Silent) (depth : Nat)
    (answer : action.Answer) : action.told depth answer = [] := by
  cases action with
  | respond response => exact silent.elim
  | _ => rfl

end Action

namespace World

def bare (world : World) : World :=
  { world with exchange := { world.exchange with started := none }, counters := {}, log := [] }

/-- The second state differs from the first at most in the start of the request, in the counters and
by more lines in the log. -/
structure Attended (plain attended : World) : Prop where
  same : plain.bare = attended.bare
  log : plain.log.Sublist attended.log

theorem hides_bare : Hides bare (¬ ·.Hidden) where
  elapsed _ := rfl
  step world action := by
    cases action with
    | respond response =>
        have same : world.bare.exchange.response = world.exchange.response := rfl
        simp only [perform, respond, Exchange.respond, same]
        cases world.exchange.response <;> exact ⟨fun _ => rfl, rfl⟩
    | readStarted => exact ⟨fun seen => absurd trivial seen, rfl⟩
    | count counter => exact ⟨fun seen => absurd trivial seen, rfl⟩
    | readCounters => exact ⟨fun seen => absurd trivial seen, rfl⟩
    | _ => exact ⟨fun _ => rfl, rfl⟩

namespace Attended

variable {plain attended : World}

theorem elapsed (related : plain.Attended attended) : plain.elapsed = attended.elapsed := by
  have same := congrArg World.elapsed related.same
  exact same

theorem response (related : plain.Attended attended) :
    plain.exchange.response = attended.exchange.response := by
  have same := congrArg (fun world : World => world.exchange.response) related.same
  exact same

theorem channel (related : plain.Attended attended) : plain.channel = attended.channel := by
  have same := congrArg World.channel related.same
  exact same

theorem sent (related : plain.Attended attended) : plain.sent = attended.sent := by
  have same := congrArg World.sent related.same
  exact same

theorem inTime (related : plain.Attended attended) {limit : Option Nat} :
    plain.InTime limit ↔ attended.InTime limit := by
  rw [World.InTime, World.InTime, related.elapsed]

theorem addLog (related : plain.Attended attended) (entry : LogEntry) :
    (plain.addLog entry).Attended (attended.addLog entry) :=
  ⟨related.same, related.log.append (List.Sublist.refl _)⟩

theorem perform (related : plain.Attended attended) (action : Action) :
    (¬ action.Hidden -> (plain.perform action).1 = (attended.perform action).1) ∧
      (plain.perform action).2.Attended (attended.perform action).2 := by
  obtain ⟨sameAnswer, same⟩ := hides_bare.perform related.same action
  refine ⟨sameAnswer, same, ?_⟩
  cases action with
  | respond response =>
      simp only [World.perform, World.respond, Exchange.respond, related.response]
      cases attended.exchange.response with
      | none => exact related.log
      | some held => exact (related.addLog _).log
  | log entry => exact (related.addLog entry).log
  | _ => exact related.log

/-- An action of an observer. -/
theorem observe (related : plain.Attended attended) {action : Action} (silent : action.Silent) :
    plain.Attended (attended.perform action).2 := by
  cases action with
  | respond response => exact silent.elim
  | note event => exact silent.elim
  | pause milliseconds => exact silent.elim
  | log entry =>
      exact ⟨related.same, related.log.trans (List.sublist_append_left _ _)⟩
  | _ => exact ⟨related.same, related.log⟩

end Attended

end World

namespace Task

variable {Call : Type}

/-- The second task does what the first one does, whatever both are told about what is hidden, and
may observe besides. Samples of the live tasks do not count. Nothing is said about what follows a
panic of a call. -/
inductive Matches : Task Call -> Task Call -> Prop where
  | done (ending : Ending) : Matches (.done ending) (.done ending)
  | act {action : Action} {next other : action.Answer -> Task Call}
      (rest : ∀ answer, Matches (next answer) (other answer)) (seen : ¬ action.Hidden) :
      Matches (.act action next) (.act action other)
  | hidden {action : Action} {next other : action.Answer -> Task Call} (hidden : action.Hidden)
      (rest : ∀ answer told, Matches (next answer) (other told)) :
      Matches (.act action next) (.act action other)
  | call {argument : Call} {next other : Ending -> Task Call}
      (rest : ∀ outcome, Matches (next (.returned outcome)) (other (.returned outcome))) :
      Matches (.call argument next) (.call argument other)
  | stall : Matches .stall .stall
  | sample {next : Unit -> Task Call} {other : Task Call} (rest : Matches (next ()) other) :
      Matches (.act .sampleTasks next) other
  | observe {action : Action} {task : Task Call} {next : action.Answer -> Task Call}
      (silent : action.Silent) (rest : ∀ answer, Matches task (next answer)) :
      Matches task (.act action next)

theorem Matches.sampled {task other : Task Call} (matching : task.Matches other) (due : Prop)
    [Decidable due] : task.Matches (if due then .perform .sampleTasks other else other) := by
  split
  · exact .observe trivial fun _ => matching
  · exact matching

theorem Matches.unsampled {task other : Task Call} (matching : task.Matches other) (due : Prop)
    [Decidable due] : Matches (if due then .perform .sampleTasks task else task) other := by
  split
  · exact .sample matching
  · exact matching

theorem matches_self {task : Task Call} (blind : task.Only (¬ ·.Hidden)) : task.Matches task := by
  induction task with
  | done ending => exact .done ending
  | act action rest ih => exact .act (fun answer => ih answer (blind.2 answer)) blind.1
  | call argument rest ih => exact .call fun outcome => ih _ (blind _)
  | stall => exact .stall

end Task

structure Narrated.Like (plain attended : Narrated) : Prop where
  events : attended.1 = plain.1
  stop : attended.2.1 = plain.2.1
  world : plain.2.2.Attended attended.2.2

theorem Narrated.Like.preceded {plain attended : Narrated} (like : plain.Like attended)
    (events : List Event) : (plain.preceded events).Like (attended.preceded events) :=
  ⟨congrArg (events ++ ·) like.events, like.stop, like.world⟩

def Follows {Call : Type} (limit : Option Nat) (plain attended : Call -> World -> Narrated) :
    Prop :=
  ∀ call first second, first.InTime limit -> first.Attended second ->
    Orderly (plain call first).1 ->
    (plain call first).Like (attended call second) ∧
      ∀ ending, (plain call first).2.1 = .ended ending ->
        (∃ outcome, ending = .returned outcome) ∧ (plain call first).2.2.InTime limit

namespace Task

variable {Call : Type} {limit : Option Nat} {depth : Nat}
  {inside watched : Call -> World -> Narrated} {task other : Task Call}

/-- Tasks that match go alike if what they call goes alike. -/
theorem Matches.like (matching : task.Matches other) (follows : Follows limit inside watched)
    {first second : World} (inTime : first.InTime limit) (related : first.Attended second)
    (orderly : Orderly (task.narrate limit depth inside first).1) :
    (task.narrate limit depth inside first).Like (other.narrate limit depth watched second) := by
  induction matching generalizing first second with
  | done ending => exact ⟨rfl, rfl, related⟩
  | @act action next other rest seen ih =>
      obtain ⟨sameAnswer, afterwards⟩ := related.perform action
      have sameAnswer := sameAnswer seen
      by_cases still : (first.perform action).2.InTime limit
      · rw [narrate_act next still] at orderly ⊢
        rw [narrate_act other (afterwards.inTime.mp still), ← sameAnswer]
        exact (ih _ still afterwards (Orderly.append_iff.mp orderly).2).preceded _
      · rw [narrate_act_late next still, narrate_act_late other (mt afterwards.inTime.mpr still),
          ← sameAnswer]
        exact ⟨rfl, rfl, afterwards⟩
  | @hidden action next other hidden rest ih =>
      have afterwards := (related.perform action).2
      have quick : ∀ milliseconds, action ≠ .pause milliseconds := by
        rintro milliseconds rfl
        exact hidden.elim
      have still := inTime_perform inTime action quick
      rw [narrate_act next still] at orderly ⊢
      rw [narrate_act other (afterwards.inTime.mp still)]
      rw [Action.told_of_hidden hidden] at orderly ⊢
      rw [Action.told_of_hidden hidden]
      exact (ih _ _ still afterwards orderly).preceded []
  | @call argument next other rest ih =>
      simp only [narrate] at orderly ⊢
      have called := follows argument first second inTime related
      generalize inside argument first = plain at called orderly ⊢
      generalize watched argument second = attended at called ⊢
      obtain ⟨events, stop, after⟩ := plain
      obtain ⟨watchedEvents, watchedStop, watchedAfter⟩ := attended
      cases stop with
      | cutOff =>
          obtain ⟨⟨sameEvents, sameStop, afterwards⟩, -⟩ := called orderly
          cases sameStop
          exact ⟨sameEvents, rfl, afterwards⟩
      | ended ending =>
          have inner := (Orderly.append_iff.mp orderly).1
          obtain ⟨⟨sameEvents, sameStop, afterwards⟩, ends⟩ := called inner
          obtain ⟨⟨outcome, rfl⟩, still⟩ := ends ending rfl
          cases sameStop
          cases sameEvents
          exact (ih outcome still afterwards (Orderly.append_iff.mp orderly).2).preceded events
  | stall => exact ⟨rfl, rfl, related⟩
  | @sample next other rest ih =>
      have still := inTime_perform inTime .sampleTasks (by simp)
      rw [narrate_act next still] at orderly ⊢
      have sampled : (first.perform .sampleTasks).2.Attended second := ⟨related.same, related.log⟩
      exact ih still sampled orderly
  | @observe action task next silent rest ih =>
      have quick : ∀ milliseconds, action ≠ .pause milliseconds := by
        rintro milliseconds rfl
        exact silent.elim
      have still := inTime_perform (related.inTime.mp inTime) action quick
      rw [narrate_act next still]
      rw [Action.told_of_silent silent]
      exact (ih _ inTime (related.observe silent) orderly).preceded []

end Task

/-! ## Steady chains and observers -/

def Layer.Steady (layer : Layer) : Prop := ∀ passage, (layer passage).Matches (layer passage)

def Handler.Steady (handler : Handler) : Prop :=
  ∀ passage, (handler passage).Matches (handler passage)

namespace Layer

def observers : List Layer := [logger, metrics, panics]

/-- The layer does no more than to call inwards, except for what it observes. -/
def Observes (layer : Layer) : Prop := ∀ passage, (Task.proceed passage).Matches (layer passage)

theorem observes_logger : logger.Observes := by
  intro passage
  refine .observe trivial fun _ => .observe trivial fun _ => .call fun outcome => ?_
  exact .observe trivial fun status => .observe trivial fun _ => .done _

theorem observes_metrics : metrics.Observes := by
  intro passage
  refine .call fun outcome => .observe trivial fun total => Task.Matches.sampled ?_ _
  cases outcome with
  | ok done => exact .done _
  | error failure => exact .observe trivial fun _ => .done _

theorem observes_panics : panics.Observes := by
  intro passage
  exact .call fun outcome => .done _

theorem observes_of_mem {layer : Layer} (listed : layer ∈ observers) : layer.Observes := by
  simp only [observers, List.mem_cons, List.not_mem_nil, or_false] at listed
  rcases listed with rfl | rfl | rfl
  · exact observes_logger
  · exact observes_metrics
  · exact observes_panics

end Layer

/-- The layers of this library are steady. -/
theorem Stage.steady (stage : Stage) : stage.layer.Steady := by
  intro passage
  cases stage with
  | logger =>
      refine .act (fun _ => .act (fun _ => .call fun outcome => ?_) id) id
      exact .act (fun status => .act (fun _ => .done _) id) id
  | errors =>
      refine .call fun outcome => ?_
      cases outcome with
      | ok done => exact .done _
      | error failure =>
          refine .act (fun _ => .act (fun _ => ?_) id) id
          cases failure.isShutdown <;> exact .done _
  | metrics =>
      -- The totals need not agree, and then just one of the two may be due for a sample.
      refine .call fun outcome => .hidden trivial fun total other => .sampled (.unsampled ?_ _) _
      cases outcome with
      | ok done => exact .done _
      | error failure => exact .hidden trivial fun _ _ => .done _
  | panics => exact .call fun outcome => .done _
  | authenticate verifier =>
      refine .act (fun now => ?_) id
      split
      · exact .done _
      · exact .call fun outcome => .done _
  | authorize rule =>
      simp only [Stage.layer, Layer.authorize]
      split
      · exact .done _
      · split
        · exact .done _
        · exact .call fun outcome => .done _

/-! ## Through a chain -/

namespace Segment

def Sound : Segment -> Prop
  | .kept layer => layer.Steady
  | .inserted layer => layer ∈ Layer.observers

variable {limit : Option Nat}

/-- What is told of a call shows whether it panicked. -/
theorem like_enclose {plain attended : Narrated} (depth : Nat) (passage : Passage)
    (like : Orderly plain.1 -> plain.Like attended)
    (orderly : Orderly (enclose depth passage plain).1) :
    (enclose depth passage plain).Like (enclose depth passage attended) ∧
      ∀ ending, plain.2.1 = .ended ending -> ∃ outcome, ending = .returned outcome := by
  have later : Orderly (plain.1 ++ plain.2.1.told depth) := fun event told =>
    orderly event (List.mem_cons_of_mem _ told)
  obtain ⟨inner, last⟩ := Orderly.append_iff.mp later
  obtain ⟨events, stop, world⟩ := like inner
  refine ⟨⟨?_, stop, world⟩, ?_⟩
  · simp only [enclose, events, stop]
  · intro ending ended
    cases ending with
    | returned outcome => exact ⟨outcome, rfl⟩
    | panicked payload =>
        rw [ended] at last
        cases last (.left depth (.panicked payload)) List.mem_cons_self

theorem follows {handler : Handler} (steady : handler.Steady) {segments : List Segment}
    (sound : ∀ segment ∈ segments, segment.Sound) (depth : Nat) :
    Follows limit (unattended limit handler depth (originals segments))
      (narrate limit handler depth segments) := by
  induction segments generalizing depth with
  | nil =>
      intro passage first second inTime related orderly
      have nothing : Follows limit (fun call : Empty => call.elim) fun call => call.elim :=
        fun call => call.elim
      obtain ⟨like, returns⟩ := like_enclose depth passage
        (fun inner => (steady passage).like nothing inTime related inner) orderly
      exact ⟨like, fun ending ended => ⟨returns ending ended, unattended_inTime inTime ended⟩⟩
  | cons segment rest ih =>
      have within := ih fun other listed => sound other (List.mem_cons_of_mem segment listed)
      cases segment with
      | kept layer =>
          intro passage first second inTime related orderly
          have layerSteady : layer.Steady := sound _ List.mem_cons_self
          obtain ⟨like, returns⟩ := like_enclose depth passage
            (fun inner => (layerSteady passage).like (within (depth + 1)) inTime related inner)
            orderly
          exact ⟨like, fun ending ended => ⟨returns ending ended, unattended_inTime inTime ended⟩⟩
      | inserted layer =>
          intro passage first second inTime related orderly
          have observes := Layer.observes_of_mem (sound (.inserted layer) List.mem_cons_self)
          have ends := (within depth passage first second inTime related orderly).2
          refine ⟨?_, ends⟩
          -- Without the observer there is a call and nothing else.
          have called : (Task.proceed passage).narrate limit depth
              (unattended limit handler depth (originals rest)) first =
                unattended limit handler depth (originals rest) passage first :=
            Task.narrate_proceed _ passage first
          have like := (observes passage).like (within depth) inTime related
            (by rw [called]; exact orderly)
          rwa [called] at like

end Segment

end HttpService
