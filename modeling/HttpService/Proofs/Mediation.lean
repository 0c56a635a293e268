import HttpService.Proofs.Observation
import HttpService.Proofs.StandardLayers
/-! # Who gets through to a handler

Chains made of the layers of this library, in any order and any number. `Admitted` says of a list of
them, without running any, that nobody in it refuses a request: every verifier accepts its header,
and every rule allows the claims of the nearest verifier outside it. `admitted_snoc` is the step
from one layer to the next, `Follows.callsAt` follows the calls through the run, and `mediation`
concludes that the layers reached are those behind an admitting list. -/
set_option autoImplicit false

namespace HttpService

inductive Stage where
  | logger
  | errors
  | metrics
  | panics
  | authenticate (verifier : Verifier)
  | authorize (rule : Rule)

namespace Stage

def layer : Stage -> Layer
  | .logger => Layer.logger
  | .errors => Layer.errors
  | .metrics => Layer.metrics
  | .panics => Layer.panics
  | .authenticate verifier => Layer.authenticate verifier
  | .authorize rule => Layer.authorize rule

def verifier? : Stage -> Option Verifier
  | .authenticate verifier => some verifier
  | _ => none

/-- The text of the header that carries a token; one that is missing or not visible text is empty. -/
def header (request : Request) : String := (request.header Layer.authorizationHeader).getD ""

/-- The verifier that is nearest to what stands inside all these layers. -/
def nearest? (outer : List Stage) : Option Verifier := (outer.filterMap verifier?).getLast?

def attached (now : Moment) (request : Request) (outer : List Stage) : Option Claims :=
  (nearest? outer).bind fun verifier => (verifier.authenticate now (header request)).toOption

structure Admitted (now : Moment) (request : Request) (stages : List Stage) : Prop where
  accepted : ∀ verifier, authenticate verifier ∈ stages ->
    ∃ claims, verifier.authenticate now (header request) = .ok claims
  allowed : ∀ outer rule inner, stages = outer ++ authorize rule :: inner ->
    ∃ verifier claims, nearest? outer = some verifier ∧
      verifier.authenticate now (header request) = .ok claims ∧ rule.allows claims none = true

def judge (now : Moment) (request : Request) (claims : Option Claims) :
    Stage -> Except String (Option Claims)
  | .authenticate verifier =>
      match verifier.authenticate now (header request) with
      | .error fault => .error ("authenticate: failed: " ++ fault.message)
      | .ok found => .ok (some found)
  | .authorize rule =>
      match claims with
      | none => .error "authorize: you are not authorized for that action, no claims"
      | some found =>
          match rule.authorize found none with
          | .error refusal => .error ("authorize: rule[" ++ rule.name ++ "]: " ++ refusal)
          | .ok () => .ok claims
  | _ => .ok claims

def entryState (request : Request) (world : World) : Stage -> World
  | .logger => Layer.loggerEntry request.line world
  | _ => world

theorem entryState_now (stage : Stage) (request : Request) (world : World) :
    (stage.entryState request world).now = world.now := by
  cases stage <;> rfl

theorem entryState_inTime {limit : Option Nat} {world : World} (inTime : world.InTime limit)
    (stage : Stage) (request : Request) : (stage.entryState request world).InTime limit := by
  cases stage <;> exact inTime

theorem observe_refused (limit : Option Nat) (inside : Observed) (stage : Stage)
    (passage : Passage) (world : World) (inTime : world.InTime limit) (message : String)
    (refused : stage.judge world.now passage.request passage.claims = .error message) :
    ((stage.layer passage).observe limit inside world) =
      ([], .ended (.returned (.error (.auth message))), world) := by
  cases stage with
  | authenticate verifier =>
      simp only [judge] at refused
      simp only [layer, Layer.authenticate]
      rw [Task.observe_act limit inside _ _ world inTime (by simp)]
      simp only [World.perform]
      simp only [header] at refused
      cases checked : verifier.authenticate world.now
          ((passage.request.header Layer.authorizationHeader).getD "") with
      | error fault =>
          simp only [checked, Except.error.injEq] at refused ⊢
          rw [← refused]
          rfl
      | ok found => simp [checked] at refused
  | authorize rule =>
      simp only [judge] at refused
      simp only [layer, Layer.authorize]
      cases present : passage.claims with
      | none =>
          simp only [present, Except.error.injEq] at refused ⊢
          rw [← refused]
          rfl
      | some found =>
          cases checked : rule.authorize found none with
          | error refusal =>
              simp only [present, checked, Except.error.injEq] at refused ⊢
              rw [← refused]
              rfl
          | ok allowed => simp [present, checked] at refused
  | _ => simp [judge] at refused

/-- Once the outcome is known, Metrics only counts. -/
theorem quiet_metrics (outcome : Outcome) :
    (Task.act (.count .requests) fun total =>
      let ending := match outcome with
        | .ok () => Task.succeed
        | .error failure => .perform (.count .errors) (.fail failure)
      if total % Layer.sampleEvery = 0 then .perform .sampleTasks ending else ending).Quiet := by
  have counted : (match outcome with
      | .ok () => Task.succeed
      | .error failure => .perform (.count .errors) (.fail failure) : Task Passage).Quiet := by
    cases outcome with
    | ok done => exact .done _
    | error failure => exact .perform _ (.done _)
  refine .act _ _ ?_
  intro total
  simp only
  split
  · exact .perform _ counted
  · exact counted

/-- A layer that lets a request pass calls inwards once, with the request and the claims. -/
theorem observe_passed (limit : Option Nat) (inside : Observed) (stage : Stage)
    (passage : Passage) (world : World) (inTime : world.InTime limit) (claims : Option Claims)
    (passed : stage.judge world.now passage.request passage.claims = .ok claims) :
    ((stage.layer passage).observe limit inside world).1 =
      (inside ⟨claims, passage.request⟩ (stage.entryState passage.request world)).1 := by
  obtain ⟨before, request⟩ := passage
  cases stage with
  | logger =>
      simp only [judge, Except.ok.injEq] at passed
      subst passed
      have markInTime := Task.inTime_perform inTime .markStarted (by simp)
      simp only [layer, Layer.logger, Task.perform]
      rw [Task.observe_act limit inside _ _ world inTime (by simp)]
      rw [Task.observe_act limit inside _ _ _ markInTime (by simp)]
      refine Task.observe_forward limit inside _ ?_ _
      intro outcome
      exact .act _ _ fun _ => .perform _ (.done _)
  | errors =>
      simp only [judge, Except.ok.injEq] at passed
      subst passed
      refine Task.observe_forward limit inside _ ?_ _
      intro outcome
      cases outcome with
      | ok done => exact .done _
      | error failure =>
          refine .perform _ (.perform _ ?_)
          cases failure.isShutdown <;> exact .done _
  | metrics =>
      simp only [judge, Except.ok.injEq] at passed
      subst passed
      exact Task.observe_forward limit inside _ quiet_metrics _
  | panics =>
      simp only [judge, Except.ok.injEq] at passed
      subst passed
      refine Task.observe_call limit inside _ ?_ _
      intro ending
      cases ending with
      | returned outcome => exact .done _
      | panicked payload => exact .perform _ (.done _)
  | authenticate verifier =>
      simp only [judge, header] at passed
      simp only [layer, Layer.authenticate]
      rw [Task.observe_act limit inside _ _ world inTime (by simp)]
      simp only [World.perform]
      cases checked : verifier.authenticate world.now
          ((request.header Layer.authorizationHeader).getD "") with
      | error fault => simp [checked] at passed
      | ok found =>
          simp only [checked, Except.ok.injEq] at passed ⊢
          subst passed
          exact Task.observe_call limit inside _ (fun ending => .done ending) _
  | authorize rule =>
      simp only [judge] at passed
      simp only [layer, Layer.authorize]
      cases before with
      | none => simp at passed
      | some found =>
          cases checked : rule.authorize found none with
          | error refusal => simp [checked] at passed
          | ok allowed =>
              simp only [checked, Except.ok.injEq] at passed ⊢
              subst passed
              exact Task.observe_call limit inside _ (fun ending => .done ending) _

section Admission

variable (now : Moment) (request : Request)

theorem nearest?_snoc (outer : List Stage) (stage : Stage) :
    nearest? (outer ++ [stage]) = stage.verifier?.or (nearest? outer) := by
  simp only [nearest?, List.filterMap_append]
  cases found : stage.verifier? with
  | none => simp [found]
  | some verifier => simp [found]

/-- What a layer passes on is what the next one finds attached. -/
theorem attached_snoc (outer : List Stage) (stage : Stage) (claims : Option Claims)
    (passed : stage.judge now request (attached now request outer) = .ok claims) :
    attached now request (outer ++ [stage]) = claims := by
  simp only [attached, nearest?_snoc]
  cases stage with
  | authenticate verifier =>
      simp only [judge] at passed
      split at passed
      next => simp at passed
      next found checked =>
        simp only [Except.ok.injEq] at passed
        simp [verifier?, checked, Except.toOption, ← passed]
  | authorize rule =>
      simp only [judge] at passed
      split at passed
      next => simp at passed
      next found present =>
        split at passed
        next => simp at passed
        next => exact Except.ok.inj passed
  | _ => exact Except.ok.inj passed

theorem admitted_nil : Admitted now request [] := by
  constructor
  · intro verifier listed
    simp at listed
  · intro outer rule inner parts
    simp at parts

variable {now request} in
theorem Admitted.of_append {outer inner : List Stage}
    (admitted : Admitted now request (outer ++ inner)) : Admitted now request outer := by
  constructor
  · intro verifier listed
    exact admitted.accepted verifier (List.mem_append_left _ listed)
  · intro earlier rule later parts
    refine admitted.allowed earlier rule (later ++ inner) ?_
    rw [parts, List.append_assoc]
    rfl

/-- One more layer admits a request exactly if it does not refuse what is attached outside it. -/
theorem admitted_snoc (outer : List Stage) (stage : Stage) :
    Admitted now request (outer ++ [stage]) ↔
      Admitted now request outer ∧
        ∃ claims, stage.judge now request (attached now request outer) = .ok claims := by
  constructor
  · intro admitted
    refine ⟨admitted.of_append, ?_⟩
    cases stage with
    | authenticate verifier =>
        obtain ⟨claims, accepted⟩ := admitted.accepted verifier (by simp)
        exact ⟨some claims, by simp [judge, accepted]⟩
    | authorize rule =>
        obtain ⟨verifier, claims, nearest, accepted, allows⟩ := admitted.allowed outer rule [] rfl
        have present : attached now request outer = some claims := by
          simp [attached, nearest, accepted, Except.toOption]
        exact ⟨some claims, by simp [judge, present, Rule.authorize, allows, pure, Except.pure]⟩
    | _ => exact ⟨_, rfl⟩
  · rintro ⟨before, claims, passed⟩
    constructor
    · intro verifier listed
      cases List.mem_append.mp listed with
      | inl earlier => exact before.accepted verifier earlier
      | inr last =>
          rw [List.mem_singleton] at last
          subst last
          simp only [judge] at passed
          split at passed
          next => simp at passed
          next found checked => exact ⟨found, checked⟩
    · intro earlier rule inner parts
      rcases List.eq_nil_or_concat inner with nothing | ⟨between, last, ends⟩
      · subst nothing
        obtain ⟨sameOuter, sameStage⟩ := List.append_inj' parts rfl
        simp only [List.cons.injEq, and_true] at sameStage
        subst sameOuter
        subst sameStage
        simp only [judge] at passed
        split at passed
        next => simp at passed
        next found present =>
          simp only [attached, Option.bind_eq_some_iff] at present
          obtain ⟨verifier, nearest, accepted⟩ := present
          split at passed
          next => simp at passed
          next allowed =>
            refine ⟨verifier, found, nearest, ?_, ?_⟩
            · cases checked : verifier.authenticate now (header request) with
              | error fault => simp [checked, Except.toOption] at accepted
              | ok claims => simpa [checked, Except.toOption] using accepted
            · simp only [Rule.authorize] at allowed
              split at allowed
              next allows => exact allows
              next => simp [throw, throwThe, MonadExceptOf.throw] at allowed
      · subst ends
        have regrouped : outer ++ [stage] = (earlier ++ authorize rule :: between) ++ [last] := by
          rw [parts]
          simp
        obtain ⟨sameOuter, -⟩ := List.append_inj' regrouped rfl
        exact before.allowed earlier rule between sameOuter

end Admission

/-- What the crossings of a chain show. It stands inside the layers `outer`, all of which admitted
the request, and so many of its own layers let the request pass. -/
structure Follows (now : Moment) (request : Request) (outer stages : List Stage) (passed : Nat)
    (crossings : List Crossing) : Prop where
  within : passed ≤ stages.length
  entered : Crossing.entries crossings = (List.range (passed + 1)).map fun inward =>
    (outer.length + inward, ⟨attached now request (outer ++ stages.take inward), request⟩)
  admitted : Admitted now request (outer ++ stages.take passed)
  refused : passed < stages.length ->
    ¬ Admitted now request (outer ++ stages.take (passed + 1)) ∧
      ∃ message, Crossing.left (outer.length + passed) (.returned (.error (.auth message))) ∈ crossings

theorem observe_follows (limit : Option Nat) (handler : Handler) (request : Request)
    (stages outer : List Stage) (world : World) (inTime : world.InTime limit)
    (admitted : Admitted world.now request outer) :
    ∃ passed, Follows world.now request outer stages passed
      (Layer.observe limit handler outer.length (stages.map layer)
        ⟨attached world.now request outer, request⟩ world).1 := by
  induction stages generalizing outer world with
  | nil =>
      refine ⟨0, Nat.le_refl 0, ?_, ?_, ?_⟩
      · simp [Layer.entries_observe_nil]
      · simpa using admitted
      · intro impossible
        simp at impossible
  | cons stage rest ih =>
      have step := admitted_snoc world.now request outer stage
      cases judged : stage.judge world.now request (attached world.now request outer) with
      | error message =>
          have stopped := observe_refused limit
            (Layer.observe limit handler (outer.length + 1) (rest.map layer)) stage
            ⟨attached world.now request outer, request⟩ world inTime message judged
          refine ⟨0, Nat.zero_le _, ?_, ?_, ?_⟩
          · rw [List.map_cons, Layer.entries_observe_cons, stopped]
            simp [Crossing.entries]
          · simpa using admitted
          · intro _
            refine ⟨?_, message, ?_⟩
            · simp only [Nat.zero_add, List.take_succ_cons, List.take_zero]
              rw [step, judged]
              simp
            · simp [Layer.observe, stopped, Stop.crossings]
      | ok claims =>
          have attachedNext := attached_snoc world.now request outer stage claims judged
          have inside := observe_passed limit
            (Layer.observe limit handler (outer.length + 1) (rest.map layer)) stage
            ⟨attached world.now request outer, request⟩ world inTime claims judged
          have admittedNext := step.mpr ⟨admitted, claims, judged⟩
          obtain ⟨passed, follows⟩ := ih (outer ++ [stage]) (stage.entryState request world)
            (entryState_inTime inTime stage request) (by rw [entryState_now]; exact admittedNext)
          simp only [entryState_now, attachedNext, List.length_append, List.length_singleton]
            at follows
          rw [← inside] at follows
          have regrouped (inward : Nat) :
              outer ++ [stage] ++ rest.take inward = outer ++ (stage :: rest).take (inward + 1) := by
            simp
          refine ⟨passed + 1, Nat.succ_le_succ follows.within, ?_, ?_, ?_⟩
          · have first : List.range (passed + 1 + 1) = 0 :: (List.range (passed + 1)).map Nat.succ :=
              List.range_succ_eq_map
            rw [List.map_cons, Layer.entries_observe_cons, follows.entered, first, List.map_cons,
              List.map_map]
            simp [Function.comp_def, Nat.add_assoc, Nat.add_comm 1]
          · rw [← regrouped]
            exact follows.admitted
          · intro further
            obtain ⟨notAdmitted, message, left⟩ := follows.refused (by simpa using further)
            refine ⟨?_, message, ?_⟩
            · rw [← regrouped]
              exact notAdmitted
            · have place : (outer ++ [stage]).length + passed = outer.length + (passed + 1) := by
                simp only [List.length_append, List.length_singleton]
                omega
              rw [place] at left
              simp only [List.map_cons, Layer.observe]
              exact List.mem_cons_of_mem _ (List.mem_append_left _ left)

theorem filterMap_range (f : Nat -> Passage) (depth count : Nat) :
    (List.range count).filterMap (fun inward => if inward = depth then some (f inward) else none) =
      if depth < count then [f depth] else [] := by
  induction count with
  | zero => rfl
  | succ count ih =>
      rw [List.range_succ, List.filterMap_append, ih]
      by_cases same : count = depth
      · subst same
        simp
      · have further : depth < count + 1 ↔ depth < count := by omega
        simp [same, further]

theorem Follows.callsAt {now : Moment} {request : Request} {stages : List Stage} {passed : Nat}
    {crossings : List Crossing} (follows : Follows now request [] stages passed crossings) :
    Crossing.callsAt stages.length crossings =
      if stages.length < passed + 1 then [⟨attached now request stages, request⟩] else [] := by
  have calls := filterMap_range
    (fun inward => ⟨attached now request (stages.take inward), request⟩) stages.length (passed + 1)
  rw [List.take_length] at calls
  rw [Crossing.callsAt, follows.entered, List.filterMap_map, ← calls]
  simp only [Function.comp_def, List.length_nil, Nat.zero_add, List.nil_append]

/-- **Complete mediation.** A handler inside any chain of the layers of this library is called once,
with the request and the claims of the nearest verifier, if no layer of the chain refuses the
request, and otherwise not at all: the first layer that refuses it ends in an authorization failure,
and nothing inside this layer is called. A layer is only ever called with the claims of the nearest
verifier outside it. -/
theorem mediation (stages : List Stage) (handler : Handler) (limit : Option Nat)
    (request : Request) (world : World) (inTime : world.InTime limit) :
    let observed := Layer.observe limit handler 0 (stages.map layer) ⟨none, request⟩ world
    observed.2 = (compose (stages.map layer) handler ⟨none, request⟩).run limit world ∧
    (Admitted world.now request stages ->
      Crossing.callsAt stages.length observed.1 =
        [⟨attached world.now request stages, request⟩]) ∧
    (¬ Admitted world.now request stages ->
      Crossing.callsAt stages.length observed.1 = [] ∧
      ∃ outer stage inner message, stages = outer ++ stage :: inner ∧
        Admitted world.now request outer ∧ ¬ Admitted world.now request (outer ++ [stage]) ∧
        Crossing.left outer.length (.returned (.error (.auth message))) ∈ observed.1 ∧
        ∀ depth passage, (depth, passage) ∈ Crossing.entries observed.1 -> depth ≤ outer.length) ∧
    ∀ depth passage, (depth, passage) ∈ Crossing.entries observed.1 ->
      passage = ⟨attached world.now request (stages.take depth), request⟩ := by
  obtain ⟨passed, follows⟩ : ∃ passed, Follows world.now request [] stages passed
      (Layer.observe limit handler 0 (stages.map layer) ⟨none, request⟩ world).1 :=
    observe_follows limit handler request stages [] world inTime
      (admitted_nil world.now request)
  have called (depth : Nat) (passage : Passage)
      (entered : (depth, passage) ∈ Crossing.entries
        (Layer.observe limit handler 0 (stages.map layer) ⟨none, request⟩ world).1) :
      depth ≤ passed ∧ passage = ⟨attached world.now request (stages.take depth), request⟩ := by
    rw [follows.entered] at entered
    simp only [List.length_nil, Nat.zero_add, List.nil_append, List.mem_map, List.mem_range,
      Prod.mk.injEq] at entered
    obtain ⟨inward, bounded, sameDepth, samePassage⟩ := entered
    subst sameDepth
    exact ⟨by omega, samePassage.symm⟩
  refine ⟨Layer.observe_run limit handler 0 _ _ world, ?_, ?_, ?_⟩
  · intro admitted
    have through : ¬ passed < stages.length := by
      intro short
      obtain ⟨notAdmitted, -⟩ := follows.refused short
      rw [← List.take_append_drop (passed + 1) stages] at admitted
      exact notAdmitted admitted.of_append
    rw [follows.callsAt, if_pos (by omega)]
  · intro notAdmitted
    have short : passed < stages.length := by
      apply Nat.lt_of_not_le
      intro through
      have held := follows.admitted
      rw [List.nil_append, List.take_of_length_le through] at held
      exact notAdmitted held
    refine ⟨?_, stages.take passed, stages[passed], stages.drop (passed + 1), ?_⟩
    · rw [follows.callsAt, if_neg (by omega)]
    · obtain ⟨refused, message, left⟩ := follows.refused short
      have size : (stages.take passed).length = passed := by
        rw [List.length_take]
        omega
      refine ⟨message, ?_, follows.admitted, ?_, ?_, ?_⟩
      · rw [← List.drop_eq_getElem_cons short, List.take_append_drop]
      · rw [List.take_append_getElem short]
        exact refused
      · rw [size]
        simpa using left
      · intro depth passage entered
        rw [size]
        exact (called depth passage entered).1
  · intro depth passage entered
    exact (called depth passage entered).2

/-- A rule that stands outside the verifier it needs lets nobody through. -/
theorem mediation_misplaced :
    ({} : World).InTime (some 0) ∧
      Crossing.callsAt 2 (Layer.observe (some 0) (fun _ => .succeed) 0
        ([authorize .any, authenticate default].map layer) ⟨none, default⟩ {}).1 = [] := by
  have misplaced : ¬ Admitted ({} : World).now default [authorize .any, authenticate default] := by
    intro admitted
    obtain ⟨verifier, claims, nearest, -⟩ := admitted.allowed [] .any _ rfl
    simp [nearest?] at nearest
  refine ⟨rfl, ?_⟩
  exact ((mediation [authorize .any, authenticate default] (fun _ => .succeed) (some 0) default {}
    rfl).2.2.1 misplaced).1

end Stage

end HttpService
