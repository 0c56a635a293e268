import HttpService.Exchange
/-! # Where handles come from

Handles are made fresh or from other handles. The operations that made them say which are of one
kin: `Descends` follows the handles that one was made from, and `Attached` the claims that it was
given on the way. `Exchanges.Performs` says what one operation comes to, and `Traces` is what each
of them keeps: every handle is what the operation that made it has put there. Hence handles stand
for one exchange exactly if they are of one kin, `share_iff_kin`, and have the claims attached to
them, `claims_iff_attached`. -/
set_option autoImplicit false

namespace HttpService

namespace HandleOperation

def target? : HandleOperation -> Option Nat
  | .begin _ => none
  | .clone handle => some handle
  | .withClaims handle _ => some handle
  | .markStarted handle _ => some handle
  | .respond handle _ => some handle

def makes : HandleOperation -> Bool
  | .begin _ => true
  | .clone _ => true
  | .withClaims _ _ => true
  | _ => false

def act : HandleOperation -> Exchange -> Exchange
  | .markStarted _ moment => fun exchange => exchange.markStarted moment
  | .respond _ response => fun exchange => (exchange.respond response).2
  | _ => id

end HandleOperation

inductive Descends (made : List HandleOperation) : Nat -> Nat -> Prop where
  | self {handle : Nat} (known : handle < made.length) : Descends made handle handle
  | copy {ancestor parent handle : Nat} {operation : HandleOperation}
      (earlier : Descends made ancestor parent) (copied : made[handle]? = some operation)
      (source : operation.target? = some parent) : Descends made ancestor handle

/-- One of the handles descends from the other, or both from a third one. -/
def Kin (made : List HandleOperation) (first second : Nat) : Prop :=
  ∃ ancestor, Descends made ancestor first ∧ Descends made ancestor second

inductive Attached (made : List HandleOperation) : Nat -> Option Claims -> Prop where
  | none {handle : Nat} {trace : TraceId} (begun : made[handle]? = some (.begin trace)) :
      Attached made handle none
  | given {handle parent : Nat} {claims : Claims}
      (copied : made[handle]? = some (.withClaims parent claims)) :
      Attached made handle (some claims)
  | kept {handle parent : Nat} {claims : Option Claims}
      (copied : made[handle]? = some (.clone parent)) (before : Attached made parent claims) :
      Attached made handle claims

namespace Exchange

/-- The later exchange shows all that the earlier one does. -/
structure Kept (earlier later : Exchange) : Prop where
  trace : later.trace = earlier.trace
  started : ∀ moment, earlier.started = some moment -> later.started = some moment
  response : ∀ response, earlier.response = some response -> later.response = some response

theorem Kept.refl (exchange : Exchange) : exchange.Kept exchange :=
  ⟨rfl, fun _ same => same, fun _ same => same⟩

theorem Kept.trans {first second third : Exchange} (kept : first.Kept second)
    (further : second.Kept third) : first.Kept third := by
  refine ⟨further.trace.trans kept.trace, ?_, ?_⟩
  · intro moment known
    exact further.started moment (kept.started moment known)
  · intro response known
    exact further.response response (kept.response response known)

theorem kept_act (exchange : Exchange) (operation : HandleOperation) :
    exchange.Kept (operation.act exchange) := by
  cases operation with
  | markStarted handle moment =>
      refine ⟨rfl, ?_, fun _ same => same⟩
      intro first known
      simp [HandleOperation.act, markStarted, known]
  | respond handle response =>
      simp only [HandleOperation.act, respond]
      cases held : exchange.response with
      | some first => exact .refl exchange
      | none => exact ⟨rfl, fun _ same => same, by simp [held]⟩
  | _ => exact .refl exchange

def Consistent (exchange : Exchange) : Prop :=
  exchange.status = exchange.response.map Response.status

theorem Consistent.act {exchange : Exchange} (consistent : exchange.Consistent)
    (operation : HandleOperation) : (operation.act exchange).Consistent := by
  cases operation with
  | respond handle response =>
      simp only [HandleOperation.act, respond]
      cases held : exchange.response with
      | some first => exact consistent
      | none => rfl
  | _ => exact consistent

end Exchange

namespace Exchanges

def Share (state : Exchanges) (first second : Nat) : Prop :=
  ∃ one other, state.handles[first]? = some one ∧ state.handles[second]? = some other ∧
    one.exchange = other.exchange

def claimsOf? (state : Exchanges) (handle : Nat) : Option (Option Claims) :=
  state.handles[handle]?.map Handle.claims

theorem exchangeOf?_of_known {state : Exchanges} {handle : Nat} {found : Handle}
    (known : state.handles[handle]? = some found) :
    state.exchangeOf? handle = state.exchanges[found.exchange]? := by
  simp [exchangeOf?, known]

/-! ## One operation -/

/-- What an operation needs, what it answers and what it leads to. -/
inductive Performs (state : Exchanges) : HandleOperation -> Option Bool -> Exchanges -> Prop where
  | begin (trace : TraceId) : Performs state (.begin trace) none (state.begin trace)
  | clone {handle : Nat} {found : Handle} (known : state.handles[handle]? = some found) :
      Performs state (.clone handle) none { state with handles := state.handles ++ [found] }
  | withClaims {handle : Nat} {found : Handle} (claims : Claims)
      (known : state.handles[handle]? = some found) :
      Performs state (.withClaims handle claims) none
        { state with handles := state.handles ++ [{ found with claims := some claims }] }
  | markStarted {handle : Nat} {found : Handle} (moment : Nat)
      (known : state.handles[handle]? = some found) :
      Performs state (.markStarted handle moment) none
        { state with
          exchanges := state.exchanges.modify found.exchange fun exchange =>
            exchange.markStarted moment }
  | respond {handle : Nat} {found : Handle} {exchange : Exchange} (response : Response)
      (known : state.handles[handle]? = some found)
      (stored : state.exchanges[found.exchange]? = some exchange) :
      Performs state (.respond handle response) (some (exchange.respond response).1)
        { state with
          exchanges := state.exchanges.set found.exchange (exchange.respond response).2 }

theorem performs_of_perform? {state next : Exchanges} {operation : HandleOperation}
    {answer : Option Bool} (done : state.perform? operation = some (answer, next)) :
    state.Performs operation answer next := by
  cases operation with
  | begin trace =>
      simp only [perform?, Option.some.injEq, Prod.mk.injEq] at done
      obtain ⟨rfl, rfl⟩ := done
      exact .begin trace
  | clone handle =>
      simp only [perform?, clone?, Option.map_map, Option.map_eq_some_iff] at done
      obtain ⟨found, known, same⟩ := done
      cases same
      exact .clone known
  | withClaims handle claims =>
      simp only [perform?, withClaims?, Option.map_map, Option.map_eq_some_iff] at done
      obtain ⟨found, known, same⟩ := done
      cases same
      exact .withClaims claims known
  | markStarted handle moment =>
      simp only [perform?, Option.map_eq_some_iff] at done
      obtain ⟨reached, marked, same⟩ := done
      obtain ⟨found, known, result⟩ := Option.bind_eq_some_iff.mp marked
      cases result
      cases same
      exact .markStarted moment known
  | respond handle response =>
      simp only [perform?, Option.map_eq_some_iff] at done
      obtain ⟨reached, answered, same⟩ := done
      obtain ⟨found, known, onwards⟩ := Option.bind_eq_some_iff.mp answered
      obtain ⟨exchange, stored, result⟩ := Option.bind_eq_some_iff.mp onwards
      cases result
      cases same
      exact .respond response known stored

def ActsOn (state : Exchanges) (operation : HandleOperation) (exchange : Nat) : Prop :=
  ∃ target found, operation.target? = some target ∧ state.handles[target]? = some found ∧
    found.exchange = exchange

namespace Performs

variable {state next : Exchanges} {operation : HandleOperation} {answer : Option Bool}

/-- Handles are only ever added, one by each operation that makes one. -/
theorem handles (performs : state.Performs operation answer next) :
    ∃ more, next.handles = state.handles ++ more ∧
      more.length = if operation.makes then 1 else 0 := by
  cases performs with
  | begin trace => exact ⟨_, rfl, rfl⟩
  | clone known => exact ⟨_, rfl, rfl⟩
  | withClaims claims known => exact ⟨_, rfl, rfl⟩
  | markStarted moment known => exact ⟨[], (List.append_nil _).symm, rfl⟩
  | respond response known stored => exact ⟨[], (List.append_nil _).symm, rfl⟩

theorem handle (performs : state.Performs operation answer next) {number : Nat} {found : Handle}
    (known : state.handles[number]? = some found) : next.handles[number]? = some found := by
  obtain ⟨more, extended, -⟩ := performs.handles
  obtain ⟨inRange, -⟩ := List.getElem?_eq_some_iff.mp known
  rw [extended, List.getElem?_append_left inRange, known]

theorem handle_of_lt (performs : state.Performs operation answer next) {number : Nat}
    (old : number < state.handles.length) : next.handles[number]? = state.handles[number]? := by
  obtain ⟨more, extended, -⟩ := performs.handles
  rw [extended, List.getElem?_append_left old]

theorem acted (performs : state.Performs operation answer next) {place : Nat}
    (acts : state.ActsOn operation place) :
    next.exchanges[place]? = state.exchanges[place]?.map operation.act := by
  obtain ⟨target, found, done, known, rfl⟩ := acts
  cases performs with
  | begin trace => simp [HandleOperation.target?] at done
  | clone _ => simp [HandleOperation.act]
  | withClaims claims _ => simp [HandleOperation.act]
  | markStarted moment sameKnown =>
      cases done
      cases sameKnown.symm.trans known
      simp [HandleOperation.act]
  | respond response sameKnown stored =>
      cases done
      cases sameKnown.symm.trans known
      obtain ⟨inRange, -⟩ := List.getElem?_eq_some_iff.mp stored
      rw [List.getElem?_set_self inRange, stored]
      rfl

theorem spared (performs : state.Performs operation answer next) {place : Nat}
    (old : place < state.exchanges.length) (apart : ¬ state.ActsOn operation place) :
    next.exchanges[place]? = state.exchanges[place]? := by
  cases performs with
  | begin trace => simp [Exchanges.begin, List.getElem?_append_left old]
  | clone _ => rfl
  | withClaims claims _ => rfl
  | markStarted moment known =>
      rw [List.getElem?_modify_ne]
      intro same
      exact apart ⟨_, _, rfl, known, same⟩
  | respond response known stored =>
      rw [List.getElem?_set_ne]
      intro same
      exact apart ⟨_, _, rfl, known, same⟩

/-- The exchanges after an operation: those before it, the one that it acts on changed, and at most
a fresh one besides. -/
theorem exchange_cases (performs : state.Performs operation answer next) {place : Nat}
    {exchange : Exchange} (stored : next.exchanges[place]? = some exchange) :
    (∃ before, state.exchanges[place]? = some before ∧ state.ActsOn operation place ∧
      exchange = operation.act before) ∨
    (state.exchanges[place]? = some exchange ∧ ¬ state.ActsOn operation place) ∨
    ∃ trace, operation = .begin trace ∧ place = state.exchanges.length ∧
      exchange = { trace } := by
  by_cases acts : state.ActsOn operation place
  · rw [performs.acted acts, Option.map_eq_some_iff] at stored
    obtain ⟨before, known, same⟩ := stored
    exact .inl ⟨before, known, acts, same.symm⟩
  · by_cases old : place < state.exchanges.length
    · rw [performs.spared old acts] at stored
      exact .inr (.inl ⟨stored, acts⟩)
    · have none : state.exchanges[place]? = none := List.getElem?_eq_none (by omega)
      cases performs with
      | begin trace =>
          obtain ⟨inRange, same⟩ := List.getElem?_eq_some_iff.mp stored
          simp only [Exchanges.begin, List.length_append, List.length_singleton] at inRange
          have last : place = state.exchanges.length := by omega
          subst last
          simp only [Exchanges.begin, List.getElem_concat_length] at same
          exact .inr (.inr ⟨trace, rfl, rfl, same.symm⟩)
      | clone _ => simp [none] at stored
      | withClaims claims _ => simp [none] at stored
      | markStarted moment _ => simp [List.getElem?_modify, none] at stored
      | respond response _ _ =>
          rw [List.getElem?_eq_none (by simpa using old)] at stored
          simp at stored

theorem exchange_kept (performs : state.Performs operation answer next) {place : Nat}
    {exchange : Exchange} (stored : state.exchanges[place]? = some exchange) :
    ∃ later, next.exchanges[place]? = some later ∧ exchange.Kept later := by
  by_cases acts : state.ActsOn operation place
  · rw [performs.acted acts, stored]
    exact ⟨_, rfl, exchange.kept_act operation⟩
  · obtain ⟨old, -⟩ := List.getElem?_eq_some_iff.mp stored
    rw [performs.spared old acts, stored]
    exact ⟨exchange, rfl, .refl exchange⟩

end Performs

end Exchanges

/-- How a handle came to be what it is. -/
inductive Origin (handles : List Handle) (number : Nat) : HandleOperation -> Handle -> Prop where
  | begin {exchange : Nat} (trace : TraceId)
      (fresh : ∀ older found, older < number -> handles[older]? = some found ->
        found.exchange ≠ exchange) :
      Origin handles number (.begin trace) ⟨exchange, none⟩
  | clone {parent : Nat} {found : Handle} (older : parent < number)
      (known : handles[parent]? = some found) : Origin handles number (.clone parent) found
  | withClaims {parent : Nat} {found : Handle} (claims : Claims) (older : parent < number)
      (known : handles[parent]? = some found) :
      Origin handles number (.withClaims parent claims) { found with claims := some claims }

theorem Origin.append {handles : List Handle} {number : Nat} {operation : HandleOperation}
    {found : Handle} (origin : Origin handles number operation found)
    (inRange : number ≤ handles.length) (more : List Handle) :
    Origin (handles ++ more) number operation found := by
  have same {older : Nat} (before : older < number) :
      (handles ++ more)[older]? = handles[older]? :=
    List.getElem?_append_left (by omega)
  cases origin with
  | begin trace fresh =>
      refine .begin trace ?_
      intro older found before known
      rw [same before] at known
      exact fresh older found before known
  | clone older known => exact .clone older ((same older).trans known)
  | withClaims claims older known => exact .withClaims claims older ((same older).trans known)

structure Traces (made : List HandleOperation) (state : Exchanges) : Prop where
  count : made.length = state.handles.length
  origin : ∀ number operation found, made[number]? = some operation ->
    state.handles[number]? = some found -> Origin state.handles number operation found
  stored : ∀ (number : Nat) (found : Handle), state.handles[number]? = some found ->
    found.exchange < state.exchanges.length

namespace Traces

theorem start : Traces [] {} := by
  refine ⟨rfl, ?_, ?_⟩
  · intro number operation found made
    simp at made
  · intro number found known
    simp at known

variable {made : List HandleOperation} {state next : Exchanges} {operation : HandleOperation}
  {answer : Option Bool}

theorem last (traces : Traces made state) {last : Handle}
    (performs : state.Performs operation answer next)
    (added : next.handles = state.handles ++ [last]) :
    Origin next.handles state.handles.length operation last ∧
      last.exchange < next.exchanges.length := by
  have sameLast {other : Handle} (same : state.handles ++ [other] = state.handles ++ [last]) :
      other = last := by
    simpa using same
  have tooLong (same : state.handles = state.handles ++ [last]) : False := by
    simp at same
  cases performs with
  | begin trace =>
      cases sameLast added
      refine ⟨.begin trace ?_, by simp [Exchanges.begin]⟩
      intro older found before known
      rw [added, List.getElem?_append_left before] at known
      have inRange := traces.stored older found known
      omega
  | clone known =>
      cases sameLast added
      obtain ⟨older, -⟩ := List.getElem?_eq_some_iff.mp known
      exact ⟨.clone older (by rw [List.getElem?_append_left older, known]),
        traces.stored _ _ known⟩
  | withClaims claims known =>
      cases sameLast added
      obtain ⟨older, -⟩ := List.getElem?_eq_some_iff.mp known
      have inRange := traces.stored _ _ known
      exact ⟨.withClaims claims older (by rw [List.getElem?_append_left older, known]), inRange⟩
  | markStarted moment known => exact (tooLong added).elim
  | respond response known stored => exact (tooLong added).elim

theorem length_exchanges (performs : state.Performs operation answer next) :
    state.exchanges.length ≤ next.exchanges.length := by
  cases performs with
  | begin trace => simp [Exchanges.begin]
  | _ => simp

theorem performs (traces : Traces made state) (performs : state.Performs operation answer next) :
    Traces (made ++ if operation.makes then [operation] else []) next := by
  obtain ⟨more, extended, added⟩ := performs.handles
  have longer := length_exchanges performs
  cases makes : operation.makes with
  | false =>
      simp only [makes, Bool.false_eq_true, if_false, List.length_eq_zero_iff] at added
      subst added
      rw [List.append_nil] at extended
      simp only [Bool.false_eq_true, if_false, List.append_nil]
      refine ⟨by rw [extended, traces.count], ?_, ?_⟩
      · rw [extended]
        exact traces.origin
      · rw [extended]
        intro number found known
        exact Nat.lt_of_lt_of_le (traces.stored number found known) longer
  | true =>
      simp only [makes, if_true, List.length_eq_one_iff] at added ⊢
      obtain ⟨last, rfl⟩ := added
      obtain ⟨newest, newestStored⟩ := traces.last performs extended
      -- A handle after the operation is an old one or the one that was added.
      have handle_cases {number : Nat} {found : Handle}
          (known : next.handles[number]? = some found) :
          state.handles[number]? = some found ∨ number = state.handles.length ∧ found = last := by
        rw [extended, List.getElem?_append] at known
        split at known
        next => exact .inl known
        next notOld =>
          obtain ⟨inRange, same⟩ := List.getElem?_eq_some_iff.mp known
          simp only [List.length_singleton] at inRange
          refine .inr ⟨by omega, ?_⟩
          simpa using same.symm
      refine ⟨by simp [extended, traces.count], ?_, ?_⟩
      · intro number done found madeThere known
        rcases handle_cases known with old | ⟨rfl, rfl⟩
        · obtain ⟨inRange, -⟩ := List.getElem?_eq_some_iff.mp old
          rw [List.getElem?_append_left (by rw [traces.count]; exact inRange)] at madeThere
          rw [extended]
          exact (traces.origin number done found madeThere old).append (Nat.le_of_lt inRange) _
        · rw [← traces.count, List.getElem?_concat_length] at madeThere
          cases madeThere
          exact newest
      · intro number found known
        rcases handle_cases known with old | ⟨-, rfl⟩
        · exact Nat.lt_of_lt_of_le (traces.stored number found old) longer
        · exact newestStored

/-! ## Kinship -/

theorem known (traces : Traces made state) {number : Nat} (old : number < made.length) :
    ∃ found, state.handles[number]? = some found := by
  rw [traces.count] at old
  exact ⟨_, List.getElem?_eq_getElem old⟩

theorem share_of_descends (traces : Traces made state) {ancestor handle : Nat}
    (descends : Descends made ancestor handle) : state.Share ancestor handle := by
  induction descends with
  | self old =>
      obtain ⟨found, known⟩ := traces.known old
      exact ⟨found, found, known, known, rfl⟩
  | copy earlier copied source ih =>
      obtain ⟨one, parent, oneKnown, parentKnown, same⟩ := ih
      obtain ⟨old, -⟩ := List.getElem?_eq_some_iff.mp copied
      obtain ⟨found, known⟩ := traces.known old
      refine ⟨one, found, oneKnown, known, ?_⟩
      cases traces.origin _ _ _ copied known with
      | begin trace fresh => simp [HandleOperation.target?] at source
      | clone older cloned =>
          cases source
          cases parentKnown.symm.trans cloned
          exact same
      | withClaims claims older taken =>
          cases source
          cases parentKnown.symm.trans taken
          exact same

/-- Every handle descends from one that began an exchange. -/
theorem exists_root (traces : Traces made state) (handle : Nat) (old : handle < made.length) :
    ∃ root trace, made[root]? = some (.begin trace) ∧ Descends made root handle := by
  obtain ⟨operation, copied⟩ : ∃ operation, made[handle]? = some operation :=
    ⟨_, List.getElem?_eq_getElem old⟩
  obtain ⟨found, known⟩ := traces.known old
  have origin := traces.origin _ _ _ copied known
  cases origin with
  | begin trace fresh => exact ⟨handle, trace, copied, .self old⟩
  | @clone parent _ older cloned =>
      obtain ⟨root, trace, begun, descends⟩ := exists_root traces parent (by omega)
      exact ⟨root, trace, begun, .copy descends copied rfl⟩
  | @withClaims parent _ claims older taken =>
      obtain ⟨root, trace, begun, descends⟩ := exists_root traces parent (by omega)
      exact ⟨root, trace, begun, .copy descends copied rfl⟩
termination_by handle

/-- No exchange was begun twice. -/
theorem root_unique (traces : Traces made state) {root other : Nat} {trace another : TraceId}
    (begun : made[root]? = some (.begin trace)) (alsoBegun : made[other]? = some (.begin another))
    (share : state.Share root other) : root = other := by
  obtain ⟨one, second, oneKnown, otherKnown, same⟩ := share
  rcases Nat.lt_trichotomy root other with before | equal | after
  · cases traces.origin _ _ _ alsoBegun otherKnown with
    | begin trace fresh => exact absurd same (fresh root one before oneKnown)
  · exact equal
  · cases traces.origin _ _ _ begun oneKnown with
    | begin trace fresh => exact absurd same.symm (fresh other second after otherKnown)

end Traces

namespace Exchanges

variable {state : Exchanges}

theorem Share.symm {first second : Nat} (share : state.Share first second) :
    state.Share second first := by
  obtain ⟨one, other, oneKnown, otherKnown, same⟩ := share
  exact ⟨other, one, otherKnown, oneKnown, same.symm⟩

theorem Share.trans {first second third : Nat} (share : state.Share first second)
    (further : state.Share second third) : state.Share first third := by
  obtain ⟨one, other, oneKnown, otherKnown, same⟩ := share
  obtain ⟨again, last, againKnown, lastKnown, alsoSame⟩ := further
  cases otherKnown.symm.trans againKnown
  exact ⟨one, last, oneKnown, lastKnown, same.trans alsoSame⟩

theorem Share.exchangeOf? {first second : Nat} (share : state.Share first second) :
    state.exchangeOf? first = state.exchangeOf? second := by
  obtain ⟨one, other, oneKnown, otherKnown, same⟩ := share
  rw [exchangeOf?_of_known oneKnown, exchangeOf?_of_known otherKnown, same]

end Exchanges

namespace Traces

variable {made : List HandleOperation} {state : Exchanges}

theorem share_iff_kin (traces : Traces made state) (first second : Nat) :
    state.Share first second ↔ Kin made first second := by
  constructor
  · intro share
    obtain ⟨one, other, oneKnown, otherKnown, same⟩ := share
    have inRange {number : Nat} {found : Handle} (known : state.handles[number]? = some found) :
        number < made.length := by
      rw [traces.count]
      exact (List.getElem?_eq_some_iff.mp known).1
    obtain ⟨root, trace, begun, descends⟩ := traces.exists_root first (inRange oneKnown)
    obtain ⟨origin, another, alsoBegun, alsoDescends⟩ :=
      traces.exists_root second (inRange otherKnown)
    have between := (traces.share_of_descends descends).trans
      (Exchanges.Share.trans ⟨one, other, oneKnown, otherKnown, same⟩
        (traces.share_of_descends alsoDescends).symm)
    cases traces.root_unique begun alsoBegun between
    exact ⟨root, descends, alsoDescends⟩
  · rintro ⟨ancestor, descends, alsoDescends⟩
    exact (traces.share_of_descends descends).symm.trans (traces.share_of_descends alsoDescends)

theorem claims_of_attached (traces : Traces made state) {handle : Nat} {claims : Option Claims}
    (attached : Attached made handle claims) : state.claimsOf? handle = some claims := by
  have found {number : Nat} {operation : HandleOperation}
      (copied : made[number]? = some operation) :
      ∃ found, state.handles[number]? = some found ∧
        Origin state.handles number operation found := by
    obtain ⟨old, -⟩ := List.getElem?_eq_some_iff.mp copied
    obtain ⟨found, known⟩ := traces.known old
    exact ⟨found, known, traces.origin _ _ _ copied known⟩
  induction attached with
  | none begun =>
      obtain ⟨found, known, origin⟩ := found begun
      cases origin
      simp [Exchanges.claimsOf?, known]
  | given copied =>
      obtain ⟨found, known, origin⟩ := found copied
      cases origin
      simp [Exchanges.claimsOf?, known]
  | kept copied before ih =>
      obtain ⟨found, known, origin⟩ := found copied
      cases origin with
      | clone older cloned =>
          simp only [Exchanges.claimsOf?, cloned, known] at ih ⊢
          exact ih

theorem exists_attached (traces : Traces made state) (handle : Nat) (old : handle < made.length) :
    ∃ claims, Attached made handle claims := by
  obtain ⟨operation, copied⟩ : ∃ operation, made[handle]? = some operation :=
    ⟨_, List.getElem?_eq_getElem old⟩
  obtain ⟨found, known⟩ := traces.known old
  have origin := traces.origin _ _ _ copied known
  cases origin with
  | begin trace fresh => exact ⟨_, .none copied⟩
  | @clone parent _ older cloned =>
      obtain ⟨claims, attached⟩ := exists_attached traces parent (by omega)
      exact ⟨claims, .kept copied attached⟩
  | withClaims claims older taken => exact ⟨_, .given copied⟩
termination_by handle

theorem claims_iff_attached (traces : Traces made state) (handle : Nat) (claims : Option Claims) :
    state.claimsOf? handle = some claims ↔ Attached made handle claims := by
  constructor
  · intro shown
    obtain ⟨found, known, -⟩ := Option.map_eq_some_iff.mp shown
    obtain ⟨old, -⟩ := List.getElem?_eq_some_iff.mp known
    rw [← traces.count] at old
    obtain ⟨other, attached⟩ := traces.exists_attached handle old
    cases shown.symm.trans (traces.claims_of_attached attached)
    exact attached
  · exact traces.claims_of_attached

end Traces

end HttpService
