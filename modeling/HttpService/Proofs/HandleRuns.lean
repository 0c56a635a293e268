import HttpService.Proofs.Lineage
/-! # Histories of handles

Any number of handles are made, copied and used in any order. `Exchanges.Runs` relates a history of
operations, with their answers, to the state they lead to; `Recorded` is what each operation keeps
of the exchanges. `handles_lawful` says what the handles of every reachable state show, and what
further operations do to them. -/
set_option autoImplicit false

namespace HttpService

abbrev HandleHistory := List (HandleOperation × Option Bool)

/-- The operations by which the handles were made: the one at a number has made the handle of that
number. -/
def HandleHistory.made (history : HandleHistory) : List HandleOperation :=
  (history.map Prod.fst).filter HandleOperation.makes

theorem HandleHistory.made_snoc (history : HandleHistory) (operation : HandleOperation)
    (answer : Option Bool) :
    HandleHistory.made (history ++ [(operation, answer)]) =
      history.made ++ if operation.makes then [operation] else [] := by
  cases makes : operation.makes <;> simp [HandleHistory.made, List.filter_append, makes]

namespace Exchanges

inductive Runs (start : Exchanges) : HandleHistory -> Exchanges -> Prop where
  | nothing : Runs start [] start
  | next {history : HandleHistory} {state after : Exchanges} {operation : HandleOperation}
      {answer : Option Bool} (before : Runs start history state)
      (done : state.perform? operation = some (answer, after)) :
      Runs start (history ++ [(operation, answer)]) after

variable {state next : Exchanges} {operation : HandleOperation} {answer : Option Bool}

theorem Performs.target_known (performs : state.Performs operation answer next) (target : Nat)
    (done : operation.target? = some target) : target < state.handles.length := by
  cases performs with
  | begin trace => simp [HandleOperation.target?] at done
  | clone known => cases done; exact (List.getElem?_eq_some_iff.mp known).1
  | withClaims claims known => cases done; exact (List.getElem?_eq_some_iff.mp known).1
  | markStarted moment known => cases done; exact (List.getElem?_eq_some_iff.mp known).1
  | respond response known stored => cases done; exact (List.getElem?_eq_some_iff.mp known).1

/-- An operation on a handle that was there before goes to the same exchange afterwards. -/
theorem Performs.actsOn_iff (performs : state.Performs operation answer next)
    {other : HandleOperation}
    (old : ∀ target, other.target? = some target -> target < state.handles.length) (place : Nat) :
    next.ActsOn other place ↔ state.ActsOn other place := by
  constructor
  · rintro ⟨target, found, done, known, same⟩
    rw [performs.handle_of_lt (old target done)] at known
    exact ⟨target, found, done, known, same⟩
  · rintro ⟨target, found, done, known, same⟩
    exact ⟨target, found, done, performs.handle known, same⟩

def Written (state : Exchanges) (history : HandleHistory) (place : Nat) : Prop :=
  ∃ handle response answer, (.respond handle response, answer) ∈ history ∧
    state.ActsOn (.respond handle response) place

structure Recorded (history : HandleHistory) (state : Exchanges) : Prop where
  targets : ∀ operation answer target, (operation, answer) ∈ history ->
    operation.target? = some target -> target < state.handles.length
  consistent : ∀ (place : Nat) (exchange : Exchange), state.exchanges[place]? = some exchange ->
    exchange.Consistent
  written : ∀ (place : Nat) (exchange : Exchange), state.exchanges[place]? = some exchange ->
    (exchange.response.isSome = true ↔ state.Written history place)

theorem Recorded.start : Recorded [] {} := by
  refine ⟨?_, ?_, ?_⟩
  · intro operation answer target listed
    simp at listed
  · intro place exchange stored
    simp at stored
  · intro place exchange stored
    simp at stored

theorem Recorded.written_snoc {history : HandleHistory} (recorded : Recorded history state)
    (performs : state.Performs operation answer next) (place : Nat) :
    next.Written (history ++ [(operation, answer)]) place ↔
      state.Written history place ∨
        ∃ handle response, operation = .respond handle response ∧ state.ActsOn operation place := by
  constructor
  · rintro ⟨handle, response, given, listed, acts⟩
    rcases List.mem_append.mp listed with before | last
    · have old (target : Nat) := recorded.targets _ given target before
      exact .inl ⟨handle, response, given, before, (performs.actsOn_iff old place).mp acts⟩
    · rw [List.mem_singleton] at last
      cases last
      exact .inr ⟨handle, response, rfl,
        (performs.actsOn_iff performs.target_known place).mp acts⟩
  · rintro (⟨handle, response, given, before, acts⟩ | ⟨handle, response, rfl, acts⟩)
    · have old (target : Nat) := recorded.targets _ given target before
      exact ⟨handle, response, given, List.mem_append_left _ before,
        (performs.actsOn_iff old place).mpr acts⟩
    · exact ⟨handle, response, answer, by simp,
        (performs.actsOn_iff performs.target_known place).mpr acts⟩

theorem Recorded.performs {history : HandleHistory} {made : List HandleOperation}
    (recorded : Recorded history state) (traces : Traces made state)
    (performs : state.Performs operation answer next) :
    Recorded (history ++ [(operation, answer)]) next := by
  refine ⟨?_, ?_, ?_⟩
  · intro other given target listed done
    obtain ⟨more, extended, -⟩ := performs.handles
    have old : target < state.handles.length := by
      rcases List.mem_append.mp listed with before | last
      · exact recorded.targets other given target before done
      · rw [List.mem_singleton] at last
        cases last
        exact performs.target_known target done
    rw [extended, List.length_append]
    omega
  · intro place exchange stored
    rcases performs.exchange_cases stored with
      ⟨before, known, -, rfl⟩ | ⟨known, -⟩ | ⟨trace, -, -, rfl⟩
    · exact (recorded.consistent place before known).act operation
    · exact recorded.consistent place exchange known
    · rfl
  · intro place exchange stored
    rw [recorded.written_snoc performs place]
    rcases performs.exchange_cases stored with
      ⟨before, known, acts, rfl⟩ | ⟨known, apart⟩ | ⟨trace, rfl, rfl, rfl⟩
    · have earlier := recorded.written place before known
      cases operation with
      | respond handle response =>
          have answered : ((before.respond response).2).response.isSome = true := by
            simp only [Exchange.respond]
            cases held : before.response <;> simp [held]
          exact ⟨fun _ => .inr ⟨handle, response, rfl, acts⟩, fun _ => answered⟩
      | _ => simpa [HandleOperation.act, Exchange.markStarted] using earlier
    · have earlier := recorded.written place exchange known
      rw [earlier]
      constructor
      · exact .inl
      · rintro (written | ⟨handle, response, -, acts⟩)
        · exact written
        · exact absurd acts apart
    · constructor
      · intro impossible
        simp at impossible
      · rintro
          (⟨handle, response, given, listed, target, found, done, known, same⟩ | ⟨_, _, none, _⟩)
        · have inRange := traces.stored target found known
          omega
        · simp at none

namespace Runs

variable {start : Exchanges} {history : HandleHistory}

theorem traces (runs : Runs {} history state) : Traces history.made state := by
  induction runs with
  | nothing => exact .start
  | next before done ih =>
      rw [HandleHistory.made_snoc]
      exact ih.performs (performs_of_perform? done)

theorem recorded (runs : Runs {} history state) : Recorded history state := by
  induction runs with
  | nothing => exact .start
  | next before done ih => exact ih.performs before.traces (performs_of_perform? done)

theorem handle (runs : Runs start history state) {number : Nat} {found : Handle}
    (known : start.handles[number]? = some found) : state.handles[number]? = some found := by
  induction runs with
  | nothing => exact known
  | next before done ih => exact (performs_of_perform? done).handle ih

theorem exchange_kept (runs : Runs start history state) {place : Nat} {exchange : Exchange}
    (stored : start.exchanges[place]? = some exchange) :
    ∃ later, state.exchanges[place]? = some later ∧ exchange.Kept later := by
  induction runs with
  | nothing => exact ⟨exchange, stored, .refl exchange⟩
  | next before done ih =>
      obtain ⟨between, known, kept⟩ := ih
      obtain ⟨later, reached, further⟩ := (performs_of_perform? done).exchange_kept known
      exact ⟨later, reached, kept.trans further⟩

end Runs

theorem isSome_perform? {made : List HandleOperation} (traces : Traces made state)
    (operation : HandleOperation) :
    (state.perform? operation).isSome = true ↔
      ∀ target, operation.target? = some target -> target < state.handles.length := by
  constructor
  · intro possible target done
    obtain ⟨⟨answer, next⟩, performed⟩ := Option.isSome_iff_exists.mp possible
    exact (performs_of_perform? performed).target_known target done
  · intro old
    have known {target : Nat} (done : operation.target? = some target) :
        ∃ found, state.handles[target]? = some found :=
      ⟨_, List.getElem?_eq_getElem (old target done)⟩
    cases operation with
    | begin trace => rfl
    | clone handle =>
        obtain ⟨found, there⟩ := known rfl
        simp [perform?, clone?, there]
    | withClaims handle claims =>
        obtain ⟨found, there⟩ := known rfl
        simp [perform?, withClaims?, there]
    | markStarted handle moment =>
        obtain ⟨found, there⟩ := known rfl
        simp [perform?, markStarted?, there]
    | respond handle response =>
        obtain ⟨found, there⟩ := known rfl
        have inRange := traces.stored handle found there
        simp [perform?, respond?, there, List.getElem?_eq_getElem inRange]

namespace Runs

variable {history : HandleHistory} (runs : Runs {} history state)
include runs

theorem seen_of_kin {target handle : Nat}
    (done : state.perform? operation = some (answer, next))
    (source : operation.target? = some target) (kin : Kin history.made target handle) :
    next.exchangeOf? handle = (state.exchangeOf? handle).map operation.act := by
  have performs := performs_of_perform? done
  obtain ⟨one, found, targetKnown, known, same⟩ := (runs.traces.share_iff_kin target handle).mpr kin
  rw [exchangeOf?_of_known known, exchangeOf?_of_known (performs.handle known)]
  exact performs.acted ⟨target, one, source, targetKnown, same⟩

theorem unseen_of_not_kin {handle : Nat} (done : state.perform? operation = some (answer, next))
    (old : handle < state.handles.length)
    (apart : ∀ target, operation.target? = some target -> ¬ Kin history.made target handle) :
    next.exchangeOf? handle = state.exchangeOf? handle := by
  have performs := performs_of_perform? done
  have known := List.getElem?_eq_getElem old
  rw [exchangeOf?_of_known known, exchangeOf?_of_known (performs.handle known)]
  apply performs.spared (runs.traces.stored handle _ known)
  rintro ⟨target, one, source, targetKnown, same⟩
  have share : state.Share target handle := ⟨one, _, targetKnown, known, same⟩
  exact apart target source ((runs.traces.share_iff_kin target handle).mp share)

/-- A response was passed to the exchange of a handle exactly if one was passed to its kin. -/
theorem response_iff {handle : Nat} {exchange : Exchange}
    (shown : state.exchangeOf? handle = some exchange) :
    exchange.response.isSome = true ↔
      ∃ earlier other given, (.respond earlier other, given) ∈ history ∧
        Kin history.made earlier handle := by
  obtain ⟨found, known, stored⟩ := Option.bind_eq_some_iff.mp shown
  rw [runs.recorded.written found.exchange exchange stored]
  constructor
  · rintro ⟨earlier, other, given, listed, target, source, done, there, same⟩
    cases done
    refine ⟨earlier, other, given, listed, ?_⟩
    rw [← runs.traces.share_iff_kin]
    exact ⟨source, found, there, known, same⟩
  · rintro ⟨earlier, other, given, listed, kin⟩
    obtain ⟨source, again, there, sameKnown, same⟩ :=
      (runs.traces.share_iff_kin earlier handle).mpr kin
    cases known.symm.trans sameKnown
    exact ⟨earlier, other, given, listed, earlier, source, rfl, there, same⟩

theorem first_response {handle : Nat} {response : Response}
    (done : state.perform? (.respond handle response) = some (answer, next))
    (first : ∀ earlier other given, (.respond earlier other, given) ∈ history ->
      ¬ Kin history.made earlier handle) :
    answer = some true ∧ ∃ exchange, state.exchangeOf? handle = some exchange ∧
      next.exchangeOf? handle =
        some { exchange with status := some response.status, response := some response } := by
  have performs := performs_of_perform? done
  have kept {found : Handle} (known : state.handles[handle]? = some found) :
      next.handles[handle]? = some found := performs.handle known
  cases performs with
  | @respond _ found exchange _ known stored =>
      have shown : state.exchangeOf? handle = some exchange :=
        (exchangeOf?_of_known known).trans stored
      have empty : exchange.response = none := by
        rw [← Option.not_isSome_iff_eq_none, runs.response_iff shown]
        rintro ⟨earlier, other, given, listed, kin⟩
        exact first earlier other given listed kin
      obtain ⟨inRange, -⟩ := List.getElem?_eq_some_iff.mp stored
      refine ⟨by simp only [Exchange.respond, empty], exchange, shown, ?_⟩
      refine (exchangeOf?_of_known (kept known)).trans ?_
      simp only [List.getElem?_set_self inRange, Exchange.respond, empty]

theorem later_response {handle earlier : Nat} {response other : Response} {given : Option Bool}
    (done : state.perform? (.respond handle response) = some (answer, next))
    (listed : (.respond earlier other, given) ∈ history) (kin : Kin history.made earlier handle) :
    answer = some false ∧ next = state := by
  cases performs_of_perform? done with
  | @respond _ found exchange _ known stored =>
      have shown : state.exchangeOf? handle = some exchange :=
        (exchangeOf?_of_known known).trans stored
      obtain ⟨held, full⟩ := Option.isSome_iff_exists.mp
        ((runs.response_iff shown).mpr ⟨earlier, other, given, listed, kin⟩)
      obtain ⟨inRange, same⟩ := List.getElem?_eq_some_iff.mp stored
      refine ⟨by simp only [Exchange.respond, full], ?_⟩
      simp only [Exchange.respond, full]
      rw [← same, List.set_getElem_self]

theorem status_of_response {handle : Nat} {exchange : Exchange}
    (shown : state.exchangeOf? handle = some exchange) :
    exchange.status = exchange.response.map Response.status := by
  obtain ⟨found, -, stored⟩ := Option.bind_eq_some_iff.mp shown
  exact runs.recorded.consistent found.exchange exchange stored

theorem alike_of_kin {first second : Nat} (kin : Kin history.made first second) :
    ∃ exchange, state.exchangeOf? first = some exchange ∧
      state.exchangeOf? second = some exchange := by
  have share := (runs.traces.share_iff_kin first second).mpr kin
  have ⟨one, _, known, _⟩ := share
  have shown := exchangeOf?_of_known known
  rw [List.getElem?_eq_getElem (runs.traces.stored first one known)] at shown
  exact ⟨_, shown, share.exchangeOf?.symm.trans shown⟩

end Runs

theorem Runs.exchangeOf?_kept {history : HandleHistory} (runs : Runs state history next)
    {handle : Nat} {exchange : Exchange} (shown : state.exchangeOf? handle = some exchange) :
    ∃ later, next.exchangeOf? handle = some later ∧ exchange.Kept later := by
  obtain ⟨found, known, stored⟩ := Option.bind_eq_some_iff.mp shown
  obtain ⟨later, reached, kept⟩ := runs.exchange_kept stored
  exact ⟨later, (exchangeOf?_of_known (runs.handle known)).trans reached, kept⟩

/-- What the handles of a state that was reached by a history show, and what can be done with
them. -/
structure Lawful (history : HandleHistory) (state : Exchanges) : Prop where
  /-- An operation can be done exactly if there is the handle that it is done on. -/
  possible : ∀ operation, (state.perform? operation).isSome = true ↔
    ∀ target, operation.target? = some target -> target < state.handles.length
  shared : ∀ first second, state.Share first second ↔ Kin history.made first second
  /-- Handles of one kin show one trace, start, status and response. -/
  alike : ∀ first second, Kin history.made first second -> ∃ exchange,
    state.exchangeOf? first = some exchange ∧ state.exchangeOf? second = some exchange
  /-- What is done on a handle is seen on all of its kin. -/
  seen : ∀ operation answer next target handle,
    state.perform? operation = some (answer, next) -> operation.target? = some target ->
    Kin history.made target handle ->
    next.exchangeOf? handle = (state.exchangeOf? handle).map operation.act
  /-- It is seen on no other handle. -/
  unseen : ∀ operation answer next handle,
    state.perform? operation = some (answer, next) -> handle < state.handles.length ->
    (∀ target, operation.target? = some target -> ¬ Kin history.made target handle) ->
    next.exchangeOf? handle = state.exchangeOf? handle
  /-- The first response of a kin is taken. -/
  firstResponse : ∀ handle response answer next,
    state.perform? (.respond handle response) = some (answer, next) ->
    (∀ earlier other given, (.respond earlier other, given) ∈ history ->
      ¬ Kin history.made earlier handle) ->
    answer = some true ∧ ∃ exchange, state.exchangeOf? handle = some exchange ∧
      next.exchangeOf? handle =
        some { exchange with status := some response.status, response := some response }
  /-- No other one is, and none of them changes anything. -/
  laterResponse : ∀ handle response answer next earlier other given,
    state.perform? (.respond handle response) = some (answer, next) ->
    (.respond earlier other, given) ∈ history -> Kin history.made earlier handle ->
    answer = some false ∧ next = state
  status : ∀ handle exchange, state.exchangeOf? handle = some exchange ->
    (∀ status, exchange.status = some status ↔
      ∃ response, exchange.response = some response ∧ response.status = status) ∧
    (exchange.isWritten = true ↔ exchange.response.isSome = true)
  /-- The trace stays, and so do the start and the response once they are set. -/
  kept : ∀ more after handle exchange, state.Runs more after ->
    state.exchangeOf? handle = some exchange ->
    ∃ later, after.exchangeOf? handle = some later ∧ exchange.Kept later
  claims : ∀ handle claims, state.claimsOf? handle = some claims ↔
    Attached history.made handle claims
  /-- Whatever is done later, a handle has the claims it was made with. -/
  ownClaims : ∀ more after handle, state.Runs more after -> handle < state.handles.length ->
    after.claimsOf? handle = state.claimsOf? handle

/-- **Handles and their exchanges.** After any history of operations two handles stand for one
exchange exactly if one was made from the other or both from a third one; what is done on a handle
is seen on all of its kin and on no other. Of the responses written by a kin just the first is
taken, the status is that of the response stored, and a start that was noted stays. The claims of a
handle are those it was made with. -/
theorem handles_lawful (history : HandleHistory) (state : Exchanges)
    (runs : Runs {} history state) : Lawful history state where
  possible := isSome_perform? runs.traces
  shared := runs.traces.share_iff_kin
  alike _ _ kin := runs.alike_of_kin kin
  seen _ _ _ _ _ done source kin := runs.seen_of_kin done source kin
  unseen _ _ _ _ done old apart := runs.unseen_of_not_kin done old apart
  firstResponse _ _ _ _ done first := runs.first_response done first
  laterResponse _ _ _ _ _ _ _ done listed kin := runs.later_response done listed kin
  status handle exchange shown := by
    have consistent := runs.status_of_response shown
    refine ⟨?_, ?_⟩
    · intro status
      rw [consistent, Option.map_eq_some_iff]
    · rw [Exchange.isWritten, consistent, Option.isSome_map]
  kept _ _ _ _ onwards shown := onwards.exchangeOf?_kept shown
  claims := runs.traces.claims_iff_attached
  ownClaims more after handle onwards old := by
    have known := List.getElem?_eq_getElem old
    simp only [claimsOf?, known, onwards.handle known]

def familyHistory : HandleHistory :=
  [(.begin .random, none), (.clone 0, none), (.withClaims 1 default, none),
    (.begin (.given "other"), none), (.markStarted 1 5, none), (.respond 2 (.bare .ok), some true)]

def familyState : Exchanges where
  exchanges :=
    [{ started := some 5, status := some .ok, response := some (.bare .ok) },
      { trace := .given "other" }]
  handles := [⟨0, none⟩, ⟨0, none⟩, ⟨0, some default⟩, ⟨1, none⟩]

theorem runs_family : Runs {} familyHistory familyState := by
  have begun := @Runs.next {} [] _ _ (.begin .random) none .nothing rfl
  have cloned := @Runs.next _ _ _ _ (.clone 0) none begun rfl
  have claimed := @Runs.next _ _ _ _ (.withClaims 1 default) none cloned rfl
  have another := @Runs.next _ _ _ _ (.begin (.given "other")) none claimed rfl
  have marked := @Runs.next _ _ _ _ (.markStarted 1 5) none another rfl
  exact @Runs.next _ _ _ _ (.respond 2 (.bare .ok)) (some true) marked rfl

/-- Nobody of the first family can answer again; the last handle is of a family of its own. -/
theorem handles_lawful_family : Runs {} familyHistory familyState ∧
    ¬ Kin familyHistory.made 0 3 ∧ ∀ handle response answer next,
      Kin familyHistory.made 2 handle ->
      familyState.perform? (.respond handle response) = some (answer, next) ->
      answer = some false ∧ next = familyState := by
  have lawful := handles_lawful familyHistory familyState runs_family
  refine ⟨runs_family, ?_, ?_⟩
  · rw [← lawful.shared]
    rintro ⟨one, other, oneKnown, otherKnown, same⟩
    cases oneKnown
    cases otherKnown
    simp at same
  · intro handle response answer next kin done
    have listed : (.respond 2 (.bare .ok), some true) ∈ familyHistory := by simp [familyHistory]
    exact lawful.laterResponse handle response answer next 2 _ _ done listed kin

end Exchanges

end HttpService
