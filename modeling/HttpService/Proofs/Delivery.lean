import HttpService.Proofs.Lineage
/-! # Responses written and taken

Handles on one exchange write responses to it and take them from it, in any order. `Delivers` relates
the writing and taking done so far to the state it led to, whatever else was done with the handles.
A response that was accepted waits until it is taken, and one is accepted whenever none waits:
`delivers_exact`. So the exchange of a handle that is used once its response was taken accepts
another one. -/
set_option autoImplicit false

namespace HttpService

inductive Delivery where
  | written (exchange : Nat) (response : Response) (won : Bool)
  | taken (exchange : Nat) (found : Option Response)
deriving DecidableEq

namespace Delivery

def accepted? (place : Nat) : Delivery -> Option Response
  | .written exchange response true => if exchange = place then some response else none
  | _ => none

def handedOut? (place : Nat) : Delivery -> Option Response
  | .taken exchange found => if exchange = place then found else none
  | _ => none

def Writes (place : Nat) (delivery : Delivery) : Prop :=
  ∃ response won, delivery = .written place response won

end Delivery

abbrev DeliveryHistory := List Delivery

namespace DeliveryHistory

def accepted (history : DeliveryHistory) (place : Nat) : List Response :=
  history.filterMap (Delivery.accepted? place)

def handedOut (history : DeliveryHistory) (place : Nat) : List Response :=
  history.filterMap (Delivery.handedOut? place)

theorem accepted_snoc (history : DeliveryHistory) (delivery : Delivery) (place : Nat) :
    accepted (history ++ [delivery]) place =
      history.accepted place ++ (delivery.accepted? place).toList := by
  cases found : delivery.accepted? place <;> simp [accepted, List.filterMap_append, found]

theorem handedOut_snoc (history : DeliveryHistory) (delivery : Delivery) (place : Nat) :
    handedOut (history ++ [delivery]) place =
      history.handedOut place ++ (delivery.handedOut? place).toList := by
  cases found : delivery.handedOut? place <;> simp [handedOut, List.filterMap_append, found]

/-- Nothing is written to the exchange of this number after a response was taken from it. -/
def Timely (history : DeliveryHistory) (place : Nat) : Prop :=
  ∀ before delivery after, history = before ++ delivery :: after -> delivery.Writes place ->
    handedOut before place = []

theorem Timely.of_snoc {history : DeliveryHistory} {delivery : Delivery} {place : Nat}
    (timely : Timely (history ++ [delivery]) place) :
    history.Timely place ∧ (delivery.Writes place -> history.handedOut place = []) := by
  refine ⟨?_, timely history delivery [] rfl⟩
  rintro before other after rfl
  exact timely before other (after ++ [delivery]) (by simp)

end DeliveryHistory

namespace Exchanges

def waiting? (state : Exchanges) (place : Nat) : Option Response :=
  state.exchanges[place]?.bind Exchange.response

def statusAt? (state : Exchanges) (place : Nat) : Option Status :=
  state.exchanges[place]?.bind Exchange.status

/-! ## One delivery -/

/-- What writing or taking a response does, one case for each way it can go. -/
inductive Does (state : Exchanges) : Delivery -> Exchanges -> Prop where
  | accepted {place : Nat} {exchange : Exchange} (response : Response)
      (stored : state.exchanges[place]? = some exchange) (empty : exchange.response = none) :
      Does state (.written place response true)
        { state with
          exchanges := state.exchanges.set place
            { exchange with status := some response.status, response := some response } }
  | dropped {place : Nat} {exchange : Exchange} {held : Response} (response : Response)
      (stored : state.exchanges[place]? = some exchange) (full : exchange.response = some held) :
      Does state (.written place response false) state
  | taken {place : Nat} {exchange : Exchange}
      (stored : state.exchanges[place]? = some exchange) :
      Does state (.taken place exchange.response)
        { state with exchanges := state.exchanges.set place { exchange with response := none } }

variable {state next : Exchanges} {handle place : Nat} {found : Handle} {response : Response}

theorem does_of_respond? {won : Bool} (known : state.handles[handle]? = some found)
    (done : state.respond? handle response = some (won, next)) :
    state.Does (.written found.exchange response won) next := by
  obtain ⟨sameHandle, again, onwards⟩ := Option.bind_eq_some_iff.mp done
  cases known.symm.trans again
  obtain ⟨exchange, stored, result⟩ := Option.bind_eq_some_iff.mp onwards
  cases held : exchange.response with
  | none =>
      simp only [Exchange.respond, held] at result
      cases result
      exact .accepted response stored held
  | some first =>
      obtain ⟨inRange, same⟩ := List.getElem?_eq_some_iff.mp stored
      simp only [Exchange.respond, held] at result
      cases result
      rw [← same, List.set_getElem_self]
      exact .dropped response stored held

theorem does_of_takeResponse? {taken : Option Response}
    (known : state.handles[handle]? = some found)
    (done : state.takeResponse? handle = some (taken, next)) :
    state.Does (.taken found.exchange taken) next := by
  obtain ⟨sameHandle, again, onwards⟩ := Option.bind_eq_some_iff.mp done
  cases known.symm.trans again
  obtain ⟨exchange, stored, result⟩ := Option.bind_eq_some_iff.mp onwards
  cases result
  exact .taken stored

theorem waiting?_set {exchange later : Exchange} (stored : state.exchanges[place]? = some exchange)
    (other : Nat) :
    ({ state with exchanges := state.exchanges.set place later } : Exchanges).waiting? other =
      if place = other then later.response else state.waiting? other := by
  obtain ⟨inRange, -⟩ := List.getElem?_eq_some_iff.mp stored
  split
  · subst other
    simp [waiting?, List.getElem?_set_self inRange]
  · rename_i apart
    simp [waiting?, List.getElem?_set_ne apart]

theorem statusAt?_set {exchange later : Exchange} (stored : state.exchanges[place]? = some exchange)
    (other : Nat) :
    ({ state with exchanges := state.exchanges.set place later } : Exchanges).statusAt? other =
      if place = other then later.status else state.statusAt? other := by
  obtain ⟨inRange, -⟩ := List.getElem?_eq_some_iff.mp stored
  split
  · subst other
    simp [statusAt?, List.getElem?_set_self inRange]
  · rename_i apart
    simp [statusAt?, List.getElem?_set_ne apart]

namespace Does

variable {delivery : Delivery}

/-- What waited and what comes in is what goes out and what waits then. -/
theorem balance (does : state.Does delivery next) (place : Nat) :
    (state.waiting? place).toList ++ (delivery.accepted? place).toList =
      (delivery.handedOut? place).toList ++ (next.waiting? place).toList := by
  cases does with
  | @accepted at' exchange response stored empty =>
      rw [waiting?_set stored]
      by_cases here : at' = place
      · subst here
        simp [waiting?, stored, empty, Delivery.accepted?, Delivery.handedOut?]
      · simp [here, Delivery.accepted?, Delivery.handedOut?]
  | dropped response stored full => simp [Delivery.accepted?, Delivery.handedOut?]
  | @taken at' exchange stored =>
      rw [waiting?_set stored]
      by_cases here : at' = place
      · subst here
        simp [waiting?, stored, Delivery.accepted?, Delivery.handedOut?]
      · simp [here, Delivery.accepted?, Delivery.handedOut?]

theorem status (does : state.Does delivery next) (place : Nat) :
    next.statusAt? place =
      ((delivery.accepted? place).map Response.status).or (state.statusAt? place) := by
  cases does with
  | @accepted at' exchange response stored empty =>
      rw [statusAt?_set stored]
      by_cases here : at' = place <;> simp [here, Delivery.accepted?]
  | dropped response stored full => rfl
  | @taken at' exchange stored =>
      rw [statusAt?_set stored]
      by_cases here : at' = place
      · subst here
        simp [statusAt?, stored, Delivery.accepted?]
      · simp [here, Delivery.accepted?]

theorem handles (does : state.Does delivery next) : next.handles = state.handles := by
  cases does <;> rfl

theorem length (does : state.Does delivery next) :
    next.exchanges.length = state.exchanges.length := by
  cases does <;> simp

theorem won_iff {won : Bool} (does : state.Does (.written place response won) next) :
    won = true ↔ state.waiting? place = none := by
  cases does with
  | accepted _ stored empty => simp [waiting?, stored, empty]
  | dropped _ stored full => simp [waiting?, stored, full]

theorem of_accepted (does : state.Does delivery next)
    (accepts : delivery.accepted? place = some response) :
    delivery = .written place response true ∧ state.waiting? place = none := by
  cases does with
  | @accepted written _ _ stored empty =>
      by_cases here : written = place
      · subst here
        simp only [Delivery.accepted?, if_true, Option.some.injEq] at accepts
        exact ⟨by rw [accepts], by simp [waiting?, stored, empty]⟩
      · simp [Delivery.accepted?, here] at accepts
  | dropped _ _ _ => simp [Delivery.accepted?] at accepts
  | taken _ => simp [Delivery.accepted?] at accepts

theorem taken_eq {taken : Option Response} (does : state.Does (.taken place taken) next) :
    taken = state.waiting? place := by
  cases does with
  | taken stored => simp [waiting?, stored]

theorem traces {made : List HandleOperation} (does : state.Does delivery next)
    (traces : Traces made state) : Traces made next where
  count := by rw [does.handles, traces.count]
  origin := by
    rw [does.handles]
    exact traces.origin
  stored := by
    rw [does.handles, does.length]
    exact traces.stored

end Does

/-- An operation that has no answer leaves what waits and the status of every exchange alone. -/
theorem Performs.aside {operation : HandleOperation} (performs : state.Performs operation none next)
    (place : Nat) :
    next.waiting? place = state.waiting? place ∧ next.statusAt? place = state.statusAt? place := by
  cases performs with
  | begin trace =>
      simp only [waiting?, statusAt?, Exchanges.begin]
      rcases Nat.lt_trichotomy place state.exchanges.length with older | rfl | beyond
      · simp [List.getElem?_append_left older]
      · simp
      · have neither := List.getElem?_eq_none (Nat.le_of_lt beyond)
        have outside : (state.exchanges ++ [({ trace } : Exchange)]).length ≤ place := by
          simpa using Nat.succ_le_of_lt beyond
        rw [List.getElem?_eq_none outside, neither]
        exact ⟨rfl, rfl⟩
  | clone known => exact ⟨rfl, rfl⟩
  | withClaims claims known => exact ⟨rfl, rfl⟩
  | markStarted moment known =>
      simp only [waiting?, statusAt?, List.getElem?_modify]
      cases state.exchanges[place]? with
      | none => exact ⟨rfl, rfl⟩
      | some exchange => split <;> exact ⟨rfl, rfl⟩

/-! ## Histories -/

inductive Delivers (start : Exchanges) : DeliveryHistory -> Exchanges -> Prop where
  | nothing : Delivers start [] start
  | aside {history : DeliveryHistory} {state next : Exchanges} {operation : HandleOperation}
      (before : Delivers start history state)
      (done : state.perform? operation = some (none, next)) : Delivers start history next
  | write {history : DeliveryHistory} {state next : Exchanges} {handle : Nat} {found : Handle}
      {response : Response} {won : Bool} (before : Delivers start history state)
      (known : state.handles[handle]? = some found)
      (done : state.respond? handle response = some (won, next)) :
      Delivers start (history ++ [.written found.exchange response won]) next
  | take {history : DeliveryHistory} {state next : Exchanges} {handle : Nat} {found : Handle}
      {taken : Option Response} (before : Delivers start history state)
      (known : state.handles[handle]? = some found)
      (done : state.takeResponse? handle = some (taken, next)) :
      Delivers start (history ++ [.taken found.exchange taken]) next

/-- What holds of the exchanges after any history. -/
structure Balanced (history : DeliveryHistory) (state : Exchanges) : Prop where
  traces : ∃ made, Traces made state
  /-- Every response that was accepted was taken, once and in order, or is the one that waits. -/
  delivered : ∀ place, history.accepted place =
    history.handedOut place ++ (state.waiting? place).toList
  /-- The status is that of the last response accepted. -/
  status : ∀ place, state.statusAt? place =
    (history.accepted place).getLast?.map Response.status
  once : ∀ place, history.Timely place -> (history.accepted place).length ≤ 1

namespace Balanced

variable {history : DeliveryHistory} {delivery : Delivery}

theorem start : Balanced [] {} where
  traces := ⟨[], .start⟩
  delivered _ := rfl
  status _ := rfl
  once _ _ := Nat.zero_le 1

theorem aside {operation : HandleOperation} (balanced : Balanced history state)
    (performs : state.Performs operation none next) : Balanced history next where
  traces := by
    obtain ⟨made, traces⟩ := balanced.traces
    exact ⟨_, traces.performs performs⟩
  delivered place := by rw [(performs.aside place).1, balanced.delivered place]
  status place := by rw [(performs.aside place).2, balanced.status place]
  once := balanced.once

theorem does (balanced : Balanced history state) (does : state.Does delivery next) :
    Balanced (history ++ [delivery]) next where
  traces := by
    obtain ⟨made, traces⟩ := balanced.traces
    exact ⟨made, does.traces traces⟩
  delivered place := by
    rw [DeliveryHistory.accepted_snoc, DeliveryHistory.handedOut_snoc, balanced.delivered place,
      List.append_assoc, does.balance place, List.append_assoc]
  status place := by
    rw [DeliveryHistory.accepted_snoc, does.status place, balanced.status place]
    cases delivery.accepted? place with
    | none => simp
    | some response => simp
  once place timely := by
    obtain ⟨before, inTime⟩ := timely.of_snoc
    have short := balanced.once place before
    rw [DeliveryHistory.accepted_snoc]
    cases accepts : delivery.accepted? place with
    | none => simpa using short
    | some response =>
        -- Nothing was waiting when this was accepted, and nothing had been taken by then.
        obtain ⟨rfl, unwritten⟩ := does.of_accepted accepts
        have balance := balanced.delivered place
        rw [inTime ⟨response, true, rfl⟩, unwritten] at balance
        simp [balance]

end Balanced

theorem Delivers.balanced {history : DeliveryHistory} (delivers : Delivers {} history state) :
    Balanced history state := by
  induction delivers with
  | nothing => exact .start
  | aside before done ih => exact ih.aside (performs_of_perform? done)
  | write before known done ih => exact ih.does (does_of_respond? known done)
  | take before known done ih => exact ih.does (does_of_takeResponse? known done)

/-- What was written and taken in a history, and what writing and taking does after it. -/
structure Exact (history : DeliveryHistory) (state : Exchanges) : Prop
    extends Balanced history state where
  /-- One can write and take by every handle that there is. -/
  possible : ∀ handle response, handle < state.handles.length ->
    (state.respond? handle response).isSome = true ∧ (state.takeResponse? handle).isSome = true
  /-- A response is accepted exactly if all that were accepted before have been taken; one that is
  not changes nothing. -/
  writes : ∀ handle found response won next, state.handles[handle]? = some found ->
    state.respond? handle response = some (won, next) ->
    (won = true ↔ history.accepted found.exchange = history.handedOut found.exchange) ∧
      (won = false -> next = state)
  /-- What is taken is what was accepted and not taken before. -/
  takes : ∀ handle found taken next, state.handles[handle]? = some found ->
    state.takeResponse? handle = some (taken, next) ->
    history.accepted found.exchange = history.handedOut found.exchange ++ taken.toList
  /-- If nothing is written once a response was taken, that is the only one accepted, and its status
  stays. -/
  only : ∀ place response, history.Timely place -> response ∈ history.handedOut place ->
    history.accepted place = [response] ∧ history.handedOut place = [response] ∧
      state.statusAt? place = some response.status

theorem Balanced.possible {history : DeliveryHistory} (balanced : Balanced history state)
    (response : Response) (old : handle < state.handles.length) :
    (state.respond? handle response).isSome = true ∧
      (state.takeResponse? handle).isSome = true := by
  obtain ⟨made, traces⟩ := balanced.traces
  have known := List.getElem?_eq_getElem old
  have stored := List.getElem?_eq_getElem (traces.stored handle _ known)
  simp [respond?, takeResponse?, known, stored]

theorem Balanced.only {history : DeliveryHistory} (balanced : Balanced history state)
    (timely : history.Timely place) (taken : response ∈ history.handedOut place) :
    history.accepted place = [response] ∧ history.handedOut place = [response] ∧
      state.statusAt? place = some response.status := by
  have short := balanced.once place timely
  have delivered := balanced.delivered place
  have status := balanced.status place
  obtain ⟨before, after, parts⟩ := List.append_of_mem taken
  rw [delivered, parts] at short
  simp only [List.length_append, List.length_cons] at short
  obtain rfl : before = [] := List.length_eq_zero_iff.mp (by omega)
  obtain rfl : after = [] := List.length_eq_zero_iff.mp (by omega)
  have none : (state.waiting? place).toList = [] := List.length_eq_zero_iff.mp (by omega)
  rw [parts, none] at delivered
  exact ⟨delivered, parts, by rw [status, delivered]; rfl⟩

/-- **Responses written and taken.** Whatever is done with any number of handles, the responses that an
exchange has accepted are those that were taken from it, in that order, and then at most the one that
waits. One is accepted whenever none waits, so also after one was taken, and its status replaces that
of the response taken. An exchange to which nothing is written by then has accepted one response at
most; that one is taken, and its status stays. -/
theorem delivers_exact (history : DeliveryHistory) (state : Exchanges)
    (delivers : Delivers {} history state) : Exact history state where
  toBalanced := delivers.balanced
  possible handle response old := delivers.balanced.possible response old
  writes handle found response won next known done := by
    have does := does_of_respond? known done
    refine ⟨?_, ?_⟩
    · rw [does.won_iff, delivers.balanced.delivered]
      simp
    · rintro rfl
      cases does
      rfl
  takes handle found taken next known done := by
    rw [(does_of_takeResponse? known done).taken_eq]
    exact delivers.balanced.delivered found.exchange
  only place response timely taken := delivers.balanced.only timely taken

def lateHistory : DeliveryHistory :=
  [.written 0 (.bare .noContent) true, .taken 0 (some (.bare .noContent)), .written 0 (.bare .ok) true]

def lateState : Exchanges where
  exchanges := [{ status := some .ok, response := some (.bare .ok) }]
  handles := [⟨0, none⟩, ⟨0, none⟩]

theorem delivers_late : Delivers {} lateHistory lateState := by
  have begun := @Delivers.aside {} [] _ _ (.begin .random) .nothing rfl
  have cloned := @Delivers.aside _ _ _ _ (.clone 0) begun rfl
  have answered := @Delivers.write _ _ _ _ 0 _ (.bare .noContent) _ cloned rfl rfl
  have taken := @Delivers.take _ _ _ _ 0 _ _ answered rfl rfl
  exact @Delivers.write _ _ _ _ 1 _ (.bare .ok) _ taken rfl rfl

/-- The copy writes a second response, which is accepted; the status is no longer that of the
response that was taken. -/
theorem delivers_exact_late : Delivers {} lateHistory lateState ∧
    lateHistory.accepted 0 = [.bare .noContent, .bare .ok] ∧
    lateHistory.handedOut 0 = [.bare .noContent] ∧ lateState.statusAt? 0 = some .ok ∧
    ¬ lateHistory.Timely 0 := by
  have exact' := delivers_exact lateHistory lateState delivers_late
  refine ⟨delivers_late, rfl, rfl, (exact'.status 0).trans rfl, ?_⟩
  intro timely
  have short := exact'.once 0 timely
  exact absurd short (by decide)

end Exchanges

end HttpService
