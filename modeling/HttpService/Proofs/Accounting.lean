import HttpService.Proofs.Mediation
import HttpService.Proofs.Registration
import HttpService.Proofs.TrafficRuns
/-! # What the counters come to

Requests that are dispatched at the same time to a router with the standard layers are counted
exactly, in whatever order their actions are performed. `Went` reads off the deeds of a request how
its chain ended; `booked_settled` finds that each request that was answered went in just one way and
was counted for just that, and `counted_exactly` adds the requests up. -/
set_option autoImplicit false

namespace HttpService

structure Account where
  /-- How the chain ended inside Panics. -/
  ending : Ending
  /-- What the chain came to inside Metrics. -/
  outcome : Outcome

namespace Account

def panicked (account : Account) : Bool := account.ending.isPanic

def failed (account : Account) : Bool := Outcome.isFailure account.outcome

end Account

/-- By these deeds of a request in the standard layers, the handler inside came to its ending. -/
def Handler.CameTo (handler : Handler) (passage : Passage) (deeds : List Deed) (ending : Ending) :
    Prop :=
  ∃ during after, deeds = Layer.entry passage.request.line ++ (during ++ after) ∧
    (handler passage).Performs during ending

theorem Handler.CameTo.unique {handler : Handler} {passage : Passage} {deeds : List Deed}
    {ending other : Ending} (came : handler.CameTo passage deeds ending)
    (again : handler.CameTo passage deeds other) : ending = other := by
  obtain ⟨during, after, rfl, performs⟩ := came
  obtain ⟨others, more, same, alsoPerforms⟩ := again
  exact (performs.unique alsoPerforms (List.append_cancel_left same)).2

/-- How a request went, as its deeds tell. -/
inductive Went (routes : List Route) (request : Request) (deeds : List Deed) :
    Option Account -> Prop where
  | unmatched (absent : Route.match? routes request = none) (idle : deeds = []) :
      Went routes request deeds none
  | matched {route : Route} {params : List (String × String)} (account : Account)
      (found : Route.match? routes request = some (route, params))
      (insidePanics : route.inside.CameTo ⟨none, { request with params }⟩ deeds account.ending)
      (insideMetrics : (Layer.panics.wrap route.inside).CameTo ⟨none, { request with params }⟩ deeds
        (.returned account.outcome)) :
      Went routes request deeds (some account)

namespace Went

variable {routes : List Route} {request : Request} {deeds : List Deed}

theorem unique {account other : Option Account} (went : Went routes request deeds account)
    (again : Went routes request deeds other) : account = other := by
  cases went with
  | unmatched absent idle =>
      cases again with
      | unmatched _ _ => rfl
      | matched _ found _ _ => rw [absent] at found; cases found
  | matched account found insidePanics insideMetrics =>
      cases again with
      | unmatched absent _ => rw [absent] at found; cases found
      | matched other foundAgain alsoPanics alsoMetrics =>
          rw [found] at foundAgain
          cases foundAgain
          have sameEnding := insidePanics.unique alsoPanics
          have sameOutcome := insideMetrics.unique alsoMetrics
          rcases account with ⟨ending, outcome⟩
          rcases other with ⟨otherEnding, otherOutcome⟩
          cases sameEnding
          cases sameOutcome
          rfl

theorem isSome_eq {account : Option Account} (went : Went routes request deeds account) :
    account.isSome = (Route.match? routes request).isSome := by
  cases went with
  | unmatched absent _ => rw [absent]; rfl
  | matched _ found _ _ => rw [found]; rfl

end Went

/-- The request went this way and was counted for just that. -/
structure Booked (routes : List Route) (request : Request) (deeds : List Deed)
    (account : Option Account) : Prop where
  went : Went routes request deeds account
  tally : Tally deeds account.isSome.toNat (account.any Account.failed).toNat
    (account.any Account.panicked).toNat
  failed : account.any Account.panicked = true -> account.any Account.failed = true

def Route.Neutral (route : Route) : Prop :=
  (∀ layer ∈ route.layers, layer.Neutral) ∧ route.handler.Neutral

/-- Of the layers of this library just Metrics and Panics count. -/
theorem Stage.neutral_iff (stage : Stage) :
    stage.layer.Neutral ↔ stage ≠ .metrics ∧ stage ≠ .panics := by
  constructor
  · intro neutral
    constructor
    · rintro rfl
      exact (neutral default (.returned (.ok ()))).1
    · rintro rfl
      exact (neutral default (.panicked .other)).1
  · rintro ⟨notMetrics, notPanics⟩ passage
    match stage with
    | .metrics => exact absurd rfl notMetrics
    | .panics => exact absurd rfl notPanics
    | .logger =>
        refine ⟨trivial, fun _ => ⟨trivial, fun _ ending => ?_⟩⟩
        cases ending with
        | returned outcome => exact ⟨trivial, fun _ => ⟨trivial, fun _ => trivial⟩⟩
        | panicked payload => trivial
    | .errors =>
        intro ending
        match ending with
        | .panicked payload => trivial
        | .returned (.ok ()) => trivial
        | .returned (.error failure) =>
            refine ⟨trivial, fun _ => ⟨trivial, fun _ => ?_⟩⟩
            split <;> trivial
    | .authenticate verifier =>
        refine ⟨trivial, fun now => ?_⟩
        dsimp only
        split
        · trivial
        · exact fun _ => trivial
    | .authorize rule =>
        simp only [layer, Layer.authorize]
        split
        · trivial
        · split
          · trivial
          · exact fun _ => trivial

/-- A request that has come through the standard layers is booked. -/
theorem booked_standard {routes : List Route} {request : Request} {deeds : List Deed}
    {last : Ending} {route : Route} {params : List (String × String)} (neutral : route.Neutral)
    (found : Route.match? routes request = some (route, params))
    (performs : (route.whole Layer.standard ⟨none, { request with params }⟩).Performs deeds last) :
    ∃ account, Booked routes request deeds account := by
  have inside : route.inside.Neutral := neutral_compose neutral.1 neutral.2
  obtain ⟨during, recovering, leaving, ending, rfl, running, reporting, tally⟩ :=
    Layer.performs_standard inside performs
  refine ⟨some ⟨ending, ending.recovered⟩, ?_, tally, ?_⟩
  · refine .matched _ found ⟨during, recovering ++ leaving, ?_, running⟩
      ⟨during ++ recovering, leaving, ?_, reporting⟩
    · simp only [List.append_assoc]
    · simp only [List.append_assoc]
  · cases ending with
    | returned outcome => nofun
    | panicked payload => exact fun _ => rfl

namespace Traffic

variable {routes : List Route} {router : Router}

theorem dispatched_some (router : Router) {requests : List Request} {index : Nat}
    {request : Request} (world : World) (here : requests[index]? = some request) :
    ∃ state, (dispatched router requests world).requests[index]? =
      some (Progress.start router request state).1 := by
  obtain ⟨entered, listed, -, begun⟩ := enter_all router requests { world }
  obtain ⟨state, there⟩ := begun index request here
  refine ⟨state, ?_⟩
  rw [dispatched, listed]
  exact there

theorem length_dispatched (router : Router) (requests : List Request) (world : World) :
    (dispatched router requests world).requests.length = requests.length := by
  obtain ⟨entered, listed, length, -⟩ := enter_all router requests { world }
  rw [dispatched, listed]
  exact length

theorem counters_dispatched (router : Router) (requests : List Request) (world : World) :
    (dispatched router requests world).world.counters = world.counters :=
  counters_enter_all router requests { world }

theorem start_unmatched (built : Router.ofRoutes Layer.standard routes = .ok router)
    {request : Request} (absent : Route.match? routes request = none) (world : World) :
    Progress.start router request world = (.answered (.response (.bare .notFound)), world) := by
  simp only [Progress.start, Router.find?_ofRoutes built, absent, Option.map_none]

theorem start_matched (built : Router.ofRoutes Layer.standard routes = .ok router)
    {request : Request} {route : Route} {params : List (String × String)}
    (found : Route.match? routes request = some (route, params)) (world : World) :
    (Progress.start router request world).1 =
      .running (route.whole Layer.standard ⟨none, { request with params }⟩)
        (Router.received world).exchange := by
  simp only [Progress.start, Router.find?_ofRoutes built, found, Option.map_some]

theorem answered_of_settled {traffic : Traffic} (settled : traffic.isSettled = true) {index : Nat}
    (inside : index < traffic.requests.length) :
    ∃ reply, traffic.requests[index]? = some (.answered reply) := by
  have here := List.getElem?_eq_getElem inside
  have answered := List.all_eq_true.mp settled _ (List.getElem_mem inside)
  cases reached : traffic.requests[index] with
  | answered reply => exact ⟨reply, here.trans (congrArg some reached)⟩
  | running task exchange => simp [reached, Progress.isAnswered] at answered

theorem booked_settled (built : Router.ofRoutes Layer.standard routes = .ok router)
    (neutral : ∀ route ∈ routes, route.Neutral) {requests : List Request} {world : World}
    {order : List Nat} (settled : ((dispatched router requests world).run order).isSettled = true)
    {index : Nat} {request : Request} (here : requests[index]? = some request) :
    ∃ account, Booked routes request
      (((dispatched router requests world).history order).deedsOf index) account := by
  obtain ⟨state, started⟩ := dispatched_some router world here
  cases matched : Route.match? routes request with
  | none =>
      rw [start_unmatched built matched state] at started
      rw [deedsOf_answered order started]
      exact ⟨none, .unmatched matched rfl, .of_neutral nofun, nofun⟩
  | some found =>
      obtain ⟨route, params⟩ := found
      rw [start_matched built matched state] at started
      have inside : index < ((dispatched router requests world).run order).requests.length := by
        rw [length_run]
        exact (List.getElem?_eq_some_iff.mp started).1
      obtain ⟨reply, answered⟩ := answered_of_settled settled inside
      obtain ⟨last, performs⟩ := performs_deedsOf order started answered
      exact booked_standard (neutral route (Route.mem_of_match? matched).1) matched performs

theorem countP_multiples (every before count : Nat) :
    (List.range' (before + 1) count).countP (fun total => total % every = 0) =
      (before + count) / every - before / every := by
  induction count with
  | zero => simp
  | succ count ih =>
      have earlier : before / every ≤ (before + count) / every :=
        Nat.div_le_div_right (Nat.le_add_right before count)
      have next : before + 1 + count = before + count + 1 := by omega
      rw [List.range'_1_concat, List.countP_append, ih, next, ← Nat.add_assoc, Nat.succ_div,
        List.countP_singleton]
      by_cases due : every ∣ before + count + 1
      · rw [if_pos due, if_pos (decide_eq_true (Nat.mod_eq_zero_of_dvd due))]
        omega
      · have notDue : ¬ (before + count + 1) % every = 0 := by
          intro divides
          exact due (Nat.dvd_of_mod_eq_zero divides)
        rw [if_neg due, if_neg (mt of_decide_eq_true notDue)]
        rfl

theorem countP_isDue (deeds : List Deed) :
    deeds.countP Deed.isDue =
      (deeds.filterMap Deed.total?).countP (fun total => total % Layer.sampleEvery = 0) := by
  rw [List.countP_filterMap]
  apply List.countP_congr
  intro deed _
  cases total : deed.total? <;> simp [Deed.isDue, total]

end Traffic

/-! ## The books of a whole run -/

structure Books (routes : List Route) (history : History)
    (books : List (Request × Option Account)) : Prop where
  booked : ∀ (index : Nat) (entry : Request × Option Account), books[index]? = some entry ->
    Booked routes entry.1 (history.deedsOf index) entry.2
  complete : ∀ done ∈ history, done.1 < books.length

namespace Books

variable {routes : List Route} {history : History} {books : List (Request × Option Account)}

theorem countP_deeds (holds : Books routes history books) {test : Deed -> Bool}
    (flag : Option Account -> Bool)
    (each : ∀ {request deeds account}, Booked routes request deeds account ->
      deeds.countP test = (flag account).toNat) :
    history.deeds.countP test = (books.map Prod.snd).countP flag := by
  rw [List.countP_map]
  apply History.countP_deeds_eq holds.complete
  intro index entry here
  exact each (holds.booked index entry here)

theorem countP_samples (holds : Books routes history books) :
    history.deeds.countP Deed.samples = history.deeds.countP Deed.isDue := by
  apply History.countP_deeds_congr holds.complete
  intro index inside
  exact (holds.booked index _ (List.getElem?_eq_getElem inside)).tally.samples

theorem countP_matched (holds : Books routes history books) :
    (books.map Prod.snd).countP Option.isSome =
      (books.map Prod.fst).countP fun request => (Route.match? routes request).isSome := by
  rw [List.countP_map, List.countP_map]
  apply List.countP_congr
  intro entry present
  obtain ⟨index, here⟩ := List.mem_iff_getElem?.mp present
  have same := (holds.booked index entry here).went.isSome_eq
  simp only [Function.comp_apply, same]

theorem countP_panicked_le (holds : Books routes history books) :
    (books.map Prod.snd).countP (·.any Account.panicked) ≤
      (books.map Prod.snd).countP (·.any Account.failed) := by
  rw [List.countP_map, List.countP_map]
  apply List.countP_mono_left
  intro entry present panicked
  obtain ⟨index, here⟩ := List.mem_iff_getElem?.mp present
  exact (holds.booked index entry here).failed panicked

theorem went_iff (holds : Books routes history books) {index : Nat} {request : Request}
    (here : (books.map Prod.fst)[index]? = some request) (account : Option Account) :
    Went routes request (history.deedsOf index) account ↔
      (books.map Prod.snd)[index]? = some account := by
  rw [List.getElem?_map] at here ⊢
  obtain ⟨entry, there, rfl⟩ := Option.map_eq_some_iff.mp here
  have went := (holds.booked index entry there).went
  rw [there, Option.map_some, Option.some.injEq]
  constructor
  · exact went.unique
  · rintro rfl
    exact went

end Books

/-- When each item of a list goes with something, the list goes with a list of such. -/
theorem exists_pairs {α β : Type} (fits : Nat -> α -> β -> Prop) (items : List α)
    (each : ∀ (index : Nat) (item : α), items[index]? = some item -> ∃ other, fits index item other) :
    ∃ pairs : List (α × β), pairs.map Prod.fst = items ∧
      ∀ (index : Nat) (pair : α × β), pairs[index]? = some pair -> fits index pair.1 pair.2 := by
  induction items generalizing fits with
  | nil => exact ⟨[], rfl, nofun⟩
  | cons item items ih =>
      obtain ⟨other, fitting⟩ := each 0 item rfl
      obtain ⟨pairs, same, rest⟩ := ih (fun index => fits (index + 1)) fun index => each (index + 1)
      refine ⟨(item, other) :: pairs, congrArg (item :: ·) same, ?_⟩
      intro index pair here
      cases index with
      | zero =>
          cases here
          exact fitting
      | succ index => exact rest index pair here

namespace Traffic

theorem books_settled {routes : List Route} {router : Router}
    (built : Router.ofRoutes Layer.standard routes = .ok router)
    (neutral : ∀ route ∈ routes, route.Neutral) {requests : List Request} {world : World}
    {order : List Nat} (settled : ((dispatched router requests world).run order).isSettled = true) :
    ∃ books, books.map Prod.fst = requests ∧
      Books routes ((dispatched router requests world).history order) books := by
  obtain ⟨books, listed, booked⟩ := exists_pairs _ requests fun index request here =>
    booked_settled built neutral settled here
  refine ⟨books, listed, booked, ?_⟩
  intro done present
  have inside := history_inside order done present
  rw [length_dispatched, ← listed] at inside
  simpa using inside

/-- **The counters are exact.** However the actions of any number of requests are interleaved, once
all are answered there is just one account of each, and the counters have grown by what the accounts
come to. The totals returned while counting are those between, each once, so that samples are
taken just when a multiple is passed. A request that matches no route might as well not be there, and
one that is alone goes as it does in a dispatch. -/
theorem counted_exactly {routes : List Route} {router : Router}
    (built : Router.ofRoutes Layer.standard routes = .ok router)
    (neutral : ∀ route ∈ routes, route.Neutral) (requests : List Request) (world : World)
    (order : List Nat)
    (settled : ((dispatched router requests world).run order).isSettled = true) :
    let traffic := dispatched router requests world
    let history := traffic.history order
    let before := world.counters
    let after := (traffic.run order).world.counters
    let matched := requests.countP fun request => (Route.match? routes request).isSome
    ∃ accounts : List (Option Account),
      accounts.length = requests.length ∧
      (∀ (index : Nat) (request : Request), requests[index]? = some request -> ∀ account,
        Went routes request (history.deedsOf index) account ↔ accounts[index]? = some account) ∧
      after.requests = before.requests + matched ∧
      after.errors = before.errors + accounts.countP (·.any Account.failed) ∧
      after.panics = before.panics + accounts.countP (·.any Account.panicked) ∧
      accounts.countP (·.any Account.panicked) ≤ accounts.countP (·.any Account.failed) ∧
      accounts.countP (·.any Account.failed) ≤ matched ∧
      history.deeds.filterMap Deed.total? = List.range' (before.requests + 1) matched ∧
      history.deeds.countP Deed.samples =
        after.requests / Layer.sampleEvery - before.requests / Layer.sampleEvery ∧
      (∀ (index : Nat) (request : Request), requests[index]? = some request ->
        Route.match? routes request = none ->
          traffic.run (order.filter (· ≠ index)) = traffic.run order) ∧
      ∀ (request : Request) (reply : Router.Reply) (last : World), world.elapsed = 0 ->
        router.dispatch none request world = (reply, last) -> reply ≠ .cutOff ->
          ∃ turns, (dispatched router [request] world).run (List.replicate turns 0) =
            ⟨last, [.answered reply]⟩ := by
  intro traffic history before after matched
  have untouched : traffic.world.counters = before := counters_dispatched router requests world
  have added (counter : Counter) := traffic.total_run order counter
  rw [untouched] at added
  obtain ⟨books, rfl, holds⟩ := books_settled built neutral settled
  have requestsCounted := holds.countP_deeds Option.isSome fun booked => booked.tally.requests
  have errorsCounted := holds.countP_deeds (·.any Account.failed) fun booked => booked.tally.errors
  have panicsCounted := holds.countP_deeds (·.any Account.panicked) fun booked => booked.tally.panics
  have allMatched : (books.map Prod.snd).countP Option.isSome = matched := holds.countP_matched
  have grown : after.requests = before.requests + matched := by
    rw [← allMatched, ← requestsCounted]
    exact added .requests
  have totals : history.deeds.filterMap Deed.total? = List.range' (before.requests + 1) matched := by
    rw [← allMatched, ← requestsCounted, ← untouched]
    exact traffic.totals_run order
  refine ⟨books.map Prod.snd, ?_, fun _ _ here => holds.went_iff here, grown, ?_, ?_,
    holds.countP_panicked_le, ?_, totals, ?_, ?_, fun _ _ _ => dispatch_alone⟩
  · simp only [List.length_map]
  · rw [← errorsCounted]
    exact added .errors
  · rw [← panicsCounted]
    exact added .panics
  · rw [← allMatched]
    apply List.countP_mono_left
    intro account _ failed
    exact Option.isSome_of_any failed
  · rw [holds.countP_samples, countP_isDue, totals, countP_multiples, grown]
  · intro index request here absent
    obtain ⟨state, started⟩ := dispatched_some router world here
    rw [start_unmatched built absent state] at started
    exact run_without order started

def mixedRoutes : List Route :=
  [⟨.get, "/fine", [], fun _ => .perform (.respond (.bare .noContent)) .succeed⟩,
    ⟨.get, "/frail", [Layer.errors], fun _ => .fail (.shutdown "disk" none)⟩,
    ⟨.get, "/panics", [Layer.logger, Layer.errors], fun _ => .panic (.text "late")⟩]

def mixedRequests : List Request := ["/fine", "/nowhere", "/panics", "/frail"].map .get

def mixedOrder : List Nat := (List.replicate 12 [3, 1, 0, 2]).flatten

/-- The second of the three requests that match is the thousandth of all. -/
theorem counted_exactly_mixed : ∃ router,
    Router.ofRoutes Layer.standard mixedRoutes = .ok router ∧
      let traffic := dispatched router mixedRequests { counters := { requests := 998 } }
      let after := (traffic.run mixedOrder).world.counters
      let deeds := (traffic.history mixedOrder).deeds
      after.requests = 1001 ∧ deeds.filterMap Deed.total? = [999, 1000, 1001] ∧
        deeds.countP Deed.samples = 1 ∧
        ∃ turns last, (dispatched router [.get "/fine"] {}).run (List.replicate turns 0) =
          ⟨last, [.answered (.response (.bare .noContent))]⟩ := by
  obtain ⟨router, built, settled, fine⟩ : ∃ router,
      Router.ofRoutes Layer.standard mixedRoutes = .ok router ∧
        ((dispatched router mixedRequests { counters := { requests := 998 } }).run
          mixedOrder).isSettled = true ∧
        (router.dispatch none (.get "/fine") {}).1 = .response (.bare .noContent) :=
    ⟨_, rfl, by decide +kernel, rfl⟩
  have neutral : ∀ route ∈ mixedRoutes, route.Neutral := by
    have errors : Layer.errors.Neutral := (Stage.neutral_iff .errors).mpr ⟨nofun, nofun⟩
    have logger : Layer.logger.Neutral := (Stage.neutral_iff .logger).mpr ⟨nofun, nofun⟩
    simp only [mixedRoutes, List.forall_mem_cons]
    exact ⟨⟨nofun, fun _ => ⟨trivial, fun _ => trivial⟩⟩,
      ⟨List.forall_mem_cons.mpr ⟨errors, nofun⟩, fun _ => trivial⟩,
      ⟨List.forall_mem_cons.mpr ⟨logger, List.forall_mem_cons.mpr ⟨errors, nofun⟩⟩,
        fun _ => trivial⟩, nofun⟩
  have threeMatch : mixedRequests.countP
      (fun request => (Route.match? mixedRoutes request).isSome) = 3 := by decide +kernel
  obtain ⟨accounts, _, _, requests, _, _, _, _, totals, samples, _, _⟩ :=
    counted_exactly built neutral mixedRequests _ mixedOrder settled
  obtain ⟨_, _, _, _, _, _, _, _, _, _, _, alone⟩ := counted_exactly built neutral [] {} [] rfl
  obtain ⟨turns, answered⟩ := alone (.get "/fine") _ _ rfl (Prod.ext fine rfl) nofun
  rw [threeMatch] at requests totals
  refine ⟨router, built, requests, totals, ?_, turns, _, answered⟩
  exact samples.trans (by rw [requests]; rfl)

end Traffic

end HttpService
