import HttpService.Proofs.Histories
import HttpService.Proofs.Indifference
import HttpService.Traffic
/-! # Histories of requests at the same time

What the requests of a traffic have done when it was run in some order, each deed with the place of
the request whose deed it is. The counters have gone up by what the deeds of all requests count, and
each total was returned once; the deeds of one request are those of its task. -/
set_option autoImplicit false

namespace HttpService

theorem World.total_perform (world : World) (action : Action) (counter : Counter) :
    (world.perform action).2.counters.total counter =
      world.counters.total counter +
        [(⟨action, (world.perform action).1⟩ : Deed)].countP (Deed.counts counter) := by
  cases action with
  | respond response =>
      simp only [World.perform, World.respond]
      split <;> rfl
  | count counted =>
      have grown := Counters.total_increment world.counters counted counter
      simp only [World.perform, grown, List.countP_singleton, Deed.counts, beq_iff_eq]
  | sampleTasks =>
      simp only [World.perform, Counters.sample]
      split <;> cases counter <;> rfl
  | _ => rfl

theorem Router.settle_counters (outcome : Outcome) (world : World) :
    (Router.settle outcome world).2.counters = world.counters := by
  have delivered (state : World) : (Router.deliver state).2.counters = state.counters := by
    simp only [Router.deliver]
    split <;> rfl
  cases outcome with
  | ok done => exact delivered world
  | error failure =>
      have same := congrArg World.counters (Router.settleFailure_apart failure world)
      exact (delivered _).trans same

/-- Deeds in their order, each with the place of the request that did it. -/
abbrev History := List (Nat × Deed)

namespace History

def deeds (history : History) : List Deed := history.map Prod.snd

def deedsOf (history : History) (request : Nat) : List Deed :=
  history.filterMap fun (who, deed) => if who = request then some deed else none

theorem deedsOf_cons (who request : Nat) (deed : Deed) (history : History) :
    deedsOf ((who, deed) :: history) request =
      if who = request then deed :: history.deedsOf request else history.deedsOf request := by
  by_cases same : who = request <;> simp [deedsOf, same]

variable (test : Deed -> Bool)

theorem countP_next (history : History) (count : Nat) :
    history.countP (fun entry => entry.1 < count + 1 && test entry.2) =
      history.countP (fun entry => entry.1 < count && test entry.2) +
        (history.deedsOf count).countP test := by
  induction history with
  | nil => rfl
  | cons entry history ih =>
      obtain ⟨who, deed⟩ := entry
      simp only [List.countP_cons, ih, deedsOf_cons]
      rcases Nat.lt_trichotomy who count with below | rfl | beyond
      · have inside : who < count + 1 := by omega
        have other : who ≠ count := by omega
        simp only [below, inside, other, if_false]
        omega
      · simp only [Nat.lt_irrefl, Nat.lt_add_one, if_true, List.countP_cons, decide_true,
          decide_false, Bool.true_and, Bool.false_and, Bool.false_eq_true, if_false]
        omega
      · have outside : ¬ who < count + 1 := by omega
        have alsoOutside : ¬ who < count := by omega
        have other : who ≠ count := by omega
        simp [outside, alsoOutside, other]

variable {test}

theorem countP_deeds {history : History} {count : Nat} (inside : ∀ entry ∈ history, entry.1 < count) :
    history.deeds.countP test = history.countP fun entry => entry.1 < count && test entry.2 := by
  rw [deeds, List.countP_map]
  apply List.countP_congr
  intro entry present
  simp [inside entry present]

/-- When every request has one such deed or none, there are as many as requests that have one. -/
theorem countP_deeds_eq {α : Type} {history : History} {items : List α}
    (inside : ∀ entry ∈ history, entry.1 < items.length) (flag : α -> Bool)
    (each : ∀ (request : Nat) (item : α), items[request]? = some item ->
      (history.deedsOf request).countP test = (flag item).toNat) :
    history.deeds.countP test = items.countP flag := by
  have upTo : ∀ count ≤ items.length,
      history.countP (fun entry => entry.1 < count && test entry.2) =
        (items.take count).countP flag := by
    intro count
    induction count with
    | zero => simp
    | succ count ih =>
        intro enough
        have here := List.getElem?_eq_getElem (Nat.lt_of_succ_le enough)
        rw [countP_next, ih (Nat.le_of_succ_le enough), each count _ here, List.take_add_one, here,
          List.countP_append]
        cases shown : flag items[count] <;> simp [shown]
  rw [countP_deeds inside, upTo items.length (Nat.le_refl _), List.take_length]

theorem countP_deeds_congr {history : History} {count : Nat} {other : Deed -> Bool}
    (inside : ∀ entry ∈ history, entry.1 < count)
    (each : ∀ request < count,
      (history.deedsOf request).countP test = (history.deedsOf request).countP other) :
    history.deeds.countP test = history.deeds.countP other := by
  rw [countP_deeds inside, countP_deeds inside]
  clear inside
  induction count with
  | zero => simp
  | succ count ih =>
      have fewer := ih fun request less => each request (Nat.lt_succ_of_lt less)
      rw [countP_next, countP_next, fewer, each count (Nat.lt_succ_self count)]

end History

namespace Progress

def deed? (progress : Progress) (world : World) : Option Deed :=
  match progress with
  | .running (.act action _) exchange =>
      some ⟨action, (({ world with exchange } : World).perform action).1⟩
  | _ => none

theorem total_advance (progress : Progress) (world : World) (counter : Counter) :
    (progress.advance world).2.counters.total counter =
      world.counters.total counter +
        (progress.deed? world).toList.countP (Deed.counts counter) := by
  match progress with
  | .answered reply => rfl
  | .running .stall exchange => rfl
  | .running (.done (.panicked payload)) exchange => rfl
  | .running (.done (.returned outcome)) exchange =>
      have kept := Router.settle_counters outcome { world with exchange }
      simp only [advance, kept, deed?]
      rfl
  | .running (.act action next) exchange =>
      exact World.total_perform { world with exchange } action counter

end Progress

namespace Traffic

def deed? (traffic : Traffic) (request : Nat) : Option Deed :=
  traffic.requests[request]?.bind fun progress => progress.deed? traffic.world

def history (traffic : Traffic) : List Nat -> History
  | [] => []
  | request :: order =>
      ((traffic.deed? request).map fun deed => (request, deed)).toList ++
        (traffic.step request).history order

variable (traffic : Traffic)

theorem deeds_history (request : Nat) (order : List Nat) :
    (traffic.history (request :: order)).deeds =
      (traffic.deed? request).toList ++ ((traffic.step request).history order).deeds := by
  simp only [History.deeds, history, List.map_append]
  cases traffic.deed? request <;> rfl

theorem run_cons (request : Nat) (order : List Nat) :
    traffic.run (request :: order) = (traffic.step request).run order := rfl

/-! ## The counters -/

theorem total_step (request : Nat) (counter : Counter) :
    (traffic.step request).world.counters.total counter =
      traffic.world.counters.total counter +
        (traffic.deed? request).toList.countP (Deed.counts counter) := by
  simp only [step, deed?]
  cases traffic.requests[request]? with
  | none => rfl
  | some progress => exact progress.total_advance traffic.world counter

theorem total_run (order : List Nat) (counter : Counter) :
    (traffic.run order).world.counters.total counter =
      traffic.world.counters.total counter +
        (traffic.history order).deeds.countP (Deed.counts counter) := by
  induction order generalizing traffic with
  | nil => rfl
  | cons request order ih =>
      have first := traffic.total_step request counter
      have later := ih (traffic.step request)
      rw [run_cons, deeds_history, List.countP_append]
      omega

/-- The total that counting a request returns is the next one. -/
theorem total?_deed? (request : Nat) :
    (traffic.deed? request).toList.filterMap Deed.total? =
      List.range' (traffic.world.counters.requests + 1)
        ((traffic.deed? request).toList.countP (Deed.counts .requests)) := by
  simp only [deed?]
  match traffic.requests[request]? with
  | none => rfl
  | some (.answered reply) => rfl
  | some (.running .stall exchange) => rfl
  | some (.running (.done ending) exchange) => rfl
  | some (.running (.act action next) exchange) =>
      cases action with
      | count counter => cases counter <;> rfl
      | _ => rfl

/-- Every total between the first and the last has been returned, once and in order. -/
theorem totals_run (order : List Nat) :
    (traffic.history order).deeds.filterMap Deed.total? =
      List.range' (traffic.world.counters.requests + 1)
        ((traffic.history order).deeds.countP (Deed.counts .requests)) := by
  induction order generalizing traffic with
  | nil => rfl
  | cons request order ih =>
      have grown : (traffic.step request).world.counters.requests = _ :=
        traffic.total_step request .requests
      rw [deeds_history, List.filterMap_append, List.countP_append, total?_deed?, ih, grown,
        ← List.range'_append_1]
      simp only [Counters.total, Nat.add_right_comm]

/-! ## One request among others -/

variable {traffic}

theorem step_self {request : Nat} {progress : Progress}
    (here : traffic.requests[request]? = some progress) :
    (traffic.step request).requests[request]? = some (progress.advance traffic.world).1 := by
  obtain ⟨inside, -⟩ := List.getElem?_eq_some_iff.mp here
  simp only [step, here]
  exact List.getElem?_set_self inside

theorem step_other {request other : Nat} (differs : other ≠ request) :
    (traffic.step other).requests[request]? = traffic.requests[request]? := by
  simp only [step]
  split
  · rfl
  · exact List.getElem?_set_ne differs

theorem deedsOf_self (request : Nat) (order : List Nat) :
    (traffic.history (request :: order)).deedsOf request =
      (traffic.deed? request).toList ++ ((traffic.step request).history order).deedsOf request := by
  cases found : traffic.deed? request <;> simp [history, found, History.deedsOf_cons]

theorem deedsOf_other {request other : Nat} (differs : other ≠ request) (order : List Nat) :
    (traffic.history (other :: order)).deedsOf request =
      ((traffic.step other).history order).deedsOf request := by
  cases found : traffic.deed? other <;> simp [history, found, History.deedsOf_cons, differs]

theorem step_answered {request : Nat} {reply : Router.Reply}
    (answered : traffic.requests[request]? = some (.answered reply)) :
    traffic.step request = traffic := by
  obtain ⟨inside, same⟩ := List.getElem?_eq_some_iff.mp answered
  have unchanged : traffic.requests.set request (.answered reply) = traffic.requests := by
    rw [← same]
    exact List.set_getElem_self inside
  simp only [step, answered, Progress.advance, unchanged]

/-- Leaving out the turns of an answered request makes no difference. -/
theorem run_without {request : Nat} {reply : Router.Reply} (order : List Nat)
    (answered : traffic.requests[request]? = some (.answered reply)) :
    traffic.run (order.filter (· ≠ request)) = traffic.run order := by
  induction order generalizing traffic with
  | nil => rfl
  | cons other order ih =>
      by_cases same : other = request
      · subst other
        simpa [run_cons, step_answered answered] using ih answered
      · simpa [run_cons, same] using ih ((step_other same).trans answered)

theorem deedsOf_answered {request : Nat} {reply : Router.Reply} (order : List Nat)
    (answered : traffic.requests[request]? = some (.answered reply)) :
    (traffic.history order).deedsOf request = [] := by
  induction order generalizing traffic with
  | nil => rfl
  | cons other order ih =>
      by_cases same : other = request
      · subst other
        have idle : traffic.deed? request = none := by simp only [deed?, answered]; rfl
        rw [deedsOf_self, idle, step_answered answered]
        exact ih answered
      · rw [deedsOf_other same]
        exact ih ((step_other same).trans answered)

/-- A request that has been answered in the end has performed its task, whatever came between. -/
theorem performs_deedsOf {request : Nat} {task : Task Empty} {exchange : Exchange}
    {reply : Router.Reply} (order : List Nat)
    (running : traffic.requests[request]? = some (.running task exchange))
    (answered : (traffic.run order).requests[request]? = some (.answered reply)) :
    ∃ ending, task.Performs ((traffic.history order).deedsOf request) ending := by
  -- The task is what is left of the request's own when its next turn comes.
  induction order generalizing traffic task exchange with
  | nil =>
      have same := running.symm.trans answered
      cases same
  | cons other order ih =>
      rw [run_cons] at answered
      by_cases same : other = request
      · subst other
        have further := step_self running
        rw [deedsOf_self]
        simp only [deed?, running, Option.bind_some]
        match task with
        | .stall => exact ih further answered
        | .act action next =>
            obtain ⟨ending, performs⟩ := ih further answered
            exact ⟨ending, .act _ performs⟩
        | .done (.panicked payload) =>
            rw [deedsOf_answered order further]
            exact ⟨_, .done _⟩
        | .done (.returned outcome) =>
            rw [deedsOf_answered order further]
            exact ⟨_, .done _⟩
      · rw [deedsOf_other same]
        exact ih ((step_other same).trans running) answered

/-! ## All requests -/

theorem length_step (request : Nat) :
    (traffic.step request).requests.length = traffic.requests.length := by
  simp only [step]
  split
  · rfl
  · exact List.length_set

theorem length_run (order : List Nat) :
    (traffic.run order).requests.length = traffic.requests.length := by
  induction order generalizing traffic with
  | nil => rfl
  | cons request order ih => rw [run_cons, ih, length_step]

theorem history_inside (order : List Nat) :
    ∀ entry ∈ traffic.history order, entry.1 < traffic.requests.length := by
  induction order generalizing traffic with
  | nil => nofun
  | cons request order ih =>
      intro entry present
      rcases List.mem_append.mp present with first | later
      · obtain ⟨deed, found, rfl⟩ := Option.map_eq_some_iff.mp (Option.mem_toList.mp first)
        obtain ⟨progress, here, -⟩ := Option.bind_eq_some_iff.mp found
        exact (List.getElem?_eq_some_iff.mp here).1
      · have inside := ih entry later
        rwa [length_step] at inside

/-! ## A request by itself -/

/-- The requests, each just dispatched to the router. -/
def dispatched (router : Router) (requests : List Request) (world : World) : Traffic :=
  requests.foldl (enter router) { world }

theorem counters_enter (router : Router) (traffic : Traffic) (request : Request) :
    (traffic.enter router request).world.counters = traffic.world.counters := by
  simp only [enter, Progress.start]
  split <;> rfl

theorem counters_enter_all (router : Router) (requests : List Request) (traffic : Traffic) :
    (requests.foldl (enter router) traffic).world.counters = traffic.world.counters := by
  induction requests generalizing traffic with
  | nil => rfl
  | cons request rest ih => exact (ih _).trans (counters_enter router traffic request)

theorem enter_all (router : Router) (requests : List Request) (traffic : Traffic) :
    ∃ entered, (requests.foldl (enter router) traffic).requests = traffic.requests ++ entered ∧
      entered.length = requests.length ∧
      ∀ (index : Nat) (request : Request), requests[index]? = some request ->
        ∃ world, entered[index]? = some (Progress.start router request world).1 := by
  induction requests generalizing traffic with
  | nil => exact ⟨[], (List.append_nil _).symm, rfl, nofun⟩
  | cons request rest ih =>
      obtain ⟨entered, listed, length, begun⟩ := ih (enter router traffic request)
      refine ⟨(Progress.start router request traffic.world).1 :: entered, ?_,
        congrArg Nat.succ length, ?_⟩
      · rw [List.foldl_cons, listed]
        exact List.append_assoc _ _ _
      · intro index other here
        cases index with
        | zero =>
            cases here
            exact ⟨traffic.world, rfl⟩
        | succ index => exact begun index other here

def close (ending : Ending) (world : World) : Router.Reply × World :=
  match ending with
  | .returned outcome => (.response (Router.settle outcome world).1, (Router.settle outcome world).2)
  | .panicked payload => (.panicked payload, world)

theorem run_alone {task : Task Empty} {world after : World} {ending : Ending}
    (ran : task.run none world = (.ended ending, after)) {around : World} {exchange : Exchange}
    (same : { around with exchange } = world) :
    ∃ turns, (⟨around, [.running task exchange]⟩ : Traffic).run (List.replicate turns 0) =
      ⟨(close ending after).2, [.answered (close ending after).1]⟩ := by
  induction task generalizing world around exchange with
  | done last =>
      subst same
      cases ran
      refine ⟨1, ?_⟩
      cases ending <;> rfl
  | act action next ih =>
      subst same
      obtain ⟨turns, further⟩ := ih _ ran rfl
      exact ⟨turns + 1, further⟩
  | call argument _ => exact argument.elim
  | stall => cases ran

theorem dispatch_alone {router : Router} {request : Request} {world after : World}
    {reply : Router.Reply} (unhurried : world.elapsed = 0)
    (dispatch : router.dispatch none request world = (reply, after)) (answered : reply ≠ .cutOff) :
    ∃ turns, (dispatched router [request] world).run (List.replicate turns 0) =
      ⟨after, [.answered reply]⟩ := by
  have same : ({ world with
      traces := (Router.received world).traces
      exchange := (Router.received world).exchange } : World) = Router.received world := by
    simp only [Router.received, unhurried]
  simp only [Router.dispatch] at dispatch
  simp only [dispatched, List.foldl_cons, List.foldl_nil, enter, Progress.start]
  cases found : router.find? request with
  | none =>
      rw [found] at dispatch
      cases dispatch
      exact ⟨0, rfl⟩
  | some reached =>
      obtain ⟨handler, params⟩ := reached
      rw [found] at dispatch
      simp only at dispatch ⊢
      split at dispatch
      next outcome after ran =>
        cases dispatch
        exact run_alone ran same
      next payload after ran =>
        cases dispatch
        exact run_alone ran same
      next after ran =>
        cases dispatch
        exact absurd rfl answered

end Traffic

end HttpService
