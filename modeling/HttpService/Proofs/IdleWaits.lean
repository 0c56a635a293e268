import HttpService.Server.Activity
import Mathlib.Data.List.Nodup
/-! # Waiting for a connection to be idle

A history lists what happens on a connection: requests begin and end, the wait looks at the activity
and the clock ticks. Between two ticks the wait may look before, between or after the requests of
that millisecond, but the clock does not tick while a look is due. `Keeps` says what holds after
every history; from it `idle_exact` reads off that the wait ends in the first millisecond that finds
the connection quiet for the whole timeout, and never in another. -/
set_option autoImplicit false

namespace HttpService

inductive Occurrence where
  | begin
  | finish (request : Nat)
  /-- The wait looks at the activity. -/
  | look
  | tick
deriving DecidableEq

namespace Occurrence

def isFinish : Occurrence -> Bool
  | .finish _ => true
  | _ => false

def touches : Occurrence -> Bool
  | .begin | .finish _ => true
  | _ => false

end Occurrence

namespace IdleWatch

/-! ## Histories -/

def clock (history : List Occurrence) : Nat := history.count .tick

def begun (history : List Occurrence) : Nat := history.count .begin

def ended (history : List Occurrence) : Nat := history.countP Occurrence.isFinish

/-- When a request last began or ended: the clock without what came after it. -/
def touched (history : List Occurrence) : Nat :=
  clock (history.reverse.dropWhile fun occurrence => !occurrence.touches)

def Quiet (timeout : Nat) (history : List Occurrence) : Prop :=
  begun history = ended history ∧ touched history + timeout ≤ clock history

theorem touched_snoc (history : List Occurrence) (occurrence : Occurrence) :
    touched (history ++ [occurrence]) =
      if occurrence.touches then clock (history ++ [occurrence]) else touched history := by
  unfold touched clock
  rw [List.reverse_append, List.reverse_singleton, List.singleton_append, List.dropWhile_cons]
  cases occurrence.touches with
  | true => simp [List.count_append, List.count_cons]
  | false => simp

theorem clock_snoc (history : List Occurrence) (occurrence : Occurrence) :
    clock (history ++ [occurrence]) =
      clock history + if occurrence = .tick then 1 else 0 := by
  simp [clock, List.count_append, List.count_singleton]

/-- When a request begins or ends, the clock stands still and its time is noted. -/
theorem noted_of_touches (history : List Occurrence) (occurrence : Occurrence)
    (touches : occurrence.touches = true) :
    clock (history ++ [occurrence]) = clock history ∧
      touched (history ++ [occurrence]) = clock history := by
  have still : clock (history ++ [occurrence]) = clock history := by
    rw [clock_snoc, if_neg, Nat.add_zero]
    rintro rfl
    cases touches
  refine ⟨still, ?_⟩
  rw [touched_snoc, if_pos touches, still]

theorem begun_snoc (history : List Occurrence) (occurrence : Occurrence) :
    begun (history ++ [occurrence]) =
      begun history + if occurrence = .begin then 1 else 0 := by
  simp [begun, List.count_append, List.count_singleton]

theorem ended_snoc (history : List Occurrence) (occurrence : Occurrence) :
    ended (history ++ [occurrence]) =
      ended history + if occurrence.isFinish then 1 else 0 := by
  simp [ended, List.countP_append, List.countP_singleton]

theorem kept_of_not_touches (history : List Occurrence) (occurrence : Occurrence)
    (other : occurrence.touches = false) :
    begun (history ++ [occurrence]) = begun history ∧
      ended (history ++ [occurrence]) = ended history ∧
      touched (history ++ [occurrence]) = touched history := by
  rw [begun_snoc, ended_snoc, touched_snoc, other]
  cases occurrence with
  | begin | finish request => cases other
  | look | tick => exact ⟨rfl, rfl, rfl⟩

/-! ## Runs -/

/-- The sleep of the wait is over, so that it is to look. -/
def Due (watch : IdleWatch) : Prop := ∃ wake, watch.wait = .sleeping wake ∧ wake ≤ watch.now

def opened (timeout : Nat) : IdleWatch := { start timeout with wait := .sleeping 0 }

inductive Happens (watch : IdleWatch) : Occurrence -> IdleWatch -> Prop where
  | begin : Happens watch .begin (watch.step .begin)
  | finish {request : Nat} (live : request ∈ watch.live) :
      Happens watch (.finish request) (watch.step (.finish request))
  | look (due : watch.Due) : Happens watch .look { watch with wait := watch.awaken }
  | tick (free : ¬ watch.Due) : Happens watch .tick { watch with now := watch.now + 1 }

inductive Runs (timeout : Nat) : List Occurrence -> IdleWatch -> Prop where
  | opened : Runs timeout [] (opened timeout)
  | snoc {history : List Occurrence} {watch after : IdleWatch} {occurrence : Occurrence}
      (ran : Runs timeout history watch) (happens : Happens watch occurrence after) :
      Runs timeout (history ++ [occurrence]) after

/-- The wait ended when it looked and found the connection quiet, neither sooner nor later. -/
def EndedAt (timeout : Nat) (history : List Occurrence) (moment : Nat) : Prop :=
  ∃ before after, history = before ++ .look :: after ∧ begun before = ended before ∧
    moment = clock before ∧ clock before = touched before + timeout

structure Keeps (timeout : Nat) (history : List Occurrence) (watch : IdleWatch) : Prop where
  waits : watch.timeout = timeout
  now : watch.now = clock history
  last : watch.activity.last = touched history
  past : touched history ≤ clock history
  inFlight : watch.activity.inFlight = watch.live.length
  balance : watch.live.length + ended history = begun history
  distinct : watch.live.Nodup
  numbered : ∀ request ∈ watch.live, request < watch.count
  /-- No sleep goes on past the moment at which the connection may have been quiet long enough. -/
  sleeps : ∀ wake, watch.wait = .sleeping wake ->
    clock history ≤ wake ∧ wake ≤ clock history + timeout ∧
      (begun history = ended history -> wake ≤ touched history + timeout)
  ends : ∀ moment, watch.wait = .over moment -> EndedAt timeout history moment

variable {timeout : Nat} {history : List Occurrence} {watch after : IdleWatch}
  {occurrence : Occurrence}

theorem EndedAt.snoc {moment : Nat} (ending : EndedAt timeout history moment) :
    EndedAt timeout (history ++ [occurrence]) moment := by
  obtain ⟨before, rest, rfl, quiet⟩ := ending
  exact ⟨before, rest ++ [occurrence], by simp, quiet⟩

theorem keeps_opened (timeout : Nat) : Keeps timeout [] (opened timeout) := by
  refine { waits := rfl, now := rfl, last := rfl, past := Nat.le_refl 0, inFlight := rfl
           balance := rfl, distinct := List.nodup_nil, numbered := ?_, sleeps := ?_, ends := ?_ }
  · intro request member
    cases member
  · intro wake sleeping
    cases sleeping
    exact ⟨Nat.le_refl 0, Nat.zero_le _, fun _ => Nat.zero_le _⟩
  · intro moment isOver
    cases isOver

theorem Keeps.begin (keeps : Keeps timeout history watch) :
    Keeps timeout (history ++ [.begin]) (watch.step .begin) := by
  obtain ⟨clocked, touched⟩ := noted_of_touches history .begin rfl
  have begun : begun (history ++ [.begin]) = begun history + 1 := begun_snoc history .begin
  have ended : ended (history ++ [.begin]) = ended history := ended_snoc history .begin
  refine { waits := keeps.waits, now := clocked ▸ keeps.now, last := touched ▸ keeps.now
           past := Nat.le_of_eq (touched.trans clocked.symm), inFlight := ?_, balance := ?_
           distinct := ?_, numbered := ?_, sleeps := ?_, ends := ?_ }
  · have counted := keeps.inFlight
    simp only [step, Activity.begin, List.length_append, List.length_singleton]
    omega
  · have balance := keeps.balance
    simp only [step, List.length_append, List.length_singleton]
    omega
  · refine List.nodup_append.mpr ⟨keeps.distinct, List.nodup_singleton _, ?_⟩
    intro request member other same
    have below := keeps.numbered request member
    rw [List.mem_singleton.mp same]
    omega
  · intro request member
    rcases List.mem_append.mp member with live | new
    · have below := keeps.numbered request live
      simp only [step]
      omega
    · rw [List.mem_singleton.mp new]
      exact Nat.lt_succ_self _
  · intro wake sleeping
    obtain ⟨later, soon, _⟩ := keeps.sleeps wake sleeping
    rw [clocked, touched]
    exact ⟨later, soon, fun _ => soon⟩
  · intro moment isOver
    exact (keeps.ends moment isOver).snoc

theorem Keeps.finish (keeps : Keeps timeout history watch) {request : Nat}
    (live : request ∈ watch.live) :
    Keeps timeout (history ++ [.finish request]) (watch.step (.finish request)) := by
  obtain ⟨clocked, touched⟩ := noted_of_touches history (.finish request) rfl
  have begun : begun (history ++ [.finish request]) = begun history :=
    begun_snoc history (.finish request)
  have ended : ended (history ++ [.finish request]) = ended history + 1 :=
    ended_snoc history (.finish request)
  have some : 0 < watch.live.length := List.length_pos_of_mem live
  have left : (watch.live.erase request).length = watch.live.length - 1 :=
    List.length_erase_of_mem live
  simp only [step, if_pos live]
  refine { waits := keeps.waits, now := clocked ▸ keeps.now, last := touched ▸ keeps.now
           past := Nat.le_of_eq (touched.trans clocked.symm), inFlight := ?_, balance := ?_
           distinct := keeps.distinct.erase request, numbered := ?_, sleeps := ?_, ends := ?_ }
  · have counted := keeps.inFlight
    simp only [Activity.finish]
    omega
  · have balance := keeps.balance
    simp only
    omega
  · intro other member
    exact keeps.numbered other (List.mem_of_mem_erase member)
  · intro wake sleeping
    obtain ⟨later, soon, _⟩ := keeps.sleeps wake sleeping
    rw [clocked, touched]
    exact ⟨later, soon, fun _ => soon⟩
  · intro moment isOver
    exact (keeps.ends moment isOver).snoc

/-- A look is due at one moment only, and it is not past the end of a quiet timeout. -/
theorem Keeps.look (keeps : Keeps timeout history watch) (due : watch.Due) :
    Keeps timeout (history ++ [.look]) { watch with wait := watch.awaken } := by
  have clocked : clock (history ++ [.look]) = clock history := clock_snoc history .look
  obtain ⟨begun, ended, touched⟩ := kept_of_not_touches history .look rfl
  obtain ⟨wake, sleeping, isOver⟩ := due
  obtain ⟨later, -, quietly⟩ := keeps.sleeps wake sleeping
  rw [keeps.now] at isOver
  have awaken : watch.awaken = .look timeout (clock history) watch.activity := by
    simp only [IdleWatch.awaken, sleeping, keeps.waits, keeps.now, if_pos isOver]
  have past := keeps.past
  have balance := keeps.balance
  rw [awaken]
  refine { waits := keeps.waits, now := clocked ▸ keeps.now, last := touched ▸ keeps.last
           past := by omega, inFlight := keeps.inFlight, balance := by simp only; omega
           distinct := keeps.distinct, numbered := keeps.numbered, sleeps := ?_, ends := ?_ }
  · intro wake' sleeping
    rw [clocked, touched, begun, ended]
    simp only [IdleWait.look, keeps.last, keeps.inFlight] at sleeping
    split at sleeping
    next busy =>
      -- The next look is a whole timeout away, but no request has ended yet.
      cases sleeping
      refine ⟨by omega, by omega, ?_⟩
      intro none
      omega
    next idle =>
      split at sleeping
      next left =>
        cases sleeping
        refine ⟨by omega, by omega, ?_⟩
        intro _
        omega
      next => cases sleeping
  · intro moment isOver
    simp only [IdleWait.look, keeps.last, keeps.inFlight] at isOver
    split at isOver
    next => cases isOver
    next idle =>
      split at isOver
      next => cases isOver
      next none =>
        cases isOver
        have quiet : IdleWatch.begun history = IdleWatch.ended history := by omega
        have soon := quietly quiet
        exact ⟨history, [], rfl, quiet, rfl, by omega⟩

theorem Keeps.tick (keeps : Keeps timeout history watch) (free : ¬ watch.Due) :
    Keeps timeout (history ++ [.tick]) { watch with now := watch.now + 1 } := by
  have clocked : clock (history ++ [.tick]) = clock history + 1 := clock_snoc history .tick
  obtain ⟨begun, ended, touched⟩ := kept_of_not_touches history .tick rfl
  have now := keeps.now
  have past := keeps.past
  have balance := keeps.balance
  refine { waits := keeps.waits, now := by simp only; omega, last := touched ▸ keeps.last
           past := by omega, inFlight := keeps.inFlight, balance := by simp only; omega
           distinct := keeps.distinct, numbered := keeps.numbered, sleeps := ?_, ends := ?_ }
  · intro wake sleeping
    obtain ⟨later, soon, quietly⟩ := keeps.sleeps wake sleeping
    have asleep : ¬ wake ≤ watch.now := fun isOver => free ⟨wake, sleeping, isOver⟩
    rw [clocked, touched, begun, ended]
    exact ⟨by omega, by omega, quietly⟩
  · intro moment isOver
    exact (keeps.ends moment isOver).snoc

theorem Happens.keeps (happens : Happens watch occurrence after)
    (keeps : Keeps timeout history watch) : Keeps timeout (history ++ [occurrence]) after := by
  cases happens with
  | begin => exact keeps.begin
  | finish live => exact keeps.finish live
  | look due => exact keeps.look due
  | tick free => exact keeps.tick free

theorem Runs.keeps (ran : Runs timeout history watch) : Keeps timeout history watch := by
  induction ran with
  | opened => exact keeps_opened timeout
  | snoc _ happens ih => exact happens.keeps ih

/-! ## When the wait ends -/

theorem Happens.stays (happens : Happens watch occurrence after) {moment : Nat}
    (isOver : watch.wait = .over moment) : after.wait = .over moment := by
  cases happens with
  | begin => exact isOver
  | finish live =>
      simp only [step, if_pos live]
      exact isOver
  | look due =>
      obtain ⟨wake, sleeping, _⟩ := due
      rw [isOver] at sleeping
      cases sleeping
  | tick free => exact isOver

/-- The clock does not leave a quiet moment behind while the wait sleeps. -/
theorem Keeps.ends_of_quiet (keeps : Keeps timeout history watch) (quiet : Quiet timeout history)
    (free : ¬ watch.Due) : ∃ moment ≤ clock history, watch.wait = .over moment := by
  obtain ⟨balanced, longEnough⟩ := quiet
  rcases waits : watch.wait with wake | moment
  · obtain ⟨-, -, quietly⟩ := keeps.sleeps wake waits
    have soon := quietly balanced
    have now := keeps.now
    exact absurd ⟨wake, waits, by omega⟩ free
  · obtain ⟨before, rest, rfl, -, rfl, -⟩ := keeps.ends moment waits
    refine ⟨_, ?_, rfl⟩
    simp [clock, List.count_append]

theorem Runs.over_of_ticked (ran : Runs timeout history watch) {before rest : List Occurrence}
    (split : history = before ++ .tick :: rest) (quiet : Quiet timeout before) :
    ∃ moment ≤ clock before, watch.wait = .over moment := by
  induction ran generalizing rest with
  | opened => cases before <;> cases split
  | @snoc history watch after occurrence ran happens ih =>
      rcases List.eq_nil_or_concat rest with rfl | ⟨front, last, rfl⟩
      · obtain ⟨rfl, same⟩ := List.append_inj' split rfl
        cases same
        cases happens with
        | tick free => exact ran.keeps.ends_of_quiet quiet free
      · have regrouped : history ++ [occurrence] = (before ++ .tick :: front) ++ [last] := by
          rw [split]
          simp
        obtain ⟨rfl, -⟩ := List.append_inj' regrouped rfl
        obtain ⟨moment, early, isOver⟩ := ih rfl
        exact ⟨moment, early, happens.stays isOver⟩

theorem not_due_look (positive : 0 < watch.timeout) (due : watch.Due) :
    ¬ Due { watch with wait := watch.awaken } := by
  rintro ⟨wake, sleeping, isOver⟩
  obtain ⟨before, asleep, wasOver⟩ := due
  simp only [awaken, asleep, if_pos wasOver, IdleWait.look] at sleeping isOver
  split at sleeping
  next => cases sleeping; omega
  next =>
    split at sleeping
    next left => cases sleeping; omega
    next => cases sleeping

/-! ## A wait that looks at once -/

instance (watch : IdleWatch) : Decidable watch.Due :=
  match isAsleep : watch.wait with
  | .over _ => .isFalse (by rintro ⟨wake, sleeping, _⟩; rw [isAsleep] at sleeping; cases sleeping)
  | .sleeping wake =>
      decidable_of_iff (wake ≤ watch.now) ⟨fun isOver => ⟨wake, isAsleep, isOver⟩, by
        rintro ⟨_, sleeping, isOver⟩
        rw [isAsleep] at sleeping
        cases sleeping
        exact isOver⟩

/-- What an event brings about when the wait looks as soon as it is to. -/
def told (watch : IdleWatch) : ConnectionEvent -> List Occurrence
  | .begin => [.begin]
  | .finish request => if request ∈ watch.live then [.finish request] else []
  | .tick => if Due { watch with now := watch.now + 1 } then [.tick, .look] else [.tick]

def toldOf (watch : IdleWatch) : List ConnectionEvent -> List Occurrence
  | [] => []
  | event :: rest => watch.told event ++ (watch.step event).toldOf rest

theorem awaken_of_not_due (free : ¬ watch.Due) : watch.awaken = watch.wait := by
  simp only [awaken]
  rcases waits : watch.wait with wake | moment
  · exact if_neg fun isOver => free ⟨wake, waits, isOver⟩
  · rfl

theorem Runs.told (ran : Runs timeout history watch) (positive : 0 < timeout)
    (free : ¬ watch.Due) (event : ConnectionEvent) :
    Runs timeout (history ++ watch.told event) (watch.step event) ∧ ¬ (watch.step event).Due := by
  cases event with
  | begin => exact ⟨ran.snoc .begin, free⟩
  | finish request =>
      by_cases live : request ∈ watch.live
      · rw [IdleWatch.told, if_pos live]
        refine ⟨ran.snoc (.finish live), ?_⟩
        simp only [step, if_pos live]
        exact free
      · rw [IdleWatch.told, if_neg live, step, if_neg live, List.append_nil]
        exact ⟨ran, free⟩
  | tick =>
      have ticked := ran.snoc (.tick free)
      by_cases due : Due { watch with now := watch.now + 1 }
      · rw [IdleWatch.told, if_pos due, ← List.singleton_append, ← List.append_assoc]
        exact ⟨ticked.snoc (.look due), not_due_look (ticked.keeps.waits ▸ positive) due⟩
      · have stays : watch.step .tick = { watch with now := watch.now + 1 } := by
          simp only [step, IdleWatch.tick]
          rw [awaken_of_not_due due]
        rw [IdleWatch.told, if_neg due, stays]
        exact ⟨ticked, due⟩

theorem Runs.toldOf (ran : Runs timeout history watch) (positive : 0 < timeout)
    (free : ¬ watch.Due) (events : List ConnectionEvent) :
    Runs timeout (history ++ watch.toldOf events) (watch.run events) ∧ ¬ (watch.run events).Due := by
  induction events generalizing history watch with
  | nil => exact ⟨(List.append_nil history).symm ▸ ran, free⟩
  | cons event rest ih =>
      obtain ⟨told, free⟩ := ran.told positive free event
      rw [IdleWatch.toldOf, ← List.append_assoc]
      exact ih told free

theorem runs_start (positive : 0 < timeout) :
    Runs timeout [.look] (start timeout) ∧ ¬ (start timeout).Due := by
  have due : (opened timeout).Due := ⟨0, rfl, Nat.le_refl 0⟩
  exact ⟨Runs.opened.snoc (.look due), not_due_look positive due⟩

structure Punctual (timeout : Nat) (history : List Occurrence) (watch : IdleWatch) : Prop where
  counted : watch.activity.inFlight = watch.live.length ∧ watch.live.Nodup ∧
    watch.activity.inFlight + ended history = begun history
  /-- The count goes down by one with each request, never below zero. -/
  released : ∀ request ∈ watch.live,
    (watch.step (.finish request)).activity.inFlight + 1 = watch.activity.inFlight
  /-- The wait ends only when it finds no request in flight, exactly a timeout after the last one
  began or ended. -/
  ends : ∀ moment, watch.wait = .over moment -> EndedAt timeout history moment
  /-- Once that much time has gone by, it has ended before the clock goes on. -/
  inTime : ∀ before rest, history = before ++ .tick :: rest -> Quiet timeout before ->
    ∃ moment ≤ clock before, watch.wait = .over moment
  sleeps : ∀ wake, watch.wait = .sleeping wake -> begun history = ended history ->
    wake ≤ touched history + timeout
  goesOn : watch.Due -> ¬ Due { watch with wait := watch.awaken }

theorem Keeps.released (keeps : Keeps timeout history watch) {request : Nat}
    (live : request ∈ watch.live) :
    (watch.step (.finish request)).activity.inFlight + 1 = watch.activity.inFlight := by
  have counted := keeps.inFlight
  have some : 0 < watch.live.length := List.length_pos_of_mem live
  simp only [step, if_pos live, Activity.finish]
  omega

/-- **A connection is closed as idle in the first millisecond that finds it quiet for the timeout.**
This holds of every history, whenever the wait looks within the millisecond in which it wakes. When
it looks as soon as it wakes, no request can come before the look. -/
theorem idle_exact {timeout : Nat} (positive : 0 < timeout) :
    (∀ history watch, Runs timeout history watch -> Punctual timeout history watch) ∧
      ∀ events, Runs timeout (.look :: (start timeout).toldOf events) ((start timeout).run events) ∧
        (Quiet timeout (.look :: (start timeout).toldOf events) ->
          ∃ moment ≤ clock (.look :: (start timeout).toldOf events),
            ((start timeout).run events).wait = .over moment) := by
  constructor
  · intro history watch ran
    have keeps := ran.keeps
    have counted := keeps.inFlight
    have balance := keeps.balance
    refine { counted := ⟨counted, keeps.distinct, by omega⟩
             released := fun request live => keeps.released live
             ends := keeps.ends
             inTime := fun before rest split quiet => ran.over_of_ticked split quiet
             sleeps := fun wake sleeping => (keeps.sleeps wake sleeping).2.2
             goesOn := fun due => not_due_look (keeps.waits ▸ positive) due }
  · intro events
    obtain ⟨ran, free⟩ := runs_start positive
    obtain ⟨told, free⟩ := ran.toldOf positive free events
    exact ⟨told, fun quiet => told.keeps.ends_of_quiet quiet free⟩

def overlapping : List ConnectionEvent :=
  [.begin, .tick, .begin, .tick, .finish 0, .tick, .finish 1, .tick, .tick, .tick, .tick]

theorem idle_exact_overlapping :
    0 < 3 ∧ ((start 3).run overlapping).wait = .over 6 ∧
      EndedAt 3 (.look :: (start 3).toldOf overlapping) 6 := by
  obtain ⟨punctual, immediate⟩ := idle_exact (show 0 < 3 by decide)
  have isOver : ((start 3).run overlapping).wait = .over 6 := by decide
  exact ⟨by decide, isOver, (punctual _ _ (immediate overlapping).1).ends 6 isOver⟩

end IdleWatch

end HttpService
