import HttpService.Shutdown.Ends
/-! # Delivery of signals

`Channel.Performs` has one case for each thing an operation on the channel can do, `Channel.Runs`
relates a history of operations to the channel it leads to. While somebody listens, what is pending
and what a step takes in is what the step hands out and what is pending then (`Performs.balance`);
`runs_faithful` follows from that for histories of any length. -/
set_option autoImplicit false

namespace HttpService

abbrev ChannelEvent := ChannelOperation × ChannelAnswer

namespace ChannelEvent

def taken? : ChannelEvent -> Option Signal
  | (.signal signal, .signalled true _) => some signal
  | _ => none

def received? : ChannelEvent -> Option Signal
  | (.receive, .heard (.signal signal)) => some signal
  | (.tryReceive, .found found) => found
  | _ => none

end ChannelEvent

abbrev ChannelHistory := List ChannelEvent

namespace ChannelHistory

def taken (history : ChannelHistory) : List Signal := history.filterMap ChannelEvent.taken?

def received (history : ChannelHistory) : List Signal := history.filterMap ChannelEvent.received?

theorem taken_snoc (history : ChannelHistory) (event : ChannelEvent) :
    taken (history ++ [event]) = history.taken ++ event.taken?.toList := by
  cases found : event.taken? <;> simp [taken, List.filterMap_append, found]

theorem received_snoc (history : ChannelHistory) (event : ChannelEvent) :
    received (history ++ [event]) = history.received ++ event.received?.toList := by
  cases found : event.received? <;> simp [received, List.filterMap_append, found]

/-- The signal was taken, and since then none was taken and none was received. -/
def Holds (history : ChannelHistory) (signal : Signal) : Prop :=
  ∃ earlier log since, history = earlier ++ (.signal signal, .signalled true log) :: since ∧
    taken since = [] ∧ received since = []

theorem Holds.snoc {history : ChannelHistory} {signal : Signal} {event : ChannelEvent}
    (holds : history.Holds signal) (takes : event.taken? = none) (hands : event.received? = none) :
    Holds (history ++ [event]) signal := by
  obtain ⟨earlier, log, since, rfl, untaken, unreceived⟩ := holds
  refine ⟨earlier, log, since ++ [event], by simp, ?_, ?_⟩
  · rw [taken_snoc, untaken, takes]; rfl
  · rw [received_snoc, unreceived, hands]; rfl

/-- A signal is only received when the history up to then holds it. -/
def Sourced (history : ChannelHistory) : Prop :=
  ∀ before event after signal, history = before ++ event :: after ->
    event.received? = some signal -> Holds before signal

theorem Sourced.snoc {history : ChannelHistory} {event : ChannelEvent} (sourced : history.Sourced)
    (last : ∀ signal, event.received? = some signal -> history.Holds signal) :
    Sourced (history ++ [event]) := by
  intro before found after signal split gets
  rcases List.eq_nil_or_concat after with rfl | ⟨rest, final, rfl⟩
  · obtain ⟨rfl, same⟩ := List.append_inj' split rfl
    obtain rfl : event = found := by simpa using same
    exact last signal gets
  · have inner : history ++ [event] = (before ++ found :: rest) ++ [final] := by
      rw [split]; simp
    exact sourced before found rest signal (List.append_inj' inner rfl).1 gets

end ChannelHistory

namespace Channel

/-- What an operation does and answers, one case for each way it can go. -/
inductive Performs (channel : Channel) : ChannelOperation -> ChannelAnswer -> Channel -> Prop where
  | cloned (able : channel.senders ≠ 0) :
      Performs channel .cloneSender .nothing { channel with senders := channel.senders + 1 }
  | left (able : channel.senders ≠ 0) :
      Performs channel .dropSender .nothing { channel with senders := channel.senders - 1 }
  | taken (signal : Signal) (able : channel.senders ≠ 0) (listens : channel.listening = true)
      (empty : channel.pending = none) :
      Performs channel (.signal signal) (.signalled true []) { channel with pending := some signal }
  | refused (signal held : Signal) (able : channel.senders ≠ 0)
      (listens : channel.listening = true) (full : channel.pending = some held) :
      Performs channel (.signal signal) (.signalled false [.alreadyPending signal]) channel
  | unheard (signal : Signal) (able : channel.senders ≠ 0) (gone : channel.listening = false) :
      Performs channel (.signal signal) (.signalled false [.nobodyListens signal]) channel
  | heard (signal : Signal) (listens : channel.listening = true)
      (full : channel.pending = some signal) :
      Performs channel .receive (.heard (.signal signal)) { channel with pending := none }
  | waiting (listens : channel.listening = true) (empty : channel.pending = none)
      (more : channel.senders ≠ 0) : Performs channel .receive (.heard .waiting) channel
  | closed (listens : channel.listening = true) (empty : channel.pending = none)
      (last : channel.senders = 0) : Performs channel .receive (.heard .closed) channel
  | found (signal : Signal) (listens : channel.listening = true)
      (full : channel.pending = some signal) :
      Performs channel .tryReceive (.found (some signal)) { channel with pending := none }
  | missed (listens : channel.listening = true) (empty : channel.pending = none) :
      Performs channel .tryReceive (.found none) channel
  | deafened (listens : channel.listening = true) :
      Performs channel .dropListener .nothing { channel with listening := false, pending := none }

variable {channel next : Channel} {operation : ChannelOperation} {answer : ChannelAnswer}

theorem signal_taken (signal : Signal) (listens : channel.listening = true)
    (empty : channel.pending = none) :
    channel.signal signal = (true, [], { channel with pending := some signal }) := by
  simp [Channel.signal, send, listens, empty, LogEntry.ofSending]

theorem signal_refused (signal : Signal) {held : Signal} (listens : channel.listening = true)
    (full : channel.pending = some held) :
    channel.signal signal = (false, [.alreadyPending signal], channel) := by
  simp [Channel.signal, send, listens, full, LogEntry.ofSending]

theorem signal_unheard (signal : Signal) (gone : channel.listening = false) :
    channel.signal signal = (false, [.nobodyListens signal], channel) := by
  simp [Channel.signal, send, gone, LogEntry.ofSending]

theorem performs_signal (signal : Signal) (able : channel.senders ≠ 0) :
    channel.Performs (.signal signal)
      (.signalled (channel.signal signal).1 (channel.signal signal).2.1)
      (channel.signal signal).2.2 := by
  cases listens : channel.listening with
  | false =>
      rw [signal_unheard signal listens]
      exact .unheard signal able listens
  | true =>
      cases holding : channel.pending with
      | none =>
          rw [signal_taken signal listens holding]
          exact .taken signal able listens holding
      | some held =>
          rw [signal_refused signal listens holding]
          exact .refused signal held able listens holding

theorem performs_receive (listens : channel.listening = true) :
    channel.Performs .receive (.heard channel.receive.1) channel.receive.2 := by
  cases holding : channel.pending with
  | some signal =>
      simp only [receive, holding]
      exact .heard signal listens holding
  | none =>
      simp only [receive, holding]
      split
      · rename_i last
        exact .closed listens holding last
      · rename_i more
        exact .waiting listens holding more

theorem emptied_eq (empty : channel.pending = none) :
    { channel with pending := none } = channel := by
  cases channel
  cases empty
  rfl

theorem tryReceive_eq (channel : Channel) :
    channel.tryReceive = (channel.pending, { channel with pending := none }) := by
  cases holding : channel.pending with
  | some signal => simp [tryReceive, receive, holding]
  | none =>
      rw [emptied_eq holding]
      by_cases last : channel.senders = 0 <;> simp [tryReceive, receive, holding, last]

theorem performs_tryReceive (listens : channel.listening = true) :
    channel.Performs .tryReceive (.found channel.tryReceive.1) channel.tryReceive.2 := by
  rw [tryReceive_eq]
  cases holding : channel.pending with
  | some signal => exact .found signal listens holding
  | none =>
      rw [emptied_eq holding]
      exact .missed listens holding

theorem performs_of_perform? (done : channel.perform? operation = some (answer, next)) :
    channel.Performs operation answer next := by
  cases operation <;> simp only [perform?, Option.ite_none_left_eq_some,
    Option.ite_none_right_eq_some, Option.some.injEq, Prod.mk.injEq] at done <;>
    obtain ⟨able, rfl, rfl⟩ := done
  case cloneSender => exact .cloned able
  case dropSender => exact .left able
  case signal signal => exact performs_signal signal able
  case receive => exact performs_receive able
  case tryReceive => exact performs_tryReceive able
  case dropListener => exact .deafened able

inductive Runs : ChannelHistory -> Channel -> Prop where
  | nothing : Runs [] {}
  | next {history : ChannelHistory} {channel next : Channel} {operation : ChannelOperation}
      {answer : ChannelAnswer} (before : Runs history channel)
      (done : channel.perform? operation = some (answer, next)) :
      Runs (history ++ [(operation, answer)]) next

namespace Performs

/-- What was pending and what comes in is what goes out and what is pending then. -/
theorem balance (performs : channel.Performs operation answer next)
    (listens : next.listening = true) :
    channel.pending.toList ++ (ChannelEvent.taken? (operation, answer)).toList =
      (ChannelEvent.received? (operation, answer)).toList ++ next.pending.toList := by
  cases performs with
  | taken signal able listens empty => simp [ChannelEvent.taken?, ChannelEvent.received?, empty]
  | heard signal listens full => simp [ChannelEvent.taken?, ChannelEvent.received?, full]
  | found signal listens full => simp [ChannelEvent.taken?, ChannelEvent.received?, full]
  | deafened listens => simp at listens
  | _ => simp [ChannelEvent.taken?, ChannelEvent.received?]

/-- Once nobody listens, nothing comes in and nothing goes out. -/
theorem mute (performs : channel.Performs operation answer next)
    (gone : next.listening = false) :
    ChannelEvent.taken? (operation, answer) = none ∧
      ChannelEvent.received? (operation, answer) = none := by
  cases performs with
  | taken signal able listens empty => simp [listens] at gone
  | heard signal listens full => simp [listens] at gone
  | found signal listens full => simp [listens] at gone
  | _ => exact ⟨rfl, rfl⟩

theorem listening_iff (performs : channel.Performs operation answer next) :
    next.listening = true ↔
      channel.listening = true ∧ (operation, answer) ≠ (.dropListener, .nothing) := by
  cases performs <;> simp

theorem emptied (performs : channel.Performs operation answer next)
    (before : channel.listening = false -> channel.pending = none)
    (gone : next.listening = false) : next.pending = none := by
  cases performs with
  | taken signal able listens empty => simp [listens] at gone
  | heard signal listens full => rfl
  | found signal listens full => rfl
  | deafened listens => rfl
  | _ => exact before gone

/-- What is pending was taken just now, or was pending before and nothing has moved. -/
theorem pending_cases (performs : channel.Performs operation answer next) {signal : Signal}
    (pending : next.pending = some signal) :
    (operation = .signal signal ∧ answer = .signalled true []) ∨
      (channel.pending = some signal ∧ ChannelEvent.taken? (operation, answer) = none ∧
        ChannelEvent.received? (operation, answer) = none) := by
  cases performs with
  | taken signal able listens empty => cases pending; exact .inl ⟨rfl, rfl⟩
  | heard signal listens full => cases pending
  | found signal listens full => cases pending
  | deafened listens => cases pending
  | _ => exact .inr ⟨pending, rfl, rfl⟩

theorem received_pending (performs : channel.Performs operation answer next) {signal : Signal}
    (gets : ChannelEvent.received? (operation, answer) = some signal) :
    channel.pending = some signal := by
  cases performs with
  | heard signal listens full => cases gets; exact full
  | found signal listens full => cases gets; exact full
  | _ => cases gets

theorem senders_eq (performs : channel.Performs operation answer next) :
    next.senders + [(operation, answer)].count (.dropSender, .nothing) =
      channel.senders + [(operation, answer)].count (.cloneSender, .nothing) := by
  cases performs with
  | left able =>
      simp
      omega
  | _ => simp

end Performs

structure Recorded (history : ChannelHistory) (channel : Channel) : Prop where
  listening : channel.listening = true ↔ (.dropListener, .nothing) ∉ history
  senders : channel.senders + history.count (.dropSender, .nothing) =
    history.count (.cloneSender, .nothing) + 1
  /-- What was received is what was taken, in that order, but for at most one signal: the pending
  one, or the one that was pending when the listener went away. -/
  inOrder : ∃ rest, history.taken = history.received ++ rest ∧ rest.length ≤ 1 ∧
    (channel.listening = true -> rest = channel.pending.toList)
  emptied : channel.listening = false -> channel.pending = none
  held : ∀ signal, channel.pending = some signal -> history.Holds signal
  sourced : history.Sourced

theorem Recorded.start : Recorded [] {} := by
  refine ⟨by simp, by simp, ⟨[], rfl, by simp, fun _ => rfl⟩, fun gone => by simp at gone, ?_, ?_⟩
  · intro signal pending
    cases pending
  · intro before event after signal split gets
    simp at split

theorem Recorded.performs {history : ChannelHistory} (recorded : Recorded history channel)
    (performs : channel.Performs operation answer next) :
    Recorded (history ++ [(operation, answer)]) next := by
  obtain ⟨rest, taken, short, known⟩ := recorded.inOrder
  refine ⟨?_, ?_, ?_, ?_, ?_, ?_⟩
  · rw [performs.listening_iff, recorded.listening, List.mem_append, List.mem_singleton, not_or,
      ne_comm]
  · have counted := performs.senders_eq
    have before := recorded.senders
    rw [List.count_append, List.count_append]
    omega
  · cases listens : next.listening with
    | true =>
        have listened := (performs.listening_iff.mp listens).1
        have balance := performs.balance listens
        refine ⟨next.pending.toList, ?_, ?_, fun _ => rfl⟩
        · rw [ChannelHistory.taken_snoc, ChannelHistory.received_snoc, taken, known listened,
            List.append_assoc, balance, List.append_assoc]
        · cases next.pending <;> simp
    | false =>
        -- What the listener missed as it went stays the rest for good.
        obtain ⟨untaken, unreceived⟩ := performs.mute listens
        refine ⟨rest, ?_, short, fun listens => by cases listens⟩
        rw [ChannelHistory.taken_snoc, ChannelHistory.received_snoc, untaken, unreceived]
        simpa using taken
  · exact performs.emptied recorded.emptied
  · intro signal pending
    rcases performs.pending_cases pending with ⟨rfl, rfl⟩ | ⟨same, untaken, unreceived⟩
    · exact ⟨history, [], [], rfl, rfl, rfl⟩
    · exact (recorded.held signal same).snoc untaken unreceived
  · apply recorded.sourced.snoc
    intro signal gets
    exact recorded.held signal (performs.received_pending gets)

theorem Runs.recorded {history : ChannelHistory} (runs : Runs history channel) :
    Recorded history channel := by
  induction runs with
  | nothing => exact .start
  | next before done recorded => exact recorded.performs (performs_of_perform? done)

structure Signals (channel : Channel) (signal : Signal) (taken : Bool) (log : List LogEntry)
    (next : Channel) : Prop where
  taken_iff : taken = true ↔ channel.listening = true ∧ channel.pending = none
  added : taken = true -> next = { channel with pending := some signal } ∧ log = []
  unchanged : taken = false -> next = channel
  already_pending_iff :
    log.map LogEntry.render = ["WARN shutdown already pending signal=" ++ signal.display] ↔
      taken = false ∧ channel.listening = true
  listener_closed_iff :
    log.map LogEntry.render = ["WARN shutdown listener closed signal=" ++ signal.display] ↔
      taken = false ∧ channel.listening = false

theorem pendingText_ne (signal : Signal) :
    "WARN shutdown already pending signal=" ++ signal.display ≠
      "WARN shutdown listener closed signal=" ++ signal.display := by
  intro same
  exact absurd ((String.append_left_inj _).mp same) (by decide)

theorem signals (channel : Channel) (signal : Signal) :
    channel.Signals signal (channel.signal signal).1 (channel.signal signal).2.1
      (channel.signal signal).2.2 := by
  have apart := pendingText_ne signal
  cases listens : channel.listening with
  | false =>
      have logged : (LogEntry.nobodyListens signal).render =
        "WARN shutdown listener closed signal=" ++ signal.display := rfl
      rw [signal_unheard signal listens]
      constructor <;> simp [listens, logged, apart.symm]
  | true =>
      cases holding : channel.pending with
      | none =>
          rw [signal_taken signal listens holding]
          constructor <;> simp [listens, holding]
      | some held =>
          have logged : (LogEntry.alreadyPending signal).render =
            "WARN shutdown already pending signal=" ++ signal.display := rfl
          rw [signal_refused signal listens holding]
          constructor <;> simp [listens, holding, logged, apart]

structure Hears (channel : Channel) (hearing : Hearing) (next : Channel) : Prop where
  signal_iff : ∀ signal, hearing = .signal signal ↔ channel.pending = some signal
  closed_iff : hearing = .closed ↔ channel.pending = none ∧ channel.senders = 0
  waiting_iff : hearing = .waiting ↔ channel.pending = none ∧ channel.senders ≠ 0
  emptied : next = { channel with pending := none }

theorem hears (channel : Channel) : channel.Hears channel.receive.1 channel.receive.2 := by
  cases holding : channel.pending with
  | some signal => constructor <;> simp [receive, holding]
  | none =>
      have unchanged : channel.receive.2 = { channel with pending := none } := by
        simp only [receive, holding]
        exact (emptied_eq holding).symm
      by_cases last : channel.senders = 0
      · refine ⟨?_, ?_, ?_, unchanged⟩ <;> simp [receive, holding, last]
      · refine ⟨?_, ?_, ?_, unchanged⟩ <;> simp [receive, holding, last]

/-- What a channel is after a history, and what the operations do that are possible then. -/
structure Faithful (history : ChannelHistory) (channel : Channel) : Prop
    extends Recorded history channel where
  signals : ∀ signal, channel.senders ≠ 0 -> ∃ taken log next,
    channel.perform? (.signal signal) = some (.signalled taken log, next) ∧
      channel.Signals signal taken log next
  receives : channel.listening = true -> ∃ hearing next,
    channel.perform? .receive = some (.heard hearing, next) ∧ channel.Hears hearing next
  tries : channel.listening = true ->
    channel.perform? .tryReceive = some (.found channel.pending, { channel with pending := none })

theorem runs_faithful {history : ChannelHistory} {channel : Channel}
    (runs : Runs history channel) : Faithful history channel := by
  refine ⟨runs.recorded, ?_, ?_, ?_⟩
  · intro signal able
    exact ⟨_, _, _, by simp [perform?, able], channel.signals signal⟩
  · intro listens
    exact ⟨_, _, by simp [perform?, listens], channel.hears⟩
  · intro listens
    simp [perform?, listens, tryReceive_eq]

def refusals : ChannelHistory :=
  [(.cloneSender, .nothing), (.signal .interrupt, .signalled true []),
    (.signal .terminate, .signalled false [.alreadyPending .terminate]),
    (.receive, .heard (.signal .interrupt)), (.receive, .heard .waiting),
    (.signal (.integrity "disk"), .signalled true []), (.dropSender, .nothing),
    (.dropListener, .nothing),
    (.signal .terminate, .signalled false [.nobodyListens .terminate])]

theorem runs_refusals : Runs refusals { listening := false } := by
  have cloned := @Runs.next [] _ _ .cloneSender .nothing .nothing rfl
  have taken := @Runs.next _ _ _ (.signal .interrupt) (.signalled true []) cloned rfl
  have refused := @Runs.next _ _ _ (.signal .terminate) _ taken rfl
  have heard := @Runs.next _ _ _ .receive (.heard (.signal .interrupt)) refused rfl
  have waiting := @Runs.next _ _ _ .receive (.heard .waiting) heard rfl
  have again := @Runs.next _ _ _ (.signal (.integrity "disk")) _ waiting rfl
  have left := @Runs.next _ _ _ .dropSender .nothing again rfl
  have gone := @Runs.next _ _ _ .dropListener .nothing left rfl
  exact @Runs.next _ _ _ (.signal .terminate) _ gone rfl

theorem runs_faithful_refusals : Runs refusals { listening := false } ∧
    Faithful refusals { listening := false } ∧
    refusals.taken = [.interrupt, .integrity "disk"] ∧ refusals.received = [.interrupt] :=
  ⟨runs_refusals, runs_faithful runs_refusals, rfl, rfl⟩

end Channel

end HttpService
