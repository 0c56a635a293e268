import HttpService.Proofs.ServerMoves
/-! # Graceful drain

In whatever order connections, signals and the ends of tasks come: which connections the server
takes, which signal it heeds, whom it tells to finish and when it returns. Each part is a fact of
one move and then, by induction on the events, of a run; `run_graceful` puts them together. -/
set_option autoImplicit false

namespace HttpService

def ServerEvent.signal? : ServerEvent -> Option Signal
  | .signal sent => some sent
  | _ => none

namespace AcceptLoop

variable {server next : AcceptLoop} {event : ServerEvent}

/-! ## Taking connections -/

theorem Moves.length_le (moves : server.Moves event next) :
    server.connections.length ≤ next.connections.length := by
  cases moves <;> simp [update, drain, spawn, join, stop, condemn]

theorem Moves.taken_of_length (moves : server.Moves event next)
    (more : server.connections.length < next.connections.length) :
    event = .turn ∧ server.phase = .accepting ∧ server.channel.receive.1 = .waiting ∧
      server.backlog.head? = some .connection := by
  cases moves with
  | taken rest accepting waits first => exact ⟨rfl, accepting, waits, by rw [first]; rfl⟩
  | _ => simp [update, drain, join, stop, condemn] at more

theorem Moves.ended (moves : server.Moves event next) (ended : server.phase ≠ .accepting) :
    next.phase ≠ .accepting ∧ next.connections.length = server.connections.length := by
  refine ⟨?_, ?_⟩
  · cases moves <;> simp_all [update, join, stop, condemn]
  · apply Nat.le_antisymm _ moves.length_le
    apply Nat.le_of_not_lt
    intro more
    exact ended (moves.taken_of_length more).2.1

theorem run_ended (ended : server.phase ≠ .accepting) (events : List ServerEvent) :
    (server.run events).phase ≠ .accepting ∧
      (server.run events).connections.length = server.connections.length := by
  induction events generalizing server with
  | nil => exact ⟨ended, rfl⟩
  | cons event events ih =>
      obtain ⟨still, same⟩ := (server.moves_step event).ended ended
      obtain ⟨last, kept⟩ := ih still
      exact ⟨last, kept.trans same⟩

/-- The loop goes on unless it goes around and finds a reason to stop. -/
theorem Moves.accepting (moves : server.Moves event next) (accepting : server.phase = .accepting)
    (onward : event = .turn -> server.channel.receive.1 = .waiting) :
    next.phase = .accepting := by
  cases moves with
  | signalled signal accepting pending =>
      have waits := onward rfl
      simp [Channel.receive, pending] at waits
  | closed accepting empty last =>
      have waits := onward rfl
      simp [Channel.receive, empty, last] at waits
  | returned reason waiting nobody => simp [accepting] at waiting
  | expired reason draining others => cases accepting.symm.trans draining
  | _ => exact accepting

theorem Moves.stops (moves : server.Moves .turn next) (accepting : server.phase = .accepting)
    (reason : server.channel.receive.1 ≠ .waiting) :
    next.phase ≠ .accepting ∧ next.connections = server.connections := by
  cases moves with
  | touched event task change touches => cases touches
  | signalled signal accepting pending => simp [drain]
  | closed accepting empty last => simp [drain]
  | faulted rest accepting waits first => exact absurd waits reason
  | taken rest accepting waits first => exact absurd waits reason
  | reaped accepting waits idle => exact absurd waits reason
  | joined reason waiting others => simp [accepting] at waiting
  | returned reason waiting nobody => simp [accepting] at waiting
  | rested reason stopped => cases accepting.symm.trans stopped

/-! ## Signals -/

def reason? (server : AcceptLoop) : Option StopReason :=
  match server.phase with
  | .accepting => none
  | .draining reason | .aborting reason | .stopped reason => some reason

def heeded? (server : AcceptLoop) : Option Signal :=
  match server.reason? with
  | some (.signal signal) => some signal
  | _ => none

/-- What the listener took out of the channel in a step. What is lost as the listener goes away was
not taken. -/
def takes (server next : AcceptLoop) : List Signal :=
  if next.channel.listening && next.channel.pending.isNone then server.channel.pending.toList
  else []

def consumed (server : AcceptLoop) : List ServerEvent -> List Signal
  | [] => []
  | event :: events => server.takes (server.step event) ++ (server.step event).consumed events

theorem takes_of_same (same : next.channel.pending = server.channel.pending) :
    server.takes next = [] := by
  cases pending : server.channel.pending <;> simp [takes, same, pending]

theorem pending_of_takes {signal : Signal} (taken : server.takes next = [signal]) :
    server.channel.pending = some signal := by
  simp only [takes] at taken
  split at taken
  · cases pending : server.channel.pending <;> simp_all
  · cases taken

theorem takes_send (server : AcceptLoop) (signal : Signal) :
    server.takes { server with channel := (server.channel.send signal).2 } = [] := by
  cases pending : server.channel.pending with
  | none => simp [takes, pending]
  | some held =>
      apply takes_of_same
      simp only [Channel.send, pending]
      split <;> rw [pending]

theorem Moves.heeded (moves : server.Moves event next) (sound : server.Sound) :
    server.heeded?.toList ++ server.takes next = next.heeded?.toList := by
  cases moves with
  | sent signal => rw [takes_send, List.append_nil]; rfl
  | signalled signal accepting pending =>
      have listens := sound.listens (by simp [accepting])
      simp [heeded?, reason?, accepting, takes, drain, pending, listens]
  | closed accepting empty last =>
      rw [takes_of_same (by rfl)]
      simp [heeded?, reason?, accepting, drain]
  | returned reason waiting nobody =>
      have unheard : server.takes (server.stop reason) = [] := by
        simp [takes, stop, Channel.dropListener]
      rw [unheard]
      rcases waiting with waiting | waiting <;> simp [heeded?, reason?, waiting, stop]
  | expired reason draining others =>
      rw [takes_of_same (by rfl)]
      simp [heeded?, reason?, draining, condemn]
  | _ =>
      rw [takes_of_same (by rfl)]
      exact List.append_nil _

theorem heeded_run (sound : server.Sound) (events : List ServerEvent) :
    server.heeded?.toList ++ server.consumed events = (server.run events).heeded?.toList := by
  induction events generalizing server with
  | nil => simp [consumed, run]
  | cons event events ih =>
      have moves := server.moves_step event
      rw [consumed, ← List.append_assoc, moves.heeded sound, ih (sound.moves moves), run_cons]

theorem Moves.reason (moves : server.Moves event next) (ended : server.phase ≠ .accepting) :
    next.reason? = server.reason? := by
  cases moves with
  | signalled signal accepting pending => exact absurd accepting ended
  | closed accepting empty last => exact absurd accepting ended
  | returned reason waiting nobody =>
      rcases waiting with waiting | waiting <;> simp [reason?, waiting, stop]
  | expired reason draining others => simp [reason?, draining, condemn]
  | _ => rfl

theorem reason_run (ended : server.phase ≠ .accepting) (events : List ServerEvent) :
    (server.run events).reason? = server.reason? := by
  induction events generalizing server with
  | nil => rfl
  | cons event events ih =>
      have moves := server.moves_step event
      exact (ih (moves.ended ended).1).trans (moves.reason ended)

/-- While the loop goes on, the first signal that was sent stays the first. -/
theorem Moves.head_pending (moves : server.Moves event next) (sound : server.Sound)
    (before : server.phase = .accepting) (after : next.phase = .accepting) (later : List Signal) :
    (next.channel.pending.toList ++ later).head? =
      (server.channel.pending.toList ++ (event.signal?.toList ++ later)).head? := by
  cases moves with
  | sent signal =>
      have listens := sound.listens (by simp [before])
      cases pending : server.channel.pending <;>
        simp [Channel.send, listens, pending, ServerEvent.signal?]
  | touched event task change touches => cases touches <;> rfl
  | signalled signal accepting pending => cases after
  | closed accepting empty last => cases after
  | returned reason waiting nobody => cases after
  | expired reason draining others => cases after
  | _ => rfl

theorem first_run (sound : server.Sound) (accepting : server.phase = .accepting)
    (events : List ServerEvent) {signal : Signal}
    (heeded : (server.run events).heeded? = some signal) :
    (server.channel.pending.toList ++ events.filterMap ServerEvent.signal?).head? =
      some signal := by
  induction events generalizing server with
  | nil => simp [run, heeded?, reason?, accepting] at heeded
  | cons event events ih =>
      have moves := server.moves_step event
      have split : (event :: events).filterMap ServerEvent.signal? =
          event.signal?.toList ++ events.filterMap ServerEvent.signal? := by
        cases found : event.signal? <;> simp [found]
      by_cases still : (server.step event).phase = .accepting
      · rw [split, ← moves.head_pending sound accepting still]
        exact ih (sound.moves moves) still heeded
      · -- This step ended the loop, so what it took was pending before it.
        have same := reason_run still events
        rw [run_cons, heeded?, same, ← heeded?] at heeded
        have taken := moves.heeded sound
        rw [heeded] at taken
        simp only [heeded?, reason?, accepting, Option.toList_none, List.nil_append,
          Option.toList_some] at taken
        rw [pending_of_takes taken]
        rfl

/-! ## Telling the connections -/

theorem forward_run {task : Nat} {connection : Connection}
    (known : server.connections[task]? = some connection) (events : List ServerEvent) :
    ∃ after, (server.run events).connections[task]? = some after ∧
      (after.phase = .serving -> connection.phase = .serving) := by
  induction events generalizing server connection with
  | nil => exact ⟨connection, known, id⟩
  | cons event events ih =>
      obtain ⟨between, found, leads⟩ := (server.moves_step event).forward known
      obtain ⟨after, last, serving⟩ := ih found
      exact ⟨after, last, fun still => leads.serving_of (serving still)⟩

/-- Whoever still serves once the loop has ended did not see the flag change, and sees it now. -/
theorem observe_told (sound : server.Sound) (ended : server.phase ≠ .accepting) {task : Nat}
    {connection : Connection} (known : server.connections[task]? = some connection)
    (serving : connection.phase = .serving) :
    ∃ after, (server.step (.observe task)).connections[task]? = some after ∧
      after.phase = .closing ∧ after.told = 1 := by
  obtain ⟨untold, unaware⟩ := (sound.orderly task connection known).unaware serving
  have flips : server.flips = 1 := by rw [sound.flips, if_neg ended]
  refine ⟨connection.observe server.flips, by simp [step, update, known], ?_, ?_⟩
  · simp [Connection.observe, Connection.tell, serving, unaware, flips]
  · simp [Connection.observe, Connection.tell, serving, unaware, flips, untold]

theorem observed_run (sound : server.Sound) (ended : server.phase ≠ .accepting)
    {events : List ServerEvent} {task : Nat} (looks : .observe task ∈ events) {after : Connection}
    (known : (server.run events).connections[task]? = some after) : after.phase ≠ .serving := by
  obtain ⟨before, later, rfl⟩ := List.append_of_mem looks
  rw [run_append, run_cons] at known
  obtain ⟨still, same⟩ := run_ended ended before
  have moves := (server.run before).moves_step (.observe task)
  have inside : task < (server.run before).connections.length := by
    obtain ⟨inside, -⟩ := List.getElem?_eq_some_iff.mp known
    rw [(run_ended (moves.ended still).1 later).2, (moves.ended still).2] at inside
    exact inside
  obtain ⟨connection, there⟩ : ∃ connection,
      (server.run before).connections[task]? = some connection :=
    ⟨_, List.getElem?_eq_getElem inside⟩
  -- Had it not been told at that look, it would have been serving then, and would have been told.
  intro serving
  obtain ⟨looked, found, leads⟩ := moves.forward there
  obtain ⟨last, same, back⟩ := forward_run found later
  cases known.symm.trans same
  have unmoved := back serving
  obtain ⟨told, told', closing, -⟩ :=
    observe_told (sound.run before) still there (leads.serving_of unmoved)
  cases found.symm.trans told'
  cases unmoved.symm.trans closing

/-! ## The limit, and the end -/

/-- The drain limit was over in one of these events while some task was waited for. -/
def Expired (server : AcceptLoop) (events : List ServerEvent) : Prop :=
  ∃ before after reason, events = before ++ .drainExpired :: after ∧
    (server.run before).phase = .draining reason ∧ (server.run before).unjoined ≠ []

theorem Expired.append {events : List ServerEvent} (expired : server.Expired events)
    (more : List ServerEvent) : server.Expired (events ++ more) := by
  obtain ⟨before, after, reason, rfl, draining, others⟩ := expired
  exact ⟨before, after ++ more, reason, by simp, draining, others⟩

theorem Expired.cons {events : List ServerEvent} (expired : (server.step event).Expired events) :
    server.Expired (event :: events) := by
  obtain ⟨before, after, reason, rfl, draining, others⟩ := expired
  exact ⟨event :: before, after, reason, rfl, draining, others⟩

theorem Moves.condemned_cases (moves : server.Moves event next) {task : Nat} {after : Connection}
    (known : next.connections[task]? = some after) (condemned : after.condemned = true) :
    (∃ connection, server.connections[task]? = some connection ∧ connection.condemned = true) ∨
      Expired server [event] := by
  cases moves with
  | touched event task' change touches =>
      simp only [update, List.getElem?_modify, Option.map_eq_map, Option.map_eq_some_iff] at known
      obtain ⟨connection, there, rfl⟩ := known
      refine .inl ⟨connection, there, ?_⟩
      split at condemned
      · rwa [touches.condemned] at condemned
      · exact condemned
  | taken rest accepting waits first =>
      simp only [spawn, List.getElem?_append] at known
      split at known
      · exact .inl ⟨after, known, condemned⟩
      · simp only [List.getElem?_singleton] at known
        split at known <;> cases known
        cases condemned
  | expired reason draining others => exact .inr ⟨[], [], reason, rfl, draining, others⟩
  | _ => exact .inl ⟨after, known, condemned⟩

theorem condemned_run {events : List ServerEvent} {task : Nat} {after : Connection}
    (known : (server.run events).connections[task]? = some after)
    (condemned : after.condemned = true) :
    (∃ connection, server.connections[task]? = some connection ∧ connection.condemned = true) ∨
      server.Expired events := by
  induction events generalizing server with
  | nil => exact .inl ⟨after, known, condemned⟩
  | cons event events ih =>
      rcases ih known with ⟨connection, there, before⟩ | later
      · rcases (server.moves_step event).condemned_cases there before with held | now
        · exact .inl held
        · exact .inr (now.append events)
      · exact .inr later.cons

theorem Sound.areOver (sound : server.Sound) {reason : StopReason}
    (stopped : server.phase = .stopped reason) : server.areOver = true := by
  simp only [AcceptLoop.areOver, List.all_eq_true]
  intro connection listed
  obtain ⟨task, known⟩ := List.getElem?_of_mem listed
  rcases sound.joined task connection known with ends | waited
  · exact ends
  · rw [sound.finished reason stopped] at waited
    cases waited

theorem update_of_areOver (ends : server.areOver = true) {task : Nat}
    {change : Connection -> Connection} (touches : event.Touches server.flips task change) :
    (server.update task change).connections = server.connections := by
  apply List.ext_getElem?
  intro place
  simp only [update, List.getElem?_modify]
  cases known : server.connections[place]? with
  | none => rfl
  | some connection =>
      have overHere : connection.isOver = true :=
        List.all_eq_true.mp ends connection (List.mem_of_getElem? known)
      by_cases here : task = place
      · simp [here, touches.change_of_isOver overHere]
      · simp [here]

theorem Moves.stopped (moves : server.Moves event next) (ends : server.areOver = true)
    {reason : StopReason} (stopped : server.phase = .stopped reason) :
    next.phase = .stopped reason ∧ next.connections = server.connections := by
  cases moves with
  | touched event task change touches => exact ⟨stopped, update_of_areOver ends touches⟩
  | signalled signal accepting pending => cases accepting.symm.trans stopped
  | closed accepting empty last => cases accepting.symm.trans stopped
  | taken rest accepting waits first => cases accepting.symm.trans stopped
  | returned reason waiting nobody => simp [stopped] at waiting
  | expired reason draining others => cases draining.symm.trans stopped
  | _ => exact ⟨stopped, rfl⟩

theorem stopped_run (ends : server.areOver = true) {reason : StopReason}
    (stopped : server.phase = .stopped reason) (events : List ServerEvent) :
    (server.run events).connections = server.connections := by
  induction events generalizing server with
  | nil => rfl
  | cons event events ih =>
      obtain ⟨still, same⟩ := (server.moves_step event).stopped ends stopped
      exact (ih (by rwa [areOver, same]) still).trans same

theorem abort_over (sound : server.Sound) {reason : StopReason}
    (aborting : server.phase = .aborting reason) {task : Nat} {connection : Connection}
    (known : server.connections[task]? = some connection) :
    ∃ after, (server.step (.abort task)).connections[task]? = some after ∧ after.isOver = true := by
  refine ⟨connection.abort, by simp [step, update, known], ?_⟩
  cases ends : connection.isOver with
  | true => rw [Connection.abort_eq ends]; exact ends
  | false =>
      rcases sound.condemned reason aborting task connection known with ended | condemned
      · cases ends.symm.trans ended
      · have gone : connection.abort = { connection with phase := .aborted } := by
          simp [Connection.abort, condemned, ends]
        rw [gone]
        rfl

theorem length_join (sound : server.Sound) (ends : server.areOver = true)
    (others : server.unjoined ≠ []) : server.unjoined.length = server.join.unjoined.length + 1 := by
  cases waited : server.unjoined with
  | nil => exact absurd waited others
  | cons task rest =>
      have inside := sound.known task (by simp [waited])
      have gone : server.isOverAt task = true := by
        simpa [isOverAt, List.getElem?_eq_getElem inside] using
          List.all_eq_true.mp ends _ (List.getElem_mem inside)
      simp [join, waited, List.eraseP_cons_of_pos gone]

/-- Once all tasks are over, each turn waits for one of them, and then the server returns. -/
theorem exists_stop (sound : server.Sound) (ended : server.phase ≠ .accepting)
    (ends : server.areOver = true) :
    ∃ turns, (server.run (List.replicate turns .turn)).hasStopped = true := by
  induction left : server.unjoined.length generalizing server with
  | zero =>
      have nobody := List.length_eq_zero_iff.mp left
      cases phase : server.phase with
      | accepting => exact absurd phase ended
      | stopped reason => exact ⟨0, by simp [run, hasStopped, phase]⟩
      | _ => exact ⟨1, by simp [run, step, await, stop, hasStopped, phase, nobody]⟩
  | succ count ih =>
      have others : server.unjoined ≠ [] := List.ne_nil_of_length_eq_add_one left
      have shorter := length_join sound ends others
      cases phase : server.phase with
      | accepting => exact absurd phase ended
      | stopped reason => exact ⟨0, by simp [run, hasStopped, phase]⟩
      | _ =>
          have joins : server.step .turn = server.join := by simp [step, await, phase, others]
          have moves := server.moves_step .turn
          rw [joins] at moves
          obtain ⟨turns, stopped⟩ := ih (sound.moves moves) (moves.ended ended).1 ends (by omega)
          exact ⟨turns + 1, by rw [List.replicate_succ, run_cons, joins]; exact stopped⟩

/-- What a server is after these events, and what it does then. -/
structure Graceful (first : AcceptLoop) (events : List ServerEvent) (server : AcceptLoop) :
    Prop where
  /-- A connection is only taken by a turn that finds no reason to stop. -/
  taken : ∀ event, server.connections.length < (server.step event).connections.length ->
    event = .turn ∧ server.phase = .accepting ∧ server.channel.receive.1 = .waiting ∧
      server.backlog.head? = some .connection
  ended : server.phase ≠ .accepting -> ∀ more, (server.run more).phase ≠ .accepting ∧
    (server.run more).connections.length = server.connections.length
  /-- A reason to stop that is there ends the loop in its next turn, whatever else is there. -/
  prompt : server.phase = .accepting -> server.channel.receive.1 ≠ .waiting ->
    (server.step .turn).phase ≠ .accepting ∧
      (server.step .turn).connections = server.connections
  /-- Nothing else ends it: no event but a turn, and no connection that cannot be taken. -/
  onward : server.phase = .accepting -> ∀ event,
    (event = .turn -> server.channel.receive.1 = .waiting) ->
    (server.step event).phase = .accepting
  consumed : first.consumed events = server.heeded?.toList
  heeded : ∀ signal, server.heeded? = some signal ->
    (first.channel.pending.toList ++ events.filterMap ServerEvent.signal?).head? = some signal
  toldOnce : ∀ connection ∈ server.connections, connection.told ≤ 1 ∧
    (connection.phase = .serving -> connection.told = 0) ∧
    (connection.phase = .closing -> connection.told = 1)
  /-- Whoever serves when the loop has ended is told to finish as it looks. -/
  tells : server.phase ≠ .accepting -> ∀ (task : Nat) connection,
    server.connections[task]? = some connection -> connection.phase = .serving ->
    ∃ after, (server.step (.observe task)).connections[task]? = some after ∧
      after.phase = .closing ∧ after.told = 1
  looked : server.phase ≠ .accepting -> ∀ more (task : Nat) after, .observe task ∈ more ->
    (server.run more).connections[task]? = some after -> after.phase ≠ .serving
  aborted : ∀ connection ∈ server.connections, connection.phase = .aborted ->
    first.Expired events
  aborts : ∀ reason, server.phase = .aborting reason -> ∀ (task : Nat) connection,
    server.connections[task]? = some connection ->
    ∃ after, (server.step (.abort task)).connections[task]? = some after ∧ after.isOver = true
  /-- No task outlives the server. -/
  stopped : ∀ reason, server.phase = .stopped reason -> server.areOver = true ∧
    ∀ more, (server.run more).connections = server.connections
  stops : server.phase ≠ .accepting -> server.areOver = true ->
    ∃ turns, (server.run (List.replicate turns .turn)).hasStopped = true

theorem run_graceful (pending : Option Signal) (senders : Nat) (events : List ServerEvent) :
    Graceful (start pending senders) events ((start pending senders).run events) := by
  have atStart := sound_start pending senders
  have sound := atStart.run events
  constructor
  case taken => exact fun event => Moves.taken_of_length (moves_step _ event)
  case ended => exact fun ended more => run_ended ended more
  case prompt => exact Moves.stops (moves_step _ .turn)
  case onward => exact fun accepting event => Moves.accepting (moves_step _ event) accepting
  case consumed => exact heeded_run atStart events
  case heeded => exact fun signal => first_run atStart rfl events
  case toldOnce =>
    intro connection listed
    obtain ⟨task, known⟩ := List.getElem?_of_mem listed
    have orderly := sound.orderly task connection known
    exact ⟨orderly.once, fun serving => (orderly.unaware serving).1, orderly.closing⟩
  case tells => exact fun ended task connection => observe_told sound ended
  case looked => exact fun ended more task after looks => observed_run sound ended looks
  case aborted =>
    intro connection listed gone
    obtain ⟨task, known⟩ := List.getElem?_of_mem listed
    have condemned := (sound.orderly task connection known).aborted gone
    rcases condemned_run known condemned with ⟨early, there, -⟩ | expired
    · simp [start] at there
    · exact expired
  case aborts => exact fun reason aborting task connection => abort_over sound aborting
  case stopped =>
    intro reason stopped
    have ends := sound.areOver stopped
    exact ⟨ends, stopped_run ends stopped⟩
  case stops => exact exists_stop sound

def evening : List ServerEvent :=
  [.arrive .fault, .turn, .arrive .connection, .turn, .arrive .connection, .turn,
    .arrive .connection, .signal .terminate, .turn, .signal .interrupt, .observe 1, .observe 0,
    .idle 0, .finish 0, .turn, .drainExpired, .abort 1, .turn, .turn]

example : ((start none 1).run evening).phase = .stopped (.signal .terminate) ∧
    ((start none 1).run evening).connections.map (·.phase) = [.finished, .aborted] ∧
    ((start none 1).run evening).connections.map (·.told) = [1, 1] ∧
    (start none 1).consumed evening = [.terminate] := by
  decide

end AcceptLoop

end HttpService
