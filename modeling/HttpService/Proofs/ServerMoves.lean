import HttpService.Server.AcceptLoop
/-! # What the server does in a step

`AcceptLoop.Moves` has one case for each thing a step of the server can do, and `Connection.Leads`
one for each thing it can do to a connection. `AcceptLoop.Sound` holds at the start and is kept by
every move, so it holds in any order of events. -/
set_option autoImplicit false

namespace HttpService

namespace Connection

inductive Leads (flips : Nat) (connection : Connection) : Connection -> Prop where
  | same : Leads flips connection connection
  | observed : Leads flips connection (connection.observe flips)
  | told : Leads flips connection connection.tell
  | finished : Leads flips connection connection.finish
  | aborted : Leads flips connection connection.abort
  | condemned (chosen : Bool) :
      Leads flips connection { connection with condemned := connection.condemned || chosen }

/-- What holds of every connection that the server took. -/
structure Orderly (connection : Connection) : Prop where
  unaware : connection.phase = .serving -> connection.told = 0 ∧ connection.seen = 0
  closing : connection.phase = .closing -> connection.told = 1
  once : connection.told ≤ 1
  aborted : connection.phase = .aborted -> connection.condemned = true

variable {flips : Nat} {connection after : Connection}

theorem tell_eq (away : connection.phase ≠ .serving) : connection.tell = connection := by
  simp only [tell]

theorem observe_eq (away : connection.phase ≠ .serving) (flips : Nat) :
    connection.observe flips = connection := by
  simp only [observe]

theorem finish_eq (ends : connection.isOver = true) : connection.finish = connection :=
  if_pos ends

theorem abort_eq (ends : connection.isOver = true) : connection.abort = connection := by
  simp [abort, ends]

theorem away_of_isOver (ends : connection.isOver = true) : connection.phase ≠ .serving := by
  intro serving
  simp [isOver, serving] at ends

@[simp]
theorem condemned_tell (connection : Connection) :
    connection.tell.condemned = connection.condemned := by
  simp only [tell]
  split <;> rfl

@[simp]
theorem condemned_observe (connection : Connection) (flips : Nat) :
    (connection.observe flips).condemned = connection.condemned := by
  simp only [observe]
  split
  · split
    · rfl
    · exact condemned_tell connection
  · rfl

@[simp]
theorem condemned_finish (connection : Connection) :
    connection.finish.condemned = connection.condemned := by
  simp only [finish]
  split <;> rfl

@[simp]
theorem condemned_abort (connection : Connection) :
    connection.abort.condemned = connection.condemned := by
  simp only [abort]
  split <;> rfl

theorem Orderly.tell (orderly : connection.Orderly) : connection.tell.Orderly := by
  by_cases serving : connection.phase = .serving
  · have untold := (orderly.unaware serving).1
    constructor <;> simp [Connection.tell, serving, untold]
  · rw [tell_eq serving]
    exact orderly

theorem Orderly.observe (orderly : connection.Orderly) (flips : Nat) :
    (connection.observe flips).Orderly := by
  by_cases serving : connection.phase = .serving
  · have untold := (orderly.unaware serving).1
    simp only [Connection.observe, serving]
    split
    · exact orderly
    · constructor <;> simp [Connection.tell, serving, untold]
  · rw [observe_eq serving]
    exact orderly

theorem Orderly.leads (orderly : connection.Orderly) (leads : connection.Leads flips after) :
    after.Orderly := by
  cases leads with
  | same => exact orderly
  | observed => exact orderly.observe flips
  | told => exact orderly.tell
  | finished =>
      simp only [Connection.finish]
      split
      · exact orderly
      · constructor <;> simp [orderly.once]
  | aborted =>
      simp only [Connection.abort]
      split
      · rename_i able
        have condemned := (Bool.and_eq_true_iff.mp able).1
        constructor <;> simp [orderly.once, condemned]
      · exact orderly
  | condemned chosen =>
      obtain ⟨unaware, closing, once, aborted⟩ := orderly
      refine ⟨unaware, closing, once, fun gone => ?_⟩
      simp [aborted gone]

namespace Leads

theorem isOver (leads : connection.Leads flips after) (ends : connection.isOver = true) :
    after.isOver = true := by
  cases leads with
  | same => exact ends
  | observed => rwa [observe_eq (away_of_isOver ends)]
  | told => rwa [tell_eq (away_of_isOver ends)]
  | finished => rwa [finish_eq ends]
  | aborted => rwa [abort_eq ends]
  | condemned chosen => exact ends

theorem condemned_of (leads : connection.Leads flips after)
    (condemned : connection.condemned = true) : after.condemned = true := by
  cases leads <;> simp [condemned]

theorem serving_of (leads : connection.Leads flips after) (serving : after.phase = .serving) :
    connection.phase = .serving := by
  apply Decidable.by_contra
  intro away
  cases leads with
  | same => exact away serving
  | observed => exact away (observe_eq away flips ▸ serving)
  | told => exact away (tell_eq away ▸ serving)
  | finished =>
      simp only [finish] at serving
      split at serving
      · exact away serving
      · cases serving
  | aborted =>
      simp only [abort] at serving
      split at serving
      · cases serving
      · exact away serving
  | condemned chosen => exact away serving

end Leads

end Connection

inductive ServerEvent.Touches (flips : Nat) :
    ServerEvent -> Nat -> (Connection -> Connection) -> Prop where
  | observe (task : Nat) : Touches flips (.observe task) task (Connection.observe flips)
  | idle (task : Nat) : Touches flips (.idle task) task Connection.tell
  | finish (task : Nat) : Touches flips (.finish task) task Connection.finish
  | abort (task : Nat) : Touches flips (.abort task) task Connection.abort

namespace ServerEvent.Touches

variable {event : ServerEvent} {flips task : Nat} {change : Connection -> Connection}

theorem leads (touches : event.Touches flips task change) (connection : Connection) :
    connection.Leads flips (change connection) := by
  cases touches with
  | observe task => exact .observed
  | idle task => exact .told
  | finish task => exact .finished
  | abort task => exact .aborted

theorem condemned (touches : event.Touches flips task change) (connection : Connection) :
    (change connection).condemned = connection.condemned := by
  cases touches <;> simp

theorem change_of_isOver (touches : event.Touches flips task change) {connection : Connection}
    (ends : connection.isOver = true) : change connection = connection := by
  cases touches with
  | observe task => exact Connection.observe_eq (Connection.away_of_isOver ends) flips
  | idle task => exact Connection.tell_eq (Connection.away_of_isOver ends)
  | finish task => exact Connection.finish_eq ends
  | abort task => exact Connection.abort_eq ends

end ServerEvent.Touches

theorem Channel.listening_send (channel : Channel) (signal : Signal) :
    (channel.send signal).2.listening = channel.listening := by
  simp only [send]
  split
  · split <;> rfl
  · rfl

namespace AcceptLoop

/-- What a step of the server does, one case for each way it can go. -/
inductive Moves (server : AcceptLoop) : ServerEvent -> AcceptLoop -> Prop where
  | arrived (incoming : Incoming) (accepting : server.phase = .accepting) :
      Moves server (.arrive incoming) { server with backlog := server.backlog ++ [incoming] }
  | refused (incoming : Incoming) (ended : server.phase ≠ .accepting) :
      Moves server (.arrive incoming) server
  | sent (signal : Signal) :
      Moves server (.signal signal) { server with channel := (server.channel.send signal).2 }
  | cloned : Moves server .cloneSender { server with channel := server.channel.addSender }
  | left : Moves server .dropSender { server with channel := server.channel.dropSender }
  | touched (event : ServerEvent) (task : Nat) (change : Connection -> Connection)
      (touches : event.Touches server.flips task change) :
      Moves server event (server.update task change)
  | signalled (signal : Signal) (accepting : server.phase = .accepting)
      (pending : server.channel.pending = some signal) :
      Moves server .turn ({ server with channel := { server.channel with pending := none } }.drain
        (.signal signal))
  | closed (accepting : server.phase = .accepting) (empty : server.channel.pending = none)
      (last : server.channel.senders = 0) : Moves server .turn (server.drain .closed)
  | faulted (rest : List Incoming) (accepting : server.phase = .accepting)
      (waits : server.channel.receive.1 = .waiting) (first : server.backlog = .fault :: rest) :
      Moves server .turn { server with backlog := rest, faults := server.faults + 1 }
  | taken (rest : List Incoming) (accepting : server.phase = .accepting)
      (waits : server.channel.receive.1 = .waiting) (first : server.backlog = .connection :: rest) :
      Moves server .turn { server with backlog := rest }.spawn
  | reaped (accepting : server.phase = .accepting) (waits : server.channel.receive.1 = .waiting)
      (idle : server.backlog = []) : Moves server .turn server.join
  | joined (reason : StopReason)
      (waiting : server.phase = .draining reason ∨ server.phase = .aborting reason)
      (others : server.unjoined ≠ []) : Moves server .turn server.join
  | returned (reason : StopReason)
      (waiting : server.phase = .draining reason ∨ server.phase = .aborting reason)
      (nobody : server.unjoined = []) : Moves server .turn (server.stop reason)
  | expired (reason : StopReason) (draining : server.phase = .draining reason)
      (others : server.unjoined ≠ []) : Moves server .drainExpired (server.condemn reason)
  | late (draining : ∀ reason, server.phase = .draining reason -> server.unjoined = []) :
      Moves server .drainExpired server
  | rested (reason : StopReason) (stopped : server.phase = .stopped reason) :
      Moves server .turn server

variable {server next : AcceptLoop} {event : ServerEvent}

theorem moves_turn (accepting : server.phase = .accepting) : server.Moves .turn server.turn := by
  cases pending : server.channel.pending with
  | some signal =>
      have heard : server.channel.receive =
        (.signal signal, { server.channel with pending := none }) := by
        simp [Channel.receive, pending]
      simp only [turn, heard]
      exact .signalled signal accepting pending
  | none =>
      by_cases last : server.channel.senders = 0
      · have heard : server.channel.receive = (.closed, server.channel) := by
          simp [Channel.receive, pending, last]
        simp only [turn, heard]
        exact .closed accepting pending last
      · have heard : server.channel.receive = (.waiting, server.channel) := by
          simp [Channel.receive, pending, last]
        have waits : server.channel.receive.1 = .waiting := by rw [heard]
        simp only [turn, heard, accept]
        split
        · rename_i idle
          exact .reaped accepting waits idle
        · rename_i rest first
          exact .faulted rest accepting waits first
        · rename_i rest first
          exact .taken rest accepting waits first

theorem moves_await (reason : StopReason)
    (waiting : server.phase = .draining reason ∨ server.phase = .aborting reason) :
    server.Moves .turn (server.await reason) := by
  simp only [await]
  split
  · rename_i nobody
    exact .returned reason waiting nobody
  · rename_i others
    exact .joined reason waiting others

theorem moves_step (server : AcceptLoop) (event : ServerEvent) :
    server.Moves event (server.step event) := by
  cases event with
  | arrive incoming =>
      by_cases accepting : server.phase = .accepting
      · have taken : server.step (.arrive incoming) =
          { server with backlog := server.backlog ++ [incoming] } := by
          simp [step, isDraining, accepting]
        rw [taken]
        exact .arrived incoming accepting
      · have dropped : server.step (.arrive incoming) = server := by
          simp [step, isDraining, accepting]
        rw [dropped]
        exact .refused incoming accepting
  | signal signal => exact .sent signal
  | cloneSender => exact .cloned
  | dropSender => exact .left
  | observe task => exact .touched _ task _ (.observe task)
  | idle task => exact .touched _ task _ (.idle task)
  | finish task => exact .touched _ task _ (.finish task)
  | abort task => exact .touched _ task _ (.abort task)
  | turn =>
      cases phase : server.phase with
      | accepting =>
          simp only [step, phase]
          exact moves_turn phase
      | draining reason =>
          simp only [step, phase]
          exact moves_await reason (.inl phase)
      | aborting reason =>
          simp only [step, phase]
          exact moves_await reason (.inr phase)
      | stopped reason =>
          simp only [step, phase]
          exact .rested reason phase
  | drainExpired =>
      cases phase : server.phase with
      | draining reason =>
          simp only [step, phase]
          split
          · rename_i nobody
            exact .late fun _ _ => nobody
          · rename_i others
            exact .expired reason phase others
      | _ =>
          simp only [step, phase]
          exact .late fun _ draining => by simp [phase] at draining

namespace Moves

/-- Every connection is still there, under its number. -/
theorem forward (moves : server.Moves event next) {task : Nat} {connection : Connection}
    (known : server.connections[task]? = some connection) :
    ∃ after, next.connections[task]? = some after ∧ connection.Leads server.flips after := by
  cases moves with
  | touched event task' change touches =>
      by_cases same : task' = task
      · refine ⟨change connection, ?_, touches.leads connection⟩
        simp [update, same, known]
      · refine ⟨connection, ?_, .same⟩
        simp [update, same, known]
  | taken rest accepting waits first =>
      obtain ⟨inside, -⟩ := List.getElem?_eq_some_iff.mp known
      exact ⟨connection, by simpa [spawn, List.getElem?_append_left inside] using known, .same⟩
  | expired reason draining others =>
      refine ⟨_, ?_, .condemned (server.unjoined.contains task)⟩
      simp [condemn, known]
  | _ => exact ⟨connection, known, .same⟩

/-- A connection that was not there is one that the loop took. -/
theorem origin (moves : server.Moves event next) {task : Nat} {after : Connection}
    (known : next.connections[task]? = some after) :
    (∃ connection, server.connections[task]? = some connection ∧
        connection.Leads server.flips after) ∨
      (server.phase = .accepting ∧ task = server.connections.length ∧
        after = { seen := server.flips } ∧ task ∈ next.unjoined) := by
  cases before : server.connections[task]? with
  | some connection =>
      obtain ⟨same, found, leads⟩ := moves.forward before
      rw [known] at found
      cases found
      exact .inl ⟨connection, rfl, leads⟩
  | none =>
      cases moves with
      | taken rest accepting waits first =>
          have beyond := List.getElem?_eq_none_iff.mp before
          simp only [spawn, List.getElem?_append_right beyond, List.getElem?_singleton] at known
          split at known
          · cases known
            have last : task = server.connections.length := by omega
            exact .inr ⟨accepting, last, rfl, by simp [spawn, last]⟩
          · cases known
      | touched event task' change touches => simp [update, List.getElem?_modify, before] at known
      | expired reason draining others => simp [condemn, before] at known
      | _ => exact absurd known (by simp [drain, join, stop, before])

theorem unjoined_cases (moves : server.Moves event next) {task : Nat}
    (waited : task ∈ server.unjoined) : task ∈ next.unjoined ∨ server.isOverAt task = true := by
  have joined : task ∈ server.join.unjoined ∨ server.isOverAt task = true := by
    by_cases ends : server.isOverAt task = true
    · exact .inr ends
    · exact .inl ((List.mem_eraseP_of_neg ends).mpr waited)
  cases moves with
  | reaped accepting waits idle => exact joined
  | joined reason waiting others => exact joined
  | taken rest accepting waits first => exact .inl (List.mem_append_left _ waited)
  | _ => exact .inl waited

theorem unjoined_lt (moves : server.Moves event next)
    (known : ∀ task ∈ server.unjoined, task < server.connections.length) :
    ∀ task ∈ next.unjoined, task < next.connections.length := by
  intro task waited
  cases moves with
  | touched event task' change touches => simpa [update] using known task waited
  | reaped accepting waits idle => exact known task (List.mem_of_mem_eraseP waited)
  | joined reason waiting others => exact known task (List.mem_of_mem_eraseP waited)
  | taken rest accepting waits first =>
      simp only [spawn, List.mem_append, List.mem_singleton] at waited
      simp only [spawn, List.length_append, List.length_singleton]
      rcases waited with before | rfl
      · have := known task before
        omega
      · omega
  | expired reason draining others => simpa [condemn] using known task waited
  | _ => exact known task waited

end Moves

structure Sound (server : AcceptLoop) : Prop where
  listens : (∀ reason, server.phase ≠ .stopped reason) -> server.channel.listening = true
  flips : server.flips = if server.phase = .accepting then 0 else 1
  orderly : ∀ (task : Nat) connection, server.connections[task]? = some connection ->
    connection.Orderly
  known : ∀ task ∈ server.unjoined, task < server.connections.length
  joined : ∀ (task : Nat) connection, server.connections[task]? = some connection ->
    connection.isOver = true ∨ task ∈ server.unjoined
  condemned : ∀ reason, server.phase = .aborting reason -> ∀ (task : Nat) connection,
    server.connections[task]? = some connection ->
    connection.isOver = true ∨ connection.condemned = true
  finished : ∀ reason, server.phase = .stopped reason -> server.unjoined = []

theorem Sound.moves (sound : server.Sound) (moves : server.Moves event next) : next.Sound := by
  refine ⟨?_, ?_, ?_, moves.unjoined_lt sound.known, ?_, ?_, ?_⟩
  · intro serving
    cases moves with
    | sent signal => exact (Channel.listening_send _ _).trans (sound.listens serving)
    | signalled signal accepting pending => exact sound.listens (by simp [accepting])
    | closed accepting empty last => exact sound.listens (by simp [accepting])
    | returned reason waiting nobody => exact absurd rfl (serving reason)
    | expired reason draining others => exact sound.listens (by simp [draining])
    | _ => exact sound.listens serving
  · have unset := sound.flips
    cases moves with
    | signalled signal accepting pending => simpa [drain, accepting] using unset
    | closed accepting empty last => simpa [drain, accepting] using unset
    | returned reason waiting nobody =>
        rcases waiting with waiting | waiting <;> simpa [stop, waiting] using unset
    | expired reason draining others => simpa [condemn, draining] using unset
    | _ => exact unset
  · intro task after found
    rcases moves.origin found with ⟨connection, before, leads⟩ | ⟨accepting, -, rfl, -⟩
    · exact (sound.orderly task connection before).leads leads
    · have unset := sound.flips
      rw [if_pos accepting] at unset
      constructor <;> simp [unset]
  · intro task after found
    rcases moves.origin found with ⟨connection, before, leads⟩ | ⟨-, -, -, waited⟩
    · rcases sound.joined task connection before with ends | waited
      · exact .inl (leads.isOver ends)
      · rcases moves.unjoined_cases waited with still | ends
        · exact .inr still
        · exact .inl (leads.isOver (by simpa [isOverAt, before] using ends))
    · exact .inr waited
  · intro reason aborting task after found
    have carried : server.phase = .aborting reason ->
        after.isOver = true ∨ after.condemned = true := by
      intro before
      rcases moves.origin found with ⟨connection, there, leads⟩ | ⟨accepting, -, -, -⟩
      · rcases sound.condemned reason before task connection there with ends | condemned
        · exact .inl (leads.isOver ends)
        · exact .inr (leads.condemned_of condemned)
      · cases accepting.symm.trans before
    cases moves with
    | signalled signal accepting pending => cases aborting
    | closed accepting empty last => cases aborting
    | returned reason waiting nobody => cases aborting
    | expired reason draining others =>
        simp only [condemn, List.getElem?_mapIdx, Option.map_eq_some_iff] at found
        obtain ⟨connection, there, rfl⟩ := found
        rcases sound.joined task connection there with ends | waited
        · exact .inl ends
        · exact .inr (by simp [waited])
    | _ => exact carried aborting
  · intro reason stopped
    cases moves with
    | signalled signal accepting pending => cases stopped
    | closed accepting empty last => cases stopped
    | faulted rest accepting waits first => cases accepting.symm.trans stopped
    | taken rest accepting waits first => cases accepting.symm.trans stopped
    | reaped accepting waits idle => cases accepting.symm.trans stopped
    | joined reason waiting others =>
        rcases waiting with waiting | waiting <;> cases waiting.symm.trans stopped
    | returned reason waiting nobody => exact nobody
    | expired reason draining others => cases stopped
    | _ => exact sound.finished reason stopped

theorem Sound.run (sound : server.Sound) (events : List ServerEvent) :
    (server.run events).Sound := by
  induction events generalizing server with
  | nil => exact sound
  | cons event events ih => exact ih (sound.moves (server.moves_step event))

theorem run_cons (server : AcceptLoop) (event : ServerEvent) (events : List ServerEvent) :
    server.run (event :: events) = (server.step event).run events := rfl

theorem run_append (server : AcceptLoop) (first second : List ServerEvent) :
    server.run (first ++ second) = (server.run first).run second :=
  List.foldl_append

def start (pending : Option Signal) (senders : Nat) : AcceptLoop :=
  { channel := { pending, senders } }

theorem sound_start (pending : Option Signal) (senders : Nat) : (start pending senders).Sound := by
  constructor <;> simp [start]

end AcceptLoop

end HttpService
