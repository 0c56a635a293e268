import HttpService.Shutdown
/-! # The accept loop

The server takes connections until it is to stop, then tells the open ones to finish and waits for
them, for a limited time. `AcceptLoop.step` says what each event does; the order of the events is
the environment's. -/
set_option autoImplicit false

namespace HttpService

inductive Incoming where
  | connection
  /-- Taking the connection fails. -/
  | fault
deriving DecidableEq, Inhabited

/-- How far the task of a connection has come. -/
inductive ConnectionPhase where
  | serving
  /-- It was told to finish. -/
  | closing
  | finished
  | aborted
deriving DecidableEq, Inhabited

structure Connection where
  phase : ConnectionPhase := .serving
  /-- How often it was told to finish. -/
  told : Nat := 0
  /-- How many changes of the draining flag it knows of. -/
  seen : Nat := 0
  /-- It is to be aborted when it runs next. -/
  condemned : Bool := false
deriving DecidableEq, Inhabited

namespace Connection

def isOver (connection : Connection) : Bool :=
  connection.phase = .finished || connection.phase = .aborted

/-- Tells the task to finish, unless it was told before or is over. -/
def tell (connection : Connection) : Connection :=
  match connection.phase with
  | .serving => { connection with phase := .closing, told := connection.told + 1 }
  | _ => connection

/-- A task that was not told to finish looks for a change of the flag that it does not know of. -/
def observe (flips : Nat) (connection : Connection) : Connection :=
  match connection.phase with
  | .serving =>
      if connection.seen = flips then connection else { connection.tell with seen := flips }
  | _ => connection

/-- The task ends by itself. -/
def finish (connection : Connection) : Connection :=
  if connection.isOver then connection else { connection with phase := .finished }

def abort (connection : Connection) : Connection :=
  if connection.condemned && !connection.isOver then { connection with phase := .aborted }
  else connection

end Connection

/-- Why the loop ended. -/
inductive StopReason where
  | signal (signal : Signal)
  /-- Nobody was left to send a signal. -/
  | closed
deriving DecidableEq

inductive ServerPhase where
  | accepting
  | draining (reason : StopReason)
  /-- The drain limit is over. -/
  | aborting (reason : StopReason)
  | stopped (reason : StopReason)
deriving DecidableEq

/-- The server with the tasks of all connections it took, by number. -/
structure AcceptLoop where
  phase : ServerPhase := .accepting
  channel : Channel := {}
  backlog : List Incoming := []
  connections : List Connection := []
  /-- How many connections could not be taken. -/
  faults : Nat := 0
  /-- The tasks that nobody has waited for. -/
  unjoined : List Nat := []
  /-- How often the draining flag was set. -/
  flips : Nat := 0

inductive ServerEvent where
  | arrive (incoming : Incoming)
  | signal (signal : Signal)
  | cloneSender
  | dropSender
  /-- The task of a connection looks whether the server is draining. -/
  | observe (connection : Nat)
  /-- A connection has been idle for too long. -/
  | idle (connection : Nat)
  | finish (connection : Nat)
  | abort (connection : Nat)
  /-- The server goes once around its loop, or waits for a task. -/
  | turn
  | drainExpired
deriving DecidableEq

namespace AcceptLoop

def isDraining (server : AcceptLoop) : Bool := server.phase ≠ .accepting

def hasStopped (server : AcceptLoop) : Bool :=
  match server.phase with
  | .stopped _ => true
  | _ => false

def update (server : AcceptLoop) (connection : Nat) (change : Connection -> Connection) :
    AcceptLoop :=
  { server with connections := server.connections.modify connection change }

/-- Stops taking connections; those that were not taken yet are refused. -/
def drain (server : AcceptLoop) (reason : StopReason) : AcceptLoop :=
  { server with phase := .draining reason, backlog := [], flips := server.flips + 1 }

def isOverAt (server : AcceptLoop) (task : Nat) : Bool :=
  server.connections[task]?.any Connection.isOver

/-- Waits for one of the tasks, and goes on at once if one of them is over. -/
def join (server : AcceptLoop) : AcceptLoop :=
  { server with unjoined := server.unjoined.eraseP server.isOverAt }

/-- A new task knows of the changes of the flag up to now. -/
def spawn (server : AcceptLoop) : AcceptLoop :=
  { server with
    connections := server.connections ++ [{ seen := server.flips }]
    unjoined := server.unjoined ++ [server.connections.length] }

def accept (server : AcceptLoop) : AcceptLoop :=
  match server.backlog with
  | [] => server.join
  | .fault :: rest => { server with backlog := rest, faults := server.faults + 1 }
  | .connection :: rest => { server with backlog := rest }.spawn

/-- Goes once around the loop: a reason to stop comes before a connection. -/
def turn (server : AcceptLoop) : AcceptLoop :=
  match server.channel.receive with
  | (.signal signal, channel) => { server with channel }.drain (.signal signal)
  | (.closed, _) => server.drain .closed
  | (.waiting, _) => server.accept

/-- Returns, which drops the listening end of the channel. -/
def stop (server : AcceptLoop) (reason : StopReason) : AcceptLoop :=
  { server with phase := .stopped reason, channel := server.channel.dropListener }

/-- Waits for one of the tasks, or returns when nobody is left to wait for. -/
def await (server : AcceptLoop) (reason : StopReason) : AcceptLoop :=
  if server.unjoined = [] then server.stop reason else server.join

/-- The drain limit is over: whoever is left is to be aborted. -/
def condemn (server : AcceptLoop) (reason : StopReason) : AcceptLoop :=
  { server with
    phase := .aborting reason
    connections := server.connections.mapIdx fun task connection =>
      { connection with condemned := connection.condemned || server.unjoined.contains task } }

def areOver (server : AcceptLoop) : Bool := server.connections.all Connection.isOver

def step (server : AcceptLoop) : ServerEvent -> AcceptLoop
  | .arrive incoming =>
      if server.isDraining then server
      else { server with backlog := server.backlog ++ [incoming] }
  | .signal signal => { server with channel := (server.channel.send signal).2 }
  | .cloneSender => { server with channel := server.channel.addSender }
  | .dropSender => { server with channel := server.channel.dropSender }
  | .observe connection => server.update connection (.observe server.flips)
  | .idle connection => server.update connection .tell
  | .finish connection => server.update connection .finish
  | .abort connection => server.update connection .abort
  | .turn =>
      match server.phase with
      | .accepting => server.turn
      | .draining reason | .aborting reason => server.await reason
      | .stopped _ => server
  | .drainExpired =>
      match server.phase with
      | .draining reason => if server.unjoined = [] then server else server.condemn reason
      | _ => server

def run (server : AcceptLoop) (events : List ServerEvent) : AcceptLoop := events.foldl step server

end AcceptLoop

end HttpService
