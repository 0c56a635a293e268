/-! # Shutdown signals

One channel that holds at most one signal carries every reason to stop. Sending never waits: a
signal that finds another one pending, or nobody listening, is dropped. -/
set_option autoImplicit false

namespace HttpService

/-- Why the process is to stop. -/
inductive Signal where
  | interrupt
  | terminate
  /-- A request reported that the service is no longer sound. -/
  | integrity (reason : String)
deriving DecidableEq, Inhabited

def Signal.display : Signal -> String
  | .interrupt => "SIGINT"
  | .terminate => "SIGTERM"
  | .integrity reason => "integrity: " ++ reason

inductive Sending where
  | accepted
  /-- Another signal was pending. -/
  | pending
  /-- The listener was gone. -/
  | unheard
deriving DecidableEq

inductive Hearing where
  | signal (signal : Signal)
  /-- Nothing yet, but somebody may still send. -/
  | waiting
  /-- Nothing, and nobody is left to send. -/
  | closed
deriving DecidableEq

/-- The channel between those who ask for a shutdown and the one who carries it out. -/
structure Channel where
  pending : Option Signal := none
  senders : Nat := 1
  listening : Bool := true
deriving DecidableEq

namespace Channel

instance : Inhabited Channel := ⟨{}⟩

def send (channel : Channel) (signal : Signal) : Sending × Channel :=
  if channel.listening then
    match channel.pending with
    | none => (.accepted, { channel with pending := some signal })
    | some _ => (.pending, channel)
  else (.unheard, channel)

/-- Listens without waiting. -/
def receive (channel : Channel) : Hearing × Channel :=
  match channel.pending with
  | some signal => (.signal signal, { channel with pending := none })
  | none => (if channel.senders = 0 then .closed else .waiting, channel)

def addSender (channel : Channel) : Channel := { channel with senders := channel.senders + 1 }

def dropSender (channel : Channel) : Channel := { channel with senders := channel.senders - 1 }

/-- The listener goes away, and with it what was pending. -/
def dropListener (channel : Channel) : Channel :=
  { channel with listening := false, pending := none }

end Channel

end HttpService
