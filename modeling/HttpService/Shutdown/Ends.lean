import HttpService.LogEntry
/-! # The ends of the channel

The sending end can be copied, and any copy asks for a shutdown; the one listener takes what was
sent. `Channel.perform?` does one operation on an end that is still there. -/
set_option autoImplicit false

namespace HttpService

inductive ChannelOperation where
  | cloneSender
  | dropSender
  | signal (signal : Signal)
  /-- Listens once, without waiting for what may come. -/
  | receive
  | tryReceive
  | dropListener
deriving DecidableEq

inductive ChannelAnswer where
  | nothing
  /-- Whether the signal was taken, and what was logged. -/
  | signalled (taken : Bool) (log : List LogEntry)
  | heard (hearing : Hearing)
  | found (signal : Option Signal)
deriving DecidableEq

namespace Channel

/-- Asks for a shutdown. A signal that is dropped is logged. -/
def signal (channel : Channel) (signal : Signal) : Bool × List LogEntry × Channel :=
  let (sending, channel) := channel.send signal
  (sending = .accepted, LogEntry.ofSending signal sending, channel)

def tryReceive (channel : Channel) : Option Signal × Channel :=
  match channel.receive with
  | (.signal signal, channel) => (some signal, channel)
  | (_, channel) => (none, channel)

def perform? (channel : Channel) : ChannelOperation -> Option (ChannelAnswer × Channel)
  | .cloneSender => if channel.senders = 0 then none else some (.nothing, channel.addSender)
  | .dropSender => if channel.senders = 0 then none else some (.nothing, channel.dropSender)
  | .signal signal =>
      if channel.senders = 0 then none
      else
        let (taken, log, channel) := channel.signal signal
        some (.signalled taken log, channel)
  | .receive =>
      if channel.listening then
        let (hearing, channel) := channel.receive
        some (.heard hearing, channel)
      else none
  | .tryReceive =>
      if channel.listening then
        let (found, channel) := channel.tryReceive
        some (.found found, channel)
      else none
  | .dropListener => if channel.listening then some (.nothing, channel.dropListener) else none

end Channel

end HttpService
