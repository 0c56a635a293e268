import HttpService.Router
import HttpService.Server.Limits
/-! # Request intake

The body of a request arrives in frames. Once it is complete, within the read limit and no longer
than allowed, the router answers the request; otherwise the server itself does. A router that takes
too long is cut off. Whatever the server answers itself it reports in the log. -/
set_option autoImplicit false

namespace HttpService

inductive BodyEvent where
  | frame (bytes : Bytes)
  | finish
  | failure (message : String)
deriving DecidableEq, Inhabited

/-- What happens to a body, and how many milliseconds after its head was read. -/
structure Arrival where
  moment : Nat
  event : BodyEvent
deriving DecidableEq, Inhabited

/-- Why a body is not taken. -/
inductive Refusal where
  | tooLarge
  | broken (message : String)
  | late
deriving DecidableEq, Inhabited

def Refusal.status : Refusal -> Status
  | .tooLarge => .payloadTooLarge
  | .broken _ => .badRequest
  | .late => .requestTimeout

def Refusal.entry (limits : Limits) (peer : SocketAddress) : Refusal -> LogEntry
  | .tooLarge => .bodyTooLarge peer limits.maxBody
  | .broken message => .bodyBroken peer message
  | .late => .bodyLate peer limits.read

namespace Intake

/-- Collects a body. What has not arrived when the read limit is over, or never arrives, is late; a
frame is too large as soon as it leads past the longest body allowed. -/
def collect (limits : Limits) (received : Bytes) : List Arrival -> Except Refusal Bytes
  | [] => .error .late
  | arrival :: rest =>
      if limits.read < arrival.moment then .error .late
      else
        match arrival.event with
        | .finish => .ok received
        | .failure message => .error (.broken message)
        | .frame bytes =>
            if limits.maxBody < received.length + bytes.length then .error .tooLarge
            else collect limits (received ++ bytes) rest

/-- What is answered when the router takes too long. -/
def unavailable : Response :=
  Response.jsonBytes .serviceUnavailable (Bytes.ofText "\x7b\"error\":\"Service Unavailable\"\x7d")

inductive Answer where
  | response (response : Response)
  /-- A panic left the router, which ends the connection. -/
  | panicked (payload : PanicPayload)
deriving Inhabited

/-- Answers a request from its head, its peer and what arrives of its body. -/
def answer (limits : Limits) (router : Router) (peer : SocketAddress) (head : Request)
    (arrivals : List Arrival) (world : World) : Answer × World :=
  match collect limits [] arrivals with
  | .error refusal =>
      (.response (.bare refusal.status), world.addLog (refusal.entry limits peer))
  | .ok body =>
      let request := { head with body, remote := some peer }
      match router.dispatch (some limits.write) request world with
      | (.response response, world) => (.response response, world)
      | (.panicked payload, world) => (.panicked payload, world)
      | (.cutOff, world) =>
          (.response unavailable, world.addLog (.answerLate peer limits.write))

end Intake

end HttpService
