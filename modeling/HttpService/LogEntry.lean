import HttpService.Failure
import HttpService.Http.Request
import HttpService.Shutdown
/-! # Log entries

What is reported about requests, their intake and the channel, and the line that each entry is
written as. -/
set_option autoImplicit false

namespace HttpService

structure RequestLine where
  method : String
  path : String
  remote : Option SocketAddress
deriving DecidableEq, Inhabited

def Request.line (request : Request) : RequestLine :=
  ⟨request.method.name, request.pathAndQuery, request.remote⟩

inductive LogEntry where
  | started (line : RequestLine)
  /-- The status is that of the response written, if one was. -/
  | completed (line : RequestLine) (status : Option Status)
  | failed (failure : Failure)
  /-- A second response was written, and dropped. -/
  | dropped (status : Status)
  | connectionLost (failure : Failure)
  | integrityLost (failure : Failure)
  /-- A failure that no layer turned into a response. -/
  | escaped (failure : Failure)
  | unanswered
  | alreadyPending (signal : Signal)
  | nobodyListens (signal : Signal)
  | bodyTooLarge (peer : SocketAddress) (limit : Nat)
  | bodyBroken (peer : SocketAddress) (message : String)
  | bodyLate (peer : SocketAddress) (limit : Nat)
  | answerLate (peer : SocketAddress) (limit : Nat)
deriving DecidableEq

namespace LogEntry

def remoteText : Option SocketAddress -> String
  | none => "None"
  | some address => "Some(" ++ address.display ++ ")"

def lineText (line : RequestLine) : String :=
  " method=" ++ line.method ++ " path=" ++ line.path ++ " remote_addr=" ++ remoteText line.remote

/-- The line of an entry: its level, its text, then its fields. -/
def render : LogEntry -> String
  | .started line => "INFO request started" ++ lineText line
  | .completed line status =>
      "INFO request completed" ++ lineText line ++ " status_code="
        ++ toString (status.elim 0 Status.code)
  | .failed _ => "ERROR ERROR"
  | .dropped status =>
      "WARN response already written, dropping second write status=" ++ status.display
  | .connectionLost _ => "WARN client connection lost"
  | .integrityLost _ => "ERROR integrity failure, signalling shutdown"
  | .escaped _ => "ERROR error escaped the middleware chain"
  | .unanswered => "ERROR no response written"
  | .alreadyPending signal => "WARN shutdown already pending signal=" ++ signal.display
  | .nobodyListens signal => "WARN shutdown listener closed signal=" ++ signal.display
  | .bodyTooLarge _ _ => "WARN request body too large"
  | .bodyBroken _ message => "WARN failed to read request body: " ++ message
  | .bodyLate _ _ => "WARN timed out reading request body"
  | .answerLate _ _ => "WARN handler timed out"

def ofSending (signal : Signal) : Sending -> List LogEntry
  | .accepted => []
  | .pending => [alreadyPending signal]
  | .unheard => [nobodyListens signal]

end LogEntry

end HttpService
