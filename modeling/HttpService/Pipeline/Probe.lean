import HttpService.Pipeline.Task
/-! # Layers and handlers for observing chains

Small layers that skip, swallow, fail, panic or leave notes, and handlers that answer with what they
were given. -/
set_option autoImplicit false

namespace HttpService

def outcomeText : Outcome -> String
  | .ok () => "ok"
  | .error failure => "err " ++ failure.kind ++ ": " ++ failure.report

/-- The text of what a handle on an exchange shows. -/
def stateText (claims : Option Claims) (started : Bool) (status : Option Status) : String :=
  "started=" ++ toString started ++ " claims=" ++ claims.elim "-" Claims.subject ++ " status="
    ++ status.elim "-" fun status => toString status.code

namespace Layer

/-- Goes on with the text of the current state. -/
def withState (passage : Passage) (next : String -> Task Passage) : Task Passage :=
  .act .readStarted fun started => .act .readStatus fun status =>
    next (stateText passage.claims started.isSome status)

def identity : Layer := fun passage => .proceed passage

/-- Ends well without calling inwards. -/
def skip : Layer := fun _ => .succeed

/-- Ends well however the call inwards ended. -/
def swallow : Layer := fun passage => .forward passage fun _ => .succeed

/-- Leaves a note on the way in and one on the way out. -/
def tagged (name : String) : Layer := fun passage =>
  withState passage fun before =>
    .perform (.note (name ++ ":in " ++ before)) <|
      .forward passage fun outcome =>
        withState passage fun after =>
          .perform (.note (name ++ ":out " ++ outcomeText outcome ++ " " ++ after))
            (.done (.returned outcome))

/-- Attaches claims without verifying anything. -/
def attach (claims : Claims) : Layer := fun passage =>
  .proceed { passage with claims := some claims }

/-- Fails without calling inwards. -/
def failing (failure : Failure) : Layer := fun _ => .fail failure

/-- Fails however the call inwards ended. -/
def failingAfter (failure : Failure) : Layer := fun passage =>
  .forward passage fun _ => .fail failure

/-- Panics without calling inwards. -/
def panicking (payload : PanicPayload) : Layer := fun _ => .panic payload

/-- Panics after the call inwards. -/
def panickingAfter (payload : PanicPayload) : Layer := fun passage =>
  .forward passage fun _ => .panic payload

def respondNote (won : Bool) : String := "respond=" ++ toString won

/-- Writes a response and leaves a note of whether it was the first, then calls inwards. -/
def responding (response : Response) : Layer := fun passage =>
  .act (.respond response) fun won => .perform (.note (respondNote won)) (.proceed passage)

end Layer

namespace Handler

def constant (response : Response) : Handler := .ofResult fun _ => .ok response

def failing (failure : Failure) : Handler := .ofResult fun _ => .error failure

def panicking (payload : PanicPayload) : Handler := fun _ => .panic payload

/-- Never ends. -/
def stuck : Handler := fun _ => .stall

/-- Writes a response and leaves a note of whether it was the first, then goes on. -/
def responding (response : Response) (next : Handler) : Handler := fun passage =>
  .act (.respond response) fun won =>
    .perform (.note (Layer.respondNote won)) (next passage)

def pausing (milliseconds : Nat) (next : Handler) : Handler := fun passage =>
  .perform (.pause milliseconds) (next passage)

def counters : Handler := fun _ =>
  .act .readCounters fun counters =>
    .perform (.respond (.json .ok counters.toJson)) .succeed

def members (names : List String) (value? : String -> Option String) : Json :=
  Json.sorted (.object (names.map fun name => (name, .optional (value? name))))

/-- Answers with what it was given: the request with the named headers and parameters, the claims
and whether the request was marked as started. -/
def echo (label : Option String) (headers params : List String) : Handler := fun passage =>
  let request := passage.request
  .act .readStarted fun started =>
    let value := Json.sorted (.object [
      ("label", .optional label),
      ("method", .text request.method.name),
      ("path", .text request.path),
      ("query", .optional request.query),
      ("path_and_query", .text request.pathAndQuery),
      ("headers", members headers request.header),
      ("params", members params request.param),
      ("body", .text (Request.textOf request.body)),
      ("body_len", .nat request.body.length),
      ("claims", .optional (passage.claims.map Claims.subject)),
      ("started", .bool started.isSome),
      ("remote", .optional (request.remote.map SocketAddress.host))])
    .perform (.respond (.json .ok value)) .succeed

end Handler

end HttpService
