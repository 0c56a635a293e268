import HttpService.Failure.Cause
import HttpService.Http.Response
/-! # Failures

What a handler or a layer reports instead of a response: one of five kinds. `Failure.classify` says
what the client sees of each. Only a request failure shows its own text and only a validation
failure its fields; the others show nothing but the reason of their status. -/
set_option autoImplicit false

namespace HttpService

structure FieldError where
  field : String
  error : String
deriving DecidableEq, Inhabited

structure FieldErrors where
  entries : List FieldError
  nonempty : entries ≠ []
deriving DecidableEq

namespace FieldErrors

def single (entry : FieldError) : FieldErrors := ⟨[entry], by simp⟩

instance : Inhabited FieldErrors := ⟨single default⟩

def ofList? (entries : List FieldError) : Option FieldErrors :=
  if nonempty : entries = [] then none else some ⟨entries, nonempty⟩

def push (errors : FieldErrors) (entry : FieldError) : FieldErrors :=
  ⟨errors.entries ++ [entry], by simp⟩

theorem entries_push (errors : FieldErrors) (entry : FieldError) :
    (errors.push entry).entries = errors.entries ++ [entry] := rfl

/-- The first field and the others, pushed in order. -/
def ofCons (first : FieldError) (rest : List FieldError) : FieldErrors :=
  rest.foldl push (single first)

def display (errors : FieldErrors) : String :=
  "data validation error: "
    ++ ", ".intercalate (errors.entries.map fun entry => entry.field ++ ": " ++ entry.error)

def toJson (errors : FieldErrors) : Json :=
  .array (errors.entries.map fun entry =>
    .object [("field", .text entry.field), ("error", .text entry.error)])

end FieldErrors

/-- Why a request has no response of its own. -/
inductive Failure where
  /-- The client's input broke declared constraints. -/
  | validation (fields : FieldErrors)
  /-- A status and a text meant for the client. -/
  | request (status : Status) (message : String)
  /-- Authentication or authorization failed. -/
  | auth (message : String)
  /-- The process is no longer fit to serve. -/
  | shutdown (message : String) (source : Option Cause)
  /-- Anything else, recovered panics among it. -/
  | unclassified (message : String) (source : Option Cause)
deriving DecidableEq, Inhabited

structure ErrorBody where
  error : String
  fields : Option FieldErrors
deriving DecidableEq

def ErrorBody.toJson (body : ErrorBody) : Json :=
  .object (("error", .text body.error) ::
    (body.fields.map fun fields => ("fields", fields.toJson)).toList)

namespace Failure

/-- A failure that is only known by its cause. -/
def internal (cause : Cause) : Failure := .unclassified cause.display (some cause)

def display : Failure -> String
  | .validation fields => fields.display
  | .request _ message => message
  | .auth message => message
  | .shutdown message _ => message
  | .unclassified message _ => message

def kind : Failure -> String
  | .validation _ => "validation"
  | .request _ _ => "request"
  | .auth _ => "auth"
  | .shutdown _ _ => "shutdown"
  | .unclassified _ _ => "unclassified"

def isShutdown : Failure -> Bool
  | .shutdown _ _ => true
  | _ => false

/-- The causes behind a failure, nearest first. -/
def sources : Failure -> List Cause
  | .shutdown _ (some source) => source.chain
  | .unclassified _ (some source) => source.chain
  | _ => []

/-- The failure as the cause of another: its text with its own causes behind it. -/
def toCause (failure : Failure) : Cause :=
  match failure with
  | .shutdown message (some source) => .because message source
  | .unclassified message (some source) => .because message source
  | other => .plain other.display

/-- Was this caused by the peer dropping the connection? -/
def losesConnection : Failure -> Bool
  | .shutdown _ (some source) => source.losesConnection
  | _ => false

/-- What a recovered panic becomes. The place where it was raised is withheld. -/
def recovered (value : String) : Failure :=
  internal (.plain ("PANIC [" ++ value ++ "] TRACE[..]"))

/-- The reason of a status as the only text. -/
def generic (status : Status) : Status × ErrorBody :=
  (status, ⟨status.reason?.getD "Error", none⟩)

def classify : Failure -> Status × ErrorBody
  | .validation fields => (.badRequest, ⟨"data validation error", some fields⟩)
  | .request status message => (status, ⟨message, none⟩)
  | .auth _ => generic .unauthorized
  | .shutdown _ _ => generic .internalServerError
  | .unclassified _ _ => generic .internalServerError

def response (failure : Failure) : Response :=
  Response.json failure.classify.1 failure.classify.2.toJson

def panicMark : Bytes := Bytes.ofText "PANIC ["

/-- What separates a panic's value from its trace. -/
def traceMark : Bytes := Bytes.ofText "] TRACE["

/-- A text with the trace of a panic cut out of it. -/
def withoutTrace (text : String) : String :=
  let bytes := Bytes.ofText text
  if panicMark.isPrefixOf bytes then
    match Bytes.splitAt? traceMark bytes with
    | some (before, _) =>
        (Bytes.toText? (before ++ traceMark ++ Bytes.ofText "..]")).getD text
    | none => text
  else text

/-- The failure's text as it is reported, without the trace of a panic. -/
def report (failure : Failure) : String := withoutTrace failure.display

end Failure

end HttpService
