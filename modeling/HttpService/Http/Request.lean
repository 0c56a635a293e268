import HttpService.Address
import HttpService.Http.Header
import HttpService.Http.Uri
/-! # Requests

A request with its body read in full. `Request.Draft.build` checks method, target and headers of a
request that is still text, in this order, and reports the first fault. -/
set_option autoImplicit false

namespace HttpService

/-- An incoming request. `params` holds what the matched route captured. -/
structure Request where
  method : Method
  uri : Uri
  headers : Headers
  body : Bytes
  params : List (String × String) := []
  remote : Option SocketAddress := none
deriving DecidableEq, Inhabited

namespace Request

def textOf (bytes : Bytes) : String := (Bytes.toText? bytes).getD ""

def path (request : Request) : String := textOf request.uri.path

def query (request : Request) : Option String := request.uri.query.map textOf

def pathAndQuery (request : Request) : String := textOf request.uri.pathAndQuery

/-- The first value of a header, when it is visible text. -/
def header (request : Request) (name : String) : Option String := request.headers.getText? name

def param (request : Request) (name : String) : Option String :=
  (request.params.reverse.find? fun param => param.1 == name).map Prod.snd

/-- A request as text, before it is checked. -/
structure Draft where
  method : String
  uri : String
  headers : List (String × String)
  body : Bytes

/-- Why a draft is no request. -/
inductive DraftError where
  | method
  | uri (reason : UriError)
  | headerName
  | headerValue
deriving DecidableEq

def DraftError.message : DraftError -> String
  | .method => "invalid HTTP method"
  | .uri reason => reason.message
  | .headerName => "invalid HTTP header name"
  | .headerValue => "failed to parse header value"

/-- Adds the headers of a draft in order. -/
def addHeaders (headers : Headers) : List (String × String) -> Except DraftError Headers
  | [] => pure headers
  | (name, value) :: rest =>
      match headerName? name with
      | none => throw .headerName
      | some stored =>
          let bytes := Bytes.ofText value
          if isHeaderValue bytes then addHeaders (headers.append stored bytes) rest
          else throw .headerValue

def Draft.build (draft : Draft) : Except DraftError Request := do
  let method ← match Method.parse? draft.method with
    | some method => pure method
    | none => throw DraftError.method
  let uri ← match Uri.parse draft.uri with
    | .ok uri => pure uri
    | .error reason => throw (DraftError.uri reason)
  let headers ← addHeaders .empty draft.headers
  return { method, uri, headers, body := draft.body }

end Request

end HttpService
