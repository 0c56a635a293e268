import HttpService.Http.Header
import HttpService.Http.Status
import HttpService.Json.Printer
/-! # Responses

A response is a status, headers and a body. A response without content never carries a body:
`Response.json` drops the value it is given for that status. -/
set_option autoImplicit false

namespace HttpService

structure Response where
  status : Status
  headers : Headers
  body : Bytes
deriving DecidableEq, Inhabited

namespace Response

def bare (status : Status) : Response := ⟨status, .empty, []⟩

def jsonBytes (status : Status) (body : Bytes) : Response :=
  ⟨status, Headers.empty.append "content-type" (Bytes.ofText "application/json"), body⟩

/-- A response whose body is the text of a value. -/
def json (status : Status) (value : Json) : Response :=
  if status = Status.noContent then bare status else jsonBytes status value.encode

def bodyText (response : Response) : String := (Bytes.toText? response.body).getD ""

end Response

end HttpService
