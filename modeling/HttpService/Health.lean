import HttpService.Pipeline.Task
/-! # Probes

Whether the process is alive, and whether it is ready to serve. -/
set_option autoImplicit false

namespace HttpService.Handler

/-- A body that only names a status. -/
def statusBody (status : String) : Json := .object [("status", .text status)]

def liveness : Handler := .ofResult fun _ => .ok (.json .ok (statusBody "ok"))

/-- Answers once the process can serve. -/
def readiness : Handler := .ofResult fun _ => .ok (.json .ok (statusBody "ready"))

end HttpService.Handler
