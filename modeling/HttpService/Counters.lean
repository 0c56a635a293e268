import HttpService.Json.Value
/-! # Counters

Totals over the life of the process, and the number of live tasks when it was last sampled. -/
set_option autoImplicit false

namespace HttpService

inductive Counter where
  | requests
  | errors
  | panics
deriving DecidableEq, Inhabited

structure Counters where
  requests : Nat := 0
  errors : Nat := 0
  panics : Nat := 0
  tasks : Nat := 0
deriving DecidableEq, Inhabited

namespace Counters

def total (counters : Counters) : Counter -> Nat
  | .requests => counters.requests
  | .errors => counters.errors
  | .panics => counters.panics

def increment (counters : Counters) : Counter -> Counters
  | .requests => { counters with requests := counters.requests + 1 }
  | .errors => { counters with errors := counters.errors + 1 }
  | .panics => { counters with panics := counters.panics + 1 }

/-- Notes how many tasks are alive, where that can be known. -/
def sample (counters : Counters) (live : Option Nat) : Counters :=
  match live with
  | some tasks => { counters with tasks }
  | none => counters

def toJson (counters : Counters) : Json :=
  .object [("requests", .nat counters.requests), ("errors", .nat counters.errors),
    ("panics", .nat counters.panics), ("tasks", .nat counters.tasks)]

theorem total_increment (counters : Counters) (counted other : Counter) :
    (counters.increment counted).total other =
      counters.total other + if counted = other then 1 else 0 := by
  cases counted <;> cases other <;> rfl

end Counters

end HttpService
