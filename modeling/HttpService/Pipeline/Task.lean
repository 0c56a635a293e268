import HttpService.Counters
import HttpService.Exchange
import HttpService.LogEntry
/-! # Tasks

What a handler or a layer does with a request, as a tree: at each node one action is performed on
the shared state and the answer decides how to go on. A task ends with an outcome or in a panic, or
it never ends. A task of a layer may also call what the layer is wrapped around; `Task.plug` puts
the inner handler's task in the place of every call. -/
set_option autoImplicit false

namespace HttpService

/-- What a handler or a layer reports: nothing, once the request is answered, or a failure. -/
abbrev Outcome := Except Failure Unit

inductive PanicPayload where
  | text (message : String)
  | other
deriving DecidableEq, Inhabited

/-- The value that is reported for a recovered panic. -/
def PanicPayload.value : PanicPayload -> String
  | .text message => message
  | .other => "non-string panic payload"

/-- How a task ends. -/
inductive Ending where
  | returned (outcome : Outcome)
  | panicked (payload : PanicPayload)
deriving Inhabited

/-- One step on the state that a request shares with others, or with its own other handles. -/
inductive Action where
  /-- Writes the response; the answer is whether this was the first. -/
  | respond (response : Response)
  /-- The answer is the identifier of the request. -/
  | readTrace
  | markStarted
  /-- The answer is how many milliseconds ago the request was marked as started, if it was. -/
  | readStarted
  /-- The answer is the status of the response written. -/
  | readStatus
  /-- The answer is what the clock shows. -/
  | readClock
  /-- The answer is the new total. -/
  | count (counter : Counter)
  | sampleTasks
  | readCounters
  | log (entry : LogEntry)
  /-- Leaves a note for an observer. -/
  | note (event : String)
  | pause (milliseconds : Nat)

abbrev Action.Answer : Action -> Type
  | .respond _ => Bool
  | .readTrace => TraceId
  | .readStarted => Option Nat
  | .readStatus => Option Status
  | .readClock => Moment
  | .count _ => Nat
  | .readCounters => Counters
  | _ => Unit

/-- A task that may make calls of the given type. -/
inductive Task (Call : Type) where
  | done (ending : Ending)
  | act (action : Action) (next : action.Answer -> Task Call)
  | call (argument : Call) (next : Ending -> Task Call)
  /-- Never ends. -/
  | stall

/-- What is passed inwards: the request, and the claims attached on the way. -/
structure Passage where
  claims : Option Claims
  request : Request
deriving Inhabited

abbrev Handler := Passage -> Task Empty

/-- What a layer does around the handler it is wrapped around. -/
abbrev Layer := Passage -> Task Passage

namespace Task

variable {Call : Type}

instance : Inhabited (Task Call) := ⟨stall⟩

/-- Performs an action whose answer does not matter. -/
def perform (action : Action) (next : Task Call) : Task Call := act action fun _ => next

/-- Ends with the request answered. -/
def succeed : Task Call := done (.returned (.ok ()))

/-- Ends with a failure. -/
def fail (failure : Failure) : Task Call := done (.returned (.error failure))

/-- Ends in a panic. -/
def panic (payload : PanicPayload) : Task Call := done (.panicked payload)

/-- Goes on with `next` after a task's end. -/
def andThen (first : Task Empty) (next : Ending -> Task Empty) : Task Empty :=
  match first with
  | .done ending => next ending
  | .act action rest => .act action fun answer => (rest answer).andThen next
  | .call argument _ => argument.elim
  | .stall => .stall

/-- Runs a handler in the place of every call. -/
def plug (inner : Handler) : Task Passage -> Task Empty
  | .done ending => .done ending
  | .act action rest => .act action fun answer => (rest answer).plug inner
  | .call argument rest => (inner argument).andThen fun ending => (rest ending).plug inner
  | .stall => .stall

/-- Calls inwards and goes on after a return; a panic passes through. -/
def forward (passage : Passage) (next : Outcome -> Task Passage) : Task Passage :=
  .call passage fun ending =>
    match ending with
    | .returned outcome => next outcome
    | .panicked payload => .panic payload

/-- Calls inwards and ends as the call does. -/
def proceed (passage : Passage) : Task Passage := .call passage .done

end Task

def Layer.wrap (layer : Layer) (inner : Handler) : Handler := fun passage =>
  (layer passage).plug inner

/-- Wraps layers around a handler, the first one outermost. -/
def compose (layers : List Layer) (handler : Handler) : Handler :=
  layers.foldr Layer.wrap handler

theorem compose_append (outer inner : List Layer) (handler : Handler) :
    compose (outer ++ inner) handler = compose outer (compose inner handler) := by
  simp [compose]

/-- The handler that answers with what `produce` gives, a response or a failure. -/
def Handler.ofResult (produce : Passage -> Except Failure Response) : Handler := fun passage =>
  match produce passage with
  | .ok response => .perform (.respond response) .succeed
  | .error failure => .fail failure

end HttpService
