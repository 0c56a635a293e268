import HttpService.Pipeline.Task
/-! # Running tasks

The state that tasks act on and the run of one task. A run may be limited in time: a pause that ends
after the limit, or a task that never ends, is cut off, and what was done before stays done. -/
set_option autoImplicit false

namespace HttpService

/-- Everything that tasks can see or change. -/
structure World where
  exchange : Exchange := {}
  counters : Counters := {}
  channel : Channel := {}
  /-- Every signal sent, whatever became of it. -/
  sent : List Signal := []
  log : List LogEntry := []
  notes : List String := []
  now : Moment := ⟨1700000000, 0⟩
  /-- How many tasks are alive, where that can be known. -/
  liveTasks : Option Nat := none
  /-- The identifiers of the requests to come. -/
  traces : Nat -> TraceId := fun _ => .random
  /-- Milliseconds spent in pauses. -/
  elapsed : Nat := 0
deriving Inhabited

namespace World

def addLog (world : World) (entry : LogEntry) : World := { world with log := world.log ++ [entry] }

def addNote (world : World) (event : String) : World :=
  { world with notes := world.notes ++ [event] }

/-- Writes a response; one that comes second is reported in the log. -/
def respond (world : World) (response : Response) : Bool × World :=
  match world.exchange.respond response with
  | (true, exchange) => (true, { world with exchange })
  | (false, _) => (false, world.addLog (.dropped response.status))

def perform (world : World) : (action : Action) -> action.Answer × World
  | .respond response => world.respond response
  | .markStarted => ((), { world with exchange := world.exchange.markStarted world.elapsed })
  | .readTrace => (world.exchange.trace, world)
  | .readStarted => (world.exchange.started.map (world.elapsed - ·), world)
  | .readStatus => (world.exchange.status, world)
  | .readClock => (world.now, world)
  | .count counter =>
      let counters := world.counters.increment counter
      (counters.total counter, { world with counters })
  | .sampleTasks => ((), { world with counters := world.counters.sample world.liveTasks })
  | .readCounters => (world.counters, world)
  | .log entry => ((), world.addLog entry)
  | .note event => ((), world.addNote event)
  | .pause milliseconds => ((), { world with elapsed := world.elapsed + milliseconds })

/-- Sends a signal; one that is dropped is reported in the log. -/
def signal (world : World) (signal : Signal) : Sending × World :=
  let (sending, channel) := world.channel.send signal
  (sending,
    { world with
      channel
      sent := world.sent ++ [signal]
      log := world.log ++ LogEntry.ofSending signal sending })

end World

inductive Stop where
  | ended (ending : Ending)
  | cutOff
deriving Inhabited

namespace Task

/-- Runs a task; with a limit, only while no more than so many milliseconds have gone by. -/
def run (limit : Option Nat) : Task Empty -> World -> Stop × World
  | .done ending, world => (.ended ending, world)
  | .act action next, world =>
      let result := world.perform action
      if limit.any (· < result.2.elapsed) then (.cutOff, result.2)
      else (next result.1).run limit result.2
  | .call argument _, _ => argument.elim
  | .stall, world => (.cutOff, world)

end Task

end HttpService
