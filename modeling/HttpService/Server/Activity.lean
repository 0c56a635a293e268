/-! # Connection activity

Which requests are in flight on one connection, and the wait for the connection to have been quiet
for long enough. The wait sleeps; whenever it wakes it looks at the activity and either ends or goes
back to sleep. Times are whole milliseconds since the connection was opened, and a sleep ends
exactly when it was set to. -/
set_option autoImplicit false

namespace HttpService

/-- How many requests are in flight, and when one last began or ended. -/
structure Activity where
  inFlight : Nat := 0
  last : Nat := 0
deriving DecidableEq, Inhabited

namespace Activity

def begin (activity : Activity) (now : Nat) : Activity :=
  { inFlight := activity.inFlight + 1, last := now }

def finish (activity : Activity) (now : Nat) : Activity :=
  { inFlight := activity.inFlight - 1, last := now }

end Activity

inductive IdleWait where
  | sleeping (wake : Nat)
  | over (moment : Nat)
deriving DecidableEq, Inhabited

/-- Looks at the activity. While a request is in flight the wait sleeps for the whole timeout,
otherwise for what is left of it. -/
def IdleWait.look (timeout now : Nat) (activity : Activity) : IdleWait :=
  if 0 < activity.inFlight then .sleeping (now + timeout)
  else
    let left := timeout - (now - activity.last)
    if 0 < left then .sleeping (now + left) else .over now

/-- A connection as far as idleness is concerned. `live` are the requests in flight by number, and
`count` how many were begun. -/
structure IdleWatch where
  timeout : Nat
  now : Nat
  activity : Activity
  live : List Nat
  count : Nat
  wait : IdleWait
deriving DecidableEq

inductive ConnectionEvent where
  | begin
  | finish (request : Nat)
  /-- A millisecond goes by. -/
  | tick
deriving DecidableEq

namespace IdleWatch

def start (timeout : Nat) : IdleWatch :=
  { timeout, now := 0, activity := {}, live := [], count := 0, wait := .look timeout 0 {} }

/-- The wait after its sleep, if it is over by now. -/
def awaken (watch : IdleWatch) : IdleWait :=
  match watch.wait with
  | .sleeping wake =>
      if wake ≤ watch.now then .look watch.timeout watch.now watch.activity else .sleeping wake
  | .over moment => .over moment

def tick (watch : IdleWatch) : IdleWatch :=
  let later := { watch with now := watch.now + 1 }
  { later with wait := later.awaken }

/-- Only a request that is in flight can end. -/
def step (watch : IdleWatch) : ConnectionEvent -> IdleWatch
  | .begin =>
      { watch with
        activity := watch.activity.begin watch.now
        live := watch.live ++ [watch.count]
        count := watch.count + 1 }
  | .finish request =>
      if request ∈ watch.live then
        { watch with
          activity := watch.activity.finish watch.now
          live := watch.live.erase request }
      else watch
  | .tick => watch.tick

def run (watch : IdleWatch) (events : List ConnectionEvent) : IdleWatch := events.foldl step watch

end IdleWatch

end HttpService
