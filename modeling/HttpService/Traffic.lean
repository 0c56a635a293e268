import HttpService.Router
/-! # Requests at the same time

Any number of requests in progress at once. Each has an exchange of its own and shares everything
else; in a step one of them performs its next action, or settles the outcome of its chain. A request
that goes on by itself, from `Progress.start`, takes the same steps as `Router.dispatch`. -/
set_option autoImplicit false

namespace HttpService

inductive Progress where
  | running (task : Task Empty) (exchange : Exchange)
  | answered (reply : Router.Reply)
deriving Inhabited

namespace Progress

def start (router : Router) (request : Request) (world : World) : Progress × World :=
  match router.find? request with
  | none => (.answered (.response (.bare .notFound)), world)
  | some (handler, params) =>
      (.running (handler ⟨none, { request with params }⟩) (Router.received world).exchange,
        { world with traces := (Router.received world).traces })

def advance (progress : Progress) (world : World) : Progress × World :=
  match progress with
  | .answered reply => (.answered reply, world)
  | .running task exchange =>
      let world := { world with exchange }
      match task with
      | .stall => (.running .stall exchange, world)
      | .call argument _ => argument.elim
      | .act action next =>
          let (answer, world) := world.perform action
          (.running (next answer) world.exchange, world)
      | .done (.panicked payload) => (.answered (.panicked payload), world)
      | .done (.returned outcome) =>
          let (response, world) := Router.settle outcome world
          (.answered (.response response), world)

def isAnswered : Progress -> Bool
  | .answered _ => true
  | .running _ _ => false

end Progress

structure Traffic where
  world : World := {}
  requests : List Progress := []
deriving Inhabited

namespace Traffic

def enter (router : Router) (traffic : Traffic) (request : Request) : Traffic :=
  let (progress, world) := Progress.start router request traffic.world
  { world, requests := traffic.requests ++ [progress] }

def step (traffic : Traffic) (request : Nat) : Traffic :=
  match traffic.requests[request]? with
  | none => traffic
  | some progress =>
      let (progress, world) := progress.advance traffic.world
      { world, requests := traffic.requests.set request progress }

/-- Lets requests go further in the given order. -/
def run (traffic : Traffic) (order : List Nat) : Traffic := order.foldl step traffic

def isSettled (traffic : Traffic) : Bool := traffic.requests.all Progress.isAnswered

end Traffic

end HttpService
