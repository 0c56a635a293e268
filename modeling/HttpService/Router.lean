import HttpService.Pipeline.World
import HttpService.Route.Tree
/-! # Routers

Routes by method and path, each with a handler that all layers were wrapped around when the route
was added. `Router.dispatch` answers a request: it runs the handler of the matching route on a fresh
exchange and then settles the outcome, asking for a shutdown if that is what the outcome wants. -/
set_option autoImplicit false

namespace HttpService

/-- Routes by method, with the layers around every route. -/
structure Router where
  layers : List Layer := []
  routes : Dictionary (Node Handler) := .empty

namespace Router

/-- Adds a route with layers of its own inside the layers of the router. -/
def add (router : Router) (method : Method) (path : String) (layers : List Layer)
    (handler : Handler) : Except RouteError Router := do
  let whole := compose router.layers (compose layers handler)
  let tree := (router.routes.find? method.name).getD {}
  return { router with routes := router.routes.insert method.name (← tree.insert path whole) }

/-- The handler for a request, with what its path captured. -/
def find? (router : Router) (request : Request) : Option (Handler × List (String × String)) := do
  let tree ← router.routes.find? request.method.name
  let found ← tree.lookup request.uri.path
  return (found.value,
    found.params.map fun (name, value) => (Request.textOf name, Request.textOf value))

/-- How the dispatch of a request ends. -/
inductive Reply where
  | response (response : Response)
  | panicked (payload : PanicPayload)
  /-- The time for the request ran out. -/
  | cutOff
deriving Inhabited

/-- What is answered when nothing was written. -/
def fallback : Response :=
  Response.json .internalServerError (ErrorBody.toJson ⟨"Internal Server Error", none⟩)

/-- Deals with a failure that left the chain. Only one that asks for a shutdown, and was not caused
by the peer dropping the connection, is signalled. -/
def settleFailure (failure : Failure) (world : World) : World :=
  if failure.isShutdown then
    if failure.losesConnection then world.addLog (.connectionLost failure)
    else ((world.addLog (.integrityLost failure)).signal (.integrity failure.display)).2
  else world.addLog (.escaped failure)

/-- Takes the response that was written. -/
def deliver (world : World) : Response × World :=
  let (response, exchange) := world.exchange.takeResponse
  let world := { world with exchange }
  match response with
  | some response => (response, world)
  | none => (fallback, world.addLog .unanswered)

def settle (outcome : Outcome) (world : World) : Response × World :=
  match outcome with
  | .ok () => deliver world
  | .error failure => deliver (settleFailure failure world)

/-- The state in which the chain of a request is called: on an exchange of its own, under the next
identifier. -/
def received (world : World) : World :=
  { world with
    exchange := { trace := world.traces 0 }
    elapsed := 0
    traces := fun later => world.traces (later + 1) }

def dispatch (router : Router) (limit : Option Nat) (request : Request) (world : World) :
    Reply × World :=
  match router.find? request with
  | none => (.response (.bare .notFound), world)
  | some (handler, params) =>
      match (handler ⟨none, { request with params }⟩).run limit (received world) with
      | (.ended (.returned outcome), world) =>
          let (response, world) := settle outcome world
          (.response response, world)
      | (.ended (.panicked payload), world) => (.panicked payload, world)
      | (.cutOff, world) => (.cutOff, world)

end Router

end HttpService
