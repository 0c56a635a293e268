import HttpService.Auth.Claims
import HttpService.Http.Response
/-! # Exchanges

What is recorded about one request while it is answered. The first response written is the one that
is sent; later ones are dropped. The status stays readable after the response was taken for
sending. -/
set_option autoImplicit false

namespace HttpService

/-- The identifier under which a request is traced. -/
inductive TraceId where
  | random
  | given (text : String)
deriving DecidableEq, Inhabited

/-- The values that all handles of one request share. -/
structure Exchange where
  trace : TraceId := .random
  /-- When the request began, in milliseconds. -/
  started : Option Nat := none
  status : Option Status := none
  response : Option Response := none
deriving DecidableEq, Inhabited

namespace Exchange

/-- Writes a response unless one is stored. Says whether this one was. -/
def respond (exchange : Exchange) (response : Response) : Bool × Exchange :=
  match exchange.response with
  | some _ => (false, exchange)
  | none => (true, { exchange with status := some response.status, response := some response })

/-- Notes when the request began, unless that was noted before. -/
def markStarted (exchange : Exchange) (moment : Nat) : Exchange :=
  { exchange with started := exchange.started.or (some moment) }

def takeResponse (exchange : Exchange) : Option Response × Exchange :=
  (exchange.response, { exchange with response := none })

def isWritten (exchange : Exchange) : Bool := exchange.status.isSome

end Exchange

/-- A handle on an exchange, which it names by number, with claims of its own. -/
structure Handle where
  exchange : Nat
  claims : Option Claims
deriving DecidableEq, Inhabited

/-- Any number of exchanges and of handles on them. -/
structure Exchanges where
  exchanges : List Exchange := []
  handles : List Handle := []
deriving DecidableEq, Inhabited

namespace Exchanges

/-- Starts an exchange and adds a handle on it. -/
def begin (state : Exchanges) (trace : TraceId) : Exchanges :=
  { exchanges := state.exchanges ++ [{ trace }]
    handles := state.handles ++ [⟨state.exchanges.length, none⟩] }

/-- Adds a handle on the same exchange, with the same claims. -/
def clone? (state : Exchanges) (handle : Nat) : Option Exchanges :=
  state.handles[handle]?.map fun found => { state with handles := state.handles ++ [found] }

/-- Adds a handle on the same exchange, with these claims. -/
def withClaims? (state : Exchanges) (handle : Nat) (claims : Claims) : Option Exchanges :=
  state.handles[handle]?.map fun found =>
    { state with handles := state.handles ++ [{ found with claims := some claims }] }

def exchangeOf? (state : Exchanges) (handle : Nat) : Option Exchange := do
  state.exchanges[(← state.handles[handle]?).exchange]?

def markStarted? (state : Exchanges) (handle moment : Nat) : Option Exchanges := do
  let found ← state.handles[handle]?
  return { state with
    exchanges := state.exchanges.modify found.exchange fun exchange =>
      exchange.markStarted moment }

def respond? (state : Exchanges) (handle : Nat) (response : Response) :
    Option (Bool × Exchanges) := do
  let found ← state.handles[handle]?
  let exchange ← state.exchanges[found.exchange]?
  let (won, exchange) := exchange.respond response
  return (won, { state with exchanges := state.exchanges.set found.exchange exchange })

/-- Takes the response that was written on this handle or another one on the same exchange. -/
def takeResponse? (state : Exchanges) (handle : Nat) : Option (Option Response × Exchanges) := do
  let found ← state.handles[handle]?
  let exchange ← state.exchanges[found.exchange]?
  let (response, exchange) := exchange.takeResponse
  return (response, { state with exchanges := state.exchanges.set found.exchange exchange })

end Exchanges

/-- What is done with handles, each named by its number in the order in which they were made. -/
inductive HandleOperation where
  | begin (trace : TraceId)
  | clone (handle : Nat)
  | withClaims (handle : Nat) (claims : Claims)
  | markStarted (handle moment : Nat)
  | respond (handle : Nat) (response : Response)
deriving DecidableEq

/-- Does one operation on a handle that there is. Only writing a response has an answer. -/
def Exchanges.perform? (state : Exchanges) : HandleOperation -> Option (Option Bool × Exchanges)
  | .begin trace => some (none, state.begin trace)
  | .clone handle => (state.clone? handle).map (none, ·)
  | .withClaims handle claims => (state.withClaims? handle claims).map (none, ·)
  | .markStarted handle moment => (state.markStarted? handle moment).map (none, ·)
  | .respond handle response =>
      (state.respond? handle response).map fun (won, next) => (some won, next)

end HttpService
