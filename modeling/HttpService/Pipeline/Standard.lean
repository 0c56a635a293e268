import HttpService.Auth.Rule
import HttpService.Auth.Verifier
import HttpService.Pipeline.Task
/-! # Layers

The layers of every service. `Layer.logger` reports the beginning and the end of a request,
`Layer.errors` turns failures into responses, `Layer.metrics` counts, `Layer.panics` turns panics
into failures; `Layer.authenticate` attaches verified claims and `Layer.authorize` checks them. -/
set_option autoImplicit false

namespace HttpService.Layer

/-- Reports a request when it comes in and when it is done. -/
def logger : Layer := fun passage =>
  let line := passage.request.line
  .perform .markStarted <| .perform (.log (.started line)) <|
    .forward passage fun outcome =>
      .act .readStatus fun status =>
        .perform (.log (.completed line status)) (.done (.returned outcome))

/-- Answers a failure. Only one that asks for a shutdown is handed on. -/
def errors : Layer := fun passage =>
  .forward passage fun outcome =>
    match outcome with
    | .ok () => .succeed
    | .error failure =>
        .perform (.log (.failed failure)) <| .perform (.respond failure.response) <|
          if failure.isShutdown then .fail failure else .succeed

/-- How many requests pass between two samples of the live tasks. -/
def sampleEvery : Nat := 1000

/-- Counts requests that come back, and those that come back with a failure. -/
def metrics : Layer := fun passage =>
  .forward passage fun outcome =>
    .act (.count .requests) fun total =>
      let ending := match outcome with
        | .ok () => .succeed
        | .error failure => .perform (.count .errors) (.fail failure)
      if total % sampleEvery = 0 then .perform .sampleTasks ending else ending

def panics : Layer := fun passage =>
  .call passage fun ending =>
    match ending with
    | .returned outcome => .done (.returned outcome)
    | .panicked payload =>
        .perform (.count .panics) (.fail (Failure.recovered payload.value))

def standard : List Layer := [logger, errors, metrics, panics]

/-- The name of the header that carries a token. -/
def authorizationHeader : String := "authorization"

/-- Verifies the token of a request and attaches its claims. A header that is missing or not visible
text counts as empty. -/
def authenticate (verifier : Verifier) : Layer := fun passage =>
  .act .readClock fun now =>
    match verifier.authenticate now ((passage.request.header authorizationHeader).getD "") with
    | .error fault => .fail (.auth ("authenticate: failed: " ++ fault.message))
    | .ok claims => .proceed { passage with claims := some claims }

/-- Checks the claims attached further out against a rule; without claims nothing passes. -/
def authorize (rule : Rule) : Layer := fun passage =>
  match passage.claims with
  | none => .fail (.auth "authorize: you are not authorized for that action, no claims")
  | some claims =>
      match rule.authorize claims none with
      | .error refusal => .fail (.auth ("authorize: rule[" ++ rule.name ++ "]: " ++ refusal))
      | .ok () => .proceed passage

end HttpService.Layer
