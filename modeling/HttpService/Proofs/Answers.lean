import HttpService.Proofs.Indifference
import HttpService.Proofs.Registration
import HttpService.Proofs.StandardLayers
/-! # The answer to a request

What a router with the standard layers answers, whatever the layers of its routes and their handlers
do. `settle_response` follows the response from the exchange to the reply, `standardExit_response`
says what the four layers add to it, and `dispatch_answer` puts them together: the first response
written inside wins, then the classified failure, then the fallback. -/
set_option autoImplicit false

namespace HttpService

/-- The response to a chain that wrote none, by how it ended inside Panics. -/
def Ending.answer : Ending -> Response
  | .returned (.ok ()) =>
      Response.json .internalServerError (.object [("error", .text "Internal Server Error")])
  | .returned (.error failure) =>
      Response.json failure.classify.1 failure.classify.2.toJson
  | .panicked payload =>
      let failure := Failure.recovered payload.value
      Response.json failure.classify.1 failure.classify.2.toJson

namespace Layer

def written? (ending : Ending) : Option Response :=
  match ending.recovered with
  | .ok () => none
  | .error failure => some failure.response

/-- The standard layers never end in a panic, and what they hand on is a shutdown or nothing. -/
theorem standardExit_ending (line : RequestLine) (ending : Ending) (world : World) :
    (standardExit line ending world).1 =
      .returned (match ending.recovered with
        | .ok () => .ok ()
        | .error failure => remaining failure) := by
  rcases ending with ⟨_ | _⟩ | payload <;> rfl

theorem standardExit_response (line : RequestLine) (ending : Ending) (world : World) :
    (standardExit line ending world).2.exchange.response =
      world.exchange.response.or (written? ending) := by
  have answered (failure : Failure) (state : World)
      (same : state.exchange = world.exchange) :
      ((state.addLog (.failed failure)).respond failure.response).2.exchange.response =
        world.exchange.response.or (some failure.response) := by
    rw [← same]
    exact Task.response_perform (state.addLog (.failed failure)) (.respond failure.response)
  rcases ending with ⟨failure | done⟩ | payload
  · exact answered failure _ (metricsExit_exchange (.returned (.error failure)) world)
  · simp only [written?, Ending.recovered, Option.or_none]
    exact congrArg Exchange.response (exchange_countRequest world)
  · exact answered (Failure.recovered payload.value) _
      (metricsExit_exchange (.returned (.error (Failure.recovered payload.value)))
        (countPanic world))

end Layer

namespace Router

theorem settleFailure_exchange (failure : Failure) (world : World) :
    (settleFailure failure world).exchange = world.exchange := by
  have same := congrArg World.exchange (settleFailure_apart failure world)
  exact same

theorem deliver_response (world : World) :
    (deliver world).1 = world.exchange.response.getD fallback := by
  simp only [deliver, Exchange.takeResponse]
  cases world.exchange.response <;> rfl

/-- The response in the exchange is the one delivered. -/
theorem settle_response (outcome : Outcome) (world : World) :
    (settle outcome world).1 = world.exchange.response.getD fallback := by
  cases outcome with
  | ok done => exact deliver_response world
  | error failure =>
      simp only [settle]
      rw [deliver_response, settleFailure_exchange]

/-- What the standard layers write and the fallback come to the answer. -/
theorem getD_written? (ending : Ending) (first : Option Response) :
    (first.or (Layer.written? ending)).getD fallback = first.getD ending.answer := by
  cases first with
  | some response => rfl
  | none => rcases ending with ⟨failure | done⟩ | payload <;> rfl

theorem received_inTime (limit : Option Nat) (world : World) : (received world).InTime limit := by
  cases limit <;> simp [World.InTime, received]

/-- The state in which what is inside the standard layers starts. -/
def entered (request : Request) (world : World) : World :=
  Layer.loggerEntry request.line (received world)

/-- A dispatch to a standard route in terms of the run of what is inside. -/
theorem dispatch_standard {routes : List Route} {router : Router}
    (built : ofRoutes Layer.standard routes = .ok router) (limit : Option Nat)
    (request : Request) (world : World) :
    router.dispatch limit request world =
      match Route.match? routes request with
      | none => (.response (.bare .notFound), world)
      | some (route, params) =>
          match (route.inside ⟨none, { request with params }⟩).run limit
            (entered request world) with
          | (.cutOff, after) => (.cutOff, after)
          | (.ended ending, after) =>
              let left := (Layer.standardExit request.line ending after).2
              match ending.recovered with
              | .ok () => (.response (deliver left).1, (deliver left).2)
              | .error failure =>
                  let settled := settle (Layer.remaining failure) left
                  (.response settled.1, settled.2) := by
  simp only [dispatch, find?_ofRoutes built]
  cases Route.match? routes request with
  | none => rfl
  | some found =>
      obtain ⟨route, params⟩ := found
      simp only [Option.map_some, Route.whole]
      have whole : (compose Layer.standard route.inside ⟨none, { request with params }⟩).run limit
            (received world) =
          Layer.leave (Layer.standardExit request.line)
            ((route.inside ⟨none, { request with params }⟩).run limit (entered request world)) :=
        Layer.run_standard limit route.inside _ _ (received_inTime limit world)
      rw [whole]
      cases (route.inside ⟨none, { request with params }⟩).run limit (entered request world) with
      | mk stop after =>
          cases stop with
          | cutOff => rfl
          | ended ending =>
              simp only [Layer.leave, Layer.standardExit_ending]
              cases ending.recovered with
              | ok done => rfl
              | error failure => rfl

end Router

end HttpService
