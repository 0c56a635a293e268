import HttpService.Proofs.Answers
/-! # What a client does not learn

Two runs of requests, on any routes of one router, are compared by what their clients see. Where
neither chain has written a response, `reply_of_endsUnwritten` reduces the reply to the ending of the
chain. An ending that is `Internal` or `Refused` leads to one response each, whatever messages,
causes and payloads come with it, and `dispatch_withholds` concludes for the two runs. -/
set_option autoImplicit false

namespace HttpService

namespace Ending

/-- The fault lies within the service: it is no longer sound, nobody has classified the failure, or
there was a panic. -/
inductive Internal : Ending -> Prop where
  | shutdown (message : String) (source : Option Cause) :
      Internal (.returned (.error (.shutdown message source)))
  | unclassified (message : String) (source : Option Cause) :
      Internal (.returned (.error (.unclassified message source)))
  | panic (payload : PanicPayload) : Internal (.panicked payload)

inductive Refused : Ending -> Prop where
  | auth (message : String) : Refused (.returned (.error (.auth message)))

theorem Internal.answer_eq {ending : Ending} (inside : ending.Internal) :
    ending.answer = Router.fallback := by
  cases inside with
  | shutdown message source => rfl
  | unclassified message source => rfl
  | panic payload => rfl

def refusal : Response := Response.json .unauthorized (.object [("error", .text "Unauthorized")])

theorem Refused.answer_eq {ending : Ending} (refused : ending.Refused) :
    ending.answer = refusal := by
  cases refused with
  | auth message => rfl

end Ending

namespace Router

structure Visit where
  limit : Option Nat := none
  request : Request
  world : World := {}

namespace Visit

def reply (visit : Visit) (router : Router) : Reply :=
  (router.dispatch visit.limit visit.request visit.world).1

/-- The request matches a route, and what is inside the standard layers comes to this end without
having passed any response to the exchange. -/
def EndsUnwritten (visit : Visit) (routes : List Route) (ending : Ending) : Prop :=
  ∃ route params after, Route.match? routes visit.request = some (route, params) ∧
    let inside := route.inside ⟨none, { visit.request with params }⟩
    inside.run visit.limit (entered visit.request visit.world) = (.ended ending, after) ∧
      inside.offers visit.limit (entered visit.request visit.world) = []

/-- The reply to a chain that came to its end: what it has written, or else what its ending asks
for. -/
theorem reply_of_ended {routes : List Route} {router : Router}
    (built : ofRoutes Layer.standard routes = .ok router) (visit : Visit) {route : Route}
    {params : List (String × String)} {ending : Ending} {after : World}
    (matched : Route.match? routes visit.request = some (route, params))
    (ended : (route.inside ⟨none, { visit.request with params }⟩).run visit.limit
      (entered visit.request visit.world) = (.ended ending, after)) :
    visit.reply router = .response (after.exchange.response.getD ending.answer) := by
  have left := Layer.standardExit_response visit.request.line ending after
  rw [← getD_written? ending, ← left, reply, dispatch_standard built, matched]
  simp only [ended]
  cases ending.recovered with
  | ok done => exact congrArg Reply.response (deliver_response _)
  | error failure => exact congrArg Reply.response (settle_response _ _)

theorem reply_of_endsUnwritten {routes : List Route} {router : Router}
    (built : ofRoutes Layer.standard routes = .ok router) {visit : Visit} {ending : Ending}
    (ends : visit.EndsUnwritten routes ending) :
    visit.reply router = .response ending.answer := by
  obtain ⟨route, params, after, matched, ended, unwritten⟩ := ends
  have held := Task.response_run visit.limit (route.inside ⟨none, { visit.request with params }⟩)
    (entered visit.request visit.world)
  rw [ended, unwritten] at held
  have nothing : after.exchange.response = none := held
  rw [reply_of_ended built visit matched ended, nothing, Option.getD_none]

end Visit

/-- **No internal detail reaches the client.** Of two runs in which no response was written before the
chain failed, those that failed within the service are answered alike, with the fallback, and so are
those in which the caller was refused. -/
theorem dispatch_withholds (routes : List Route) (router : Router)
    (built : ofRoutes Layer.standard routes = .ok router) (first second : Visit)
    (firstEnding secondEnding : Ending) (firstly : first.EndsUnwritten routes firstEnding)
    (secondly : second.EndsUnwritten routes secondEnding) :
    (firstEnding.Internal -> secondEnding.Internal ->
      first.reply router = .response fallback ∧ second.reply router = .response fallback) ∧
    (firstEnding.Refused -> secondEnding.Refused -> ∃ response,
      first.reply router = .response response ∧ second.reply router = .response response) := by
  have firstReply := Visit.reply_of_endsUnwritten built firstly
  have secondReply := Visit.reply_of_endsUnwritten built secondly
  constructor
  · intro firstInside secondInside
    rw [firstReply, secondReply, firstInside.answer_eq, secondInside.answer_eq]
    exact ⟨rfl, rfl⟩
  · intro firstRefused secondRefused
    rw [firstReply, secondReply, firstRefused.answer_eq, secondRefused.answer_eq]
    exact ⟨Ending.refusal, rfl, rfl⟩

def routeTo (path : String) (layers : List Layer) (handler : Handler) : Route where
  method := .get
  path
  layers
  handler

def unsoundRoute : Route := routeTo "/unsound" [] fun _ =>
  .fail (.shutdown "disk" (some (.because "block 7" (.system 5))))

def panickingRoute : Route := routeTo "/panics" [] fun _ => .panic (.text "secret")

def tokenRoute : Route := routeTo "/tokens" [Layer.authenticate { keys := .empty }] fun _ => .succeed

def adminRoute : Route := routeTo "/admins" [Layer.authorize .adminOnly] fun _ => .succeed

def faultyRoutes : List Route := [unsoundRoute, panickingRoute, tokenRoute, adminRoute]

def visitTo (path : String) : Visit where
  request := .get path

theorem dispatch_withholds_faulty : ∃ router,
    ofRoutes Layer.standard faultyRoutes = .ok router ∧
      (visitTo "/unsound").reply router = (visitTo "/panics").reply router ∧
      (visitTo "/tokens").reply router = (visitTo "/admins").reply router := by
  obtain ⟨router, built⟩ : ∃ router, ofRoutes Layer.standard faultyRoutes = .ok router := ⟨_, rfl⟩
  refine ⟨router, built, ?_, ?_⟩
  · have unsound : (visitTo "/unsound").EndsUnwritten faultyRoutes
        (.returned (.error (.shutdown "disk" (some (.because "block 7" (.system 5)))))) :=
      ⟨unsoundRoute, [], entered (visitTo "/unsound").request {}, rfl, rfl, rfl⟩
    have panics : (visitTo "/panics").EndsUnwritten faultyRoutes (.panicked (.text "secret")) :=
      ⟨panickingRoute, [], entered (visitTo "/panics").request {}, rfl, rfl, rfl⟩
    have replies := (dispatch_withholds faultyRoutes router built _ _ _ _ unsound panics).1
      (.shutdown _ _) (.panic _)
    exact replies.1.trans replies.2.symm
  · have noToken : (visitTo "/tokens").EndsUnwritten faultyRoutes
        (.returned (.error (.auth ("authenticate: failed: " ++ AuthFault.scheme.message)))) :=
      ⟨tokenRoute, [], entered (visitTo "/tokens").request {}, rfl, rfl, rfl⟩
    have noClaims : (visitTo "/admins").EndsUnwritten faultyRoutes (.returned (.error
        (.auth "authorize: you are not authorized for that action, no claims"))) :=
      ⟨adminRoute, [], entered (visitTo "/admins").request {}, rfl, rfl, rfl⟩
    obtain ⟨response, first, second⟩ :=
      (dispatch_withholds faultyRoutes router built _ _ _ _ noToken noClaims).2 (.auth _) (.auth _)
    exact first.trans second.symm

end Router

end HttpService
