import HttpService.Proofs.Forgetting
import HttpService.Proofs.Lineage
/-! # The log agrees with the wire

Logger reports that a request came in and that it is done, the latter with the status it finds in
the exchange. `World.Reports` relates two states by the reports written between them; a run writes
those among its actions. Every action keeps the exchange consistent, so the status reported is that
of the response which the dispatcher takes afterwards: `dispatch_reported`. -/
set_option autoImplicit false

namespace HttpService

def LogEntry.isReport : LogEntry -> Bool
  | .started _ => true
  | .completed _ _ => true
  | _ => false

namespace Action

def report? : Action -> Option LogEntry
  | .log entry => if entry.isReport then some entry else none
  | _ => none

def Discreet (action : Action) : Prop := action.report? = none

end Action

/-- Nothing that the layer does itself writes a report. -/
def Layer.Discreet (layer : Layer) : Prop := ∀ passage, (layer passage).Only Action.Discreet

def Handler.Discreet (handler : Handler) : Prop := ∀ passage, (handler passage).Only Action.Discreet

/-- Of the layers of this library just Logger writes reports. -/
theorem Stage.discreet_iff (stage : Stage) : stage.layer.Discreet ↔ stage ≠ .logger := by
  constructor
  · rintro discreet rfl
    have reports := ((discreet default).2 ()).1
    cases reports
  · intro other passage
    cases stage with
    | logger => exact absurd rfl other
    | errors =>
        intro ending
        rcases ending with ⟨failure | done⟩ | payload
        · refine ⟨rfl, fun _ => ⟨rfl, fun _ => ?_⟩⟩
          split <;> trivial
        · trivial
        · trivial
    | metrics =>
        have sampled (ending : Task Passage) (quiet : ending.Only Action.Discreet) (total : Nat) :
            (if total % Layer.sampleEvery = 0 then .perform .sampleTasks ending else ending :
              Task Passage).Only Action.Discreet := by
          split
          · exact ⟨rfl, fun _ => quiet⟩
          · exact quiet
        intro ending
        rcases ending with ⟨failure | done⟩ | payload
        · exact ⟨rfl, sampled _ ⟨rfl, fun _ => trivial⟩⟩
        · exact ⟨rfl, sampled _ trivial⟩
        · trivial
    | panics =>
        intro ending
        cases ending with
        | returned outcome => trivial
        | panicked payload => exact ⟨rfl, fun _ => trivial⟩
    | authenticate verifier =>
        refine ⟨rfl, fun now => ?_⟩
        dsimp only
        split
        · trivial
        · exact fun _ => trivial
    | authorize rule =>
        simp only [layer, Layer.authorize]
        split
        · trivial
        · split
          · trivial
          · exact fun _ => trivial

namespace World

/-- From the first state to the second the log has grown, by these reports among its entries. -/
def Reports (before : World) (reports : List LogEntry) (after : World) : Prop :=
  ∃ entries, after.log = before.log ++ entries ∧ entries.filter LogEntry.isReport = reports

theorem Reports.of_same {before after : World} (same : after.log = before.log) :
    before.Reports [] after :=
  ⟨[], by rw [same, List.append_nil], rfl⟩

theorem Reports.append {before between after : World} {first second : List LogEntry}
    (firstly : before.Reports first between) (secondly : between.Reports second after) :
    before.Reports (first ++ second) after := by
  obtain ⟨early, grown, rfl⟩ := firstly
  obtain ⟨late, grownAgain, rfl⟩ := secondly
  exact ⟨early ++ late, by rw [grownAgain, grown, List.append_assoc], List.filter_append ..⟩

theorem reports_addLog (world : World) (entry : LogEntry) :
    world.Reports (if entry.isReport then [entry] else []) (world.addLog entry) := by
  refine ⟨[entry], rfl, ?_⟩
  cases entry <;> rfl

theorem reports_perform (world : World) (action : Action) :
    world.Reports action.report?.toList (world.perform action).2 := by
  cases action with
  | respond response =>
      simp only [perform, respond]
      split
      · exact .of_same rfl
      · exact reports_addLog world (.dropped response.status)
  | log entry =>
      have logged := reports_addLog world entry
      simp only [Action.report?]
      cases reported : entry.isReport with
      | true => rwa [reported] at logged
      | false => rwa [reported] at logged
  | _ => exact .of_same rfl

end World

theorem Task.reports_run (limit : Option Nat) (task : Task Empty) (world : World) :
    world.Reports ((task.trace limit world).filterMap Action.report?) (task.run limit world).2 := by
  induction task generalizing world with
  | done ending => exact .of_same rfl
  | act action rest ih =>
      have performed := world.reports_perform action
      by_cases late : limit.any (· < (world.perform action).2.elapsed)
      · simp only [run, trace, late, if_true, List.filterMap_cons, List.filterMap_nil]
        cases found : action.report? <;> simpa [found] using performed
      · have onwards := performed.append (ih (world.perform action).1 _)
        simp only [run, trace, late, Bool.false_eq_true, if_false, List.filterMap_cons]
        cases found : action.report? <;> simpa [found] using onwards
  | call argument _ => exact argument.elim
  | stall => exact .of_same rfl

theorem Task.reports_discreet {task : Task Empty} (discreet : task.Only Action.Discreet)
    (limit : Option Nat) (world : World) : world.Reports [] (task.run limit world).2 := by
  have written := task.reports_run limit world
  rwa [List.filterMap_eq_nil_iff.mpr (discreet.trace limit world)] at written

namespace World

theorem consistent_perform {world : World} (consistent : world.exchange.Consistent)
    (action : Action) : (world.perform action).2.exchange.Consistent := by
  cases action with
  | respond response =>
      simp only [perform, respond, Exchange.respond]
      cases held : world.exchange.response with
      | some first => exact consistent
      | none => rfl
  | _ => exact consistent

end World

theorem Task.consistent_run (limit : Option Nat) (task : Task Empty) {world : World}
    (consistent : world.exchange.Consistent) : (task.run limit world).2.exchange.Consistent := by
  induction task generalizing world with
  | done ending => exact consistent
  | act action rest ih =>
      have performed := world.consistent_perform consistent action
      simp only [run]
      split
      · exact performed
      · exact ih _ performed
  | call argument _ => exact argument.elim
  | stall => exact consistent

namespace Router

theorem reports_deliver (world : World) : world.Reports [] (deliver world).2 := by
  simp only [deliver]
  split
  · exact .of_same rfl
  · exact World.reports_addLog _ .unanswered

theorem reports_signal (world : World) (signal : Signal) :
    world.Reports [] (world.signal signal).2 := by
  refine ⟨LogEntry.ofSending signal (world.channel.send signal).1, rfl, ?_⟩
  cases (world.channel.send signal).1 <;> rfl

theorem reports_settleFailure (failure : Failure) (world : World) :
    world.Reports [] (settleFailure failure world) := by
  simp only [settleFailure]
  split
  · split
    · exact world.reports_addLog (.connectionLost failure)
    · exact (world.reports_addLog (.integrityLost failure)).append (reports_signal _ _)
  · exact world.reports_addLog (.escaped failure)

theorem reports_settle (outcome : Outcome) (world : World) :
    world.Reports [] (settle outcome world).2 := by
  cases outcome with
  | ok done => exact reports_deliver world
  | error failure => exact (reports_settleFailure failure world).append (reports_deliver _)

theorem elim_code_eq_zero (status : Option Status) :
    status.elim 0 Status.code = 0 ↔ status = none := by
  cases status with
  | none => simp
  | some status =>
      have positive := status.inRange.1
      simp only [Option.elim_some, reduceCtorEq, iff_false]
      omega

variable {layers : List Layer} {route : Route}

/-- What is inside Logger adds no report to the one that Logger has written. -/
theorem reports_inside (limit : Option Nat) (request : Request) (params : List (String × String))
    (alone : ∀ layer ∈ layers ++ route.layers, layer.Discreet) (discreet : route.handler.Discreet)
    (world : World) :
    world.Reports [.started request.line]
      ((compose layers route.inside ⟨none, { request with params }⟩).run limit
        (Layer.loggerEntry request.line (received world))).2 := by
  have inmost := only_compose (fun layer listed => alone layer (List.mem_append_right _ listed))
    discreet
  have inside := only_compose (fun layer listed => alone layer (List.mem_append_left _ listed))
    inmost ⟨none, { request with params }⟩
  have entry : world.Reports [.started request.line]
      (Layer.loggerEntry request.line (received world)) := ⟨[.started request.line], rfl, rfl⟩
  exact entry.append (Task.reports_discreet inside limit _)

/-- **The log agrees with the wire.** Where Logger is the outermost layer and no other one writes
reports, a request whose chain comes to its end is reported once as started and then once as
completed. The second report has the status of the response that is sent if any was written, and it
has none just if nothing was written, so that the fallback is sent. A chain that ends in a panic or
is cut off is reported as started only. -/
theorem dispatch_reported {routes : List Route} {router : Router}
    (built : ofRoutes (Layer.logger :: layers) routes = .ok router) (limit : Option Nat)
    (request : Request) {params : List (String × String)}
    (matched : Route.match? routes request = some (route, params))
    (alone : ∀ layer ∈ layers ++ route.layers, layer.Discreet) (discreet : route.handler.Discreet)
    (world : World) :
    let chain := route.whole (Layer.logger :: layers) ⟨none, { request with params }⟩
    let written := chain.offers limit (received world)
    let answered := router.dispatch limit request world
    match (chain.run limit (received world)).1 with
    | .ended (.returned _) =>
        ∃ response status, answered.1 = .response response ∧
          world.Reports [.started request.line, .completed request.line status] answered.2 ∧
          (written ≠ [] -> written.head? = some response ∧
            status.elim 0 Status.code = response.status.code) ∧
          (status.elim 0 Status.code = 0 ↔ written = []) ∧
          (written = [] -> response = fallback)
    | .ended (.panicked payload) =>
        answered.1 = .panicked payload ∧ world.Reports [.started request.line] answered.2
    | .cutOff => answered.1 = .cutOff ∧ world.Reports [.started request.line] answered.2 := by
  intro chain written answered
  have whole : chain.run limit (received world) = Layer.leave (Layer.loggerExit request.line)
      ((compose layers route.inside ⟨none, { request with params }⟩).run limit
        (Layer.loggerEntry request.line (received world))) :=
    Layer.run_logger limit (compose layers route.inside) _ _ (received_inTime limit world)
  have concluded : answered = conclude (chain.run limit (received world)) :=
    dispatch_matched built limit request matched world
  have held := Task.response_run limit chain (received world)
  have consistent := Task.consistent_run limit chain
    (show (received world).exchange.Consistent from rfl)
  have started := reports_inside limit request params alone discreet world
  rw [whole] at concluded held consistent ⊢
  generalize (compose layers route.inside ⟨none, { request with params }⟩).run limit
    (Layer.loggerEntry request.line (received world)) = result
    at started concluded held consistent ⊢
  rw [concluded]
  rcases result with ⟨⟨outcome | payload⟩ | _, after⟩
  · -- What Logger does on the way out leaves the exchange as it is.
    have first : after.exchange.response = written.head? := held
    have reported : after.exchange.status = written.head?.map Response.status :=
      first ▸ (show after.exchange.Consistent from consistent)
    have completed := (after.reports_addLog (.completed request.line after.exchange.status)).append
      (reports_settle outcome _)
    have sent : (settle outcome (Layer.loggerExit request.line (.returned outcome) after).2).1 =
        written.head?.getD fallback :=
      (settle_response outcome _).trans (congrArg (Option.getD · fallback) first)
    refine ⟨_, after.exchange.status, congrArg Reply.response sent, started.append completed, ?_⟩
    rw [elim_code_eq_zero, reported]
    cases written with
    | nil => exact ⟨fun some => absurd rfl some, ⟨fun _ => rfl, fun _ => rfl⟩, fun _ => rfl⟩
    | cons response later => exact ⟨fun _ => ⟨rfl, rfl⟩, ⟨nofun, nofun⟩, nofun⟩
  · exact ⟨rfl, started⟩
  · exact ⟨rfl, started⟩

def hastyRoute : Route where
  method := .get
  path := "/hasty"
  layers := [Layer.errors]
  handler := fun _ =>
    .perform (.respond (.bare .noContent)) <|
      .perform (.respond (.bare .notFound)) (.fail (.auth "late"))

/-- It is reported as completed with the first of them. -/
theorem dispatch_reported_hasty : ∃ router,
    ofRoutes [Layer.logger, Layer.metrics] [hastyRoute] = .ok router ∧
      let answered := router.dispatch (some 50) (.get "/hasty") {}
      let line := (Request.get "/hasty").line
      answered.1 = .response (.bare .noContent) ∧ ∃ status,
        ({} : World).Reports [.started line, .completed line status] answered.2 ∧
        status.elim 0 Status.code = 204 := by
  obtain ⟨router, built⟩ : ∃ router,
      ofRoutes [Layer.logger, Layer.metrics] [hastyRoute] = .ok router := ⟨_, rfl⟩
  have alone : ∀ layer ∈ [Layer.metrics] ++ hastyRoute.layers, layer.Discreet := by
    intro layer listed
    rcases List.mem_cons.mp listed with rfl | inner
    · exact (Stage.discreet_iff .metrics).mpr nofun
    · rw [List.mem_singleton.mp inner]
      exact (Stage.discreet_iff .errors).mpr nofun
  have discreet : hastyRoute.handler.Discreet := fun _ => ⟨rfl, fun _ => ⟨rfl, fun _ => trivial⟩⟩
  have matched : Route.match? [hastyRoute] (.get "/hasty") = some (hastyRoute, []) := rfl
  obtain ⟨response, status, sent, reports, written, -⟩ :=
    dispatch_reported built (some 50) (.get "/hasty") matched alone discreet {}
  obtain ⟨first, agrees⟩ := written (List.cons_ne_nil _ _)
  cases first
  exact ⟨router, built, sent, status, reports, agrees⟩

end Router

end HttpService
