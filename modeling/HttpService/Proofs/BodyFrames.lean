import HttpService.Proofs.RequestRecords
/-! # Bodies in frames

A body comes in frames until it ends, breaks off or stalls past the read limit (`Brings`). What the
server makes of it depends on the frames put together and on how they end, not on where one frame
stops and the next begins: `collect_eq_verdict`. The router is asked once or not at all, which
`inquiries` counts; what it answers is cut short by the write limit only (`dispatch_limited`).
`Intake.answer_settled` puts these together. -/
set_option autoImplicit false

namespace HttpService

/-! ## Runs under a limit -/

namespace Task

theorem elapsed_le_perform (world : World) (action : Action) :
    world.elapsed ≤ (world.perform action).2.elapsed := by
  cases action with
  | pause milliseconds => exact Nat.le_add_right _ _
  | _ => exact Nat.le_of_eq (elapsed_perform world _ (by simp)).symm

theorem elapsed_le_run (limit : Option Nat) (task : Task Empty) (world : World) :
    world.elapsed ≤ (task.run limit world).2.elapsed := by
  induction task generalizing world with
  | done ending => exact Nat.le_refl _
  | act action rest ih =>
      have step := elapsed_le_perform world action
      by_cases inTime : (world.perform action).2.InTime limit
      · rw [run_act limit action rest world inTime]
        exact Nat.le_trans step (ih _ _)
      · rw [run_act_late limit action rest world inTime]
        exact step
  | call argument _ => exact argument.elim
  | stall => exact Nat.le_refl _

theorem inTime_some {world : World} {limit : Nat} :
    world.InTime (some limit) ↔ world.elapsed ≤ limit := by
  simp [World.InTime]

theorem inTime_none (world : World) : world.InTime none := rfl

theorem run_limited_of_le (limit : Nat) (task : Task Empty) (world : World)
    (quick : (task.run none world).2.elapsed ≤ limit)
    (ends : ∃ ending, (task.run none world).1 = .ended ending) :
    task.run (some limit) world = task.run none world := by
  induction task generalizing world with
  | done ending => rfl
  | act action rest ih =>
      rw [run_act none action rest world (inTime_none _)] at quick ends ⊢
      have step := elapsed_le_run none (rest (world.perform action).1) (world.perform action).2
      rw [run_act (some limit) action rest world (inTime_some.mpr (Nat.le_trans step quick))]
      exact ih _ _ quick ends
  | call argument _ => exact argument.elim
  | stall =>
      obtain ⟨ending, ended⟩ := ends
      cases ended

theorem run_limited_of_not_le (limit : Nat) (task : Task Empty) (world : World)
    (begun : world.elapsed ≤ limit)
    (slow : ∀ ending, (task.run none world).1 = .ended ending ->
      limit < (task.run none world).2.elapsed) :
    (task.run (some limit) world).1 = .cutOff := by
  induction task generalizing world with
  | done ending => exact absurd (slow ending rfl) (Nat.not_lt.mpr begun)
  | act action rest ih =>
      rw [run_act none action rest world (inTime_none _)] at slow
      by_cases inTime : (world.perform action).2.InTime (some limit)
      · rw [run_act (some limit) action rest world inTime]
        exact ih _ _ (inTime_some.mp inTime) slow
      · rw [run_act_late (some limit) action rest world inTime]
  | call argument _ => exact argument.elim
  | stall => rfl

end Task

namespace Router

/-- How long the chain for a request takes when nothing cuts it off, if it ever ends. -/
def duration? (router : Router) (request : Request) (world : World) : Option Nat :=
  match router.find? request with
  | none => some 0
  | some (handler, params) =>
      match (handler ⟨none, { request with params }⟩).run none (received world) with
      | (.ended _, after) => some after.elapsed
      | (.cutOff, _) => none

theorem dispatch_limited (router : Router) (limit : Nat) (request : Request) (world : World) :
    (∀ time, router.duration? request world = some time -> time ≤ limit ->
      router.dispatch (some limit) request world = router.dispatch none request world) ∧
    ((∀ time, router.duration? request world = some time -> limit < time) ->
      (router.dispatch (some limit) request world).1 = .cutOff) := by
  simp only [duration?, dispatch]
  cases router.find? request with
  | none => exact ⟨fun _ _ _ => rfl, fun slow => absurd (slow 0 rfl) (Nat.not_lt_zero _)⟩
  | some found =>
      obtain ⟨handler, params⟩ := found
      simp only
      generalize handler ⟨none, { request with params }⟩ = task
      have quick := Task.run_limited_of_le limit task (received world)
      have slow := Task.run_limited_of_not_le limit task (received world) (Nat.zero_le _)
      rcases ran : task.run none (received world) with ⟨stop, after⟩
      rw [ran] at quick slow
      constructor
      · intro time lasts inTime
        cases stop with
        | ended ending =>
            cases lasts
            rw [quick inTime ⟨ending, rfl⟩]
        | cutOff => cases lasts
      · intro late
        have cut : (task.run (some limit) (received world)).1 = .cutOff := by
          apply slow
          intro ending ended
          cases ended
          exact late _ rfl
        rcases limited : task.run (some limit) (received world) with ⟨limitedStop, limitedAfter⟩
        rw [limited] at cut
        cases cut
        rfl

end Router

namespace Intake

/-! ## Frames -/

inductive BodyEnd where
  | complete
  | broken (message : String)
  /-- Nothing more came within the read limit. -/
  | stalled
deriving DecidableEq

/-- The arrivals bring these frames within the limit, and then this end. -/
inductive Brings (limit : Nat) : List Arrival -> List Bytes -> BodyEnd -> Prop where
  | finish {moment : Nat} {rest : List Arrival} (inTime : moment ≤ limit) :
      Brings limit (⟨moment, .finish⟩ :: rest) [] .complete
  | failure {moment : Nat} {message : String} {rest : List Arrival} (inTime : moment ≤ limit) :
      Brings limit (⟨moment, .failure message⟩ :: rest) [] (.broken message)
  | late {arrival : Arrival} {rest : List Arrival} (late : limit < arrival.moment) :
      Brings limit (arrival :: rest) [] .stalled
  | silent : Brings limit [] [] .stalled
  | frame {moment : Nat} {bytes : Bytes} {rest : List Arrival} {frames : List Bytes}
      {ending : BodyEnd} (inTime : moment ≤ limit) (more : Brings limit rest frames ending) :
      Brings limit (⟨moment, .frame bytes⟩ :: rest) (bytes :: frames) ending

theorem exists_brings (limit : Nat) (arrivals : List Arrival) :
    ∃ frames ending, Brings limit arrivals frames ending := by
  induction arrivals with
  | nil => exact ⟨[], .stalled, .silent⟩
  | cons arrival rest ih =>
      obtain ⟨moment, event⟩ := arrival
      by_cases late : limit < moment
      · exact ⟨[], .stalled, .late late⟩
      · have inTime : moment ≤ limit := Nat.not_lt.mp late
        cases event with
        | finish => exact ⟨[], .complete, .finish inTime⟩
        | failure message => exact ⟨[], .broken message, .failure inTime⟩
        | frame bytes =>
            obtain ⟨frames, ending, more⟩ := ih
            exact ⟨bytes :: frames, ending, .frame inTime more⟩

def verdict (maxBody : Nat) (body : Bytes) (ending : BodyEnd) : Except Refusal Bytes :=
  if maxBody < body.length then .error .tooLarge
  else
    match ending with
    | .complete => .ok body
    | .broken message => .error (.broken message)
    | .stalled => .error .late

/-- Frame by frame the server comes to the same verdict. What it has already received is within
the bound, or it would have stopped before. -/
theorem collect_brings {limits : Limits} {arrivals : List Arrival} {frames : List Bytes}
    {ending : BodyEnd} (brings : Brings limits.read arrivals frames ending) (received : Bytes)
    (within : received.length ≤ limits.maxBody) :
    collect limits received arrivals =
      verdict limits.maxBody (received ++ frames.flatten) ending := by
  have whole : ¬ limits.maxBody < (received ++ ([] : List Bytes).flatten).length := by
    rw [List.flatten_nil, List.append_nil]
    omega
  induction brings generalizing received with
  | finish inTime =>
      rw [collect, if_neg (Nat.not_lt.mpr inTime), verdict, if_neg whole]
      simp only [List.flatten_nil, List.append_nil]
  | failure inTime => rw [collect, if_neg (Nat.not_lt.mpr inTime), verdict, if_neg whole]
  | late late => rw [collect, if_pos late, verdict, if_neg whole]
  | silent => rw [collect, verdict, if_neg whole]
  | @frame moment bytes rest frames ending inTime more ih =>
      rw [collect, if_neg (Nat.not_lt.mpr inTime)]
      simp only
      by_cases tooLarge : limits.maxBody < received.length + bytes.length
      · -- What comes after this frame only makes the body longer.
        have longer : limits.maxBody < (received ++ (bytes :: frames).flatten).length := by
          simp only [List.flatten_cons, List.length_append]
          omega
        rw [if_pos tooLarge]
        unfold verdict
        rw [if_pos longer]
      · have stillWithin : (received ++ bytes).length ≤ limits.maxBody := by
          rw [List.length_append]
          omega
        have stillWhole : ¬ limits.maxBody < (received ++ bytes ++ ([] : List Bytes).flatten).length := by
          rw [List.flatten_nil, List.append_nil]
          omega
        rw [if_neg tooLarge, ih _ stillWithin stillWhole, List.flatten_cons, List.append_assoc]

theorem collect_eq_verdict {limits : Limits} {arrivals : List Arrival} {frames : List Bytes}
    {ending : BodyEnd} (brings : Brings limits.read arrivals frames ending) :
    collect limits [] arrivals = verdict limits.maxBody frames.flatten ending :=
  collect_brings brings [] (Nat.zero_le _)

theorem Brings.exists_append {limit : Nat} {before : List Arrival} {frames : List Bytes}
    {ending : BodyEnd} (brings : Brings limit before frames ending) (rest : List Arrival) :
    ∃ more last, Brings limit (before ++ rest) (frames ++ more) last := by
  induction brings with
  | finish inTime => exact ⟨[], .complete, .finish inTime⟩
  | failure inTime => exact ⟨[], .broken _, .failure inTime⟩
  | late late => exact ⟨[], .stalled, .late late⟩
  | silent => exact exists_brings limit rest
  | frame inTime _ ih =>
      obtain ⟨more, last, brings⟩ := ih
      exact ⟨more, last, .frame inTime brings⟩

/-! ## Asking the router -/

section Asking

variable {σ : Type} (invoke : Request -> σ -> Router.Reply × σ) (report : LogEntry -> σ -> σ)

def answerBy (limits : Limits) (peer : SocketAddress) (head : Request) (arrivals : List Arrival)
    (state : σ) : Answer × σ :=
  match collect limits [] arrivals with
  | .error refusal => (.response (.bare refusal.status), report (refusal.entry limits peer) state)
  | .ok body =>
      match invoke (received peer head body) state with
      | (.response response, after) => (.response response, after)
      | (.panicked payload, after) => (.panicked payload, after)
      | (.cutOff, after) => (.response unavailable, report (.answerLate peer limits.write) after)

end Asking

def ask (router : Router) (limit : Nat) (request : Request) (state : World × List Request) :
    Router.Reply × World × List Request :=
  let (reply, world) := router.dispatch (some limit) request state.1
  (reply, world, state.2 ++ [request])

def noted (limits : Limits) (router : Router) (peer : SocketAddress) (head : Request)
    (arrivals : List Arrival) (world : World) : Answer × World × List Request :=
  answerBy (ask router limits.write) (fun entry state => (state.1.addLog entry, state.2)) limits
    peer head arrivals (world, [])

def inquiries (limits : Limits) (router : Router) (peer : SocketAddress) (head : Request)
    (arrivals : List Arrival) (world : World) : List Request :=
  (noted limits router peer head arrivals world).2.2

variable (limits : Limits) (router : Router) (peer : SocketAddress) (head : Request)
  (arrivals : List Arrival) (world : World)

theorem answer_eq_answerBy :
    answer limits router peer head arrivals world =
      answerBy (router.dispatch (some limits.write)) (fun entry world => world.addLog entry) limits
        peer head arrivals world := by
  cases collected : collect limits [] arrivals with
  | error refusal => simp only [answer, answerBy, collected]
  | ok body =>
      rw [answer_taken collected]
      simp only [answerBy, collected]
      rcases router.dispatch (some limits.write) (received peer head body) world with
        ⟨response | payload | _, after⟩ <;> rfl

theorem answer_eq_noted :
    answer limits router peer head arrivals world =
      ((noted limits router peer head arrivals world).1,
        (noted limits router peer head arrivals world).2.1) := by
  rw [answer_eq_answerBy]
  simp only [noted, answerBy, ask]
  cases collect limits [] arrivals with
  | error refusal => rfl
  | ok body =>
      simp only
      rcases router.dispatch (some limits.write) (received peer head body) world with
        ⟨response | payload | _, after⟩ <;> rfl

theorem inquiries_eq :
    inquiries limits router peer head arrivals world =
      match collect limits [] arrivals with
      | .error _ => []
      | .ok body => [received peer head body] := by
  simp only [inquiries, noted, answerBy, ask]
  cases collect limits [] arrivals with
  | error refusal => rfl
  | ok body =>
      simp only
      rcases router.dispatch (some limits.write) (received peer head body) world with
        ⟨response | payload | _, after⟩ <;> rfl

variable {limits router peer head arrivals world}

theorem answer_refused {refusal : Refusal} (untaken : collect limits [] arrivals = .error refusal) :
    answer limits router peer head arrivals world =
      (.response (.bare refusal.status), world.addLog (refusal.entry limits peer)) := by
  simp only [answer, untaken]

/-! ## What becomes of a request -/

/-- How a request is settled whose body comes in these frames and ends like this. -/
structure Settled (limits : Limits) (router : Router) (peer : SocketAddress) (head : Request)
    (arrivals : List Arrival) (world : World) (frames : List Bytes) (ending : BodyEnd) : Prop where
  /-- The router is asked once, for the head with the whole body and the peer, or not at all. -/
  asked : inquiries limits router peer head arrivals world =
    if ending = .complete ∧ frames.flatten.length ≤ limits.maxBody then
      [{ head with body := frames.flatten, remote := some peer }]
    else []
  tooLarge : limits.maxBody < frames.flatten.length ->
    answer limits router peer head arrivals world =
      (.response (.bare .payloadTooLarge), world.addLog (.bodyTooLarge peer limits.maxBody))
  broken : frames.flatten.length ≤ limits.maxBody -> ∀ message, ending = .broken message ->
    answer limits router peer head arrivals world =
      (.response (.bare .badRequest), world.addLog (.bodyBroken peer message))
  stalled : frames.flatten.length ≤ limits.maxBody -> ending = .stalled ->
    answer limits router peer head arrivals world =
      (.response (.bare .requestTimeout), world.addLog (.bodyLate peer limits.read))
  /-- The same body in other frames, with the same end, leads to the same answer. -/
  uncut : ∀ others parts, Brings limits.read others parts ending ->
    parts.flatten = frames.flatten ->
      answer limits router peer head others world = answer limits router peer head arrivals world
  /-- A chain that takes no longer than the write limit is not cut short. -/
  inTime : ending = .complete -> frames.flatten.length ≤ limits.maxBody ->
    ∀ time, router.duration? (received peer head frames.flatten) world = some time ->
      time ≤ limits.write ->
        ∀ response after, router.dispatch none (received peer head frames.flatten) world =
          (.response response, after) ->
            answer limits router peer head arrivals world = (.response response, after)
  exceeded : ending = .complete -> frames.flatten.length ≤ limits.maxBody ->
    (∀ time, router.duration? (received peer head frames.flatten) world = some time ->
      limits.write < time) ->
      (answer limits router peer head arrivals world).1 = .response (Response.jsonBytes
        .serviceUnavailable (Bytes.ofText "\x7b\"error\":\"Service Unavailable\"\x7d"))
  /-- There is an answer unless a panic leaves the router. -/
  answered : (∀ request payload after,
      router.dispatch (some limits.write) request world ≠ (.panicked payload, after)) ->
    ∃ response, (answer limits router peer head arrivals world).1 = .response response

theorem Brings.settled {limits : Limits} {arrivals : List Arrival} {frames : List Bytes}
    {ending : BodyEnd} (brings : Brings limits.read arrivals frames ending) (router : Router)
    (peer : SocketAddress) (head : Request) (world : World) :
    Settled limits router peer head arrivals world frames ending := by
  have judged := collect_eq_verdict brings
  have refused (arrivals : List Arrival) (refusal : Refusal)
      (untaken : collect limits [] arrivals = .error refusal) :
      answer limits router peer head arrivals world =
        (.response (.bare refusal.status), world.addLog (refusal.entry limits peer)) :=
    answer_refused untaken
  have taken (complete : ending = .complete) (fits : frames.flatten.length ≤ limits.maxBody) :
      collect limits [] arrivals = .ok frames.flatten := by
    rw [judged, complete, verdict, if_neg (Nat.not_lt.mpr fits)]
  refine { asked := ?asked, tooLarge := ?tooLarge, broken := ?broken, stalled := ?stalled
           uncut := ?uncut, inTime := ?inTime, exceeded := ?exceeded, answered := ?answered }
  case asked =>
    rw [inquiries_eq, judged]
    unfold verdict
    by_cases fits : frames.flatten.length ≤ limits.maxBody
    · rw [if_neg (Nat.not_lt.mpr fits)]
      cases ending with
      | complete => exact (if_pos ⟨rfl, fits⟩).symm
      | broken message => exact (if_neg fun both => by cases both.1).symm
      | stalled => exact (if_neg fun both => by cases both.1).symm
    · rw [if_pos (Nat.not_le.mp fits), if_neg fun both => fits both.2]
  case tooLarge =>
    intro longer
    refine refused arrivals .tooLarge ?_
    rw [judged]
    unfold verdict
    rw [if_pos longer]
  case broken =>
    rintro fits message rfl
    refine refused arrivals (.broken message) ?_
    rw [judged, verdict, if_neg (Nat.not_lt.mpr fits)]
  case stalled =>
    rintro fits rfl
    refine refused arrivals .late ?_
    rw [judged, verdict, if_neg (Nat.not_lt.mpr fits)]
  case uncut =>
    intro others parts alike same
    have sameVerdict : collect limits [] others = collect limits [] arrivals := by
      rw [judged, collect_eq_verdict alike, same]
    unfold answer
    rw [sameVerdict]
  case inTime =>
    intro complete fits time lasts quick response after replied
    rw [answer_taken (taken complete fits), (Router.dispatch_limited router limits.write _ world).1
      time lasts quick, replied]
  case exceeded =>
    intro complete fits slow
    have cut := (Router.dispatch_limited router limits.write _ world).2 slow
    rw [answer_taken (taken complete fits)]
    generalize router.dispatch (some limits.write) (received peer head frames.flatten) world =
      dispatched at cut ⊢
    obtain ⟨reply, after⟩ := dispatched
    cases cut
    rfl
  case answered =>
    intro calm
    cases collected : collect limits [] arrivals with
    | error refusal =>
        rw [refused arrivals refusal collected]
        exact ⟨_, rfl⟩
    | ok body =>
        rw [answer_taken collected]
        have quiet := calm (received peer head body)
        rcases replied : router.dispatch (some limits.write) (received peer head body) world with
          ⟨response | payload | _, after⟩
        · exact ⟨response, rfl⟩
        · exact absurd replied (quiet payload after)
        · exact ⟨unavailable, rfl⟩

/-- A frame that leads past the bound decides at once, whatever follows it. -/
theorem Brings.tooLarge_append {limits : Limits} {before : List Arrival} {frames : List Bytes}
    {ending : BodyEnd} (brings : Brings limits.read before frames ending)
    (longer : limits.maxBody < frames.flatten.length) (rest : List Arrival) :
    collect limits [] (before ++ rest) = .error .tooLarge := by
  obtain ⟨more, last, brings⟩ := brings.exists_append rest
  rw [collect_eq_verdict brings]
  unfold verdict
  rw [if_pos]
  rw [List.flatten_append, List.length_append]
  omega

theorem dispatch_standard_calm {routes : List Route} {router : Router}
    (built : Router.ofRoutes Layer.standard routes = .ok router) (limit : Option Nat)
    (request : Request) (world : World) (payload : PanicPayload) (after : World) :
    router.dispatch limit request world ≠ (.panicked payload, after) := by
  rw [Router.dispatch_standard built limit request world]
  intro same
  split at same
  · cases same
  · split at same
    · cases same
    · simp only at same
      split at same <;> cases same

/-- **How a request is settled.** Whatever arrives of a body, it comes in frames that end, break off
or stall. The frames put together and their end decide whether the router is asked, once or never,
and what the server answers; frames that are too long together decide before the end is known. With
the standard layers there is always a response. Noting what the router is asked changes nothing. -/
theorem answer_settled (limits : Limits) (router : Router) (peer : SocketAddress) (head : Request)
    (arrivals : List Arrival) (world : World) :
    (∃ frames ending, Brings limits.read arrivals frames ending) ∧
      (∀ frames ending, Brings limits.read arrivals frames ending ->
        Settled limits router peer head arrivals world frames ending) ∧
      (∀ frames ending, Brings limits.read arrivals frames ending ->
        limits.maxBody < frames.flatten.length -> ∀ rest,
          answer limits router peer head (arrivals ++ rest) world =
            (.response (.bare .payloadTooLarge), world.addLog (.bodyTooLarge peer limits.maxBody)) ∧
          inquiries limits router peer head (arrivals ++ rest) world = []) ∧
      (∀ routes, Router.ofRoutes Layer.standard routes = .ok router ->
        ∃ response, (answer limits router peer head arrivals world).1 = .response response) ∧
      answer limits router peer head arrivals world =
        ((noted limits router peer head arrivals world).1,
          (noted limits router peer head arrivals world).2.1) := by
  have brought := exists_brings limits.read arrivals
  refine ⟨brought, fun frames ending brings => brings.settled router peer head world, ?_, ?_,
    answer_eq_noted limits router peer head arrivals world⟩
  · intro frames ending brings longer rest
    have untaken := brings.tooLarge_append longer rest
    rw [inquiries_eq, untaken]
    exact ⟨answer_refused untaken, rfl⟩
  · intro routes built
    obtain ⟨frames, ending, brings⟩ := brought
    refine (brings.settled router peer head world).answered ?_
    intro request payload after
    exact dispatch_standard_calm built (some limits.write) request world payload after

/-- Three bytes in two frames are just taken, but then the handler is too slow; a fourth byte in the
second frame is one too many, although the stream breaks off after it. -/
theorem answer_settled_boundary : ∃ router,
    Router.ofRoutes Layer.standard [slowRoute] = .ok router ∧
      let limits : Limits := { write := 100, maxBody := 3 }
      let fits : List Arrival := [⟨1, .frame [1, 2]⟩, ⟨2, .frame [3]⟩, ⟨5000, .finish⟩]
      let exceeds : List Arrival := [⟨1, .frame [1, 2]⟩, ⟨2, .frame [3, 4]⟩]
      inquiries limits router default slowHead fits {} =
          [{ slowHead with body := [1, 2, 3], remote := some default }] ∧
        (answer limits router default slowHead fits {}).1 = .response unavailable ∧
        (answer limits router default slowHead (exceeds ++ [⟨3, .failure "reset"⟩]) {}).1 =
          .response (.bare .payloadTooLarge) := by
  obtain ⟨router, built⟩ : ∃ router, Router.ofRoutes Layer.standard [slowRoute] = .ok router :=
    ⟨_, rfl⟩
  refine ⟨router, built, ?_⟩
  intro limits fits exceeds
  have fitting : Brings limits.read fits [[1, 2], [3]] .complete :=
    .frame (by decide) (.frame (by decide) (.finish (by decide)))
  have exceeding : Brings limits.read exceeds [[1, 2], [3, 4]] .stalled :=
    .frame (by decide) (.frame (by decide) .silent)
  obtain ⟨-, settled, -⟩ := answer_settled limits router default slowHead fits {}
  obtain ⟨-, -, atOnce, -⟩ := answer_settled limits router default slowHead exceeds {}
  have fate := settled _ _ fitting
  refine ⟨fate.asked, fate.exceeded rfl (by decide) ?_, ?_⟩
  · intro time lasts
    cases built
    cases lasts
    decide
  · exact congrArg Prod.fst (atOnce _ _ exceeding (by decide) [⟨3, .failure "reset"⟩]).1

end Intake

end HttpService
