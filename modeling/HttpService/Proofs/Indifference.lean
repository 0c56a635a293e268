import HttpService.Proofs.TaskRuns
import HttpService.Router
/-! # What does not depend on the channel

No task reads the channel, the record of what was sent over it or the log. `World.Alike` relates two
states that differ in nothing else. Related states give the same answer to every action and stay
related, hence a run stops in the same way in both, and requests that are dispatched one after the
other are answered alike: `serve_alike`. -/
set_option autoImplicit false

namespace HttpService

namespace World

def apart (world : World) : World := { world with channel := {}, sent := [], log := [] }

/-- The states differ at most in the channel, the signals sent and the log. -/
def Alike (first second : World) : Prop := first.apart = second.apart

theorem Alike.exchange {first second : World} (alike : first.Alike second) :
    first.exchange = second.exchange := by
  have same := congrArg World.exchange alike
  exact same

theorem Alike.withExchange {first second : World} (alike : first.Alike second)
    (exchange : Exchange) :
    ({ first with exchange } : World).Alike { second with exchange } := by
  have same := congrArg (fun world : World => { world with exchange }) alike
  exact same

theorem hides_apart : Hides apart fun _ => True where
  elapsed _ := rfl
  step world action := by
    cases action with
    | respond response =>
        have same : world.apart.exchange = world.exchange := rfl
        simp only [perform, respond, same]
        split <;> exact ⟨fun _ => rfl, rfl⟩
    | _ => exact ⟨fun _ => rfl, rfl⟩

end World

theorem Task.run_alike (limit : Option Nat) (task : Task Empty) {first second : World}
    (alike : first.Alike second) :
    (task.run limit first).1 = (task.run limit second).1 ∧
      (task.run limit first).2.Alike (task.run limit second).2 :=
  World.hides_apart.run alike limit (task.only_of_forall fun _ => trivial)

namespace Router

theorem settleFailure_apart (failure : Failure) (world : World) :
    (settleFailure failure world).apart = world.apart := by
  simp only [settleFailure]
  split
  · split <;> rfl
  · rfl

theorem deliver_alike {first second : World} (alike : first.Alike second) :
    (deliver first).1 = (deliver second).1 ∧ (deliver first).2.Alike (deliver second).2 := by
  simp only [deliver, alike.exchange]
  have taken := alike.withExchange second.exchange.takeResponse.2
  cases second.exchange.takeResponse.1 with
  | some response => exact ⟨rfl, taken⟩
  | none => exact ⟨rfl, taken⟩

theorem settle_alike (outcome : Outcome) {first second : World} (alike : first.Alike second) :
    (settle outcome first).1 = (settle outcome second).1 ∧
      (settle outcome first).2.Alike (settle outcome second).2 := by
  cases outcome with
  | ok done => exact deliver_alike alike
  | error failure =>
      apply deliver_alike
      rw [World.Alike, settleFailure_apart, settleFailure_apart]
      exact alike

theorem dispatch_alike (router : Router) (limit : Option Nat) (request : Request)
    {first second : World} (alike : first.Alike second) :
    (router.dispatch limit request first).1 = (router.dispatch limit request second).1 ∧
      (router.dispatch limit request first).2.Alike (router.dispatch limit request second).2 := by
  simp only [dispatch]
  cases router.find? request with
  | none => exact ⟨rfl, alike⟩
  | some found =>
      obtain ⟨handler, params⟩ := found
      have fresh : (received first).Alike (received second) := congrArg received alike
      have ran := Task.run_alike limit (handler ⟨none, { request with params }⟩) fresh
      simp only
      generalize (handler ⟨none, { request with params }⟩).run limit (received first) = firstRun
        at ran ⊢
      generalize (handler ⟨none, { request with params }⟩).run limit (received second) = secondRun
        at ran ⊢
      obtain ⟨firstStop, firstAfter⟩ := firstRun
      obtain ⟨secondStop, secondAfter⟩ := secondRun
      obtain ⟨sameStop, afterwards⟩ := ran
      simp only at sameStop
      subst sameStop
      rcases firstStop with ⟨outcome | payload⟩ | _
      · have settled := settle_alike outcome afterwards
        exact ⟨congrArg Reply.response settled.1, settled.2⟩
      · exact ⟨rfl, afterwards⟩
      · exact ⟨rfl, afterwards⟩

def serve (router : Router) (limit : Option Nat) : List Request -> World -> List Reply × World
  | [], world => ([], world)
  | request :: rest, world =>
      let (reply, after) := router.dispatch limit request world
      let (replies, last) := router.serve limit rest after
      (reply :: replies, last)

theorem serve_alike (router : Router) (limit : Option Nat) (requests : List Request)
    {first second : World} (alike : first.Alike second) :
    (router.serve limit requests first).1 = (router.serve limit requests second).1 := by
  induction requests generalizing first second with
  | nil => rfl
  | cons request rest ih =>
      obtain ⟨sameReply, afterwards⟩ := dispatch_alike router limit request alike
      simp only [serve]
      rw [sameReply, ih afterwards]

end Router

end HttpService
