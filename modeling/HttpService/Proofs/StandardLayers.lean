import HttpService.Pipeline.Standard
import HttpService.Proofs.TaskRuns
/-! # What the layers of every service do

Each of the four layers does something on the way in, calls inwards once with what it was given, and
does something on the way out. `Layer.Exit` is what happens on the way out, as a function of how the
call ended and of the state it left, and `run_logger`, `run_errors`, `run_metrics` and `run_panics`
say that the run of a wrapped layer is the run of what is inside followed by the exit.
`run_standard` puts the four together. -/
set_option autoImplicit false

namespace HttpService

def Ending.recovered : Ending -> Outcome
  | .returned outcome => outcome
  | .panicked payload => .error (Failure.recovered payload.value)

namespace Layer

/-- What a layer does on the way out. -/
abbrev Exit := Ending -> World -> Ending × World

/-- Goes on after a run that came to its end. -/
def leave (exit : Exit) (result : Stop × World) : Stop × World :=
  match result with
  | (.ended ending, after) => (.ended (exit ending after).1, (exit ending after).2)
  | (.cutOff, after) => (.cutOff, after)

theorem leave_leave (outer inner : Exit) (result : Stop × World) :
    leave outer (leave inner result) =
      leave (fun ending after => outer (inner ending after).1 (inner ending after).2) result := by
  obtain ⟨stop, after⟩ := result
  cases stop <;> rfl

def countPanic (world : World) : World :=
  { world with counters := world.counters.increment .panics }

def panicsExit : Exit := fun ending world =>
  match ending with
  | .returned outcome => (.returned outcome, world)
  | .panicked payload => (.returned (.error (Failure.recovered payload.value)), countPanic world)

def countRequest (world : World) : World :=
  let counters := world.counters.increment .requests
  if counters.requests % sampleEvery = 0 then
    { world with counters := counters.sample world.liveTasks }
  else { world with counters }

def countFailure (world : World) : World :=
  { world with counters := world.counters.increment .errors }

def metricsExit : Exit := fun ending world =>
  match ending with
  | .returned (.ok ()) => (ending, countRequest world)
  | .returned (.error _) => (ending, countFailure (countRequest world))
  | .panicked _ => (ending, world)

theorem exchange_countRequest (world : World) :
    (countRequest world).exchange = world.exchange := by
  simp only [countRequest]
  split <;> rfl

theorem metricsExit_exchange (ending : Ending) (world : World) :
    (metricsExit ending world).2.exchange = world.exchange := by
  rcases ending with ⟨_ | _⟩ | payload
  · simp only [metricsExit, countFailure, exchange_countRequest]
  · simp only [metricsExit, exchange_countRequest]
  · rfl

/-- What is left of a failure once it is answered: a shutdown is handed on. -/
def remaining (failure : Failure) : Outcome :=
  if failure.isShutdown then .error failure else .ok ()

def errorsExit : Exit := fun ending world =>
  match ending with
  | .returned (.error failure) =>
      (.returned (remaining failure),
        ((world.addLog (.failed failure)).respond failure.response).2)
  | _ => (ending, world)

def loggerExit (line : RequestLine) : Exit := fun ending world =>
  match ending with
  | .returned _ => (ending, world.addLog (.completed line world.exchange.status))
  | .panicked _ => (ending, world)

def loggerEntry (line : RequestLine) (world : World) : World :=
  ({ world with exchange := world.exchange.markStarted world.elapsed }).addLog (.started line)

variable (limit : Option Nat) (inner : Handler) (passage : Passage) (world : World)

theorem run_panics (inTime : world.InTime limit) :
    (panics.wrap inner passage).run limit world =
      leave panicsExit ((inner passage).run limit world) := by
  simp only [wrap, panics, Task.run_plug_call]
  cases ran : (inner passage).run limit world with
  | mk stop after =>
      cases stop with
      | cutOff => rfl
      | ended ending =>
          cases ending with
          | returned outcome => rfl
          | panicked payload =>
              have afterInTime := Task.inTime_of_run limit _ world after _ inTime ran
              simp only
              rw [Task.run_plug_perform limit inner _ _ after afterInTime (by simp)]
              rfl

theorem run_countOutcome (outcome : Outcome) (inTime : world.InTime limit) :
    ((match outcome with
      | .ok () => Task.succeed
      | .error failure => Task.perform (.count .errors) (Task.fail failure) :
        Task Passage).plug inner).run limit world =
      (.ended (.returned outcome),
        match outcome with
        | .ok () => world
        | .error _ => countFailure world) := by
  cases outcome with
  | ok done => rfl
  | error failure =>
      simp only
      rw [Task.run_plug_perform limit inner _ _ world inTime (by simp)]
      rfl

theorem run_metrics (inTime : world.InTime limit) :
    (metrics.wrap inner passage).run limit world =
      leave metricsExit ((inner passage).run limit world) := by
  simp only [wrap, metrics, Task.forward, Task.run_plug_call]
  cases ran : (inner passage).run limit world with
  | mk stop after =>
      cases stop with
      | cutOff => rfl
      | ended ending =>
          cases ending with
          | panicked payload => rfl
          | returned outcome =>
              have afterInTime := Task.inTime_of_run limit _ world after _ inTime ran
              simp only
              have countInTime := Task.inTime_perform afterInTime (.count .requests) (by simp)
              rw [Task.run_plug_act limit inner _ _ after afterInTime (by simp)]
              split
              next due =>
                have counted : countRequest after =
                    ((after.perform (.count .requests)).2.perform .sampleTasks).2 := if_pos due
                have sampleInTime := Task.inTime_perform countInTime .sampleTasks (by simp)
                rw [Task.run_plug_perform limit inner _ _ _ countInTime (by simp)]
                refine (run_countOutcome limit inner _ outcome sampleInTime).trans ?_
                cases outcome <;> simp only [leave, metricsExit, counted]
              next notDue =>
                have counted : countRequest after = (after.perform (.count .requests)).2 :=
                  if_neg notDue
                refine (run_countOutcome limit inner _ outcome countInTime).trans ?_
                cases outcome <;> simp only [leave, metricsExit, counted]

theorem run_errors (inTime : world.InTime limit) :
    (errors.wrap inner passage).run limit world =
      leave errorsExit ((inner passage).run limit world) := by
  simp only [wrap, errors, Task.forward, Task.run_plug_call]
  cases ran : (inner passage).run limit world with
  | mk stop after =>
      cases stop with
      | cutOff => rfl
      | ended ending =>
          cases ending with
          | panicked payload => rfl
          | returned outcome =>
              have afterInTime := Task.inTime_of_run limit _ world after _ inTime ran
              cases outcome with
              | ok done => rfl
              | error failure =>
                  have logInTime := Task.inTime_perform afterInTime (.log (.failed failure)) (by simp)
                  simp only
                  rw [Task.run_plug_perform limit inner _ _ after afterInTime (by simp)]
                  rw [Task.run_plug_perform limit inner _ _ _ logInTime (by simp)]
                  simp only [leave, errorsExit, remaining]
                  cases asks : failure.isShutdown <;> rfl

theorem run_logger (inTime : world.InTime limit) :
    (logger.wrap inner passage).run limit world =
      leave (loggerExit passage.request.line)
        ((inner passage).run limit (loggerEntry passage.request.line world)) := by
  have entryInTime : (loggerEntry passage.request.line world).InTime limit := inTime
  have entry : (logger.wrap inner passage).run limit world =
      ((Task.forward passage fun outcome => .act .readStatus fun status =>
        .perform (.log (.completed passage.request.line status))
          (.done (.returned outcome))).plug inner).run limit
        (loggerEntry passage.request.line world) := by
    have markInTime := Task.inTime_perform inTime .markStarted (by simp)
    simp only [wrap, logger]
    rw [Task.run_plug_perform limit inner _ _ world inTime (by simp)]
    rw [Task.run_plug_perform limit inner _ _ _ markInTime (by simp)]
    rfl
  rw [entry]
  simp only [Task.forward, Task.run_plug_call]
  cases ran : (inner passage).run limit (loggerEntry passage.request.line world) with
  | mk stop after =>
      cases stop with
      | cutOff => rfl
      | ended ending =>
          cases ending with
          | panicked payload => rfl
          | returned outcome =>
              have afterInTime := Task.inTime_of_run limit _ _ after _ entryInTime ran
              have readInTime := Task.inTime_perform afterInTime .readStatus (by simp)
              simp only
              rw [Task.run_plug_act limit inner _ _ after afterInTime (by simp)]
              rw [Task.run_plug_perform limit inner _ _ _ readInTime (by simp)]
              rfl

def standardExit (line : RequestLine) : Exit := fun ending world =>
  let recovered := panicsExit ending world
  let counted := metricsExit recovered.1 recovered.2
  let answered := errorsExit counted.1 counted.2
  loggerExit line answered.1 answered.2

theorem run_standard (inTime : world.InTime limit) :
    (compose standard inner passage).run limit world =
      leave (standardExit passage.request.line)
        ((inner passage).run limit (loggerEntry passage.request.line world)) := by
  have entryInTime : (loggerEntry passage.request.line world).InTime limit := inTime
  simp only [compose, standard, List.foldr_cons, List.foldr_nil]
  rw [run_logger limit _ passage world inTime]
  rw [run_errors limit _ passage _ entryInTime]
  rw [run_metrics limit _ passage _ entryInTime]
  rw [run_panics limit inner passage _ entryInTime]
  rw [leave_leave, leave_leave, leave_leave]
  rfl

end Layer

end HttpService
