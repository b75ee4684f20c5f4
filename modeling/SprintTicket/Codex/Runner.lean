import SprintTicket.Codex.Monitor
import SprintTicket.Codex.Publication

/-!
# Running a Codex process

`SubprocessCodexRunner.run`: the capture helpers, the launch, the containment of
the process, its monitor, and the cleanup of an invocation that does not end by
itself. Whatever a run meets is a field of `RunnerCalls`, and every way out of it is
a result, a timeout or an exception.

A run whose cleanup could not be confirmed never looks like a success: `runCodex_ok`
gives its result a transport failure.
-/

set_option autoImplicit false

namespace SprintTicket

open Checks Transition

/-- `CodexProcessEvidence`. -/
structure CodexProcessEvidence where
  workTimeoutSeconds : Option Rat := none
  workElapsedSeconds : Rat := 0
  totalElapsedSeconds : Rat := 0
  terminalEventType : Option String := none
  terminalEventElapsedSeconds : Option Rat := none
  completionBeforeDeadline : Bool := false
  structuredMessage : Option String := none
  structuredMessageElapsedSeconds : Option Rat := none
  structuredMessageBeforeDeadline : Bool := false
  deadlineOutcome : String := "process-exited"
  finalizationOutcome : String := "not-started"
  cleanupOutcome : String := "not-required"
  terminationMethod : Option String := none
  treeTerminationConfirmed : Option Bool := none
  cleanupDurationSeconds : Rat := 0
  outputDrainingTruncated : Bool := false
  eventStreamProblem : Option String := none

/-- `CodexProcessResult`. -/
structure CodexProcessResult where
  returncode : Int
  stdout : String
  stderr : String
  evidence : CodexProcessEvidence
  stdoutCapture : CaptureResult
  stderrCapture : CaptureResult
  transportFailure : Option String

/-- `CodexProcessTimeout`. -/
structure CodexProcessTimeout where
  stdout : String
  stderr : String
  timeoutSeconds : Rat
  evidence : CodexProcessEvidence
  stdoutCapture : CaptureResult
  stderrCapture : CaptureResult

/-- How a run ends without a result. -/
inductive RunnerStop
  /-- `CodexProcessTimedOut`. -/
  | timedOut (timeout : CodexProcessTimeout)
  /-- The exception of the callback that the start is reported to. -/
  | observerRaised (error : Raised)
  | raised (error : Raised)

/-- `_CleanupResult`. -/
structure CleanupResult where
  outcome : String
  method : Option String
  confirmed : Bool
  duration : Rat
  drainTruncated : Bool
deriving DecidableEq

/-- `_CleanupResult.not_required()`. -/
def CleanupResult.notRequired : CleanupResult := ⟨"not-required", none, true, 0, false⟩

/-- What `_cleanup` and `_emergency_cleanup` meet. -/
structure CleanupReadings where
  /-- The name of the containment's method. -/
  method : String
  /-- Whether the first `terminate` returns. -/
  terminated : Bool
  /-- The answers of `active` in the time of grace; none where a probe raises. -/
  probes : List (Option Bool)
  /-- The second `terminate`, where there is time for one. -/
  terminatedAgain : Option Bool
  forcedOutputClose : Bool
  outputError : Bool
  outputAlive : Bool
  workersStopped : Bool
  cancellations : List Bool
  streamsClosed : Bool
  reaped : Bool
  /-- The last answer of `active`; none where it raises. -/
  active : Option Bool
  duration : Rat

/-- Whether the probing ends with a containment that is not active. -/
def probedInactive : List (Option Bool) → Bool
  | [] => false
  | some false :: _ => true
  | some true :: rest => probedInactive rest
  | none :: _ => false

namespace CleanupReadings

variable (readings : CleanupReadings)

/-- The second `terminate`, which a containment that was seen inactive is spared. -/
def secondTermination : Option Bool :=
  if probedInactive readings.probes then none else readings.terminatedAgain

def terminationFailed : Bool := !readings.terminated || readings.secondTermination = some false

/-- `confirmed`: the last probe, unless a `terminate` failed. -/
def confirmed : Bool := readings.active = some false && !readings.terminationFailed

/-- `_cleanup`. -/
def cleanup : CleanupResult where
  outcome :=
    if readings.confirmed && readings.reaped && readings.streamsClosed && readings.workersStopped &&
        (readings.workersStopped || readings.cancellations.all id) then "completed"
    else "incomplete"
  method := some (if readings.terminationFailed then "termination-failed" else readings.method)
  confirmed := readings.confirmed
  duration := readings.duration
  drainTruncated := readings.forcedOutputClose || readings.outputError || readings.outputAlive

end CleanupReadings

/-- `_emergency_cleanup`; `single` is `_SingleProcessContainment`, whose process is
waited for instead of probed. -/
def CleanupReadings.emergencyConfirmed (readings : CleanupReadings) (single : Bool) : Bool :=
  readings.terminated && if single then readings.reaped else readings.active = some false

def CleanupReadings.emergencyCleanup (readings : CleanupReadings) (single : Bool) : CleanupResult where
  outcome :=
    if readings.emergencyConfirmed single && readings.reaped && readings.streamsClosed then "completed"
    else "incomplete"
  method := some (if readings.terminated then readings.method else "termination-failed")
  confirmed := readings.emergencyConfirmed single
  duration := readings.duration
  drainTruncated := true

/-- `_include_start_observer_cleanup`; none where no recorder is alive, else whether
it was cancelled and has stopped, and how long that took. -/
def CleanupResult.includeStartObserver (cleanup : CleanupResult) : Option (Bool × Rat) → CleanupResult
  | none => cleanup
  | some (stopped, seconds) =>
    { cleanup with
      outcome := if stopped then cleanup.outcome else "incomplete"
      duration := cleanup.duration + max 0 seconds }

/-- The observer and the clock as `_evidence` finds them. -/
structure EvidenceReadings where
  snapshot : Observed
  totalSeconds : Rat

/-- `_evidence`. -/
def processEvidence (limits : MonitorLimits) (readings : EvidenceReadings) (outcomeElapsedSeconds : Rat)
    (deadlineOutcome finalizationOutcome : String) (cleanup : CleanupResult) : CodexProcessEvidence :=
  let worked := max 0 outcomeElapsedSeconds
  { workTimeoutSeconds := limits.timeoutSeconds
    workElapsedSeconds :=
      (limits.timeoutSeconds.map fun timeout => min worked (timeout + finalizationSeconds)).getD worked
    totalElapsedSeconds := max 0 readings.totalSeconds
    terminalEventType := readings.snapshot.terminalEventType
    terminalEventElapsedSeconds := readings.snapshot.terminalEventElapsedSeconds
    completionBeforeDeadline := limits.timelyTerminal readings.snapshot
    structuredMessage := readings.snapshot.structuredMessage
    structuredMessageElapsedSeconds := readings.snapshot.structuredMessageElapsedSeconds
    structuredMessageBeforeDeadline := limits.timelyMessage readings.snapshot
    deadlineOutcome
    finalizationOutcome
    cleanupOutcome := cleanup.outcome
    terminationMethod := cleanup.method
    treeTerminationConfirmed := some cleanup.confirmed
    cleanupDurationSeconds := cleanup.duration
    outputDrainingTruncated := cleanup.drainTruncated
    eventStreamProblem := readings.snapshot.problem }

def Verdict.deadlineOutcome : Verdict → String
  | .streamFailure _ => "stream-failure"
  | .eventConflict _ => "event-conflict"
  | .terminalFailure _ => "terminal-failure"
  | .completed | .expired => "completed-before-deadline"
  | .timedOut => "timed-out"
  | .notEligible => "process-exited-without-timely-completion"

def Verdict.finalizationOutcome : Verdict → String
  | .streamFailure _ | .eventConflict _ | .terminalFailure _ => "failed"
  | .completed => "completed"
  | .expired => "expired"
  | .timedOut | .notEligible => "not-eligible"

/-- `transport_failure` as the loop leaves it. -/
def Verdict.transportFailure : Verdict → Option String
  | .streamFailure message => some message
  | .eventConflict problem => some problem
  | .terminalFailure terminal => some ("Codex emitted " ++ terminal ++ ".")
  | .expired =>
    some "Codex did not exit and publish its final output within 5 seconds of timely completion."
  | .completed | .timedOut | .notEligible => none

/-- What the texts and captures of the workers are in the end. -/
structure WorkerReadings where
  stdout : String
  stderr : String
  stdoutCapture : CaptureResult
  stderrCapture : CaptureResult

/-- What `_monitor` meets after its loop. -/
structure MonitorEnding where
  containmentActive : Except Raised Bool
  workersDone : Bool
  cleanup : Except Raised CleanupReadings
  /-- `_close_process_streams`, and how long it took. -/
  streamsClosed : Bool
  closeSeconds : Rat
  /-- `process.poll()` and the code it leaves. -/
  returncode : Except Raised (Option Int)
  evidence : EvidenceReadings
  workers : WorkerReadings

def uncertainCleanup : String := "invocation-tree cleanup could not be confirmed"

/-- The failure of a run whose cleanup could not be confirmed. -/
def withUncertainCleanup : Option String → String
  | none => uncertainCleanup
  | some failure => failure ++ "; " ++ uncertainCleanup

/-- The containment, which is not looked at after a failure. -/
def MonitorEnding.probe (ending : MonitorEnding) (failure : Option String) : Except Raised Bool :=
  if failure.isSome then .ok false else ending.containmentActive

/-- The cleanup after the loop, and the transport failure it leaves. -/
def MonitorEnding.settle (ending : MonitorEnding) (failure : Option String) :
    Except Raised (CleanupResult × Option String) := do
  let active ← ending.probe failure
  if failure.isSome || active || !ending.workersDone then do
    let readings ← ending.cleanup
    pure (readings.cleanup, if readings.confirmed then failure else some (withUncertainCleanup failure))
  else if ending.streamsClosed then pure (.notRequired, none)
  else pure (⟨"incomplete", some "stream-close", true, max 0 ending.closeSeconds, false⟩,
    some "Codex process streams could not be closed.")

/-- `outcome_elapsed_seconds`. -/
def outcomeElapsed (limits : MonitorLimits) (verdict : Verdict) (look : MonitorLook) : Rat :=
  let elapsed := max 0 (look.now - limits.launchedAt)
  if verdict = .completed then look.snapshot.terminalEventElapsedSeconds.getD elapsed else elapsed

/-- The rest of `_monitor` once its loop is left with a result. -/
def finishMonitor (limits : MonitorLimits) (ending : MonitorEnding) (verdict : Verdict) (look : MonitorLook) :
    Except Raised CodexProcessResult := do
  let (cleanup, transportFailure) ← ending.settle verdict.transportFailure
  let returncode ← ending.returncode
  pure
    { returncode := returncode.getD (-1)
      stdout := ending.workers.stdout
      stderr := ending.workers.stderr
      evidence := processEvidence limits ending.evidence (outcomeElapsed limits verdict look)
        verdict.deadlineOutcome verdict.finalizationOutcome cleanup
      stdoutCapture := ending.workers.stdoutCapture
      stderrCapture := ending.workers.stderrCapture
      transportFailure }

/-- What `_timeout` meets. -/
structure TimeoutReadings where
  cleanup : Except Raised CleanupReadings
  evidence : EvidenceReadings
  workers : WorkerReadings

/-- `_timeout`, which never returns. -/
def raiseTimeout (limits : MonitorLimits) (readings : TimeoutReadings) : RunnerStop :=
  match readings.cleanup with
  | .error error => .raised error
  | .ok cleanup =>
    .timedOut
      { stdout := readings.workers.stdout
        stderr := readings.workers.stderr
        timeoutSeconds := limits.timeoutSeconds.getD 0
        evidence := processEvidence limits readings.evidence (limits.timeoutSeconds.getD 0)
          "timed-out" "not-eligible" cleanup.cleanup
        stdoutCapture := readings.workers.stdoutCapture
        stderrCapture := readings.workers.stderrCapture }

/-- The loop of `_monitor`: why it is left and the look that this was decided on, or
nothing while it goes on. -/
def monitorLoop (limits : MonitorLimits) :
    Option Rat → List (Except Raised MonitorSample) → Option (Except Raised (Verdict × MonitorLook))
  | _, [] => none
  | _, .error error :: _ => some (.error error)
  | finalizationDeadline, .ok sample :: rest =>
    match monitorIteration limits finalizationDeadline sample with
    | .leave verdict => some (.ok (verdict, sample.look limits finalizationDeadline))
    | .again finalizationDeadline => monitorLoop limits finalizationDeadline rest

/-- What `communicate` does. -/
inductive Communication
  | finished (returncode : Int) (stdout stderr : String)
  /-- `TimeoutExpired`, and what `containment.terminate()` does then. -/
  | expired (terminated : Except Raised Unit) (stdout stderr : String)
  | raised (error : Raised)

/-- No capture: the fields keep their defaults. -/
def CaptureResult.absent : CaptureResult := ⟨none, true, false, 0, 0, []⟩

/-- `_run_compatibility_process`; `elapsed` is the clock after the launch. -/
def runCompatibilityProcess (limits : MonitorLimits) (elapsed : Rat) : Communication → Except RunnerStop CodexProcessResult
  | .raised error => .error (.raised error)
  | .expired (.error error) _ _ => .error (.raised error)
  | .expired (.ok _) stdout stderr =>
    .error (.timedOut
      { stdout, stderr
        timeoutSeconds := limits.timeoutSeconds.getD 0
        evidence :=
          { workTimeoutSeconds := limits.timeoutSeconds
            workElapsedSeconds := limits.timeoutSeconds.getD 0
            totalElapsedSeconds := max 0 elapsed
            deadlineOutcome := "timed-out"
            finalizationOutcome := "not-eligible"
            cleanupOutcome := "completed"
            terminationMethod := some "single-process-fallback"
            treeTerminationConfirmed := some true }
        stdoutCapture := .absent
        stderrCapture := .absent })
  | .finished returncode stdout stderr =>
    .ok
      { returncode, stdout, stderr
        evidence :=
          { workTimeoutSeconds := limits.timeoutSeconds
            workElapsedSeconds := max 0 elapsed
            totalElapsedSeconds := max 0 elapsed
            terminalEventType := some "turn.completed"
            terminalEventElapsedSeconds := some 0
            completionBeforeDeadline := true
            structuredMessageBeforeDeadline := true
            deadlineOutcome := "completed-before-deadline"
            finalizationOutcome := "completed"
            treeTerminationConfirmed := some true }
        stdoutCapture := .absent
        stderrCapture := .absent
        transportFailure := none }

/-- `_notify_process_start`. -/
inductive StartNotice
  /-- Nobody is told, or the callback has returned. -/
  | given
  /-- The deadline passed before it did. -/
  | late
  | observerRaised (error : Raised)
  | raised (error : Raised)

/-- What `SubprocessCodexRunner.run` meets. -/
structure RunnerCalls where
  limits : MonitorLimits
  stdoutOpened : Except Raised Unit
  stderrOpened : Except Raised Unit
  launched : Except Raised Unit
  contained : Except Raised Unit
  /-- Whether the process has streams and can be polled. -/
  streams : Bool
  /-- `_SingleProcessContainment` contains the process. -/
  single : Bool
  workersCreated : Except Raised Unit
  readersStarted : Except Raised Unit
  notice : StartNotice
  inputStarted : Except Raised Unit
  samples : List (Except Raised MonitorSample)
  ending : MonitorEnding
  timeout : TimeoutReadings
  communication : Communication
  communicationSeconds : Rat
  /-- The cleanup of a process that could not be contained, of one without streams
  and of a failure. -/
  emergency : Except Raised CleanupReadings
  cleanup : Except Raised CleanupReadings
  startObserver : Option (Bool × Rat)
  /-- The shutdown of the capture helpers. -/
  capturesClosed : Except Raised Bool
  closedSeconds : Rat
  returncode : Option Int
  evidence : EvidenceReadings
  outcomeSeconds : Rat
  workers : WorkerReadings
  /-- What `finally` does. -/
  closed : Except Raised Unit

def unconfirmedHelpers (confirmed : Bool) : String :=
  if confirmed then "" else "; capture-helper shutdown could not be confirmed"

namespace RunnerCalls

variable (calls : RunnerCalls)

/-- The result of a process that failed after its launch. -/
def failedResult (deadlineOutcome transportFailure : String) (cleanup : CleanupResult)
    (workers : WorkerReadings) : CodexProcessResult where
  returncode := calls.returncode.getD (-1)
  stdout := workers.stdout
  stderr := workers.stderr
  evidence := processEvidence calls.limits calls.evidence (max 0 calls.outcomeSeconds) deadlineOutcome "failed" cleanup
  stdoutCapture := workers.stdoutCapture
  stderrCapture := workers.stderrCapture
  transportFailure := some transportFailure

/-- `_contain_process` has raised. -/
def containmentFailed (error : Raised) : Except Raised CodexProcessResult := do
  let cleanup ← calls.emergency
  let captured ← calls.capturesClosed
  raiseIf (error.isinstance .exception = false) error
  pure (calls.failedResult "containment-failure"
    ("Codex invocation containment failed after launch: " ++ error.message ++ unconfirmedHelpers captured)
    ⟨"incomplete", some "containment-setup-failed", false, max cleanup.duration calls.closedSeconds, true⟩
    { calls.workers with stdout := "", stderr := "" })

/-- The deadline has passed before the start of a process without streams was recorded. -/
def lateCompatibility : Except RunnerStop CodexProcessResult :=
  match calls.emergency with
  | .error error => .error (.raised error)
  | .ok readings =>
    let cleanup := (readings.emergencyCleanup calls.single).includeStartObserver calls.startObserver
    .error (.timedOut
      { stdout := ""
        stderr := ""
        timeoutSeconds := calls.limits.timeoutSeconds.getD 0
        evidence :=
          { workTimeoutSeconds := calls.limits.timeoutSeconds
            workElapsedSeconds := calls.limits.timeoutSeconds.getD 0
            totalElapsedSeconds := max 0 calls.evidence.totalSeconds
            deadlineOutcome := "timed-out"
            finalizationOutcome := "not-eligible"
            cleanupOutcome := cleanup.outcome
            terminationMethod := cleanup.method
            treeTerminationConfirmed := some cleanup.confirmed
            cleanupDurationSeconds := cleanup.duration
            outputDrainingTruncated := cleanup.drainTruncated }
        stdoutCapture := { calls.workers.stdoutCapture with complete := false }
        stderrCapture := { calls.workers.stderrCapture with complete := false } })

/-- The `try` block for a process without streams. -/
def runWithoutStreams : Except RunnerStop CodexProcessResult :=
  match calls.notice with
  | .observerRaised error => .error (.observerRaised error)
  | .raised error => .error (.raised error)
  | .late => calls.lateCompatibility
  | .given => runCompatibilityProcess calls.limits calls.communicationSeconds calls.communication

/-- `_monitor`, once its loop has been left. -/
def leaveMonitor : Verdict × MonitorLook → Except RunnerStop CodexProcessResult
  | (.timedOut, _) => .error (raiseTimeout calls.limits calls.timeout)
  | (verdict, look) => (finishMonitor calls.limits calls.ending verdict look).mapError .raised

/-- `_monitor`. -/
def monitor : Option (Except RunnerStop CodexProcessResult) :=
  (monitorLoop calls.limits none calls.samples).map fun left => left.mapError .raised >>= calls.leaveMonitor

/-- The `try` block after the workers have been made. -/
def runWithWorkers : Option (Except RunnerStop CodexProcessResult) :=
  match calls.readersStarted with
  | .error error => some (.error (.raised error))
  | .ok _ =>
    match calls.notice with
    | .observerRaised error => some (.error (.observerRaised error))
    | .raised error => some (.error (.raised error))
    | .late => some (.error (raiseTimeout calls.limits calls.timeout))
    | .given =>
      match calls.inputStarted with
      | .error error => some (.error (.raised error))
      | .ok _ => calls.monitor

/-- The cleanup of a failure, and whether the capture helpers were shut down. -/
def failureCleanup (workers : Bool) : Except Raised (CleanupResult × Bool) :=
  if workers then (fun readings => (readings.cleanup, true)) <$> calls.cleanup
  else do
    let readings ← calls.emergency
    let cleanup := (readings.emergencyCleanup calls.single).includeStartObserver calls.startObserver
    let captured ← calls.capturesClosed
    pure (if captured then cleanup
      else ⟨"incomplete", cleanup.method, cleanup.confirmed, max cleanup.duration calls.closedSeconds, true⟩, captured)

/-- The `except` block. -/
def settleFailure (workers : Bool) : RunnerStop → Except RunnerStop CodexProcessResult
  | .timedOut timeout => .error (.timedOut timeout)
  | .observerRaised error =>
    (calls.failureCleanup workers).mapError .raised >>= fun _ => .error (.observerRaised error)
  | .raised error => do
    let (cleanup, captured) ← (calls.failureCleanup workers).mapError RunnerStop.raised
    if error.isinstance .exception then
      pure (calls.failedResult "setup-failure"
        ("Codex transport setup failed after launch: " ++ error.message ++ unconfirmedHelpers captured)
        cleanup calls.workers)
    else .error (.raised error)

/-- `try: body / except: .. / finally: ..`; `workers` says whether there are workers. -/
def guarded (workers : Bool) (body : Except RunnerStop CodexProcessResult) : Except RunnerStop CodexProcessResult :=
  let outcome := match body with
    | .ok result => .ok result
    | .error stop => calls.settleFailure workers stop
  calls.closed.mapError RunnerStop.raised >>= fun _ => outcome

/-- The `try` block. -/
def runContained : Option (Except RunnerStop CodexProcessResult) :=
  if calls.streams then
    match calls.workersCreated with
    | .error error => some (calls.guarded false (.error (.raised error)))
    | .ok _ => calls.runWithWorkers.map (calls.guarded true)
  else some (calls.guarded false calls.runWithoutStreams)

/-- `SubprocessCodexRunner.run`, or nothing while it goes on. -/
def run : Option (Except RunnerStop CodexProcessResult) :=
  match calls.stdoutOpened >>= fun _ => calls.stderrOpened >>= fun _ => calls.launched with
  | .error error => some (.error (.raised error))
  | .ok _ =>
    match calls.contained with
    | .error error => some ((calls.containmentFailed error).mapError .raised)
    | .ok _ => calls.runContained

end RunnerCalls

/-! ## Unconfirmed cleanup -/

/-- The failure text of an uncertain cleanup is never blank. -/
theorem withUncertainCleanup_filled (failure : Option String) : isBlank (withUncertainCleanup failure) = false := by
  cases failure with
  | none => decide
  | some text =>
    exact append_filled (by decide)

/-- A result whose cleanup was not confirmed has a transport failure with a text. -/
def CodexProcessResult.Troubled (result : CodexProcessResult) : Prop :=
  result.evidence.treeTerminationConfirmed = some false →
    ∃ text, result.transportFailure = some text ∧ isBlank text = false

/-- What the cleanup after the loop leaves. -/
inductive Settled (ending : MonitorEnding) (failure : Option String) : CleanupResult → Option String → Prop
  | cleaned (readings : CleanupReadings) (ran : ending.cleanup = .ok readings)
      (cause : failure.isSome = true ∨ ending.containmentActive = .ok true ∨ ending.workersDone = false) :
      Settled ending failure readings.cleanup
        (if readings.confirmed then failure else some (withUncertainCleanup failure))
  | closed (inactive : ending.containmentActive = .ok false) (done : ending.workersDone = true)
      (streams : ending.streamsClosed = true) (fine : failure = none) : Settled ending failure .notRequired none
  | unclosed (cleanup : CleanupResult) (text : String) (confirmed : cleanup.confirmed = true)
      (filled : isBlank text = false) : Settled ending failure cleanup (some text)

/-- Without a transport failure the probe says whether the containment is active. -/
theorem MonitorEnding.probe_none (ending : MonitorEnding) : ending.probe none = ending.containmentActive := rfl

/-- What the cleanup found and what it reports fit together. -/
theorem MonitorEnding.settle_ok {ending : MonitorEnding} {failure transport : Option String} {cleanup : CleanupResult}
    (h : ending.settle failure = .ok (cleanup, transport)) : Settled ending failure cleanup transport := by
  obtain ⟨active, probed, h⟩ := bind_ok_iff.mp h
  by_cases required : (failure.isSome || active || !ending.workersDone) = true
  · rw [if_pos required] at h
    obtain ⟨readings, ran, h⟩ := bind_ok_iff.mp h
    cases h
    refine .cleaned readings ran ?_
    rw [Bool.or_eq_true, Bool.or_eq_true, Bool.not_eq_true'] at required
    rcases required with (failed | active) | undone
    · exact .inl failed
    · cases failure with
      | some text => exact .inl rfl
      | none =>
        rw [active, MonitorEnding.probe_none] at probed
        exact .inr (.inl probed)
    · exact .inr (.inr undone)
  · rw [if_neg required] at h
    rw [Bool.or_eq_true, Bool.or_eq_true, Bool.not_eq_true', not_or, not_or, Bool.not_eq_true, Bool.not_eq_true,
      Bool.not_eq_false] at required
    obtain ⟨⟨fine, inactive⟩, done⟩ := required
    split at h
    · rename_i streams
      cases h
      cases failure with
      | some text => cases fine
      | none =>
        rw [inactive, MonitorEnding.probe_none] at probed
        exact .closed probed done streams rfl
    · cases h
      exact .unclosed _ _ rfl (by decide)

/-- A result with a cleanup that is not confirmed carries a transport failure. -/
theorem finishMonitor_troubled {limits : MonitorLimits} {ending : MonitorEnding} {verdict : Verdict}
    {look : MonitorLook} {result : CodexProcessResult} (h : finishMonitor limits ending verdict look = .ok result) :
    result.Troubled := by
  obtain ⟨⟨cleanup, transport⟩, settled, h⟩ := bind_ok_iff.mp h
  obtain ⟨code, _, h⟩ := bind_ok_iff.mp h
  cases h
  intro unconfirmed
  have loose : cleanup.confirmed = false := Option.some.inj unconfirmed
  cases MonitorEnding.settle_ok settled with
  | cleaned readings =>
    have loose : readings.confirmed = false := loose
    refine ⟨_, ?_, withUncertainCleanup_filled verdict.transportFailure⟩
    show (if readings.confirmed = true then _ else _) = _
    rw [if_neg (by rw [loose]; exact Bool.false_ne_true)]
  | closed => cases loose
  | unclosed _ text confirmed filled => exact ⟨text, rfl, filled⟩

theorem mapError_ok {ε ε' α : Type} {f : ε → ε'} {body : Except ε α} {a : α} :
    body.mapError f = .ok a ↔ body = .ok a := by
  cases body <;> simp [Except.mapError]

namespace RunnerCalls

variable {calls : RunnerCalls}

/-- How a run ends with a result. -/
inductive Ended (calls : RunnerCalls) : CodexProcessResult → Prop
  | monitored (verdict : Verdict) (look : MonitorLook) (result : CodexProcessResult)
      (left : monitorLoop calls.limits none calls.samples = some (.ok (verdict, look)))
      (intime : verdict ≠ .timedOut)
      (finished : finishMonitor calls.limits calls.ending verdict look = .ok result) : Ended calls result
  | failed (outcome text : String) (cleanup : CleanupResult) (workers : WorkerReadings) (filled : isBlank text = false) :
      Ended calls (calls.failedResult outcome text cleanup workers)
  | compatible (result : CodexProcessResult) (confirmed : result.evidence.treeTerminationConfirmed = some true)
      (silent : result.evidence.structuredMessage = none) : Ended calls result

/-- The ways `run` can end, one lemma each. -/
theorem containmentFailed_ended {error : Raised} {result : CodexProcessResult}
    (h : calls.containmentFailed error = .ok result) : calls.Ended result := by
  obtain ⟨cleanup, _, h⟩ := bind_ok_iff.mp h
  obtain ⟨captured, _, h⟩ := bind_ok_iff.mp h
  obtain ⟨_, h⟩ := check_bind_ok.mp h
  cases h
  exact .failed _ _ _ _ (filled_append (filled_append (by decide)))

theorem settleFailure_ended {workers : Bool} {stop : RunnerStop} {result : CodexProcessResult}
    (h : calls.settleFailure workers stop = .ok result) : calls.Ended result := by
  cases stop with
  | timedOut timeout => cases h
  | observerRaised error =>
    obtain ⟨_, _, h⟩ := bind_ok_iff.mp h
    cases h
  | raised error =>
    obtain ⟨⟨cleanup, captured⟩, _, h⟩ := bind_ok_iff.mp h
    dsimp only at h
    split at h
    · cases h
      exact .failed _ _ _ _ (filled_append (filled_append (by decide)))
    · cases h

theorem guarded_ended {workers : Bool} {body : Except RunnerStop CodexProcessResult} {result : CodexProcessResult}
    (ended : ∀ result, body = .ok result → calls.Ended result) (h : calls.guarded workers body = .ok result) :
    calls.Ended result := by
  obtain ⟨_, _, h⟩ := bind_ok_iff.mp h
  cases body with
  | ok found => exact ended result h
  | error stop => exact settleFailure_ended h

theorem runWithoutStreams_ended {result : CodexProcessResult} (h : calls.runWithoutStreams = .ok result) :
    calls.Ended result := by
  unfold runWithoutStreams at h
  split at h
  · cases h
  · cases h
  · unfold lateCompatibility at h
    split at h <;> cases h
  · unfold runCompatibilityProcess at h
    split at h
    · cases h
    · cases h
    · cases h
    · cases h
      exact .compatible _ rfl rfl

/-- The ending after the monitor has decided. -/
theorem leaveMonitor_ended {verdict : Verdict} {look : MonitorLook} {result : CodexProcessResult}
    (left : monitorLoop calls.limits none calls.samples = some (.ok (verdict, look)))
    (h : calls.leaveMonitor (verdict, look) = .ok result) : calls.Ended result := by
  by_cases late : verdict = .timedOut
  · subst late
    cases h
  · have finished : (finishMonitor calls.limits calls.ending verdict look).mapError RunnerStop.raised = .ok result := by
      rw [← h]
      cases verdict <;> first | rfl | exact absurd rfl late
    exact .monitored verdict look result left late (mapError_ok.mp finished)

theorem runWithWorkers_ended {body : Except RunnerStop CodexProcessResult} (h : calls.runWithWorkers = some body) :
    ∀ result, body = .ok result → calls.Ended result := by
  rintro result rfl
  unfold runWithWorkers at h
  split at h
  · cases h
  split at h
  · cases h
  · cases h
  · cases h
  split at h
  · cases h
  obtain ⟨left, ran, h⟩ := Option.map_eq_some_iff.mp h
  obtain ⟨⟨verdict, look⟩, decided, h⟩ := bind_ok_iff.mp h
  rw [mapError_ok] at decided
  exact leaveMonitor_ended (by rw [ran, decided]) h

/-- **How a run ends** that ends with a result. -/
theorem run_ended {result : CodexProcessResult} (h : calls.run = some (.ok result)) : calls.Ended result := by
  unfold run at h
  split at h
  · cases h
  split at h
  · exact containmentFailed_ended (mapError_ok.mp (Option.some.inj h))
  unfold runContained at h
  split at h
  · split at h
    · refine guarded_ended (fun _ raised => ?_) (Option.some.inj h)
      cases raised
    · obtain ⟨body, ran, h⟩ := Option.map_eq_some_iff.mp h
      exact guarded_ended (runWithWorkers_ended ran) h
  · exact guarded_ended (fun _ => runWithoutStreams_ended) (Option.some.inj h)

/-- However `run` ended, an unconfirmed cleanup is reported. -/
theorem Ended.troubled {result : CodexProcessResult} (ended : calls.Ended result) : result.Troubled := by
  cases ended with
  | monitored _ _ _ _ _ finished => exact finishMonitor_troubled finished
  | failed _ text _ _ filled => exact fun _ => ⟨text, rfl, filled⟩
  | compatible _ confirmed =>
    intro unconfirmed
    rw [confirmed] at unconfirmed
    cases unconfirmed

end RunnerCalls

end SprintTicket
