import SprintTicket.Lifecycle.Dispatch

/-!
# The controller

`driveLoop` is the loop of `_drive_lifecycle`: each pass starts an attempt,
dispatches the stage of the current state, applies its decision, and persists
attempt and run record in the order of the source. `driveSafely` adds the
handling of everything the loop raises. What the passes and the failure path
meet outside the store is given: every call of theirs may raise.
-/

set_option autoImplicit false

namespace SprintTicket

open Checks Effects Effects.Effect

/-- What one pass meets, in the order of the source. -/
structure Pass extends StageDispatch where
  ownedAtStart : OwnershipCheck
  /-- The first `_update_repository_lock`. -/
  lockAtStart : Except Raised Unit
  capture : Except Raised WorkspaceSnapshot
  startedAt : Timestamp
  startOutcome : WriteOutcome
  /-- `artifact_layout.revalidate()`. -/
  layoutRevalidate : Except Raised Unit
  ownedAfterDispatch : OwnershipCheck
  timestamp : Except Raised String
  saveOutcome : WriteOutcome
  ownedAfterSave : OwnershipCheck
  messageOutcome : WriteOutcome
  completedAt : Timestamp
  completeOutcome : WriteOutcome
  /-- The second `_update_repository_lock`. -/
  lockAfter : Except Raised Unit

/-- The states in which the workspace is captured before the attempt starts. -/
def WorkflowState.capturesBefore : WorkflowState → Bool
  | .preparing | .verifying | .reviewing | .reporting => true
  | _ => false

section Controller

variable (sha256 : Sha256) (printable : Char → Bool) (runPath : String)

/-- `_start_stage_attempt`. -/
def startStageAttempt (pass : Pass) (record : RunRecord) : Controlled (Option AttemptRecord) :=
  match phaseForActiveState record.state with
  | none => pure none
  | some phase => do
    let before ←
      if record.state.capturesBefore then call (capturedFingerprint sha256 pass.capture) else pure none
    let attempt ← startAttempt runPath phase before pass.startedAt pass.startOutcome
    pure (some attempt)

/-- `_save_lifecycle_run`; a refused ownership check is a lost write. -/
def saveLifecycleRun (outcome : WriteOutcome) (record : RunRecord) : Controlled Unit :=
  persist outcome (RunStore.save record)

/-- `wire_status` of `write_stage_message_result`. -/
def wireStatus (status : StageOutcome) : String :=
  if status = .completed then VerificationStatus.pass.value else status.value

/-- `write_stage_message_result`. -/
def writeStageMessageResult (outcome : WriteOutcome) (attempt : AttemptRecord) (evidence : ReportingEvidence) :
    Controlled Unit :=
  persist outcome (RunStore.writeResult attempt.sequence
    (.obj [("status", .str (wireStatus evidence.status)), ("message", .str evidence.message)]))

/-- The call of `complete_stage_attempt` at the end of a pass. -/
def completePass (pass : Pass) (attempt : AttemptRecord) (completion : StageCompletion) : Controlled Unit := do
  let metadata ← call (AttemptMetadata.ofControllerMessage completion.message)
  completeStageAttempt
    { attempt := StageAttempt.fromRecord attempt.toAttemptFields
      stageOutcome := completion.outcome
      afterWorkspaceFingerprint := completion.afterWorkspaceFingerprint
      processStarted := some completion.processStarted
      metadata := some metadata } pass.completedAt pass.completeOutcome

/-- The writes at the end of a pass: reporting saves the run first, every other
stage completes its attempt first. -/
def persistDecision (pass : Pass) (attempt : Option AttemptRecord) (decision : StageDecision)
    (updated : RunRecord) : Controlled Unit :=
  match decision.completion, attempt with
  | none, _ => saveLifecycleRun pass.saveOutcome updated
  | some _, none =>
    raise (.raised ⟨.runError, "Executed stage decision has no controller-owned attempt."⟩)
  | some completion, some attempt =>
    match completion.reportingEvidence with
    | some evidence => do
      saveLifecycleRun pass.saveOutcome updated
      requireOwned pass.ownedAfterSave
      writeStageMessageResult pass.messageOutcome attempt evidence
      completePass pass attempt completion
    | none => do
      completePass pass attempt completion
      saveLifecycleRun pass.saveOutcome updated

/-- `timestamp_now`, read after the check of the source state. -/
def decisionTimestamp (pass : Pass) (record : RunRecord) (decision : StageDecision) : Except Raised String := do
  raiseIf (decision.sourceState ≠ record.state)
    ⟨.runError, "Stage decision source state does not match the run record."⟩
  pass.timestamp

/-- A pass from its dispatch on. -/
def finishPass (pass : Pass) (record : RunRecord) (attempt : Option AttemptRecord) : Controlled RunRecord := do
  let decision ← dispatchOnce sha256 printable pass.toStageDispatch record
    (attempt.map fun attempt => StageAttempt.fromRecord attempt.toAttemptFields)
  if attempt.isSome then call pass.layoutRevalidate
  requireOwned pass.ownedAfterDispatch
  let timestamp ← call (decisionTimestamp pass record decision)
  let updated ← call (applyStageDecision record decision timestamp)
  persistDecision pass attempt decision updated
  call pass.lockAfter
  pure updated

/-- One pass of the loop of `_drive_lifecycle`: the next run record. -/
def drivePass (pass : Pass) (record : RunRecord) : Controlled RunRecord := do
  requireOwned pass.ownedAtStart
  call pass.lockAtStart
  let attempt ← startStageAttempt sha256 runPath pass record
  finishPass sha256 printable pass record attempt

/-- The loop of `_drive_lifecycle`; `none` when it did not end within `fuel` passes. -/
def driveLoop (passes : Nat → Pass) : Nat → Nat → RunRecord → Controlled (Option RunRecord)
  | fuel, index, record =>
    if record.state.terminal then pure (some record)
    else
      match fuel with
      | 0 => pure none
      | fuel + 1 => do
        let updated ← drivePass sha256 printable runPath (passes index) record
        driveLoop passes fuel (index + 1) updated

structure LifecycleSafetyViolation where
  name : String
  expected : String
  actual : String
  message : String
deriving DecidableEq

/-- The part of `LifecycleResult` that the controller decides. -/
structure LifecycleResult where
  record : RunRecord
  /-- `report_result is not None`. -/
  reported : Bool
  safetyViolations : List LifecycleSafetyViolation
  controllerError : Option String

/-- The message of `_ownership_failure_result`. -/
def ownershipLostText (text : String) : String :=
  "Run directory ownership was lost. Lifecycle persistence and reporting " ++
    "were stopped without writing through the untrusted path: " ++ text

/-- `_ownership_failure_result`. -/
def ownershipFailureResult (record : RunRecord) (text : String) : LifecycleResult where
  record
  reported := false
  safetyViolations :=
    [⟨"run-directory-ownership", "the selected direct, non-linked child of the runs root", text,
      ownershipLostText text⟩]
  controllerError := some (ownershipLostText text)

/-- What `_publish_terminal_report` meets. -/
structure Publication where
  owned : OwnershipCheck
  publish : Except Raised Unit

/-- `_publish_terminal_report`: whether there is a report. -/
def publishTerminalReport (publication : Publication) : Controlled Bool := do
  match ← caught (do requireOwned publication.owned; call publication.publish) with
  | .ok () => pure true
  | .error error =>
    if error.isinstance .runOwnershipError || !error.isinstance .exception then raise (.raised error)
    else pure false

/-! ## The lifecycle -/

/-- What the handling of a failure meets. -/
structure FailurePath where
  owned : OwnershipCheck
  /-- `load_run_record_for_owner` in `_mark_controller_exception`. -/
  load : Except Raised Unit
  /-- `load_run_record_for_owner` in `_mark_terminal_stop`. -/
  reload : Except Raised Unit
  timestamp : Except Raised String
  saveOutcome : WriteOutcome
  /-- `_update_repository_lock`. -/
  lock : Except Raised Unit
  publication : Publication

/-- Why `_controller_run_ownership` refuses the run directory. -/
inductive OwnershipRefusal
  | lost (text : String)
  /-- The `ValueError` for an invalid run ID. -/
  | invalidRunId (text : String)

def OwnershipRefusal.text : OwnershipRefusal → String
  | lost text => text
  | invalidRunId text => text

/-- Everything `drive_safely` meets. -/
structure DriveEnvironment where
  ownership : Except OwnershipRefusal Unit
  passes : Nat → Pass
  publication : Publication
  /-- The last `_update_repository_lock`. -/
  lockAtEnd : Except Raised Unit
  failure : FailurePath
  exceptionPrefix : String

variable (environment : DriveEnvironment)

/-- `_drive_lifecycle`; `none` when its loop did not end within `fuel` passes. -/
def driveLifecycle (fuel : Nat) (record : RunRecord) : Controlled (Option LifecycleResult) := do
  match ← driveLoop sha256 printable runPath environment.passes fuel 0 record with
  | none => pure none
  | some final => do
    let reported ← publishTerminalReport environment.publication
    call environment.lockAtEnd
    pure (some ⟨final, reported, [], none⟩)

/-- `_mark_terminal_stop`. -/
def markTerminalStop (failure : FailurePath) (stop : TerminalStop) : Controlled RunRecord := do
  call failure.reload
  let store ← get
  let timestamp ← call failure.timestamp
  let updated ← call (store.record.transitionTo stop.state timestamp
    { terminalReason := some stop.reason.message, stopReason := some stop.reason })
  persist failure.saveOutcome (RunStore.stop updated)
  pure updated

/-- `_mark_controller_exception`. -/
def markControllerException (failure : FailurePath) (controllerError : String) : Controlled RunRecord := do
  call failure.load
  let store ← get
  if store.record.state.terminal then pure store.record
  else do
    let stop ← call (classifyUnexpectedControllerFailure store.record.state controllerError)
    markTerminalStop failure stop

/-- `_controller_failure_result`. -/
def controllerFailureResult (failure : FailurePath) (controllerError : String) (record : RunRecord) :
    Controlled LifecycleResult := do
  match ← caught (do requireOwned failure.owned; markControllerException failure controllerError) with
  | .error error =>
    if error.isinstance .runOwnershipError then pure (ownershipFailureResult record error.message)
    else raise (.raised error)
  | .ok marked => do
    call failure.lock
    let _ ← publishTerminalReport failure.publication
    pure ⟨marked, false, [], some controllerError⟩

/-- The text of the controller error for an exception of the loop. -/
def controllerErrorText (exceptionPrefix : String) (error : Raised) : String :=
  if error.isinstance .runError then error.message
  else exceptionPrefix ++ ": " ++ error.describe

/-- The `except` clauses of `_drive_lifecycle_safely`. -/
def handleDriveError (record : RunRecord) (error : Raised) : Controlled LifecycleResult :=
  if error.isinstance .runOwnershipError then pure (ownershipFailureResult record error.message)
  else if error.isinstance .exception then
    controllerFailureResult environment.failure (controllerErrorText environment.exceptionPrefix error) record
  else raise (.raised error)

/-- `_drive_lifecycle_safely`. -/
def driveLifecycleSafely (fuel : Nat) (record : RunRecord) : Controlled (Option LifecycleResult) := do
  match ← caught (driveLifecycle sha256 printable runPath environment fuel record) with
  | .ok result => pure result
  | .error error => do
    let result ← handleDriveError environment record error
    pure (some result)

/-- `drive_safely`; `none` when its loop did not end within `fuel` passes. -/
def driveSafely (fuel : Nat) (record : RunRecord) : Controlled (Option LifecycleResult) :=
  match environment.ownership with
  | .error refusal => pure (some (ownershipFailureResult record refusal.text))
  | .ok () => driveLifecycleSafely sha256 printable runPath environment fuel record

end Controller

/-- A stage that could not be run. -/
def exampleUnavailable : Raised := ⟨.osError, "No such file or directory"⟩

/-- A pass whose first lock update ends with `lockAtStart`. -/
def examplePass (lockAtStart : Except Raised Unit) : Pass where
  environment :=
    { preparation := .error exampleUnavailable
      implementation := exampleStageRun exampleExecution
      verification := .error exampleUnavailable
      review := .error exampleUnavailable
      correctionPlan := .ok ()
      correction :=
        { exampleStageRun exampleExecution with
          sourceFingerprint := .ok exampleCleanFingerprint
          writeTicket := .ok "correction.md" }
      handoff := .error exampleUnavailable }
  verification :=
    { load := .error exampleUnavailable
      violations := .ok []
      now := 0
      round := ⟨0, 0, fun _ => ⟨0, 0, .fileNotFound "No such file or directory", .ok ()⟩, .ok [], .ok ()⟩
      cwd := "/repo"
      resultPath := "/runs/r1/result.json"
      resultPath_text := ⟨by decide, by decide⟩
      outcome := .written
      revalidate := .ok ()
      after := .error exampleUnavailable }
  review := ⟨[], .error exampleUnavailable, .written, .error exampleUnavailable⟩
  writable := ⟨false, [], .written⟩
  plannerOwned := .ok ()
  ownedAtStart := .ok ()
  lockAtStart
  capture := .error exampleUnavailable
  startedAt := ⟨"2026-01-01T00:01:00Z"⟩
  startOutcome := .written
  layoutRevalidate := .ok ()
  ownedAfterDispatch := .ok ()
  timestamp := .ok "2026-01-01T00:02:00Z"
  saveOutcome := .written
  ownedAfterSave := .ok ()
  messageOutcome := .written
  completedAt := ⟨"2026-01-01T00:02:00Z"⟩
  completeOutcome := .written
  lockAfter := .ok ()

/-- A run that waits for a correction with no round left. -/
def exampleExhaustedRecord : RunRecord where
  runId := "r1"
  ticketId := "APP-1"
  originalTicketPath := "/tickets/app-1.md"
  runTicketCopyPath := "/runs/r1/ticket.md"
  state := .correctionPending
  startingBranch := "main"
  baselineSha := "4b825dc642cb6eb9a060e54bf8d69288fbee4904"
  currentCorrectionRound := examplePolicy.maxCorrectionRounds
  currentReviewRound := 1
  resolvedPolicy := examplePolicy
  terminalReason := none
  stopReason := none
  createdTimestamp := "2026-01-01T00:00:00Z"
  updatedTimestamp := "2026-01-01T00:10:00Z"
  valid := by decide

/-- The record of the example run when it was created. -/
def exampleNewRecord : RunRecord :=
  { exampleExhaustedRecord with
    state := .preparing
    currentCorrectionRound := 0
    currentReviewRound := 0
    valid := by decide }

/-- A pass whose verification command returns this code. -/
def exampleVerifyingPass (code : Int) : Pass :=
  { examplePass (.ok ()) with
    verification :=
      { (examplePass (.ok ())).verification with
        load := .ok ()
        round := ⟨0, 0, fun _ => ⟨0, 0, .returned code "" "", .ok ()⟩, .ok [], .ok ()⟩ } }

/-- A pass in which the verification of the clean baseline succeeds. -/
def examplePreparingPass : Pass :=
  { exampleVerifyingPass 0 with
    verification := { (exampleVerifyingPass 0).verification with after := .ok exampleCleanWorkspace }
    capture := .ok exampleCleanWorkspace }

/-- A run directory that holds `record` and nothing else yet. -/
def exampleStore (record : RunRecord) : RunStore where
  record
  ledger := .empty
  resultFile _ := .missing exampleUnavailable
  execution _ := none
  events := []

end SprintTicket
