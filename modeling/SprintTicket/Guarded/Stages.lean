import SprintTicket.Baseline
import SprintTicket.Guarded.Failure

/-!
# The two writable stages

`runImplementationStage` and `runCorrectionStage` prepare a guarded write, run
it and turn its outcome into the result of the stage. Both share the handling of
an unsuccessful outcome (`outcomeFinish`); they differ in what a success means
and in the rejections before the write.
-/

set_option autoImplicit false

namespace SprintTicket

open Checks

/-- `_ImplementationSafetyViolation` and `CorrectionSafetyViolation`. -/
structure StageViolation where
  name : String
  expected : String
  actual : String
  message : String
deriving DecidableEq, Repr

def WritableSafetyViolation.toStage (violation : WritableSafetyViolation) : StageViolation :=
  ⟨violation.name, violation.expected, violation.actual, violation.message⟩

/-- `_correction_violations`. -/
def correctionViolations (violations : List WritableSafetyViolation) : List StageViolation :=
  violations.map WritableSafetyViolation.toStage

/-- `_implementation_violations`. -/
def implementationViolations (violations : List WritableSafetyViolation) : List StageViolation :=
  violations.map fun violation =>
    { violation.toStage with
      name := if violation.name = "workspace-fingerprint" then "baseline-workspace" else violation.name }

/-- What a writable stage hands to its `_finish`. -/
structure StageFinish where
  execution : Option AgentExecution
  agentResult : Option TaskResult
  safetyViolations : List StageViolation
  changedFiles : List String
  workspaceGuard : WorkspaceGuardInspection
  outcome : StageOutcome
  controllerMessage : String
  afterWorkspaceFingerprint : Option String
  processStarted : Bool

/-- `ImplementationStageResult`. -/
structure ImplementationStageResult extends StageFinish where
  runRecord : RunRecord
  artifactDirectory : String

/-- `CorrectionStageResult`. -/
structure CorrectionStageResult extends StageFinish where
  runRecord : RunRecord
  artifactDirectory : String
  correctionRound : Nat
  ticketPath : Option String
  advanceCorrectionRound : Bool

/-- `_format_failure_safety`. -/
def formatFailureSafety (violations : List StageViolation) : String :=
  if violations = [] then "branch unchanged; HEAD unchanged; staging empty"
  else "; ".intercalate (violations.map fun violation =>
    violation.name ++ " expected " ++ violation.expected ++ ", got " ++ violation.actual)

section Messages

variable (relative : String → String → String) (runDir operation : String)

/-- `format_writable_guard_stop`; `relative` is `_relative_path`. -/
def formatWritableGuardStop (inspection : WorkspaceGuardInspection) (gitSafety : String) :
    Except Raised String :=
  if inspection.requiresHuman = false then
    .error ⟨.valueError, "A clean writable guard has no human-required stop message."⟩
  else if inspection.hasViolation then
    .ok (formatWorkspaceHygieneViolation relative inspection operation runDir gitSafety)
  else
    let errors := (inspection.before.inspectionErrors.map fun error => "before: " ++ error) ++
      inspection.after.inspectionErrors.map fun error => "after: " ++ error
    let artifact := match inspection.artifactPath with
      | none => "writable execution record"
      | some path => relative path runDir
    let details := orDefault (some ("; ".intercalate errors)) "unknown scanner failure"
    .ok ("Workspace environment inspection could not complete for the writable agent operation " ++
      operation ++ ". TicketAutomation has stopped for human inspection. The deterministic check covers " ++
      "Python and Conda environment roots inside the target repository. Details: " ++ details ++
      ". No files were deleted automatically. Workspace-guard artifact: " ++ artifact ++ ".")

/-- The rows of `format_writable_failure_audit` on the artifacts. -/
def artifactRows (execution : Option AgentExecution) : List String :=
  let artifacts := (execution.map fun execution => execution.artifacts).getD []
  if artifacts = [] then ["Agent artifacts: none"]
  else "Agent artifacts:" :: artifacts.map fun artifact =>
    "  - " ++ artifact.role.value ++ ": " ++ artifact.runRelativePath

/-- Its row on a guard that stopped the run. -/
def guardRows (inspection : WorkspaceGuardInspection) (gitSafety : String) : Except Raised (List String) :=
  if inspection.requiresHuman then
    (fun row => [row]) <$> formatWritableGuardStop relative runDir operation inspection gitSafety
  else .ok []

/-- `format_writable_failure_audit`. -/
def formatWritableFailureAudit (audit : WritableAudit) : Except Raised String := do
  let category := match audit.execution with
    | none => "EXCEPTION"
    | some execution => (execution.failureCategory.map AgentFailureCategory.value).getD "UNKNOWN"
  let safety := formatFailureSafety (audit.safetyViolations.map WritableSafetyViolation.toStage)
  let guardRows ← guardRows relative runDir operation audit.workspaceGuard safety
  pure (" ".intercalate
    (["Agent failure: " ++ category ++ ": " ++ orDefault audit.failureMessage "unknown failure",
      "Last operation: " ++ operation, "Invocation start: " ++ audit.invocationStart.value,
      "Git safety: " ++ safety, "Changed files relative to baseline: " ++ formatFiles audit.changedFiles] ++
      artifactRows audit.execution ++ guardRows))

end Messages

/-- `WritableAudit.after_workspace_fingerprint`. -/
def WritableAudit.afterWorkspaceFingerprint (sha256 : Sha256) (audit : WritableAudit) : Option String :=
  audit.afterWorkspace.map fun snapshot => snapshot.fingerprint sha256

/-- Where the two stages differ. -/
structure WritableStage where
  operation : String
  violations : List WritableSafetyViolation → List StageViolation
  changedBaseline : String
  wrongResult : Raised
  /-- Outcome and message of a success with the given result and changed files. -/
  succeeded : ImplementationResult → List String → StageOutcome × String

def implementationStage : WritableStage where
  operation := "implementation"
  violations := implementationViolations
  changedBaseline := "Repository no longer matches the clean implementation baseline."
  wrongResult := ⟨.implementationError, "Implementation agent result has the wrong domain type."⟩
  succeeded result changedFiles :=
    if result.status = .blocked then (.humanRequired, "Implementation agent returned BLOCKED.")
    else if changedFiles = [] then
      (.humanRequired, "Implementation completed without repository changes.")
    else (.completed, "Implementation completed and Git safety checks passed.")

def correctionStage (correctionRound : Nat) : WritableStage where
  operation := s!"correction round {correctionRound}"
  violations := correctionViolations
  changedBaseline := "Repository no longer matches the recorded correction baseline."
  wrongResult := ⟨.correctionError, "Correction agent result has the wrong domain type."⟩
  succeeded result _ :=
    if result.status = .blocked then (.humanRequired, "Correction agent returned BLOCKED.")
    else (.completed, "Correction completed; deterministic verification must run next.")

section Finish

variable (sha256 : Sha256) (relative : String → String → String) (runDir : String) (stage : WritableStage)

/-- The arguments every `_finish` call takes from the audit. -/
def auditFinish (audit : WritableAudit) (agentResult : Option TaskResult) (outcome : StageOutcome)
    (controllerMessage : String) : StageFinish where
  execution := audit.execution
  agentResult := agentResult
  safetyViolations := stage.violations audit.safetyViolations
  changedFiles := audit.changedFiles
  workspaceGuard := audit.workspaceGuard
  outcome := outcome
  controllerMessage := controllerMessage
  afterWorkspaceFingerprint := audit.afterWorkspaceFingerprint sha256
  processStarted := audit.invocationStart = .started

/-- `_require_agent_result`. -/
def requireAgentResult (audit : WritableAudit) : Except Raised ImplementationResult :=
  match audit.execution.bind fun execution => execution.result with
  | some (.implementation result) => .ok result
  | _ => .error stage.wrongResult

/-- The message of a safety stop. -/
def safetyStopMessage (audit : WritableAudit) : Except Raised String :=
  if audit.workspaceGuard.requiresHuman then
    formatWritableGuardStop relative runDir stage.operation audit.workspaceGuard
      (formatFailureSafety (stage.violations audit.safetyViolations))
  else if audit.execution.isNone then .ok stage.changedBaseline
  else .ok "Repository safety invariants were violated."

/-- The stage after `execute` returned. -/
def outcomeFinish (outcome : GuardedWritableOutcome) : Except Raised StageFinish :=
  let audit := outcome.audit
  match outcome.kind with
  | .safetyStopped => do
    let message ← safetyStopMessage relative runDir stage audit
    let result := (audit.execution.filter AgentExecution.successful).bind fun execution => execution.result
    pure (auditFinish sha256 stage audit result .humanRequired message)
  | .failedUncertain => do
    let details ← formatWritableFailureAudit relative runDir stage.operation audit
    pure (auditFinish sha256 stage audit none .humanRequired
      ("The writable agent invocation did not complete successfully and may have left partial source " ++
        "changes. Automation has stopped for human inspection. " ++ details))
  | .rejectedBeforeStart | .failedUnchanged =>
    .ok (auditFinish sha256 stage audit none .failed
      (orDefault audit.failureMessage "Agent execution failed."))
  | .succeeded => do
    let result ← requireAgentResult stage audit
    let (outcome, message) := stage.succeeded result audit.changedFiles
    pure { auditFinish sha256 stage audit (some (.implementation result)) outcome message with
      safetyViolations := [], processStarted := true }

/-- The stage after it rejected the write itself. -/
def rejectionFinish (audit : WritableAudit) (controllerMessage : String) : StageFinish :=
  { auditFinish sha256 stage audit none .humanRequired controllerMessage with
    execution := none, processStarted := false }

end Finish

/-- What a writable stage meets besides the guarded operation. -/
structure StageRun where
  /-- `load_run_record`, whose policy resolves to a configuration. -/
  record : Except Raised RunRecord
  /-- `require_stage_attempt` with the phase of the stage. -/
  requireAttempt : Except Raised StageAttempt
  baseline : Except Raised BaselineRecord
  /-- The attempt's identity, from `attempt_artifact_layout`. -/
  layout : Except Raised String
  /-- The ticket is read and the prompt rendered. -/
  prompt : Except Raised Unit
  /-- `baseline_verification_evidence_problem`. -/
  evidenceProblem : Except Raised (Option String)
  guarded : GuardedRun
  /-- The checks of `_finish` and `_write_agent_result`. -/
  writeResult : StageFinish → Except Raised Unit
  /-- `_relative_path`. -/
  relative : String → String → String
  runDir : String

structure CorrectionRun extends StageRun where
  /-- `read_verification_source_fingerprint`. -/
  sourceFingerprint : Except Raised String
  /-- `render_correction_ticket` and `_write_correction_ticket`. -/
  writeTicket : Except Raised String

/-- The baseline is the one the run record names. -/
def checkBaseline (cls : ExceptionClass) (record : RunRecord) (baseline : BaselineRecord) :
    Except Raised Unit := do
  raiseIf (baseline.branch ≠ record.startingBranch) ⟨cls, "Run record and baseline branch do not match."⟩
  raiseIf (baseline.headSha ≠ record.baselineSha) ⟨cls, "Run record and baseline HEAD do not match."⟩

/-- The request both stages build. -/
def writableExecutionRequest (kind : AgentTaskKind) (record : RunRecord) (attempt : StageAttempt)
    (attemptId : String) : AgentExecutionRequest where
  taskKind := kind
  repositoryPath := record.targetRepositoryPath
  repositoryAccess := .workspaceWrite
  artifactDirectory := attempt.artifactDirectory
  attemptId := attemptId
  requiredCapabilities := requiredExecutionCapabilities .workspaceWrite

section Stages

variable (sha256 : Sha256)

/-- Reject the write and finish with `controllerMessage`. -/
def rejectStage (run : StageRun) (stage : WritableStage) (phase : AttemptPhase) (directory : String)
    (baseline : WritableBaseline) (controllerMessage : String)
    (violations : List WritableSafetyViolation) : Except Raised StageFinish := do
  let request ←
    GuardedWritableRejectionRequest.ofFields phase directory baseline controllerMessage violations
  let rejected ← rejectBeforeStart sha256 run.guarded request
  let finish := rejectionFinish sha256 stage rejected.audit controllerMessage
  run.writeResult finish
  pure finish

/-- The rejection for missing evidence of the clean baseline. -/
def unauthorizedViolation (problem message : String) : Except Raised WritableSafetyViolation :=
  WritableSafetyViolation.ofFields "baseline-verification" "persisted passing clean-baseline verification"
    problem message

/-- Run the guarded write and finish with its outcome; the flag says whether the
write succeeded. -/
def writeStage (run : StageRun) (stage : WritableStage) (phase : AttemptPhase)
    (executionRequest : AgentExecutionRequest) (baseline : WritableBaseline) :
    Except Raised (StageFinish × Bool) := do
  let request ← GuardedWritableRequest.ofFields run.guarded.resolve phase executionRequest baseline
  let outcome ← execute sha256 run.guarded request
  let finish ← outcomeFinish sha256 run.relative run.runDir stage outcome
  run.writeResult finish
  pure (finish, outcome.kind = .succeeded)

/-- The rejection or the write of the implementation. -/
def finishImplementation (run : StageRun) (record : RunRecord) (attempt : StageAttempt) (attemptId : String)
    (baseline : WritableBaseline) : Except Raised StageFinish := do
  match ← run.evidenceProblem with
  | some problem => do
    let violation ← unauthorizedViolation problem "Writable implementation is not authorized."
    rejectStage sha256 run implementationStage .implementing attempt.artifactDirectory baseline problem
      [violation]
  | none => do
    let (finish, _) ← writeStage sha256 run implementationStage .implementing
      (writableExecutionRequest .implementation record attempt attemptId) baseline
    pure finish

/-- `_run_implementation_stage`. -/
def runImplementationStage (run : StageRun) : Except Raised ImplementationStageResult := do
  let record ← run.record
  raiseIf (record.state ≠ .implementing)
    ⟨.implementationError,
      "Implementation requires run state IMPLEMENTING; found " ++ record.state.value ++ "."⟩
  let attempt ← run.requireAttempt
  let baselineRecord ← run.baseline
  checkBaseline .implementationError record baselineRecord
  run.prompt
  let attemptId ← run.layout
  let baseline ← WritableBaseline.ofFields record.targetRepositoryPath (some record.startingBranch)
    record.baselineSha (some baselineRecord.workspaceFingerprint) true
  let finish ← finishImplementation sha256 run record attempt attemptId baseline
  pure { finish with runRecord := record, artifactDirectory := attempt.artifactDirectory }

/-- `_correction_source_fingerprint`. -/
def correctionSourceFingerprint (run : CorrectionRun) : Except Raised (Option String × List StageViolation) :=
  handling [.valueError] (run.sourceFingerprint.map fun expected => (some expected, [])) fun error =>
    (none, [⟨"verification-evidence", "readable canonical workspace fingerprint", error.message,
      "Could not validate the correction source evidence."⟩])

/-- The `try` block that writes the ticket and renders the prompt: the ticket's
path, when it was written, and the error. -/
def prepareCorrection (run : CorrectionRun) : Option String × Except Raised Unit :=
  match run.writeTicket with
  | .error error => (none, .error error)
  | .ok path => (some path, run.prompt)

/-- What a correction hands to its `_finish`. -/
structure CorrectionFinish where
  finish : StageFinish
  ticketPath : Option String
  advanceCorrectionRound : Bool

/-- The correction once its source fingerprint is known. -/
def invokeCorrection (run : CorrectionRun) (stage : WritableStage) (record : RunRecord)
    (attempt : StageAttempt) (attemptId : String) (expected : Option String) :
    Except Raised CorrectionFinish := do
  let baseline ← WritableBaseline.ofFields record.targetRepositoryPath (some record.startingBranch)
    record.baselineSha expected false
  let (ticketPath, prepared) := prepareCorrection run
  match prepared with
  | .error error =>
    if error.isinstance .runOwnershipError || !error.isinstance .exception then .error error
    else do
      let finish ← rejectStage sha256 run.toStageRun stage .correcting attempt.artifactDirectory baseline
        ("Could not prepare correction invocation: " ++ error.describe) []
      pure ⟨finish, ticketPath, false⟩
  | .ok _ => do
    let (finish, succeeded) ← writeStage sha256 run.toStageRun stage .correcting
      (writableExecutionRequest .correction record attempt attemptId) baseline
    -- A successful write advances the round, also when the agent reports BLOCKED.
    pure ⟨finish, ticketPath, succeeded⟩

/-- The rejections before the correction, in the order of the source. -/
def finishCorrection (run : CorrectionRun) (stage : WritableStage) (record : RunRecord)
    (attempt : StageAttempt) (attemptId : String) (identity : WritableBaseline) :
    Except Raised CorrectionFinish := do
  let reject := fun message violations => do
    let finish ← rejectStage sha256 run.toStageRun stage .correcting attempt.artifactDirectory identity
      message violations
    pure (CorrectionFinish.mk finish none false)
  if record.maxCorrectionRounds ≤ record.currentCorrectionRound then
    reject "Maximum corrective rounds exhausted; human intervention is required." []
  else do
    match ← run.evidenceProblem with
    | some problem => do
      let violation ← unauthorizedViolation problem "Writable correction is not authorized."
      reject problem [violation]
    | none => do
      let (expected, starting) ← correctionSourceFingerprint run
      if starting ≠ [] then do
        let violations ← starting.mapM fun violation =>
          WritableSafetyViolation.ofFields violation.name violation.expected violation.actual
            violation.message
        reject "Repository no longer matches the recorded correction baseline." violations
      else invokeCorrection sha256 run stage record attempt attemptId expected

/-- `_run_correction_stage`. -/
def runCorrectionStage (run : CorrectionRun) : Except Raised CorrectionStageResult := do
  let record ← run.record
  raiseIf (record.state ≠ .correcting)
    ⟨.correctionError, "Correction requires run state CORRECTING; found " ++ record.state.value ++ "."⟩
  let attempt ← run.requireAttempt
  let baselineRecord ← run.baseline
  checkBaseline .correctionError record baselineRecord
  let attemptId ← run.layout
  let identity ← WritableBaseline.ofFields record.targetRepositoryPath (some record.startingBranch)
    record.baselineSha none false
  let correctionRound := record.currentCorrectionRound + 1
  let corrected ← finishCorrection sha256 run (correctionStage correctionRound) record attempt attemptId
    identity
  pure
    { corrected.finish with
      runRecord := record
      artifactDirectory := attempt.artifactDirectory
      correctionRound := correctionRound
      ticketPath := corrected.ticketPath
      advanceCorrectionRound := corrected.advanceCorrectionRound }

end Stages

/-! ## Retryable failures -/

/-- Some capability a writable task requires is missing or could not be established. -/
def CapabilityMissing (run : GuardedRun) : Prop :=
  ∀ available, run.capabilities = .ok available →
    requiredExecutionCapabilities .workspaceWrite \ available ≠ ∅

/-- The executor returned a failed execution of this kind and left the repository as it
was. No exception came with it: the result was accepted and its evidence was written. -/
structure FailedInvocation (kind : AgentTaskKind) (run : GuardedRun) (processStarted : Bool)
    (execution : AgentExecution) : Prop where
  recorded : ∃ request, request.taskKind = kind ∧ ExecutionRecorded run request execution
  failed : execution.status = .failed
  unchanged : ∃ before after, run.workspaceBefore = .ok before ∧ run.workspaceAfter = .ok after ∧
    SameWorkspace before after
  trusted : (processStarted = false ∧ execution.invocationStart = .notStarted) ∨
    execution.failureCategory.any untrustedCategory = false

/-- What holds when a writable stage ends in a retryable failure. -/
structure RetryableFailure (kind : AgentTaskKind) (run : GuardedRun) (finish : StageFinish) : Prop where
  noViolation : finish.safetyViolations = []
  guard : finish.workspaceGuard.requiresHuman = false
  cause : (finish.execution = none ∧ finish.processStarted = false ∧ CapabilityMissing run) ∨
    ∃ execution, finish.execution = some execution ∧
      FailedInvocation kind run finish.processStarted execution

/-- What the outcome of a writable stage says. -/
inductive FinishCause (kind : AgentTaskKind) (run : GuardedRun) (finish : StageFinish) : Prop
  | completed (outcome : finish.outcome = .completed) (execution : AgentExecution)
      (recorded : finish.execution = some execution) (success : execution.status = .success)
  | stopped (outcome : finish.outcome = .humanRequired)
  | failed (outcome : finish.outcome = .failed) (cause : RetryableFailure kind run finish)

/-- A success ends completed or stopped. -/
structure WritableStage.Sound (stage : WritableStage) : Prop where
  succeeded : ∀ result files, (stage.succeeded result files).1 = .completed ∨
    (stage.succeeded result files).1 = .humanRequired
  violations : stage.violations [] = []

/-- Both stages end a success completed or stopped. -/
theorem implementationStage_sound : implementationStage.Sound := by
  refine ⟨fun result files => ?_, rfl⟩
  unfold implementationStage
  dsimp only
  split
  · exact .inr rfl
  · split
    · exact .inr rfl
    · exact .inl rfl

theorem correctionStage_sound (round : Nat) : (correctionStage round).Sound := by
  refine ⟨fun result files => ?_, rfl⟩
  unfold correctionStage
  dsimp only
  split
  · exact .inr rfl
  · exact .inl rfl

section Causes

variable {sha256 : Sha256} {stage : WritableStage}

/-- A problem with the capabilities is that one of those required is missing. -/
theorem capabilityMissing_of_problem {run : GuardedRun} {request : AgentExecutionRequest} {text : String}
    (required : request.requiredCapabilities = requiredExecutionCapabilities .workspaceWrite)
    (problem : executorCapabilityProblem run request = .ok (some text)) : CapabilityMissing run := by
  intro available found complete
  have noProblem : executorCapabilityProblem run request = .ok none :=
    executorCapabilityProblem_none.mpr ⟨available, found, by
      rw [AgentExecutionRequest.missingCapabilities, required]
      exact complete⟩
  rw [noProblem] at problem
  cases problem

/-- The stage finishes with the cause of its outcome. -/
theorem outcomeFinish_cause {run : GuardedRun} {relative : String → String → String} {runDir : String}
    {request : AgentExecutionRequest} {outcome : GuardedWritableOutcome} {finish : StageFinish}
    (sound : stage.Sound)
    (required : request.requiredCapabilities = requiredExecutionCapabilities .workspaceWrite)
    (cause : OutcomeCause run request outcome)
    (h : outcomeFinish sha256 relative runDir stage outcome = .ok finish) :
    FinishCause request.taskKind run finish := by
  unfold outcomeFinish at h
  -- An outcome that is not a success ends in the failure with the same audit.
  have retryable : outcome.kind = .rejectedBeforeStart ∨ outcome.kind = .failedUnchanged →
      finish = auditFinish sha256 stage outcome.audit none .failed
        (orDefault outcome.audit.failureMessage "Agent execution failed.") := by
    rintro (kind | kind) <;> rw [kind] at h <;> cases h <;> rfl
  cases cause with
  | succeeded execution kind audited success =>
    rw [kind] at h
    obtain ⟨result, _, h⟩ := bind_ok_iff.mp h
    cases h
    rcases sound.succeeded result outcome.audit.changedFiles with completed | stopped
    · exact .completed completed execution audited success
    · exact .stopped stopped
  | stopped kind =>
    rcases kind with kind | kind <;> rw [kind] at h <;> obtain ⟨message, _, h⟩ := bind_ok_iff.mp h <;>
      cases h <;> exact .stopped rfl
  | notCalled kind audited cause =>
    rw [retryable (.inl kind)]
    obtain ⟨⟨text, problem⟩, notStarted, _, noViolation, guard⟩ := cause
    refine .failed rfl ⟨?_, guard, .inl ⟨audited, ?_, capabilityMissing_of_problem required problem⟩⟩
    · simp [auditFinish, noViolation, sound.violations]
    · simp [auditFinish, notStarted]
  | failed execution kind audited cause =>
    rw [retryable kind]
    obtain ⟨recorded, failed, unchanged, noViolation, guard, trusted⟩ := cause
    refine .failed rfl ⟨?_, guard, .inr ⟨execution, audited, ⟨request, rfl, recorded⟩, failed, unchanged, ?_⟩⟩
    · simp [auditFinish, noViolation, sound.violations]
    · exact trusted.imp_left fun started => ⟨by simp [auditFinish, started.1], started.2⟩

/-- A rejected write stops for a human. -/
theorem rejectStage_stopped {run : StageRun} {phase : AttemptPhase} {directory message : String}
    {baseline : WritableBaseline} {violations : List WritableSafetyViolation} {finish : StageFinish}
    (h : rejectStage sha256 run stage phase directory baseline message violations = .ok finish) :
    finish.outcome = .humanRequired := by
  obtain ⟨request, _, h⟩ := bind_ok_iff.mp h
  obtain ⟨rejected, _, h⟩ := bind_ok_iff.mp h
  obtain ⟨_, h⟩ := check_bind_ok.mp h
  cases h
  rfl

/-- The request is handed on unchanged. -/
theorem GuardedWritableRequest.ofFields_request {resolve : PathResolver} {phase : AttemptPhase}
    {executionRequest : AgentExecutionRequest} {baseline : WritableBaseline} {request : GuardedWritableRequest}
    (h : GuardedWritableRequest.ofFields resolve phase executionRequest baseline = .ok request) :
    request.executionRequest = executionRequest := by
  unfold GuardedWritableRequest.ofFields at h
  split at h
  · cases h
  · split at h
    · split at h
      · split at h
        · obtain ⟨_, _, h⟩ := bind_ok_iff.mp h
          obtain ⟨_, _, h⟩ := bind_ok_iff.mp h
          obtain ⟨_, h⟩ := check_bind_ok.mp h
          cases h
          rfl
        · cases h
      · cases h
    · cases h

/-- The cause is handed through the layers of a stage, one lemma each. -/
theorem writeStage_cause {run : StageRun} {phase : AttemptPhase} {executionRequest : AgentExecutionRequest}
    {baseline : WritableBaseline} {finish : StageFinish} {succeeded : Bool} (sound : stage.Sound)
    (required : executionRequest.requiredCapabilities = requiredExecutionCapabilities .workspaceWrite)
    (h : writeStage sha256 run stage phase executionRequest baseline = .ok (finish, succeeded)) :
    FinishCause executionRequest.taskKind run.guarded finish := by
  obtain ⟨request, built, h⟩ := bind_ok_iff.mp h
  obtain ⟨outcome, executed, h⟩ := bind_ok_iff.mp h
  obtain ⟨found, finished, h⟩ := bind_ok_iff.mp h
  obtain ⟨_, h⟩ := check_bind_ok.mp h
  cases h
  have cause := execute_cause executed
  rw [GuardedWritableRequest.ofFields_request built] at cause
  exact outcomeFinish_cause sound required cause finished

theorem runImplementationStage_cause {run : StageRun} {result : ImplementationStageResult}
    (h : runImplementationStage sha256 run = .ok result) :
    FinishCause .implementation run.guarded result.toStageFinish := by
  obtain ⟨record, _, h⟩ := bind_ok_iff.mp h
  obtain ⟨_, h⟩ := check_bind_ok.mp h
  obtain ⟨attempt, _, h⟩ := bind_ok_iff.mp h
  obtain ⟨baselineRecord, _, h⟩ := bind_ok_iff.mp h
  obtain ⟨_, h⟩ := check_bind_ok.mp h
  obtain ⟨_, h⟩ := check_bind_ok.mp h
  obtain ⟨attemptId, _, h⟩ := bind_ok_iff.mp h
  obtain ⟨baseline, _, h⟩ := bind_ok_iff.mp h
  obtain ⟨finish, finished, h⟩ := bind_ok_iff.mp h
  cases h
  obtain ⟨problem, _, finished⟩ := bind_ok_iff.mp finished
  cases problem with
  | some problem =>
    obtain ⟨violation, _, rejected⟩ := bind_ok_iff.mp finished
    exact .stopped (rejectStage_stopped rejected)
  | none =>
    obtain ⟨⟨written, succeeded⟩, wrote, finished⟩ := bind_ok_iff.mp finished
    cases finished
    exact writeStage_cause implementationStage_sound rfl wrote

theorem invokeCorrection_cause {run : CorrectionRun} {record : RunRecord} {attempt : StageAttempt}
    {attemptId : String} {expected : Option String} {corrected : CorrectionFinish} (sound : stage.Sound)
    (h : invokeCorrection sha256 run stage record attempt attemptId expected = .ok corrected) :
    FinishCause .correction run.guarded corrected.finish := by
  obtain ⟨baseline, _, h⟩ := bind_ok_iff.mp h
  dsimp only at h
  cases prepared : (prepareCorrection run).2 with
  | error error =>
    rw [prepared] at h
    dsimp only at h
    split at h
    · cases h
    · obtain ⟨finish, rejected, h⟩ := bind_ok_iff.mp h
      cases h
      exact .stopped (rejectStage_stopped rejected)
  | ok _ =>
    rw [prepared] at h
    obtain ⟨⟨finish, succeeded⟩, wrote, h⟩ := bind_ok_iff.mp h
    cases h
    exact writeStage_cause sound rfl wrote

theorem finishCorrection_cause {run : CorrectionRun} {record : RunRecord} {attempt : StageAttempt}
    {attemptId : String} {identity : WritableBaseline} {corrected : CorrectionFinish} (sound : stage.Sound)
    (h : finishCorrection sha256 run stage record attempt attemptId identity = .ok corrected) :
    FinishCause .correction run.guarded corrected.finish := by
  unfold finishCorrection at h
  dsimp only at h
  split at h
  · obtain ⟨finish, rejected, h⟩ := bind_ok_iff.mp h
    cases h
    exact .stopped (rejectStage_stopped rejected)
  · obtain ⟨problem, _, h⟩ := bind_ok_iff.mp h
    cases problem with
    | some problem =>
      obtain ⟨violation, _, h⟩ := bind_ok_iff.mp h
      obtain ⟨finish, rejected, h⟩ := bind_ok_iff.mp h
      cases h
      exact .stopped (rejectStage_stopped rejected)
    | none =>
      obtain ⟨⟨expected, starting⟩, _, h⟩ := bind_ok_iff.mp h
      dsimp only at h
      by_cases clean : starting ≠ []
      · rw [if_pos clean] at h
        obtain ⟨violations, _, h⟩ := bind_ok_iff.mp h
        obtain ⟨finish, rejected, h⟩ := bind_ok_iff.mp h
        cases h
        exact .stopped (rejectStage_stopped rejected)
      · rw [if_neg clean] at h
        exact invokeCorrection_cause sound h

theorem runCorrectionStage_cause {run : CorrectionRun} {result : CorrectionStageResult}
    (h : runCorrectionStage sha256 run = .ok result) : FinishCause .correction run.guarded result.toStageFinish := by
  obtain ⟨record, _, h⟩ := bind_ok_iff.mp h
  obtain ⟨_, h⟩ := check_bind_ok.mp h
  obtain ⟨attempt, _, h⟩ := bind_ok_iff.mp h
  obtain ⟨baselineRecord, _, h⟩ := bind_ok_iff.mp h
  obtain ⟨_, h⟩ := check_bind_ok.mp h
  obtain ⟨attemptId, _, h⟩ := bind_ok_iff.mp h
  obtain ⟨identity, _, h⟩ := bind_ok_iff.mp h
  obtain ⟨corrected, finished, h⟩ := bind_ok_iff.mp h
  cases h
  exact finishCorrection_cause (correctionStage_sound _) finished

end Causes

section Rounds

variable {sha256 : Sha256} {stage : WritableStage}

/-- Only a write that succeeded completes the stage. -/
theorem outcomeFinish_completed {relative : String → String → String} {runDir : String}
    {outcome : GuardedWritableOutcome} {finish : StageFinish}
    (h : outcomeFinish sha256 relative runDir stage outcome = .ok finish)
    (completed : finish.outcome = .completed) :
    outcome.kind = .succeeded ∧ finish.processStarted = true := by
  unfold outcomeFinish at h
  cases kind : outcome.kind with
  | succeeded =>
    rw [kind] at h
    obtain ⟨result, _, h⟩ := bind_ok_iff.mp h
    cases h
    exact ⟨rfl, rfl⟩
  | safetyStopped | failedUncertain =>
    rw [kind] at h
    obtain ⟨text, _, h⟩ := bind_ok_iff.mp h
    cases h
    cases completed
  | rejectedBeforeStart | failedUnchanged =>
    rw [kind] at h
    cases h
    cases completed

theorem writeStage_completed {run : StageRun} {phase : AttemptPhase} {request : AgentExecutionRequest}
    {baseline : WritableBaseline} {finish : StageFinish} {succeeded : Bool}
    (h : writeStage sha256 run stage phase request baseline = .ok (finish, succeeded))
    (completed : finish.outcome = .completed) : succeeded = true ∧ finish.processStarted = true := by
  obtain ⟨guarded, _, h⟩ := bind_ok_iff.mp h
  obtain ⟨outcome, _, h⟩ := bind_ok_iff.mp h
  obtain ⟨found, finished, h⟩ := bind_ok_iff.mp h
  obtain ⟨_, h⟩ := check_bind_ok.mp h
  cases h
  obtain ⟨kind, started⟩ := outcomeFinish_completed finished completed
  exact ⟨by simp [kind], started⟩

/-- The round advances only below the limit, and always with a completed correction. -/
structure CorrectionRoundMoved (record : RunRecord) (result : CorrectionStageResult) : Prop where
  round : result.correctionRound = record.currentCorrectionRound + 1
  limit : result.advanceCorrectionRound = true → record.currentCorrectionRound < record.maxCorrectionRounds
  completed : result.outcome = .completed → result.advanceCorrectionRound = true

theorem invokeCorrection_completed {run : CorrectionRun} {record : RunRecord} {attempt : StageAttempt}
    {attemptId : String} {expected : Option String} {corrected : CorrectionFinish}
    (h : invokeCorrection sha256 run stage record attempt attemptId expected = .ok corrected)
    (completed : corrected.finish.outcome = .completed) : corrected.advanceCorrectionRound = true := by
  obtain ⟨baseline, _, h⟩ := bind_ok_iff.mp h
  dsimp only at h
  cases prepared : (prepareCorrection run).2 with
  | error error =>
    rw [prepared] at h
    dsimp only at h
    split at h
    · cases h
    · obtain ⟨finish, rejected, h⟩ := bind_ok_iff.mp h
      cases h
      rw [rejectStage_stopped rejected] at completed
      cases completed
  | ok _ =>
    rw [prepared] at h
    obtain ⟨⟨finish, succeeded⟩, wrote, h⟩ := bind_ok_iff.mp h
    cases h
    exact (writeStage_completed wrote completed).1

/-- The round advances only with a correction that was completed. -/
theorem finishCorrection_moved {run : CorrectionRun} {record : RunRecord} {attempt : StageAttempt}
    {attemptId : String} {identity : WritableBaseline} {corrected : CorrectionFinish}
    (h : finishCorrection sha256 run stage record attempt attemptId identity = .ok corrected) :
    (corrected.advanceCorrectionRound = true → record.currentCorrectionRound < record.maxCorrectionRounds) ∧
      (corrected.finish.outcome = .completed → corrected.advanceCorrectionRound = true) := by
  unfold finishCorrection at h
  dsimp only at h
  -- A rejection neither advances the round nor completes.
  have rejection : ∀ {finish : StageFinish} {phase directory baseline message violations},
      rejectStage sha256 run.toStageRun stage phase directory baseline message violations = .ok finish →
      CorrectionFinish.mk finish none false = corrected →
      (corrected.advanceCorrectionRound = true →
          record.currentCorrectionRound < record.maxCorrectionRounds) ∧
        (corrected.finish.outcome = .completed → corrected.advanceCorrectionRound = true) := by
    rintro finish _ _ _ _ _ rejected rfl
    refine ⟨nofun, fun completed => ?_⟩
    rw [rejectStage_stopped rejected] at completed
    cases completed
  split at h
  · obtain ⟨finish, rejected, h⟩ := bind_ok_iff.mp h
    exact rejection rejected (pure_ok.mp h)
  · rename_i below
    obtain ⟨problem, _, h⟩ := bind_ok_iff.mp h
    cases problem with
    | some problem =>
      obtain ⟨violation, _, h⟩ := bind_ok_iff.mp h
      obtain ⟨finish, rejected, h⟩ := bind_ok_iff.mp h
      exact rejection rejected (pure_ok.mp h)
    | none =>
      obtain ⟨⟨expected, starting⟩, _, h⟩ := bind_ok_iff.mp h
      dsimp only at h
      by_cases clean : starting ≠ []
      · rw [if_pos clean] at h
        obtain ⟨violations, _, h⟩ := bind_ok_iff.mp h
        obtain ⟨finish, rejected, h⟩ := bind_ok_iff.mp h
        exact rejection rejected (pure_ok.mp h)
      · rw [if_neg clean] at h
        exact ⟨fun _ => not_le.mp below, invokeCorrection_completed h⟩

/-- The correction stage counts its round from the record it loaded. -/
theorem runCorrectionStage_moved {run : CorrectionRun} {result : CorrectionStageResult}
    (h : runCorrectionStage sha256 run = .ok result) :
    ∃ record, run.record = .ok record ∧ CorrectionRoundMoved record result := by
  obtain ⟨record, loaded, h⟩ := bind_ok_iff.mp h
  obtain ⟨_, h⟩ := check_bind_ok.mp h
  obtain ⟨attempt, _, h⟩ := bind_ok_iff.mp h
  obtain ⟨baselineRecord, _, h⟩ := bind_ok_iff.mp h
  obtain ⟨_, h⟩ := check_bind_ok.mp h
  obtain ⟨attemptId, _, h⟩ := bind_ok_iff.mp h
  obtain ⟨identity, _, h⟩ := bind_ok_iff.mp h
  obtain ⟨corrected, finished, h⟩ := bind_ok_iff.mp h
  obtain ⟨limit, completed⟩ := finishCorrection_moved finished
  cases h
  exact ⟨record, loaded, rfl, limit, completed⟩

end Rounds

/-- A failed execution of the example implementation. -/
def exampleFailure (category : AgentFailureCategory) (start : InvocationStart)
    (valid : validateExecutionSemantics .failed start (some category) (some "failed") = .ok ()) :
    AgentExecution where
  providerId := exampleProvider
  taskKind := .implementation
  status := .failed
  invocationStart := start
  startedAt := .utc 0 epoch_isInstant
  endedAt := .utc 0 epoch_isInstant
  durationSeconds := 0
  result := none
  failureCategory := some category
  failureMessage := some "failed"
  artifacts := []
  providerMetadata := []
  valid := by
    simp only [validateAgentExecution, validateExecutionResult, check_bind_ok]
    exact ⟨by simp [AwareDatetime.before], by simp, by simp [durationMatches], by simp, valid⟩

/-- An implementation whose executor returns `execution` and leaves the clean
workspace as it was. -/
def exampleStageRun (execution : AgentExecution) : StageRun where
  record := .ok
    { runId := "r1"
      ticketId := "APP-1"
      originalTicketPath := "/tickets/app-1.md"
      runTicketCopyPath := "/runs/r1/ticket.md"
      state := .implementing
      startingBranch := "main"
      baselineSha := "4b825dc642cb6eb9a060e54bf8d69288fbee4904"
      currentCorrectionRound := 0
      currentReviewRound := 0
      resolvedPolicy := examplePolicy
      terminalReason := none
      stopReason := none
      createdTimestamp := "2026-01-01T00:00:00Z"
      updatedTimestamp := "2026-01-01T00:01:00Z"
      valid := by decide }
  requireAttempt := .ok (.fromRecord exampleStartedAttempt.toAttemptFields)
  baseline := .ok exampleBaseline
  layout := .ok "001-implementation"
  prompt := .ok ()
  evidenceProblem := .ok none
  guarded :=
    { exampleWrite [] (.ok ()) with
      execution := .ok execution
      startReports := 0
      workspaceBefore := .ok exampleCleanWorkspace
      workspaceAfter := .ok exampleCleanWorkspace }
  writeResult _ := .ok ()
  relative path _ := path
  runDir := "/runs/r1"

end SprintTicket
