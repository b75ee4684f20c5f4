import SprintTicket.Guarded.Tracker

/-!
# The guarded writable operation

`execute` captures the repository, lets the executor write, captures it again
and classifies the pair; `rejectBeforeStart` records a rejection by the stage.
Both follow the source statement by statement over one `GuardedRun`.

The start callback runs while the executor does. Its exceptions go to the
executor, which may swallow them, so `reportStarts` ignores them. A callback that
comes after `execute` has returned is not modelled.
-/

set_option autoImplicit false

namespace SprintTicket

open Checks Effects Effects.Effect

/-- The repository at one end of the operation. -/
structure WorkspaceCapture where
  snapshot : Option WorkspaceSnapshot
  error : Option String

/-- `_capture_workspace`. -/
def captureWorkspace (captured : Except Raised WorkspaceSnapshot) : WorkspaceCapture :=
  match captured with
  | .ok snapshot => ⟨some snapshot, none⟩
  | .error error => ⟨none, some error.describe⟩

/-- `_capture_environment`. -/
def captureEnvironment (repositoryPath : String) (captured : Except Raised WorkspaceEnvironmentSnapshot) :
    WorkspaceEnvironmentSnapshot :=
  match captured with
  | .ok snapshot => snapshot
  | .error error => ⟨repositoryPath, [], ["scanner: " ++ error.describe]⟩

/-- Python's `value or default` on an optional text. -/
def orDefault (value : Option String) (default : String) : String :=
  match value with
  | some text => if text = "" then default else text
  | none => default

/-- `_with_workspace_inspection_errors`. -/
def withWorkspaceInspectionErrors (environment : WorkspaceEnvironmentSnapshot) (capture : WorkspaceCapture)
    (point : String) : WorkspaceEnvironmentSnapshot :=
  let errors := match capture.snapshot with
    | none =>
      [point ++ "-canonical-workspace: " ++ orDefault capture.error "workspace snapshot unavailable"]
    | some snapshot =>
      if snapshot.inspectionComplete then []
      else snapshot.inspectionErrors.map fun error => point ++ "-canonical-workspace: " ++ error
  { environment with inspectionErrors := (environment.inspectionErrors ++ errors).eraseDups }

/-- `text.rstrip(".")`. -/
def stripDots (text : String) : String :=
  String.ofList (text.toList.reverse.dropWhile (· = '.')).reverse

/-- `_safety_violations`. -/
def safetyViolations (changes : List WorkspaceChange) (point : String) :
    Except Raised (List WritableSafetyViolation) :=
  changes.mapM fun change =>
    WritableSafetyViolation.ofFields change.name change.expected change.actual
      (stripDots change.message ++ " " ++ point ++ ".")

/-- `_inspection_violation`. -/
def inspectionViolation (point : String) (capture : WorkspaceCapture) :
    Except Raised WritableSafetyViolation :=
  let actual := match capture.snapshot with
    | none => orDefault capture.error "unavailable"
    | some snapshot => orDefault (some ("; ".intercalate snapshot.inspectionErrors)) "incomplete"
  WritableSafetyViolation.ofFields "workspace-inspection"
    ("complete " ++ point ++ "-call canonical workspace snapshot") actual
    ("Could not establish workspace safety " ++ point ++ " writable execution.")

/-- `_attempt_evidence_violations`. -/
def attemptEvidenceViolations (tracker : AttemptTracker) : Except Raised (List WritableSafetyViolation) :=
  if tracker.evidenceErrors = [] then .ok []
  else do
    let violation ← WritableSafetyViolation.ofFields "writable-attempt-evidence"
      "consistent, persisted writable-attempt evidence" ("; ".intercalate tracker.evidenceErrors)
      "Writable-attempt evidence is incomplete or contradictory."
    pure [violation]

/-- `_format_files`. -/
def formatFiles (files : List String) : String :=
  if files = [] then "none"
  else
    let shown := ", ".intercalate (files.take 5)
    if files.length ≤ 5 then shown else s!"{shown}, and {files.length - 5} more"

def workspaceGuardFile : String := "workspace-guard.json"

/-- `_with_guard_evidence_errors`. -/
def withGuardEvidenceErrors (inspection : WorkspaceGuardInspection) (errors : List String) :
    WorkspaceGuardInspection :=
  let merged := errors.foldl (fun merged error => if error ∈ merged then merged else merged ++ [error])
    inspection.after.inspectionErrors
  { inspection with after := { inspection.after with inspectionErrors := merged } }

section Operation

variable (sha256 : Sha256) (run : GuardedRun)

/-- `_compare_environment`. -/
def compareEnvironment (phase : AttemptPhase) (before after : WorkspaceEnvironmentSnapshot) :
    Except Raised WorkspaceGuardInspection := do
  let timestamp ← run.guardTimestamp
  let new ← newEnvironments run.pathIdentity before after
  pure ⟨phase, timestamp, none, before, after, new⟩

/-- `_persist_guard_evidence`. -/
def persistGuardEvidence (artifactDirectory : String) (inspection : WorkspaceGuardInspection) :
    Tracked WorkspaceGuardInspection := do
  let tracker ← get
  match tracker.record with
  | none => pure (withGuardEvidenceErrors inspection tracker.evidenceErrors)
  | some _ => do
    lift (run.check .guardPersist)
    let path := artifactDirectory ++ "/" ++ workspaceGuardFile
    let persisted :=
      withGuardEvidenceErrors { inspection with artifactPath := some path } tracker.evidenceErrors
    match run.writeWorkspaceGuard persisted >>= fun _ => run.check .guardPersisted with
    | .ok _ => pure persisted
    | .error error => do
      lift (run.check .guardPersistFailed)
      modify (AttemptTracker.addError ("workspace-guard-artifact: " ++ error.describe))
      let current ← get
      pure (withGuardEvidenceErrors inspection current.evidenceErrors)

/-- The `try` block of `_build_and_persist_guard_evidence`. -/
def compareAndRevalidate (phase : AttemptPhase) (before after : WorkspaceEnvironmentSnapshot) :
    Except Raised WorkspaceGuardInspection := do
  let inspection ← compareEnvironment run phase before after
  run.check .guardCompared
  pure inspection

/-- `_build_and_persist_guard_evidence`. -/
def buildAndPersistGuardEvidence (phase : AttemptPhase) (artifactDirectory : String)
    (before after : WorkspaceEnvironmentSnapshot) : Tracked WorkspaceGuardInspection := do
  lift (run.check .guardStart)
  match compareAndRevalidate run phase before after with
  | .ok inspection => persistGuardEvidence run artifactDirectory inspection
  | .error error =>
    if error.isinstance .agentContractError || error.isinstance .runOwnershipError then raise error
    else do
      let detail := "workspace-guard-comparison: " ++ error.describe
      modify (AttemptTracker.addError detail)
      persistGuardEvidence run artifactDirectory
        ⟨phase, run.fallbackTimestamp, none, before,
          { after with inspectionErrors := after.inspectionErrors ++ [detail] }, []⟩

/-- The attempts whose directory resolves to `expected`. -/
def matchingAttempts (expected : String) : Except Raised (List AttemptRecord) := do
  let ledger ← run.attempts
  ledger.records.filterM fun record => do
    let directory ← run.resolve record.artifactDirectory
    pure (directory = expected)

/-- `_associated_attempt`. -/
def associatedAttempt (artifactDirectory : String) (phase : AttemptPhase) :
    Except Raised (Option AttemptRecord × Option String) := do
  let expected ← run.resolve artifactDirectory
  match matchingAttempts run expected with
  | .error error =>
    if error.isinstance .runOwnershipError then .error error
    else pure (none, some ("attempt-association: " ++ error.describe))
  | .ok [record] =>
    if record.phase ≠ phase then
      pure (none, some "attempt-association: attempt phase does not match the request")
    else if record.status ≠ .started then
      pure (none, some "attempt-association: guarded execution requires a started attempt")
    else pure (some record, none)
  | .ok _ => pure (none, some "attempt-association: artifact directory has no unique attempt")

/-- The metadata `_capture_before` records. -/
def beforeMetadata (record : Option AttemptRecord) (error : Option String) : Except Raised AttemptMetadata :=
  match record, error with
  | none, _ => .ok .empty
  | some record, none => .ok record.metadata
  | some record, some error => record.metadata.withBeforeWorkspaceError error

/-- The tracker `_capture_before` starts with. -/
def AttemptTracker.start (record : Option AttemptRecord) (associationError : Option String)
    (capture : WorkspaceCapture) : AttemptTracker :=
  ⟨record, capture.snapshot, capture.error, false, associationError.toList⟩

/-- The fingerprint of what was captured. -/
def WorkspaceCapture.fingerprint (capture : WorkspaceCapture) : Except Raised (Option String) :=
  match capture.snapshot with
  | none => .ok none
  | some snapshot => some <$> run.fingerprint sha256 snapshot

/-- The update `_capture_before` makes. -/
def beforeChanges (fingerprint : Option String) (metadata : AttemptMetadata) : AttemptChanges :=
  { beforeWorkspaceFingerprint := fingerprint
    metadata := some metadata }

/-- `_capture_before`. -/
def captureBefore (repositoryPath artifactDirectory : String) (phase : AttemptPhase) :
    Except Raised (AttemptTracker × WorkspaceEnvironmentSnapshot) := do
  run.check .captureStart
  let (record, associationError) ← associatedAttempt run artifactDirectory phase
  run.check .attemptAssociated
  let environment := captureEnvironment repositoryPath run.environmentBefore
  run.check .environmentScanned
  let capture := captureWorkspace run.workspaceBefore
  run.check .workspaceCaptured
  let metadata ← beforeMetadata record capture.error
  let fingerprint ← capture.fingerprint sha256 run
  let updated := AttemptTracker.update run .captureBefore false (beforeChanges fingerprint metadata)
    (.start record associationError capture)
  updated.1
  pure (updated.2, withWorkspaceInspectionErrors environment capture "before")

/-- `_starting_violations`. -/
def startingViolations (snapshot : Option WorkspaceSnapshot) (baseline : WritableBaseline) :
    Except Raised (List WritableSafetyViolation) :=
  match snapshot with
  | none => .ok []
  | some snapshot => do
    let expected ← run.expectedPath
    let fingerprint := baseline.expectedWorkspaceFingerprint.getD ""
    let changes :=
      workspaceSafetyChanges snapshot expected baseline.branch baseline.headSha true
          baseline.requireCleanWorktree ++
        changeWhen (baseline.expectedWorkspaceFingerprint.any fun expected =>
            !snapshot.matchesFingerprint sha256 expected)
          ⟨"workspace-fingerprint", fingerprint, snapshot.fingerprint sha256,
            "Workspace no longer matches the authorized starting state."⟩
    safetyViolations changes "before writable execution"

/-- The violation of an incomplete inspection before the write. -/
def incompleteBefore (tracker : AttemptTracker) (environment : WorkspaceEnvironmentSnapshot) :
    Except Raised (List WritableSafetyViolation) :=
  if tracker.beforeComplete = false ∨ environment.inspectionComplete = false then do
    let violation ← inspectionViolation "before" ⟨tracker.beforeSnapshot, tracker.beforeError⟩
    pure [violation]
  else .ok []

/-- The names of the missing capabilities, sorted. -/
def missingNames (missing : Finset AgentCapability) : List String :=
  ([.diagnosticArtifactCapture, .isolatedInvocation, .networkPolicyControl, .readOnlyExecution,
      .structuredResult, .workspaceWriteExecution].filter (· ∈ missing)).map AgentCapability.value

/-- `_executor_capability_problem`. -/
def executorCapabilityProblem (request : AgentExecutionRequest) : Except Raised (Option String) :=
  match run.capabilities with
  | .error error =>
    if error.isinstance .exception then
      .ok (some ("Could not establish executor capabilities before writable invocation: " ++
        error.describe))
    else .error error
  | .ok available =>
    if request.missingCapabilities available = ∅ then .ok none
    else .ok (some ("Executor lacks required writable capabilities: " ++
      ", ".intercalate (missingNames (request.missingCapabilities available)) ++ "."))

/-- What `_audit_without_invocation` and the `finally` block of `execute`
capture. -/
def captureAfter (repositoryPath artifactDirectory : String) (phase : AttemptPhase)
    (environmentBefore : WorkspaceEnvironmentSnapshot) :
    Tracked (WorkspaceCapture × WorkspaceGuardInspection) := do
  lift (run.check .auditStart)
  let capture := captureWorkspace run.workspaceAfter
  lift (run.check .afterWorkspaceCaptured)
  let environment := captureEnvironment repositoryPath run.environmentAfter
  lift (run.check .afterEnvironmentScanned)
  AttemptTracker.recordAfter run sha256 capture.snapshot capture.error
  let guard ← buildAndPersistGuardEvidence run phase artifactDirectory environmentBefore
    (withWorkspaceInspectionErrors environment capture "after")
  pure (capture, guard)

/-- `_post_violations`. -/
def postViolations (capture : WorkspaceCapture) (baseline : WritableBaseline) :
    Except Raised (List WritableSafetyViolation) :=
  match capture.snapshot with
  | none => do
    let violation ← inspectionViolation "after" capture
    pure [violation]
  | some snapshot => do
    let expected ← run.expectedPathAfter
    safetyViolations (workspaceSafetyChanges snapshot expected baseline.branch baseline.headSha true false)
      "after writable execution"

/-- `_changed_files`. -/
def listChangedFiles : Except Raised (List String × Option String) :=
  handling [.osError, .runtimeError, .valueError] (run.changedFiles.map fun files => (files.1, none))
    fun error => ([], some error.describe)

/-- The violation of a failed change listing. -/
def listingViolation (changeError : Option String) (point : String) :
    Except Raised (List WritableSafetyViolation) :=
  match changeError with
  | none => .ok []
  | some error => do
    let violation ← WritableSafetyViolation.ofFields "worktree-inspection"
      "baseline-relative source diff inspection succeeds" error
      ("Could not inspect source changes " ++ point ++ ".")
    pure [violation]

/-- `_audit_without_invocation`. -/
def auditWithoutInvocation (artifactDirectory : String) (phase : AttemptPhase) (baseline : WritableBaseline)
    (environmentBefore : WorkspaceEnvironmentSnapshot) (failureMessage : String)
    (starting : List WritableSafetyViolation) : Tracked WritableAudit := do
  let (capture, guard) ←
    captureAfter sha256 run baseline.repositoryPath artifactDirectory phase environmentBefore
  let post ← lift (postViolations run capture baseline)
  let tracker ← get
  let evidence ← lift (attemptEvidenceViolations tracker)
  let violations := mergeViolations (mergeViolations starting post) evidence
  let (changedFiles, changeError) ← lift (listChangedFiles run)
  lift (run.check .changesListed)
  let listing ← lift (listingViolation changeError "before writable invocation")
  lift (WritableAudit.ofFields none tracker.beforeSnapshot capture.snapshot guard (violations ++ listing)
    changedFiles .notStarted (some failureMessage))

/-! ## The invocation -/

/-- The executor calls `on_invocation_start` this often. -/
def reportStarts : Nat → Tracked Unit
  | 0 => pure ()
  | n + 1 => do
    let _ ← attempt (AttemptTracker.recordStarted run true)
    reportStarts n

/-- `_execution_contract_problem`. -/
def executionContractProblem (execution : AgentExecution) (request : AgentExecutionRequest) : Option String :=
  if execution.taskKind ≠ request.taskKind then
    some ("Executor returned a result for the wrong task kind: expected " ++ request.taskKind.value ++
      ", got " ++ execution.taskKind.value ++ ".")
  else if execution.successful && execution.result.all fun result => !request.taskKind.accepts result then
    some "Executor returned a successful result outside the requested contract."
  else none

/-- The start the returned execution reports, unless it is unknown. -/
def recordReturnedStart (execution : AgentExecution) : Tracked Unit :=
  if execution.invocationStart = .unknown then pure ()
  else AttemptTracker.recordStarted run (execution.invocationStart = .started)

/-- The rest of the `try` block once the executor returned. -/
def acceptExecution (request : AgentExecutionRequest) (execution : AgentExecution) : Tracked Unit := do
  recordReturnedStart run execution
  lift (run.check .invocationReturned)
  lift (raiseIf (executionContractProblem execution request).isSome
    ⟨.valueError, (executionContractProblem execution request).getD ""⟩)
  let evidence ← lift (evidenceFromExecution request execution)
  lift (run.writeExecutionEvidence evidence)
  lift (run.check .evidenceWritten)
  AttemptTracker.update run .executionEvidence false { executionPath := some executionEvidenceFile }

/-- What the `try` block leaves in `execution` and `execution_error`. -/
def invoke (request : AgentExecutionRequest) : Tracked (Option AgentExecution × Option Raised) := do
  match run.check .beforeInvocation with
  | .error error => pure (none, some error)
  | .ok _ => do
    reportStarts run run.startReports
    match run.execution with
    | .error error => pure (none, some error)
    | .ok execution => do
      match ← attempt (acceptExecution run request execution) with
      | .ok _ => pure (some execution, none)
      | .error error => pure (some execution, some error)

/-- `_invocation_start`. -/
def invocationStartOf (execution : Option AgentExecution) (tracker : AttemptTracker)
    (executionError : Option Raised) : InvocationStart :=
  if tracker.processStarted then .started
  else match execution with
    | some execution => execution.invocationStart
    | none => if executionError.isSome then .unknown else .notStarted

/-- The categories after which an unchanged tree is not trusted. -/
def untrustedCategory : AgentFailureCategory → Bool
  | .missingResult | .invalidResult | .timeout | .invocationCleanupUncertain => true
  | _ => false

/-- The classification at the end of `execute`. -/
def classifyOutcome (audit : WritableAudit) (executionError : Option Raised) (unchanged : Bool) :
    WritableOutcomeKind :=
  let safe := audit.safetyViolations = [] ∧ audit.workspaceGuard.requiresHuman = false
  let untrusted := audit.execution.any fun execution => execution.failureCategory.any untrustedCategory
  if executionError.isSome then .failedUncertain
  else if audit.execution.any AgentExecution.successful then
    if safe then .succeeded else .safetyStopped
  else if audit.invocationStart = .notStarted ∧ unchanged = true ∧ safe then .rejectedBeforeStart
  else if audit.invocationStart ≠ .notStarted ∧ unchanged = true ∧ untrusted = false ∧ safe then
    .failedUnchanged
  else .failedUncertain

/-- The violation of source changes after a failed invocation. -/
def worktreeViolation (execution : Option AgentExecution) (executionError : Option Raised)
    (changedFiles : List String) (unchanged : Bool) : Except Raised (List WritableSafetyViolation) :=
  if (executionError.isSome ∨ execution.all fun execution => !execution.successful) ∧
      changedFiles ≠ [] ∧ unchanged = false then do
    let violation ← WritableSafetyViolation.ofFields "worktree"
      "no baseline-relative source changes after failed writable invocation" (formatFiles changedFiles)
      "Baseline-relative source changes exist after failed writable agent invocation."
    pure [violation]
  else .ok []

/-- `failure_message`. -/
def failureMessageOf (execution : Option AgentExecution) (executionError : Option Raised) : Option String :=
  match executionError with
  | some error => some error.describe
  | none => execution.bind fun execution => execution.failureMessage

/-- `execute` from the invocation on. -/
def executeInvocation (request : GuardedWritableRequest) (environmentBefore : WorkspaceEnvironmentSnapshot) :
    Tracked GuardedWritableOutcome := do
  let (execution, executionError) ← invoke run request.executionRequest
  let (capture, guard) ← captureAfter sha256 run request.baseline.repositoryPath
    request.executionRequest.artifactDirectory request.phase environmentBefore
  -- Lost ownership passes the `finally` block and leaves the operation.
  lift (executionError.forM fun error =>
    if error.isinstance .runOwnershipError then .error error else .ok ())
  let post ← lift (postViolations run capture request.baseline)
  let tracker ← get
  let evidence ← lift (attemptEvidenceViolations tracker)
  let (changedFiles, changeError) ← lift (listChangedFiles run)
  lift (run.check .changesListed)
  let listing ← lift (listingViolation changeError "after writable agent invocation")
  let unchanged := workspaceUnchanged tracker.beforeSnapshot capture.snapshot
  let worktree ← lift (worktreeViolation execution executionError changedFiles unchanged)
  let audit ← lift (WritableAudit.ofFields execution tracker.beforeSnapshot capture.snapshot guard
    (mergeViolations post evidence ++ listing ++ worktree) changedFiles
    (invocationStartOf execution tracker executionError) (failureMessageOf execution executionError))
  lift (GuardedWritableOutcome.ofAudit (classifyOutcome audit executionError unchanged) audit)

/-- The outcome of an audit without an invocation. -/
def stoppedOrRejected (audit : WritableAudit) : WritableOutcomeKind :=
  if audit.safetyViolations = [] ∧ audit.workspaceGuard.requiresHuman = false then .rejectedBeforeStart
  else .safetyStopped

/-- `GuardedWritableOperation.execute`. -/
def execute (request : GuardedWritableRequest) : Except Raised GuardedWritableOutcome := do
  let directory := request.executionRequest.artifactDirectory
  run.check .operationStart
  let (tracker, environmentBefore) ←
    captureBefore sha256 run request.baseline.repositoryPath directory request.phase
  let safety ← startingViolations sha256 run tracker.beforeSnapshot request.baseline
  let incomplete ← incompleteBefore tracker environmentBefore
  let evidence ← attemptEvidenceViolations tracker
  let starting := mergeViolations (mergeViolations safety incomplete) evidence
  if starting ≠ [] then do
    let audit ← (auditWithoutInvocation sha256 run directory request.phase request.baseline
      environmentBefore "Writable execution was rejected by its starting safety checks." starting tracker).1
    GuardedWritableOutcome.ofAudit .safetyStopped audit
  else do
    match ← executorCapabilityProblem run request.executionRequest with
    | some problem => do
      let audit ← (auditWithoutInvocation sha256 run directory request.phase request.baseline
        environmentBefore problem [] tracker).1
      GuardedWritableOutcome.ofAudit (stoppedOrRejected audit) audit
    | none => (executeInvocation sha256 run request environmentBefore tracker).1

/-- `GuardedWritableRejectionRequest`. -/
structure GuardedWritableRejectionRequest where
  phase : AttemptPhase
  artifactDirectory : String
  baseline : WritableBaseline
  failureMessage : String
  safetyViolations : List WritableSafetyViolation
  message_nonblank : isBlank failureMessage = false

/-- The constructor of `GuardedWritableRejectionRequest`. -/
def GuardedWritableRejectionRequest.ofFields (phase : AttemptPhase) (artifactDirectory : String)
    (baseline : WritableBaseline) (failureMessage : String)
    (safetyViolations : List WritableSafetyViolation) : Except Raised GuardedWritableRejectionRequest :=
  if writableTaskByPhase phase = none then
    .error ⟨.valueError, "Attempt phase " ++ phase.value ++ " is not writable."⟩
  else if h : isBlank failureMessage = false then
    .ok ⟨phase, artifactDirectory, baseline, failureMessage, safetyViolations, h⟩
  else .error ⟨.valueError, "failure_message must be a non-empty string."⟩

/-- `reject_before_start`. -/
def rejectBeforeStart (request : GuardedWritableRejectionRequest) : Except Raised GuardedWritableOutcome := do
  run.check .operationStart
  let (tracker, environmentBefore) ←
    captureBefore sha256 run request.baseline.repositoryPath request.artifactDirectory request.phase
  let safety ← startingViolations sha256 run tracker.beforeSnapshot request.baseline
  let incomplete ← incompleteBefore tracker environmentBefore
  let violations := mergeViolations (mergeViolations request.safetyViolations safety) incomplete
  let audit ← (auditWithoutInvocation sha256 run request.artifactDirectory request.phase request.baseline
    environmentBefore request.failureMessage violations tracker).1
  GuardedWritableOutcome.ofAudit (stoppedOrRejected audit) audit

end Operation

end SprintTicket
