import SprintTicket.ExecutionEvidence
import SprintTicket.GitSafety
import SprintTicket.WorkspaceGuard

/-!
# Requests and outcomes of a guarded write

The immutable inputs and the sealed outcomes of `GuardedWritableOperation`. Each
of the five outcomes checks the audit it is built from, so an outcome here is an
audit together with the proof that its checks passed.
-/

set_option autoImplicit false

namespace SprintTicket

open Checks

@[ext]
structure WritableBaseline where
  repositoryPath : String
  branch : Option String
  headSha : String
  expectedWorkspaceFingerprint : Option String
  requireCleanWorktree : Bool
  branch_nonblank : branch.any isBlank = false
  headSha_object : isGitObject headSha = true
  fingerprint_sha256 : expectedWorkspaceFingerprint.all isSha256 = true

instance : DecidableEq WritableBaseline := fun _ _ => decidable_of_iff _ WritableBaseline.ext_iff.symm

/-- The constructor of `WritableBaseline`. -/
def WritableBaseline.ofFields (repositoryPath : String) (branch : Option String) (headSha : String)
    (expectedWorkspaceFingerprint : Option String) (requireCleanWorktree : Bool) :
    Except Raised WritableBaseline :=
  if hb : branch.any isBlank = false then
    if hh : isGitObject headSha = true then
      if hf : expectedWorkspaceFingerprint.all isSha256 = true then
        .ok ⟨repositoryPath, branch, headSha, expectedWorkspaceFingerprint, requireCleanWorktree, hb, hh, hf⟩
      else .error ⟨.valueError, "expected_workspace_fingerprint must be a lowercase SHA-256 digest."⟩
    else .error ⟨.valueError, "baseline head_sha must be a Git object ID."⟩
  else .error ⟨.valueError, "baseline branch must be a non-empty string or None."⟩

/-- `_WRITABLE_TASK_BY_PHASE`. -/
def writableTaskByPhase : AttemptPhase → Option AgentTaskKind
  | .implementing => some .implementation
  | .correcting => some .correction
  | _ => none

structure GuardedWritableRequest where
  phase : AttemptPhase
  executionRequest : AgentExecutionRequest
  baseline : WritableBaseline
  task : writableTaskByPhase phase = some executionRequest.taskKind
  access : executionRequest.repositoryAccess = .workspaceWrite
  capability : .workspaceWriteExecution ∈ executionRequest.requiredCapabilities

/-- The constructor of `GuardedWritableRequest`. -/
def GuardedWritableRequest.ofFields (resolve : PathResolver) (phase : AttemptPhase)
    (executionRequest : AgentExecutionRequest) (baseline : WritableBaseline) :
    Except Raised GuardedWritableRequest :=
  match writableTaskByPhase phase with
  | none => .error ⟨.valueError, "Attempt phase " ++ phase.value ++ " is not writable."⟩
  | some expected =>
    if ht : writableTaskByPhase phase = some executionRequest.taskKind then
      if ha : executionRequest.repositoryAccess = .workspaceWrite then
        if hc : .workspaceWriteExecution ∈ executionRequest.requiredCapabilities then do
          let requested ← resolve executionRequest.repositoryPath
          let guarded ← resolve baseline.repositoryPath
          raiseIf (requested ≠ guarded)
            ⟨.valueError, "Execution request repository does not match the guarded baseline."⟩
          pure ⟨phase, executionRequest, baseline, ht, ha, hc⟩
        else .error ⟨.valueError, "Guarded writable execution requires workspace-write capability."⟩
      else .error ⟨.valueError,
        "Guarded writable execution requires workspace-write repository access."⟩
    else .error ⟨.valueError,
      phase.value ++ " requires the " ++ expected.value ++ " task contract."⟩

structure WritableSafetyViolation where
  name : String
  expected : String
  actual : String
  message : String
  nonblank : ∀ text ∈ [name, expected, actual, message], isBlank text = false
deriving DecidableEq

/-- The constructor of `WritableSafetyViolation`. -/
def WritableSafetyViolation.ofFields (name expected actual message : String) :
    Except Raised WritableSafetyViolation :=
  let fields := [("name", name), ("expected", expected), ("actual", actual), ("message", message)]
  match h : fields.find? fun field => isBlank field.2 with
  | some field => .error ⟨.valueError, field.1 ++ " must be a non-empty string."⟩
  | none => .ok ⟨name, expected, actual, message, by simpa [fields] using h⟩

/-- `values[violation.name] = violation` on an insertion-ordered dictionary. -/
def insertViolation (values : List WritableSafetyViolation) (violation : WritableSafetyViolation) :
    List WritableSafetyViolation :=
  if values.any fun value => value.name = violation.name then
    values.map fun value => if value.name = violation.name then violation else value
  else values ++ [violation]

/-- `_merge_violations`. -/
def mergeViolations (first second : List WritableSafetyViolation) : List WritableSafetyViolation :=
  (first ++ second).foldl insertViolation []

theorem insertViolation_ne_nil (values : List WritableSafetyViolation) (violation : WritableSafetyViolation) :
    insertViolation values violation ≠ [] := by
  unfold insertViolation
  split
  · rename_i found
    intro empty
    rw [List.map_eq_nil_iff.mp empty] at found
    cases found
  · simp

/-- Merging loses no violation: nothing is left only when nothing was there. -/
@[simp] theorem mergeViolations_nil {first second : List WritableSafetyViolation} :
    mergeViolations first second = [] ↔ first = [] ∧ second = [] := by
  rw [← List.append_eq_nil_iff, mergeViolations]
  constructor
  · intro merged
    rcases (first ++ second).eq_nil_or_concat with empty | ⟨rest, last, split⟩
    · exact empty
    · rw [split, List.concat_eq_append, List.foldl_concat] at merged
      exact absurd merged (insertViolation_ne_nil _ _)
  · rintro empty
    rw [empty, List.foldl_nil]

structure WritableAudit where
  execution : Option AgentExecution
  beforeWorkspace : Option WorkspaceSnapshot
  afterWorkspace : Option WorkspaceSnapshot
  workspaceGuard : WorkspaceGuardInspection
  safetyViolations : List WritableSafetyViolation
  changedFiles : List String
  invocationStart : InvocationStart
  failureMessage : Option String
  changedFiles_nonempty : "" ∉ changedFiles
  failureMessage_nonblank : failureMessage.any isBlank = false

/-- The constructor of `WritableAudit`. -/
def WritableAudit.ofFields (execution : Option AgentExecution)
    (beforeWorkspace afterWorkspace : Option WorkspaceSnapshot) (workspaceGuard : WorkspaceGuardInspection)
    (safetyViolations : List WritableSafetyViolation) (changedFiles : List String)
    (invocationStart : InvocationStart) (failureMessage : Option String) : Except Raised WritableAudit :=
  if hc : "" ∉ changedFiles then
    if hf : failureMessage.any isBlank = false then
      .ok ⟨execution, beforeWorkspace, afterWorkspace, workspaceGuard, safetyViolations, changedFiles,
        invocationStart, failureMessage, hc, hf⟩
    else .error ⟨.valueError, "failure_message must be a non-empty string or None."⟩
  else .error ⟨.typeError, "changed_files must be an immutable tuple of paths."⟩

/-- The constructor of the audit keeps what it is given. -/
theorem WritableAudit.ofFields_ok {execution : Option AgentExecution}
    {before after : Option WorkspaceSnapshot} {guard : WorkspaceGuardInspection}
    {violations : List WritableSafetyViolation} {changedFiles : List String} {start : InvocationStart}
    {message : Option String} {audit : WritableAudit}
    (h : WritableAudit.ofFields execution before after guard violations changedFiles start message =
      .ok audit) :
    audit.execution = execution ∧ audit.beforeWorkspace = before ∧ audit.afterWorkspace = after ∧
      audit.workspaceGuard = guard ∧ audit.safetyViolations = violations ∧
        audit.invocationStart = start ∧ audit.failureMessage = message := by
  unfold WritableAudit.ofFields at h
  split at h
  · split at h
    · cases h
      exact ⟨rfl, rfl, rfl, rfl, rfl, rfl, rfl⟩
    · cases h
  · cases h

/-- Both snapshots exist and their inspections are complete. -/
def completeSnapshots (before after : Option WorkspaceSnapshot) : Bool :=
  before.any WorkspaceSnapshot.inspectionComplete && after.any WorkspaceSnapshot.inspectionComplete

/-- `_workspace_unchanged`. -/
def workspaceUnchanged (before after : Option WorkspaceSnapshot) : Bool :=
  match before, after with
  | some before, some after =>
    before.inspectionComplete && after.inspectionComplete && before.matches after
  | _, _ => false

/-! ## Outcomes -/

/-- The five outcome classes. -/
inductive WritableOutcomeKind
  | succeeded | rejectedBeforeStart | failedUnchanged | failedUncertain | safetyStopped
deriving DecidableEq, Repr

/-- `_require_persisted_guard`. -/
def requirePersistedGuard (audit : WritableAudit) : Except Raised Unit :=
  raiseIf (audit.workspaceGuard.artifactPath = none)
    ⟨.valueError, "This writable outcome requires persisted guard evidence."⟩

/-- The `__post_init__` of the outcome classes, in the order of the source. -/
def validateOutcome (audit : WritableAudit) : WritableOutcomeKind → Except Raised Unit
  | .succeeded => do
    raiseIf (audit.execution.all fun execution => !execution.successful)
      ⟨.valueError, "Writable success requires a successful execution."⟩
    raiseIf (audit.invocationStart ≠ .started)
      ⟨.valueError, "Writable success requires a started invocation."⟩
    raiseIf (completeSnapshots audit.beforeWorkspace audit.afterWorkspace = false)
      ⟨.valueError, "Writable success requires a validated post-state."⟩
    raiseIf (audit.safetyViolations ≠ [] ∨ audit.workspaceGuard.requiresHuman = true)
      ⟨.valueError, "Writable success cannot contain safety violations."⟩
    requirePersistedGuard audit
  | .rejectedBeforeStart => do
    raiseIf (audit.invocationStart ≠ .notStarted)
      ⟨.valueError, "Pre-start rejection requires a not-started invocation."⟩
    raiseIf (audit.safetyViolations ≠ [] ∨ audit.workspaceGuard.requiresHuman = true)
      ⟨.valueError, "Safety failures require WritableSafetyStopped."⟩
    raiseIf (audit.execution.any AgentExecution.successful)
      ⟨.valueError, "Pre-start rejection cannot contain a successful execution."⟩
    raiseIf (completeSnapshots audit.beforeWorkspace audit.afterWorkspace = false)
      ⟨.valueError, "Pre-start rejection requires complete workspace evidence."⟩
    requirePersistedGuard audit
  | .failedUnchanged => do
    raiseIf (audit.invocationStart = .notStarted)
      ⟨.valueError, "Unchanged failure requires a started or uncertain invocation."⟩
    raiseIf (audit.execution.all AgentExecution.successful)
      ⟨.valueError, "Unchanged failure requires a failed execution."⟩
    raiseIf (workspaceUnchanged audit.beforeWorkspace audit.afterWorkspace = false)
      ⟨.valueError, "Unchanged failure requires identical workspace snapshots."⟩
    raiseIf (audit.safetyViolations ≠ [] ∨ audit.workspaceGuard.requiresHuman = true)
      ⟨.valueError, "Safety failures require WritableSafetyStopped."⟩
    requirePersistedGuard audit
  | .failedUncertain =>
    raiseIf (audit.failureMessage.all (· = ""))
      ⟨.valueError, "Uncertain failure requires a failure message."⟩
  | .safetyStopped =>
    raiseIf (audit.safetyViolations = [] ∧ audit.workspaceGuard.requiresHuman = false)
      ⟨.valueError, "Safety stop requires persisted safety evidence."⟩

/-- `GuardedWritableOutcome`: an audit that passed the checks of its class. -/
structure GuardedWritableOutcome where
  kind : WritableOutcomeKind
  audit : WritableAudit
  valid : validateOutcome audit kind = .ok ()

/-- The constructors of the outcome classes. -/
def GuardedWritableOutcome.ofAudit (kind : WritableOutcomeKind) (audit : WritableAudit) :
    Except Raised GuardedWritableOutcome :=
  match h : validateOutcome audit kind with
  | .ok () => .ok ⟨kind, audit, h⟩
  | .error error => .error error

theorem GuardedWritableOutcome.ofAudit_ok {kind : WritableOutcomeKind} {audit : WritableAudit}
    {outcome : GuardedWritableOutcome} :
    GuardedWritableOutcome.ofAudit kind audit = .ok outcome ↔ outcome.kind = kind ∧ outcome.audit = audit := by
  obtain ⟨ownKind, ownAudit, valid⟩ := outcome
  unfold GuardedWritableOutcome.ofAudit
  constructor
  · intro h
    split at h
    · cases h; exact ⟨rfl, rfl⟩
    · cases h
  · rintro ⟨rfl, rfl⟩
    split
    · rfl
    · simp_all

end SprintTicket
