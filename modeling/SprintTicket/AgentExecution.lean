import Mathlib.Data.Finset.Basic
import Mathlib.Algebra.Order.Field.Rat
import SprintTicket.Datetimes
import SprintTicket.Models
import SprintTicket.TaskResults

/-!
# Agent executions

The provider-neutral contract between the controller and whoever runs an agent.
An `AgentExecution` carries the checks of its constructor, so that a consumer
may rely on them: a success started and has a result of its task's type, a
failure has a category, a message and a start that fits the category.

Durations are rationals of seconds.
-/

set_option autoImplicit false

namespace SprintTicket

open Checks

inductive AgentTaskKind
  | implementation | review | correction
deriving DecidableEq, Repr

inductive RepositoryAccess
  | readOnly | workspaceWrite
deriving DecidableEq, Repr

inductive AgentCapability
  | readOnlyExecution | workspaceWriteExecution | structuredResult | isolatedInvocation
  | diagnosticArtifactCapture | networkPolicyControl
deriving DecidableEq, Repr

inductive AgentExecutionStatus
  | success | failed
deriving DecidableEq, Repr

/-- What is known about whether provider-controlled work began. -/
inductive InvocationStart
  | notStarted | started | unknown
deriving DecidableEq, Repr

inductive AgentFailureCategory
  | providerUnavailable | invocationStartFailure | timeout | providerRejectionOrServiceFailure
  | nonSuccessfulExecution | invocationCleanupUncertain | missingResult | invalidResult
  | capabilityOrConfigurationFailure
deriving DecidableEq, Repr

def AgentTaskKind.value : AgentTaskKind → String
  | .implementation => "implementation"
  | .review => "review"
  | .correction => "correction"

def RepositoryAccess.value : RepositoryAccess → String
  | .readOnly => "read-only"
  | .workspaceWrite => "workspace-write"

def AgentExecutionStatus.value : AgentExecutionStatus → String
  | .success => "success"
  | .failed => "failed"

def AgentCapability.value : AgentCapability → String
  | .readOnlyExecution => "read-only-execution"
  | .workspaceWriteExecution => "workspace-write-execution"
  | .structuredResult => "structured-result"
  | .isolatedInvocation => "isolated-invocation"
  | .diagnosticArtifactCapture => "diagnostic-artifact-capture"
  | .networkPolicyControl => "network-policy-control"

def InvocationStart.value : InvocationStart → String
  | .notStarted => "not-started"
  | .started => "started"
  | .unknown => "unknown"

def AgentFailureCategory.value : AgentFailureCategory → String
  | .providerUnavailable => "provider-unavailable"
  | .invocationStartFailure => "invocation-start-failure"
  | .timeout => "timeout"
  | .providerRejectionOrServiceFailure => "provider-rejection-or-service-failure"
  | .nonSuccessfulExecution => "non-successful-execution"
  | .invocationCleanupUncertain => "invocation-cleanup-uncertain"
  | .missingResult => "missing-result"
  | .invalidResult => "invalid-result"
  | .capabilityOrConfigurationFailure => "capability-or-configuration-failure"

/-- The failures that are decided before the provider is invoked. -/
def AgentFailureCategory.preInvocation : AgentFailureCategory → Bool
  | .providerUnavailable | .invocationStartFailure | .capabilityOrConfigurationFailure => true
  | _ => false

/-- `validate_execution_semantics`. -/
def validateExecutionSemantics (status : AgentExecutionStatus) (invocationStart : InvocationStart)
    (failureCategory : Option AgentFailureCategory) (failureMessage : Option String) :
    Except Raised Unit :=
  match status with
  | .success => do
    raiseIf (invocationStart ≠ .started)
      ⟨.agentContractError, "successful execution must have started."⟩
    raiseIf (failureCategory ≠ none ∨ failureMessage ≠ none)
      ⟨.agentContractError, "successful execution must not contain failure details."⟩
  | .failed =>
    match failureCategory with
    | none => .error ⟨.agentContractError, "failed execution must contain a failure category."⟩
    | some category => do
      raiseIf (failureMessage.all isBlank)
        ⟨.agentContractError, "failed execution must contain a failure message."⟩
      raiseIf (category.preInvocation ∧ invocationStart ≠ .notStarted)
        ⟨.agentContractError, category.value ++ " must be recorded before invocation start."⟩
      raiseIf (¬category.preInvocation ∧ category ≠ .timeout ∧ invocationStart = .notStarted)
        ⟨.agentContractError, category.value ++ " requires a started or uncertain invocation."⟩

/-- A success is a started invocation without a failure. -/
theorem validateExecutionSemantics_success {start : InvocationStart}
    {category : Option AgentFailureCategory} {message : Option String} :
    validateExecutionSemantics .success start category message = .ok () ↔
      start = .started ∧ category = none ∧ message = none := by
  simp [validateExecutionSemantics]

/-- A failed execution has a category and a non-blank message; it is recorded
as not started exactly for the pre-invocation categories, a timeout excepted. -/
theorem validateExecutionSemantics_failed {start : InvocationStart}
    {category : Option AgentFailureCategory} {message : Option String} :
    validateExecutionSemantics .failed start category message = .ok () ↔
      ∃ c text, category = some c ∧ message = some text ∧ isBlank text = false ∧
        (c.preInvocation = true → start = .notStarted) ∧
          (c.preInvocation = false → c ≠ .timeout → start ≠ .notStarted) := by
  cases category with
  | none => simp [validateExecutionSemantics]
  | some c => cases message <;> simp [validateExecutionSemantics]

/-- `ProviderId`: non-blank, without surrounding whitespace. -/
@[ext]
structure ProviderId where
  value : String
  nonblank : isBlank value = false
  stripped : (value.toList.head?.any isSpace || value.toList.getLast?.any isSpace) = false

instance : DecidableEq ProviderId := fun _ _ => decidable_of_iff _ ProviderId.ext_iff.symm

theorem codexCli_nonblank : isBlank "codex-cli" = false := by decide

theorem codexCli_stripped :
    ("codex-cli".toList.head?.any isSpace || "codex-cli".toList.getLast?.any isSpace) = false := by decide

def exampleProvider : ProviderId := ⟨"codex-cli", codexCli_nonblank, codexCli_stripped⟩

inductive ArtifactRole
  | executionEvidence | typedResult | prompt | providerEvents | standardError
  | providerExecutionDetails | providerDiagnosticResult | workspaceGuard | correctionTicket
deriving DecidableEq, Repr

def ArtifactRole.value : ArtifactRole → String
  | .executionEvidence => "execution-evidence"
  | .typedResult => "typed-result"
  | .prompt => "prompt"
  | .providerEvents => "provider-events"
  | .standardError => "standard-error"
  | .providerExecutionDetails => "provider-execution-details"
  | .providerDiagnosticResult => "provider-diagnostic-result"
  | .workspaceGuard => "workspace-guard"
  | .correctionTicket => "correction-ticket"

local instance lawfulBEq_part : LawfulBEq (List Char) := inferInstance

/-- `_validated_artifact_path(value).as_posix()`. -/
def validatedArtifactPath (text : String) : Except Raised String := do
  raiseIf (text = "" ∨ '\\' ∈ text.toList)
    ⟨.agentContractError, "artifact path must be a non-empty POSIX relative path."⟩
  raiseIf (text.toList.head? = some '/' ∨ windowsAbsolute text ∨
      (pathParts text).any fun part => part ∈ [[], ['.'], ['.', '.']])
    ⟨.agentContractError, "artifact path must be relative without traversal."⟩
  pure (asPosix text)

/-- `ArtifactReference`, its path already normalised. -/
structure ArtifactReference where
  role : ArtifactRole
  runRelativePath : String
  mediaType : Option String
  path_valid : ∃ text, validatedArtifactPath text = .ok runRelativePath
  media_nonblank : mediaType.any isBlank = false
deriving DecidableEq

/-- The constructor of `ArtifactReference`. -/
def ArtifactReference.ofFields (role : ArtifactRole) (path : String) (mediaType : Option String) :
    Except Raised ArtifactReference :=
  match h : validatedArtifactPath path with
  | .ok normalized =>
    if media : mediaType.any isBlank = false then .ok ⟨role, normalized, mediaType, ⟨path, h⟩, media⟩
    else .error ⟨.agentContractError, "artifact media_type must be non-empty when set."⟩
  | .error error => .error error

/-- A typed result at a normal path. -/
def exampleResultArtifact (path : String) (normal : validatedArtifactPath path = .ok path) : ArtifactReference where
  role := .typedResult
  runRelativePath := path
  mediaType := none
  path_valid := ⟨path, normal⟩
  media_nonblank := rfl

/-- The parts of a normalised path can be validated again, and a drive letter is
all that a second validation may refuse. -/
theorem ArtifactReference.validated_again (artifact : ArtifactReference) :
    validatedArtifactPath artifact.runRelativePath =
      if windowsAbsolute artifact.runRelativePath then
        .error ⟨.agentContractError, "artifact path must be relative without traversal."⟩
      else .ok artifact.runRelativePath := by
  obtain ⟨text, validated⟩ := artifact.path_valid
  simp only [validatedArtifactPath, check_bind_ok, raiseIf_ok, not_or, pure_ok] at validated
  obtain ⟨⟨_, slashed⟩, ⟨_, _, parts⟩, normalized⟩ := validated
  rw [← normalized]
  have filled : asPosix text ≠ "" := asPosix_ne_empty text
  have plain : '\\' ∉ (asPosix text).toList := by
    intro member
    rcases mem_asPosix member with inside | slash | dot
    · exact slashed inside
    · exact absurd slash (by decide)
    · exact absurd dot (by decide)
  have relative : (asPosix text).toList.head? ≠ some '/' := asPosix_relative text
  have first : raiseIf (asPosix text = "" ∨ '\\' ∈ (asPosix text).toList)
      (⟨.agentContractError, "artifact path must be a non-empty POSIX relative path."⟩ : Raised) = .ok () :=
    raiseIf_ok.mpr (by simp [filled, plain])
  rw [validatedArtifactPath, ok_bind first, pathParts_asPosix, asPosix_asPosix]
  by_cases drive : windowsAbsolute (asPosix text) = true
  · have refused : (asPosix text).toList.head? = some '/' ∨ windowsAbsolute (asPosix text) ∨
        (pathParts text).any fun part => part ∈ [[], ['.'], ['.', '.']] := .inr (.inl drive)
    rw [if_pos drive, raiseIf, if_pos refused]
    rfl
  · have passed : ¬((asPosix text).toList.head? = some '/' ∨ windowsAbsolute (asPosix text) ∨
        (pathParts text).any fun part => part ∈ [[], ['.'], ['.', '.']]) := by
      simp only [not_or]
      exact ⟨relative, drive, parts⟩
    rw [if_neg drive, ok_bind (a := ()) (raiseIf_ok.mpr passed)]
    rfl

/-- An artifact can be constructed again from its own fields unless its path
looks like one with a drive. -/
theorem ArtifactReference.ofFields_again (artifact : ArtifactReference) :
    ArtifactReference.ofFields artifact.role artifact.runRelativePath artifact.mediaType = .ok artifact ↔
      windowsAbsolute artifact.runRelativePath = false := by
  have again := artifact.validated_again
  unfold ArtifactReference.ofFields
  split
  · rename_i normalized validated
    rw [again] at validated
    split at validated
    · cases validated
    · rename_i plain
      cases validated
      simp [artifact.media_nonblank, plain]
  · rename_i error refused
    rw [again] at refused
    split at refused
    · rename_i drive
      simp [drive]
    · cases refused

/-- `ProviderMetadataValue`, its numbers finite. -/
inductive MetadataValue
  | null
  | bool (value : Bool)
  | int (value : Int)
  | float (value : Rat)
  | str (value : String)
  | tuple (items : List MetadataValue)
  | mapping (fields : List (String × MetadataValue))

/-- `_result_type_for` and `AgentResultContract.accepts`: a review yields a
review result, the two writing tasks an implementation result. -/
def AgentTaskKind.accepts : AgentTaskKind → TaskResult → Bool
  | .review, .review _ => true
  | .implementation, .implementation _ => true
  | .correction, .implementation _ => true
  | _, _ => false

/-- The fields of `AgentExecution`, not yet validated. -/
structure AgentExecutionFields where
  providerId : ProviderId
  taskKind : AgentTaskKind
  status : AgentExecutionStatus
  invocationStart : InvocationStart
  startedAt : AwareDatetime
  endedAt : AwareDatetime
  durationSeconds : Rat
  result : Option TaskResult
  failureCategory : Option AgentFailureCategory
  failureMessage : Option String
  artifacts : List ArtifactReference
  providerMetadata : List (String × MetadataValue)

/-- `isclose(duration, elapsed, rel_tol=0, abs_tol=1e-6)` for the elapsed microseconds. -/
def durationMatches (durationSeconds : Rat) (elapsed : Int) : Prop :=
  |durationSeconds - elapsed / 1000000| ≤ 1 / 1000000

instance (durationSeconds : Rat) (elapsed : Int) : Decidable (durationMatches durationSeconds elapsed) :=
  inferInstanceAs (Decidable (_ ≤ _))

/-- `_validate_success` and `_validate_failure`. -/
def validateExecutionResult (execution : AgentExecutionFields) : Except Raised Unit :=
  match execution.status with
  | .success => do
    raiseIf (execution.result = none)
      ⟨.agentContractError, "successful execution must contain a typed result."⟩
    raiseIf (execution.result.any fun result => !execution.taskKind.accepts result)
      ⟨.agentContractError, "successful execution result does not match its task kind."⟩
  | .failed =>
    raiseIf (execution.result ≠ none)
      ⟨.agentContractError, "failed execution must not contain a result."⟩

/-- The checks of the constructor, in the order of the source. -/
def validateAgentExecution (execution : AgentExecutionFields) : Except Raised Unit := do
  raiseIf (execution.endedAt.before execution.startedAt)
    ⟨.agentContractError, "ended_at must not be earlier than started_at."⟩
  raiseIf (execution.durationSeconds < 0)
    ⟨.agentContractError, "duration_seconds must be finite and not negative."⟩
  raiseIf (¬durationMatches execution.durationSeconds (execution.endedAt.sub execution.startedAt))
    ⟨.agentContractError, "duration_seconds must match the execution timestamps."⟩
  validateExecutionResult execution
  validateExecutionSemantics execution.status execution.invocationStart execution.failureCategory
    execution.failureMessage

/-- `AgentExecution`: validated fields. -/
structure AgentExecution extends AgentExecutionFields where
  valid : validateAgentExecution toAgentExecutionFields = .ok ()

/-- `AgentExecution.successful`. -/
def AgentExecution.successful (execution : AgentExecution) : Bool :=
  execution.status = .success

/-- The constructor of `AgentExecution`. -/
def AgentExecution.ofFields (fields : AgentExecutionFields) : Except Raised AgentExecution :=
  match h : validateAgentExecution fields with
  | .ok () => .ok ⟨fields, h⟩
  | .error error => .error error

/-- The constructor keeps the fields it is given. -/
theorem AgentExecution.ofFields_ok {fields : AgentExecutionFields} {execution : AgentExecution}
    (h : AgentExecution.ofFields fields = .ok execution) :
    execution.toAgentExecutionFields = fields := by
  unfold AgentExecution.ofFields at h
  split at h
  · cases h; rfl
  · cases h

/-- Whatever was constructed passes the first check of `__post_init__` again. -/
theorem AgentExecution.semantics (execution : AgentExecution) :
    validateExecutionSemantics execution.status execution.invocationStart execution.failureCategory
      execution.failureMessage = .ok () := by
  have valid := execution.valid
  simp only [validateAgentExecution, check_bind_ok] at valid
  exact valid.2.2.2.2

theorem AgentExecution.result_valid (execution : AgentExecution) :
    validateExecutionResult execution.toAgentExecutionFields = .ok () := by
  have valid := execution.valid
  simp only [validateAgentExecution, check_bind_ok] at valid
  exact valid.2.2.2.1

/-- A success has a result its task accepts. -/
theorem AgentExecution.success_result {execution : AgentExecution} (success : execution.status = .success) :
    ∃ result, execution.result = some result ∧ execution.taskKind.accepts result = true := by
  have valid := execution.result_valid
  simp only [validateExecutionResult, success, check_bind_ok, raiseIf_ok] at valid
  obtain ⟨present, accepted⟩ := valid
  cases found : execution.result with
  | none => exact absurd found present
  | some result => exact ⟨result, rfl, by simpa [found] using accepted⟩

/-- `required_execution_capabilities`. -/
def requiredExecutionCapabilities (access : RepositoryAccess) : Finset AgentCapability :=
  {match access with
    | .readOnly => .readOnlyExecution
    | .workspaceWrite => .workspaceWriteExecution,
    .structuredResult, .isolatedInvocation, .diagnosticArtifactCapture, .networkPolicyControl}

/-! ## Capability sets in JSON -/

/-- The capabilities in the order of their values. -/
def AgentCapability.sorted : List AgentCapability :=
  [.diagnosticArtifactCapture, .isolatedInvocation, .networkPolicyControl, .readOnlyExecution,
    .structuredResult, .workspaceWriteExecution]

theorem AgentCapability.mem_sorted (capability : AgentCapability) : capability ∈ AgentCapability.sorted := by
  cases capability <;> decide

/-- `AgentCapability(value)`. -/
def capability? : Json → Option AgentCapability
  | .str text => AgentCapability.sorted.find? fun capability => capability.value = text
  | _ => none

/-- A capability is read back from its value. -/
theorem capability?_value (capability : AgentCapability) :
    capability? (.str capability.value) = some capability := by
  cases capability <;> rfl

/-- `sorted(c.value for c in capabilities)`. -/
def encodeCapabilities (capabilities : Finset AgentCapability) : List Json :=
  (AgentCapability.sorted.filter (· ∈ capabilities)).map fun capability => .str capability.value

/-- The members of a set in order, as a set. -/
theorem sorted_filter_toFinset (capabilities : Finset AgentCapability) :
    (AgentCapability.sorted.filter (· ∈ capabilities)).toFinset = capabilities := by
  ext capability
  simp [AgentCapability.mem_sorted]

/-- The members a list of values stands for. -/
def decodeCapabilities? : List Json → Option (List AgentCapability)
  | [] => some []
  | value :: rest => do
    let capability ← capability? value
    let others ← decodeCapabilities? rest
    pure (capability :: others)

/-- The values of a list of capabilities are read back in their order. -/
theorem decodeCapabilities?_values (members : List AgentCapability) :
    decodeCapabilities? (members.map fun capability => .str capability.value) = some members := by
  induction members with
  | nil => rfl
  | cons capability rest ih => simp [decodeCapabilities?, capability?_value, ih]

/-- A set written in order is read back without duplicates. -/
theorem decodeCapabilities?_encode (capabilities : Finset AgentCapability) :
    ∃ members : List AgentCapability, decodeCapabilities? (encodeCapabilities capabilities) = some members ∧
      members.Nodup ∧ members.toFinset = capabilities ∧
        members.length = (encodeCapabilities capabilities).length := by
  have unique : AgentCapability.sorted.Nodup := by decide
  exact ⟨_, decodeCapabilities?_values _, unique.filter _, sorted_filter_toFinset capabilities,
    by simp [encodeCapabilities]⟩

theorem encodeCapabilities_ne_nil {capabilities : Finset AgentCapability} (nonempty : capabilities.Nonempty) :
    encodeCapabilities capabilities ≠ [] := by
  obtain ⟨capability, member⟩ := nonempty
  have listed : capability ∈ AgentCapability.sorted.filter (· ∈ capabilities) :=
    List.mem_filter.mpr ⟨capability.mem_sorted, by simpa using member⟩
  intro empty
  rw [List.map_eq_nil_iff.mp empty] at listed
  exact absurd listed List.not_mem_nil

/-- What the controller and the evidence read of an `AgentExecutionRequest`;
`attemptId` is the identity of its artifact layout. -/
structure AgentExecutionRequest where
  taskKind : AgentTaskKind
  repositoryPath : String
  repositoryAccess : RepositoryAccess
  artifactDirectory : String
  attemptId : String
  requiredCapabilities : Finset AgentCapability
deriving DecidableEq

/-- `missing_capabilities`. -/
def AgentExecutionRequest.missingCapabilities (request : AgentExecutionRequest)
    (available : Finset AgentCapability) : Finset AgentCapability :=
  request.requiredCapabilities \ available

end SprintTicket
