import SprintTicket.AgentExecution

/-!
# Execution evidence

The envelope that ties an agent execution to the attempt that owns it. Its
constructor repeats the checks of the execution and adds those of the envelope;
`evidenceFromExecution` is how the guarded writer and the review stage build it.
-/

set_option autoImplicit false

namespace SprintTicket

open Checks

/-- The fields of `ExecutionEvidence`, not yet validated. -/
structure ExecutionEvidenceFields where
  executionId : String
  attemptId : String
  providerId : ProviderId
  taskKind : AgentTaskKind
  repositoryAccess : RepositoryAccess
  requiredCapabilities : Finset AgentCapability
  startedAt : AwareDatetime
  endedAt : AwareDatetime
  durationSeconds : Rat
  status : AgentExecutionStatus
  invocationStart : InvocationStart
  typedResult : Option TaskResult
  failureCategory : Option AgentFailureCategory
  failureMessage : Option String
  typedResultArtifact : Option ArtifactReference
  artifacts : List ArtifactReference
  providerMetadata : List (String × MetadataValue)

/-- The status-dependent checks of the constructor. -/
def validateEvidenceResult (evidence : ExecutionEvidenceFields) : Except Raised Unit :=
  match evidence.status with
  | .success => do
    raiseIf (evidence.typedResult.all fun result => !evidence.taskKind.accepts result)
      ⟨.codecError, "successful evidence must contain the typed result for its task."⟩
    raiseIf (evidence.typedResultArtifact = none)
      ⟨.codecError, "successful evidence must reference its typed result artifact."⟩
  | .failed =>
    raiseIf (evidence.typedResult ≠ none)
      ⟨.codecError, "failed evidence must not contain a typed result."⟩

/-- A constructor error of another layer, reported as a codec error. -/
def asCodecError (checked : Except Raised Unit) : Except Raised Unit :=
  checked.mapError fun error => ⟨.codecError, error.message⟩

/-- The checks of the constructor, in the order of the source. -/
def validateExecutionEvidence (evidence : ExecutionEvidenceFields) : Except Raised Unit := do
  raiseIf (isBlank evidence.executionId) ⟨.codecError, "execution_id must be a non-empty string."⟩
  raiseIf (isBlank evidence.attemptId) ⟨.codecError, "attempt_id must be a non-empty string."⟩
  raiseIf (evidence.executionId ≠ evidence.attemptId ++ ":" ++ evidence.taskKind.value)
    ⟨.codecError, "execution_id must identify the owning attempt and task kind."⟩
  raiseIf (evidence.endedAt.before evidence.startedAt) ⟨.codecError, "ended_at must not precede started_at."⟩
  raiseIf (evidence.durationSeconds < 0)
    ⟨.codecError, "duration_seconds must be finite and not negative."⟩
  raiseIf (¬durationMatches evidence.durationSeconds (evidence.endedAt.sub evidence.startedAt))
    ⟨.codecError, "duration_seconds must match the execution timestamps."⟩
  raiseIf (evidence.typedResultArtifact.any fun artifact => artifact.role ≠ .typedResult)
    ⟨.codecError, "typed_result_artifact must have the typed-result role."⟩
  raiseIf (¬(evidence.artifacts.map ArtifactReference.role).Nodup)
    ⟨.codecError, "artifacts must not contain duplicate roles."⟩
  raiseIf (.typedResult ∈ evidence.artifacts.map ArtifactReference.role)
    ⟨.codecError, "typed-result must use the dedicated typed_result_artifact field."⟩
  validateEvidenceResult evidence
  asCodecError (validateExecutionSemantics evidence.status evidence.invocationStart
    evidence.failureCategory evidence.failureMessage)

/-- `ExecutionEvidence`: validated fields. -/
structure ExecutionEvidence extends ExecutionEvidenceFields where
  valid : validateExecutionEvidence toExecutionEvidenceFields = .ok ()

/-- The constructor of `ExecutionEvidence`. -/
def ExecutionEvidence.ofFields (fields : ExecutionEvidenceFields) : Except Raised ExecutionEvidence :=
  match h : validateExecutionEvidence fields with
  | .ok () => .ok ⟨fields, h⟩
  | .error error => .error error

theorem ExecutionEvidence.ofFields_ok {fields : ExecutionEvidenceFields} {evidence : ExecutionEvidence}
    (h : ExecutionEvidence.ofFields fields = .ok evidence) :
    evidence.toExecutionEvidenceFields = fields := by
  unfold ExecutionEvidence.ofFields at h
  split at h
  · cases h; rfl
  · cases h

/-- It accepts whatever passes `__post_init__`. -/
theorem ExecutionEvidence.ofFields_valid {fields : ExecutionEvidenceFields}
    (valid : validateExecutionEvidence fields = .ok ()) : ExecutionEvidence.ofFields fields = .ok ⟨fields, valid⟩ := by
  unfold ExecutionEvidence.ofFields
  split
  · rfl
  · rename_i error refused
    rw [valid] at refused
    cases refused

/-- The fields `evidence_from_execution` passes on: the first typed-result
artifact becomes the dedicated one. -/
def evidenceFields (request : AgentExecutionRequest) (execution : AgentExecution) :
    ExecutionEvidenceFields where
  executionId := request.attemptId ++ ":" ++ request.taskKind.value
  attemptId := request.attemptId
  providerId := execution.providerId
  taskKind := execution.taskKind
  repositoryAccess := request.repositoryAccess
  requiredCapabilities := request.requiredCapabilities
  startedAt := execution.startedAt
  endedAt := execution.endedAt
  durationSeconds := execution.durationSeconds
  status := execution.status
  invocationStart := execution.invocationStart
  typedResult := execution.result
  failureCategory := execution.failureCategory
  failureMessage := execution.failureMessage
  typedResultArtifact := execution.artifacts.find? fun item => item.role = .typedResult
  artifacts := execution.artifacts.eraseP fun item => item.role = .typedResult
  providerMetadata := execution.providerMetadata

/-- `evidence_from_execution`. -/
def evidenceFromExecution (request : AgentExecutionRequest) (execution : AgentExecution) :
    Except Raised ExecutionEvidence :=
  ExecutionEvidence.ofFields (evidenceFields request execution)

end SprintTicket
