import SprintTicket.Logic.Checks
import SprintTicket.Errors
import SprintTicket.Models

/-!
# Attempt records

`AttemptRecord` is the content of one `attempt.json`. The constructor of the
source validates every instance, also the ones `dataclasses.replace` builds, so
a record here carries the proof that `validateRecord` accepted its fields and
`AttemptRecord.ofFields` is the only way to make one.

The artifact layout a record is bound to is not part of its value (it does not
take part in comparisons); the directory it names is.
-/

set_option autoImplicit false

namespace SprintTicket

open Checks

/-- A timestamp text that `parse_timestamp` accepts. -/
structure Timestamp where
  text : String
deriving DecidableEq, Repr

structure AttemptMetadata where
  controllerMessage : Option String
  beforeWorkspaceError : Option String
  afterWorkspaceError : Option String
  nonblank : ∀ text ∈ [controllerMessage, beforeWorkspaceError, afterWorkspaceError],
    text.any isBlank = false
deriving DecidableEq

/-- `AttemptMetadata()`. -/
def AttemptMetadata.empty : AttemptMetadata := ⟨none, none, none, by simp⟩

/-- `AttemptMetadata(controller_message=message)`. -/
def AttemptMetadata.ofControllerMessage (message : String) : Except Raised AttemptMetadata :=
  if h : isBlank message = false then .ok ⟨some message, none, none, by simp [h]⟩
  else .error ⟨.attemptError, "Attempt metadata controller_message must be non-empty."⟩

/-- `replace(metadata, before_workspace_error=text)`. -/
def AttemptMetadata.withBeforeWorkspaceError (metadata : AttemptMetadata) (text : String) :
    Except Raised AttemptMetadata :=
  if h : isBlank text = false then
    .ok ⟨metadata.controllerMessage, some text, metadata.afterWorkspaceError, by
      have own := metadata.nonblank
      simp_all⟩
  else .error ⟨.attemptError, "Attempt metadata before_workspace_error must be non-empty."⟩

/-- `replace(metadata, after_workspace_error=text)`. -/
def AttemptMetadata.withAfterWorkspaceError (metadata : AttemptMetadata) (text : String) :
    Except Raised AttemptMetadata :=
  if h : isBlank text = false then
    .ok ⟨metadata.controllerMessage, metadata.beforeWorkspaceError, some text, by
      have own := metadata.nonblank
      simp_all⟩
  else .error ⟨.attemptError, "Attempt metadata after_workspace_error must be non-empty."⟩

/-- The fields of `AttemptRecord`, not yet validated. Its texts are those that UTF-8
encodes; a `str` may also hold lone surrogates. -/
structure AttemptFields where
  sequence : Nat
  phase : AttemptPhase
  status : AttemptStatus
  beforeWorkspaceFingerprint : Option String
  afterWorkspaceFingerprint : Option String
  processStarted : Bool
  startedAt : Timestamp
  endedAt : Option Timestamp
  resultPath : String
  executionPath : Option String
  metadata : AttemptMetadata
  artifactDirectory : String
deriving DecidableEq

/-- `_directory_name`. -/
def directoryName (sequence : Nat) (phase : AttemptPhase) : String :=
  threeDigits sequence ++ "-" ++ (phaseDefinition phase).slug

/-- `artifact_directory.name`: what follows the last `/`. -/
def baseName (path : String) : String :=
  String.ofList ((splitSlash path.toList).getLastD [])

/-! ## Validation -/

/-- `_validate_relative_artifact_path`. -/
def validateRelativeArtifactPath (value field : String) : Except Raised Unit := do
  raiseIf (value = "" ∨ '\\' ∈ value.toList)
    ⟨.attemptError, field ++ " must be a non-empty POSIX relative path."⟩
  raiseIf (value.toList.head? = some '/' ∨ ['.', '.'] ∈ pathParts value)
    ⟨.attemptError, field ++ " must remain inside the attempt directory."⟩

/-- `_validate_record`, in the order of the source. The checks of Python types
and of the constant schema version and format have no counterpart: the types
here exclude the values they refuse. -/
def validateRecord (record : AttemptFields) : Except Raised Unit := do
  raiseIf (record.sequence < 1) ⟨.attemptError, "Attempt sequence must be a positive integer."⟩
  raiseIf (record.endedAt = none ∧ record.status ≠ .started)
    ⟨.attemptError, "Completed attempt records must have ended_at."⟩
  raiseIf (record.endedAt ≠ none ∧ record.status = .started)
    ⟨.attemptError, "Started attempt records cannot have ended_at."⟩
  validateRelativeArtifactPath record.resultPath "result_path"
  raiseIf (record.resultPath ≠ (phaseDefinition record.phase).resultArtifactName)
    ⟨.attemptError, "Attempt result_path does not match its phase definition."⟩
  record.executionPath.forM fun path => validateRelativeArtifactPath path "execution_path"
  raiseIf (baseName record.artifactDirectory ≠ directoryName record.sequence record.phase)
    ⟨.attemptError, "Attempt directory does not match its sequence and phase."⟩

/-- What every attempt record satisfies. -/
structure AttemptFields.Valid (record : AttemptFields) : Prop where
  sequence_pos : 1 ≤ record.sequence
  ended_iff : record.endedAt = none ↔ record.status = .started
  result_path : record.resultPath = (phaseDefinition record.phase).resultArtifactName
  directory : baseName record.artifactDirectory = directoryName record.sequence record.phase

/-- What passes `__post_init__` satisfies the conditions one by one. -/
theorem validateRecord_ok {record : AttemptFields} (h : validateRecord record = .ok ()) :
    record.Valid := by
  simp only [validateRecord, check_bind_ok, raiseIf_ok] at h
  obtain ⟨positive, ended, started, _, result, _, directory⟩ := h
  refine ⟨by omega, ?_, by simpa using result, by simpa using directory⟩
  constructor
  · intro none
    by_contra other
    exact ended ⟨none, other⟩
  · intro running
    by_contra other
    exact started ⟨other, running⟩

/-- `AttemptRecord`: validated fields. -/
structure AttemptRecord extends AttemptFields where
  valid : validateRecord toAttemptFields = .ok ()
deriving DecidableEq

/-- The constructor of `AttemptRecord`. -/
def AttemptRecord.ofFields (fields : AttemptFields) : Except Raised AttemptRecord :=
  match h : validateRecord fields with
  | .ok () => .ok ⟨fields, h⟩
  | .error error => .error error

theorem AttemptRecord.ofFields_ok {fields : AttemptFields} {record : AttemptRecord} :
    AttemptRecord.ofFields fields = .ok record ↔ record.toAttemptFields = fields := by
  obtain ⟨own, valid⟩ := record
  unfold AttemptRecord.ofFields
  constructor
  · intro h
    split at h
    · cases h; rfl
    · cases h
  · rintro rfl
    split
    · rfl
    · simp_all

/-- Every record that exists is valid. -/
theorem AttemptRecord.Valid (record : AttemptRecord) : record.toAttemptFields.Valid :=
  validateRecord_ok record.valid

/-- A started attempt has no end, a finished one has. -/
theorem AttemptRecord.ended_iff (record : AttemptRecord) :
    record.endedAt = none ↔ record.status = .started :=
  record.Valid.ended_iff

@[ext] theorem AttemptRecord.ext {left right : AttemptRecord}
    (h : left.toAttemptFields = right.toAttemptFields) : left = right := by
  cases left; cases right; simp_all

end SprintTicket
