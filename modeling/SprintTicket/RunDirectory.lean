import SprintTicket.Attempts.Ledger
import SprintTicket.ExecutionEvidence

/-!
# Run directories as the readers see them

What the readers of one run directory can observe: the attempt ledger, and for
each attempt its result artifact, its execution evidence and which referenced
artifacts exist. Any of these observations may fail; a failure is the exception
the reader sees.
-/

set_option autoImplicit false

namespace SprintTicket

open Checks

/-- One artifact file; `missing` carries the error that opening it raises. -/
inductive ArtifactFile
  | missing (error : Raised)
  | unreadable (error : Raised)
  | json (value : Json)

/-- `read_json`. -/
def readJson : ArtifactFile → Except Raised Json
  | .missing error => .error error
  | .unreadable error => .error error
  | .json value => .ok value

/-- `read_json_object`. -/
def readJsonObject (file : ArtifactFile) : Except Raised (List (String × Json)) := do
  match ← readJson file with
  | .obj fields => pure fields
  | _ => .error ⟨.codecError, "JSON record must be an object."⟩

structure RunDirectory where
  /-- `load_attempt_records`. -/
  ledger : Except Raised AttemptLedger
  /-- `attempt_artifact_layout` of the attempt with this sequence. -/
  confined : Nat → Except Raised Unit
  /-- The result artifact of that attempt. -/
  resultFile : Nat → ArtifactFile
  /-- `read_execution_evidence` of that attempt. -/
  execution : Nat → Except Raised ExecutionEvidence
  /-- `layout.resolve(reference, require_exists=True)` of that attempt. -/
  artifactExists : Nat → ArtifactReference → Except Raised Unit

/-- `_read_attempt_result_value`; a missing artifact is `None`. -/
def readAttemptResultValue (directory : RunDirectory) (attempt : AttemptRecord) :
    Except Raised Json := do
  directory.confined attempt.sequence
  match directory.resultFile attempt.sequence with
  | .missing _ => pure .null
  | file =>
    reraise .codecError
      (fun error => ⟨.persistenceCodecError,
        "Attempt result artifact could not be read as JSON: " ++ error.message⟩)
      (readJson file)

/-- The decoding step shared by `read_implementation_result` and `read_review_result`. -/
def readStageResult {α : Type} (decode : Json → Except Raised α) (directory : RunDirectory)
    (attempt : AttemptRecord) : Except Raised (Option α) := do
  match ← readAttemptResultValue directory attempt with
  | .null => pure none
  | value =>
    let result ← reraise .resultValidationError (fun error => ⟨.persistenceCodecError, error.message⟩)
      (decode value)
    pure (some result)

/-- `read_implementation_result`. -/
def readImplementationResult : RunDirectory → AttemptRecord → Except Raised (Option ImplementationResult) :=
  readStageResult decodeImplementationResult

/-- `read_review_result`. -/
def readReviewResult : RunDirectory → AttemptRecord → Except Raised (Option ReviewResult) :=
  readStageResult decodeReviewResult

end SprintTicket
