import SprintTicket.Attempts.Record

/-!
# Preparing an attempt update

`update_attempt` and `complete_stage_attempt` both build a replacement record
from a record they hold and hand the pair to `save_attempt`. The pair is a
`PreparedUpdate`; whatever the changes are, it keeps the attempt's identity and
never takes an end timestamp away.
-/

set_option autoImplicit false

namespace SprintTicket

open Checks

def executionEvidenceFile : String := "execution.json"

/-- `_same_attempt_identity`. -/
def sameAttemptIdentity (left right : AttemptFields) : Bool :=
  left.sequence = right.sequence && left.phase = right.phase && left.startedAt = right.startedAt &&
    left.resultPath = right.resultPath && left.artifactDirectory = right.artifactDirectory

/-- What `_same_attempt_identity` compares. -/
structure SameIdentity (left right : AttemptFields) : Prop where
  sequence : left.sequence = right.sequence
  phase : left.phase = right.phase
  startedAt : left.startedAt = right.startedAt
  resultPath : left.resultPath = right.resultPath
  artifactDirectory : left.artifactDirectory = right.artifactDirectory

theorem SameIdentity.trans {a b c : AttemptFields} (left : SameIdentity a b) (right : SameIdentity b c) :
    SameIdentity a c where
  sequence := left.sequence.trans right.sequence
  phase := left.phase.trans right.phase
  startedAt := left.startedAt.trans right.startedAt
  resultPath := left.resultPath.trans right.resultPath
  artifactDirectory := left.artifactDirectory.trans right.artifactDirectory

/-- The keyword arguments of `update_attempt`; `none` keeps a field. -/
structure AttemptChanges where
  status : Option AttemptStatus := none
  beforeWorkspaceFingerprint : Option String := none
  afterWorkspaceFingerprint : Option String := none
  processStarted : Option Bool := none
  executionPath : Option String := none
  metadata : Option AttemptMetadata := none
  ended : Bool := false
deriving DecidableEq

/-- The `dataclasses.replace` call of `update_attempt`, with `now` for the clock. -/
def AttemptChanges.apply (changes : AttemptChanges) (record : AttemptFields) (now : Timestamp) :
    AttemptFields :=
  { record with
    status := changes.status.getD record.status
    beforeWorkspaceFingerprint :=
      changes.beforeWorkspaceFingerprint.or record.beforeWorkspaceFingerprint
    afterWorkspaceFingerprint :=
      changes.afterWorkspaceFingerprint.or record.afterWorkspaceFingerprint
    processStarted := changes.processStarted.getD record.processStarted
    executionPath := changes.executionPath.or record.executionPath
    metadata := changes.metadata.getD record.metadata
    endedAt := if changes.ended then some now else record.endedAt }

/-- No change reaches the fields that say which attempt a record is of. -/
theorem AttemptChanges.apply_identity (changes : AttemptChanges) (record : AttemptFields)
    (now : Timestamp) : SameIdentity record (changes.apply record now) :=
  ⟨rfl, rfl, rfl, rfl, rfl⟩

/-- An end timestamp is replaced at most by another one. -/
theorem AttemptChanges.apply_ended {changes : AttemptChanges} {record : AttemptFields}
    {now : Timestamp} (ended : record.endedAt ≠ none) : (changes.apply record now).endedAt ≠ none := by
  simp only [AttemptChanges.apply]
  split
  · simp
  · exact ended

/-- A replacement record together with the record it was prepared from. -/
structure PreparedUpdate where
  expected : AttemptRecord
  updated : AttemptRecord
  identity : SameIdentity expected.toAttemptFields updated.toAttemptFields
  ended : expected.endedAt ≠ none → updated.endedAt ≠ none
deriving DecidableEq

/-- A finished record is only ever replaced by a finished one: its end timestamp
stays, and a started record cannot have one. -/
theorem PreparedUpdate.finished (update : PreparedUpdate) (finished : update.expected.status ≠ .started) :
    update.updated.status ≠ .started := by
  have ended : update.updated.endedAt ≠ none :=
    update.ended fun none => finished (update.expected.ended_iff.mp none)
  exact fun started => ended (update.updated.ended_iff.mpr started)

/-- The part of `update_attempt` before `save_attempt`. -/
def prepareUpdate (record : AttemptRecord) (changes : AttemptChanges) (now : Timestamp) :
    Except Raised PreparedUpdate :=
  match h : AttemptRecord.ofFields (changes.apply record.toAttemptFields now) with
  | .ok updated =>
    .ok
      { expected := record
        updated := updated
        identity := by
          rw [AttemptRecord.ofFields_ok.mp h]
          exact changes.apply_identity record.toAttemptFields now
        ended := by
          rw [AttemptRecord.ofFields_ok.mp h]
          exact AttemptChanges.apply_ended }
  | .error error => .error error

/-- The update remembers the record it was prepared from, and holds it with the changes applied. -/
theorem prepareUpdate_expected {record : AttemptRecord} {changes : AttemptChanges} {now : Timestamp}
    {update : PreparedUpdate} (h : prepareUpdate record changes now = .ok update) :
    update.expected = record ∧
      update.updated.toAttemptFields = changes.apply record.toAttemptFields now := by
  unfold prepareUpdate at h
  split at h
  · rename_i updated built
    cases h
    exact ⟨rfl, AttemptRecord.ofFields_ok.mp built⟩
  · cases h

/-- Changes during a stage: status and end stay, and the only execution path
recorded is the evidence file. -/
structure AttemptChanges.Plain (changes : AttemptChanges) : Prop where
  status : changes.status = none
  ended : changes.ended = false
  executionPath : changes.executionPath = none ∨ changes.executionPath = some executionEvidenceFile

/-- Changes without texts of their own keep a record valid. -/
theorem AttemptChanges.Plain.valid {changes : AttemptChanges} (plain : changes.Plain) (record : AttemptRecord)
    (now : Timestamp) : validateRecord (changes.apply record.toAttemptFields now) = .ok () := by
  have own := record.valid
  simp only [validateRecord, check_bind_ok] at own ⊢
  obtain ⟨positive, missing, present, relative, result, execution, directory⟩ := own
  simp only [AttemptChanges.apply, plain.status, plain.ended, Option.getD_none, Bool.false_eq_true, if_false]
  refine ⟨positive, missing, present, relative, result, ?_, directory⟩
  rcases plain.executionPath with same | evidence
  · rw [same]
    exact execution
  · rw [evidence, Option.some_or]
    have accepted : validateRelativeArtifactPath executionEvidenceFile "execution_path" = .ok () := by decide
    exact accepted

/-- Such an update can always be prepared. -/
theorem prepareUpdate_plain {changes : AttemptChanges} (plain : changes.Plain) (record : AttemptRecord)
    (now : Timestamp) : ∃ update, prepareUpdate record changes now = .ok update := by
  have built : AttemptRecord.ofFields (changes.apply record.toAttemptFields now) =
      .ok ⟨_, plain.valid record now⟩ := AttemptRecord.ofFields_ok.mpr rfl
  unfold prepareUpdate
  split
  · exact ⟨_, rfl⟩
  · rename_i error failed
    rw [built] at failed
    cases failed

/-! ## Completing a stage attempt -/

/-- `StageAttempt`: the identity of an attempt handed to its stage. -/
structure StageAttempt where
  sequence : Nat
  phase : AttemptPhase
  beforeWorkspaceFingerprint : Option String
  resultPath : String
  artifactDirectory : String
deriving DecidableEq, Repr

/-- `StageAttempt.from_record`. -/
def StageAttempt.fromRecord (record : AttemptFields) : StageAttempt :=
  ⟨record.sequence, record.phase, record.beforeWorkspaceFingerprint, record.resultPath,
    record.artifactDirectory⟩

/-- The arguments of `complete_stage_attempt`. -/
structure StageCompletionArguments where
  attempt : StageAttempt
  stageOutcome : StageOutcome
  afterWorkspaceFingerprint : Option String
  processStarted : Option Bool
  metadata : Option AttemptMetadata
deriving DecidableEq

/-- The identity check of `complete_stage_attempt` against the loaded record. -/
def requireStartedAttempt (persisted : AttemptRecord) (attempt : StageAttempt) : Except Raised Unit := do
  raiseIf (persisted.sequence ≠ attempt.sequence ∨ persisted.phase ≠ attempt.phase ∨
      persisted.resultPath ≠ attempt.resultPath ∨
      persisted.artifactDirectory ≠ attempt.artifactDirectory)
    ⟨.attemptError, "Persisted attempt identity changed during stage dispatch."⟩
  raiseIf (persisted.status ≠ .started)
    ⟨.attemptError, "Lifecycle can only complete its active started attempt."⟩

/-- The keyword arguments `complete_stage_attempt` passes on; `evidenceExists`
tells whether the attempt directory holds execution evidence. -/
def StageCompletionArguments.changes (arguments : StageCompletionArguments)
    (persisted : AttemptRecord) (evidenceExists : Bool) : AttemptChanges where
  status := some (attemptStatusByStageOutcome arguments.stageOutcome)
  afterWorkspaceFingerprint := arguments.afterWorkspaceFingerprint
  processStarted := arguments.processStarted
  executionPath := if evidenceExists then some executionEvidenceFile else persisted.executionPath
  metadata := some (arguments.metadata.getD persisted.metadata)
  ended := true

/-- `complete_stage_attempt` from the load of the record to `save_attempt`. -/
def prepareCompletion (persisted : AttemptRecord) (arguments : StageCompletionArguments)
    (evidenceExists : Bool) (now : Timestamp) : Except Raised PreparedUpdate := do
  requireStartedAttempt persisted arguments.attempt
  prepareUpdate persisted (arguments.changes persisted evidenceExists) now

/-- A completion ends an attempt that is still STARTED, with the status of its outcome. -/
theorem prepareCompletion_ok {persisted : AttemptRecord} {arguments : StageCompletionArguments}
    {evidenceExists : Bool} {now : Timestamp} {update : PreparedUpdate}
    (h : prepareCompletion persisted arguments evidenceExists now = .ok update) :
    update.expected = persisted ∧ persisted.status = .started ∧
      update.updated.status = attemptStatusByStageOutcome arguments.stageOutcome := by
  simp only [prepareCompletion, requireStartedAttempt, check_bind_ok, raiseIf_ok] at h
  obtain ⟨⟨_, started⟩, prepared⟩ := h
  obtain ⟨expected, fields⟩ := prepareUpdate_expected prepared
  refine ⟨expected, by simpa using started, ?_⟩
  rw [fields]
  rfl

/-- `require_expected_persisted_record` of `save_attempt`. -/
def requireExpectedPersistedRecord (persisted record : AttemptRecord)
    (expectedRecord : Option AttemptRecord) : Except Raised Unit := do
  raiseIf (sameAttemptIdentity persisted.toAttemptFields record.toAttemptFields = false)
    ⟨.attemptError, "Persisted attempt identity changed before update."⟩
  raiseIf (∃ expected ∈ expectedRecord, persisted ≠ expected)
    ⟨.attemptError, "Persisted attempt changed after this update was prepared."⟩

/-- With an expected record the file has to hold exactly that. -/
theorem requireExpectedPersistedRecord_ok {persisted record expected : AttemptRecord}
    (h : requireExpectedPersistedRecord persisted record (some expected) = .ok ()) :
    persisted = expected := by
  simp only [requireExpectedPersistedRecord, check_bind_ok, raiseIf_ok] at h
  simpa using h.2

end SprintTicket
