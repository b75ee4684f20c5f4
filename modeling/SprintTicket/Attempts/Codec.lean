import SprintTicket.Attempts.Record
import SprintTicket.WriteJson

/-!
# The persisted form of an attempt record

`AttemptFields.toDict` is what `attempt.json` holds and `loadAttempt` reads it back.
The constructor and the loader repeat each other's rules: `loadAttempt_iff` says
that the loader takes exactly the encodings of what the constructor admits.

`AttemptReader` adds to the interpreter what both use of Python:
`datetime.fromisoformat` with `astimezone` and the characters that `repr` prints.
Its limits have room for the two levels of a record.
-/

set_option autoImplicit false

namespace SprintTicket

open Checks JsonSyntax

/-- What `datetime.fromisoformat` reads: a time without a zone, or one with a zone,
which may lie outside of all years in UTC. -/
inductive IsoDatetime
  | naive
  | outOfRange
  | instant (utc : Int)

structure AttemptReader extends Interpreter where
  fromIsoFormat : List Char → Option IsoDatetime
  printable : Char → Bool
  nesting : 2 ≤ limits.depth
  calls : 2 < frames

def attemptError (message : String) : Raised := ⟨.attemptError, message⟩

/-- `Z` stands for the offset of UTC. -/
def isoCandidate (value : String) : List Char :=
  let text := value.toList
  if text.getLast? = some 'Z' then text.dropLast ++ "+00:00".toList else text

/-- `parse_timestamp`. -/
def AttemptReader.parseTimestamp (reader : AttemptReader) (field value : String) : Except Raised Int :=
  if value = "" then .error ⟨.codecError, field ++ " must be a non-empty timestamp string."⟩
  else
    match reader.fromIsoFormat (isoCandidate value) with
    | none => .error ⟨.codecError, field ++ " must be an ISO-8601 timestamp."⟩
    | some .naive => .error ⟨.codecError, field ++ " must include a timezone."⟩
    | some .outOfRange => .error ⟨.overflowError, "date value out of range"⟩
    | some (.instant utc) => .ok utc

/-- `_validate_timestamp`. -/
def validateTimestamp (reader : AttemptReader) (value field : String) : Except Raised Unit :=
  (reraise .codecError (fun error => attemptError error.message) (reader.parseTimestamp field value)).map fun _ => ()

/-- `f"{record.sequence:03d}"` refuses a number with too many digits. -/
def formatSequence (reader : AttemptReader) (sequence : Nat) : Except Raised Unit :=
  raiseIf (reader.limits.digits < (Nat.toDigits 10 sequence).length)
    ⟨.valueError, "Exceeds the limit for integer string conversion"⟩

/-- The end of a record in `_validate_record`. -/
def validateEnd (reader : AttemptReader) (record : AttemptFields) : Except Raised Unit :=
  match record.endedAt with
  | none => raiseIf (record.status ≠ .started) (attemptError "Completed attempt records must have ended_at.")
  | some ended => do
    validateTimestamp reader ended.text "ended_at"
    raiseIf (record.status = .started) (attemptError "Started attempt records cannot have ended_at.")

/-- `_validate_record` up to the name of the directory. -/
def validateContent (reader : AttemptReader) (record : AttemptFields) : Except Raised Unit := do
  raiseIf (record.sequence < 1) (attemptError "Attempt sequence must be a positive integer.")
  validateTimestamp reader record.startedAt.text "started_at"
  validateEnd reader record
  validateRelativeArtifactPath record.resultPath "result_path"
  raiseIf (record.resultPath ≠ (phaseDefinition record.phase).resultArtifactName)
    (attemptError "Attempt result_path does not match its phase definition.")
  record.executionPath.forM fun path => validateRelativeArtifactPath path "execution_path"

/-- The constructor of `AttemptRecord`, with the checks that the types of
`AttemptFields` do not make; `AttemptRecord.ofFields` adds that of the directory. -/
def constructAttempt (reader : AttemptReader) (fields : AttemptFields) : Except Raised AttemptRecord := do
  validateContent reader fields
  formatSequence reader fields.sequence
  AttemptRecord.ofFields fields

/-- A text or null. -/
def nullable (value : Option String) : Json := (value.map Json.str).getD .null

/-- A field that is left out when it is `None`. -/
def presentField (field : String × Option String) : Option (String × Json) :=
  field.2.map fun value => (field.1, .str value)

def AttemptMetadata.fields (metadata : AttemptMetadata) : List (String × Option String) :=
  [("controller_message", metadata.controllerMessage), ("before_workspace_error", metadata.beforeWorkspaceError),
    ("after_workspace_error", metadata.afterWorkspaceError)]

/-- `AttemptMetadata.to_dict`. -/
def AttemptMetadata.toDict (metadata : AttemptMetadata) : List (String × Json) :=
  metadata.fields.filterMap presentField

/-- `AttemptRecord.to_dict`. -/
def AttemptFields.toDict (record : AttemptFields) : List (String × Json) :=
  [("schema_version", .int 1), ("format", .str "ticket_automation.attempt"), ("sequence", .int record.sequence),
    ("phase", .str record.phase.value), ("status", .str record.status.value),
    ("before_workspace_fingerprint", nullable record.beforeWorkspaceFingerprint),
    ("after_workspace_fingerprint", nullable record.afterWorkspaceFingerprint),
    ("process_started", .bool record.processStarted), ("started_at", .str record.startedAt.text),
    ("ended_at", nullable (record.endedAt.map Timestamp.text)), ("result_path", .str record.resultPath),
    ("execution_path", nullable record.executionPath), ("metadata", .obj record.metadata.toDict)]

namespace AttemptCodec

/-- `_ATTEMPT_RECORD_FIELDS`, in the order of `sorted`. -/
def recordFields : List String :=
  ["after_workspace_fingerprint", "before_workspace_fingerprint", "ended_at", "execution_path", "format", "metadata",
    "phase", "process_started", "result_path", "schema_version", "sequence", "started_at", "status"]

/-- `_require_exact_record_fields`. -/
def requireExactRecordFields (data : List (String × Json)) : Except Raised Unit :=
  let actual := data.map Prod.fst
  let missing := recordFields.filter fun key => !actual.contains key
  let unexpected := actual.filter fun key => !recordFields.contains key
  let listed (label : String) (keys : List String) : List String :=
    if keys = [] then [] else [label ++ ", ".intercalate (keys.insertionSort (· ≤ ·))]
  raiseIf (missing ≠ [] ∨ unexpected ≠ [])
    (attemptError ("Attempt record fields are invalid: " ++
      "; ".intercalate (listed "missing " missing ++ listed "unexpected " unexpected)))

/-- `_required_positive_int`. -/
def requiredPositiveInt (data : List (String × Json)) (key : String) : Except Raised Nat :=
  let invalid : Raised := ⟨.valueError, key ++ " must be a positive integer"⟩
  match Json.get data key with
  | .int value => if value < 1 then .error invalid else .ok value.toNat
  | _ => .error invalid

/-- `_required_string`. -/
def requiredString (data : List (String × Json)) (key : String) : Except Raised String :=
  let invalid : Raised := ⟨.valueError, key ++ " must be a non-empty string"⟩
  match Json.get data key with
  | .str value => if value = "" then .error invalid else .ok value
  | _ => .error invalid

def attemptPhase? (text : String) : Option AttemptPhase := AttemptPhase.all.find? fun phase => phase.value = text

def attemptStatus? (text : String) : Option AttemptStatus :=
  [AttemptStatus.started, .completed, .humanRequired, .failed].find? fun status => status.value = text

/-- `_required_phase`. -/
def requiredPhase (reader : AttemptReader) (data : List (String × Json)) : Except Raised AttemptPhase := do
  let value ← requiredString data "phase"
  match attemptPhase? value with
  | some phase => .ok phase
  | none => .error ⟨.valueError, "phase is unsupported: " ++ pyRepr reader.printable value⟩

/-- `_required_status`. -/
def requiredStatus (reader : AttemptReader) (data : List (String × Json)) : Except Raised AttemptStatus := do
  let value ← requiredString data "status"
  match attemptStatus? value with
  | some status => .ok status
  | none => .error ⟨.valueError, "status is unsupported: " ++ pyRepr reader.printable value⟩

/-- `_nullable_string`. -/
def nullableString (value : Json) : Except Raised (Option String) :=
  match value with
  | .null => .ok none
  | .str text => .ok (some text)
  | _ => .error ⟨.typeError, "expected a string or null"⟩

/-- `_required_bool`. -/
def requiredBool (data : List (String × Json)) (key : String) : Except Raised Bool :=
  match Json.get data key with
  | .bool value => .ok value
  | _ => .error ⟨.typeError, key ++ " must be a boolean"⟩

/-- `_required_timestamp`. -/
def requiredTimestamp (reader : AttemptReader) (data : List (String × Json)) (key : String) :
    Except Raised Timestamp := do
  let value ← requiredString data key
  validateTimestamp reader value key
  .ok ⟨value⟩

/-- `_nullable_timestamp`. -/
def nullableTimestamp (reader : AttemptReader) (value : Json) : Except Raised (Option Timestamp) :=
  match value with
  | .null => .ok none
  | .str text => do
    validateTimestamp reader text "ended_at"
    .ok (some ⟨text⟩)
  | _ => .error ⟨.typeError, "ended_at must be a string or null"⟩

/-- `_required_relative_artifact_path`. -/
def requiredRelativeArtifactPath (data : List (String × Json)) (field : String) : Except Raised String := do
  let value ← requiredString data field
  validateRelativeArtifactPath value field
  .ok value

/-- `_nullable_relative_artifact_path`. -/
def nullableRelativeArtifactPath (value : Json) (field : String) : Except Raised (Option String) :=
  match value with
  | .null => .ok none
  | .str text => do
    validateRelativeArtifactPath text field
    .ok (some text)
  | _ => .error ⟨.typeError, field ++ " must be a string or null"⟩

/-- `_metadata_string`; what it returns is not blank. -/
def metadataString (data : List (String × Json)) (field : String) :
    Except Raised { text : Option String // text.any isBlank = false } :=
  let invalid : Raised := ⟨.valueError, "metadata." ++ field ++ " must be a non-empty string"⟩
  match Json.get data field with
  | .null => .ok ⟨none, Option.any_none⟩
  | .str value => if blank : isBlank value = false then .ok ⟨some value, blank⟩ else .error invalid
  | _ => .error invalid

def metadataFields : List String := ["after_workspace_error", "before_workspace_error", "controller_message"]

/-- `_required_metadata`. -/
def requiredMetadata (data : List (String × Json)) : Except Raised AttemptMetadata :=
  match Json.get data "metadata" with
  | .obj value => do
    let extra := (value.map Prod.fst).filter fun key => !metadataFields.contains key
    raiseIf (extra ≠ [])
      ⟨.valueError, "metadata has unsupported fields: " ++ ", ".intercalate (extra.insertionSort (· ≤ ·))⟩
    let controllerMessage ← metadataString value "controller_message"
    let beforeWorkspaceError ← metadataString value "before_workspace_error"
    let afterWorkspaceError ← metadataString value "after_workspace_error"
    .ok
      { controllerMessage := controllerMessage.1
        beforeWorkspaceError := beforeWorkspaceError.1
        afterWorkspaceError := afterWorkspaceError.1
        nonblank := by simp [controllerMessage.2, beforeWorkspaceError.2, afterWorkspaceError.2] }
  | _ => .error ⟨.typeError, "metadata must be an object"⟩

/-- The arguments of the constructor, in the order of the source. -/
def readFields (reader : AttemptReader) (artifactDirectory : String) (data : List (String × Json)) :
    Except Raised AttemptFields := do
  let sequence ← requiredPositiveInt data "sequence"
  let phase ← requiredPhase reader data
  let status ← requiredStatus reader data
  let beforeWorkspaceFingerprint ← nullableString (Json.get data "before_workspace_fingerprint")
  let afterWorkspaceFingerprint ← nullableString (Json.get data "after_workspace_fingerprint")
  let processStarted ← requiredBool data "process_started"
  let startedAt ← requiredTimestamp reader data "started_at"
  let endedAt ← nullableTimestamp reader (Json.get data "ended_at")
  let resultPath ← requiredRelativeArtifactPath data "result_path"
  let executionPath ← nullableRelativeArtifactPath (Json.get data "execution_path") "execution_path"
  let metadata ← requiredMetadata data
  .ok
    { sequence, phase, status, beforeWorkspaceFingerprint, afterWorkspaceFingerprint, processStarted, startedAt
      endedAt, resultPath, executionPath, metadata, artifactDirectory }

/-- What `_load_attempt` does with the object it has read. -/
def readRecord (reader : AttemptReader) (artifactDirectory : String) (data : List (String × Json)) :
    Except Raised AttemptRecord := do
  raiseIf ((Json.get data "schema_version").isInt 1 = false)
    (attemptError "Attempt record has an unsupported schema version.")
  raiseIf ((Json.get data "format").pyEq (.str "ticket_automation.attempt") = false)
    (attemptError "Attempt record has an unsupported format.")
  requireExactRecordFields data
  let fields ← readFields reader artifactDirectory data
  constructAttempt reader fields

end AttemptCodec

open AttemptCodec in
/-- `_load_attempt` of the file in this directory. -/
def loadAttempt (reader : AttemptReader) (artifactDirectory : String)
    (file : Except Raised (List (String × Json))) : Except Raised AttemptRecord := do
  let path := artifactDirectory ++ "/attempt.json"
  let data ← reraise .codecError
    (fun error => attemptError ("Could not read attempt record " ++ path ++ ": " ++ error.message)) file
  -- a `KeyError` cannot occur after the check of the fields
  reraiseAny [.typeError, .valueError, .attemptError]
    (fun error => attemptError ("Invalid attempt record " ++ path ++ ": " ++ error.message))
    (readRecord reader artifactDirectory data)

/-! ## What the constructor admits -/

/-- What the constructor checks besides `validateRecord`. -/
structure AttemptFields.Admitted (reader : AttemptReader) (fields : AttemptFields) : Prop where
  startedAt : validateTimestamp reader fields.startedAt.text "started_at" = .ok ()
  endedAt : ∀ ended ∈ fields.endedAt, validateTimestamp reader ended.text "ended_at" = .ok ()
  digits : (Nat.toDigits 10 fields.sequence).length ≤ reader.limits.digits

/-- The checks of the content and of the number are all a record has to pass. -/
theorem AttemptFields.Admitted.of_content {reader : AttemptReader} {fields : AttemptFields}
    (content : validateContent reader fields = .ok ()) (short : formatSequence reader fields.sequence = .ok ()) :
    fields.Admitted reader := by
  simp only [validateContent, check_bind_ok] at content
  obtain ⟨-, started, ended, -⟩ := content
  refine ⟨started, fun timestamp present => ?_, ?_⟩
  · rw [validateEnd, Option.mem_def.mp present] at ended
    exact (check_bind_ok.mp ended).1
  · rw [formatSequence, raiseIf_ok] at short
    exact Nat.not_lt.mp short

/-- A record with good timestamps passes the checks of the constructor again. -/
theorem AttemptRecord.validateContent_ok {reader : AttemptReader} (record : AttemptRecord)
    (admitted : record.Admitted reader) : validateContent reader record.toAttemptFields = .ok () := by
  have own := record.valid
  simp only [validateRecord, check_bind_ok, raiseIf_ok] at own
  obtain ⟨positive, missing, present, relative, result, execution, -⟩ := own
  simp only [validateContent, check_bind_ok, raiseIf_ok]
  refine ⟨positive, admitted.startedAt, ?_, relative, result, execution⟩
  unfold validateEnd
  cases ended : record.endedAt with
  | none =>
    rw [raiseIf_ok]
    exact fun other => missing ⟨ended, other⟩
  | some timestamp =>
    rw [check_bind_ok, raiseIf_ok]
    exact ⟨admitted.endedAt timestamp ended, fun started => present ⟨by rw [ended]; exact Option.some_ne_none _, started⟩⟩

/-- What the constructor accepts are the admitted fields, unchanged. -/
theorem constructAttempt_ok {reader : AttemptReader} {fields : AttemptFields} {record : AttemptRecord} :
    constructAttempt reader fields = .ok record ↔ record.toAttemptFields = fields ∧ fields.Admitted reader := by
  simp only [constructAttempt, check_bind_ok, AttemptRecord.ofFields_ok]
  constructor
  · rintro ⟨content, short, same⟩
    exact ⟨same, .of_content content short⟩
  · rintro ⟨rfl, admitted⟩
    refine ⟨record.validateContent_ok admitted, ?_, rfl⟩
    rw [formatSequence, raiseIf_ok]
    exact Nat.not_lt.mpr admitted.digits

/-- The object holds these fields: exactly the names of a record, each with the
value that `to_dict` gives it. In the metadata a missing name stands for null. -/
structure Encodes (data : List (String × Json)) (record : AttemptFields) : Prop where
  names : ∀ key, key ∈ data.map Prod.fst ↔ key ∈ AttemptCodec.recordFields
  values : ∀ key, key ≠ "metadata" → Json.get data key = Json.get record.toDict key
  metadata : ∃ fields, Json.get data "metadata" = .obj fields ∧
    (∀ key ∈ fields.map Prod.fst, key ∈ AttemptCodec.metadataFields) ∧
      ∀ key, Json.get fields key = Json.get record.metadata.toDict key

namespace AttemptCodec

section Fields

variable {reader : AttemptReader} {data : List (String × Json)} {key : String}

theorem validateTimestamp_nonempty {value field : String} (h : validateTimestamp reader value field = .ok ()) :
    value ≠ "" := by
  rintro rfl
  simp [validateTimestamp, AttemptReader.parseTimestamp, reraise, Except.mapError, Except.map] at h

/-- One lemma per reader: which JSON value it accepts, and as what. -/
theorem requiredPositiveInt_ok {n : Nat} :
    requiredPositiveInt data key = .ok n ↔ Json.get data key = .int n ∧ 1 ≤ n := by
  unfold requiredPositiveInt
  split
  · rename_i value found
    rw [found, Json.int.injEq]
    split
    · simp only [reduceCtorEq, false_iff, not_and]
      omega
    · rw [Except.ok.injEq]
      omega
  · rename_i other
    simp only [reduceCtorEq, false_iff, not_and]
    exact fun found => absurd found (other n)

theorem requiredString_ok {value : String} :
    requiredString data key = .ok value ↔ Json.get data key = .str value ∧ value ≠ "" := by
  unfold requiredString
  split
  · rename_i text found
    rw [found, Json.str.injEq]
    split
    · rename_i empty
      simp only [reduceCtorEq, false_iff, not_and, not_not]
      exact fun same => same ▸ empty
    · rename_i nonempty
      rw [Except.ok.injEq]
      exact ⟨fun same => ⟨same, same ▸ nonempty⟩, fun h => h.1⟩
  · rename_i other
    simp only [reduceCtorEq, false_iff, not_and]
    exact fun found => absurd found (other value)

/-- Phases are read by value, and no two share one. -/
theorem attemptPhase?_eq {text : String} {phase : AttemptPhase} :
    attemptPhase? text = some phase ↔ phase.value = text := by
  constructor
  · intro found
    simpa using List.find?_some found
  · rintro rfl
    cases phase <;> decide

theorem attemptStatus?_eq {text : String} {status : AttemptStatus} :
    attemptStatus? text = some status ↔ status.value = text := by
  constructor
  · intro found
    simpa using List.find?_some found
  · rintro rfl
    cases status <;> decide

theorem requiredPhase_ok {phase : AttemptPhase} :
    requiredPhase reader data = .ok phase ↔ Json.get data "phase" = .str phase.value := by
  have nonempty : phase.value ≠ "" := by cases phase <;> decide
  unfold requiredPhase
  rw [bind_ok_iff]
  constructor
  · rintro ⟨text, found, h⟩
    split at h
    · rename_i own known
      cases h
      rw [attemptPhase?_eq.mp known]
      exact (requiredString_ok.mp found).1
    · cases h
  · intro found
    refine ⟨phase.value, requiredString_ok.mpr ⟨found, nonempty⟩, ?_⟩
    rw [attemptPhase?_eq.mpr rfl]

theorem requiredStatus_ok {status : AttemptStatus} :
    requiredStatus reader data = .ok status ↔ Json.get data "status" = .str status.value := by
  have nonempty : status.value ≠ "" := by cases status <;> decide
  unfold requiredStatus
  rw [bind_ok_iff]
  constructor
  · rintro ⟨text, found, h⟩
    split at h
    · rename_i own known
      cases h
      rw [attemptStatus?_eq.mp known]
      exact (requiredString_ok.mp found).1
    · cases h
  · intro found
    refine ⟨status.value, requiredString_ok.mpr ⟨found, nonempty⟩, ?_⟩
    rw [attemptStatus?_eq.mpr rfl]

theorem nullableString_ok {value : Json} {text : Option String} :
    nullableString value = .ok text ↔ value = nullable text := by
  cases text <;> cases value <;> simp [nullableString, nullable]

theorem requiredBool_ok {value : Bool} : requiredBool data key = .ok value ↔ Json.get data key = .bool value := by
  unfold requiredBool
  split
  · rename_i own found
    rw [found, Json.bool.injEq, Except.ok.injEq]
  · rename_i other
    simp only [reduceCtorEq, false_iff]
    exact other value

/-- A timestamp is kept as the text it was read from. -/
theorem requiredTimestamp_ok {timestamp : Timestamp} :
    requiredTimestamp reader data key = .ok timestamp ↔
      Json.get data key = .str timestamp.text ∧ validateTimestamp reader timestamp.text key = .ok () := by
  unfold requiredTimestamp
  rw [bind_ok_iff]
  constructor
  · rintro ⟨text, found, h⟩
    rw [check_bind_ok] at h
    obtain ⟨valid, h⟩ := h
    cases h
    exact ⟨(requiredString_ok.mp found).1, valid⟩
  · rintro ⟨found, valid⟩
    refine ⟨timestamp.text, requiredString_ok.mpr ⟨found, validateTimestamp_nonempty valid⟩, ?_⟩
    rw [check_bind_ok]
    exact ⟨valid, rfl⟩

theorem nullableTimestamp_ok {value : Json} {timestamp : Option Timestamp} :
    nullableTimestamp reader value = .ok timestamp ↔ value = nullable (timestamp.map Timestamp.text) ∧
      ∀ ended ∈ timestamp, validateTimestamp reader ended.text "ended_at" = .ok () := by
  unfold nullableTimestamp
  cases timestamp with
  | none => cases value <;> simp [nullable]
  | some timestamp =>
    obtain ⟨text⟩ := timestamp
    cases value with
    | str other =>
      simp only [check_bind_ok, Except.ok.injEq, Option.some.injEq, Timestamp.mk.injEq, nullable, Option.map_some,
        Option.getD_some, Json.str.injEq, Option.mem_def, forall_eq']
      constructor
      · rintro ⟨valid, rfl⟩
        exact ⟨rfl, valid⟩
      · rintro ⟨rfl, valid⟩
        exact ⟨valid, rfl⟩
    | _ => simp [nullable]

theorem validateRelativeArtifactPath_nonempty {value field : String}
    (h : validateRelativeArtifactPath value field = .ok ()) : value ≠ "" := by
  rintro rfl
  rw [validateRelativeArtifactPath, check_bind_ok, raiseIf_ok] at h
  exact h.1 (.inl rfl)

theorem requiredRelativeArtifactPath_ok {path : String} :
    requiredRelativeArtifactPath data key = .ok path ↔
      Json.get data key = .str path ∧ validateRelativeArtifactPath path key = .ok () := by
  unfold requiredRelativeArtifactPath
  rw [bind_ok_iff]
  constructor
  · rintro ⟨text, found, h⟩
    rw [check_bind_ok] at h
    obtain ⟨valid, h⟩ := h
    cases h
    exact ⟨(requiredString_ok.mp found).1, valid⟩
  · rintro ⟨found, valid⟩
    refine ⟨path, requiredString_ok.mpr ⟨found, validateRelativeArtifactPath_nonempty valid⟩, ?_⟩
    rw [check_bind_ok]
    exact ⟨valid, rfl⟩

theorem nullableRelativeArtifactPath_ok {value : Json} {path : Option String} :
    nullableRelativeArtifactPath value key = .ok path ↔ value = nullable path ∧
      (path.forM fun path => validateRelativeArtifactPath path key) = .ok () := by
  unfold nullableRelativeArtifactPath
  cases path with
  | none => cases value <;> simp [nullable]
  | some path =>
    cases value with
    | str other =>
      simp only [check_bind_ok, Except.ok.injEq, Option.some.injEq, nullable, Option.map_some, Option.getD_some,
        Json.str.injEq]
      constructor
      · rintro ⟨valid, rfl⟩
        exact ⟨rfl, valid⟩
      · rintro ⟨rfl, valid⟩
        exact ⟨valid, rfl⟩
    | _ => simp [nullable]

theorem metadataString_ok {text : { text : Option String // text.any isBlank = false }} :
    metadataString data key = .ok text ↔ Json.get data key = nullable text := by
  obtain ⟨text, printed⟩ := text
  unfold metadataString
  split
  · rename_i found
    rw [found]
    cases text <;> simp [nullable]
  · rename_i value found
    rw [found]
    cases text with
    | none => split <;> simp [nullable]
    | some text =>
      have own : isBlank text = false := by simpa using printed
      simp only [nullable, Option.map_some, Option.getD_some, Json.str.injEq]
      split
      · simp
      · rename_i blank
        simp only [reduceCtorEq, false_iff]
        rintro rfl
        exact blank own
  · rename_i noNull noString
    simp only [reduceCtorEq, false_iff]
    cases text with
    | none => exact noNull
    | some text => exact noString text

/-- A key that is absent reads as `None`. -/
theorem get_of_notMem (absent : key ∉ data.map Prod.fst) : Json.get data key = .null := by
  have missing : Json.lookup key data = none := by
    induction data with
    | nil => rfl
    | cons field rest ih =>
      obtain ⟨name, value⟩ := field
      rw [List.map_cons, List.mem_cons, not_or] at absent
      rw [Json.lookup, if_neg fun same => absent.1 same.symm]
      exact ih absent.2
  rw [Json.get, missing]
  rfl

theorem get_controllerMessage (metadata : AttemptMetadata) :
    Json.get metadata.toDict "controller_message" = nullable metadata.controllerMessage := by
  rcases metadata with ⟨_ | _, _ | _, _ | _, _⟩ <;> rfl

theorem get_beforeWorkspaceError (metadata : AttemptMetadata) :
    Json.get metadata.toDict "before_workspace_error" = nullable metadata.beforeWorkspaceError := by
  rcases metadata with ⟨_ | _, _ | _, _ | _, _⟩ <;> rfl

theorem get_afterWorkspaceError (metadata : AttemptMetadata) :
    Json.get metadata.toDict "after_workspace_error" = nullable metadata.afterWorkspaceError := by
  rcases metadata with ⟨_ | _, _ | _, _ | _, _⟩ <;> rfl

theorem mem_metadataFields {metadata : AttemptMetadata} (member : key ∈ metadata.toDict.map Prod.fst) :
    key ∈ metadataFields := by
  rcases metadata with ⟨_ | _, _ | _, _ | _, _⟩ <;>
    simp only [AttemptMetadata.toDict, AttemptMetadata.fields, presentField, metadataFields, List.filterMap_cons,
      List.filterMap_nil, Option.map_none, Option.map_some, List.map_cons, List.map_nil, List.mem_cons,
      List.not_mem_nil] at member ⊢ <;>
    tauto

/-- Objects with the names of metadata are equal when the three values are. -/
theorem metadata_values {metadata : AttemptMetadata} (known : ∀ key ∈ data.map Prod.fst, key ∈ metadataFields) :
    (∀ key, Json.get data key = Json.get metadata.toDict key) ↔
      Json.get data "controller_message" = nullable metadata.controllerMessage ∧
        Json.get data "before_workspace_error" = nullable metadata.beforeWorkspaceError ∧
          Json.get data "after_workspace_error" = nullable metadata.afterWorkspaceError := by
  constructor
  · intro all
    rw [← get_controllerMessage, ← get_beforeWorkspaceError, ← get_afterWorkspaceError]
    exact ⟨all _, all _, all _⟩
  · rintro ⟨message, before, after⟩ key
    by_cases supported : key ∈ metadataFields
    · simp only [metadataFields, List.mem_cons, List.not_mem_nil, or_false] at supported
      rcases supported with rfl | rfl | rfl
      · rw [after, get_afterWorkspaceError]
      · rw [before, get_beforeWorkspaceError]
      · rw [message, get_controllerMessage]
    · rw [get_of_notMem fun member => supported (known key member),
        get_of_notMem fun member => supported (mem_metadataFields member)]

/-- The metadata is read from an object that has no key beyond the known ones. -/
theorem requiredMetadata_ok {metadata : AttemptMetadata} :
    requiredMetadata data = .ok metadata ↔ ∃ fields, Json.get data "metadata" = .obj fields ∧
      (∀ key ∈ fields.map Prod.fst, key ∈ metadataFields) ∧
        ∀ key, Json.get fields key = Json.get metadata.toDict key := by
  have extra (fields : List (String × Json)) :
      ((fields.map Prod.fst).filter fun key => !metadataFields.contains key) = [] ↔
        ∀ key ∈ fields.map Prod.fst, key ∈ metadataFields := by
    simp [List.filter_eq_nil_iff]
  unfold requiredMetadata
  split
  · rename_i fields found
    rw [found, check_bind_ok, raiseIf_ok, not_not, extra]
    simp only [bind_ok_iff, metadataString_ok, Except.ok.injEq]
    constructor
    · rintro ⟨known, message, first, before, second, after, third, rfl⟩
      exact ⟨fields, rfl, known, (metadata_values known).mpr ⟨first, second, third⟩⟩
    · rintro ⟨other, same, known, values⟩
      cases same
      obtain ⟨first, second, third⟩ := (metadata_values known).mp values
      have own := metadata.nonblank
      simp only [List.mem_cons, List.not_mem_nil, or_false, forall_eq_or_imp, forall_eq] at own
      exact ⟨known, ⟨_, own.1⟩, first, ⟨_, own.2.1⟩, second, ⟨_, own.2.2⟩, third, rfl⟩
  · rename_i other
    simp only [reduceCtorEq, false_iff]
    rintro ⟨fields, found, -⟩
    exact other fields found

/-- A record has exactly the keys `to_dict` writes, in any order. -/
theorem requireExactRecordFields_ok :
    requireExactRecordFields data = .ok () ↔ ∀ key, key ∈ data.map Prod.fst ↔ key ∈ recordFields := by
  rw [requireExactRecordFields, raiseIf_ok, not_or]
  simp only [ne_eq, not_not, List.filter_eq_nil_iff, Bool.not_eq_true', Bool.not_eq_false, List.contains_iff_mem]
  exact ⟨fun h key => ⟨h.2 key, h.1 key⟩, fun h => ⟨fun key => (h key).mpr, fun key => (h key).mp⟩⟩

/-- The fields that `readFields` reads, in its order. -/
theorem readFields_ok {directory : String} {fields : AttemptFields} :
    readFields reader directory data = .ok fields ↔
      (Json.get data "sequence" = .int fields.sequence ∧ 1 ≤ fields.sequence) ∧
      Json.get data "phase" = .str fields.phase.value ∧ Json.get data "status" = .str fields.status.value ∧
      Json.get data "before_workspace_fingerprint" = nullable fields.beforeWorkspaceFingerprint ∧
      Json.get data "after_workspace_fingerprint" = nullable fields.afterWorkspaceFingerprint ∧
      Json.get data "process_started" = .bool fields.processStarted ∧
      (Json.get data "started_at" = .str fields.startedAt.text ∧
        validateTimestamp reader fields.startedAt.text "started_at" = .ok ()) ∧
      (Json.get data "ended_at" = nullable (fields.endedAt.map Timestamp.text) ∧
        ∀ ended ∈ fields.endedAt, validateTimestamp reader ended.text "ended_at" = .ok ()) ∧
      (Json.get data "result_path" = .str fields.resultPath ∧
        validateRelativeArtifactPath fields.resultPath "result_path" = .ok ()) ∧
      (Json.get data "execution_path" = nullable fields.executionPath ∧
        (fields.executionPath.forM fun path => validateRelativeArtifactPath path "execution_path") = .ok ()) ∧
      (∃ metadata, Json.get data "metadata" = .obj metadata ∧
        (∀ key ∈ metadata.map Prod.fst, key ∈ metadataFields) ∧
          ∀ key, Json.get metadata key = Json.get fields.metadata.toDict key) ∧
      directory = fields.artifactDirectory := by
  simp only [readFields, bind_ok_iff, requiredPositiveInt_ok, requiredPhase_ok, requiredStatus_ok, nullableString_ok,
    requiredBool_ok, requiredTimestamp_ok, nullableTimestamp_ok, requiredRelativeArtifactPath_ok,
    nullableRelativeArtifactPath_ok, requiredMetadata_ok, Except.ok.injEq]
  constructor
  · rintro ⟨sequence, hSequence, phase, hPhase, status, hStatus, before, hBefore, after, hAfter, started, hStarted,
      startedAt, hStartedAt, endedAt, hEndedAt, result, hResult, execution, hExecution, metadata, hMetadata, rfl⟩
    exact ⟨hSequence, hPhase, hStatus, hBefore, hAfter, hStarted, hStartedAt, hEndedAt, hResult, hExecution,
      hMetadata, rfl⟩
  · rintro ⟨hSequence, hPhase, hStatus, hBefore, hAfter, hStarted, hStartedAt, hEndedAt, hResult, hExecution,
      hMetadata, rfl⟩
    exact ⟨_, hSequence, _, hPhase, _, hStatus, _, hBefore, _, hAfter, _, hStarted, _, hStartedAt, _, hEndedAt, _,
      hResult, _, hExecution, _, hMetadata, rfl⟩

end Fields

end AttemptCodec

open AttemptCodec

section Loading

variable {reader : AttemptReader} {directory : String} {data : List (String × Json)}

theorem AttemptFields.names_toDict (record : AttemptFields) (key : String) :
    key ∈ record.toDict.map Prod.fst ↔ key ∈ recordFields := by
  simp only [AttemptFields.toDict, recordFields, List.map_cons, List.map_nil, List.mem_cons, List.not_mem_nil]
  tauto

/-- An object with the names of a record encodes it when the loader finds its values. -/
theorem Encodes.of_values {record : AttemptFields} (names : ∀ key, key ∈ data.map Prod.fst ↔ key ∈ recordFields)
    (values : ∀ key ∈ recordFields, key ≠ "metadata" → Json.get data key = Json.get record.toDict key)
    (metadata : ∃ fields, Json.get data "metadata" = .obj fields ∧
      (∀ key ∈ fields.map Prod.fst, key ∈ metadataFields) ∧
        ∀ key, Json.get fields key = Json.get record.metadata.toDict key) : Encodes data record := by
  refine ⟨names, fun key other => ?_, metadata⟩
  by_cases known : key ∈ recordFields
  · exact values key known other
  · rw [get_of_notMem fun member => known ((names key).mp member),
      get_of_notMem fun member => known ((record.names_toDict key).mp member)]

/-- `from_dict` accepts what encodes an admitted record, and returns that record. -/
theorem readRecord_ok {record : AttemptRecord} :
    readRecord reader directory data = .ok record ↔
      Encodes data record.toAttemptFields ∧ record.artifactDirectory = directory ∧ record.Admitted reader := by
  rw [readRecord, check_bind_ok, check_bind_ok, check_bind_ok, requireExactRecordFields_ok]
  simp only [bind_ok_iff, raiseIf_ok, constructAttempt_ok, Bool.not_eq_false, Json.pyEq_str]
  have isOne : (Json.get data "schema_version").isInt 1 = true ↔ Json.get data "schema_version" = .int 1 := by
    cases Json.get data "schema_version" <;> simp [Json.isInt]
  rw [isOne]
  constructor
  · rintro ⟨schema, format, names, fields, read, rfl, admitted⟩
    obtain ⟨sequence, phase, status, before, after, started, startedAt, endedAt, result, execution, metadata, rfl⟩ :=
      readFields_ok.mp read
    refine ⟨.of_values names (fun key known other => ?_) metadata, rfl, admitted⟩
    simp only [recordFields, List.mem_cons, List.not_mem_nil, or_false] at known
    rcases known with rfl | rfl | rfl | rfl | rfl | rfl | rfl | rfl | rfl | rfl | rfl | rfl | rfl
    · exact after
    · exact before
    · exact endedAt.1
    · exact execution.1
    · exact format
    · exact absurd rfl other
    · exact phase
    · exact started
    · exact result.1
    · exact schema
    · exact sequence.1
    · exact startedAt.1
    · exact status
  · rintro ⟨encodes, rfl, admitted⟩
    have content := record.validateContent_ok admitted
    simp only [validateContent, check_bind_ok, raiseIf_ok] at content
    obtain ⟨positive, startedAt, -, result, -, execution⟩ := content
    refine ⟨encodes.values "schema_version" (by decide), encodes.values "format" (by decide), encodes.names,
      record.toAttemptFields, ?_, rfl, admitted⟩
    exact readFields_ok.mpr ⟨⟨encodes.values "sequence" (by decide), by omega⟩, encodes.values "phase" (by decide),
      encodes.values "status" (by decide), encodes.values "before_workspace_fingerprint" (by decide),
      encodes.values "after_workspace_fingerprint" (by decide), encodes.values "process_started" (by decide),
      ⟨encodes.values "started_at" (by decide), startedAt⟩,
      ⟨encodes.values "ended_at" (by decide), admitted.endedAt⟩,
      ⟨encodes.values "result_path" (by decide), result⟩,
      ⟨encodes.values "execution_path" (by decide), execution⟩, encodes.metadata, rfl⟩

/-- The loader takes the encodings of what the constructor admits, and nothing else. -/
theorem loadAttempt_iff {record : AttemptRecord} {file : Except Raised (List (String × Json))} :
    loadAttempt reader directory file = .ok record ↔ ∃ data, file = .ok data ∧
      Encodes data record.toAttemptFields ∧ record.artifactDirectory = directory ∧ record.Admitted reader := by
  rw [loadAttempt, bind_ok_iff]
  simp only [reraise_ok, reraiseAny_ok, readRecord_ok]

end Loading

end SprintTicket
