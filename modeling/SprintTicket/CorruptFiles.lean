import SprintTicket.Attempts.Directory
import SprintTicket.Lifecycle.Resume
import SprintTicket.Lifecycle.Store
import SprintTicket.Locking.Metadata

/-!
# Files with any content

`read_json` and its callers expect a `CodecError` from a file that is corrupt.
Bytes that are not UTF-8, an integer that is too long and a document that is too
deep raise something else, and a timestamp outside of all years does so later on.
`corrupt_files_fail_iff` says which contents each of the readers survives.
-/

set_option autoImplicit false

namespace SprintTicket

open AttemptCodec Checks JsonSyntax Utf8

/-- The classes that `_load_attempt` or `load_attempt_records` turns into an
`AttemptError` when an object that was read raises them. -/
def Caught (error : Raised) : Prop :=
  [ExceptionClass.typeError, .valueError, .attemptError, .agentContractError, .osError, .runtimeError].any
    error.isinstance = true

instance {error : Raised} : Decidable (Caught error) := inferInstanceAs (Decidable (_ = true))

def Confined {α : Type} (body : Except Raised α) : Prop := ∀ error, body = .error error → Caught error

section Confinement

variable {α β : Type} {reader : AttemptReader} {data : List (String × Json)} {key : String}

theorem confined_ok (a : α) : Confined (.ok a) := nofun

theorem confined_error {error : Raised} : Confined (.error error : Except Raised α) ↔ Caught error :=
  ⟨fun confined => confined error rfl, fun caught _ same => Except.error.inj same ▸ caught⟩

/-- Two readers in a row raise what the caller catches when both do. -/
theorem confined_bind {first : Except Raised α} {rest : α → Except Raised β} :
    Confined (first >>= rest) ↔ Confined first ∧ ∀ a, first = .ok a → Confined (rest a) := by
  unfold Confined
  constructor
  · intro confined
    exact ⟨fun error failed => confined error (bind_error_iff.mpr (.inl failed)),
      fun a done error failed => confined error (bind_error_iff.mpr (.inr ⟨a, done, failed⟩))⟩
  · rintro ⟨before, after⟩ error failed
    rcases bind_error_iff.mp failed with failed | ⟨a, done, failed⟩
    · exact before error failed
    · exact after a done error failed

theorem confined_raiseIf {p : Prop} [Decidable p] {error : Raised} (caught : Caught error) :
    Confined (raiseIf p error) := by
  intro other failed
  rw [(raiseIf_error.mp failed).2] at caught
  exact caught

/-- A check that is caught lets the rest escape where it passes. -/
theorem confined_check {check : Except Raised Unit} {rest : Unit → Except Raised β} (caught : Confined check) :
    Confined (check >>= rest) ↔ (check = .ok () → Confined (rest ())) := by
  rw [confined_bind, and_iff_right caught]
  exact ⟨fun later => later (), fun later _ => later⟩

theorem caught_value (message : String) : Caught ⟨.valueError, message⟩ := rfl

theorem caught_type (message : String) : Caught ⟨.typeError, message⟩ := rfl

theorem caught_attempt (message : String) : Caught (attemptError message) := rfl

theorem confined_attempt {p : Prop} [Decidable p] (message : String) : Confined (raiseIf p (attemptError message)) :=
  confined_raiseIf (caught_attempt message)

/-- Every reader of a field is confined, those of timestamps within the range of `datetime`. -/
theorem confined_requiredPositiveInt : Confined (requiredPositiveInt data key) := by
  unfold requiredPositiveInt
  split
  · split
    · exact confined_error.mpr (caught_value _)
    · exact confined_ok _
  · exact confined_error.mpr (caught_value _)

theorem confined_requiredString : Confined (requiredString data key) := by
  unfold requiredString
  split
  · split
    · exact confined_error.mpr (caught_value _)
    · exact confined_ok _
  · exact confined_error.mpr (caught_value _)

theorem confined_requiredPhase : Confined (requiredPhase reader data) := by
  unfold requiredPhase
  refine confined_bind.mpr ⟨confined_requiredString, fun value _ => ?_⟩
  split
  · exact confined_ok _
  · exact confined_error.mpr (caught_value _)

theorem confined_requiredStatus : Confined (requiredStatus reader data) := by
  unfold requiredStatus
  refine confined_bind.mpr ⟨confined_requiredString, fun value _ => ?_⟩
  split
  · exact confined_ok _
  · exact confined_error.mpr (caught_value _)

theorem confined_nullableString {value : Json} : Confined (nullableString value) := by
  unfold nullableString
  split
  · exact confined_ok _
  · exact confined_ok _
  · exact confined_error.mpr (caught_type _)

theorem confined_requiredBool : Confined (requiredBool data key) := by
  unfold requiredBool
  split
  · exact confined_ok _
  · exact confined_error.mpr (caught_type _)

theorem confined_validateRelativeArtifactPath {value field : String} :
    Confined (validateRelativeArtifactPath value field) := by
  unfold validateRelativeArtifactPath
  exact confined_bind.mpr ⟨confined_attempt _, fun _ _ => confined_attempt _⟩

theorem confined_requiredRelativeArtifactPath : Confined (requiredRelativeArtifactPath data key) := by
  unfold requiredRelativeArtifactPath
  refine confined_bind.mpr ⟨confined_requiredString, fun value _ => ?_⟩
  exact confined_bind.mpr ⟨confined_validateRelativeArtifactPath, fun _ _ => confined_ok _⟩

theorem confined_nullableRelativeArtifactPath {value : Json} : Confined (nullableRelativeArtifactPath value key) := by
  unfold nullableRelativeArtifactPath
  split
  · exact confined_ok _
  · exact confined_bind.mpr ⟨confined_validateRelativeArtifactPath, fun _ _ => confined_ok _⟩
  · exact confined_error.mpr (caught_type _)

theorem confined_metadataString : Confined (metadataString data key) := by
  unfold metadataString
  split
  · exact confined_ok _
  · split
    · exact confined_ok _
    · exact confined_error.mpr (caught_value _)
  · exact confined_error.mpr (caught_value _)

theorem confined_requiredMetadata : Confined (requiredMetadata data) := by
  unfold requiredMetadata
  split
  · refine confined_bind.mpr ⟨confined_raiseIf (caught_value _), fun _ _ => ?_⟩
    refine confined_bind.mpr ⟨confined_metadataString, fun _ _ => ?_⟩
    refine confined_bind.mpr ⟨confined_metadataString, fun _ _ => ?_⟩
    exact confined_bind.mpr ⟨confined_metadataString, fun _ _ => confined_ok _⟩
  · exact confined_error.mpr (caught_type _)

/-- A time that has no counterpart in UTC. -/
def AttemptReader.OutOfRange (reader : AttemptReader) (value : String) : Prop :=
  value ≠ "" ∧ reader.fromIsoFormat (isoCandidate value) = some .outOfRange

/-- The one class that a timestamp adds: `astimezone` overflows. -/
theorem confined_validateTimestamp {value field : String} :
    Confined (validateTimestamp reader value field) ↔ ¬ reader.OutOfRange value := by
  unfold validateTimestamp AttemptReader.parseTimestamp AttemptReader.OutOfRange
  split
  · rename_i empty
    simp only [empty, ne_eq, not_true_eq_false, false_and, not_false_eq_true, iff_true]
    exact confined_error.mpr (caught_attempt _)
  · rename_i nonempty
    simp only [nonempty, ne_eq, not_false_eq_true, true_and]
    split
    · rename_i unread
      simp only [unread, reduceCtorEq, not_false_eq_true, iff_true]
      exact confined_error.mpr (caught_attempt _)
    · rename_i naive
      simp only [naive, Option.some.injEq, reduceCtorEq, not_false_eq_true, iff_true]
      exact confined_error.mpr (caught_attempt _)
    · rename_i outside
      simp only [outside, not_true_eq_false, iff_false]
      intro confined
      exact absurd (confined _ rfl) (by decide)
    · rename_i utc inside
      simp only [inside, Option.some.injEq, reduceCtorEq, not_false_eq_true, iff_true]
      exact confined_ok ()

/-- A timestamp outside the range raises `OverflowError`, which nothing catches. -/
theorem confined_requiredTimestamp :
    Confined (requiredTimestamp reader data key) ↔
      ∀ value, Json.get data key = .str value → ¬ reader.OutOfRange value := by
  unfold requiredTimestamp
  rw [confined_bind]
  constructor
  · rintro ⟨-, later⟩ value found outside
    have validated := later value (requiredString_ok.mpr ⟨found, outside.1⟩)
    exact confined_validateTimestamp.mp (confined_bind.mp validated).1 outside
  · intro inside
    refine ⟨confined_requiredString, fun value found => ?_⟩
    have validated : Confined (validateTimestamp reader value key) :=
      confined_validateTimestamp.mpr (inside value (requiredString_ok.mp found).1)
    exact confined_bind.mpr ⟨validated, fun _ _ => confined_ok _⟩

theorem confined_nullableTimestamp {value : Json} :
    Confined (nullableTimestamp reader value) ↔ ∀ text, value = .str text → ¬ reader.OutOfRange text := by
  unfold nullableTimestamp
  split
  · simp [confined_ok]
  · rename_i text
    rw [confined_bind, confined_validateTimestamp]
    simp [confined_ok]
  · rename_i noNull noString
    simp only [confined_error, caught_type, true_iff]
    exact fun text same => absurd same (noString text)

/-- Timestamps that were read pass the constructor's own check. -/
theorem confined_constructAttempt {fields : AttemptFields} (started : validateTimestamp reader fields.startedAt.text
    "started_at" = .ok ()) (ended : ∀ timestamp ∈ fields.endedAt,
      validateTimestamp reader timestamp.text "ended_at" = .ok ()) : Confined (constructAttempt reader fields) := by
  have paths : Confined (fields.executionPath.forM fun path => validateRelativeArtifactPath path "execution_path") := by
    cases fields.executionPath with
    | none => exact confined_ok ()
    | some path => exact confined_validateRelativeArtifactPath
  have last : Confined (validateEnd reader fields) := by
    unfold validateEnd
    split
    · exact confined_attempt _
    · rename_i timestamp present
      rw [ok_bind (ended timestamp present)]
      exact confined_attempt _
  have record : Confined (AttemptRecord.ofFields fields) := by
    have valid : Confined (validateRecord fields) := by
      unfold validateRecord
      refine confined_bind.mpr ⟨confined_attempt _, fun _ _ => ?_⟩
      refine confined_bind.mpr ⟨confined_attempt _, fun _ _ => ?_⟩
      refine confined_bind.mpr ⟨confined_attempt _, fun _ _ => ?_⟩
      refine confined_bind.mpr ⟨confined_validateRelativeArtifactPath, fun _ _ => ?_⟩
      refine confined_bind.mpr ⟨confined_attempt _, fun _ _ => ?_⟩
      exact confined_bind.mpr ⟨paths, fun _ _ => confined_attempt _⟩
    intro error failed
    unfold AttemptRecord.ofFields at failed
    split at failed
    · cases failed
    · rename_i own refused
      cases failed
      exact valid _ refused
  unfold constructAttempt validateContent formatSequence
  refine confined_bind.mpr ⟨?_, fun _ _ => confined_bind.mpr ⟨confined_raiseIf (caught_value _), fun _ _ => record⟩⟩
  refine confined_bind.mpr ⟨confined_attempt _, fun _ _ => ?_⟩
  rw [ok_bind started]
  refine confined_bind.mpr ⟨last, fun _ _ => ?_⟩
  refine confined_bind.mpr ⟨confined_validateRelativeArtifactPath, fun _ _ => ?_⟩
  exact confined_bind.mpr ⟨confined_attempt _, fun _ _ => paths⟩

/-- The loader reaches a timestamp that is out of range. -/
structure Overflows (reader : AttemptReader) (data : List (String × Json)) : Prop where
  schema_version : Json.get data "schema_version" = .int 1
  format : Json.get data "format" = .str "ticket_automation.attempt"
  names : ∀ key, key ∈ data.map Prod.fst ↔ key ∈ recordFields
  sequence : ∃ n : Nat, Json.get data "sequence" = .int n ∧ 1 ≤ n
  phase : ∃ phase, Json.get data "phase" = .str (AttemptPhase.value phase)
  status : ∃ status, Json.get data "status" = .str (AttemptStatus.value status)
  before_workspace_fingerprint : ∃ text, Json.get data "before_workspace_fingerprint" = nullable text
  after_workspace_fingerprint : ∃ text, Json.get data "after_workspace_fingerprint" = nullable text
  process_started : ∃ value, Json.get data "process_started" = .bool value
  timestamp : ∃ started, Json.get data "started_at" = .str started ∧ (reader.OutOfRange started ∨
    (validateTimestamp reader started "started_at" = .ok () ∧
      ∃ ended, Json.get data "ended_at" = .str ended ∧ reader.OutOfRange ended))

/-- The fields escape exactly with such a timestamp. -/
theorem confined_readFields {directory : String} : Confined (readFields reader directory data) ↔
    ∀ sequence, requiredPositiveInt data "sequence" = .ok sequence → ∀ phase, requiredPhase reader data = .ok phase →
      ∀ status, requiredStatus reader data = .ok status →
      ∀ before, nullableString (Json.get data "before_workspace_fingerprint") = .ok before →
      ∀ after, nullableString (Json.get data "after_workspace_fingerprint") = .ok after →
      ∀ started, requiredBool data "process_started" = .ok started →
        (∀ text, Json.get data "started_at" = .str text → ¬ reader.OutOfRange text) ∧
        ∀ startedAt, requiredTimestamp reader data "started_at" = .ok startedAt →
          ∀ text, Json.get data "ended_at" = .str text → ¬ reader.OutOfRange text := by
  simp only [readFields, confined_bind, confined_requiredPositiveInt, confined_requiredPhase, confined_requiredStatus,
    confined_nullableString, confined_requiredBool, confined_requiredRelativeArtifactPath,
    confined_nullableRelativeArtifactPath, confined_requiredMetadata, confined_ok, confined_requiredTimestamp,
    confined_nullableTimestamp, implies_true, and_true, true_and]

/-- What `_load_attempt` does with an object escapes exactly when it reaches a
timestamp that is out of range. -/
theorem confined_readRecord {directory : String} :
    Confined (readRecord reader directory data) ↔ ¬ Overflows reader data := by
  have isOne : (Json.get data "schema_version").isInt 1 = true ↔ Json.get data "schema_version" = .int 1 := by
    cases Json.get data "schema_version" <;> simp [Json.isInt]
  have constructed : ∀ fields, readFields reader directory data = .ok fields →
      Confined (constructAttempt reader fields) := by
    intro fields read
    obtain ⟨-, -, -, -, -, -, started, ended, -⟩ := readFields_ok.mp read
    exact confined_constructAttempt started.2 ended.2
  have step : Confined (readRecord reader directory data) ↔ (Json.get data "schema_version" = .int 1 →
      Json.get data "format" = .str "ticket_automation.attempt" →
        (∀ key, key ∈ data.map Prod.fst ↔ key ∈ recordFields) → Confined (readFields reader directory data)) := by
    have exact : Confined (requireExactRecordFields data) := confined_attempt _
    unfold readRecord
    rw [confined_check (confined_attempt _), confined_check (confined_attempt _),
      confined_check exact, confined_bind, and_iff_left constructed, raiseIf_ok, raiseIf_ok, Bool.not_eq_false,
      Bool.not_eq_false, isOne, Json.pyEq_str, requireExactRecordFields_ok]
  rw [step]
  constructor
  · intro confined overflows
    obtain ⟨sequence, hSequence⟩ := overflows.sequence
    obtain ⟨phase, hPhase⟩ := overflows.phase
    obtain ⟨status, hStatus⟩ := overflows.status
    obtain ⟨before, hBefore⟩ := overflows.before_workspace_fingerprint
    obtain ⟨after, hAfter⟩ := overflows.after_workspace_fingerprint
    obtain ⟨process, hProcess⟩ := overflows.process_started
    obtain ⟨inside, later⟩ := confined_readFields.mp
      (confined overflows.schema_version overflows.format overflows.names) sequence (requiredPositiveInt_ok.mpr hSequence)
      phase (requiredPhase_ok.mpr hPhase) status (requiredStatus_ok.mpr hStatus) before (nullableString_ok.mpr hBefore)
      after (nullableString_ok.mpr hAfter) process (requiredBool_ok.mpr hProcess)
    obtain ⟨started, hStarted, outside | ⟨valid, ended, hEnded, outside⟩⟩ := overflows.timestamp
    · exact inside started hStarted outside
    · exact later ⟨started⟩ (requiredTimestamp_ok.mpr ⟨hStarted, valid⟩) ended hEnded outside
  · intro fine schema format names
    refine confined_readFields.mpr fun sequence hSequence phase hPhase status hStatus before hBefore after hAfter
      process hProcess => ?_
    have overflows (timestamp : ∃ started, Json.get data "started_at" = .str started ∧ (reader.OutOfRange started ∨
        (validateTimestamp reader started "started_at" = .ok () ∧
          ∃ ended, Json.get data "ended_at" = .str ended ∧ reader.OutOfRange ended))) : Overflows reader data :=
      ⟨schema, format, names, ⟨sequence, requiredPositiveInt_ok.mp hSequence⟩, ⟨phase, requiredPhase_ok.mp hPhase⟩,
        ⟨status, requiredStatus_ok.mp hStatus⟩, ⟨before, nullableString_ok.mp hBefore⟩,
        ⟨after, nullableString_ok.mp hAfter⟩, ⟨process, requiredBool_ok.mp hProcess⟩, timestamp⟩
    refine ⟨fun text found outside => fine (overflows ⟨text, found, .inl outside⟩),
      fun startedAt read text found outside => ?_⟩
    obtain ⟨hStarted, valid⟩ := requiredTimestamp_ok.mp read
    exact fine (overflows ⟨startedAt.text, hStarted, .inr ⟨valid, text, found, outside⟩⟩)

end Confinement

/-- Nothing but an `AttemptError` is raised. -/
def OnlyAttemptError {α : Type} (body : Except Raised α) : Prop :=
  ∀ error, body = .error error → error.isinstance .attemptError = true

/-- The bytes are UTF-8, `json.loads` meets no integer that is too long, and the
loader reaches no timestamp that is out of range. -/
def ReadableRecord (reader : AttemptReader) (path : String) (bytes : List UInt8) : Prop :=
  ∃ text, bytes = encode text ∧
    match loads reader.limits (normalizeNewlines text) with
    | .error failure => failure ≠ .overlong
    | .ok value => ∀ data, requireJsonValue reader.toInterpreter path reader.frames value = .ok (.obj data) →
      ¬ Overflows reader data

section Ledger

variable {reader : AttemptReader} {root name path : String} {bytes : List UInt8}

/-- What the reader of a file raises becomes an `AttemptError`. -/
def Handled (error : Raised) : Prop :=
  [ExceptionClass.codecError, .agentContractError, .osError, .runtimeError].any error.isinstance = true

instance {error : Raised} : Decidable (Handled error) := inferInstanceAs (Decidable (_ = true))

theorem readJsonObjectFile_handled :
    (match readJsonObjectFile reader.toInterpreter path (.ok bytes) with
      | .error error => Handled error
      | .ok data => ¬ Overflows reader data) ↔ ReadableRecord reader path bytes := by
  by_cases valid : Valid bytes
  case neg =>
    have failed : readJsonObjectFile reader.toInterpreter path (.ok bytes) = .error undecodable := by
      rw [readJsonObjectFile, readJsonFile_undecodable _ _ valid]
      rfl
    have unhandled : ¬ Handled undecodable := by decide
    rw [failed]
    constructor
    · exact fun handled => absurd handled unhandled
    · rintro ⟨text, same, -⟩
      exact absurd ⟨text, same⟩ valid
  obtain ⟨text, rfl⟩ := valid
  have unique : ReadableRecord reader path (encode text) ↔
      match loads reader.limits (normalizeNewlines text) with
      | .error failure => failure ≠ .overlong
      | .ok value => ∀ data, requireJsonValue reader.toInterpreter path reader.frames value = .ok (.obj data) →
        ¬ Overflows reader data := by
    constructor
    · rintro ⟨other, same, readable⟩
      rw [encode_injective same]
      exact readable
    · exact fun readable => ⟨text, rfl, readable⟩
  rw [unique, readJsonObjectFile, readJsonFile_encode]
  cases loads reader.limits (normalizeNewlines text) with
  | error failure =>
    cases failure <;> simp [bind, Except.bind, reportedFailure, unreadable, loadsError, recursionError, Handled,
      Raised.isinstance, ExceptionClass.bases]
  | ok value =>
    have stops := requireJsonValue_stops reader.toInterpreter path reader.frames value
    dsimp only
    cases walked : requireJsonValue reader.toInterpreter path reader.frames value with
    | ok json => cases json <;> simp [bind, Except.bind, Handled, Raised.isinstance]
    | error error =>
      have handled : Handled error := by
        unfold Stops at stops
        rw [walked] at stops
        split at stops
        · obtain ⟨_, impossible⟩ := stops
          cases impossible
        · rename_i trouble _
          cases stops
          cases trouble <;> rfl
      simp [bind, Except.bind, handled]

/-- The handler lets through what is in none of its classes. -/
theorem onlyAttemptError_reraise {α : Type} {classes : List ExceptionClass} {handler : Raised → String}
    {body : Except Raised α} (base : ExceptionClass.runtimeError ∈ classes) :
    OnlyAttemptError (reraiseAny classes (fun error => attemptError (handler error)) body) ↔
      ∀ error, body = .error error → classes.any error.isinstance = true := by
  unfold OnlyAttemptError reraiseAny
  cases body with
  | ok a => simp [Except.mapError]
  | error error =>
    simp only [Except.mapError, Except.error.injEq, forall_eq']
    constructor
    · intro only
      by_contra other
      rw [if_neg other] at only
      have own : error.isinstance .runtimeError = true := by
        obtain ⟨cls, message⟩ := error
        cases cls <;> simp_all [Raised.isinstance, ExceptionClass.bases]
      exact other (List.any_eq_true.mpr ⟨_, base, own⟩)
    · intro caught
      rw [if_pos caught]
      rfl

/-- The classes that `load_attempt_records` turns into an `AttemptError`. -/
def wrappedClasses : List ExceptionClass := [.agentContractError, .osError, .runtimeError]

/-- Only a record that can be read fails by errors the loader wraps. -/
theorem loadAttempt_wrapped {directory : String} {file : Except Raised (List (String × Json))} :
    (∀ error, loadAttempt reader directory file = .error error → wrappedClasses.any error.isinstance = true) ↔
      match file with
      | .error error => Handled error
      | .ok data => ¬ Overflows reader data := by
  cases file with
  | error error =>
    have failed : loadAttempt reader directory (.error error) = .error (if error.isinstance .codecError then
        attemptError ("Could not read attempt record " ++ (directory ++ "/attempt.json") ++ ": " ++ error.message)
        else error) := rfl
    rw [failed]
    simp only [Except.error.injEq, forall_eq', Handled, List.any_cons, Bool.or_eq_true]
    by_cases codec : error.isinstance .codecError = true
    · simp only [codec, if_true, true_or, iff_true]
      rfl
    · simp [codec, wrappedClasses]
  | ok data =>
    have read : loadAttempt reader directory (.ok data) = reraiseAny [.typeError, .valueError, .attemptError]
        (fun error => attemptError ("Invalid attempt record " ++ (directory ++ "/attempt.json") ++ ": " ++ error.message))
        (readRecord reader directory data) := rfl
    dsimp only
    rw [read, ← @confined_readRecord reader data directory, reraiseAny]
    unfold Confined Caught
    cases readRecord reader directory data with
    | ok record => simp [Except.mapError]
    | error error =>
      simp only [Except.mapError, Except.error.injEq, forall_eq']
      have split : ([.typeError, .valueError, .attemptError, .agentContractError, .osError, .runtimeError] :
          List ExceptionClass) = [.typeError, .valueError, .attemptError] ++ wrappedClasses := rfl
      rw [split, List.any_append, Bool.or_eq_true]
      by_cases caught : [ExceptionClass.typeError, .valueError, .attemptError].any error.isinstance = true
      · rw [if_pos caught]
        exact ⟨fun _ => .inl caught, fun _ => rfl⟩
      · rw [if_neg caught]
        exact ⟨.inr, fun either => either.resolve_left caught⟩

/-- An entry fails by an `AttemptError` alone exactly when its record is readable. -/
theorem loadEntry_only {files : Files} (shown : isHidden name = false)
    (present : files attemptRecordFile = some bytes) :
    OnlyAttemptError (loadEntry reader root (name, .folder files)) ↔
      ReadableRecord reader (root ++ "/" ++ name ++ "/attempt.json") bytes := by
  rw [← readJsonObjectFile_handled, ← @loadAttempt_wrapped reader (root ++ "/" ++ name)]
  unfold loadEntry
  rw [if_neg (by simp [shown]), onlyAttemptError_reraise (by simp)]
  simp only [present]
  unfold loadPersisted
  cases loadAttempt reader (root ++ "/" ++ name)
      (readJsonObjectFile reader.toInterpreter (root ++ "/" ++ name ++ "/attempt.json") (.ok bytes)) with
  | ok record => simp [Except.map]
  | error error => simp [Except.map, wrappedClasses]

/-- Of a directory whose entries before it are loaded, the record is readable. -/
def ReadableRecords (reader : AttemptReader) (root : String) (entries : AttemptsDirectory) : Prop :=
  ∀ before name files after bytes,
    entries.insertionSort (fun left right => KeyOrder left.1.toList right.1.toList) =
      before ++ (name, .folder files) :: after →
    (∀ entry ∈ before, ∃ result, loadEntry reader root entry = .ok result) →
    isHidden name = false → files attemptRecordFile = some bytes →
      ReadableRecord reader (root ++ "/" ++ name ++ "/attempt.json") bytes

theorem loadAttemptRecords_only {entries : AttemptsDirectory} :
    OnlyAttemptError (loadAttemptRecords reader root entries) ↔ ReadableRecords reader root entries := by
  constructor
  · intro only before name files after bytes sorted loaded shown present
    rw [← loadEntry_only shown present]
    intro error failed
    apply only
    rw [loadAttemptRecords, bind_error_iff]
    exact .inl (mapM_error_iff.mpr ⟨before, _, after, sorted, loaded, failed⟩)
  · intro readable error failed
    rw [loadAttemptRecords, bind_error_iff] at failed
    rcases failed with failed | ⟨loaded, -, failed⟩
    · obtain ⟨before, ⟨name, entry⟩, after, sorted, earlier, failed⟩ := mapM_error_iff.mp failed
      have shown : isHidden name = false := by
        by_contra hidden
        rw [loadEntry, if_pos (by simpa using hidden)] at failed
        cases failed
      have raised := failed
      rw [loadEntry, if_neg (by simp [shown])] at failed
      cases entry with
      | other =>
        obtain rfl := Except.error.inj failed
        rfl
      | folder files =>
        cases present : files attemptRecordFile with
        | none =>
          simp only [present] at failed
          cases failed
        | some bytes =>
          exact (loadEntry_only shown present).mpr (readable before name files after bytes sorted earlier shown present)
            error raised
    · rcases bind_error_iff.mp failed with failed | ⟨_, -, failed⟩
      · rw [← (raiseIf_error.mp failed).2]
        rfl
      · cases failed

end Ledger

/-! ## The callers -/

/-- `_read_metadata`; `read_json` reports a file that is missing as a `CodecError`
too. -/
def readMetadata (python : Interpreter) (path : String) (content : Except Raised (List UInt8)) :
    Except Raised (Option RepositoryLockMetadata) :=
  match readJsonObjectFile python path content with
  | .ok data => .ok (RepositoryLockMetadata.fromDict data)
  | .error error => if error.isinstance .codecError then .ok none else .error error

/-- The metadata of a lock is read, or reported as unreadable, unless the file's error escapes. -/
theorem readMetadata_ok {python : Interpreter} {path : String} {content : Except Raised (List UInt8)} :
    (∃ result, readMetadata python path content = .ok result) ↔ Contained (readJsonFile python path content) := by
  unfold readMetadata readJsonObjectFile Contained
  cases readJsonFile python path content with
  | ok value => cases value <;> simp [bind, Except.bind, Raised.isinstance]
  | error error => by_cases codec : error.isinstance .codecError = true <;> simp [bind, Except.bind, codec]

section Preflight

variable {sha256 : Sha256} {ticketDigest : TicketDigest} {resolve : PathResolver}
  {commands : List VerificationCommand} {sources : ResumeSources} {record : RunRecord}

/-- A resume of a run that is still owned gives way exactly to an `AttemptError`. -/
theorem resumePreflightProblem_ledger (owned : sources.owned = .ok ()) :
    (∀ error, sources.directory.ledger = .error error →
      resumePreflightProblem sha256 ticketDigest resolve commands sources record =
        .ok (some ("Attempt evidence is invalid: " ++ error.message))) ↔
      OnlyAttemptError sources.directory.ledger := by
  unfold OnlyAttemptError
  refine forall_congr' fun error => imp_congr_right fun failed => ?_
  rw [resumePreflightProblem, checkResumePreflight, unguarded, owned, failed]
  by_cases attempt : error.isinstance .attemptError = true
  · simp [attempt, bind, Except.bind, problemOn, Except.mapError, returnedProblem]
  · simp [attempt, bind, Except.bind, problemOn, Except.mapError, returnedProblem]

end Preflight

/-- **Corrupt files.** Each of the readers fails as its callers expect exactly on
the contents that it gets through: `read_json` with a `CodecError`, the ledger with
an `AttemptError`, which the preflight of a resume reports, and lock metadata with
no metadata. -/
theorem corrupt_files_fail_iff (reader : AttemptReader) :
    (∀ path bytes, Contained (readJsonFile reader.toInterpreter path (.ok bytes)) ↔
      ReadableJson reader.toInterpreter bytes) ∧
    (∀ root entries, OnlyAttemptError (loadAttemptRecords reader root entries) ↔
      ReadableRecords reader root entries) ∧
    (∀ sha256 ticketDigest resolve commands (sources : ResumeSources) record root entries,
      sources.owned = .ok () →
      sources.directory.ledger.map AttemptLedger.records = loadAttemptRecords reader root entries →
      ((∀ error, sources.directory.ledger = .error error →
        resumePreflightProblem sha256 ticketDigest resolve commands sources record =
          .ok (some ("Attempt evidence is invalid: " ++ error.message))) ↔ ReadableRecords reader root entries)) ∧
    ∀ path bytes, (∃ result, readMetadata reader.toInterpreter path (.ok bytes) = .ok result) ↔
      ReadableJson reader.toInterpreter bytes := by
  refine ⟨fun _ _ => readJsonFile_contained_iff, fun _ _ => loadAttemptRecords_only, ?_, fun path bytes => ?_⟩
  · intro sha256 ticketDigest resolve commands sources record root entries owned loaded
    rw [resumePreflightProblem_ledger owned, ← loadAttemptRecords_only, ← loaded]
    unfold OnlyAttemptError
    cases sources.directory.ledger with
    | ok ledger => simp [Except.map]
    | error error => simp [Except.map]
  · rw [readMetadata_ok, readJsonFile_contained_iff]

/-- The example run with a ledger whose record is one byte that begins no character. -/
def undecodableAttempts : AttemptsDirectory := [("001-preparing", .folder fun _ => some [0xff])]

def undecodableSources : ResumeSources :=
  { exampleResumeSources with
    directory := { exampleResumeSources.directory with ledger := .error undecodable } }

/-- The byte 0xff starts no UTF-8 sequence. -/
theorem readJsonFile_byte (path : String) :
    readJsonFile exampleReader.toInterpreter path (.ok [0xff]) = .error undecodable := by
  have invalid : ¬ Valid [0xff] := by
    rw [valid_iff]
    decide
  exact readJsonFile_undecodable exampleReader.toInterpreter path invalid

theorem loadAttemptRecords_undecodable :
    loadAttemptRecords exampleReader "/runs/r1/attempts" undecodableAttempts = .error undecodable := by
  have persisted : loadPersisted exampleReader "/runs/r1/attempts" "001-preparing" (.ok [0xff]) =
      .error undecodable := by
    unfold loadPersisted readJsonObjectFile
    dsimp only
    rw [readJsonFile_byte]
    rfl
  have record : loadEntry exampleReader "/runs/r1/attempts" ("001-preparing", .folder fun _ => some [0xff]) =
      .error undecodable := by
    rw [loadEntry, if_neg (by decide)]
    show reraiseAny _ _ (Except.map some (loadPersisted _ _ _ _)) = _
    rw [persisted]
    rfl
  rw [loadAttemptRecords, bind_error_iff]
  exact .inl (mapM_error_iff.mpr ⟨[], _, [], rfl, by simp, record⟩)

/-- The preflight of that run gives no reason, for its record cannot be read. -/
theorem undecodableAttempts_unreadable :
    undecodableSources.directory.ledger.map AttemptLedger.records =
        loadAttemptRecords exampleReader "/runs/r1/attempts" undecodableAttempts ∧
      ((∀ error, undecodableSources.directory.ledger = .error error →
        resumePreflightProblem exampleRunSha256 exampleTicketDigest .ok examplePolicy.verificationCommands
          undecodableSources exampleInterruptedRecord =
            .ok (some ("Attempt evidence is invalid: " ++ error.message))) ↔
        ReadableRecords exampleReader "/runs/r1/attempts" undecodableAttempts) ∧
      ¬ ReadableRecords exampleReader "/runs/r1/attempts" undecodableAttempts := by
  have ledger : undecodableSources.directory.ledger.map AttemptLedger.records =
      loadAttemptRecords exampleReader "/runs/r1/attempts" undecodableAttempts :=
    loadAttemptRecords_undecodable.symm
  have reports := (corrupt_files_fail_iff exampleReader).2.2.1 exampleRunSha256 exampleTicketDigest .ok
    examplePolicy.verificationCommands undecodableSources exampleInterruptedRecord "/runs/r1/attempts"
    undecodableAttempts rfl ledger
  refine ⟨ledger, reports, fun readable => ?_⟩
  have reason := reports.mpr readable undecodable rfl
  cases reason

/-- That byte escapes from every one of the readers. -/
theorem undecodable_files_escape :
    readJsonFile exampleReader.toInterpreter "attempt.json" (.ok [0xff]) = .error undecodable ∧
    loadAttemptRecords exampleReader "/runs/r1/attempts" undecodableAttempts = .error undecodable ∧
    resumePreflightProblem exampleRunSha256 exampleTicketDigest .ok examplePolicy.verificationCommands
      undecodableSources exampleInterruptedRecord = .error undecodable ∧
    readMetadata exampleReader.toInterpreter "owner.json" (.ok [0xff]) = .error undecodable ∧
    undecodable.isinstance .codecError = false ∧ undecodable.isinstance .attemptError = false := by
  refine ⟨readJsonFile_byte _, loadAttemptRecords_undecodable, rfl, ?_, rfl, rfl⟩
  unfold readMetadata readJsonObjectFile
  rw [readJsonFile_byte]
  rfl

end SprintTicket
