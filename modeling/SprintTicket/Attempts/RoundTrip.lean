import SprintTicket.Attempts.Codec

/-!
# Attempt records, written and read

An attempt record comes back from its file as it was written, and an object that
`_load_attempt` takes has the shape that `AttemptObject` spells out:
`attempt_record_round_trip`.
-/

set_option autoImplicit false

namespace SprintTicket

open AttemptCodec Checks JsonSyntax Utf8

section Written

variable {reader : AttemptReader} {reprFloat : Rat → List Char}

/-- `to_dict` writes no key twice, neither of the record nor of its metadata. -/
theorem AttemptFields.nodup_toDict (record : AttemptFields) : (record.toDict.map Prod.fst).Nodup := by
  simp only [AttemptFields.toDict, List.map_cons, List.map_nil]
  decide

theorem AttemptMetadata.nodup_toDict (metadata : AttemptMetadata) : (metadata.toDict.map Prod.fst).Nodup := by
  rcases metadata with ⟨_ | _, _ | _, _ | _, _⟩ <;>
    simp only [AttemptMetadata.toDict, AttemptMetadata.fields, presentField, List.filterMap_cons, List.filterMap_nil,
      Option.map_none, Option.map_some, List.map_cons, List.map_nil] <;>
    decide

theorem sorted_nullable (text : Option String) : (nullable text).sorted = nullable text := by
  cases text <;> rfl

/-- Only the metadata is an object. -/
theorem AttemptFields.sorted_get (record : AttemptFields) {key : String} (other : key ≠ "metadata") :
    (Json.get record.toDict key).sorted = Json.get record.toDict key := by
  by_cases known : key ∈ recordFields
  · simp only [recordFields, List.mem_cons, List.not_mem_nil, or_false] at known
    rcases known with rfl | rfl | rfl | rfl | rfl | rfl | rfl | rfl | rfl | rfl | rfl | rfl | rfl
    all_goals first | exact absurd rfl other | exact sorted_nullable _ | rfl
  · rw [get_of_notMem fun member => known ((record.names_toDict key).mp member)]
    rfl

theorem AttemptMetadata.sorted_get (metadata : AttemptMetadata) (key : String) :
    (Json.get metadata.toDict key).sorted = Json.get metadata.toDict key := by
  by_cases known : key ∈ metadataFields
  · simp only [metadataFields, List.mem_cons, List.not_mem_nil, or_false] at known
    rcases known with rfl | rfl | rfl
    · rw [get_afterWorkspaceError, sorted_nullable]
    · rw [get_beforeWorkspaceError, sorted_nullable]
    · rw [get_controllerMessage, sorted_nullable]
  · rw [get_of_notMem fun member => known (mem_metadataFields member)]
    rfl

/-- The object in the file, with its names in order, encodes the record. -/
theorem encodes_sorted (record : AttemptFields) :
    ∃ data, (Json.obj record.toDict).sorted = .obj data ∧ Encodes data record := by
  obtain ⟨data, sorted, names, values⟩ := sorted_obj record.nodup_toDict
  obtain ⟨fields, inner, innerNames, innerValues⟩ := sorted_obj record.metadata.nodup_toDict
  refine ⟨data, sorted, fun key => ?_, fun key other => ?_, fields, ?_, fun key member => ?_, fun key => ?_⟩
  · rw [names, record.names_toDict]
  · rw [values, record.sorted_get other]
  · rw [values]
    exact inner
  · exact mem_metadataFields ((innerNames key).mp member)
  · rw [innerValues, record.metadata.sorted_get]

theorem fits_nullable (maxDigits depth : Nat) (text : Option String) :
    Fits maxDigits depth ((nullable text).toValue reprFloat) := by
  cases text <;> simp [nullable, Json.toValue, Fits]

theorem fits_metadata (maxDigits depth : Nat) (metadata : AttemptMetadata) :
    Fits maxDigits (depth + 1) ((Json.obj metadata.toDict).toValue reprFloat) := by
  refine fits_obj metadata.nodup_toDict fun field member => ?_
  obtain ⟨named, -, present⟩ := List.mem_filterMap.mp member
  obtain ⟨text, -, rfl⟩ := Option.map_eq_some_iff.mp present
  exact fits_nullable maxDigits depth (some text)

/-- A record is two levels deep and its only long number is the sequence. -/
theorem fits_toDict {maxDigits : Nat} (depth : Nat) {record : AttemptFields}
    (digits : (Nat.toDigits 10 record.sequence).length ≤ maxDigits) :
    Fits maxDigits (depth + 2) ((Json.obj record.toDict).toValue reprFloat) := by
  have one : (Nat.toDigits 10 1).length ≤ maxDigits := by
    refine le_trans ?_ digits
    exact List.length_pos_iff.mpr Nat.toDigits_ne_nil
  refine fits_obj record.nodup_toDict ?_
  simp only [AttemptFields.toDict, List.forall_mem_cons, fits_nullable, fits_metadata]
  simp only [Json.toValue, Fits, Int.natAbs_natCast, Int.natAbs_one, digits, one, List.not_mem_nil, false_implies,
    implies_true, and_self]

/-- The file of a record is read as an object that encodes it. -/
theorem readJsonObjectFile_toDict {record : AttemptFields} (path : String)
    (digits : (Nat.toDigits 10 record.sequence).length ≤ reader.limits.digits) :
    ∃ data, readJsonObjectFile reader.toInterpreter path
      (.ok (encode (dumpJson reprFloat (.obj record.toDict)))) = .ok data ∧ Encodes data record := by
  obtain ⟨data, sorted, encodes⟩ := encodes_sorted record
  obtain ⟨depth, enough⟩ := Nat.exists_eq_add_of_le' reader.nesting
  have fits := @fits_toDict reprFloat _ depth _ digits
  rw [← enough] at fits
  have read := readJsonFile_dumpJson path fits (fits_toDict 0 digits) reader.calls
  refine ⟨data, ?_, encodes⟩
  rw [readJsonObjectFile, ok_bind read, sorted]

end Written

/-! ## The objects that are records -/

/-- The invariants of a record, on the object of its file: the names, the type of
every field, the tokens, and what the fields have to do with each other. -/
structure AttemptObject (reader : AttemptReader) (directory : String) (data : List (String × Json)) : Prop where
  names : ∀ key, key ∈ data.map Prod.fst ↔ key ∈ recordFields
  schema_version : Json.get data "schema_version" = .int 1
  format : Json.get data "format" = .str "ticket_automation.attempt"
  identity : ∃ sequence phase, 1 ≤ sequence ∧ (Nat.toDigits 10 sequence).length ≤ reader.limits.digits ∧
    Json.get data "sequence" = .int (sequence : Nat) ∧ Json.get data "phase" = .str (AttemptPhase.value phase) ∧
    Json.get data "result_path" = .str (phaseDefinition phase).resultArtifactName ∧
    baseName directory = directoryName sequence phase
  status : ∃ status ended, Json.get data "status" = .str (AttemptStatus.value status) ∧
    Json.get data "ended_at" = nullable ended ∧ (ended = none ↔ status = .started) ∧
    ∀ text ∈ ended, validateTimestamp reader text "ended_at" = .ok ()
  started_at : ∃ text, Json.get data "started_at" = .str text ∧ validateTimestamp reader text "started_at" = .ok ()
  before_workspace_fingerprint : ∃ text, Json.get data "before_workspace_fingerprint" = nullable text
  after_workspace_fingerprint : ∃ text, Json.get data "after_workspace_fingerprint" = nullable text
  process_started : ∃ value, Json.get data "process_started" = .bool value
  execution_path : ∃ path, Json.get data "execution_path" = nullable path ∧
    ∀ text ∈ path, validateRelativeArtifactPath text "execution_path" = .ok ()
  metadata : ∃ fields, Json.get data "metadata" = .obj fields ∧ (∀ key ∈ fields.map Prod.fst, key ∈ metadataFields) ∧
    ∀ key ∈ metadataFields, ∃ text, Json.get fields key = nullable text ∧ text.any isBlank = false

/-- The result artifact of every phase has a name the path check accepts. -/
theorem resultArtifactName_relative (phase : AttemptPhase) :
    validateRelativeArtifactPath (phaseDefinition phase).resultArtifactName "result_path" = .ok () := by
  rw [validateRelativeArtifactPath, check_bind_ok, raiseIf_ok, raiseIf_ok]
  cases phase <;> decide

section Objects

variable {reader : AttemptReader} {directory : String} {data : List (String × Json)}

/-- An object that encodes an admitted record is an attempt object. -/
theorem AttemptObject.of_encodes {record : AttemptRecord} (encodes : Encodes data record.toAttemptFields)
    (admitted : record.Admitted reader) : AttemptObject reader record.artifactDirectory data := by
  have valid := record.Valid
  have content := record.validateContent_ok admitted
  simp only [validateContent, check_bind_ok, raiseIf_ok] at content
  obtain ⟨-, startedAt, -, -, -, execution⟩ := content
  have paths : ∀ text ∈ record.executionPath, validateRelativeArtifactPath text "execution_path" = .ok () := by
    intro text present
    rwa [Option.mem_def.mp present] at execution
  obtain ⟨fields, found, known, values⟩ := encodes.metadata
  refine
    { names := encodes.names
      schema_version := encodes.values "schema_version" (by decide)
      format := encodes.values "format" (by decide)
      identity := ⟨record.sequence, record.phase, valid.sequence_pos, admitted.digits,
        encodes.values "sequence" (by decide), encodes.values "phase" (by decide), ?_, valid.directory⟩
      status := ⟨record.status, record.endedAt.map Timestamp.text, encodes.values "status" (by decide),
        encodes.values "ended_at" (by decide), ?_, ?_⟩
      started_at := ⟨_, encodes.values "started_at" (by decide), startedAt⟩
      before_workspace_fingerprint := ⟨_, encodes.values "before_workspace_fingerprint" (by decide)⟩
      after_workspace_fingerprint := ⟨_, encodes.values "after_workspace_fingerprint" (by decide)⟩
      process_started := ⟨_, encodes.values "process_started" (by decide)⟩
      execution_path := ⟨_, encodes.values "execution_path" (by decide), paths⟩
      metadata := ⟨fields, found, known, fun key supported => ?_⟩ }
  · rw [← valid.result_path]
    exact encodes.values "result_path" (by decide)
  · rw [Option.map_eq_none_iff]
    exact valid.ended_iff
  · intro text present
    obtain ⟨ended, member, rfl⟩ := Option.map_eq_some_iff.mp present
    exact admitted.endedAt ended member
  · have own := record.metadata.nonblank
    simp only [List.mem_cons, List.not_mem_nil, or_false, forall_eq_or_imp, forall_eq] at own
    rw [values]
    simp only [metadataFields, List.mem_cons, List.not_mem_nil, or_false] at supported
    rcases supported with rfl | rfl | rfl
    · exact ⟨_, get_afterWorkspaceError _, own.2.2⟩
    · exact ⟨_, get_beforeWorkspaceError _, own.2.1⟩
    · exact ⟨_, get_controllerMessage _, own.1⟩

/-- The record of an object with the invariants. -/
theorem AttemptObject.record (object : AttemptObject reader directory data) :
    ∃ record : AttemptRecord, Encodes data record.toAttemptFields ∧ record.artifactDirectory = directory ∧
      record.Admitted reader := by
  obtain ⟨sequence, phase, positive, digits, hSequence, hPhase, hResult, hDirectory⟩ := object.identity
  obtain ⟨status, ended, hStatus, hEnded, endedIff, endedValid⟩ := object.status
  obtain ⟨startedAt, hStartedAt, startedValid⟩ := object.started_at
  obtain ⟨before, hBefore⟩ := object.before_workspace_fingerprint
  obtain ⟨after, hAfter⟩ := object.after_workspace_fingerprint
  obtain ⟨started, hStarted⟩ := object.process_started
  obtain ⟨execution, hExecution, executionValid⟩ := object.execution_path
  obtain ⟨fields, hMetadata, known, texts⟩ := object.metadata
  obtain ⟨message, hMessage, messageNonblank⟩ := texts "controller_message" (by decide)
  obtain ⟨beforeError, hBeforeError, beforeNonblank⟩ := texts "before_workspace_error" (by decide)
  obtain ⟨afterError, hAfterError, afterNonblank⟩ := texts "after_workspace_error" (by decide)
  let own : AttemptFields :=
    { sequence, phase, status
      beforeWorkspaceFingerprint := before
      afterWorkspaceFingerprint := after
      processStarted := started
      startedAt := ⟨startedAt⟩
      endedAt := ended.map Timestamp.mk
      resultPath := (phaseDefinition phase).resultArtifactName
      executionPath := execution
      metadata :=
        { controllerMessage := message
          beforeWorkspaceError := beforeError
          afterWorkspaceError := afterError
          nonblank := by simp [messageNonblank, beforeNonblank, afterNonblank] }
      artifactDirectory := directory }
  have endedNone : own.endedAt = none ↔ own.status = .started := by
    rw [← endedIff]
    exact Option.map_eq_none_iff
  have valid : validateRecord own = .ok () := by
    simp only [validateRecord, check_bind_ok, raiseIf_ok]
    refine ⟨Nat.not_lt.mpr positive, fun h => h.2 (endedNone.mp h.1), fun h => h.1 (endedNone.mpr h.2),
      resultArtifactName_relative phase, not_not.mpr rfl, ?_, not_not.mpr hDirectory⟩
    cases execution with
    | none => rfl
    | some path => exact executionValid path rfl
  have endedText : ended = own.endedAt.map Timestamp.text := by
    cases ended <;> rfl
  refine ⟨⟨own, valid⟩, .of_values object.names (fun key supported other => ?_) ?_, rfl, startedValid, ?_, digits⟩
  · simp only [recordFields, List.mem_cons, List.not_mem_nil, or_false] at supported
    rcases supported with rfl | rfl | rfl | rfl | rfl | rfl | rfl | rfl | rfl | rfl | rfl | rfl | rfl
    · exact hAfter
    · exact hBefore
    · rw [hEnded, endedText]
      rfl
    · exact hExecution
    · exact object.format
    · exact absurd rfl other
    · exact hPhase
    · exact hStarted
    · exact hResult
    · exact object.schema_version
    · exact hSequence
    · exact hStartedAt
    · exact hStatus
  · exact ⟨fields, hMetadata, known, (metadata_values known).mpr ⟨hMessage, hBeforeError, hAfterError⟩⟩
  · intro timestamp present
    obtain ⟨text, member, rfl⟩ := Option.map_eq_some_iff.mp present
    exact endedValid text member

end Objects

/-- **The constructor and the loader agree.** Every record that the constructor
admits is what the loader makes of its file, and the loader takes exactly the
objects with the invariants of a record. -/
theorem attempt_record_round_trip (reader : AttemptReader) (reprFloat : Rat → List Char) :
    (∀ fields record, constructAttempt reader fields = .ok record →
      loadAttempt reader record.artifactDirectory
        (readJsonObjectFile reader.toInterpreter (record.artifactDirectory ++ "/attempt.json")
          (.ok (encode (dumpJson reprFloat (.obj record.toDict))))) = .ok record) ∧
      ∀ directory data,
        (∃ record, loadAttempt reader directory (.ok data) = .ok record) ↔ AttemptObject reader directory data := by
  constructor
  · intro fields record constructed
    obtain ⟨rfl, admitted⟩ := constructAttempt_ok.mp constructed
    obtain ⟨data, read, encodes⟩ := @readJsonObjectFile_toDict reader reprFloat _
      (record.artifactDirectory ++ "/attempt.json") admitted.digits
    exact loadAttempt_iff.mpr ⟨data, read, encodes, rfl, admitted⟩
  · intro directory data
    constructor
    · rintro ⟨record, loaded⟩
      obtain ⟨_, same, encodes, rfl, admitted⟩ := loadAttempt_iff.mp loaded
      cases same
      exact .of_encodes encodes admitted
    · intro object
      obtain ⟨record, encodes, directory, admitted⟩ := object.record
      exact ⟨record, loadAttempt_iff.mpr ⟨data, rfl, encodes, directory, admitted⟩⟩

/-- The default limits, and one timestamp. -/
def exampleReader : AttemptReader where
  limits := ⟨4300, 990⟩
  frames := 990
  readFloat _ := none
  fromIsoFormat text := if text = "2026-01-01T00:00:00+00:00".toList then some (.instant 1767225600) else none
  printable c := ' ' ≤ c && c ≤ '~'
  nesting := by decide
  calls := by decide

/-- A review that has just begun. -/
def begunReview : AttemptFields where
  sequence := 3
  phase := .reviewing
  status := .started
  beforeWorkspaceFingerprint := none
  afterWorkspaceFingerprint := none
  processStarted := false
  startedAt := ⟨"2026-01-01T00:00:00Z"⟩
  endedAt := none
  resultPath := "result.json"
  executionPath := none
  metadata := .empty
  artifactDirectory := "runs/r1/attempts/003-review"

theorem begunReview_round_trip :
    loadAttempt exampleReader "runs/r1/attempts/003-review"
      (readJsonObjectFile exampleReader.toInterpreter "runs/r1/attempts/003-review/attempt.json"
        (.ok (encode (dumpJson (fun _ => []) (.obj begunReview.toDict))))) = .ok ⟨begunReview, by decide⟩ :=
  (attempt_record_round_trip exampleReader fun _ => []).1 begunReview ⟨begunReview, by decide⟩ (by rfl)

end SprintTicket
