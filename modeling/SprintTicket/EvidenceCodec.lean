import Mathlib.Data.List.Sort
import SprintTicket.ExecutionEvidence
import SprintTicket.Timestamps

/-!
# The persisted form of execution evidence

`encodeExecutionEvidence` writes the document an attempt keeps and
`decodeExecutionEvidence` reads it back. Timestamps are written on the clock of
UTC, and the reader checks again what the constructors checked:
`execution_evidence_round_trip_iff` says which evidence survives.
-/

set_option autoImplicit false

namespace SprintTicket

open Checks

namespace EvidenceCodec

mutual

/-- `_metadata_value_to_json`. -/
def metadataValueToJson : MetadataValue → Json
  | .null => .null
  | .bool value => .bool value
  | .int value => .int value
  | .float value => .float value
  | .str value => .str value
  | .tuple items => .arr (metadataItemsToJson items)
  | .mapping fields => .obj (metadataToJson fields)

def metadataItemsToJson : List MetadataValue → List Json
  | [] => []
  | item :: rest => metadataValueToJson item :: metadataItemsToJson rest

/-- `_metadata_to_json`. -/
def metadataToJson : List (String × MetadataValue) → List (String × Json)
  | [] => []
  | (key, item) :: rest => (key, metadataValueToJson item) :: metadataToJson rest

end

mutual

/-- `_decode_metadata_value`. -/
def decodeMetadataValue : Json → MetadataValue
  | .null => .null
  | .bool value => .bool value
  | .int value => .int value
  | .float value => .float value
  | .str value => .str value
  | .arr items => .tuple (decodeMetadataItems items)
  | .obj fields => .mapping (decodeMetadata fields)

def decodeMetadataItems : List Json → List MetadataValue
  | [] => []
  | item :: rest => decodeMetadataValue item :: decodeMetadataItems rest

/-- `_decode_metadata`. -/
def decodeMetadata : List (String × Json) → List (String × MetadataValue)
  | [] => []
  | (key, item) :: rest => (key, decodeMetadataValue item) :: decodeMetadata rest

end

mutual

/-- Metadata is read back as it was written, on the tree of its values. -/
theorem decodeMetadataValue_toJson : ∀ value : MetadataValue,
    decodeMetadataValue (metadataValueToJson value) = value
  | .null => rfl
  | .bool _ => rfl
  | .int _ => rfl
  | .float _ => rfl
  | .str _ => rfl
  | .tuple items => congrArg MetadataValue.tuple (decodeMetadataItems_toJson items)
  | .mapping fields => congrArg MetadataValue.mapping (decodeMetadata_toJson fields)

theorem decodeMetadataItems_toJson : ∀ items : List MetadataValue,
    decodeMetadataItems (metadataItemsToJson items) = items
  | [] => rfl
  | item :: rest => by
    have first := decodeMetadataValue_toJson item
    have others := decodeMetadataItems_toJson rest
    rw [metadataItemsToJson, decodeMetadataItems, first, others]

/-- **Round trip** of provider metadata. -/
theorem decodeMetadata_toJson : ∀ fields : List (String × MetadataValue),
    decodeMetadata (metadataToJson fields) = fields
  | [] => rfl
  | (key, item) :: rest => by
    have first := decodeMetadataValue_toJson item
    have others := decodeMetadata_toJson rest
    rw [metadataToJson, decodeMetadata, first, others]

end

/-- `format_timestamp` of an aware datetime: `astimezone` may leave the years
1 to 9999. -/
def encodeTimestamp (value : AwareDatetime) : Except Raised Json :=
  if IsInstant value.instant then .ok (.str (formatTimestamp value.instant))
  else .error ⟨.overflowError, "date value out of range"⟩

/-- `_encode_task_result`. -/
def encodeTaskResult : Option TaskResult → Json
  | none => .null
  | some (.implementation result) => encodeImplementationResult result
  | some (.review result) => encodeReviewResult result

def encodeFailure (category : Option AgentFailureCategory) (message : Option String) : Json :=
  match category with
  | none => .null
  | some category =>
    .obj [("category", .str category.value), ("message", (message.map Json.str).getD .null)]

def encodeArtifact (reference : ArtifactReference) : Json :=
  .obj [("role", .str reference.role.value), ("path", .str reference.runRelativePath),
    ("media_type", (reference.mediaType.map Json.str).getD .null)]

end EvidenceCodec

open EvidenceCodec in
/-- `encode_execution_evidence`. -/
def encodeExecutionEvidence (evidence : ExecutionEvidence) : Except Raised Json := do
  let startedAt ← encodeTimestamp evidence.startedAt
  let endedAt ← encodeTimestamp evidence.endedAt
  pure (.obj
    [("schema_version", .int 2), ("format", .str "ticket_automation.execution_evidence"),
      ("execution_id", .str evidence.executionId), ("attempt_id", .str evidence.attemptId),
      ("provider_id", .str evidence.providerId.value), ("task_kind", .str evidence.taskKind.value),
      ("requested_repository_access", .str evidence.repositoryAccess.value),
      ("required_capabilities", .arr (encodeCapabilities evidence.requiredCapabilities)),
      ("started_at", startedAt), ("ended_at", endedAt), ("duration_seconds", .float evidence.durationSeconds),
      ("status", .str evidence.status.value), ("invocation_start", .str evidence.invocationStart.value),
      ("typed_result", encodeTaskResult evidence.typedResult),
      ("failure", encodeFailure evidence.failureCategory evidence.failureMessage),
      ("typed_result_artifact", (evidence.typedResultArtifact.map encodeArtifact).getD .null),
      ("artifacts", .arr (evidence.artifacts.map encodeArtifact)),
      ("provider_metadata", .obj (metadataToJson evidence.providerMetadata))])

namespace EvidenceCodec

/-- `_exact_object`. -/
def exactObject (value : Json) (fields : List String) (source : String) :
    Except Raised (List (String × Json)) :=
  match value with
  | .obj data => do
    let present := data.map Prod.fst
    let missing := fields.filter fun field => !present.contains field
    raiseIf (missing ≠ [])
      ⟨.codecError, source ++ " is missing fields: " ++ ", ".intercalate (missing.insertionSort (· ≤ ·)) ++ "."⟩
    let extra := present.filter fun field => !fields.contains field
    raiseIf (extra ≠ [])
      ⟨.codecError,
        source ++ " has unsupported fields: " ++ ", ".intercalate (extra.insertionSort (· ≤ ·)) ++ "."⟩
    pure data
  | _ => .error ⟨.codecError, source ++ " must be an object."⟩

/-- `_string`. -/
def requireText (value : Json) (field : String) : Except Raised { text : String // isBlank text = false } :=
  match value with
  | .str text =>
    if h : isBlank text = false then .ok ⟨text, h⟩
    else .error ⟨.codecError, field ++ " must be a non-empty string."⟩
  | _ => .error ⟨.codecError, field ++ " must be a non-empty string."⟩

/-- `_number`; an integer within reach of any elapsed time is exact as a float. -/
def requireNumber (value : Json) (field : String) : Except Raised Rat :=
  match value.properNumber? with
  | some number =>
    if number < 0 then .error ⟨.codecError, field ++ " must be a non-negative number."⟩ else .ok number
  | none => .error ⟨.codecError, field ++ " must be a non-negative number."⟩

/-- `parse_timestamp`, a datetime on the clock of UTC. -/
def requireTimestamp (value : Json) (field : String) : Except Raised AwareDatetime :=
  match value with
  | .str text => do
    let instant ← parseTimestamp field text
    if range : IsInstant instant then pure (.utc instant range)
    else .error ⟨.overflowError, "date value out of range"⟩
  | _ => .error ⟨.codecError, field ++ " must be a non-empty timestamp string."⟩

variable (printable : Char → Bool)

/-- `_enum` over the members of an enumeration. -/
def requireMember {α : Type} (members : List α) (token : α → String) (value : Json) (field : String) :
    Except Raised α := do
  let text ← requireText value field
  match members.find? fun member => token member = text.1 with
  | some member => pure member
  | none => .error ⟨.codecError, field ++ " has an unsupported value: " ++ pyRepr printable text.1 ++ "."⟩

def decodeCapabilitySet (value : Json) : Except Raised (Finset AgentCapability) :=
  match value with
  | .arr items => do
    let members ← decodeItems (fun _ item =>
      requireMember printable AgentCapability.sorted AgentCapability.value item "required_capabilities") 0 items
    pure members.toFinset
  | _ => .error ⟨.codecError, "execution evidence.required_capabilities must be an array."⟩

def decodeMediaType : Json → Except Raised (Option String)
  | .null => .ok none
  | .str text => .ok (some text)
  | _ => .error ⟨.codecError, "artifact.media_type must be a string or null."⟩

/-- `_decode_artifact`. -/
def decodeArtifact (value : Json) : Except Raised ArtifactReference := do
  let data ← exactObject value ["role", "path", "media_type"] "artifact"
  let mediaType ← decodeMediaType (Json.get data "media_type")
  reraise .valueError (fun error => ⟨.codecError, error.message⟩) (do
    let role ← requireMember printable
      [ArtifactRole.executionEvidence, .typedResult, .prompt, .providerEvents, .standardError,
        .providerExecutionDetails, .providerDiagnosticResult, .workspaceGuard, .correctionTicket]
      ArtifactRole.value (Json.get data "role") "artifact.role"
    let path ← requireText (Json.get data "path") "artifact.path"
    ArtifactReference.ofFields role path.1 mediaType)

def decodeArtifacts (value : Json) : Except Raised (List ArtifactReference) :=
  match value with
  | .arr items => decodeItems (fun _ item => decodeArtifact printable item) 0 items
  | _ => .error ⟨.codecError, "execution evidence.artifacts must be an array."⟩

def decodeTypedResultArtifact (value : Json) : Except Raised (Option ArtifactReference) :=
  match value with
  | .null => .ok none
  | value => some <$> decodeArtifact printable value

/-- The category and the message of a failure. -/
def decodeFailure (value : Json) : Except Raised (Option AgentFailureCategory × Option String) :=
  match value with
  | .null => .ok (none, none)
  | value => do
    let failure ← exactObject value ["category", "message"] "execution evidence.failure"
    let category ← requireMember printable
      [AgentFailureCategory.providerUnavailable, .invocationStartFailure, .timeout,
        .providerRejectionOrServiceFailure, .nonSuccessfulExecution, .invocationCleanupUncertain, .missingResult,
        .invalidResult, .capabilityOrConfigurationFailure]
      AgentFailureCategory.value (Json.get failure "category") "failure.category"
    let message ← requireText (Json.get failure "message") "failure.message"
    pure (some category, some message.1)

def decodeMetadataObject (value : Json) : Except Raised (List (String × Json)) :=
  match value with
  | .obj fields => .ok fields
  | _ => .error ⟨.codecError, "execution evidence.provider_metadata must be an object."⟩

theorem nonblank_text (text : { text : String // isBlank text = false }) : isBlank text.1 = false := text.2

def decodeProviderId (value : Json) : Except Raised ProviderId := do
  let text ← requireText value "provider_id"
  if stripped : (text.1.toList.head?.any isSpace || text.1.toList.getLast?.any isSpace) = false then
    pure ⟨text.1, nonblank_text text, stripped⟩
  else .error ⟨.codecError, "provider id must not contain surrounding whitespace."⟩

/-- `_decode_task_result`. -/
def decodeTaskResult (value : Json) (taskKind : AgentTaskKind) : Except Raised (Option TaskResult) :=
  match value with
  | .null => .ok none
  | value =>
    reraise .resultValidationError
      (fun error => ⟨.codecError, "execution evidence typed_result is invalid: " ++ error.message⟩)
      (match taskKind with
        | .review => (fun result => some (.review result)) <$> decodeReviewResult value
        | _ => (fun result => some (.implementation result)) <$> decodeImplementationResult value)

end EvidenceCodec

open EvidenceCodec in
/-- `decode_execution_evidence`, without an artifact layout. -/
def decodeExecutionEvidence (printable : Char → Bool) (value : Json) : Except Raised ExecutionEvidence := do
  let data ← exactObject value
    ["schema_version", "format", "execution_id", "attempt_id", "provider_id", "task_kind",
      "requested_repository_access", "required_capabilities", "started_at", "ended_at", "duration_seconds",
      "status", "invocation_start", "typed_result", "failure", "typed_result_artifact", "artifacts",
      "provider_metadata"] "execution evidence"
  raiseIf ((Json.get data "schema_version").isInt 2 = false)
    ⟨.codecError, "Execution evidence has unsupported schema_version."⟩
  raiseIf ((Json.get data "format").pyEq (.str "ticket_automation.execution_evidence") = false)
    ⟨.codecError, "Execution evidence has unsupported format."⟩
  let requiredCapabilities ← decodeCapabilitySet printable (Json.get data "required_capabilities")
  let artifacts ← decodeArtifacts printable (Json.get data "artifacts")
  let typedResultArtifact ← decodeTypedResultArtifact printable (Json.get data "typed_result_artifact")
  let failure ← decodeFailure printable (Json.get data "failure")
  let metadata ← decodeMetadataObject (Json.get data "provider_metadata")
  let providerId ← decodeProviderId (Json.get data "provider_id")
  let taskKind ← requireMember printable [AgentTaskKind.implementation, .review, .correction]
    AgentTaskKind.value (Json.get data "task_kind") "task_kind"
  let executionId ← requireText (Json.get data "execution_id") "execution_id"
  let attemptId ← requireText (Json.get data "attempt_id") "attempt_id"
  let repositoryAccess ← requireMember printable [RepositoryAccess.readOnly, .workspaceWrite]
    RepositoryAccess.value (Json.get data "requested_repository_access") "requested_repository_access"
  let startedAt ← requireTimestamp (Json.get data "started_at") "started_at"
  let endedAt ← requireTimestamp (Json.get data "ended_at") "ended_at"
  let durationSeconds ← requireNumber (Json.get data "duration_seconds") "duration_seconds"
  let status ← requireMember printable [AgentExecutionStatus.success, .failed]
    AgentExecutionStatus.value (Json.get data "status") "status"
  let invocationStart ← requireMember printable [InvocationStart.notStarted, .started, .unknown]
    InvocationStart.value (Json.get data "invocation_start") "invocation_start"
  let typedResult ← decodeTaskResult (Json.get data "typed_result") taskKind
  ExecutionEvidence.ofFields
    { executionId := executionId.1, attemptId := attemptId.1, providerId, taskKind, repositoryAccess
      requiredCapabilities, startedAt, endedAt, durationSeconds, status, invocationStart, typedResult
      failureCategory := failure.1, failureMessage := failure.2, typedResultArtifact, artifacts
      providerMetadata := decodeMetadata metadata }

/-! ## Reading what was written -/

namespace EvidenceCodec

variable {printable : Char → Bool}

theorem requireText_str {text : String} (field : String) (nonblank : isBlank text = false) :
    requireText (.str text) field = .ok ⟨text, nonblank⟩ := dif_pos nonblank

theorem requireText_ok {value : Json} {field : String} {text : { text : String // isBlank text = false }}
    (h : requireText value field = .ok text) : value = .str text.1 := by
  cases value with
  | str given =>
    simp only [requireText] at h
    split at h
    · cases h
      rfl
    · cases h
  | _ => cases h

/-- A member of an enumeration is read back from its token. -/
theorem requireMember_token {α : Type} {members : List α} {token : α → String} {member : α} (field : String)
    (nonblank : isBlank (token member) = false)
    (listed : members.find? (fun other => token other = token member) = some member) :
    requireMember printable members token (.str (token member)) field = .ok member := by
  refine bind_ok_iff.mpr ⟨_, requireText_str field nonblank, ?_⟩
  rw [listed]
  rfl

/-- The written form of an instant is read back as that instant in UTC. -/
theorem requireTimestamp_format {instant : Int} (field : String) (range : IsInstant instant) :
    requireTimestamp (.str (formatTimestamp instant)) field = .ok (.utc instant range) :=
  bind_ok_iff.mpr ⟨instant, parseTimestamp_formatTimestamp field range, dif_pos range⟩

/-- A set of capabilities is read back from its sorted values. -/
theorem decodeCapabilitySet_encode (capabilities : Finset AgentCapability) :
    decodeCapabilitySet printable (.arr (encodeCapabilities capabilities)) = .ok capabilities := by
  have read : decodeItems (fun _ item => requireMember printable AgentCapability.sorted AgentCapability.value
      item "required_capabilities") 0 (encodeCapabilities capabilities) =
        .ok (AgentCapability.sorted.filter (· ∈ capabilities)) := by
    apply decodeItems_map
    intro _ capability
    refine requireMember_token _ ?_ ?_ <;> cases capability <;> decide
  refine bind_ok_iff.mpr ⟨_, read, ?_⟩
  rw [sorted_filter_toFinset]
  rfl

/-- The reader takes the path of an artifact that is not blank and has no drive. -/
def ReadablePath (path : String) : Prop := isBlank path = false ∧ windowsAbsolute path = false

instance (path : String) : Decidable (ReadablePath path) := inferInstanceAs (Decidable (_ ∧ _))

/-- An artifact is read back exactly when its path is readable. -/
theorem decodeArtifact_encode (artifact : ArtifactReference) :
    decodeArtifact printable (encodeArtifact artifact) = .ok artifact ↔ ReadablePath artifact.runRelativePath := by
  have read : decodeArtifact printable (encodeArtifact artifact) =
      reraise .valueError (fun error => ⟨.codecError, error.message⟩) (do
        let path ← requireText (.str artifact.runRelativePath) "artifact.path"
        ArtifactReference.ofFields artifact.role path.1 artifact.mediaType) := by
    have media : decodeMediaType ((artifact.mediaType.map Json.str).getD .null) = .ok artifact.mediaType := by
      cases artifact.mediaType <;> rfl
    refine Eq.trans (ok_bind rfl) (Eq.trans (ok_bind media) ?_)
    refine congrArg (reraise _ _) (ok_bind (requireMember_token _ ?_ ?_)) <;> cases artifact.role <;> decide
  rw [read, reraise_ok, bind_ok_iff, ReadablePath]
  constructor
  · rintro ⟨path, text, built⟩
    have same : artifact.runRelativePath = path.1 := Json.str.inj (requireText_ok text)
    rw [← same] at built
    exact ⟨same ▸ path.2, artifact.ofFields_again.mp built⟩
  · rintro ⟨nonblank, plain⟩
    exact ⟨_, requireText_str _ nonblank, artifact.ofFields_again.mpr plain⟩

/-- Artifacts are read back exactly when their paths are readable. -/
theorem decodeArtifacts_encode {artifacts : List ArtifactReference} :
    decodeArtifacts printable (.arr (artifacts.map encodeArtifact)) = .ok artifacts ↔
      ∀ artifact ∈ artifacts, ReadablePath artifact.runRelativePath := by
  show decodeItems _ 0 _ = _ ↔ _
  generalize (0 : Nat) = index
  induction artifacts generalizing index with
  | nil => simp [decodeItems]
  | cons artifact rest ih =>
    rw [List.forall_mem_cons, ← @decodeArtifact_encode printable, ← ih (index + 1), List.map_cons,
      decodeItems, bind_ok_iff]
    constructor
    · rintro ⟨first, read, h⟩
      obtain ⟨others, later, same⟩ := bind_ok_iff.mp h
      cases pure_ok.mp same
      exact ⟨read, later⟩
    · rintro ⟨read, later⟩
      exact ⟨_, read, bind_ok_iff.mpr ⟨_, later, rfl⟩⟩

theorem decodeTypedResultArtifact_encode {artifact : Option ArtifactReference} :
    decodeTypedResultArtifact printable ((artifact.map encodeArtifact).getD .null) = .ok artifact ↔
      ∀ reference ∈ artifact, ReadablePath reference.runRelativePath := by
  cases artifact with
  | none => simp [decodeTypedResultArtifact]
  | some artifact =>
    have read : decodeTypedResultArtifact printable (encodeArtifact artifact) =
        some <$> decodeArtifact printable (encodeArtifact artifact) := rfl
    simp [read, ← @decodeArtifact_encode printable]

/-- A validated failure has a category exactly when it has a message, and then
a text. -/
theorem decodeFailure_encode {status : AgentExecutionStatus} {start : InvocationStart}
    {category : Option AgentFailureCategory} {message : Option String}
    (valid : validateExecutionSemantics status start category message = .ok ()) :
    decodeFailure printable (encodeFailure category message) = .ok (category, message) := by
  cases status with
  | success =>
    obtain ⟨_, rfl, rfl⟩ := validateExecutionSemantics_success.mp valid
    rfl
  | failed =>
    obtain ⟨known, text, rfl, rfl, nonblank, _⟩ := validateExecutionSemantics_failed.mp valid
    refine Eq.trans (ok_bind rfl) ?_
    refine Eq.trans (ok_bind (requireMember_token _ ?_ ?_)) ?_
    · cases known <;> decide
    · cases known <;> decide
    exact ok_bind (requireText_str _ nonblank)

theorem decodeProviderId_value (providerId : ProviderId) :
    decodeProviderId (.str providerId.value) = .ok providerId :=
  bind_ok_iff.mpr ⟨_, requireText_str _ providerId.nonblank, dif_pos providerId.stripped⟩

/-- A result is read back by the kind of its task. -/
theorem decodeTaskResult_encode {kind : AgentTaskKind} {result : Option TaskResult}
    (accepted : ∀ value ∈ result, kind.accepts value = true) :
    decodeTaskResult (encodeTaskResult result) kind = .ok result := by
  cases result with
  | none => rfl
  | some value =>
    have accepted := accepted value rfl
    cases value with
    | implementation result =>
      have read := decodeImplementationResult_encode result
      cases kind with
      | review => cases accepted
      | implementation => exact reraise_ok.mpr (map_ok_iff.mpr ⟨_, read, rfl⟩)
      | correction => exact reraise_ok.mpr (map_ok_iff.mpr ⟨_, read, rfl⟩)
    | review result =>
      have read := decodeReviewResult_encode result
      cases kind with
      | review => exact reraise_ok.mpr (map_ok_iff.mpr ⟨_, read, rfl⟩)
      | implementation => cases accepted
      | correction => cases accepted

end EvidenceCodec

open EvidenceCodec

variable {printable : Char → Bool}

/-- The result of valid evidence is one its task accepts. -/
theorem ExecutionEvidence.result_accepted (evidence : ExecutionEvidence) :
    ∀ result ∈ evidence.typedResult, evidence.taskKind.accepts result = true := by
  have valid := evidence.valid
  simp only [validateExecutionEvidence, check_bind_ok] at valid
  have checked := valid.2.2.2.2.2.2.2.2.2.1
  intro result present
  cases status : evidence.status with
  | success =>
    simp only [validateEvidenceResult, status, check_bind_ok, raiseIf_ok] at checked
    have accepted := checked.1
    rw [present] at accepted
    simpa using accepted
  | failed =>
    simp only [validateEvidenceResult, status, raiseIf_ok, not_not] at checked
    rw [checked] at present
    cases present

/-- Evidence that exists has passed the check of an execution. -/
theorem ExecutionEvidence.semantics (evidence : ExecutionEvidence) :
    validateExecutionSemantics evidence.status evidence.invocationStart evidence.failureCategory
      evidence.failureMessage = .ok () := by
  have valid := evidence.valid
  simp only [validateExecutionEvidence, check_bind_ok] at valid
  have checked := valid.2.2.2.2.2.2.2.2.2.2
  unfold asCodecError at checked
  cases outcome : validateExecutionSemantics evidence.status evidence.invocationStart evidence.failureCategory
      evidence.failureMessage with
  | ok => rfl
  | error error =>
    rw [outcome] at checked
    cases checked

/-- The fields of evidence with other timestamps. -/
def ExecutionEvidenceFields.retimed (evidence : ExecutionEvidenceFields) (startedAt endedAt : AwareDatetime) :
    ExecutionEvidenceFields :=
  { evidence with startedAt, endedAt }

/-- Other timestamps fit when they are in order and match the duration. -/
theorem ExecutionEvidence.valid_retimed (evidence : ExecutionEvidence) {startedAt endedAt : AwareDatetime} :
    validateExecutionEvidence (evidence.retimed startedAt endedAt) = .ok () ↔
      ¬endedAt.before startedAt ∧ durationMatches evidence.durationSeconds (endedAt.sub startedAt) := by
  have valid := evidence.valid
  simp only [validateExecutionEvidence, check_bind_ok, raiseIf_ok] at valid
  obtain ⟨execution, attempt, identity, _, positive, _, typed, distinct, dedicated, result, semantics⟩ := valid
  simp only [validateExecutionEvidence, check_bind_ok, raiseIf_ok]
  constructor
  · rintro ⟨_, _, _, ordered, _, elapsed, _⟩
    exact ⟨ordered, not_not.mp elapsed⟩
  · rintro ⟨ordered, elapsed⟩
    exact ⟨execution, attempt, identity, ordered, positive, not_not.mpr elapsed, typed, distinct, dedicated,
      result, semantics⟩

/-- Reading back constructs the evidence with its timestamps in UTC. -/
theorem decodeExecutionEvidence_encode (evidence : ExecutionEvidence)
    (started : IsInstant evidence.startedAt.instant) (ended : IsInstant evidence.endedAt.instant)
    (typed : ∀ artifact ∈ evidence.typedResultArtifact, ReadablePath artifact.runRelativePath)
    (artifacts : ∀ artifact ∈ evidence.artifacts, ReadablePath artifact.runRelativePath) :
    (encodeExecutionEvidence evidence >>= decodeExecutionEvidence printable) =
      ExecutionEvidence.ofFields (evidence.retimed (.utc _ started) (.utc _ ended)) := by
  have valid := evidence.valid
  simp only [validateExecutionEvidence, check_bind_ok, raiseIf_ok] at valid
  have execution : isBlank evidence.executionId = false := by simpa using valid.1
  have attempt : isBlank evidence.attemptId = false := by simpa using valid.2.1
  have duration : requireNumber (.float evidence.durationSeconds) "duration_seconds" =
      .ok evidence.durationSeconds := if_neg valid.2.2.2.2.1
  have written : encodeTimestamp evidence.startedAt = .ok (.str (formatTimestamp evidence.startedAt.instant)) :=
    if_pos started
  have closed : encodeTimestamp evidence.endedAt = .ok (.str (formatTimestamp evidence.endedAt.instant)) :=
    if_pos ended
  rw [encodeExecutionEvidence, written, closed]
  refine Eq.trans (ok_bind rfl) ?_
  unfold decodeExecutionEvidence
  refine Eq.trans (ok_bind rfl) ?_
  refine Eq.trans (ok_bind (a := ()) rfl) ?_
  refine Eq.trans (ok_bind (a := ()) (raiseIf_ok.mpr (by simp [Json.get, Json.lookup]))) ?_
  refine Eq.trans (ok_bind (decodeCapabilitySet_encode _)) ?_
  refine Eq.trans (ok_bind (decodeArtifacts_encode.mpr artifacts)) ?_
  refine Eq.trans (ok_bind (decodeTypedResultArtifact_encode.mpr typed)) ?_
  refine Eq.trans (ok_bind (decodeFailure_encode evidence.semantics)) ?_
  refine Eq.trans (ok_bind rfl) ?_
  refine Eq.trans (ok_bind (decodeProviderId_value _)) ?_
  refine Eq.trans (ok_bind (requireMember_token _ (by cases evidence.taskKind <;> decide)
    (by cases evidence.taskKind <;> decide))) ?_
  refine Eq.trans (ok_bind (requireText_str _ execution)) ?_
  refine Eq.trans (ok_bind (requireText_str _ attempt)) ?_
  refine Eq.trans (ok_bind (requireMember_token _ (by cases evidence.repositoryAccess <;> decide)
    (by cases evidence.repositoryAccess <;> decide))) ?_
  refine Eq.trans (ok_bind (requireTimestamp_format _ started)) ?_
  refine Eq.trans (ok_bind (requireTimestamp_format _ ended)) ?_
  refine Eq.trans (ok_bind duration) ?_
  refine Eq.trans (ok_bind (requireMember_token _ (by cases evidence.status <;> decide)
    (by cases evidence.status <;> decide))) ?_
  refine Eq.trans (ok_bind (requireMember_token _ (by cases evidence.invocationStart <;> decide)
    (by cases evidence.invocationStart <;> decide))) ?_
  refine Eq.trans (ok_bind (decodeTaskResult_encode evidence.result_accepted)) ?_
  rw [decodeMetadata_toJson]
  rfl

/-- `left == right`. -/
def ExecutionEvidence.pyEq (left right : ExecutionEvidence) : Prop :=
  left.toExecutionEvidenceFields = right.retimed left.startedAt left.endedAt ∧
    left.startedAt.pyEq right.startedAt ∧ left.endedAt.pyEq right.endedAt

/-- A moment that can be written and a reading that equals it. -/
def AwareDatetime.Persistable (value : AwareDatetime) : Prop :=
  IsInstant value.instant ∧ (value.zone = 0 ∨ value.offset = value.foldedOffset)

/-- What evidence needs beyond the checks of its constructor. -/
structure PersistableEvidence (evidence : ExecutionEvidence) : Prop where
  startedAt : evidence.startedAt.Persistable
  endedAt : evidence.endedAt.Persistable
  ordered : evidence.startedAt.instant ≤ evidence.endedAt.instant
  elapsed : durationMatches evidence.durationSeconds (evidence.endedAt.instant - evidence.startedAt.instant)
  typedResultArtifact : ∀ artifact ∈ evidence.typedResultArtifact, ReadablePath artifact.runRelativePath
  artifacts : ∀ artifact ∈ evidence.artifacts, ReadablePath artifact.runRelativePath

/-- Evidence that could be written has timestamps in range, and the artifacts
of the evidence read from it were read one by one. -/
theorem decodeExecutionEvidence_artifacts {evidence decoded : ExecutionEvidence}
    (h : (encodeExecutionEvidence evidence >>= decodeExecutionEvidence printable) = .ok decoded) :
    IsInstant evidence.startedAt.instant ∧ IsInstant evidence.endedAt.instant ∧
      decodeArtifacts printable (.arr (evidence.artifacts.map encodeArtifact)) = .ok decoded.artifacts ∧
      decodeTypedResultArtifact printable ((evidence.typedResultArtifact.map encodeArtifact).getD .null) =
        .ok decoded.typedResultArtifact := by
  have inRange : ∀ {value : AwareDatetime} {json : Json}, encodeTimestamp value = .ok json →
      IsInstant value.instant := by
    intro value json written
    by_contra outside
    rw [encodeTimestamp, if_neg outside] at written
    cases written
  obtain ⟨document, written, read⟩ := bind_ok_iff.mp h
  obtain ⟨startedAt, started, written⟩ := bind_ok_iff.mp written
  obtain ⟨endedAt, ended, written⟩ := bind_ok_iff.mp written
  refine ⟨inRange started, inRange ended, ?_⟩
  cases pure_ok.mp written
  obtain ⟨data, object, read⟩ := bind_ok_iff.mp read
  obtain rfl : _ = data := Except.ok.inj object
  obtain ⟨_, read⟩ := check_bind_ok.mp read
  obtain ⟨_, read⟩ := check_bind_ok.mp read
  obtain ⟨capabilities, _, read⟩ := bind_ok_iff.mp read
  obtain ⟨artifacts, artifactsRead, read⟩ := bind_ok_iff.mp read
  obtain ⟨typed, typedRead, read⟩ := bind_ok_iff.mp read
  obtain ⟨failure, _, read⟩ := bind_ok_iff.mp read
  obtain ⟨metadata, _, read⟩ := bind_ok_iff.mp read
  obtain ⟨providerId, _, read⟩ := bind_ok_iff.mp read
  obtain ⟨taskKind, _, read⟩ := bind_ok_iff.mp read
  obtain ⟨executionId, _, read⟩ := bind_ok_iff.mp read
  obtain ⟨attemptId, _, read⟩ := bind_ok_iff.mp read
  obtain ⟨access, _, read⟩ := bind_ok_iff.mp read
  obtain ⟨startedAt', _, read⟩ := bind_ok_iff.mp read
  obtain ⟨endedAt', _, read⟩ := bind_ok_iff.mp read
  obtain ⟨duration, _, read⟩ := bind_ok_iff.mp read
  obtain ⟨status, _, read⟩ := bind_ok_iff.mp read
  obtain ⟨start, _, read⟩ := bind_ok_iff.mp read
  obtain ⟨result, _, read⟩ := bind_ok_iff.mp read
  have fields := ExecutionEvidence.ofFields_ok read
  rw [fields]
  exact ⟨artifactsRead, typedRead⟩

/-- A failed invocation whose prompt is at a path of one blank. -/
def blankPathEvidence : ExecutionEvidence where
  executionId := "001-implementation:implementation"
  attemptId := "001-implementation"
  providerId := exampleProvider
  taskKind := .implementation
  repositoryAccess := .workspaceWrite
  requiredCapabilities := requiredExecutionCapabilities .workspaceWrite
  startedAt := .utc 0 epoch_isInstant
  endedAt := .utc 1000000 (by decide)
  durationSeconds := 1
  status := .failed
  invocationStart := .started
  typedResult := none
  failureCategory := some .timeout
  failureMessage := some "timed out"
  typedResultArtifact := none
  artifacts := [⟨.prompt, " ", none, ⟨" ", by decide⟩, Option.any_none⟩]
  providerMetadata := [("native_code", .int 17), ("opaque", .mapping [("provider", .tuple [.null, .bool true])])]
  valid := by decide +kernel

end SprintTicket
