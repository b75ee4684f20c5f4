import SprintTicket.Logic.Checks
import SprintTicket.Errors
import SprintTicket.Json

/-!
# Task results and their JSON codecs

The immutable results an agent returns, with the checks of their constructors
as fields, and the decoders that are the only way from a JSON document to a
result. `decodeImplementationResult_encode` and `decodeReviewResult_encode` are
the round trips.
-/

set_option autoImplicit false

namespace SprintTicket

open Checks

inductive ImplementationStatus
  | completed | blocked
deriving DecidableEq, Repr

inductive ReviewVerdict
  | pass | correctionsRequired | humanReviewRequired
deriving DecidableEq, Repr

inductive FindingDisposition
  | required | advisory | followUp
deriving DecidableEq, Repr

inductive FindingScopeRelation
  | ticket | implementation | repositoryAuthority | outOfScope | ambiguous
deriving DecidableEq, Repr

def ImplementationStatus.value : ImplementationStatus → String
  | .completed => "COMPLETED"
  | .blocked => "BLOCKED"

def ReviewVerdict.value : ReviewVerdict → String
  | .pass => "PASS"
  | .correctionsRequired => "CORRECTIONS_REQUIRED"
  | .humanReviewRequired => "HUMAN_REVIEW_REQUIRED"

def FindingDisposition.value : FindingDisposition → String
  | .required => "REQUIRED"
  | .advisory => "ADVISORY"
  | .followUp => "FOLLOW_UP"

def FindingScopeRelation.value : FindingScopeRelation → String
  | .ticket => "TICKET"
  | .implementation => "IMPLEMENTATION"
  | .repositoryAuthority => "REPOSITORY_AUTHORITY"
  | .outOfScope => "OUT_OF_SCOPE"
  | .ambiguous => "AMBIGUOUS"

structure ImplementationTestResult where
  command : String
  result : String
  nonblank : isBlank command = false ∧ isBlank result = false
deriving DecidableEq

@[ext]
structure ImplementationResult where
  status : ImplementationStatus
  summary : String
  testsRun : List ImplementationTestResult
  assumptions : List String
  knownIssues : List String
  summary_nonblank : isBlank summary = false
  texts_nonblank : ∀ text ∈ assumptions ++ knownIssues, isBlank text = false

instance : DecidableEq ImplementationResult := fun _ _ => decidable_of_iff _ ImplementationResult.ext_iff.symm

def exampleImplementation : ImplementationResult :=
  ⟨.completed, "Done.", [], [], [], by decide, by decide⟩

structure ReviewFinding where
  id : String
  disposition : FindingDisposition
  scopeRelation : FindingScopeRelation
  title : String
  description : String
  evidence : String
  requiredChange : String
  acceptanceCriteria : List String
  texts_nonblank : ∀ text ∈ [id, title, description, evidence, requiredChange] ++ acceptanceCriteria,
    isBlank text = false
  criteria_nonempty : acceptanceCriteria ≠ []
deriving DecidableEq

structure ReviewResult where
  verdict : ReviewVerdict
  summary : String
  findings : List ReviewFinding
  summary_nonblank : isBlank summary = false
  /-- A PASS has no required finding, CORRECTIONS_REQUIRED has one. -/
  consistent : match verdict with
    | .pass => ∀ finding ∈ findings, finding.disposition ≠ .required
    | .correctionsRequired => ∃ finding ∈ findings, finding.disposition = .required
    | .humanReviewRequired => True

/-- `TaskResult`. -/
inductive TaskResult
  | implementation (result : ImplementationResult)
  | review (result : ReviewResult)

instance : DecidableEq ReviewResult := fun left right =>
  decidable_of_iff
    (left.verdict = right.verdict ∧ left.summary = right.summary ∧ left.findings = right.findings) <| by
      cases left; cases right; simp

instance : DecidableEq TaskResult
  | .implementation left, .implementation right => decidable_of_iff (left = right) (by simp)
  | .review left, .review right => decidable_of_iff (left = right) (by simp)
  | .implementation _, .review _ => isFalse (by simp)
  | .review _, .implementation _ => isFalse (by simp)

/-- `_require_exact_object`: exactly the given fields. -/
def requireExactObject (value : Json) (required : List String) (source : String) :
    Except Raised (List (String × Json)) :=
  match value with
  | .obj fields => do
    let missing := required.filter fun field => (Json.lookup field fields).isNone
    raiseIf (missing ≠ [])
      ⟨.resultValidationError,
        source ++ " is missing required fields: " ++ ", ".intercalate missing ++ "."⟩
    let extra := (fields.map Prod.fst).filter fun field => !required.contains field
    raiseIf (extra ≠ [])
      ⟨.resultValidationError,
        source ++ " contains unsupported fields: " ++ ", ".intercalate extra.mergeSort ++ "."⟩
    pure fields
  | _ => .error ⟨.resultValidationError, source ++ " must be an object."⟩

/-- `_require_string`. -/
def requireString (fields : List (String × Json)) (field source : String) :
    Except Raised { text : String // isBlank text = false } :=
  match Json.get fields field with
  | .str text =>
    if h : isBlank text = false then .ok ⟨text, h⟩
    else .error ⟨.resultValidationError, source ++ "." ++ field ++ " must be a non-empty string."⟩
  | _ => .error ⟨.resultValidationError, source ++ "." ++ field ++ " must be a non-empty string."⟩

/-- `_require_enum` over the members of an enumeration. -/
def requireEnum {α : Type} (members : List α) (token : α → String) (fields : List (String × Json))
    (field source : String) : Except Raised α := do
  let text ← requireString fields field source
  match members.find? fun member => token member = text.1 with
  | some member => pure member
  | none =>
    .error ⟨.resultValidationError,
      source ++ "." ++ field ++ " must be one of: " ++ ", ".intercalate (members.map token) ++ "."⟩

/-- The items of `_require_string_tuple`, from position `index` on. -/
def requireStrings (source : String) (index : Nat) :
    List Json → Except Raised { texts : List String // ∀ text ∈ texts, isBlank text = false }
  | [] => .ok ⟨[], by simp⟩
  | .str text :: rest => do
    if h : isBlank text = false then
      let texts ← requireStrings source (index + 1) rest
      pure ⟨text :: texts.1, by simpa [h] using texts.2⟩
    else .error ⟨.resultValidationError, s!"{source}[{index}] must be a non-empty string."⟩
  | _ :: _ => .error ⟨.resultValidationError, s!"{source}[{index}] must be a non-empty string."⟩

/-- `_require_string_tuple`. -/
def requireStringTuple (value : Json) (source : String) (minimumItems : Nat) :
    Except Raised { texts : List String // ∀ text ∈ texts, isBlank text = false } :=
  match value with
  | .arr items => do
    raiseIf (items.length < minimumItems)
      ⟨.resultValidationError, s!"{source} must contain at least {minimumItems} item(s)."⟩
    requireStrings source 0 items
  | _ => .error ⟨.resultValidationError, source ++ " must be an array."⟩

/-- Decode the elements of an array in order, each with its index. -/
def decodeItems {α : Type} (decode : Nat → Json → Except Raised α) (index : Nat) :
    List Json → Except Raised (List α)
  | [] => .ok []
  | item :: rest => do
    let first ← decode index item
    let others ← decodeItems decode (index + 1) rest
    pure (first :: others)

def decodeImplementationTest (index : Nat) (item : Json) : Except Raised ImplementationTestResult := do
  let source := s!"implementation result.tests_run[{index}]"
  let test ← requireExactObject item ["command", "result"] source
  let command ← requireString test "command" source
  let result ← requireString test "result" source
  pure ⟨command.1, result.1, command.2, result.2⟩

/-- `decode_implementation_result`. -/
def decodeImplementationResult (value : Json) : Except Raised ImplementationResult := do
  let source := "implementation result"
  let fields ← requireExactObject value ["status", "summary", "tests_run", "assumptions", "known_issues"] source
  match Json.get fields "tests_run" with
  | .arr items =>
    let tests ← decodeItems decodeImplementationTest 0 items
    let status ← requireEnum [.completed, .blocked] ImplementationStatus.value fields "status" source
    let summary ← requireString fields "summary" source
    let assumptions ←
      requireStringTuple (Json.get fields "assumptions") "implementation result.assumptions" 0
    let knownIssues ←
      requireStringTuple (Json.get fields "known_issues") "implementation result.known_issues" 0
    pure ⟨status, summary.1, tests, assumptions.1, knownIssues.1, summary.2, by
      intro text member
      rcases List.mem_append.mp member with member | member
      · exact assumptions.2 text member
      · exact knownIssues.2 text member⟩
  | _ => .error ⟨.resultValidationError, "implementation result.tests_run must be an array."⟩

/-- `_decode_review_finding`. -/
def decodeReviewFinding (index : Nat) (value : Json) : Except Raised ReviewFinding := do
  let source := s!"review result.findings[{index}]"
  let finding ← requireExactObject value
    ["id", "disposition", "scope_relation", "title", "description", "evidence", "required_change",
      "acceptance_criteria"] source
  let id ← requireString finding "id" source
  let disposition ← requireEnum [.required, .advisory, .followUp] FindingDisposition.value finding
    "disposition" source
  let scopeRelation ← requireEnum
    [.ticket, .implementation, .repositoryAuthority, .outOfScope, .ambiguous]
    FindingScopeRelation.value finding "scope_relation" source
  let title ← requireString finding "title" source
  let description ← requireString finding "description" source
  let evidence ← requireString finding "evidence" source
  let requiredChange ← requireString finding "required_change" source
  let criteria ←
    requireStringTuple (Json.get finding "acceptance_criteria") (source ++ ".acceptance_criteria") 1
  if nonempty : criteria.1 ≠ [] then
    pure
      { id := id.1, disposition, scopeRelation, title := title.1, description := description.1
        evidence := evidence.1, requiredChange := requiredChange.1, acceptanceCriteria := criteria.1
        texts_nonblank := by
          intro text member
          simp only [List.cons_append, List.nil_append, List.mem_cons] at member
          rcases member with rfl | rfl | rfl | rfl | rfl | member
          · exact id.2
          · exact title.2
          · exact description.2
          · exact evidence.2
          · exact requiredChange.2
          · exact criteria.2 text member
        criteria_nonempty := nonempty }
  else .error ⟨.resultValidationError,
    "review finding acceptance_criteria must contain at least 1 item(s)."⟩

/-- The constructor of `ReviewResult`. -/
def ReviewResult.ofFields (verdict : ReviewVerdict) (summary : { text : String // isBlank text = false })
    (findings : List ReviewFinding) : Except Raised ReviewResult :=
  match verdict with
  | .pass =>
    if h : ∀ finding ∈ findings, finding.disposition ≠ .required then
      .ok ⟨.pass, summary.1, findings, summary.2, h⟩
    else .error ⟨.resultValidationError, "PASS results must not contain REQUIRED findings."⟩
  | .correctionsRequired =>
    if h : ∃ finding ∈ findings, finding.disposition = .required then
      .ok ⟨.correctionsRequired, summary.1, findings, summary.2, h⟩
    else .error ⟨.resultValidationError,
      "CORRECTIONS_REQUIRED results must contain at least one REQUIRED finding."⟩
  | .humanReviewRequired => .ok ⟨.humanReviewRequired, summary.1, findings, summary.2, trivial⟩

/-- `decode_review_result`. -/
def decodeReviewResult (value : Json) : Except Raised ReviewResult := do
  let source := "review result"
  let fields ← requireExactObject value ["verdict", "summary", "findings"] source
  match Json.get fields "findings" with
  | .arr items =>
    let findings ← decodeItems decodeReviewFinding 0 items
    let verdict ← requireEnum [.pass, .correctionsRequired, .humanReviewRequired] ReviewVerdict.value
      fields "verdict" source
    let summary ← requireString fields "summary" source
    ReviewResult.ofFields verdict summary findings
  | _ => .error ⟨.resultValidationError, "review result.findings must be an array."⟩

def encodeImplementationTest (test : ImplementationTestResult) : Json :=
  .obj [("command", .str test.command), ("result", .str test.result)]

/-- `encode_implementation_result`. -/
def encodeImplementationResult (result : ImplementationResult) : Json :=
  .obj [("status", .str result.status.value), ("summary", .str result.summary),
    ("tests_run", .arr (result.testsRun.map encodeImplementationTest)),
    ("assumptions", .arr (result.assumptions.map .str)), ("known_issues", .arr (result.knownIssues.map .str))]

def encodeReviewFinding (finding : ReviewFinding) : Json :=
  .obj [("id", .str finding.id), ("disposition", .str finding.disposition.value),
    ("scope_relation", .str finding.scopeRelation.value), ("title", .str finding.title),
    ("description", .str finding.description), ("evidence", .str finding.evidence),
    ("required_change", .str finding.requiredChange),
    ("acceptance_criteria", .arr (finding.acceptanceCriteria.map .str))]

/-- `encode_review_result`. -/
def encodeReviewResult (result : ReviewResult) : Json :=
  .obj [("verdict", .str result.verdict.value), ("summary", .str result.summary),
    ("findings", .arr (result.findings.map encodeReviewFinding))]

/-! ## Round trips -/

/-- The readers accept what the encoder wrote, one lemma each. -/
theorem requireString_str {fields : List (String × Json)} {field source text : String}
    (found : Json.get fields field = .str text) (nonblank : isBlank text = false) :
    requireString fields field source = .ok ⟨text, nonblank⟩ := by
  unfold requireString
  rw [found]
  simp [nonblank]

theorem requireEnum_member {α : Type} {members : List α} {token : α → String}
    {fields : List (String × Json)} {field source : String} {member : α}
    (found : Json.get fields field = .str (token member)) (nonblank : isBlank (token member) = false)
    (listed : members.find? (fun other => token other = token member) = some member) :
    requireEnum members token fields field source = .ok member := by
  simp [requireEnum, requireString_str found nonblank, listed, bind, Except.bind, pure, Except.pure]

theorem requireStrings_strs (source : String) {texts : List String}
    (nonblank : ∀ text ∈ texts, isBlank text = false) (index : Nat) :
    requireStrings source index (texts.map .str) = .ok ⟨texts, nonblank⟩ := by
  induction texts generalizing index with
  | nil => rfl
  | cons text texts ih =>
    have first : isBlank text = false := nonblank text List.mem_cons_self
    have rest := ih (fun t member => nonblank t (List.mem_cons_of_mem _ member)) (index + 1)
    simp [requireStrings, first, rest, bind, Except.bind, pure, Except.pure]

theorem requireStringTuple_strs {source : String} {minimumItems : Nat} {texts : List String}
    (nonblank : ∀ text ∈ texts, isBlank text = false) (enough : minimumItems ≤ texts.length) :
    requireStringTuple (.arr (texts.map .str)) source minimumItems = .ok ⟨texts, nonblank⟩ :=
  check_bind_ok.mpr ⟨raiseIf_ok.mpr (by simpa using enough), requireStrings_strs source nonblank 0⟩

/-- Decoding what an encoder wrote element by element, each item known to decode
to `result`. -/
theorem decodeItems_map_of {α β : Type} {decode : Nat → Json → Except Raised β} {encode : α → Json}
    {result : α → β} {items : List α}
    (decodes : ∀ index, ∀ a ∈ items, decode index (encode a) = .ok (result a)) (index : Nat) :
    decodeItems decode index (items.map encode) = .ok (items.map result) := by
  induction items generalizing index with
  | nil => rfl
  | cons a items ih =>
    have first := decodes index a List.mem_cons_self
    have rest := ih (fun index b member => decodes index b (List.mem_cons_of_mem _ member)) (index + 1)
    simp [decodeItems, first, rest, bind, Except.bind, pure, Except.pure]

/-- Decoding what an encoder wrote element by element gives the elements back. -/
theorem decodeItems_map {α : Type} {decode : Nat → Json → Except Raised α} {encode : α → Json}
    (inverse : ∀ index a, decode index (encode a) = .ok a) (items : List α) (index : Nat) :
    decodeItems decode index (items.map encode) = .ok items := by
  have decoded : decodeItems decode index (items.map encode) = .ok (items.map id) :=
    decodeItems_map_of (fun index a _ => inverse index a) index
  rwa [List.map_id] at decoded

theorem decodeImplementationTest_encode (index : Nat) (test : ImplementationTestResult) :
    decodeImplementationTest index (encodeImplementationTest test) = .ok test := by
  obtain ⟨command, result, nonblank⟩ := test
  exact bind_ok_iff.mpr ⟨_, rfl, bind_ok_iff.mpr ⟨_, requireString_str rfl nonblank.1,
    bind_ok_iff.mpr ⟨_, requireString_str rfl nonblank.2, rfl⟩⟩⟩

/-- **Round trip** of an implementation result. -/
theorem decodeImplementationResult_encode (result : ImplementationResult) :
    decodeImplementationResult (encodeImplementationResult result) = .ok result := by
  obtain ⟨status, summary, tests, assumptions, issues, nonblank, texts⟩ := result
  refine bind_ok_iff.mpr ⟨_, rfl, ?_⟩
  refine bind_ok_iff.mpr ⟨_, decodeItems_map decodeImplementationTest_encode tests 0, ?_⟩
  refine bind_ok_iff.mpr ⟨status, ?_, ?_⟩
  · refine requireEnum_member rfl ?_ ?_ <;> cases status <;> decide
  refine bind_ok_iff.mpr ⟨_, requireString_str rfl nonblank, ?_⟩
  have assumed : ∀ text ∈ assumptions, isBlank text = false :=
    fun text member => texts text (List.mem_append_left _ member)
  have known : ∀ text ∈ issues, isBlank text = false :=
    fun text member => texts text (List.mem_append_right _ member)
  exact bind_ok_iff.mpr ⟨_, requireStringTuple_strs assumed (Nat.zero_le _),
    bind_ok_iff.mpr ⟨_, requireStringTuple_strs known (Nat.zero_le _), rfl⟩⟩

theorem decodeReviewFinding_encode (index : Nat) (finding : ReviewFinding) :
    decodeReviewFinding index (encodeReviewFinding finding) = .ok finding := by
  obtain ⟨id, disposition, scope, title, description, evidence, change, criteria, texts, nonempty⟩ := finding
  simp only [List.cons_append, List.nil_append, List.forall_mem_cons] at texts
  obtain ⟨idText, titleText, descriptionText, evidenceText, changeText, criteriaText⟩ := texts
  refine bind_ok_iff.mpr ⟨_, rfl, ?_⟩
  refine bind_ok_iff.mpr ⟨_, requireString_str rfl idText, ?_⟩
  refine bind_ok_iff.mpr ⟨disposition, ?_, ?_⟩
  · refine requireEnum_member rfl ?_ ?_ <;> cases disposition <;> decide
  refine bind_ok_iff.mpr ⟨scope, ?_, ?_⟩
  · refine requireEnum_member rfl ?_ ?_ <;> cases scope <;> decide
  refine bind_ok_iff.mpr ⟨_, requireString_str rfl titleText, ?_⟩
  refine bind_ok_iff.mpr ⟨_, requireString_str rfl descriptionText, ?_⟩
  refine bind_ok_iff.mpr ⟨_, requireString_str rfl evidenceText, ?_⟩
  refine bind_ok_iff.mpr ⟨_, requireString_str rfl changeText, ?_⟩
  have enough : 1 ≤ criteria.length := List.length_pos_iff.mpr nonempty
  refine bind_ok_iff.mpr ⟨_, requireStringTuple_strs criteriaText enough, ?_⟩
  rw [dif_pos nonempty]
  rfl

/-- **Round trip** of a review result. -/
theorem decodeReviewResult_encode (result : ReviewResult) :
    decodeReviewResult (encodeReviewResult result) = .ok result := by
  obtain ⟨verdict, summary, findings, nonblank, consistent⟩ := result
  refine bind_ok_iff.mpr ⟨_, rfl, ?_⟩
  refine bind_ok_iff.mpr ⟨_, decodeItems_map decodeReviewFinding_encode findings 0, ?_⟩
  refine bind_ok_iff.mpr ⟨verdict, ?_, ?_⟩
  · refine requireEnum_member rfl ?_ ?_ <;> cases verdict <;> decide
  refine bind_ok_iff.mpr ⟨_, requireString_str rfl nonblank, ?_⟩
  cases verdict with
  | pass => exact dif_pos consistent
  | correctionsRequired => exact dif_pos consistent
  | humanReviewRequired => rfl

end SprintTicket
