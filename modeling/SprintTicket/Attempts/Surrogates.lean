import SprintTicket.AtomicWrite
import SprintTicket.Attempts.RoundTrip

/-!
# Attempt records with surrogates

A `str` of Python may hold lone surrogates, which are no `Char`. Of a fingerprint the
constructor of an attempt record asks only that it is a text, so it admits records that
`atomic_write_json` does not write: it writes a record exactly when its fingerprints are
texts that UTF-8 encodes, and then the file is the one of the round trip.
-/

set_option autoImplicit false

namespace SprintTicket

open Checks JsonSyntax Utf8

/-- A code point of a `str`. -/
inductive CodePoint
  | char (c : Char)
  | surrogate (offset : Fin 2048)
deriving DecidableEq

/-- A `str`. -/
abbrev PyText : Type := List CodePoint

namespace PyText

def ofChars (text : List Char) : PyText := text.map .char

/-- No code point is a surrogate. -/
def Plain (text : PyText) : Prop := ∀ offset, .surrogate offset ∉ text

/-- A Lean text has no lone surrogate. -/
theorem plain_ofChars (text : List Char) : (ofChars text).Plain := by
  intro offset member
  obtain ⟨c, _, same⟩ := List.mem_map.mp member
  cases same

/-- The texts without surrogates are those of characters. -/
theorem plain_iff {text : PyText} : text.Plain ↔ ∃ chars, text = ofChars chars := by
  constructor
  · intro plain
    induction text with
    | nil => exact ⟨[], rfl⟩
    | cons code text ih =>
      obtain ⟨chars, rfl⟩ := ih fun offset member => plain offset (List.mem_cons_of_mem _ member)
      cases code with
      | char c => exact ⟨c :: chars, rfl⟩
      | surrogate offset => exact absurd List.mem_cons_self (plain offset)
  · rintro ⟨chars, rfl⟩
    exact plain_ofChars chars

theorem ofChars_append (left right : List Char) : ofChars (left ++ right) = ofChars left ++ ofChars right :=
  List.map_append

/-- `text.encode("utf-8")`. -/
def encode : PyText → Except Raised (List UInt8)
  | [] => .ok []
  | .char c :: text => (encode text).map (String.utf8EncodeChar c ++ ·)
  | .surrogate _ :: _ => .error surrogatesNotAllowed

/-- On such texts the strict codec is the one of `Utf8`. -/
theorem encode_ofChars (text : List Char) : (ofChars text).encode = .ok (Utf8.encode text) := by
  induction text with
  | nil => rfl
  | cons c text ih =>
    show (encode (ofChars text)).map _ = _
    rw [ih]
    rfl

/-- A text with a surrogate is not encoded. -/
theorem encode_surrogate {text : PyText} {offset : Fin 2048} (member : .surrogate offset ∈ text) :
    text.encode = .error surrogatesNotAllowed := by
  induction text with
  | nil => cases member
  | cons code text ih =>
    cases code with
    | surrogate _ => rfl
    | char c =>
      have later : .surrogate offset ∈ text := by simpa using member
      show (encode text).map _ = _
      rw [ih later]
      rfl

/-- The strict codec encodes exactly the texts without lone surrogates. -/
theorem encode_ok {text : PyText} : (∃ bytes, text.encode = .ok bytes) ↔ text.Plain := by
  constructor
  · rintro ⟨bytes, encoded⟩ offset member
    rw [encode_surrogate member] at encoded
    cases encoded
  · intro plain
    obtain ⟨chars, rfl⟩ := plain_iff.mp plain
    exact ⟨_, encode_ofChars chars⟩

end PyText

/-- A code point of a string; a surrogate stands for itself. -/
def escapeCode : CodePoint → PyText
  | .char c => PyText.ofChars (escapeChar c)
  | .surrogate offset => [.surrogate offset]

/-- A text or null, as `json.dump(..., ensure_ascii=False)` writes it. -/
def dumpText : Option PyText → PyText
  | none => PyText.ofChars "null".toList
  | some text => .char '"' :: (text.flatMap escapeCode ++ [.char '"'])

/-- The start of the line of a field. -/
def fieldStart (name : List Char) : PyText := PyText.ofChars (newline 1 ++ dumpString name ++ [':', ' '])

/-- The fields after the first, whose values are written already. -/
def dumpWrittenFields : List (List Char × PyText) → PyText
  | [] => []
  | (name, value) :: fields => .char ',' :: (fieldStart name ++ value ++ dumpWrittenFields fields)

/-- An object whose values are written already. -/
def dumpWritten : List (List Char × PyText) → PyText
  | [] => PyText.ofChars ['{', '}']
  | (name, value) :: fields =>
    .char '{' :: (fieldStart name ++ value ++ dumpWrittenFields fields ++ PyText.ofChars (newline 0 ++ ['}']))

/-- A field of an object without surrogates. -/
def writtenField (field : List Char × Value) : List Char × PyText := (field.1, PyText.ofChars (dump 1 field.2))

/-- Fields written as Lean texts are dumped as `json.dumps` dumps them. -/
theorem dumpWrittenFields_map (fields : List (List Char × Value)) :
    dumpWrittenFields (fields.map writtenField) = PyText.ofChars (dumpFields 1 fields) := by
  induction fields with
  | nil => rfl
  | cons field fields ih =>
    obtain ⟨name, value⟩ := field
    rw [List.map_cons, dumpFields]
    show .char ',' :: (fieldStart name ++ PyText.ofChars (dump 1 value) ++ dumpWrittenFields (fields.map writtenField)) = _
    rw [ih]
    simp [fieldStart, PyText.ofChars]

/-- Without surrogates this is the document that `dump` writes. -/
theorem dumpWritten_map (fields : List (List Char × Value)) :
    dumpWritten (fields.map writtenField) = PyText.ofChars (dump 0 (.obj fields)) := by
  cases fields with
  | nil =>
    rw [dump]
    rfl
  | cons field fields =>
    obtain ⟨name, value⟩ := field
    rw [List.map_cons, dump]
    show .char '{' :: (fieldStart name ++ PyText.ofChars (dump 1 value) ++ dumpWrittenFields (fields.map writtenField) ++
      PyText.ofChars (newline 0 ++ ['}'])) = _
    rw [dumpWrittenFields_map]
    simp [fieldStart, PyText.ofChars]

theorem dumpText_ofChars (text : List Char) : dumpText (some (PyText.ofChars text)) = PyText.ofChars (dump 1 (.str text)) := by
  rw [dump, dumpString]
  have escaped : (PyText.ofChars text).flatMap escapeCode = PyText.ofChars (text.flatMap escapeChar) := by
    induction text with
    | nil => rfl
    | cons c text ih =>
      show escapeCode (.char c) ++ (PyText.ofChars text).flatMap escapeCode = _
      rw [ih, List.flatMap_cons, PyText.ofChars_append]
      rfl
  rw [dumpText, escaped]
  simp [PyText.ofChars]

/-- A surrogate of a text is in the text that is written for it. -/
theorem mem_dumpText {text : PyText} {offset : Fin 2048} (member : .surrogate offset ∈ text) :
    .surrogate offset ∈ dumpText (some text) := by
  refine List.mem_cons_of_mem _ (List.mem_append_left _ ?_)
  exact List.mem_flatMap.mpr ⟨_, member, List.mem_singleton_self _⟩

/-- Every code point of a field's text is in the dump. -/
theorem mem_dumpWrittenFields {fields : List (List Char × PyText)} {field : List Char × PyText} {code : CodePoint}
    (own : field ∈ fields) (member : code ∈ field.2) : code ∈ dumpWrittenFields fields := by
  induction fields with
  | nil => cases own
  | cons first fields ih =>
    obtain ⟨name, value⟩ := first
    rw [dumpWrittenFields]
    rcases List.mem_cons.mp own with rfl | later
    · simp [member]
    · simp [ih later]

/-- What is written for a field is in the document. -/
theorem mem_dumpWritten {fields : List (List Char × PyText)} {field : List Char × PyText} {code : CodePoint}
    (own : field ∈ fields) (member : code ∈ field.2) : code ∈ dumpWritten fields := by
  cases fields with
  | nil => cases own
  | cons first fields =>
    obtain ⟨name, value⟩ := first
    rw [dumpWritten]
    rcases List.mem_cons.mp own with rfl | later
    · simp [member]
    · simp [mem_dumpWrittenFields later member]

/-! ## Records -/

/-- The arguments of an attempt record whose fingerprints are any texts; those of `fields`
are not looked at. -/
structure RawAttempt where
  fields : AttemptFields
  beforeWorkspaceFingerprint : Option PyText
  afterWorkspaceFingerprint : Option PyText

namespace RawAttempt

variable (reader : AttemptReader) (reprFloat : Rat → List Char) (raw : RawAttempt)

/-- The constructor of `AttemptRecord`; `_validate_nullable_string` refuses no text. -/
def construct : Except Raised Unit := (constructAttempt reader raw.fields).map fun _ => ()

/-- The fields with these texts as fingerprints. -/
def withFingerprints (before after : Option String) : AttemptFields :=
  { raw.fields with beforeWorkspaceFingerprint := before, afterWorkspaceFingerprint := after }

/-- A field of `to_dict`, as `json.dump` writes it. -/
def writeField (field : String × Json) : List Char × PyText :=
  if field.1 = "before_workspace_fingerprint" then (field.1.toList, dumpText raw.beforeWorkspaceFingerprint)
  else if field.1 = "after_workspace_fingerprint" then (field.1.toList, dumpText raw.afterWorkspaceFingerprint)
  else writtenField (field.1.toList, (field.2.sorted).toValue reprFloat)

/-- The text of `attempt.json`. -/
def text : PyText :=
  dumpWritten ((raw.fields.toDict.map (raw.writeField reprFloat)).insertionSort fun left right =>
    KeyOrder left.1 right.1) ++ [.char '\n']

/-- `atomic_write_json` of the record: the content of the file. -/
def write (path : String) : Except Raised (List UInt8) :=
  (raw.text reprFloat).encode.mapError (writeFailure "JSON" path)

variable {reader reprFloat raw}

/-- Whether a record is admitted does not depend on its fingerprints. -/
theorem construct_ok {before after : Option String} :
    raw.construct reader = .ok () ↔ ∃ record, constructAttempt reader (raw.withFingerprints before after) = .ok record := by
  unfold construct
  constructor
  · intro constructed
    obtain ⟨⟨fields, valid⟩, done, _⟩ := map_ok_iff.mp constructed
    obtain ⟨rfl, admitted⟩ := constructAttempt_ok.mp done
    exact ⟨⟨raw.withFingerprints before after, valid⟩,
      constructAttempt_ok.mpr ⟨rfl, admitted.startedAt, admitted.endedAt, admitted.digits⟩⟩
  · rintro ⟨⟨fields, valid⟩, done⟩
    obtain ⟨rfl, admitted⟩ := constructAttempt_ok.mp done
    refine map_ok_iff.mpr ⟨⟨raw.fields, valid⟩, ?_, rfl⟩
    exact constructAttempt_ok.mpr ⟨rfl, admitted.startedAt, admitted.endedAt, admitted.digits⟩

theorem dumpText_nullable (reprFloat : Rat → List Char) (value : Option String) :
    dumpText (value.map fun text => PyText.ofChars text.toList) =
      PyText.ofChars (dump 1 ((nullable value).sorted.toValue reprFloat)) := by
  cases value with
  | none =>
    show _ = PyText.ofChars (dump 1 .null)
    rw [dump]
    rfl
  | some text => exact dumpText_ofChars text.toList

theorem writeField_other {field : String × Json} (before : field.1 ≠ "before_workspace_fingerprint")
    (after : field.1 ≠ "after_workspace_fingerprint") :
    raw.writeField reprFloat field = writtenField (field.1.toList, field.2.sorted.toValue reprFloat) := by
  rw [writeField, if_neg before, if_neg after]

theorem writeField_before (value : Json) : raw.writeField reprFloat ("before_workspace_fingerprint", value) =
    ("before_workspace_fingerprint".toList, dumpText raw.beforeWorkspaceFingerprint) := if_pos rfl

theorem writeField_after (value : Json) : raw.writeField reprFloat ("after_workspace_fingerprint", value) =
    ("after_workspace_fingerprint".toList, dumpText raw.afterWorkspaceFingerprint) := by
  rw [writeField, if_neg (by decide : ¬ "after_workspace_fingerprint" = "before_workspace_fingerprint")]
  exact if_pos rfl

/-- Without surrogates the fields are written as those of the record. -/
theorem map_writeField {before after : Option String}
    (own : raw.beforeWorkspaceFingerprint = before.map fun text => PyText.ofChars text.toList)
    (other : raw.afterWorkspaceFingerprint = after.map fun text => PyText.ofChars text.toList) :
    raw.fields.toDict.map (raw.writeField reprFloat) =
      ((raw.withFingerprints before after).toDict.map fun field =>
        (field.1.toList, field.2.sorted.toValue reprFloat)).map writtenField := by
  simp only [AttemptFields.toDict, List.map_cons, List.map_nil]
  rw [writeField_before, writeField_after, own, other, dumpText_nullable reprFloat,
    dumpText_nullable reprFloat]
  simp (disch := decide) only [writeField_other]
  rfl

/-- Without surrogates the file is that of the record. -/
theorem text_plain {before after : Option String}
    (own : raw.beforeWorkspaceFingerprint = before.map fun text => PyText.ofChars text.toList)
    (other : raw.afterWorkspaceFingerprint = after.map fun text => PyText.ofChars text.toList) :
    raw.text reprFloat = PyText.ofChars (dumpJson reprFloat (.obj (raw.withFingerprints before after).toDict)) := by
  have moved (fields : List (String × Json)) :
      ((fields.map fun field => (field.1.toList, field.2.sorted.toValue reprFloat)).map writtenField).insertionSort
          (fun left right => KeyOrder left.1 right.1) =
        ((fields.map fun field => (field.1.toList, field.2.sorted.toValue reprFloat)).insertionSort
          fun left right => KeyOrder left.1 right.1).map writtenField :=
    (List.map_insertionSort (fun left right => KeyOrder left.1 right.1) (fun left right => KeyOrder left.1 right.1)
      writtenField _ fun _ _ _ _ => Iff.rfl).symm
  have sorted (fields : List (String × Json)) : sortFields (fieldValues reprFloat fields) =
      fields.map fun field => (field.1.toList, field.2.sorted.toValue reprFloat) := by
    rw [sortFields_fieldValues, fieldValues_map]
    induction fields with
    | nil => rfl
    | cons field fields ih =>
      rw [sortedFields, List.map_cons, List.map_cons, ih]
  rw [text, map_writeField own other, moved, dumpWritten_map, dumpJson, PyText.ofChars_append, Json.toValue, sortKeys,
    sorted]
  rfl

/-- A fingerprint without lone surrogates is a Lean text. -/
theorem fingerprint_plain {value : Option PyText} :
    (∃ text : Option String, value = text.map fun text => PyText.ofChars text.toList) ↔ ∀ text ∈ value, text.Plain := by
  constructor
  · rintro ⟨_ | text, rfl⟩ found own
    · cases own
    · cases own
      exact PyText.plain_ofChars text.toList
  · intro plain
    cases value with
    | none => exact ⟨none, rfl⟩
    | some text =>
      obtain ⟨chars, rfl⟩ := PyText.plain_iff.mp (plain text rfl)
      exact ⟨some (String.ofList chars), by rw [Option.map_some, String.toList_ofList]⟩

/-- A surrogate of a fingerprint is in the text of the file. -/
theorem mem_text {value : Option PyText} {text : PyText} {offset : Fin 2048}
    (own : value = raw.beforeWorkspaceFingerprint ∨ value = raw.afterWorkspaceFingerprint) (present : value = some text)
    (member : .surrogate offset ∈ text) : .surrogate offset ∈ raw.text reprFloat := by
  have written : ∃ field ∈ raw.fields.toDict.map (raw.writeField reprFloat), field.2 = dumpText value := by
    rcases own with rfl | rfl
    · refine ⟨_, List.mem_map.mpr ⟨_, ?_, writeField_before (nullable raw.fields.beforeWorkspaceFingerprint)⟩, rfl⟩
      simp [AttemptFields.toDict]
    · refine ⟨_, List.mem_map.mpr ⟨_, ?_, writeField_after (nullable raw.fields.afterWorkspaceFingerprint)⟩, rfl⟩
      simp [AttemptFields.toDict]
  obtain ⟨field, own, same⟩ := written
  refine List.mem_append_left _ (mem_dumpWritten ((List.mem_insertionSort _).mpr own) ?_)
  rw [same, present]
  exact mem_dumpText member

/-- **Which records are written.** Those whose fingerprints are texts that UTF-8 encodes,
and their file is that of the round trip. -/
theorem write_ok {path : String} {bytes : List UInt8} :
    raw.write reprFloat path = .ok bytes ↔ ∃ before after : Option String,
      raw.beforeWorkspaceFingerprint = (before.map fun text => PyText.ofChars text.toList) ∧
      raw.afterWorkspaceFingerprint = (after.map fun text => PyText.ofChars text.toList) ∧
      bytes = Utf8.encode (dumpJson reprFloat (.obj (raw.withFingerprints before after).toDict)) := by
  unfold write
  constructor
  · intro written
    have encoded : (raw.text reprFloat).encode = .ok bytes := by
      cases done : (raw.text reprFloat).encode with
      | ok own =>
        rw [done] at written
        exact written
      | error error =>
        rw [done] at written
        cases written
    have plain := PyText.encode_ok.mp ⟨bytes, encoded⟩
    obtain ⟨before, own⟩ := fingerprint_plain.mpr fun text (found : raw.beforeWorkspaceFingerprint = some text) offset
      member => plain offset (mem_text (.inl rfl) found member)
    obtain ⟨after, other⟩ := fingerprint_plain.mpr fun text (found : raw.afterWorkspaceFingerprint = some text) offset
      member => plain offset (mem_text (.inr rfl) found member)
    rw [text_plain own other, PyText.encode_ofChars, Except.ok.injEq] at encoded
    exact ⟨before, after, own, other, encoded.symm⟩
  · rintro ⟨before, after, own, other, content⟩
    rw [text_plain own other, PyText.encode_ofChars, content, Except.mapError]

end RawAttempt

/-- A review that has just begun over a workspace whose fingerprint is one lone surrogate. -/
def surrogateReview : RawAttempt := ⟨begunReview, some [.surrogate 0], none⟩

/-- The constructor admits that record, and it is not written. -/
theorem surrogateReview_unwritten :
    surrogateReview.construct exampleReader = .ok () ∧
      surrogateReview.write (fun _ => []) "runs/r1/attempts/003-review/attempt.json" =
        .error (writeFailure "JSON" "runs/r1/attempts/003-review/attempt.json" surrogatesNotAllowed) := by
  have admitted : constructAttempt exampleReader begunReview = .ok ⟨begunReview, by decide⟩ := by rfl
  refine ⟨map_ok_iff.mpr ⟨_, admitted, rfl⟩, ?_⟩
  have inside : .surrogate 0 ∈ surrogateReview.text fun _ => [] :=
    RawAttempt.mem_text (.inl rfl) rfl (List.mem_singleton_self _)
  rw [RawAttempt.write, PyText.encode_surrogate inside]
  rfl

end SprintTicket
