import SprintTicket.Audit
import SprintTicket.Logic.JsonDump
import SprintTicket.RunDirectory

/-!
# Reading JSON files

`read_json` decodes a file as UTF-8, hands the text to `json.loads` and walks over
the value for numbers that are not finite. It turns an `OSError` and a
`JSONDecodeError` into a `CodecError`; what else the three steps raise escapes:
`readJsonFile_contained_iff`.
-/

set_option autoImplicit false

namespace SprintTicket

open Checks JsonSyntax Utf8

/-- The limits of the interpreter: those of `json.loads`, the calls that are left
to Python code, and `float`, which is `none` where the result is not finite. -/
structure Interpreter where
  limits : Limits
  frames : Nat
  readFloat : List Char → Option Rat

def undecodable : Raised := ⟨.unicodeDecodeError, "'utf-8' codec can't decode the bytes"⟩

/-- `source.read_text(encoding="utf-8")`. -/
def readText (content : Except Raised (List UInt8)) : Except Raised (List Char) := do
  let bytes ← content
  if encode (decode bytes) = bytes then .ok (normalizeNewlines (decode bytes))
  else .error undecodable

def recursionError : Raised := ⟨.recursionError, "maximum recursion depth exceeded"⟩

/-- What `json.loads` raises. -/
def loadsError : Failure → Raised
  | .malformed => ⟨.jsonDecodeError, "Expecting value"⟩
  | .overlong => ⟨.valueError, "Exceeds the limit for integer string conversion"⟩
  | .tooDeep => recursionError
  -- not reached: `loads_not_exhausted`
  | .exhausted => recursionError

mutual

/-- `_require_json_value`; `frames` are the calls that are left. -/
def requireJsonValue (python : Interpreter) (source : String) : Nat → Value → Except Raised Json
  | 0, _ => .error recursionError
  | _ + 1, .null => .ok .null
  | _ + 1, .bool value => .ok (.bool value)
  | _ + 1, .int value => .ok (.int value)
  | _ + 1, .real literal =>
    match python.readFloat literal with
    | some value => .ok (.float value)
    | none => .error ⟨.codecError, source ++ " contains a non-finite JSON number."⟩
  | _ + 1, .str text => .ok (.str (String.ofList text))
  | frames + 1, .arr items => do
    let items ← requireJsonItems python source frames items
    .ok (.arr items)
  | frames + 1, .obj fields => do
    let fields ← requireJsonFields python source frames fields
    .ok (.obj fields)

def requireJsonItems (python : Interpreter) (source : String) (frames : Nat) : List Value → Except Raised (List Json)
  | [] => .ok []
  | item :: items => do
    let item ← requireJsonValue python source frames item
    let items ← requireJsonItems python source frames items
    .ok (item :: items)

def requireJsonFields (python : Interpreter) (source : String) (frames : Nat) :
    List (List Char × Value) → Except Raised (List (String × Json))
  | [] => .ok []
  | (name, value) :: fields => do
    let value ← requireJsonValue python source frames value
    let fields ← requireJsonFields python source frames fields
    .ok ((String.ofList name, value) :: fields)

end

def unreadable (source : String) (error : Raised) : Raised :=
  ⟨.codecError, "Could not read JSON " ++ source ++ ": " ++ error.message⟩

/-- `read_json` of a file with this path and content. -/
def readJsonFile (python : Interpreter) (source : String) (content : Except Raised (List UInt8)) :
    Except Raised Json := do
  let value ← reraiseAny [.osError, .jsonDecodeError]
    (unreadable source)
    (do
      let text ← readText content
      (loads python.limits text).mapError loadsError)
  requireJsonValue python source python.frames value

/-- `read_json_object`. -/
def readJsonObjectFile (python : Interpreter) (source : String) (content : Except Raised (List UInt8)) :
    Except Raised (List (String × Json)) := do
  match ← readJsonFile python source content with
  | .obj fields => .ok fields
  | _ => .error ⟨.codecError, "JSON record must be an object: " ++ source⟩

inductive Trouble
  | nonFinite | tooDeep
deriving DecidableEq

mutual

/-- The numbers that are not finite and the values below the last frame, in the
order of the document. -/
def troubles (python : Interpreter) : Nat → Value → List Trouble
  | 0, _ => [.tooDeep]
  | _ + 1, .real literal => if python.readFloat literal = none then [.nonFinite] else []
  | frames + 1, .arr items => itemTroubles python frames items
  | frames + 1, .obj fields => fieldTroubles python frames fields
  | _ + 1, _ => []

def itemTroubles (python : Interpreter) (frames : Nat) : List Value → List Trouble
  | [] => []
  | item :: items => troubles python frames item ++ itemTroubles python frames items

def fieldTroubles (python : Interpreter) (frames : Nat) : List (List Char × Value) → List Trouble
  | [] => []
  | (_, value) :: fields => troubles python frames value ++ fieldTroubles python frames fields

end

def troubleError (source : String) : Trouble → Raised
  | .nonFinite => ⟨.codecError, source ++ " contains a non-finite JSON number."⟩
  | .tooDeep => recursionError

/-- The walk ends at the first trouble. -/
def Stops {α : Type} (source : String) (found : List Trouble) (walked : Except Raised α) : Prop :=
  match found.head? with
  | none => ∃ value, walked = .ok value
  | some trouble => walked = .error (troubleError source trouble)

theorem Stops.ok {α : Type} {source : String} (value : α) : Stops source [] (.ok value) := ⟨value, rfl⟩

theorem Stops.map {α β : Type} {source : String} {found : List Trouble} {walked : Except Raised α} {result : α → β}
    (stopped : Stops source found walked) : Stops source found (do
      let a ← walked
      .ok (result a)) := by
  unfold Stops at stopped ⊢
  split at stopped
  · obtain ⟨value, walked⟩ := stopped
    exact ⟨result value, by rw [walked]; rfl⟩
  · rw [stopped]
    rfl

/-- The first trouble on the way is the one that is raised. -/
theorem Stops.sequence {α β γ : Type} {source : String} {first second : List Trouble} {walked : Except Raised α}
    {next : Except Raised β} {result : α → β → γ} (stopped : Stops source first walked)
    (later : Stops source second next) :
    Stops source (first ++ second) (do
      let a ← walked
      let b ← next
      .ok (result a b)) := by
  cases first with
  | nil =>
    obtain ⟨value, walked⟩ := stopped
    rw [walked]
    exact later.map
  | cons trouble first =>
    have failed : walked = .error (troubleError source trouble) := stopped
    show _ = _
    rw [failed]
    rfl

mutual

/-- The walk over a value stops at its first trouble, in the order of the code. -/
theorem requireJsonValue_stops (python : Interpreter) (source : String) : ∀ (frames : Nat) (value : Value),
    Stops source (troubles python frames value) (requireJsonValue python source frames value)
  | 0, _ => by rw [troubles, requireJsonValue]; rfl
  | _ + 1, .null => .ok _
  | _ + 1, .bool _ => .ok _
  | _ + 1, .int _ => .ok _
  | _ + 1, .str _ => .ok _
  | _ + 1, .real literal => by
    rw [troubles, requireJsonValue]
    cases python.readFloat literal with
    | none => rfl
    | some value => exact .ok _
  | frames + 1, .arr items => by
    rw [troubles, requireJsonValue]
    exact (requireJsonItems_stops python source frames items).map
  | frames + 1, .obj fields => by
    rw [troubles, requireJsonValue]
    exact (requireJsonFields_stops python source frames fields).map

theorem requireJsonItems_stops (python : Interpreter) (source : String) (frames : Nat) : ∀ (items : List Value),
    Stops source (itemTroubles python frames items) (requireJsonItems python source frames items)
  | [] => .ok _
  | item :: items =>
    (requireJsonValue_stops python source frames item).sequence (requireJsonItems_stops python source frames items)

theorem requireJsonFields_stops (python : Interpreter) (source : String) (frames : Nat) :
    ∀ (fields : List (List Char × Value)),
      Stops source (fieldTroubles python frames fields) (requireJsonFields python source frames fields)
  | [] => .ok _
  | (_, value) :: fields =>
    (requireJsonValue_stops python source frames value).sequence
      (requireJsonFields_stops python source frames fields)

end

/-! ## What escapes -/

/-- The reader returns or raises a `CodecError`. -/
def Contained {α : Type} (result : Except Raised α) : Prop :=
  ∀ error, result = .error error → error.isinstance .codecError = true

/-- The bytes are UTF-8; `json.loads` finds the text malformed, or takes it and the
walk does not run out of calls before it finds a number that is not finite. -/
def ReadableJson (python : Interpreter) (bytes : List UInt8) : Prop :=
  ∃ text, bytes = encode text ∧
    match loads python.limits (normalizeNewlines text) with
    | .error failure => failure = .malformed
    | .ok value => (troubles python python.frames value).head? ≠ some .tooDeep

/-- What becomes of a failure of `json.loads`. -/
def reportedFailure (source : String) : Failure → Raised
  | .malformed => unreadable source (loadsError .malformed)
  | failure => loadsError failure

/-- The reader of a file that is UTF-8. -/
theorem readJsonFile_encode (python : Interpreter) (source : String) (text : List Char) :
    readJsonFile python source (.ok (encode text)) =
      match loads python.limits (normalizeNewlines text) with
      | .ok value => requireJsonValue python source python.frames value
      | .error failure => .error (reportedFailure source failure) := by
  have read : readText (.ok (encode text)) = .ok (normalizeNewlines text) := by
    simp [readText, bind, Except.bind, decode_encode]
  rw [readJsonFile, ok_bind read]
  cases loads python.limits (normalizeNewlines text) with
  | ok value => rfl
  | error failure => cases failure <;> rfl

/-- The reader of any other file. -/
theorem readJsonFile_undecodable {bytes : List UInt8} (python : Interpreter) (source : String)
    (invalid : ¬ Valid bytes) : readJsonFile python source (.ok bytes) = .error undecodable := by
  have read : readText (.ok bytes) = .error undecodable := by
    rw [valid_iff] at invalid
    simp [readText, bind, Except.bind, invalid]
  rw [readJsonFile, read]
  rfl

/-- A file fails by a `CodecError` alone exactly when its content is readable. -/
theorem readJsonFile_contained_iff {python : Interpreter} {source : String} {bytes : List UInt8} :
    Contained (readJsonFile python source (.ok bytes)) ↔ ReadableJson python bytes := by
  by_cases valid : Valid bytes
  case neg =>
    constructor
    · intro contained
      exact absurd (contained undecodable (readJsonFile_undecodable python source valid)) (by decide)
    · rintro ⟨text, same, -⟩
      exact absurd ⟨text, same⟩ valid
  obtain ⟨text, rfl⟩ := valid
  have unique : ReadableJson python (encode text) ↔
      match loads python.limits (normalizeNewlines text) with
      | .error failure => failure = .malformed
      | .ok value => (troubles python python.frames value).head? ≠ some .tooDeep := by
    constructor
    · rintro ⟨other, same, readable⟩
      rw [encode_injective same]
      exact readable
    · exact fun readable => ⟨text, rfl, readable⟩
  rw [unique, readJsonFile_encode]
  cases loads python.limits (normalizeNewlines text) with
  | error failure =>
    cases failure <;> simp [Contained, reportedFailure, unreadable, loadsError, recursionError, Raised.isinstance,
      ExceptionClass.bases]
  | ok value =>
    have stops := requireJsonValue_stops python source python.frames value
    unfold Stops at stops
    dsimp only
    cases found : (troubles python python.frames value).head? with
    | none =>
      rw [found] at stops
      obtain ⟨result, walked⟩ := stops
      simp [Contained, walked]
    | some trouble =>
      rw [found] at stops
      cases trouble <;> simp [Contained, stops, troubleError, recursionError, Raised.isinstance, ExceptionClass.bases]

end SprintTicket
