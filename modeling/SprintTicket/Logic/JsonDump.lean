import Mathlib.Data.Char
import Mathlib.Data.List.Lex
import Mathlib.Data.List.Sort
import SprintTicket.Logic.JsonSyntax

/-!
# Writing JSON documents

`dump` writes a value with an indentation of two, every item and field on a line
of its own. What it writes is read back: `loads_dump`, for values without
literals (`Fits`).
-/

set_option autoImplicit false

namespace JsonSyntax

open Canonical Checks

def hexDigit (n : Nat) : Char := if n < 10 then Char.ofNat (48 + n) else Char.ofNat (87 + n)

def writtenEscapes : List (Char × Char) :=
  [('"', '"'), ('\\', '\\'), ('\x08', 'b'), ('\x0c', 'f'), ('\n', 'n'), ('\r', 'r'), ('\t', 't')]

/-- A character of a string; all but control characters stand for themselves. -/
def escapeChar (c : Char) : List Char :=
  match writtenEscapes.lookup c with
  | some letter => ['\\', letter]
  | none => if c < ' ' then ['\\', 'u', '0', '0', hexDigit (c.toNat / 16), hexDigit (c.toNat % 16)] else [c]

def dumpString (text : List Char) : List Char := '"' :: (text.flatMap escapeChar ++ ['"'])

def dumpInt (n : Int) : List Char :=
  if n < 0 then '-' :: Nat.toDigits 10 n.natAbs else Nat.toDigits 10 n.natAbs

/-- A new line at a level. -/
def newline (level : Nat) : List Char := '\n' :: List.replicate (2 * level) ' '

mutual

/-- `json.dumps(value, indent=2, ensure_ascii=False)` at a level. -/
def dump (level : Nat) : Value → List Char
  | .null => "null".toList
  | .bool true => "true".toList
  | .bool false => "false".toList
  | .int n => dumpInt n
  | .real literal => literal
  | .str text => dumpString text
  | .arr [] => ['[', ']']
  | .arr (item :: items) =>
    '[' :: (newline (level + 1) ++ dump (level + 1) item ++ dumpItems (level + 1) items ++ newline level ++ [']'])
  | .obj [] => ['{', '}']
  | .obj ((name, value) :: fields) =>
    '{' :: (newline (level + 1) ++ dumpString name ++ [':', ' '] ++ dump (level + 1) value ++
      dumpFields (level + 1) fields ++ newline level ++ ['}'])

/-- The items after the first. -/
def dumpItems (level : Nat) : List Value → List Char
  | [] => []
  | item :: items => ',' :: (newline level ++ dump level item ++ dumpItems level items)

/-- The fields after the first. -/
def dumpFields (level : Nat) : List (List Char × Value) → List Char
  | [] => []
  | (name, value) :: fields =>
    ',' :: (newline level ++ dumpString name ++ [':', ' '] ++ dump level value ++ dumpFields level fields)

end

mutual

/-- A value with no literal, no name twice in an object, and within the limits. -/
def Fits (maxDigits : Nat) : Nat → Value → Prop
  | _, .null | _, .bool _ | _, .str _ => True
  | _, .int n => (Nat.toDigits 10 n.natAbs).length ≤ maxDigits
  | _, .real _ => False
  | 0, .arr _ => False
  | depth + 1, .arr items => FitsItems maxDigits depth items
  | 0, .obj _ => False
  | depth + 1, .obj fields => (fields.map Prod.fst).Nodup ∧ FitsFields maxDigits depth fields

def FitsItems (maxDigits depth : Nat) : List Value → Prop
  | [] => True
  | item :: items => Fits maxDigits depth item ∧ FitsItems maxDigits depth items

def FitsFields (maxDigits depth : Nat) : List (List Char × Value) → Prop
  | [] => True
  | (_, value) :: fields => Fits maxDigits depth value ∧ FitsFields maxDigits depth fields

end

/-- The letter of an escape is read as the character it was written for. -/
theorem lookup_written {c letter : Char} (h : writtenEscapes.lookup c = some letter) :
    letter ≠ 'u' ∧ simpleEscapes.lookup letter = some c := by
  have member : (c, letter) ∈ writtenEscapes := by
    obtain ⟨before, after, split, -⟩ := List.lookup_eq_some_iff.mp h
    rw [split]
    exact List.mem_append_right _ List.mem_cons_self
  simp only [writtenEscapes, List.mem_cons, Prod.mk.injEq, List.not_mem_nil, or_false] at member
  rcases member with ⟨rfl, rfl⟩ | ⟨rfl, rfl⟩ | ⟨rfl, rfl⟩ | ⟨rfl, rfl⟩ | ⟨rfl, rfl⟩ | ⟨rfl, rfl⟩ | ⟨rfl, rfl⟩ <;> decide

theorem hexValue_hexDigit {n : Nat} (small : n < 16) : hexValue (hexDigit n) = some n := by
  have all : ∀ n < 16, hexValue (hexDigit n) = some n := by decide
  exact all n small

/-- The escape of a control character names its code. -/
theorem hexCode_control {c : Char} (control : c < ' ') :
    hexCode '0' '0' (hexDigit (c.toNat / 16)) (hexDigit (c.toNat % 16)) = some c.toNat := by
  have small : c.toNat < 32 := control
  rw [hexCode, hexValue_hexDigit (by omega), hexValue_hexDigit (by omega)]
  have zero : hexValue '0' = some 0 := by decide
  simp only [zero, Option.bind_eq_bind, Option.bind_some, Option.some.injEq]
  omega

theorem scanString_quote (rest : List Char) : scanString ('"' :: rest) = .ok ([], rest) := by
  rw [scanString.eq_def]
  exact if_pos rfl

theorem scanString_plain {c : Char} (quote : c ≠ '"') (escape : c ≠ '\\') (printed : ¬ c < ' ') (rest : List Char) :
    scanString (c :: rest) = push c.toNat (scanString rest) := by
  rw [scanString.eq_def]
  dsimp only
  rw [if_neg quote, if_neg escape, if_neg printed]

theorem scanString_escape {letter c : Char} (simple : letter ≠ 'u') (known : simpleEscapes.lookup letter = some c)
    (rest : List Char) : scanString ('\\' :: letter :: rest) = push c.toNat (scanString rest) := by
  have quote : ¬ '\\' = '"' := by decide
  rw [scanString, if_neg quote, if_pos rfl]
  · simp only [known]
  · intro _ _ _ _ _ same
    exact absurd same simple

theorem scanString_unicode {a b c d : Char} {code : Nat} (known : hexCode a b c d = some code) (rest : List Char) :
    scanString ('\\' :: 'u' :: a :: b :: c :: d :: rest) = push code (scanString rest) := by
  have quote : ¬ '\\' = '"' := by decide
  rw [scanString, if_neg quote, if_pos rfl]
  simp only [known]

/-- Every escaped character is read back as its code. -/
theorem scanString_escapeChar (c : Char) (rest : List Char) :
    scanString (escapeChar c ++ rest) = push c.toNat (scanString rest) := by
  unfold escapeChar
  split
  · rename_i letter found
    obtain ⟨simple, known⟩ := lookup_written found
    exact scanString_escape simple known rest
  · rename_i plain
    split
    · rename_i control
      exact scanString_unicode (hexCode_control control) rest
    · rename_i printed
      have different (other : Char) (escaped : other ∈ writtenEscapes.map Prod.fst) : c ≠ other := by
        intro same
        obtain ⟨pair, member, name⟩ := List.mem_map.mp escaped
        have unequal := List.lookup_eq_none_iff.mp plain pair member
        simp [same, name] at unequal
      exact scanString_plain (different '"' (by decide)) (different '\\' (by decide)) printed rest

theorem scanString_dump (text rest : List Char) :
    scanString (text.flatMap escapeChar ++ '"' :: rest) = .ok (text.map Char.toNat, rest) := by
  induction text with
  | nil => exact scanString_quote rest
  | cons c text ih =>
    rw [List.flatMap_cons, List.append_assoc, scanString_escapeChar, ih]
    rfl

/-- A character is the one its own code stands for. -/
theorem codeChar_toNat (c : Char) : codeChar c.toNat = c := by
  have valid : c.toNat.isValidChar := c.valid
  rw [codeChar, if_pos valid, Char.ofNat_toNat]

/-- A text has no surrogates to join. -/
theorem joinSurrogates_text (text : List Char) : joinSurrogates (text.map Char.toNat) = text := by
  induction text with
  | nil => rfl
  | cons c text ih =>
    cases text with
    | nil => simp [joinSurrogates, codeChar_toNat]
    | cons next text =>
      have scalar : ¬ (0xD800 ≤ c.toNat ∧ c.toNat < 0xDC00) := by
        have valid : c.toNat.isValidChar := c.valid
        unfold Nat.isValidChar at valid
        omega
      rw [List.map_cons, List.map_cons, joinSurrogates, if_neg fun both => scalar both.1, codeChar_toNat]
      exact congrArg (c :: ·) ih

/-- What follows a number does not go on with it. -/
def EndsNumber (rest : List Char) : Prop := ∀ c ∈ rest.head?, c.isDigit = false ∧ c ≠ '.' ∧ c ≠ 'e' ∧ c ≠ 'E'

/-- Only zero is written with a zero in front. -/
theorem toDigits_zero_head {n : Nat} (zero : (Nat.toDigits 10 n).head? = some '0') : n = 0 := by
  induction n using Nat.strongRecOn with
  | _ n ih =>
    rw [Nat.toDigits_eq_if (by decide)] at zero
    split at zero
    · simpa using zero
    · rename_i large
      rw [List.head?_append, Option.or_eq_some_iff] at zero
      rcases zero with zero | ⟨none, _⟩
      · have quotient := ih (n / 10) (by omega) zero
        omega
      · exact absurd (List.head?_eq_none_iff.mp none) Nat.toDigits_ne_nil

theorem span_digits {digits rest : List Char} (all : ∀ c ∈ digits, c.isDigit = true)
    (ends : ∀ c ∈ rest.head?, c.isDigit = false) : (digits ++ rest).span Char.isDigit = (digits, rest) := by
  induction digits with
  | nil =>
    rw [List.nil_append, List.span_eq_takeWhile_dropWhile]
    cases rest with
    | nil => rfl
    | cons c rest =>
      have stop := ends c rfl
      simp [stop]
  | cons digit digits ih =>
    have first := all digit List.mem_cons_self
    have others := ih fun c member => all c (List.mem_cons_of_mem _ member)
    rw [List.span_eq_takeWhile_dropWhile, Prod.mk.injEq] at others ⊢
    simp [first, others]

/-- Nothing that ends a number starts its fraction or its exponent. -/
theorem EndsNumber.fraction {rest : List Char} (ends : EndsNumber rest) : scanFraction rest = ([], rest) := by
  unfold scanFraction
  split
  · exact absurd rfl (ends '.' rfl).2.1
  · rfl

theorem EndsNumber.exponent {rest : List Char} (ends : EndsNumber rest) : scanExponent rest = ([], rest) := by
  unfold scanExponent
  split
  · rename_i mark sign rest
    obtain ⟨-, -, small, capital⟩ := ends mark rfl
    rw [if_neg (not_or.mpr ⟨small, capital⟩)]
  · rfl

/-- The digits of a number within the limit are read back. -/
theorem scanUnsigned_dump {maxDigits n : Nat} (fits : (Nat.toDigits 10 n).length ≤ maxDigits) (negative : Bool)
    {rest : List Char} (ends : EndsNumber rest) :
    scanUnsigned maxDigits negative (Nat.toDigits 10 n ++ rest) =
      .ok (.int (if negative then -(n : Int) else n), rest) := by
  have all (c : Char) (member : c ∈ Nat.toDigits 10 n) : c.isDigit = true :=
    Nat.isDigit_of_mem_toDigits (by decide) (by decide) member
  have value := Nat.ofDigitChars_ten_toDigits (n := n)
  have zero := toDigits_zero_head (n := n)
  cases digits : Nat.toDigits 10 n with
  | nil => exact absurd digits Nat.toDigits_ne_nil
  | cons first more =>
    rw [digits] at all value fits zero
    have integer : (if first = '0' then ([], more ++ rest) else (more ++ rest).span Char.isDigit) = (more, rest) := by
      split
      · rename_i same
        have none : n = 0 := zero (by rw [same]; rfl)
        rw [none, Nat.toDigits_zero, List.cons.injEq] at digits
        rw [← digits.2]
        rfl
      · exact span_digits (fun c member => all c (List.mem_cons_of_mem _ member)) fun c member => (ends c member).1
    rw [List.cons_append, scanUnsigned, if_pos (all first List.mem_cons_self), integer]
    simp only [ends.fraction, ends.exponent, value, Nat.not_lt.mpr fits, and_self, if_true, if_false]

/-! ## Values -/

theorem endsNumber_comma (rest : List Char) : EndsNumber (',' :: rest) := by
  intro c head
  cases head
  decide

theorem endsNumber_newline (level : Nat) (rest : List Char) : EndsNumber (newline level ++ rest) := by
  intro c head
  cases head
  decide

theorem skipSpace_newline (level : Nat) (text : List Char) : skipSpace (newline level ++ text) = skipSpace text := by
  refine List.dropWhile_append_of_pos fun c member => ?_
  rcases List.mem_cons.mp member with rfl | space
  · rfl
  · rw [List.eq_of_mem_replicate space]
    rfl

theorem skipSpace_cons {c : Char} (printed : isSpace c = false) (text : List Char) :
    skipSpace (c :: text) = c :: text := by
  simp [skipSpace, printed]

/-- A number starts with a digit. -/
theorem toDigits_cons (n : Nat) : ∃ c more, Nat.toDigits 10 n = c :: more ∧ c.isDigit = true := by
  cases digits : Nat.toDigits 10 n with
  | nil => exact absurd digits Nat.toDigits_ne_nil
  | cons c more =>
    exact ⟨c, more, rfl, Nat.isDigit_of_mem_toDigits (by decide) (by decide) (digits ▸ List.mem_cons_self)⟩

theorem digit_ne {c other : Char} (digit : c.isDigit = true) (letter : other.isDigit = false) : c ≠ other := by
  rintro rfl
  rw [digit] at letter
  cases letter

/-- The first character of a value: no space, no byte order mark, and it closes nothing. -/
def Opens (c : Char) : Prop := isSpace c = false ∧ c ≠ '\uFEFF' ∧ c ≠ ']' ∧ c ≠ '}'

instance {c : Char} : Decidable (Opens c) := inferInstanceAs (Decidable (_ ∧ _))

/-- The dump of a value starts with a character a value may open with. -/
theorem dump_head {maxDigits depth : Nat} {value : Value} (fits : Fits maxDigits depth value) (level : Nat) :
    ∃ c more, dump level value = c :: more ∧ Opens c := by
  have number (n : Nat) : ∃ c more, Nat.toDigits 10 n = c :: more ∧ Opens c := by
    obtain ⟨c, more, digits, digit⟩ := toDigits_cons n
    have different (other : Char) (letter : other.isDigit = false) := digit_ne digit letter
    refine ⟨c, more, digits, ?_, different '\uFEFF' (by decide), different ']' (by decide), different '}' (by decide)⟩
    simp [isSpace, different ' ' (by decide), different '\t' (by decide), different '\n' (by decide),
      different '\r' (by decide)]
  cases value with
  | null => exact ⟨'n', ['u', 'l', 'l'], by simp [dump], by decide⟩
  | bool b =>
    cases b with
    | true => exact ⟨'t', ['r', 'u', 'e'], by simp [dump], by decide⟩
    | false => exact ⟨'f', ['a', 'l', 's', 'e'], by simp [dump], by decide⟩
  | int n =>
    rw [dump, dumpInt]
    split
    · exact ⟨'-', _, rfl, by decide⟩
    · exact number n.natAbs
  | real => exact absurd fits (by simp [Fits])
  | str => exact ⟨'"', _, by rw [dump, dumpString], by decide⟩
  | arr items => cases items <;> exact ⟨'[', _, by rw [dump], by decide⟩
  | obj fields =>
    rcases fields with _ | ⟨⟨name, value⟩, fields⟩ <;> exact ⟨'\x7b', _, by rw [dump], by decide⟩

theorem dumpInt_cons (n : Int) : ∃ c more, dumpInt n = c :: more ∧ c ≠ '"' ∧ c ≠ '\x7b' ∧ c ≠ '[' := by
  rw [dumpInt]
  split
  · exact ⟨'-', _, rfl, by decide⟩
  · obtain ⟨c, more, digits, digit⟩ := toDigits_cons n.natAbs
    exact ⟨c, more, digits, digit_ne digit (by decide), digit_ne digit (by decide), digit_ne digit (by decide)⟩

/-- A number is not taken for a constant. -/
theorem scanConstant_dumpInt (n : Int) (rest : List Char) : scanConstant (dumpInt n ++ rest) = none := by
  obtain ⟨c, more, digits, digit⟩ := toDigits_cons n.natAbs
  have different (other : Char) (letter : other.isDigit = false) := digit_ne digit letter
  rw [dumpInt, digits]
  split
  · simp [scanConstant, constants, List.dropPrefix?, different 'I' (by decide)]
  · simp [scanConstant, constants, List.dropPrefix?, different 'n' (by decide), different 't' (by decide),
      different 'f' (by decide), different 'N' (by decide), different 'I' (by decide), different '-' (by decide)]

/-- An integer within the limit of digits is read back. -/
theorem scanNumber_dump {maxDigits : Nat} {n : Int} (fits : (Nat.toDigits 10 n.natAbs).length ≤ maxDigits)
    {rest : List Char} (ends : EndsNumber rest) :
    scanNumber maxDigits (dumpInt n ++ rest) = .ok (.int n, rest) := by
  rw [dumpInt]
  split
  · rename_i negative
    have scanned := scanUnsigned_dump fits true ends
    rw [List.cons_append, scanNumber, scanned, if_pos rfl]
    have same : -(n.natAbs : Int) = n := by omega
    rw [same]
  · rename_i positive
    obtain ⟨c, more, digits, digit⟩ := toDigits_cons n.natAbs
    have scanned := scanUnsigned_dump fits false ends
    have same : (n.natAbs : Int) = n := by omega
    rw [same, digits] at scanned
    rw [digits, List.cons_append, scanNumber, ← List.cons_append, scanned]
    · rfl
    · intro rest same
      rw [List.cons.injEq] at same
      exact digit_ne digit (by decide) same.1

/-- The scanner decides by the first character, one lemma for each kind of value. -/
theorem scanValue_string (maxDigits depth : Nat) (text rest : List Char) :
    scanValue maxDigits depth (dumpString text ++ rest) = .ok (.str text, rest) := by
  rw [dumpString, List.cons_append, List.append_assoc, List.singleton_append, scanValue.eq_def]
  dsimp only
  rw [if_pos rfl, ok_bind (scanString_dump text rest)]
  dsimp only
  rw [joinSurrogates_text]

theorem scanValue_array (maxDigits depth : Nat) (rest : List Char) :
    scanValue maxDigits (depth + 1) ('[' :: rest) = scanArray (scanValue maxDigits depth) rest := by
  rw [scanValue.eq_def]
  rfl

theorem scanValue_object (maxDigits depth : Nat) (rest : List Char) :
    scanValue maxDigits (depth + 1) ('\x7b' :: rest) = scanObject (scanValue maxDigits depth) rest := by
  rw [scanValue.eq_def]
  rfl

theorem scanValue_constant {maxDigits depth : Nat} {c : Char} {rest : List Char} {scanned : Value × List Char}
    (quote : c ≠ '"') (brace : c ≠ '\x7b') (bracket : c ≠ '[') (constant : scanConstant (c :: rest) = some scanned) :
    scanValue maxDigits depth (c :: rest) = .ok scanned := by
  rw [scanValue.eq_def]
  dsimp only
  rw [if_neg quote, if_neg brace, if_neg bracket, constant]

theorem scanValue_number {maxDigits depth : Nat} {c : Char} {rest : List Char} (quote : c ≠ '"') (brace : c ≠ '\x7b')
    (bracket : c ≠ '[') (constant : scanConstant (c :: rest) = none) :
    scanValue maxDigits depth (c :: rest) = scanNumber maxDigits (c :: rest) := by
  rw [scanValue.eq_def]
  dsimp only
  rw [if_neg quote, if_neg brace, if_neg bracket, constant]

/-- A value on a line of its own. -/
theorem skipSpace_dump {maxDigits depth level : Nat} {value : Value} (fits : Fits maxDigits depth value) (outer : Nat)
    (rest : List Char) : ∃ c more, skipSpace (newline outer ++ (dump level value ++ rest)) = c :: more ∧
      dump level value ++ rest = c :: more ∧ c ≠ ']' ∧ c ≠ '}' := by
  obtain ⟨c, more, written, printed, -, bracket, brace⟩ := dump_head fits level
  refine ⟨c, more ++ rest, ?_, by rw [written]; rfl, bracket, brace⟩
  rw [skipSpace_newline, written, List.cons_append, skipSpace_cons printed]

/-- A value after its name. -/
theorem skipSpace_value {maxDigits depth level : Nat} {value : Value} (fits : Fits maxDigits depth value)
    (rest : List Char) : skipSpace (' ' :: (dump level value ++ rest)) = dump level value ++ rest := by
  obtain ⟨c, more, written, printed, -⟩ := dump_head fits level
  have space : skipSpace (' ' :: (dump level value ++ rest)) = skipSpace (dump level value ++ rest) := rfl
  rw [space, written, List.cons_append, skipSpace_cons printed]

theorem scanArray_items {scan : Scan Value} {text more : List Char} {c : Char} (start : skipSpace text = c :: more)
    (bracket : c ≠ ']') : scanArray scan text = (do
      let (items, rest) ← scanItems scan ((c :: more).length + 1) (c :: more)
      .ok (.arr items, rest)) := by
  unfold scanArray
  rw [start]
  split
  · rename_i same
    rw [List.cons.injEq] at same
    exact absurd same.1 bracket
  · rfl

/-- There are no more values than characters, so the scanner has fuel enough. -/
theorem length_dumpItems (level : Nat) (items : List Value) : items.length ≤ (dumpItems level items).length := by
  induction items with
  | nil => exact Nat.le_refl _
  | cons item items ih =>
    rw [dumpItems]
    simp only [List.length_cons, List.length_append]
    omega

theorem length_dumpFields (level : Nat) (fields : List (List Char × Value)) :
    fields.length ≤ (dumpFields level fields).length := by
  induction fields with
  | nil => exact Nat.le_refl _
  | cons field fields ih =>
    obtain ⟨name, value⟩ := field
    rw [dumpFields]
    simp only [List.length_cons, List.length_append]
    omega

/-- The name of a field and its colon. -/
theorem scanFields_name (scan : Scan Value) (fuel : Nat) (name rest : List Char) :
    scanFields scan (fuel + 1) (dumpString name ++ ':' :: rest) = (do
      let (value, rest) ← scan (skipSpace rest)
      match skipSpace rest with
      | '}' :: rest => .ok ([(name, value)], rest)
      | ',' :: rest => do
        let (fields, rest) ← scanFields scan fuel (skipSpace rest)
        .ok ((name, value) :: fields, rest)
      | _ => .error .malformed) := by
  rw [dumpString, List.cons_append, List.append_assoc, List.singleton_append, scanFields,
    ok_bind (scanString_dump name (':' :: rest))]
  dsimp only
  rw [skipSpace_cons (by decide), joinSurrogates_text]
  rfl

/-- The first field of an object. -/
theorem scanObject_fields {scan : Scan Value} (level : Nat) (name rest : List Char) :
    scanObject scan (newline level ++ (dumpString name ++ rest)) = (do
      let (fields, rest) ← scanFields scan ((dumpString name ++ rest).length + 1) (dumpString name ++ rest)
      .ok (.obj (assignAll fields), rest)) := by
  unfold scanObject
  rw [skipSpace_newline, dumpString, List.cons_append, skipSpace_cons (by decide)]
  rfl

mutual

/-- A value that was written is read back, whatever follows. -/
theorem scanValue_dump {maxDigits : Nat} : ∀ (value : Value) (depth level : Nat) (rest : List Char),
    Fits maxDigits depth value → EndsNumber rest →
      scanValue maxDigits depth (dump level value ++ rest) = .ok (value, rest)
  | .null, depth, level, rest, _, _ => by
    have written : dump level .null = ['n', 'u', 'l', 'l'] := by simp [dump]
    have constant : scanConstant ('n' :: 'u' :: 'l' :: 'l' :: rest) = some (.null, rest) := by
      simp [scanConstant, constants, List.dropPrefix?]
    rw [written]
    exact scanValue_constant (by decide) (by decide) (by decide) constant
  | .bool true, depth, level, rest, _, _ => by
    have written : dump level (.bool true) = ['t', 'r', 'u', 'e'] := by simp [dump]
    have constant : scanConstant ('t' :: 'r' :: 'u' :: 'e' :: rest) = some (.bool true, rest) := by
      simp [scanConstant, constants, List.dropPrefix?]
    rw [written]
    exact scanValue_constant (by decide) (by decide) (by decide) constant
  | .bool false, depth, level, rest, _, _ => by
    have written : dump level (.bool false) = ['f', 'a', 'l', 's', 'e'] := by simp [dump]
    have constant : scanConstant ('f' :: 'a' :: 'l' :: 's' :: 'e' :: rest) = some (.bool false, rest) := by
      simp [scanConstant, constants, List.dropPrefix?]
    rw [written]
    exact scanValue_constant (by decide) (by decide) (by decide) constant
  | .int n, depth, level, rest, fits, ends => by
    obtain ⟨c, more, split, quote, brace, bracket⟩ := dumpInt_cons n
    have constant := scanConstant_dumpInt n rest
    have number := scanNumber_dump fits ends
    rw [split, List.cons_append] at constant number
    rw [dump, split, List.cons_append, scanValue_number quote brace bracket constant, number]
  | .real _, _, _, _, fits, _ => absurd fits (by simp [Fits])
  | .str text, depth, level, rest, _, _ => by
    rw [dump, scanValue_string]
  | .arr [], 0, _, _, fits, _ => absurd fits (by simp [Fits])
  | .arr [], depth + 1, level, rest, _, _ => by
    rfl
  | .arr (_ :: _), 0, _, _, fits, _ => absurd fits (by simp [Fits])
  | .arr (item :: items), depth + 1, level, rest, fits, _ => by
    obtain ⟨first, others⟩ : Fits maxDigits depth item ∧ FitsItems maxDigits depth items := by
      simpa only [Fits, FitsItems] using fits
    obtain ⟨c, more, start, written, bracket, -⟩ := @skipSpace_dump _ _ (level + 1) _ first (level + 1)
      (dumpItems (level + 1) items ++ (newline level ++ ']' :: rest))
    have enough : items.length < (c :: more).length + 1 := by
      rw [← written]
      have count := length_dumpItems (level + 1) items
      simp only [List.length_append]
      omega
    have scanned := scanItems_dump items depth (level + 1) level ((c :: more).length + 1) rest item others enough
      fun rest => scanValue_dump item depth (level + 1) rest first
    rw [written] at scanned
    rw [dump, List.cons_append, scanValue_array]
    simp only [List.append_assoc, List.cons_append, List.nil_append]
    rw [scanArray_items start bracket, ok_bind scanned]
  | .obj [], 0, _, _, fits, _ => absurd fits (by simp [Fits])
  | .obj [], depth + 1, level, rest, _, _ => by
    rfl
  | .obj ((_, _) :: _), 0, _, _, fits, _ => absurd fits (by simp [Fits])
  | .obj ((name, value) :: fields), depth + 1, level, rest, fits, _ => by
    obtain ⟨distinct, first, others⟩ : (((name, value) :: fields).map Prod.fst).Nodup ∧
        Fits maxDigits depth value ∧ FitsFields maxDigits depth fields := by
      simpa only [Fits, FitsFields] using fits
    have scanned := fun fuel enough => scanFields_dump fields depth (level + 1) level fuel rest name value others
      enough first fun rest => scanValue_dump value depth (level + 1) rest first
    rw [dump, List.cons_append, scanValue_object]
    simp only [List.append_assoc, List.cons_append, List.nil_append]
    rw [scanObject_fields, ok_bind (scanned _ ?_)]
    · dsimp only
      rw [assignAll_of_nodup distinct]
    · have count := length_dumpFields (level + 1) fields
      simp only [List.length_append, List.length_cons]
      omega

/-- The items of an array, where the first is read back. -/
theorem scanItems_dump {maxDigits : Nat} : ∀ (items : List Value) (depth level outer fuel : Nat) (rest : List Char)
    (first : Value), FitsItems maxDigits depth items → items.length < fuel →
      (∀ rest, EndsNumber rest → scanValue maxDigits depth (dump level first ++ rest) = .ok (first, rest)) →
        scanItems (scanValue maxDigits depth) fuel
          (dump level first ++ (dumpItems level items ++ (newline outer ++ ']' :: rest))) = .ok (first :: items, rest)
  | [], depth, level, outer, fuel + 1, rest, first, _, _, scanned => by
    rw [dumpItems, List.nil_append, scanItems, ok_bind (scanned _ (endsNumber_newline _ _))]
    dsimp only
    rw [skipSpace_newline, skipSpace_cons (by decide)]
    rfl
  | item :: items, depth, level, outer, fuel + 1, rest, first, fits, enough, scanned => by
    obtain ⟨next, others⟩ : Fits maxDigits depth item ∧ FitsItems maxDigits depth items := by
      simpa only [FitsItems] using fits
    have scannedItems := scanItems_dump items depth level outer fuel rest item others (Nat.lt_of_succ_lt_succ enough)
      fun rest => scanValue_dump item depth level rest next
    rw [dumpItems, List.cons_append, scanItems, ok_bind (scanned _ (endsNumber_comma _))]
    dsimp only
    rw [skipSpace_cons (by decide)]
    obtain ⟨c, more, start, written, -, -⟩ := @skipSpace_dump _ _ level _ next level
      (dumpItems level items ++ (newline outer ++ ']' :: rest))
    rw [written] at scannedItems
    simp only [List.append_assoc, start]
    rw [ok_bind scannedItems]

/-- The fields of an object, where the value of the first is read back. -/
theorem scanFields_dump {maxDigits : Nat} : ∀ (fields : List (List Char × Value)) (depth level outer fuel : Nat)
    (rest name : List Char) (first : Value), FitsFields maxDigits depth fields → fields.length < fuel →
      Fits maxDigits depth first →
      (∀ rest, EndsNumber rest → scanValue maxDigits depth (dump level first ++ rest) = .ok (first, rest)) →
        scanFields (scanValue maxDigits depth) fuel
          (dumpString name ++ ':' :: ' ' :: (dump level first ++
            (dumpFields level fields ++ (newline outer ++ '}' :: rest)))) = .ok ((name, first) :: fields, rest)
  | [], depth, level, outer, fuel + 1, rest, name, first, _, _, own, scanned => by
    rw [scanFields_name, skipSpace_value own, dumpFields, List.nil_append,
      ok_bind (scanned _ (endsNumber_newline _ _))]
    dsimp only
    rw [skipSpace_newline, skipSpace_cons (by decide)]
    rfl
  | (next, value) :: fields, depth, level, outer, fuel + 1, rest, name, first, fits, enough, own, scanned => by
    obtain ⟨second, others⟩ : Fits maxDigits depth value ∧ FitsFields maxDigits depth fields := by
      simpa only [FitsFields] using fits
    have scannedFields := scanFields_dump fields depth level outer fuel rest next value others
      (Nat.lt_of_succ_lt_succ enough) second fun rest => scanValue_dump value depth level rest second
    rw [scanFields_name, skipSpace_value own, dumpFields, List.cons_append, ok_bind (scanned _ (endsNumber_comma _))]
    dsimp only
    rw [skipSpace_cons (by decide)]
    simp only [List.append_assoc, List.cons_append, List.nil_append]
    rw [skipSpace_newline, dumpString, List.cons_append, skipSpace_cons (by decide), ← List.cons_append, ← dumpString,
      ok_bind scannedFields]

end

/-- **Round trip** of a document. -/
theorem loads_dump {limits : Limits} {value : Value} (fits : Fits limits.digits limits.depth value) :
    loads limits (dump 0 value ++ ['\n']) = .ok value := by
  obtain ⟨c, more, written, printed, mark, -⟩ := dump_head fits 0
  have ends : EndsNumber ['\n'] := endsNumber_newline 0 []
  have scanned := scanValue_dump value limits.depth 0 ['\n'] fits ends
  have head : (dump 0 value ++ ['\n']).head? ≠ some '\uFEFF' := by
    rw [written]
    exact fun same => mark (Option.some.inj same)
  have start : skipSpace (dump 0 value ++ ['\n']) = dump 0 value ++ ['\n'] := by
    rw [written, List.cons_append, skipSpace_cons printed]
  rw [loads, if_neg head, start, ok_bind scanned]
  rfl

/-- A dump has no carriage return: its texts escape them. -/
theorem escapeChar_no_return (c : Char) : '\r' ∉ escapeChar c := by
  unfold escapeChar
  split
  · rename_i letter found
    have known := (lookup_written found).2
    intro member
    rcases List.mem_cons.mp member with same | member
    · exact absurd same (by decide)
    · have unknown : simpleEscapes.lookup '\r' = none := by decide
      rw [← List.mem_singleton.mp member, unknown] at known
      cases known
  · rename_i plain
    split
    · rename_i control
      have small : c.toNat < 32 := control
      have hex (n : Nat) (digit : n < 16) : hexDigit n ≠ '\r' := by
        have all : ∀ n < 16, hexDigit n ≠ '\r' := by decide
        exact all n digit
      have high := hex (c.toNat / 16) (by omega)
      have low := hex (c.toNat % 16) (by omega)
      simp [Ne.symm high, Ne.symm low]
    · intro member
      have escaped : writtenEscapes.lookup '\r' = some 'r' := by decide
      rw [← List.mem_singleton.mp member, escaped] at plain
      cases plain

theorem dumpString_no_return (text : List Char) : '\r' ∉ dumpString text := by
  intro member
  rw [dumpString, List.mem_cons, List.mem_append, List.mem_flatMap] at member
  rcases member with same | ⟨c, _, escaped⟩ | last
  · exact absurd same (by decide)
  · exact escapeChar_no_return c escaped
  · exact absurd last (by decide)

theorem dumpInt_no_return (n : Int) : '\r' ∉ dumpInt n := by
  have digits : '\r' ∉ Nat.toDigits 10 n.natAbs := by
    intro member
    have digit := Nat.isDigit_of_mem_toDigits (by decide) (by decide) member
    exact absurd digit (by decide)
  rw [dumpInt]
  split
  · exact List.not_mem_cons_of_ne_of_not_mem (by decide) digits
  · exact digits

theorem newline_no_return (level : Nat) : '\r' ∉ newline level := by
  intro member
  rcases List.mem_cons.mp member with same | space
  · exact absurd same (by decide)
  · exact absurd (List.eq_of_mem_replicate space) (by decide)

mutual

/-- A document that was written has no carriage returns. -/
theorem dump_no_return {maxDigits : Nat} : ∀ (value : Value) (depth level : Nat), Fits maxDigits depth value →
    '\r' ∉ dump level value
  | .null, _, _, _ | .bool true, _, _, _ | .bool false, _, _, _ | .arr [], _, _, _ | .obj [], _, _, _ => by
    simp [dump]
  | .int n, _, _, _ => dumpInt_no_return n
  | .real _, _, _, fits => absurd fits (by simp [Fits])
  | .str text, _, _, _ => dumpString_no_return text
  | .arr (_ :: _), 0, _, fits | .obj (_ :: _), 0, _, fits => absurd fits (by simp [Fits])
  | .arr (item :: items), depth + 1, level, fits => by
    obtain ⟨first, others⟩ : Fits maxDigits depth item ∧ FitsItems maxDigits depth items := by
      simpa only [Fits, FitsItems] using fits
    have one := dump_no_return item depth (level + 1) first
    have more := dumpItems_no_return items depth (level + 1) others
    simp [dump, one, more, newline_no_return]
  | .obj ((name, value) :: fields), depth + 1, level, fits => by
    obtain ⟨-, first, others⟩ : (((name, value) :: fields).map Prod.fst).Nodup ∧
        Fits maxDigits depth value ∧ FitsFields maxDigits depth fields := by
      simpa only [Fits, FitsFields] using fits
    have one := dump_no_return value depth (level + 1) first
    have more := dumpFields_no_return fields depth (level + 1) others
    simp [dump, one, more, newline_no_return, dumpString_no_return]

theorem dumpItems_no_return {maxDigits : Nat} : ∀ (items : List Value) (depth level : Nat),
    FitsItems maxDigits depth items → '\r' ∉ dumpItems level items
  | [], _, _, _ => by simp [dumpItems]
  | item :: items, depth, level, fits => by
    rw [FitsItems] at fits
    have one := dump_no_return item depth level fits.1
    have more := dumpItems_no_return items depth level fits.2
    simp [dumpItems, one, more, newline_no_return]

theorem dumpFields_no_return {maxDigits : Nat} : ∀ (fields : List (List Char × Value)) (depth level : Nat),
    FitsFields maxDigits depth fields → '\r' ∉ dumpFields level fields
  | [], _, _, _ => by simp [dumpFields]
  | (name, value) :: fields, depth, level, fits => by
    rw [FitsFields] at fits
    have one := dump_no_return value depth level fits.1
    have more := dumpFields_no_return fields depth level fits.2
    simp [dumpFields, one, more, newline_no_return, dumpString_no_return]

end

/-- The order of `sort_keys`. -/
def KeyOrder (left right : List Char) : Prop := left ≤ right

instance : DecidableRel KeyOrder := fun left right => inferInstanceAs (Decidable (left ≤ right))

mutual

/-- The value with the fields of its objects in the order of their names. -/
def sortKeys : Value → Value
  | .arr items => .arr (sortItems items)
  | .obj fields => .obj ((sortFields fields).insertionSort fun left right => KeyOrder left.1 right.1)
  | value => value

def sortItems : List Value → List Value
  | [] => []
  | item :: items => sortKeys item :: sortItems items

def sortFields : List (List Char × Value) → List (List Char × Value)
  | [] => []
  | (name, value) :: fields => (name, sortKeys value) :: sortFields fields

end

theorem sortFields_keys (fields : List (List Char × Value)) :
    (sortFields fields).map Prod.fst = fields.map Prod.fst := by
  induction fields with
  | nil => rfl
  | cons field fields ih =>
    obtain ⟨name, value⟩ := field
    rw [sortFields, List.map_cons, ih, List.map_cons]

/-- Fields fit when each of their values does. -/
theorem fitsFields_iff {maxDigits depth : Nat} {fields : List (List Char × Value)} :
    FitsFields maxDigits depth fields ↔ ∀ field ∈ fields, Fits maxDigits depth field.2 := by
  induction fields with
  | nil => simp [FitsFields]
  | cons field fields ih =>
    obtain ⟨name, value⟩ := field
    rw [FitsFields, ih, List.forall_mem_cons]

mutual

/-- Sorting the keys does not change how deep or how long a value is. -/
theorem fits_sortKeys {maxDigits : Nat} : ∀ (value : Value) (depth : Nat), Fits maxDigits depth value →
    Fits maxDigits depth (sortKeys value)
  | .null, _, fits | .bool _, _, fits | .int _, _, fits | .real _, _, fits | .str _, _, fits => by
    simpa only [sortKeys] using fits
  | .arr _, 0, fits | .obj _, 0, fits => absurd fits (by simp [Fits])
  | .arr items, depth + 1, fits => by
    rw [sortKeys, Fits]
    rw [Fits] at fits
    exact fitsItems_sortItems items depth fits
  | .obj fields, depth + 1, fits => by
    rw [sortKeys, Fits]
    rw [Fits] at fits
    have sorted := List.perm_insertionSort (fun left right => KeyOrder left.1 right.1) (sortFields fields)
    refine ⟨(sorted.map Prod.fst).nodup_iff.mpr (sortFields_keys fields ▸ fits.1), ?_⟩
    rw [fitsFields_iff]
    intro field member
    exact fitsFields_iff.mp (fitsFields_sortFields fields depth fits.2) field (sorted.mem_iff.mp member)

theorem fitsItems_sortItems {maxDigits : Nat} : ∀ (items : List Value) (depth : Nat),
    FitsItems maxDigits depth items → FitsItems maxDigits depth (sortItems items)
  | [], _, _ => trivial
  | item :: items, depth, fits => by
    rw [FitsItems] at fits
    rw [sortItems, FitsItems]
    exact ⟨fits_sortKeys item depth fits.1, fitsItems_sortItems items depth fits.2⟩

theorem fitsFields_sortFields {maxDigits : Nat} : ∀ (fields : List (List Char × Value)) (depth : Nat),
    FitsFields maxDigits depth fields → FitsFields maxDigits depth (sortFields fields)
  | [], _, _ => trivial
  | (name, value) :: fields, depth, fits => by
    rw [FitsFields] at fits
    rw [sortFields, FitsFields]
    exact ⟨fits_sortKeys value depth fits.1, fitsFields_sortFields fields depth fits.2⟩

end

end JsonSyntax
