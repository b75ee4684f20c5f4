import Mathlib.Data.List.TakeDrop
import SprintTicket.Logic.Canonical
import SprintTicket.Logic.Checks

/-!
# JSON documents

`loads` reads a document as Python's `json.loads` does: constants that JSON does
not have are numbers, a repeated name keeps its first place and its last value,
and besides a malformed document an integer may be too long and the nesting too
deep. Numbers that are no integers keep their literal.

The loops over the items of an array and the fields of an object run on fuel;
`loads_not_exhausted` says that the length of the text is enough.
-/

set_option autoImplicit false

namespace JsonSyntax

open Canonical Checks

inductive Value
  | null
  | bool (value : Bool)
  | int (value : Int)
  | real (literal : List Char)
  | str (text : List Char)
  | arr (items : List Value)
  | obj (fields : List (List Char × Value))

inductive Failure
  | malformed | overlong | tooDeep | exhausted
deriving DecidableEq

/-- Read a value from the front of a text. -/
abbrev Scan (α : Type) : Type := List Char → Except Failure (α × List Char)

/-- The longest integer in digits, and the deepest nesting. -/
structure Limits where
  digits : Nat
  depth : Nat

def isSpace (c : Char) : Bool := c = ' ' || c = '\t' || c = '\n' || c = '\r'

def skipSpace (text : List Char) : List Char := text.dropWhile isSpace

def hexValue (c : Char) : Option Nat :=
  if '0' ≤ c ∧ c ≤ '9' then some (c.toNat - 48)
  else if 'a' ≤ c ∧ c ≤ 'f' then some (c.toNat - 87)
  else if 'A' ≤ c ∧ c ≤ 'F' then some (c.toNat - 55)
  else none

/-- The four digits after `\u`. -/
def hexCode (a b c d : Char) : Option Nat := do
  some (4096 * (← hexValue a) + 256 * (← hexValue b) + 16 * (← hexValue c) + (← hexValue d))

def simpleEscapes : List (Char × Char) :=
  [('"', '"'), ('\\', '\\'), ('/', '/'), ('b', '\x08'), ('f', '\x0c'), ('n', '\n'), ('r', '\r'), ('t', '\t')]

/-- A code before the codes of the rest. -/
def push (code : Nat) (scanned : Except Failure (List Nat × List Char)) : Except Failure (List Nat × List Char) :=
  scanned.map fun (codes, rest) => (code :: codes, rest)

/-- The codes of a string after its opening quote. -/
def scanString : Scan (List Nat)
  | [] => .error .malformed
  | c :: rest =>
    if c = '"' then .ok ([], rest)
    else if c = '\\' then
      match rest with
      | 'u' :: h1 :: h2 :: h3 :: h4 :: rest =>
        match hexCode h1 h2 h3 h4 with
        | some code => push code (scanString rest)
        | none => .error .malformed
      | escape :: rest =>
        match simpleEscapes.lookup escape with
        | some c => push c.toNat (scanString rest)
        | none => .error .malformed
      | [] => .error .malformed
    else if c < ' ' then .error .malformed
    else push c.toNat (scanString rest)

/-- The character of a code; a lone surrogate has none and is replaced. -/
def codeChar (code : Nat) : Char :=
  if code.isValidChar then Char.ofNat code else '\uFFFD'

/-- Two escaped surrogates may be one character. -/
def joinSurrogates : List Nat → List Char
  | [] => []
  | [code] => [codeChar code]
  | high :: low :: rest =>
    if (0xD800 ≤ high ∧ high < 0xDC00) ∧ 0xDC00 ≤ low ∧ low < 0xE000 then
      codeChar (0x10000 + (high - 0xD800) * 0x400 + (low - 0xDC00)) :: joinSurrogates rest
    else codeChar high :: joinSurrogates (low :: rest)

/-- A fraction is a dot and at least one digit. -/
def scanFraction : List Char → List Char × List Char
  | '.' :: first :: rest =>
    if first.isDigit then
      let (more, rest) := rest.span Char.isDigit
      ('.' :: first :: more, rest)
    else ([], '.' :: first :: rest)
  | text => ([], text)

def scanExponentDigits (mark text : List Char) : Option (List Char × List Char) :=
  match text with
  | first :: rest =>
    if first.isDigit then
      let (more, rest) := rest.span Char.isDigit
      some (mark ++ first :: more, rest)
    else none
  | [] => none

def scanExponent (text : List Char) : List Char × List Char :=
  match text with
  | mark :: sign :: rest =>
    if mark = 'e' ∨ mark = 'E' then
      ((if sign = '+' ∨ sign = '-' then scanExponentDigits [mark, sign] rest
        else scanExponentDigits [mark] (sign :: rest))).getD ([], text)
    else ([], text)
  | _ => ([], text)

/-- A number after its sign. -/
def scanUnsigned (maxDigits : Nat) (negative : Bool) : Scan Value
  | [] => .error .malformed
  | first :: rest =>
    if first.isDigit then
      let (more, rest) := if first = '0' then ([], rest) else rest.span Char.isDigit
      let (fraction, rest) := scanFraction rest
      let (exponent, rest) := scanExponent rest
      if fraction = [] ∧ exponent = [] then
        if maxDigits < (first :: more).length then .error .overlong
        else
          let value : Int := Nat.ofDigitChars 10 (first :: more) 0
          .ok (.int (if negative then -value else value), rest)
      else .ok (.real ((if negative then ['-'] else []) ++ first :: more ++ fraction ++ exponent), rest)
    else .error .malformed

def scanNumber (maxDigits : Nat) : Scan Value
  | '-' :: rest => scanUnsigned maxDigits true rest
  | text => scanUnsigned maxDigits false text

/-- The names of values; the last three are numbers. -/
def constants : List (List Char × Value) :=
  [("null".toList, .null), ("true".toList, .bool true), ("false".toList, .bool false),
    ("NaN".toList, .real "NaN".toList), ("Infinity".toList, .real "Infinity".toList),
    ("-Infinity".toList, .real "-Infinity".toList)]

def scanConstant (text : List Char) : Option (Value × List Char) :=
  constants.findSome? fun (name, value) => (text.dropPrefix? name).map fun rest => (value, rest)

/-- The items of an array up to its closing bracket. -/
def scanItems (scan : Scan Value) : Nat → Scan (List Value)
  | 0, _ => .error .exhausted
  | fuel + 1, text => do
    let (value, rest) ← scan text
    match skipSpace rest with
    | ']' :: rest => .ok ([value], rest)
    | ',' :: rest => do
      let (values, rest) ← scanItems scan fuel (skipSpace rest)
      .ok (value :: values, rest)
    | _ => .error .malformed

def scanArray (scan : Scan Value) (text : List Char) : Except Failure (Value × List Char) :=
  match skipSpace text with
  | ']' :: rest => .ok (.arr [], rest)
  | text => do
    let (items, rest) ← scanItems scan (text.length + 1) text
    .ok (.arr items, rest)

/-- The fields of an object up to its closing brace. -/
def scanFields (scan : Scan Value) : Nat → Scan (List (List Char × Value))
  | 0, _ => .error .exhausted
  | fuel + 1, '"' :: rest => do
    let (codes, rest) ← scanString rest
    match skipSpace rest with
    | ':' :: rest => do
      let (value, rest) ← scan (skipSpace rest)
      match skipSpace rest with
      | '}' :: rest => .ok ([(joinSurrogates codes, value)], rest)
      | ',' :: rest => do
        let (fields, rest) ← scanFields scan fuel (skipSpace rest)
        .ok ((joinSurrogates codes, value) :: fields, rest)
      | _ => .error .malformed
    | _ => .error .malformed
  | _ + 1, _ => .error .malformed

def scanObject (scan : Scan Value) (text : List Char) : Except Failure (Value × List Char) :=
  match skipSpace text with
  | '}' :: rest => .ok (.obj [], rest)
  | text => do
    let (fields, rest) ← scanFields scan (text.length + 1) text
    .ok (.obj (assignAll fields), rest)

/-- One value; `depth` is what is left of the nesting. -/
def scanValue (maxDigits : Nat) (depth : Nat) : Scan Value
  | [] => .error .malformed
  | c :: rest =>
    if c = '"' then do
      let (codes, rest) ← scanString rest
      .ok (.str (joinSurrogates codes), rest)
    else if c = '{' then
      match depth with
      | 0 => .error .tooDeep
      | depth + 1 => scanObject (scanValue maxDigits depth) rest
    else if c = '[' then
      match depth with
      | 0 => .error .tooDeep
      | depth + 1 => scanArray (scanValue maxDigits depth) rest
    else
      match scanConstant (c :: rest) with
      | some scanned => .ok scanned
      | none => scanNumber maxDigits (c :: rest)

/-- `json.loads`. -/
def loads (limits : Limits) (text : List Char) : Except Failure Value :=
  if text.head? = some '\uFEFF' then .error .malformed
  else do
    let (value, rest) ← scanValue limits.digits limits.depth (skipSpace text)
    if skipSpace rest = [] then .ok value else .error .malformed

/-! ## The fuel is enough -/

/-- A scanner that reads something and does not run out of fuel. -/
structure Consumes {α : Type} (scan : Scan α) : Prop where
  shorter : ∀ {text value rest}, scan text = .ok (value, rest) → rest.length < text.length
  enough : ∀ text, scan text ≠ .error .exhausted

theorem skipSpace_length (text : List Char) : (skipSpace text).length ≤ text.length :=
  (List.dropWhile_sublist isSpace).length_le

/-- A pushed code is in front of what the rest of the string gives. -/
theorem push_ok {code : Nat} {scanned : Except Failure (List Nat × List Char)} {codes : List Nat} {rest : List Char}
    (h : push code scanned = .ok (codes, rest)) : ∃ more, scanned = .ok (more, rest) ∧ codes = code :: more := by
  cases scanned with
  | error failure => cases h
  | ok scanned => cases h; exact ⟨_, rfl, rfl⟩

theorem push_exhausted {code : Nat} {scanned : Except Failure (List Nat × List Char)}
    (h : push code scanned = .error .exhausted) : scanned = .error .exhausted := by
  cases scanned with
  | error failure => cases h; rfl
  | ok scanned => cases h

/-- Each scanner takes at least one character off its text. -/
theorem scanString_consumes : Consumes scanString where
  shorter := by
    intro text codes rest h
    fun_induction scanString text generalizing codes with
    | case1 | case4 | case6 | case7 | case8 => cases h
    | case2 => cases h; exact Nat.lt_succ_self _
    | case3 _ _ _ _ _ _ _ _ ih | case5 _ _ _ _ _ _ ih | case9 _ _ _ _ _ ih =>
      obtain ⟨more, scanned, -⟩ := push_ok h
      have shorter := ih scanned
      simp only [List.length_cons]
      omega
  enough := by
    intro text
    fun_induction scanString text with
    | case1 | case2 | case4 | case6 | case7 | case8 => nofun
    | case3 _ _ _ _ _ _ _ _ ih | case5 _ _ _ _ _ _ ih | case9 _ _ _ _ _ ih =>
      exact fun h => ih (push_exhausted h)

theorem span_length (p : Char → Bool) (text : List Char) : (text.span p).2.length ≤ text.length := by
  rw [List.span_eq_takeWhile_dropWhile]
  exact (List.dropWhile_sublist p).length_le

theorem scanFraction_length (text : List Char) : (scanFraction text).2.length ≤ text.length := by
  fun_cases scanFraction text with
  | case1 first rest digit more after found =>
    have shorter : after.length ≤ rest.length := by simpa only [found] using span_length Char.isDigit rest
    simp only [List.length_cons]
    omega
  | case2 => exact Nat.le_refl _
  | case3 => exact Nat.le_refl _

theorem scanExponentDigits_length {mark text : List Char} {scanned : List Char × List Char}
    (h : scanExponentDigits mark text = some scanned) : scanned.2.length ≤ text.length := by
  revert h
  fun_cases scanExponentDigits mark text with
  | case1 first rest digit more after found =>
    rintro ⟨⟩
    have shorter : after.length ≤ rest.length := by simpa only [found] using span_length Char.isDigit rest
    simp only [List.length_cons]
    omega
  | case2 | case3 => nofun

theorem scanExponent_length (text : List Char) : (scanExponent text).2.length ≤ text.length := by
  unfold scanExponent
  split
  · rename_i mark sign rest
    split
    · split
      · cases scanned : scanExponentDigits [mark, sign] rest with
        | none => exact Nat.le_refl _
        | some digits =>
          have shorter := scanExponentDigits_length scanned
          simp only [Option.getD_some, List.length_cons]
          omega
      · cases scanned : scanExponentDigits [mark] (sign :: rest) with
        | none => exact Nat.le_refl _
        | some digits =>
          have shorter := scanExponentDigits_length scanned
          simp only [Option.getD_some, List.length_cons] at shorter ⊢
          omega
    · exact Nat.le_refl _
  · exact Nat.le_refl _

theorem integerDigits_length {first : Char} {rest more after : List Char}
    (h : (if first = '0' then ([], rest) else rest.span Char.isDigit) = (more, after)) :
    after.length ≤ rest.length := by
  split at h
  · cases h
    exact Nat.le_refl _
  · simpa only [h] using span_length Char.isDigit rest

theorem scanUnsigned_consumes (maxDigits : Nat) (negative : Bool) : Consumes (scanUnsigned maxDigits negative) where
  shorter := by
    intro text value rest h
    revert h
    fun_cases scanUnsigned maxDigits negative text with
    | case1 | case2 | case5 => nofun
    | case3 _ _ _ _ digits integer _ fractions fraction _ _ exponent
    | case4 _ _ _ _ digits integer _ fractions fraction _ _ exponent =>
      rintro ⟨⟩
      have first := integerDigits_length integer
      have second : fractions.length ≤ digits.length := by
        simpa only [fraction] using scanFraction_length digits
      have third : rest.length ≤ fractions.length := by
        simpa only [exponent] using scanExponent_length fractions
      simp only [List.length_cons]
      omega
  enough := by
    intro text
    fun_cases scanUnsigned maxDigits negative text
    all_goals nofun

theorem scanNumber_consumes (maxDigits : Nat) : Consumes (scanNumber maxDigits) where
  shorter := by
    intro text value rest h
    unfold scanNumber at h
    split at h
    · exact Nat.lt_succ_of_lt ((scanUnsigned_consumes _ _).shorter h)
    · exact (scanUnsigned_consumes _ _).shorter h
  enough := by
    intro text
    unfold scanNumber
    split
    · exact (scanUnsigned_consumes _ _).enough _
    · exact (scanUnsigned_consumes _ _).enough _

theorem scanConstant_shorter {text rest : List Char} {value : Value} (h : scanConstant text = some (value, rest)) :
    rest.length < text.length := by
  obtain ⟨⟨name, own⟩, member, found⟩ := List.exists_of_findSome?_eq_some h
  obtain ⟨dropped, matched, same⟩ := Option.map_eq_some_iff.mp found
  rw [Prod.mk.injEq] at same
  obtain ⟨front, rfl, equal⟩ := List.dropPrefix?_eq_some_iff.mp matched
  have nonempty : name ≠ [] := by
    simp only [constants, List.mem_cons, Prod.mk.injEq, List.not_mem_nil, or_false] at member
    rcases member with ⟨rfl, _⟩ | ⟨rfl, _⟩ | ⟨rfl, _⟩ | ⟨rfl, _⟩ | ⟨rfl, _⟩ | ⟨rfl, _⟩ <;> decide
  rw [← eq_of_beq equal, ← List.length_pos_iff] at nonempty
  rw [← same.2, List.length_append]
  omega

section Loops

variable {scan : Scan Value}

/-- More fuel than text is enough for the items of an array. -/
theorem scanItems_consumes (consumes : Consumes scan) {fuel : Nat} {text : List Char} :
    (∀ {values rest}, scanItems scan fuel text = .ok (values, rest) → rest.length < text.length) ∧
      (text.length < fuel → scanItems scan fuel text ≠ .error .exhausted) := by
  induction fuel generalizing text with
  | zero => exact ⟨nofun, fun short => absurd short (Nat.not_lt_zero _)⟩
  | succ fuel ih =>
    constructor
    · intro values rest h
      obtain ⟨⟨value, after⟩, scanned, h⟩ := bind_ok_iff.mp h
      have first := consumes.shorter scanned
      have space := skipSpace_length after
      dsimp only at h
      split at h
      · rename_i ending
        cases h
        rw [ending, List.length_cons] at space
        omega
      · rename_i next comma
        obtain ⟨⟨more, last⟩, items, h⟩ := bind_ok_iff.mp h
        dsimp only at h
        cases h
        have others := ih.1 items
        have again := skipSpace_length next
        rw [comma, List.length_cons] at space
        omega
      · cases h
    · intro short h
      rcases bind_error_iff.mp h with failed | ⟨⟨value, after⟩, scanned, h⟩
      · exact consumes.enough text failed
      have first := consumes.shorter scanned
      have space := skipSpace_length after
      dsimp only at h
      split at h
      · cases h
      · rename_i next comma
        have again := skipSpace_length next
        rw [comma, List.length_cons] at space
        rcases bind_error_iff.mp h with failed | ⟨_, _, h⟩
        · exact ih.2 (by omega) failed
        · cases h
      · cases h

theorem scanArray_consumes (consumes : Consumes scan) : Consumes fun text => scanArray scan text where
  shorter := by
    intro text value rest h
    have space := skipSpace_length text
    unfold scanArray at h
    split at h
    · rename_i closed
      cases h
      rw [closed, List.length_cons] at space
      omega
    · obtain ⟨⟨items, last⟩, scanned, h⟩ := bind_ok_iff.mp h
      dsimp only at h
      cases h
      have shorter := (scanItems_consumes consumes).1 scanned
      omega
  enough := by
    intro text h
    unfold scanArray at h
    split at h
    · cases h
    · rcases bind_error_iff.mp h with failed | ⟨_, _, h⟩
      · exact (scanItems_consumes consumes).2 (Nat.lt_succ_self _) failed
      · cases h

/-- The same for the fields of an object. -/
theorem scanFields_consumes (consumes : Consumes scan) {fuel : Nat} {text : List Char} :
    (∀ {fields rest}, scanFields scan fuel text = .ok (fields, rest) → rest.length < text.length) ∧
      (text.length < fuel → scanFields scan fuel text ≠ .error .exhausted) := by
  fun_induction scanFields scan fuel text with
  | case1 => exact ⟨nofun, fun short => absurd short (Nat.not_lt_zero _)⟩
  | case3 => exact ⟨nofun, nofun⟩
  | case2 fuel text ih =>
    constructor
    · intro fields rest h
      obtain ⟨⟨codes, colon⟩, name, h⟩ := bind_ok_iff.mp h
      have first := scanString_consumes.shorter name
      have space := skipSpace_length colon
      dsimp only at h
      split at h
      case h_2 => cases h
      rename_i value found
      obtain ⟨⟨item, after⟩, scanned, h⟩ := bind_ok_iff.mp h
      have second := consumes.shorter scanned
      have before := skipSpace_length value
      have behind := skipSpace_length after
      rw [found, List.length_cons] at space
      dsimp only at h
      split at h
      · rename_i ending
        cases h
        rw [ending, List.length_cons] at behind
        rw [List.length_cons]
        omega
      · rename_i next comma
        obtain ⟨⟨more, last⟩, others, h⟩ := bind_ok_iff.mp h
        dsimp only at h
        cases h
        have later := (ih next).1 others
        have again := skipSpace_length next
        rw [comma, List.length_cons] at behind
        rw [List.length_cons]
        omega
      · cases h
    · intro short h
      rw [List.length_cons] at short
      rcases bind_error_iff.mp h with failed | ⟨⟨codes, colon⟩, name, h⟩
      · exact scanString_consumes.enough text failed
      have first := scanString_consumes.shorter name
      have space := skipSpace_length colon
      dsimp only at h
      split at h
      case h_2 => cases h
      rename_i value found
      rcases bind_error_iff.mp h with failed | ⟨⟨item, after⟩, scanned, h⟩
      · exact consumes.enough _ failed
      have second := consumes.shorter scanned
      have before := skipSpace_length value
      have behind := skipSpace_length after
      rw [found, List.length_cons] at space
      dsimp only at h
      split at h
      · cases h
      · rename_i next comma
        have again := skipSpace_length next
        rw [comma, List.length_cons] at behind
        rcases bind_error_iff.mp h with failed | ⟨_, _, h⟩
        · exact (ih next).2 (by omega) failed
        · cases h
      · cases h

theorem scanObject_consumes (consumes : Consumes scan) : Consumes fun text => scanObject scan text where
  shorter := by
    intro text value rest h
    have space := skipSpace_length text
    unfold scanObject at h
    split at h
    · rename_i closed
      cases h
      rw [closed, List.length_cons] at space
      omega
    · obtain ⟨⟨fields, last⟩, scanned, h⟩ := bind_ok_iff.mp h
      dsimp only at h
      cases h
      have shorter := (scanFields_consumes consumes).1 scanned
      omega
  enough := by
    intro text h
    unfold scanObject at h
    split at h
    · cases h
    · rcases bind_error_iff.mp h with failed | ⟨_, _, h⟩
      · exact (scanFields_consumes consumes).2 (Nat.lt_succ_self _) failed
      · cases h

end Loops

/-- A value is shorter than the text where the values one level deeper are. -/
theorem scanValue_step {maxDigits depth : Nat} (nested : ∀ d, depth = d + 1 → Consumes (scanValue maxDigits d))
    (text : List Char) :
    (∀ {value rest}, scanValue maxDigits depth text = .ok (value, rest) → rest.length < text.length) ∧
      scanValue maxDigits depth text ≠ .error .exhausted := by
  fun_cases scanValue maxDigits depth text with
  | case1 | case3 | case5 => exact ⟨nofun, nofun⟩
  | case2 =>
    constructor
    · intro value after h
      obtain ⟨⟨codes, behind⟩, scanned, h⟩ := bind_ok_iff.mp h
      cases h
      exact Nat.lt_succ_of_lt (scanString_consumes.shorter scanned)
    · intro h
      rcases bind_error_iff.mp h with failed | ⟨_, _, h⟩
      · exact scanString_consumes.enough _ failed
      · cases h
  | case4 rest depth =>
    have consumes := scanObject_consumes (nested depth rfl)
    exact ⟨fun h => Nat.lt_succ_of_lt (consumes.shorter h), consumes.enough rest⟩
  | case6 rest depth =>
    have consumes := scanArray_consumes (nested depth rfl)
    exact ⟨fun h => Nat.lt_succ_of_lt (consumes.shorter h), consumes.enough rest⟩
  | case7 _ _ _ _ _ _ _ constant =>
    refine ⟨fun h => ?_, nofun⟩
    rw [Except.ok.injEq] at h
    rw [h] at constant
    exact scanConstant_shorter constant
  | case8 =>
    exact ⟨(scanNumber_consumes maxDigits).shorter, (scanNumber_consumes maxDigits).enough _⟩

/-- So does every value, which is why the fuel never runs out. -/
theorem scanValue_consumes (maxDigits depth : Nat) : Consumes (scanValue maxDigits depth) := by
  induction depth with
  | zero =>
    have nested : ∀ d, 0 = d + 1 → Consumes (scanValue maxDigits d) := nofun
    have each := scanValue_step nested
    exact ⟨(each _).1, fun text => (each text).2⟩
  | succ depth ih =>
    have nested : ∀ d, depth + 1 = d + 1 → Consumes (scanValue maxDigits d) := by
      intro d same
      rw [← Nat.succ.inj same]
      exact ih
    have each := scanValue_step nested
    exact ⟨(each _).1, fun text => (each text).2⟩

/-- `json.loads` never runs out of fuel. -/
theorem loads_not_exhausted (limits : Limits) (text : List Char) : loads limits text ≠ .error .exhausted := by
  unfold loads
  split
  · nofun
  · intro h
    rcases bind_error_iff.mp h with failed | ⟨⟨value, rest⟩, _, h⟩
    · exact (scanValue_consumes limits.digits limits.depth).enough _ failed
    · dsimp only at h
      split at h <;> cases h

end JsonSyntax
