import Mathlib.Data.List.DropRight
import Mathlib.Data.String.Basic

/-!
# Python text operations

The string operations the controller relies on, with Python's meaning, over the
characters of a string. They are written over `List Char` so that they evaluate
in the kernel.
-/

set_option autoImplicit false

namespace SprintTicket

/-- The characters `str.strip` removes: those for which `str.isspace` holds. -/
def isSpace (c : Char) : Bool :=
  let n := c.toNat
  (9 ≤ n && n ≤ 13) || (28 ≤ n && n ≤ 32) || n == 0x85 || n == 0xA0 || n == 0x1680 ||
    (0x2000 ≤ n && n ≤ 0x200A) || n == 0x2028 || n == 0x2029 || n == 0x202F || n == 0x205F ||
    n == 0x3000

/-- `not value.strip()`. -/
def isBlank (value : String) : Bool := value.toList.all isSpace

/-- A text is blank exactly when each of its parts is. -/
theorem isBlank_append {left right : String} : isBlank (left ++ right) = (isBlank left && isBlank right) := by
  rw [isBlank, String.toList_append, List.all_append, ← isBlank, ← isBlank]

/-- A text with something in it stays so under concatenation. -/
theorem filled_append {left right : String} (filled : isBlank left = false) : isBlank (left ++ right) = false := by
  rw [isBlank_append, filled, Bool.false_and]

theorem append_filled {left right : String} (filled : isBlank right = false) : isBlank (left ++ right) = false := by
  rw [isBlank_append, filled, Bool.and_false]

/-- `str.strip`. -/
def strip (value : String) : String :=
  String.ofList ((value.toList.dropWhile isSpace).rdropWhile isSpace)

/-- No character to drop at the front. -/
theorem dropWhile_eq_self_iff_head {p : Char → Bool} {chars : List Char} :
    chars.dropWhile p = chars ↔ chars.head?.any p = false := by
  cases chars with
  | nil => simp
  | cons c rest =>
    cases dropped : p c with
    | false => simp [dropped]
    | true =>
      have shorter : (rest.dropWhile p).length ≤ rest.length := (List.dropWhile_suffix p).length_le
      have other : rest.dropWhile p ≠ c :: rest := by
        intro same
        rw [same, List.length_cons] at shorter
        omega
      simp [dropped, other]

/-- No character to drop at the back. -/
theorem rdropWhile_eq_self_iff_last {p : Char → Bool} {chars : List Char} :
    chars.rdropWhile p = chars ↔ chars.getLast?.any p = false := by
  rw [List.rdropWhile_eq_self_iff]
  cases chars using List.reverseRecOn with
  | nil => simp
  | append_singleton rest c => simp

/-- Dropping from both ends leaves a text alone exactly when each end does. -/
theorem dropBoth_eq_self_iff {p : Char → Bool} {chars : List Char} :
    (chars.dropWhile p).rdropWhile p = chars ↔ chars.dropWhile p = chars ∧ chars.rdropWhile p = chars := by
  constructor
  · intro same
    have longer : chars.length ≤ (chars.dropWhile p).length := by
      calc chars.length = ((chars.dropWhile p).rdropWhile p).length := by rw [same]
        _ ≤ (chars.dropWhile p).length := (List.rdropWhile_prefix p _).length_le
    have front : chars.dropWhile p = chars := (List.dropWhile_suffix p).eq_of_length_le longer
    rw [front] at same
    exact ⟨front, same⟩
  · rintro ⟨front, back⟩
    rw [front, back]

/-- A text is its own `strip` exactly when no whitespace surrounds it. -/
theorem strip_eq_self_iff {value : String} :
    strip value = value ↔
      (value.toList.head?.any isSpace || value.toList.getLast?.any isSpace) = false := by
  rw [Bool.or_eq_false_iff, ← dropWhile_eq_self_iff_head, ← rdropWhile_eq_self_iff_last,
    ← dropBoth_eq_self_iff, ← String.toList_inj, strip, String.toList_ofList]

@[simp] theorem strip_strip {value : String} : strip (strip value) = strip value := by
  rw [strip_eq_self_iff, Bool.or_eq_false_iff, ← dropWhile_eq_self_iff_head, ← rdropWhile_eq_self_iff_last,
    strip, String.toList_ofList]
  refine ⟨?_, List.rdropWhile_idempotent _ _⟩
  have kept := List.dropWhile_idempotent isSpace value.toList
  generalize value.toList.dropWhile isSpace = text at kept
  obtain ⟨rest, split⟩ := List.rdropWhile_prefix isSpace text
  cases stripped : text.rdropWhile isSpace with
  | nil => rfl
  | cons c more =>
    rw [dropWhile_eq_self_iff_head] at kept ⊢
    rw [← split, stripped] at kept
    exact kept

/-- Stripping takes no text away but whitespace. -/
@[simp] theorem isBlank_strip {value : String} : isBlank (strip value) = isBlank value := by
  rw [Bool.eq_iff_iff, isBlank, isBlank, strip, String.toList_ofList]
  generalize value.toList = chars
  have front : (chars.dropWhile isSpace).all isSpace = true ↔ chars.all isSpace = true := by
    conv_rhs => rw [← List.takeWhile_append_dropWhile (p := isSpace) (l := chars), List.all_append]
    simp [List.all_takeWhile]
  have back : ∀ text : List Char, (text.rdropWhile isSpace).all isSpace = true ↔ text.all isSpace = true := by
    intro text
    conv_rhs => rw [← List.rdropWhile_append_rtakeWhile (p := isSpace) (l := text), List.all_append]
    have dropped : (text.rtakeWhile isSpace).all isSpace = true := by
      rw [List.all_eq_true]
      exact fun c member => List.mem_rtakeWhile_imp member
    simp [dropped]
  rw [back, front]

/-- `f"{n:03d}"`. -/
def threeDigits (n : Nat) : String :=
  let digits := Nat.toDigits 10 n
  String.ofList (List.replicate (3 - digits.length) '0' ++ digits)

/-- The components of a `/`-separated path text. -/
def splitSlash : List Char → List (List Char)
  | [] => [[]]
  | c :: rest =>
    match c == '/', splitSlash rest with
    | true, parts => [] :: parts
    | false, part :: parts => (c :: part) :: parts
    | false, [] => [[c]]

/-- The `parts` of a relative `PurePosixPath`: empty and `.` components vanish. -/
def pathParts (value : String) : List (List Char) :=
  (splitSlash value.toList).filter fun part => !(part == [] || part == ['.'])

/-- The parts of a path, separated by `/`. -/
def joinSlash : List (List Char) → List Char
  | [] => []
  | [part] => part
  | part :: rest => part ++ '/' :: joinSlash rest

/-- The text of a relative path with the given parts. -/
def pathText : List (List Char) → String
  | [] => "."
  | parts => String.ofList (joinSlash parts)

/-- `PurePosixPath(value).as_posix()` of a relative path. -/
def asPosix (value : String) : String := pathText (pathParts value)

/-- `str(PurePosixPath(value))`; exactly two leading slashes are a root of their own. -/
def pathString (value : String) : String :=
  let rest := String.ofList (joinSlash (pathParts value))
  match value.toList with
  | '/' :: '/' :: '/' :: _ => "/" ++ rest
  | '/' :: '/' :: _ => "//" ++ rest
  | '/' :: _ => "/" ++ rest
  | _ => asPosix value

/-- `PureWindowsPath(value).is_absolute()` of a text without backslashes: a drive
or a share, and a root. -/
def windowsAbsolute (value : String) : Bool :=
  match value.toList with
  | '/' :: '/' :: _ => true
  | _ :: ':' :: '/' :: _ => true
  | _ => false

/-- A path splits at its first slash. -/
theorem splitSlash_part {part : List Char} (plain : '/' ∉ part) (rest : List Char) :
    splitSlash (part ++ '/' :: rest) = part :: splitSlash rest := by
  induction part with
  | nil => simp [splitSlash]
  | cons c part ih =>
    rw [List.mem_cons, not_or] at plain
    have other : (c == '/') = false := by simpa using fun same => plain.1 same.symm
    rw [List.cons_append, splitSlash, ih plain.2, other]

theorem splitSlash_last {part : List Char} (plain : '/' ∉ part) : splitSlash part = [part] := by
  induction part with
  | nil => rfl
  | cons c part ih =>
    rw [List.mem_cons, not_or] at plain
    have other : (c == '/') = false := by simpa using fun same => plain.1 same.symm
    rw [splitSlash, ih plain.2, other]

/-- Joined parts are split into the parts again. -/
theorem splitSlash_join {parts : List (List Char)} (plain : ∀ part ∈ parts, '/' ∉ part) (some : parts ≠ []) :
    splitSlash (joinSlash parts) = parts := by
  induction parts with
  | nil => exact absurd rfl some
  | cons part rest ih =>
    rw [List.forall_mem_cons] at plain
    cases rest with
    | nil => exact splitSlash_last plain.1
    | cons next rest =>
      show splitSlash (part ++ '/' :: joinSlash (next :: rest)) = part :: next :: rest
      rw [splitSlash_part plain.1, ih plain.2 (List.cons_ne_nil _ _)]

/-- The parts hold the characters of the text but the separators. -/
theorem mem_splitSlash {chars part : List Char} (member : part ∈ splitSlash chars) :
    ∀ c ∈ part, c ∈ chars ∧ c ≠ '/' := by
  induction chars generalizing part with
  | nil =>
    rw [splitSlash, List.mem_singleton] at member
    simp [member]
  | cons d chars ih =>
    intro c inside
    unfold splitSlash at member
    split at member
    · rcases List.mem_cons.mp member with rfl | member
      · exact absurd inside List.not_mem_nil
      · have earlier := ih member c inside
        exact ⟨List.mem_cons_of_mem _ earlier.1, earlier.2⟩
    · rename_i first parts different split
      have plain : d ≠ '/' := by simpa using different
      rcases List.mem_cons.mp member with rfl | member
      · rcases List.mem_cons.mp inside with rfl | inside
        · exact ⟨List.mem_cons_self, plain⟩
        · have earlier := ih (split ▸ List.mem_cons_self) c inside
          exact ⟨List.mem_cons_of_mem _ earlier.1, earlier.2⟩
      · have earlier := ih (split ▸ List.mem_cons_of_mem _ member) c inside
        exact ⟨List.mem_cons_of_mem _ earlier.1, earlier.2⟩
    · rename_i different _
      have plain : d ≠ '/' := by simpa using different
      rw [List.mem_singleton.mp member, List.mem_singleton] at inside
      rw [inside]
      exact ⟨List.mem_cons_self, plain⟩

/-- A part of a path is neither empty nor a dot, and has no slash. -/
theorem mem_pathParts {value : String} {part : List Char} (member : part ∈ pathParts value) :
    part ≠ [] ∧ part ≠ ['.'] ∧ ∀ c ∈ part, c ∈ value.toList ∧ c ≠ '/' := by
  obtain ⟨split, kept⟩ := List.mem_filter.mp member
  simp only [Bool.not_eq_true', Bool.or_eq_false_iff, beq_eq_false_iff_ne] at kept
  exact ⟨kept.1, kept.2, mem_splitSlash split⟩

/-- The normal form of a path has the same parts. -/
theorem pathParts_asPosix (value : String) : pathParts (asPosix value) = pathParts value := by
  have plain : ∀ part ∈ pathParts value, '/' ∉ part :=
    fun part member slash => ((mem_pathParts member).2.2 _ slash).2 rfl
  have kept : ∀ part ∈ pathParts value, (!(part == [] || part == ['.'])) = true := by
    intro part member
    obtain ⟨nonempty, other, _⟩ := mem_pathParts member
    simp [nonempty, other]
  unfold asPosix
  generalize pathParts value = parts at plain kept
  cases parts with
  | nil => decide
  | cons part rest =>
    rw [pathText, pathParts, String.toList_ofList, splitSlash_join plain (List.cons_ne_nil _ _),
      List.filter_eq_self.mpr kept]
    exact List.cons_ne_nil _ _

/-- Joining adds nothing but separators. -/
theorem mem_joinSlash {parts : List (List Char)} {c : Char} (member : c ∈ joinSlash parts) :
    (∃ part ∈ parts, c ∈ part) ∨ c = '/' := by
  induction parts with
  | nil => exact absurd member List.not_mem_nil
  | cons part rest ih =>
    cases rest with
    | nil => exact .inl ⟨part, List.mem_cons_self, member⟩
    | cons next rest =>
      have split : c ∈ part ++ '/' :: joinSlash (next :: rest) := member
      rcases List.mem_append.mp split with inside | later
      · exact .inl ⟨part, List.mem_cons_self, inside⟩
      · rcases List.mem_cons.mp later with slash | later
        · exact .inr slash
        · exact (ih later).imp_left fun ⟨other, listed, inside⟩ => ⟨other, List.mem_cons_of_mem _ listed, inside⟩

/-- A normal form has the characters of its text, separators and a dot. -/
theorem mem_asPosix {value : String} {c : Char} (member : c ∈ (asPosix value).toList) :
    c ∈ value.toList ∨ c = '/' ∨ c = '.' := by
  have inside : ∀ part ∈ pathParts value, ∀ c ∈ part, c ∈ value.toList :=
    fun part listed c found => ((mem_pathParts listed).2.2 c found).1
  unfold asPosix at member
  generalize pathParts value = parts at member inside
  cases parts with
  | nil =>
    have dot : c ∈ ['.'] := member
    exact .inr (.inr (List.mem_singleton.mp dot))
  | cons part rest =>
    rw [pathText, String.toList_ofList] at member
    · rcases mem_joinSlash member with ⟨other, listed, found⟩ | slash
      · exact .inl (inside other listed c found)
      · exact .inr (.inl slash)
    · exact List.cons_ne_nil _ _

/-- A normal form is not empty and does not start at the root. -/
theorem asPosix_head (value : String) : ∃ c, (asPosix value).toList.head? = some c ∧ c ≠ '/' := by
  have plain : ∀ part ∈ pathParts value, part ≠ [] ∧ ∀ c ∈ part, c ≠ '/' :=
    fun part listed => ⟨(mem_pathParts listed).1, fun c found => ((mem_pathParts listed).2.2 c found).2⟩
  unfold asPosix
  generalize pathParts value = parts at plain
  cases parts with
  | nil => exact ⟨'.', rfl, by decide⟩
  | cons part rest =>
    obtain ⟨nonempty, other⟩ := plain part List.mem_cons_self
    cases part with
    | nil => exact absurd rfl nonempty
    | cons c more =>
      refine ⟨c, ?_, other c List.mem_cons_self⟩
      rw [pathText, String.toList_ofList]
      · cases rest <;> rfl
      · exact List.cons_ne_nil _ _

theorem asPosix_ne_empty (value : String) : asPosix value ≠ "" := by
  obtain ⟨c, first, _⟩ := asPosix_head value
  intro empty
  rw [empty] at first
  exact absurd first (by simp)

theorem asPosix_relative (value : String) : (asPosix value).toList.head? ≠ some '/' := by
  obtain ⟨c, first, other⟩ := asPosix_head value
  rw [first]
  intro slash
  exact other (Option.some.inj slash)

/-- A normalised path is normalised already. -/
theorem asPosix_asPosix (value : String) : asPosix (asPosix value) = asPosix value := by
  exact congrArg pathText (pathParts_asPosix value)

/-! ## Order -/

/-- The order of `sorted` on named texts. -/
def NameOrder (left right : String × String) : Prop :=
  left.1 < right.1 ∨ (left.1 = right.1 ∧ left.2 ≤ right.2)

instance : DecidableRel NameOrder := fun _ _ => inferInstanceAs (Decidable (_ ∨ _))

instance : Std.Total NameOrder where
  total left right := by
    rcases lt_trichotomy left.1 right.1 with lower | same | higher
    · exact .inl (.inl lower)
    · exact (le_total left.2 right.2).imp (fun below => .inr ⟨same, below⟩) fun above => .inr ⟨same.symm, above⟩
    · exact .inr (.inl higher)

instance : IsTrans (String × String) NameOrder where
  trans left middle right := by
    rintro (lower | ⟨same, below⟩) (lower' | ⟨same', below'⟩)
    · exact .inl (lower.trans lower')
    · exact .inl (same' ▸ lower)
    · exact .inl (same ▸ lower')
    · exact .inr ⟨same.trans same', below.trans below'⟩

instance : Std.Antisymm NameOrder where
  antisymm left right := by
    rintro (lower | ⟨same, below⟩) (lower' | ⟨same', below'⟩)
    · exact absurd lower' lower.not_gt
    · exact absurd same' lower.ne'
    · exact absurd same lower'.ne'
    · exact Prod.ext same (le_antisymm below below')

/-- `n` in hexadecimal with `width` digits. -/
def hexDigits : Nat → Nat → List Char
  | 0, _ => []
  | width + 1, n => (n / 16 ^ width % 16).digitChar :: hexDigits width n

/-- One character of `repr` of a string in the given quotes; `printable` is
`str.isprintable` beyond ASCII. -/
def reprChar (printable : Char → Bool) (quote c : Char) : List Char :=
  let n := c.toNat
  if c = quote ∨ c = '\\' then ['\\', c]
  else if c = '\t' then ['\\', 't']
  else if c = '\n' then ['\\', 'n']
  else if c = '\r' then ['\\', 'r']
  else if n < 32 ∨ n = 127 then '\\' :: 'x' :: hexDigits 2 n
  else if n < 127 ∨ printable c then [c]
  else if n < 256 then '\\' :: 'x' :: hexDigits 2 n
  else if n < 65536 then '\\' :: 'u' :: hexDigits 4 n
  else '\\' :: 'U' :: hexDigits 8 n

/-- `repr` of a string. -/
def pyRepr (printable : Char → Bool) (text : String) : String :=
  let apostrophe := Char.ofNat 39
  let quote := if apostrophe ∈ text.toList ∧ '"' ∉ text.toList then '"' else apostrophe
  String.ofList (quote :: text.toList.flatMap (reprChar printable quote) ++ [quote])

end SprintTicket
