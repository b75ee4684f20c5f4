import Mathlib.Algebra.Ring.Nat
import SprintTicket.Workspace.Git

/-!
# Counting the changes of a patch

The final report counts the added and removed lines of a patch by the first
characters of its lines. A content line that begins with two more of its sign
looks like a file header, and `str.splitlines` splits content at more than
newlines: `countPatchChanges_iff` says when the counts come out right.
-/

set_option autoImplicit false

namespace SprintTicket

/-- The text of one line. -/
structure LineText where
  chars : List Char
  single : '\n' ∉ chars

/-- A line of a file header before the two names: `diff`, `index`, `rename from`. -/
structure ExtendedHeader extends LineText where
  unsigned : chars.head? ≠ some '+' ∧ chars.head? ≠ some '-'

/-- A line of a hunk. -/
inductive HunkLine
  | context (text : LineText)
  | added (text : LineText)
  | removed (text : LineText)
  /-- The mark of a last line without a newline. -/
  | noNewline

structure PatchHunk where
  /-- The ranges and the section, after `@@`. -/
  heading : LineText
  lines : List HunkLine

structure FilePatch where
  extended : List ExtendedHeader
  names : Option (LineText × LineText)
  hunks : List PatchHunk

/-- A line of a patch. -/
inductive PatchLine
  | extended (header : ExtendedHeader)
  | oldName (name : LineText)
  | newName (name : LineText)
  | heading (text : LineText)
  | hunk (line : HunkLine)

def FilePatch.lines (file : FilePatch) : List PatchLine :=
  file.extended.map PatchLine.extended ++
    file.names.toList.flatMap (fun names => [.oldName names.1, .newName names.2]) ++
    file.hunks.flatMap fun hunk => .heading hunk.heading :: hunk.lines.map .hunk

/-- The characters of a line. -/
def PatchLine.chars : PatchLine → List Char
  | .extended header => header.chars
  | .oldName name => '-' :: '-' :: '-' :: ' ' :: name.chars
  | .newName name => '+' :: '+' :: '+' :: ' ' :: name.chars
  | .heading text => '@' :: '@' :: text.chars
  | .hunk (.context text) => ' ' :: text.chars
  | .hunk (.added text) => '+' :: text.chars
  | .hunk (.removed text) => '-' :: text.chars
  | .hunk .noNewline => "\\ No newline at end of file".toList

/-- The text of lines, each ended by a newline. -/
def patchText (lines : List PatchLine) : String :=
  String.ofList (lines.flatMap fun line => line.chars ++ ['\n'])

/-- A unified patch. -/
abbrev UnifiedPatch : Type := List FilePatch

def UnifiedPatch.lines (patch : UnifiedPatch) : List PatchLine := patch.flatMap FilePatch.lines

def UnifiedPatch.text (patch : UnifiedPatch) : String := patchText (UnifiedPatch.lines patch)

/-- The content of a changed line, for the sign of an addition or a deletion. -/
def PatchLine.content? (sign : Char) : PatchLine → Option (List Char)
  | .hunk (.added text) => if sign = '+' then some text.chars else none
  | .hunk (.removed text) => if sign = '-' then some text.chars else none
  | _ => none

/-- How many lines the patch adds or removes. -/
def UnifiedPatch.changed (patch : UnifiedPatch) (sign : Char) : Nat :=
  (UnifiedPatch.lines patch).countP fun line => (line.content? sign).isSome

/-- The condition on the lines that are counted. -/
def countedLine (sign : Char) (line : List Char) : Bool :=
  [sign].isPrefixOf line && !([sign, sign, sign].isPrefixOf line)

/-- `count_patch_changes`. -/
def countPatchChanges (patchText : String) : Nat × Nat :=
  ((splitlines patchText.toList).countP (countedLine '+'), (splitlines patchText.toList).countP (countedLine '-'))

/-- A boundary ends a line, unless it is the return of a pair. -/
theorem splitlines_boundary {c : Char} {rest : List Char} (boundary : isLineBoundary c = true)
    (notPair : ∀ more, c = '\r' → rest = '\n' :: more → False) :
    splitlines (c :: rest) = [] :: splitlines rest := by
  rw [splitlines, if_pos boundary]
  exact notPair

/-- Any other character belongs to the line that follows it. -/
theorem splitlines_plain {c : Char} {rest : List Char} (plain : isLineBoundary c = false) :
    splitlines (c :: rest) =
      match splitlines rest with
      | [] => [[c]]
      | line :: lines => (c :: line) :: lines := by
  have notPair : ∀ more, c = '\r' → rest = '\n' :: more → False := by
    rintro more rfl
    exact absurd plain (by decide)
  have other : ¬isLineBoundary c = true := by simp [plain]
  exact (splitlines.eq_3 c rest notPair).trans (if_neg other)

theorem splitlines_ne_nil {text : List Char} (some : text ≠ []) : splitlines text ≠ [] := by
  cases text using splitlines.fun_cases with
  | case1 => exact absurd rfl some
  | case2 rest => exact List.cons_ne_nil _ _
  | case3 c rest notPair boundary =>
    rw [splitlines_boundary boundary notPair]
    exact List.cons_ne_nil _ _
  | case4 c rest notPair plain last | case5 c rest notPair plain line lines split =>
    rw [splitlines_plain (by simpa using plain)]
    split <;> exact List.cons_ne_nil _ _

/-- The lines that `splitlines` makes of one line and its newline. -/
def pieces (line : List Char) : List (List Char) := splitlines (line ++ ['\n'])

/-- All of them but the first: what follows a boundary within the line. -/
def laterPieces (line : List Char) : List (List Char) := (pieces line).tail

theorem pieces_ne_nil (line : List Char) : pieces line ≠ [] := splitlines_ne_nil (by simp)

theorem pieces_split (line : List Char) : pieces line = (pieces line).headD [] :: laterPieces line := by
  unfold laterPieces
  cases split : pieces line with
  | nil => exact absurd split (pieces_ne_nil line)
  | cons piece more => rfl

theorem pieces_plain {c : Char} {line : List Char} (plain : isLineBoundary c = false) :
    pieces (c :: line) = (c :: (pieces line).headD []) :: laterPieces line := by
  have split := pieces_split line
  unfold pieces at split ⊢
  rw [List.cons_append, splitlines_plain plain, split]
  rfl

/-- A newline ends a line whatever is before it. -/
theorem splitlines_newline (line rest : List Char) :
    splitlines (line ++ '\n' :: rest) = pieces line ++ splitlines rest := by
  induction line using splitlines.induct with
  | case1 => rfl
  | case2 line ih =>
    show [] :: splitlines (line ++ '\n' :: rest) = [] :: pieces line ++ splitlines rest
    rw [ih, List.cons_append]
  | case3 c line notPair boundary ih =>
    by_cases last : c = '\r' ∧ line = []
    · obtain ⟨rfl, rfl⟩ := last
      rfl
    · have apart (after : List Char) : ∀ more, c = '\r' → line ++ '\n' :: after = '\n' :: more → False := by
        intro more carriage newline
        cases line with
        | nil => exact last ⟨carriage, rfl⟩
        | cons d line =>
          rw [List.cons_append, List.cons.injEq] at newline
          exact notPair line carriage (by rw [newline.1])
      rw [List.cons_append, splitlines_boundary boundary (apart rest), ih]
      unfold pieces
      rw [List.cons_append, splitlines_boundary boundary (apart []), List.cons_append]
  | case4 c line notPair plain last ih | case5 c line notPair plain first lines split ih =>
    have plain : isLineBoundary c = false := by simpa using plain
    rw [List.cons_append, splitlines_plain plain, ih, pieces_plain plain, pieces_split line]
    rfl

/-- The first piece begins like the line, as far as there is no boundary. -/
theorem isPrefixOf_first {start : List Char} (plain : ∀ c ∈ start, isLineBoundary c = false) (line : List Char) :
    start.isPrefixOf ((pieces line).headD []) = start.isPrefixOf line := by
  induction start generalizing line with
  | nil => simp
  | cons c start ih =>
    rw [List.forall_mem_cons] at plain
    cases line with
    | nil => rfl
    | cons d line =>
      by_cases same : c = d
      · subst same
        rw [pieces_plain plain.1, List.headD_cons]
        simp only [List.isPrefixOf_cons_cons, ih plain.2]
      · have other : (c :: start).isPrefixOf (d :: line) = false := by simp [List.isPrefixOf_cons_cons, same]
        rw [other]
        cases boundary : isLineBoundary d with
        | false =>
          rw [pieces_plain boundary, List.headD_cons]
          simp [List.isPrefixOf_cons_cons, same]
        | true =>
          have empty : (pieces (d :: line)).headD [] = [] := by
            unfold pieces
            rw [List.cons_append]
            generalize line ++ ['\n'] = text
            unfold splitlines
            split
            · rfl
            · rfl
            · rename_i split
              rw [List.cons.injEq] at split
              rw [← split.1, if_pos boundary]
              rfl
          rw [empty]
          rfl

/-- The first piece of a line has the sign of the line. -/
theorem countedLine_first {sign : Char} (plain : isLineBoundary sign = false) (line : List Char) :
    countedLine sign ((pieces line).headD []) = countedLine sign line := by
  unfold countedLine
  rw [isPrefixOf_first (by simpa using plain), isPrefixOf_first (by simpa using plain)]

/-! ## What is missed and what is counted by mistake -/

/-- A changed line that looks like the name of a file. -/
def PatchLine.missed (sign : Char) (line : PatchLine) : Bool :=
  (line.content? sign).any fun content => [sign, sign].isPrefixOf content

/-- The lines counted after a boundary within a line. -/
def PatchLine.spurious (sign : Char) (line : PatchLine) : Nat :=
  (laterPieces line.chars).countP (countedLine sign)

/-- How many changed lines have a content that begins with two of their sign. -/
def UnifiedPatch.missed (patch : UnifiedPatch) (sign : Char) : Nat :=
  (UnifiedPatch.lines patch).countP (PatchLine.missed sign)

/-- How many lines are counted that `splitlines` makes out of the insides of lines. -/
def UnifiedPatch.spurious (patch : UnifiedPatch) (sign : Char) : Nat :=
  ((UnifiedPatch.lines patch).map (PatchLine.spurious sign)).sum

/-- The two signs of a changed line. -/
def IsSign (sign : Char) : Prop := sign = '+' ∨ sign = '-'

/-- A sign is no boundary. -/
theorem IsSign.plain {sign : Char} (h : IsSign sign) : isLineBoundary sign = false := by
  rcases h with rfl | rfl <;> decide

/-- A line counts when it is a change that is not missed. -/
theorem PatchLine.counted_iff {sign : Char} (h : IsSign sign) (line : PatchLine) :
    (if countedLine sign line.chars then 1 else 0) + (if line.missed sign then 1 else 0) =
      if (line.content? sign).isSome then 1 else 0 := by
  have unsigned' {first : Char} {rest : List Char} (other : first ≠ sign) :
      countedLine sign (first :: rest) = false := by
    simp [countedLine, List.isPrefixOf_cons_cons, Ne.symm other]
  have signed (rest : List Char) : countedLine sign (sign :: rest) = !([sign, sign].isPrefixOf rest) := by
    simp [countedLine]
  cases line with
  | extended header =>
    have uncounted : countedLine sign (PatchLine.extended header).chars = false := by
      have unsigned := header.unsigned
      show countedLine sign header.chars = false
      cases chars : header.chars with
      | nil => rfl
      | cons first rest =>
        rw [chars, List.head?_cons] at unsigned
        have different : first ≠ sign := by
          rintro rfl
          rcases h with same | same
          · exact unsigned.1 (congrArg some same)
          · exact unsigned.2 (congrArg some same)
        exact unsigned' different
    simp [PatchLine.missed, PatchLine.content?, uncounted]
  | oldName name =>
    have uncounted : countedLine sign (PatchLine.oldName name).chars = false := by
      show countedLine sign ('-' :: '-' :: '-' :: ' ' :: name.chars) = false
      rcases h with rfl | rfl <;> simp [countedLine]
    simp [PatchLine.missed, PatchLine.content?, uncounted]
  | newName name =>
    have uncounted : countedLine sign (PatchLine.newName name).chars = false := by
      show countedLine sign ('+' :: '+' :: '+' :: ' ' :: name.chars) = false
      rcases h with rfl | rfl <;> simp [countedLine]
    simp [PatchLine.missed, PatchLine.content?, uncounted]
  | heading text =>
    have uncounted : countedLine sign (PatchLine.heading text).chars = false :=
      unsigned' (by rcases h with rfl | rfl <;> decide)
    simp [PatchLine.missed, PatchLine.content?, uncounted]
  | hunk line =>
    cases line with
    | context text =>
      have uncounted : countedLine sign (PatchLine.hunk (.context text)).chars = false :=
        unsigned' (by rcases h with rfl | rfl <;> decide)
      simp [PatchLine.missed, PatchLine.content?, uncounted]
    | noNewline =>
      have uncounted : countedLine sign (PatchLine.hunk .noNewline).chars = false := by
        rcases h with rfl | rfl <;> decide
      simp [PatchLine.missed, PatchLine.content?, uncounted]
    | added text =>
      rcases h with rfl | rfl
      · show (if countedLine '+' ('+' :: text.chars) then 1 else 0) +
          (if ['+', '+'].isPrefixOf text.chars then 1 else 0) = 1
        rw [signed]
        cases ['+', '+'].isPrefixOf text.chars <;> rfl
      · have uncounted : countedLine '-' (PatchLine.hunk (.added text)).chars = false := unsigned' (by decide)
        simp [PatchLine.missed, PatchLine.content?, uncounted]
    | removed text =>
      rcases h with rfl | rfl
      · have uncounted : countedLine '+' (PatchLine.hunk (.removed text)).chars = false := unsigned' (by decide)
        simp [PatchLine.missed, PatchLine.content?, uncounted]
      · show (if countedLine '-' ('-' :: text.chars) then 1 else 0) +
          (if ['-', '-'].isPrefixOf text.chars then 1 else 0) = 1
        rw [signed]
        cases ['-', '-'].isPrefixOf text.chars <;> rfl

/-- What is counted, with what is missed, is what is changed and what is counted by mistake. -/
theorem counted_patchText {sign : Char} (h : IsSign sign) (lines : List PatchLine) :
    (splitlines (patchText lines).toList).countP (countedLine sign) + lines.countP (PatchLine.missed sign) =
      lines.countP (fun line => (line.content? sign).isSome) + (lines.map (PatchLine.spurious sign)).sum := by
  rw [patchText, String.toList_ofList]
  induction lines with
  | nil => rfl
  | cons line lines ih =>
    have own := PatchLine.counted_iff h line
    have first : (pieces line.chars).countP (countedLine sign) =
        line.spurious sign + if countedLine sign line.chars then 1 else 0 := by
      rw [pieces_split, List.countP_cons, countedLine_first h.plain]
      rfl
    rw [List.flatMap_cons, List.append_assoc, List.singleton_append, splitlines_newline, List.countP_append, first,
      List.countP_cons, List.countP_cons, List.map_cons, List.sum_cons]
    omega

/-- The counts are exact, if and only if for either sign as many changed lines
are missed as lines are counted by mistake. -/
theorem countPatchChanges_iff (patch : UnifiedPatch) :
    countPatchChanges (UnifiedPatch.text patch) = (patch.changed '+', patch.changed '-') ↔
      patch.missed '+' = patch.spurious '+' ∧ patch.missed '-' = patch.spurious '-' := by
  have additions := counted_patchText (.inl rfl) (UnifiedPatch.lines patch)
  have deletions := counted_patchText (.inr rfl) (UnifiedPatch.lines patch)
  rw [countPatchChanges, Prod.mk.injEq]
  unfold UnifiedPatch.text UnifiedPatch.changed UnifiedPatch.missed UnifiedPatch.spurious
  omega

/-- A patch that adds one line. -/
def additionOf (text : LineText) : UnifiedPatch :=
  [{ extended := [], names := some (⟨"a/loop.c".toList, by decide⟩, ⟨"b/loop.c".toList, by decide⟩)
     hunks := [{ heading := ⟨" -0,0 +1 @@".toList, by decide⟩, lines := [.added text] }] }]

/-- An added line that increments a counter is not counted. -/
theorem increment_not_counted : ¬ ∀ patch : UnifiedPatch,
    countPatchChanges (UnifiedPatch.text patch) = (patch.changed '+', patch.changed '-') := by
  intro exact
  have counts := exact (additionOf ⟨"++counter;".toList, by decide⟩)
  revert counts
  decide +kernel

end SprintTicket
