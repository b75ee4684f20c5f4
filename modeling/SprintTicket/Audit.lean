import Mathlib.Algebra.Order.BigOperators.Group.List
import Mathlib.Algebra.Ring.Nat
import SprintTicket.Logic.Utf8
import SprintTicket.Text

/-!
# The final patch

What git printed becomes the text of `final.patch`: each output is decoded,
its newlines are normalised, whitespace at its end is stripped, and the sections
are joined. `final_patch_lossless_iff` says when nothing is lost on the way.

Texts are lists of characters, outputs and files lists of bytes.
-/

set_option autoImplicit false

namespace SprintTicket

open Utf8

/-- `value.replace("\r\n", "\n")`. -/
def replaceReturnFeed : List Char → List Char
  | '\r' :: '\n' :: rest => '\n' :: replaceReturnFeed rest
  | c :: rest => c :: replaceReturnFeed rest
  | [] => []

/-- `_normalize_newlines`. -/
def normalizeNewlines (value : List Char) : List Char :=
  (replaceReturnFeed value).map fun c => if c = '\r' then '\n' else c

/-- `decode_human_output`. -/
def decodeHumanOutput (value : List UInt8) : List Char := normalizeNewlines (decode value)

/-- Universal newlines leave no carriage return. -/
theorem normalizeNewlines_no_return (value : List Char) : '\r' ∉ normalizeNewlines value := by
  intro member
  obtain ⟨c, _, same⟩ := List.mem_map.mp member
  split at same
  · exact absurd same (by decide)
  · rename_i other
    exact other same

/-- Text without carriage returns is left as it is. -/
theorem replaceReturnFeed_plain {value : List Char} (plain : '\r' ∉ value) : replaceReturnFeed value = value := by
  fun_induction replaceReturnFeed value with
  | case1 rest ih => simp at plain
  | case2 c rest _ ih => rw [ih fun member => plain (List.mem_cons_of_mem _ member)]
  | case3 => rfl

/-- A text without carriage returns is normal. -/
theorem normalizeNewlines_plain {value : List Char} (plain : '\r' ∉ value) : normalizeNewlines value = value := by
  rw [normalizeNewlines, replaceReturnFeed_plain plain]
  conv_rhs => rw [← List.map_id value]
  apply List.map_congr_left
  intro c member
  have other : c ≠ '\r' := by
    rintro rfl
    exact plain member
  exact if_neg other

/-- `str.rstrip`. -/
def rstrip (value : List Char) : List Char := value.rdropWhile isSpace

/-- `_join_git_sections`. -/
def joinGitSections (parts : List (List Char)) : List Char :=
  let content := ['\n'].intercalate (parts.filter fun part => part ≠ [])
  if content = [] then [] else content ++ ['\n']

/-- `diff_including_untracked`, of the outputs git printed. -/
def diffIncludingUntracked (tracked : List UInt8) (untracked : List (List UInt8)) : List Char :=
  joinGitSections
    (rstrip (decodeHumanOutput tracked) :: untracked.map fun output => rstrip (decodeHumanOutput output))

/-- The bytes `FileSystemFinalPatchCapture.capture` writes. -/
def finalPatch (tracked : List UInt8) (untracked : List (List UInt8)) : List UInt8 :=
  encode (diffIncludingUntracked tracked untracked)

/-- The sections stand one after another, each before one line feed. -/
theorem joinGitSections_eq (parts : List (List Char)) :
    joinGitSections parts = (parts.filter fun part => part ≠ []).flatMap fun part => part ++ ['\n'] := by
  unfold joinGitSections
  have filled : ∀ part ∈ parts.filter (fun part => part ≠ []), part ≠ [] := by
    intro part member
    simpa using (List.mem_filter.mp member).2
  generalize parts.filter (fun part => part ≠ []) = sections at filled
  have joined : ∀ part rest, ['\n'].intercalate (part :: rest) ++ ['\n'] =
      (part :: rest).flatMap fun part => part ++ ['\n'] := by
    intro part rest
    induction rest generalizing part with
    | nil => simp
    | cons next rest ih =>
      have later := ih next
      rw [List.intercalate_cons_cons, List.append_assoc, later]
      simp
  cases sections with
  | nil => rfl
  | cons part rest =>
    have content : ['\n'].intercalate (part :: rest) ≠ [] := by
      have first := filled part List.mem_cons_self
      cases rest <;> simp [List.intercalate_cons_cons, first]
    simp only [content, if_false]
    exact joined part rest

/-! ## A lossless patch -/

/-- An output but for the line feeds at its end. -/
def sectionBytes (output : List UInt8) : List UInt8 := output.rdropWhile (· == lineFeed)

/-- The patch holds the outputs in order, byte for byte, with line feeds between
them. -/
inductive Lossless : List (List UInt8) → List UInt8 → Prop
  | nil : Lossless [] []
  | blank {output : List UInt8} {outputs : List (List UInt8)} {patch : List UInt8}
      (empty : sectionBytes output = []) : Lossless outputs patch → Lossless (output :: outputs) patch
  | section {output : List UInt8} {outputs : List (List UInt8)} {patch : List UInt8} (feeds : Nat)
      (filled : sectionBytes output ≠ []) : Lossless outputs patch →
        Lossless (output :: outputs) (sectionBytes output ++ lineFeed :: (List.replicate feeds lineFeed ++ patch))

/-- An output of which nothing is lost: well-formed UTF-8 without carriage
returns, and no other whitespace before the line feeds at its end. -/
structure Kept (output : List UInt8) : Prop where
  valid : Valid output
  no_return : carriageReturn ∉ output
  ending : ((decode output).rdropWhile (· == '\n')).getLast?.any isSpace = false

/-- The section of an output as it is persisted. -/
def persistedSection (output : List UInt8) : List UInt8 := encode (rstrip (decodeHumanOutput output))

/-- The persisted file holds the persisted sections, each before one line feed. -/
def persistedSections (outputs : List (List UInt8)) : List UInt8 :=
  (outputs.filter fun output => persistedSection output ≠ []).flatMap fun output =>
    persistedSection output ++ [lineFeed]

/-- An output that strips to nothing gives no section. -/
theorem persistedSections_blank {output : List UInt8} {rest : List (List UInt8)} (empty : persistedSection output = []) :
    persistedSections (output :: rest) = persistedSections rest := by
  simp [persistedSections, empty]

theorem persistedSections_cons {output : List UInt8} {rest : List (List UInt8)} (filled : persistedSection output ≠ []) :
    persistedSections (output :: rest) = persistedSection output ++ lineFeed :: persistedSections rest := by
  rw [persistedSections, List.filter_cons_of_pos (by simpa using filled), List.flatMap_cons, List.append_assoc,
    List.singleton_append]
  rfl

/-- The patch is the tracked section followed by the untracked ones. -/
theorem finalPatch_eq (tracked : List UInt8) (untracked : List (List UInt8)) :
    finalPatch tracked untracked = persistedSections (tracked :: untracked) := by
  have parts : finalPatch tracked untracked =
      encode (joinGitSections ((tracked :: untracked).map fun output => rstrip (decodeHumanOutput output))) := rfl
  rw [parts, joinGitSections_eq]
  generalize tracked :: untracked = outputs
  induction outputs with
  | nil => rfl
  | cons output rest ih =>
    by_cases empty : rstrip (decodeHumanOutput output) = []
    · have blank : persistedSection output = [] := by rw [persistedSection, empty, encode_nil]
      rw [List.map_cons, List.filter_cons_of_neg (by simp [empty]), ih, persistedSections_blank blank]
    · have filled : persistedSection output ≠ [] := fun same => empty (encode_eq_nil_iff.mp same)
      rw [List.map_cons, List.filter_cons_of_pos (by simp [empty]), List.flatMap_cons, encode_append, ih,
        persistedSections_cons filled, encode_append, encode_cons, encode_lineFeed]
      simp [persistedSection]

/-- What a persisted file is: well-formed UTF-8 without carriage returns. -/
theorem persistedSections_text (outputs : List (List UInt8)) :
    ∃ text, persistedSections outputs = encode text ∧ '\r' ∉ text := by
  induction outputs with
  | nil => exact ⟨[], rfl, List.not_mem_nil⟩
  | cons output rest ih =>
    obtain ⟨text, same, plain⟩ := ih
    by_cases empty : persistedSection output = []
    · exact ⟨text, by rw [persistedSections_blank empty, same], plain⟩
    · refine ⟨rstrip (decodeHumanOutput output) ++ '\n' :: text, ?_, ?_⟩
      · rw [persistedSections_cons empty, same, encode_append, encode_cons, encode_lineFeed]
        rfl
      · have section_plain : '\r' ∉ rstrip (decodeHumanOutput output) := fun member =>
          normalizeNewlines_no_return _ ((List.rdropWhile_prefix isSpace _).subset member)
        simp [section_plain, plain]

/-- An output is its section and line feeds. -/
theorem sectionBytes_append (output : List UInt8) :
    ∃ feeds, output = sectionBytes output ++ List.replicate feeds lineFeed := by
  refine ⟨(output.rtakeWhile (· == lineFeed)).length, ?_⟩
  have feeds : output.rtakeWhile (· == lineFeed) =
      List.replicate (output.rtakeWhile (· == lineFeed)).length lineFeed := by
    rw [List.eq_replicate_iff]
    refine ⟨rfl, fun byte member => ?_⟩
    have feed : (byte == lineFeed) = true := List.mem_rtakeWhile_imp (p := (· == lineFeed)) member
    exact eq_of_beq feed
  rw [← feeds]
  exact List.rdropWhile_append_rtakeWhile.symm

/-- What follows the leading newlines of a valid text is valid. -/
theorem valid_replicate_append {feeds : Nat} {bytes : List UInt8}
    (valid : Valid (List.replicate feeds lineFeed ++ bytes)) : Valid bytes := by
  induction feeds with
  | zero => exact valid
  | succ feeds ih =>
    have front : Valid ([] ++ lineFeed :: (List.replicate feeds lineFeed ++ bytes)) := valid
    exact ih (valid_split front).2

/-- The sections of a well-formed lossless patch are well-formed. -/
theorem Lossless.valid {outputs : List (List UInt8)} {patch : List UInt8} (lossless : Lossless outputs patch)
    (valid : Valid patch) : ∀ output ∈ outputs, Valid (sectionBytes output) := by
  induction lossless with
  | nil => simp
  | blank empty _ ih =>
    rw [List.forall_mem_cons]
    exact ⟨⟨[], empty⟩, ih valid⟩
  | «section» feeds _ _ ih =>
    obtain ⟨first, rest⟩ := valid_split valid
    rw [List.forall_mem_cons]
    exact ⟨first, ih (valid_replicate_append rest)⟩

/-- A lossless patch without carriage returns comes from outputs without them. -/
theorem Lossless.no_return {outputs : List (List UInt8)} {patch : List UInt8} (lossless : Lossless outputs patch)
    (plain : carriageReturn ∉ patch) : ∀ output ∈ outputs, carriageReturn ∉ sectionBytes output := by
  induction lossless with
  | nil => simp
  | blank empty _ ih =>
    rw [List.forall_mem_cons]
    exact ⟨by simp [empty], ih plain⟩
  | «section» feeds _ _ ih =>
    simp only [List.mem_append, List.mem_cons, not_or] at plain
    rw [List.forall_mem_cons]
    exact ⟨plain.1, ih plain.2.2.2⟩

/-- The bytes a section takes, with the line feed after it. -/
def sectionCost (bytes : List UInt8) : Nat := if bytes = [] then 0 else bytes.length + 1

/-- The cost of a section grows with its length, and determines it. -/
theorem sectionCost_mono {left right : List UInt8} (le : left.length ≤ right.length) :
    sectionCost left ≤ sectionCost right := by
  unfold sectionCost
  split
  · exact Nat.zero_le _
  · rename_i filled
    have positive := List.length_pos_iff.mpr filled
    rw [if_neg (List.ne_nil_of_length_pos (by omega))]
    omega

theorem sectionCost_injective {left right : List UInt8} (same : sectionCost left = sectionCost right) :
    left.length = right.length := by
  unfold sectionCost at same
  split at same
  · split at same
    · simp_all
    · omega
  · split at same
    · omega
    · omega

/-- A lossless patch has room for every section. -/
theorem Lossless.cost_le {outputs : List (List UInt8)} {patch : List UInt8} (lossless : Lossless outputs patch) :
    (outputs.map fun output => sectionCost (sectionBytes output)).sum ≤ patch.length := by
  induction lossless with
  | nil => simp
  | blank empty _ ih => simpa [sectionCost, empty] using ih
  | «section» feeds filled _ ih =>
    simp only [List.map_cons, List.sum_cons, sectionCost, filled, if_false, List.length_append, List.length_cons,
      List.length_replicate]
    simp only [sectionCost] at ih
    omega

/-- The length of a patch is the cost of its sections. -/
theorem persistedSections_length (outputs : List (List UInt8)) :
    (persistedSections outputs).length = (outputs.map fun output => sectionCost (persistedSection output)).sum := by
  induction outputs with
  | nil => rfl
  | cons output rest ih =>
    rw [List.map_cons, List.sum_cons, ← ih, sectionCost]
    by_cases empty : persistedSection output = []
    · rw [persistedSections_blank empty, if_pos empty, Nat.zero_add]
    · rw [persistedSections_cons empty, if_neg empty, List.length_append, List.length_cons]
      omega

/-- Sums of smaller terms that are not smaller have equal terms. -/
theorem eq_of_sum_le {α : Type} {small large : α → Nat} {items : List α} (le : ∀ item ∈ items, small item ≤ large item)
    (sum : (items.map large).sum ≤ (items.map small).sum) : ∀ item ∈ items, small item = large item := by
  induction items with
  | nil => simp
  | cons item rest ih =>
    rw [List.forall_mem_cons] at le ⊢
    simp only [List.map_cons, List.sum_cons] at sum
    have later : (rest.map small).sum ≤ (rest.map large).sum := List.sum_le_sum le.2
    have first := le.1
    exact ⟨by omega, ih le.2 (by omega)⟩

/-- Stripping by the weaker predicate swallows the stripping before it. -/
theorem rdropWhile_rdropWhile {p q : Char → Bool} (weaker : ∀ c, q c = true → p c = true) (text : List Char) :
    (text.rdropWhile q).rdropWhile p = text.rdropWhile p := by
  induction text using List.reverseRecOn with
  | nil => rfl
  | append_singleton text c ih =>
    by_cases dropped : q c = true
    · rw [List.rdropWhile_concat_pos _ _ _ dropped, List.rdropWhile_concat_pos _ _ _ (weaker c dropped), ih]
    · rw [List.rdropWhile_concat_neg _ _ _ dropped]

/-- The section of a valid output without carriage returns only loses the
whitespace before its line feeds. -/
theorem persistedSection_eq {output : List UInt8} (valid : Valid output) (plain : carriageReturn ∉ output) :
    sectionBytes output = encode ((decode output).rdropWhile (· == '\n')) ∧
      persistedSection output = encode (((decode output).rdropWhile (· == '\n')).rdropWhile isSpace) := by
  obtain ⟨text, rfl⟩ := valid
  rw [mem_encode (by decide) encode_carriageReturn] at plain
  have feeds : ∀ c : Char, (c == '\n') = true → isSpace c = true := by
    intro c same
    rw [eq_of_beq same]
    decide
  rw [decode_encode, rdropWhile_rdropWhile feeds]
  refine ⟨rdropWhile_encode text, ?_⟩
  rw [persistedSection, decodeHumanOutput, decode_encode, normalizeNewlines_plain plain]
  rfl

/-- Nothing is lost of a section exactly when its persisted form is as long. -/
theorem encode_rdropWhile_length {p : Char → Bool} {text : List Char} :
    (encode (text.rdropWhile p)).length ≤ (encode text).length ∧
      ((encode (text.rdropWhile p)).length = (encode text).length ↔ text.rdropWhile p = text) := by
  have split : encode text = encode (text.rdropWhile p) ++ encode (text.rtakeWhile p) := by
    rw [← encode_append, List.rdropWhile_append_rtakeWhile]
  refine ⟨?_, ?_, fun same => by rw [same]⟩
  · rw [split, List.length_append]
    omega
  · intro same
    rw [split, List.length_append] at same
    have none : encode (text.rtakeWhile p) = [] := List.length_eq_zero_iff.mp (by omega)
    have dropped := encode_eq_nil_iff.mp none
    conv_rhs => rw [← List.rdropWhile_append_rtakeWhile (p := p) (l := text), dropped, List.append_nil]

/-- A section that is kept reaches the patch byte for byte. -/
theorem Kept.persisted {output : List UInt8} (kept : Kept output) : persistedSection output = sectionBytes output := by
  obtain ⟨bytes, persisted⟩ := persistedSection_eq kept.valid kept.no_return
  rw [bytes, persisted, rdropWhile_eq_self_iff_last.mpr kept.ending]

/-- Kept outputs are persisted without loss. -/
theorem lossless_of_kept {outputs : List (List UInt8)} (kept : ∀ output ∈ outputs, Kept output) :
    Lossless outputs (persistedSections outputs) := by
  induction outputs with
  | nil => exact .nil
  | cons output rest ih =>
    rw [List.forall_mem_cons] at kept
    have same := kept.1.persisted
    by_cases empty : persistedSection output = []
    · rw [persistedSections_blank empty]
      exact .blank (same ▸ empty) (ih kept.2)
    · rw [persistedSections_cons empty, same]
      exact .section 0 (same ▸ empty) (ih kept.2)

/-- A file that lost nothing had only outputs that are kept. -/
theorem kept_of_lossless {outputs : List (List UInt8)} (lossless : Lossless outputs (persistedSections outputs)) :
    ∀ output ∈ outputs, Kept output := by
  obtain ⟨text, same, plain⟩ := persistedSections_text outputs
  have valid : ∀ output ∈ outputs, Valid output := by
    intro output member
    obtain ⟨front, encoded⟩ := lossless.valid ⟨text, same⟩ output member
    obtain ⟨feeds, split⟩ := sectionBytes_append output
    have feed : ∀ n, encode (List.replicate n '\n') = List.replicate n lineFeed := by
      intro n
      induction n with
      | zero => rfl
      | succ n ih => rw [List.replicate_succ, encode_cons, ih, encode_lineFeed]; rfl
    exact ⟨front ++ List.replicate feeds '\n', by rw [encode_append, ← encoded, feed, ← split]⟩
  have no_return : ∀ output ∈ outputs, carriageReturn ∉ output := by
    intro output member inside
    have absent : carriageReturn ∉ persistedSections outputs := by
      rw [same, mem_encode (by decide) encode_carriageReturn]
      exact plain
    obtain ⟨feeds, split⟩ := sectionBytes_append output
    rw [split, List.mem_append] at inside
    rcases inside with inside | feed
    · exact lossless.no_return absent output member inside
    · exact absurd (List.eq_of_mem_replicate feed) (by decide)
  have shorter : ∀ output ∈ outputs,
      sectionCost (persistedSection output) ≤ sectionCost (sectionBytes output) := by
    intro output member
    obtain ⟨bytes, persisted⟩ := persistedSection_eq (valid output member) (no_return output member)
    rw [bytes, persisted]
    exact sectionCost_mono encode_rdropWhile_length.1
  have total := lossless.cost_le
  rw [persistedSections_length] at total
  have costs := eq_of_sum_le shorter total
  intro output member
  refine ⟨valid output member, no_return output member, ?_⟩
  obtain ⟨bytes, persisted⟩ := persistedSection_eq (valid output member) (no_return output member)
  have cost := costs output member
  rw [bytes, persisted] at cost
  rw [← rdropWhile_eq_self_iff_last]
  exact encode_rdropWhile_length.2.mp (sectionCost_injective cost)

/-- The final patch holds every line of what git printed exactly when each
output is kept. -/
theorem final_patch_lossless_iff (tracked : List UInt8) (untracked : List (List UInt8)) :
    Lossless (tracked :: untracked) (finalPatch tracked untracked) ↔
      ∀ output ∈ tracked :: untracked, Kept output := by
  rw [finalPatch_eq]
  exact ⟨kept_of_lossless, lossless_of_kept⟩

/-- A hunk whose last line is an empty line of the source, as context. -/
def blankContextDiff : List UInt8 :=
  encode "--- a/notes.txt\n+++ b/notes.txt\n@@ -1,2 +1,2 @@\n-old\n+new\n \n".toList

/-- The context line is gone and the hunk has one line less than its header says. -/
theorem blank_context_lost :
    finalPatch blankContextDiff [] =
        encode "--- a/notes.txt\n+++ b/notes.txt\n@@ -1,2 +1,2 @@\n-old\n+new\n".toList ∧
      ¬Lossless [blankContextDiff] (finalPatch blankContextDiff []) := by
  constructor
  · decide +kernel
  · intro lossless
    rw [finalPatch_eq] at lossless
    have ending := (kept_of_lossless lossless blankContextDiff List.mem_cons_self).ending
    rw [blankContextDiff, decode_encode] at ending
    revert ending
    decide

end SprintTicket
