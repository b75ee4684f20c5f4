import Mathlib.Data.List.Sort
import Mathlib.Data.String.Basic
import SprintTicket.HandoffSoundness
import SprintTicket.Timestamps

/-!
# Listing the runs

`list_run_records` sorts the records of a runs directory by the texts of their
last updates, newest first. A text without a fraction sorts after the texts of
the same second with one, so the order is the order of time unless an update of
a whole second meets a later one of that second: `listRunRecords_newest_first_iff`.
-/

set_option autoImplicit false

namespace SprintTicket

open Checks

/-- An entry of the runs directory. -/
structure RunEntry where
  name : String
  isDirectory : Bool
  /-- `(entry / RUN_RECORD_FILE).is_file()`. -/
  hasRecord : Bool
  /-- `RunOwnership.acquire` and the validations around the read. -/
  owned : Except Raised Unit
  /-- `load_run_record`. -/
  record : Except Raised RunRecord

/-- `load_owned_run_record`. -/
def loadOwnedRunRecord (root : String) (entry : RunEntry) : Except Raised RunRecord := do
  reraiseAny [.runOwnershipError, .valueError] (fun error => ⟨.runError, error.message⟩) entry.owned
  let record ← entry.record
  raiseIf (record.runId ≠ entry.name)
    ⟨.runError, "Run record identity does not match its owning directory: expected '" ++ entry.name ++
      "', found '" ++ record.runId ++ "'."⟩
  raiseIf (pathString record.runTicketCopyPath ≠ pathString (root ++ "/" ++ entry.name ++ "/ticket.md"))
    ⟨.runError, "Run record ticket path does not match its owning run directory."⟩
  pure record

/-- What stands at the path of the runs directory. -/
inductive RunsRoot
  | missing
  | unresolved (error : Raised)
  | notDirectory
  | unlisted (error : Raised)
  | directory (root : String) (entries : List RunEntry)

/-- The order of `sorted(root.iterdir())`. -/
def EntryOrder (left right : RunEntry) : Prop := left.name ≤ right.name

instance : DecidableRel EntryOrder := fun _ _ => inferInstanceAs (Decidable (_ ≤ _))

/-- The records of the entries that hold one. -/
def loadRunRecords (root : String) (entries : List RunEntry) : Except Raised (List RunRecord) :=
  ((entries.insertionSort EntryOrder).filter fun entry => entry.isDirectory && entry.hasRecord).mapM
    (loadOwnedRunRecord root)

/-- The order of the sort key, reversed. -/
def NewestFirst (left right : RunRecord) : Prop :=
  right.updatedTimestamp < left.updatedTimestamp ∨
    right.updatedTimestamp = left.updatedTimestamp ∧ right.runId ≤ left.runId

instance : DecidableRel NewestFirst := fun _ _ => inferInstanceAs (Decidable (_ ∨ _))

/-- `list_run_records`. -/
def listRunRecords : RunsRoot → Except Raised (List RunRecord)
  | .missing | .notDirectory => pure []
  | .unresolved error | .unlisted error =>
    .error ⟨.runError, "Could not inspect the runs directory safely: " ++ error.message⟩
  | .directory root entries => do
    let records ← loadRunRecords root entries
    pure (records.insertionSort NewestFirst)

/-! ## The order of the listing -/

instance : Std.Total NewestFirst where
  total a b := by
    unfold NewestFirst
    rcases lt_trichotomy a.updatedTimestamp b.updatedTimestamp with less | same | more
    · exact .inr (.inl less)
    · exact (le_total b.runId a.runId).imp (fun le => .inr ⟨same.symm, le⟩) (fun le => .inr ⟨same, le⟩)
    · exact .inl (.inl more)

instance : IsTrans RunRecord NewestFirst where
  trans a b c hab hbc := by
    rcases hab with less | ⟨same, le⟩
    · rcases hbc with less' | ⟨same', -⟩
      · exact .inl (less'.trans less)
      · exact .inl (same' ▸ less)
    · rcases hbc with less' | ⟨same', le'⟩
      · exact .inl (same ▸ less')
      · exact .inr ⟨same'.trans same, le'.trans le⟩

/-- The later of two records in a listing was not written as later. -/
theorem NewestFirst.written {left right : RunRecord} {updatedAt : RunRecord → Int}
    (stampedLeft : IsInstant (updatedAt left) ∧ left.updatedTimestamp = formatTimestamp (updatedAt left))
    (stampedRight : IsInstant (updatedAt right) ∧ right.updatedTimestamp = formatTimestamp (updatedAt right))
    (h : NewestFirst left right) : writtenInstant (updatedAt right) ≤ writtenInstant (updatedAt left) := by
  by_contra more
  have less : left.updatedTimestamp < right.updatedTimestamp := by
    rw [stampedLeft.2, stampedRight.2]
    exact formatTimestamp_lt stampedLeft.1 stampedRight.1 (Int.not_le.mp more)
  rcases h with other | ⟨same, -⟩
  · exact absurd less (lt_asymm other)
  · exact absurd less (by rw [same]; exact lt_irrefl _)

/-- Two members of a list stand in it in some order. -/
theorem pairwise_or {α : Type} {R : α → α → Prop} {items : List α} (h : items.Pairwise R) {a b : α}
    (ha : a ∈ items) (hb : b ∈ items) : a = b ∨ R a b ∨ R b a := by
  induction items with
  | nil => exact absurd ha List.not_mem_nil
  | cons c items ih =>
    rw [List.pairwise_cons] at h
    rcases List.mem_cons.mp ha with here | later <;> rcases List.mem_cons.mp hb with here' | later'
    · exact .inl (here.trans here'.symm)
    · exact .inr (.inl (here ▸ h.1 b later'))
    · exact .inr (.inr (here' ▸ h.1 a later))
    · exact ih h.2 later later'

/-- What the reading gives and the listing holds. -/
theorem listRunRecords_loaded {root : String} {entries : List RunEntry} {loaded : List RunRecord}
    (h : loadRunRecords root entries = .ok loaded) :
    listRunRecords (.directory root entries) = .ok (loaded.insertionSort NewestFirst) := by
  rw [listRunRecords, ok_bind h]
  rfl

section Stamped

variable {records : List RunRecord} {updatedAt : RunRecord → Int}
  (stamped : ∀ record ∈ records,
    IsInstant (updatedAt record) ∧ record.updatedTimestamp = formatTimestamp (updatedAt record))
  (sorted : records.Pairwise NewestFirst)

include stamped sorted

/-- In an order of time no update of a whole second stands with a later one of that second. -/
theorem apart_of_chronological
    (chronological : records.Pairwise fun earlier later => updatedAt later ≤ updatedAt earlier)
    {whole later : RunRecord} (hwhole : whole ∈ records) (hlater : later ∈ records)
    (zero : updatedAt whole % 1000000 = 0) :
    ¬ (updatedAt whole < updatedAt later ∧ updatedAt later < updatedAt whole + 1000000) := by
  rintro ⟨before, second⟩
  have fraction : updatedAt later % 1000000 ≠ 0 := by omega
  rcases pairwise_or (chronological.and sorted) hwhole hlater with same | ⟨newer, -⟩ | ⟨-, written⟩
  · rw [same] at before
    exact absurd before (lt_irrefl _)
  · omega
  · have texts := written.written (stamped later hlater) (stamped whole hwhole)
    unfold writtenInstant at texts
    rw [if_pos zero, if_neg fraction] at texts
    omega

/-- When nothing follows a whole second within that second, the texts are ordered as the times. -/
theorem chronological_of_apart
    (apart : ∀ whole ∈ records, ∀ later ∈ records, updatedAt whole % 1000000 = 0 →
      ¬ (updatedAt whole < updatedAt later ∧ updatedAt later < updatedAt whole + 1000000)) :
    records.Pairwise fun earlier later => updatedAt later ≤ updatedAt earlier := by
  refine sorted.imp_of_mem ?_
  intro left right hleft hright newest
  have texts := newest.written (stamped left hleft) (stamped right hright)
  have other := apart left hleft right hright
  unfold writtenInstant at texts
  by_contra earlier
  split at texts <;> split at texts <;> omega

end Stamped

/-- The runs are listed newest first, if and only if no update of a whole second
is listed with a later one of that second. -/
theorem listRunRecords_newest_first_iff {root : String} {entries : List RunEntry} {loaded : List RunRecord}
    {updatedAt : RunRecord → Int} (h : loadRunRecords root entries = .ok loaded)
    (stamped : ∀ record ∈ loaded,
      IsInstant (updatedAt record) ∧ record.updatedTimestamp = formatTimestamp (updatedAt record)) :
    (∃ records, listRunRecords (.directory root entries) = .ok records ∧ records.Perm loaded ∧
        records.Pairwise fun earlier later => updatedAt later ≤ updatedAt earlier) ↔
      ∀ whole ∈ loaded, ∀ later ∈ loaded, updatedAt whole % 1000000 = 0 →
        ¬ (updatedAt whole < updatedAt later ∧ updatedAt later < updatedAt whole + 1000000) := by
  have listed := listRunRecords_loaded h
  have members (record : RunRecord) : record ∈ loaded.insertionSort NewestFirst ↔ record ∈ loaded :=
    List.mem_insertionSort NewestFirst
  have sorted := List.pairwise_insertionSort NewestFirst loaded
  have stamped' := fun record member => stamped record ((members record).mp member)
  constructor
  · rintro ⟨records, result, -, chronological⟩ whole hwhole later hlater zero
    rw [listed, Except.ok.injEq] at result
    subst result
    exact apart_of_chronological stamped' sorted chronological ((members whole).mpr hwhole)
      ((members later).mpr hlater) zero
  · intro apart
    refine ⟨_, listed, List.perm_insertionSort NewestFirst loaded, ?_⟩
    apply chronological_of_apart stamped' sorted
    intro whole hwhole later hlater
    exact apart whole ((members whole).mp hwhole) later ((members later).mp hlater)

/-- The example run with another name and another last update. -/
def exampleRun (name : String) (valid : validRunId name = true) (updated : Int) : RunRecord :=
  { exampleRecord with
    runId := name
    runTicketCopyPath := "/runs/" ++ name ++ "/ticket.md"
    updatedTimestamp := formatTimestamp updated
    valid := by simp [validateRunFields, valid, exampleRecord, WorkflowState.failureStop, raiseIf, bind, Except.bind] }

/-- The entry of such a run. -/
def exampleRunEntry (record : RunRecord) : RunEntry := ⟨record.runId, true, true, .ok (), .ok record⟩

/-- Two runs, the second updated the given time after the first. -/
def exampleRuns (gap : Int) : List RunRecord := [exampleRun "r1" (by decide) 0, exampleRun "r2" (by decide) gap]

/-- When they were updated. -/
def exampleUpdatedAt (gap : Int) (record : RunRecord) : Int := if record.runId = "r1" then 0 else gap

theorem exampleRuns_loaded (gap : Int) :
    loadRunRecords "/runs" ((exampleRuns gap).map exampleRunEntry) = .ok (exampleRuns gap) := by
  have ordered : ((exampleRuns gap).map exampleRunEntry).Pairwise EntryOrder := by
    simp [exampleRuns, exampleRunEntry, exampleRun, EntryOrder]
  have load (name : String) (valid : validRunId name = true) (updated : Int) :
      loadOwnedRunRecord "/runs" (exampleRunEntry (exampleRun name valid updated)) =
        .ok (exampleRun name valid updated) := by
    simp [loadOwnedRunRecord, exampleRunEntry, exampleRun, reraiseAny, raiseIf, Except.mapError, bind,
      Except.bind, pure, Except.pure]
  unfold loadRunRecords
  rw [ordered.insertionSort_eq]
  show List.mapM (loadOwnedRunRecord "/runs")
    [exampleRunEntry (exampleRun "r1" (by decide) 0), exampleRunEntry (exampleRun "r2" (by decide) gap)] = _
  rw [List.mapM_cons, List.mapM_cons, load, load]
  rfl

theorem exampleRuns_stamped {gap : Int} (range : IsInstant gap) : ∀ record ∈ exampleRuns gap,
    IsInstant (exampleUpdatedAt gap record) ∧
      record.updatedTimestamp = formatTimestamp (exampleUpdatedAt gap record) := by
  have first : IsInstant 0 := by decide
  simp [exampleRuns, exampleRun, exampleUpdatedAt, first, range]

theorem listRunRecords_newest_first_iff_example :
    ∃ records, listRunRecords (.directory "/runs" ((exampleRuns 1500000).map exampleRunEntry)) = .ok records ∧
      records.Perm (exampleRuns 1500000) ∧
      records.Pairwise fun earlier later => exampleUpdatedAt 1500000 later ≤ exampleUpdatedAt 1500000 earlier :=
  (listRunRecords_newest_first_iff (exampleRuns_loaded 1500000) (exampleRuns_stamped (by decide))).mpr
    (by simp [exampleRuns, exampleRun, exampleUpdatedAt])

/-- An update of a whole second is listed before one half a second later. -/
theorem whole_second_listed_first : ¬ ∀ (root : String) (entries : List RunEntry) (loaded : List RunRecord)
    (updatedAt : RunRecord → Int), loadRunRecords root entries = .ok loaded →
    (∀ record ∈ loaded,
      IsInstant (updatedAt record) ∧ record.updatedTimestamp = formatTimestamp (updatedAt record)) →
    ∃ records, listRunRecords (.directory root entries) = .ok records ∧
      records.Pairwise fun earlier later => updatedAt later ≤ updatedAt earlier := by
  intro newest
  have stamped := exampleRuns_stamped (show IsInstant 500000 by decide)
  obtain ⟨records, result, chronological⟩ :=
    newest _ _ _ (exampleUpdatedAt 500000) (exampleRuns_loaded 500000) stamped
  rw [listRunRecords_loaded (exampleRuns_loaded 500000), Except.ok.injEq] at result
  subst result
  have members (record : RunRecord) :
      record ∈ (exampleRuns 500000).insertionSort NewestFirst ↔ record ∈ exampleRuns 500000 :=
    List.mem_insertionSort NewestFirst
  have apart := apart_of_chronological (fun record member => stamped record ((members record).mp member))
    (List.pairwise_insertionSort NewestFirst _) chronological
    ((members (exampleRun "r1" (by decide) 0)).mpr (by simp [exampleRuns]))
    ((members (exampleRun "r2" (by decide) 500000)).mpr (by simp [exampleRuns])) rfl
  exact apart ⟨by decide, by decide⟩

end SprintTicket
