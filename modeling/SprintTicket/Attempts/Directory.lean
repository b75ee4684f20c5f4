import SprintTicket.Attempts.Ledger
import SprintTicket.Attempts.RoundTrip

/-!
# The attempts directory

A run keeps one directory for each attempt. `loadAttemptRecords` reads those that
are not hidden and hold a record; `nextSequence` looks at the number in front of
every name that is not hidden, whether the directory holds a record or not.

`Stores` says that the records on view are those of a log; then the log is what
is loaded (`Stores.load`).
-/

set_option autoImplicit false

namespace SprintTicket

open AttemptCodec Canonical Checks JsonSyntax Utf8

/-- `name.startswith(".")`. -/
def isHidden (name : String) : Bool := name.toList.head? = some '.'

/-- The number that `_ATTEMPT_DIRECTORY_PATTERN` finds in a whole name: digits that
are not all zero, a dash, and something that has no line break. -/
def attemptDirectoryNumber (name : String) : Option Nat :=
  match name.toList.span Char.isDigit with
  | (digits, '-' :: rest) =>
    if digits.any (· ≠ '0') ∧ rest ≠ [] ∧ '\n' ∉ rest then some (Nat.ofDigitChars 10 digits 0) else none
  | _ => none

/-- `_directory_name(record)`. -/
def AttemptFields.directoryName (record : AttemptFields) : String :=
  SprintTicket.directoryName record.sequence record.phase

/-- Leading zeros do not change a number. -/
theorem ofDigitChars_zeros (count : Nat) (digits : List Char) :
    Nat.ofDigitChars 10 (List.replicate count '0' ++ digits) 0 = Nat.ofDigitChars 10 digits 0 := by
  induction count with
  | zero => rfl
  | succ count ih =>
    rw [List.replicate_succ, List.cons_append, Nat.ofDigitChars_cons]
    exact ih

theorem toDigits_any {n : Nat} (positive : 1 ≤ n) : ((Nat.toDigits 10 n).any (· ≠ '0')) = true := by
  by_contra none
  have zeros : ∀ c ∈ Nat.toDigits 10 n, c = '0' := by simpa using none
  have value := Nat.ofDigitChars_ten_toDigits (n := n)
  rw [List.eq_replicate_of_mem zeros, ← List.append_nil (List.replicate _ _), ofDigitChars_zeros] at value
  exact absurd value (by rw [Nat.ofDigitChars_nil]; omega)

theorem threeDigits_digits (n : Nat) : ∀ c ∈ (threeDigits n).toList, c.isDigit = true := by
  intro c member
  rw [threeDigits, String.toList_ofList, List.mem_append] at member
  rcases member with zero | digit
  · rw [List.eq_of_mem_replicate zero]
    rfl
  · exact Nat.isDigit_of_mem_toDigits (by decide) (by decide) digit

theorem threeDigits_cons (n : Nat) : ∃ c rest, (threeDigits n).toList = c :: rest ∧ c.isDigit = true := by
  cases digits : (threeDigits n).toList with
  | nil =>
    rw [threeDigits, String.toList_ofList, List.append_eq_nil_iff] at digits
    exact absurd digits.2 Nat.toDigits_ne_nil
  | cons c rest => exact ⟨c, rest, rfl, threeDigits_digits n c (digits ▸ List.mem_cons_self)⟩

/-- The name of an attempt's directory: three digits or more, a dash, the phase. -/
theorem directoryName_toList (n : Nat) (phase : AttemptPhase) :
    (directoryName n phase).toList = (threeDigits n).toList ++ '-' :: (phaseDefinition phase).slug.toList := by
  rw [directoryName, String.toList_append, String.toList_append, List.append_assoc]
  rfl

/-- The name of a directory carries the sequence of its attempt. -/
theorem attemptDirectoryNumber_directoryName {n : Nat} (positive : 1 ≤ n) (phase : AttemptPhase) :
    attemptDirectoryNumber (directoryName n phase) = some n := by
  have slug : (phaseDefinition phase).slug.toList ≠ [] ∧ '\n' ∉ (phaseDefinition phase).slug.toList := by
    cases phase <;> decide
  have span := @span_digits _ ('-' :: (phaseDefinition phase).slug.toList) (threeDigits_digits n) (by
    rintro c ⟨⟩
    decide)
  have nonzero : (threeDigits n).toList.any (· ≠ '0') = true := by
    rw [threeDigits, String.toList_ofList, List.any_append, toDigits_any positive, Bool.or_true]
  have value : Nat.ofDigitChars 10 (threeDigits n).toList 0 = n := by
    rw [threeDigits, String.toList_ofList, ofDigitChars_zeros, Nat.ofDigitChars_ten_toDigits]
  rw [attemptDirectoryNumber, directoryName_toList, span]
  show (if _ then _ else _) = _
  rw [if_pos ⟨nonzero, slug⟩, value]

/-- The directory of an attempt is not hidden, so the loader looks into it. -/
theorem isHidden_directoryName (n : Nat) (phase : AttemptPhase) : isHidden (directoryName n phase) = false := by
  obtain ⟨c, rest, digits, digit⟩ := threeDigits_cons n
  rw [isHidden, directoryName_toList, digits, decide_eq_false_iff_not]
  rintro ⟨⟩
  exact absurd digit (by decide)

def attemptRecordFile : String := "attempt.json"

/-- The files of a directory. -/
abbrev Files := String → Option (List UInt8)

inductive AttemptEntry
  | folder (files : Files)
  | other

/-- What stands under `attempts`; a root that is missing has no entries. -/
abbrev AttemptsDirectory := List (String × AttemptEntry)

/-- The layout of an attempt is not built over something that is not a directory. -/
def notDirectory (root name : String) : Raised :=
  ⟨.agentContractError, "attempt artifact root must be a directory: " ++ root ++ "/" ++ name⟩

/-- The number of a directory that is not hidden. -/
def entryNumber : String × AttemptEntry → Option Nat
  | (name, .folder _) => if isHidden name then none else attemptDirectoryNumber name
  | (_, .other) => none

/-- The body of the loop in `_next_sequence`. -/
def sequenceEntry (root : String) (entry : String × AttemptEntry) : Except Raised (Option Nat) :=
  match entry.2, isHidden entry.1 with
  | .other, false =>
    .error (attemptError
      ("Could not inspect attempt sequence entries safely: " ++ (notDirectory root entry.1).message))
  | _, _ => .ok (entryNumber entry)

/-- `_next_sequence`. -/
def nextSequence (root : String) (entries : AttemptsDirectory) : Except Raised Nat := do
  let numbers ← entries.mapM (sequenceEntry root)
  .ok ((numbers.filterMap id).foldr max 0 + 1)

/-- A number that is larger than that of every directory on view. -/
def Above (sequence : Nat) (entries : AttemptsDirectory) : Prop :=
  ∀ entry ∈ entries, ∀ n ∈ entryNumber entry, n < sequence

/-- `_next_sequence` sees the number in the name of an entry. -/
theorem sequenceEntry_ok {root : String} {entry : String × AttemptEntry} {number : Option Nat}
    (h : sequenceEntry root entry = .ok number) : number = entryNumber entry := by
  unfold sequenceEntry at h
  split at h
  · cases h
  · exact (Except.ok.inj h).symm

/-- The next number is above every number in use. -/
theorem above_nextSequence {root : String} {entries : AttemptsDirectory} {sequence : Nat}
    (h : nextSequence root entries = .ok sequence) : Above sequence entries := by
  have bounded (numbers : List Nat) : ∀ n ∈ numbers, n ≤ numbers.foldr max 0 := by
    induction numbers with
    | nil => exact fun n member => absurd member List.not_mem_nil
    | cons first rest ih =>
      intro n member
      rw [List.foldr_cons]
      rcases List.mem_cons.mp member with rfl | member
      · exact Nat.le_max_left _ _
      · exact le_trans (ih n member) (Nat.le_max_right _ _)
  obtain ⟨numbers, found, largest⟩ := bind_ok_iff.mp h
  cases largest
  intro entry member n own
  obtain ⟨number, numbered⟩ := mapM_ok_each found member
  have listed : some n ∈ numbers := by
    rw [mem_mapM_ok found]
    exact ⟨entry, member, by rw [numbered, sequenceEntry_ok numbered, own]⟩
  have small := bounded (numbers.filterMap id) n (List.mem_filterMap.mpr ⟨some n, listed, rfl⟩)
  exact Nat.lt_succ_of_le small

/-! ## Loading -/

section Loading

variable (reader : AttemptReader) (root : String)

/-- `_load_attempt` of `attempt.json` in the directory with this name. -/
def loadPersisted (name : String) (content : Except Raised (List UInt8)) : Except Raised AttemptRecord :=
  let directory := root ++ "/" ++ name
  loadAttempt reader directory (readJsonObjectFile reader.toInterpreter (directory ++ "/attempt.json") content)

/-- The body of the loop in `load_attempt_records`. -/
def loadEntry (entry : String × AttemptEntry) : Except Raised (Option AttemptRecord) :=
  if isHidden entry.1 then .ok none
  else
    reraiseAny [.agentContractError, .osError, .runtimeError]
      (fun error => attemptError
        ("Could not inspect attempt directory " ++ root ++ "/" ++ entry.1 ++ " safely: " ++ error.message))
      (match entry.2 with
      | .other => .error (notDirectory root entry.1)
      | .folder files =>
        match files attemptRecordFile with
        | none => .ok none
        | some content => (loadPersisted reader root entry.1 (.ok content)).map some)

/-- `load_attempt_records`. -/
def loadAttemptRecords (entries : AttemptsDirectory) : Except Raised (List AttemptRecord) := do
  let directories := entries.insertionSort fun left right => KeyOrder left.1.toList right.1.toList
  let loaded ← directories.mapM (loadEntry reader root)
  let ordered : List AttemptRecord :=
    (loaded.filterMap id).insertionSort fun left right => left.sequence ≤ right.sequence
  raiseIf (¬ (ordered.map fun record => record.sequence).Nodup)
    (attemptError "Attempt records contain duplicate sequence numbers.")
  .ok ordered

/-- `latest_attempt`. -/
def latestAttemptIn (entries : AttemptsDirectory) (phases : AttemptPhase → Bool) (statuses : AttemptStatus → Bool) :
    Except Raised (Option AttemptRecord) := do
  let records ← loadAttemptRecords reader root entries
  .ok (latestAttempt phases statuses records)

end Loading

/-- What `atomic_write_json` writes for a record. -/
@[irreducible] def recordBytes (reprFloat : Rat → List Char) (record : AttemptFields) : List UInt8 :=
  encode (dumpJson reprFloat (.obj record.toDict))

/-- A directory that is not hidden holds this record file. -/
def OnView (entries : AttemptsDirectory) (name : String) (content : List UInt8) : Prop :=
  isHidden name = false ∧ ∃ files, (name, .folder files) ∈ entries ∧ files attemptRecordFile = some content

/-- The record is in its place, and the constructor admits it. -/
structure Placed (reader : AttemptReader) (root : String) (record : AttemptRecord) : Prop where
  directory : record.artifactDirectory = root ++ "/" ++ record.directoryName
  admitted : record.Admitted reader

/-- The records on view are those of the log. -/
structure Stores (reader : AttemptReader) (reprFloat : Rat → List Char) (root : String) (entries : AttemptsDirectory)
    (log : List AttemptRecord) : Prop where
  distinct : (entries.map Prod.fst).Nodup
  directories : ∀ entry ∈ entries, entry.2 = .other → isHidden entry.1 = true
  on_view : ∀ name content, OnView entries name content ↔
    ∃ record ∈ log, name = record.directoryName ∧ content = recordBytes reprFloat record.toAttemptFields
  placed : ∀ record ∈ log, Placed reader root record
  increasing : log.Pairwise fun earlier later => earlier.sequence < later.sequence

section Stored

variable {reader : AttemptReader} {reprFloat : Rat → List Char} {root : String} {entries : AttemptsDirectory}
  {log : List AttemptRecord}

/-- The file of a record is loaded as the record. -/
theorem Placed.load {record : AttemptRecord} (placed : Placed reader root record) :
    loadPersisted reader root record.directoryName (.ok (recordBytes reprFloat record.toAttemptFields)) =
      .ok record := by
  obtain ⟨data, read, encodes⟩ := @readJsonObjectFile_toDict reader reprFloat _
    (root ++ "/" ++ record.directoryName ++ "/attempt.json") placed.admitted.digits
  unfold recordBytes
  exact loadAttempt_iff.mpr ⟨data, read, encodes, placed.directory, placed.admitted⟩

theorem loadPersisted_directory {name : String} {content : Except Raised (List UInt8)} {record : AttemptRecord}
    (loaded : loadPersisted reader root name content = .ok record) :
    record.artifactDirectory = root ++ "/" ++ name := by
  obtain ⟨_, _, _, directory, _⟩ := loadAttempt_iff.mp loaded
  exact directory

/-- An entry gives a record when it is a visible folder whose `attempt.json` decodes. -/
theorem loadEntry_some {entry : String × AttemptEntry} {record : AttemptRecord} :
    loadEntry reader root entry = .ok (some record) ↔ isHidden entry.1 = false ∧ ∃ files content,
      entry.2 = .folder files ∧ files attemptRecordFile = some content ∧
        loadPersisted reader root entry.1 (.ok content) = .ok record := by
  unfold loadEntry
  split
  · rename_i hidden
    simp [hidden]
  · rename_i visible
    have shown : isHidden entry.1 = false := by simpa using visible
    rw [reraiseAny_ok]
    split
    · rename_i other
      simp [other]
    · rename_i files folder
      split
      · rename_i missing
        simp [folder, missing]
      · rename_i content present
        have found : (loadPersisted reader root entry.1 (.ok content)).map some = .ok (some record) ↔
            loadPersisted reader root entry.1 (.ok content) = .ok record := by
          cases loadPersisted reader root entry.1 (.ok content) <;> simp [Except.map]
        rw [found]
        simp [folder, present, shown]

/-- Every entry is read without an error. -/
theorem Stores.entry_ok (stores : Stores reader reprFloat root entries log) {entry : String × AttemptEntry}
    (member : entry ∈ entries) : ∃ result, loadEntry reader root entry = .ok result := by
  unfold loadEntry
  split
  · exact ⟨none, rfl⟩
  · rename_i visible
    have shown : isHidden entry.1 = false := by simpa using visible
    simp only [reraiseAny_ok]
    split
    · rename_i other
      exact absurd (stores.directories entry member other) visible
    · rename_i files folder
      split
      · exact ⟨none, rfl⟩
      · rename_i content present
        have inside : (entry.1, AttemptEntry.folder files) ∈ entries := by
          rw [← folder]
          exact member
        have view : OnView entries entry.1 content := ⟨shown, files, inside, present⟩
        obtain ⟨record, inLog, name, written⟩ := (stores.on_view _ _).mp view
        refine ⟨some record, ?_⟩
        rw [name, written, (stores.placed record inLog).load]
        rfl

/-- What an entry is loaded as. -/
def entryRecord (reader : AttemptReader) (root : String) (entry : String × AttemptEntry) : Option AttemptRecord :=
  match loadEntry reader root entry with
  | .ok record => record
  | .error _ => none

theorem entryRecord_some {entry : String × AttemptEntry} {record : AttemptRecord} :
    entryRecord reader root entry = some record ↔ loadEntry reader root entry = .ok (some record) := by
  unfold entryRecord
  cases loadEntry reader root entry <;> simp

/-- The record of an entry lies in the directory that the entry names. -/
theorem entryRecord_directory {entry : String × AttemptEntry} {record : AttemptRecord}
    (loaded : entryRecord reader root entry = some record) : record.artifactDirectory = root ++ "/" ++ entry.1 := by
  obtain ⟨_, _, _, _, _, persisted⟩ := loadEntry_some.mp (entryRecord_some.mp loaded)
  exact loadPersisted_directory persisted

/-- The loop meets exactly the records of the log. -/
theorem Stores.mem_loaded (stores : Stores reader reprFloat root entries log) {record : AttemptRecord} :
    record ∈ entries.filterMap (entryRecord reader root) ↔ record ∈ log := by
  rw [List.mem_filterMap]
  constructor
  · rintro ⟨entry, member, loaded⟩
    obtain ⟨shown, files, content, folder, present, persisted⟩ := loadEntry_some.mp (entryRecord_some.mp loaded)
    have inside : (entry.1, AttemptEntry.folder files) ∈ entries := by
      rw [← folder]
      exact member
    obtain ⟨stored, inLog, name, written⟩ := (stores.on_view _ _).mp ⟨shown, files, inside, present⟩
    rw [name, written, (stores.placed stored inLog).load] at persisted
    cases persisted
    exact inLog
  · intro inLog
    obtain ⟨shown, files, inside, present⟩ := (stores.on_view _ _).mpr ⟨record, inLog, rfl, rfl⟩
    exact ⟨_, inside, entryRecord_some.mpr
      (loadEntry_some.mpr ⟨shown, files, _, rfl, present, (stores.placed record inLog).load⟩)⟩

/-- Different directories hold different records. -/
theorem nodup_loaded {entries : AttemptsDirectory} (distinct : (entries.map Prod.fst).Nodup) :
    (entries.filterMap (entryRecord reader root)).Nodup := by
  have apart : entries.Pairwise fun left right => left.1 ≠ right.1 := List.pairwise_map.mp distinct
  refine List.Pairwise.filterMap (entryRecord reader root) (fun left right other first one second two same => ?_) apart
  apply other
  have directories := (entryRecord_directory one).symm.trans (same ▸ entryRecord_directory two)
  have names := congrArg String.toList directories
  simp only [String.toList_append] at names
  exact String.toList_injective (List.append_cancel_left names)

/-- **What is loaded is the log.** -/
theorem Stores.load (stores : Stores reader reprFloat root entries log) :
    loadAttemptRecords reader root entries = .ok log := by
  have sorted := List.perm_insertionSort (fun left right : String × AttemptEntry =>
    KeyOrder left.1.toList right.1.toList) entries
  have read : ∀ entry ∈ entries.insertionSort fun left right => KeyOrder left.1.toList right.1.toList,
      loadEntry reader root entry = .ok (entryRecord reader root entry) := by
    intro entry member
    obtain ⟨result, loaded⟩ := stores.entry_ok (sorted.mem_iff.mp member)
    rw [entryRecord, loaded]
  have same : ((entries.insertionSort fun left right => KeyOrder left.1.toList right.1.toList).filterMap
      (entryRecord reader root)).Perm log := by
    refine ((sorted.filterMap _)).trans ?_
    rw [List.perm_ext_iff_of_nodup (nodup_loaded stores.distinct) (stores.increasing.imp fun below => ?_)]
    · exact fun record => stores.mem_loaded
    · rintro rfl
      exact lt_irrefl _ below
  rw [loadAttemptRecords, ok_bind (mapM_eq_ok read), List.filterMap_map]
  have ordered : ((entries.insertionSort fun left right => KeyOrder left.1.toList right.1.toList).filterMap
      (id ∘ entryRecord reader root)).insertionSort (fun left right => left.sequence ≤ right.sequence) = log := by
    have moved := (List.perm_insertionSort (fun left right : AttemptRecord => left.sequence ≤ right.sequence) _).trans same
    refine List.Perm.eq_of_pairwise ?_ (List.pairwise_insertionSort _ _) (stores.increasing.imp le_of_lt) moved
    intro left right loaded inLog below above
    exact Latest.key_injective stores.increasing (moved.mem_iff.mp loaded) inLog (le_antisymm below above)
  rw [ordered]
  have distinct : (log.map fun record => record.sequence).Nodup := by
    rw [List.nodup_iff_pairwise_ne, List.pairwise_map]
    exact stores.increasing.imp Nat.ne_of_lt
  rw [check_bind_ok, raiseIf_ok, not_not]
  exact ⟨distinct, rfl⟩

end Stored

end SprintTicket
