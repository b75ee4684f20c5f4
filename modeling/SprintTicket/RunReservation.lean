import SprintTicket.Runs
import SprintTicket.Timestamps

/-!
# Run identifiers

A run takes its identifier from the time and from the stem of the ticket file,
which may be any text. `sanitize_ticket_id` leaves letters, digits, dots,
underscores and hyphens of it, and `_reserve_run_directory` numbers the
identifiers it tries until a directory can be made.
-/

set_option autoImplicit false

namespace SprintTicket

open Checks Calendar Digits

/-- The characters of a run identifier. -/
def idCharacter (c : Char) : Bool := c.isAlphanum || c = '.' || c = '_' || c = '-'

/-- `re.sub(r"[^A-Za-z0-9._-]+", "-", ...)`: a run of other characters becomes one
hyphen; `inside` says that the run has begun. -/
def hyphenate (inside : Bool) : List Char → List Char
  | [] => []
  | c :: rest =>
    if idCharacter c then c :: hyphenate false rest
    else if inside then hyphenate true rest
    else '-' :: hyphenate true rest

/-- The characters that `normalized.strip(".-_")` removes. -/
def idPunctuation (c : Char) : Bool := c = '.' || c = '-' || c = '_'

/-- `sanitize_ticket_id`. -/
def sanitizeTicketId (value : String) : String :=
  let normalized := hyphenate false (strip value).toList
  let normalized := (normalized.dropWhile idPunctuation).rdropWhile idPunctuation
  if normalized = [] then "ticket" else String.ofList normalized

/-- A candidate is made of the characters a run id may have. -/
theorem hyphenate_characters (inside : Bool) (value : List Char) : (hyphenate inside value).all idCharacter = true := by
  induction value generalizing inside with
  | nil => rfl
  | cons c rest ih =>
    unfold hyphenate
    split
    · rename_i plain
      rw [List.all_cons, plain, ih, Bool.and_self]
    · split
      · exact ih true
      · rw [List.all_cons, ih, Bool.and_true]
        decide

/-- Whatever the stem is, the ticket part consists of the characters of an identifier. -/
theorem sanitizeTicketId_characters (value : String) : (sanitizeTicketId value).toList.all idCharacter = true := by
  unfold sanitizeTicketId
  dsimp only
  split
  · decide
  · rw [String.toList_ofList, List.all_eq_true]
    intro c member
    have kept := (List.rdropWhile_prefix idPunctuation _).subset member
    have inside := (List.dropWhile_suffix idPunctuation).subset kept
    exact List.all_eq_true.mp (hyphenate_characters false _) c inside

theorem hyphenate_plain {value : List Char} (plain : value.all idCharacter = true) (inside : Bool) :
    hyphenate inside value = value := by
  induction value generalizing inside with
  | nil => rfl
  | cons c rest ih =>
    rw [List.all_cons, Bool.and_eq_true] at plain
    rw [hyphenate, if_pos plain.1, ih plain.2]

/-- A stem of plain characters with none to strip is the ticket part itself. -/
theorem sanitizeTicketId_plain {value : String} (plain : value.toList.all idCharacter = true)
    (stripped : strip value = value) (first : value.toList.head?.any idPunctuation = false)
    (last : value.toList.getLast?.any idPunctuation = false) (filled : value.toList ≠ []) :
    sanitizeTicketId value = value := by
  unfold sanitizeTicketId
  dsimp only
  rw [stripped, hyphenate_plain plain, dropWhile_eq_self_iff_head.mpr first, rdropWhile_eq_self_iff_last.mpr last,
    if_neg filled, String.ofList_toList]

example : sanitizeTicketId " QDEB 003: first pass " = "QDEB-003-first-pass" := by decide +kernel

example : sanitizeTicketId "..." = "ticket" := by decide +kernel

/-- `_run_id_prefix` of a timestamp that has been read, for the years 1000 to 9999. -/
def runIdPrefix (instant : Int) : String :=
  let micros := (instant + epochOffset).toNat
  let date := ofDays (micros / microsPerDay)
  let second := micros % microsPerDay / 1000000
  String.ofList (digits 4 date.year ++ digits 2 date.month ++ digits 2 date.day ++
    '-' :: (digits 2 (second / 3600) ++ digits 2 (second / 60 % 60) ++ digits 2 (second % 60)))

/-- `base_run_id`. -/
def baseRunId (instant : Int) (ticketId : String) : String := runIdPrefix instant ++ "_" ++ ticketId

/-- The identifier that is tried at `index`. -/
def candidateRunId (base : String) (index : Nat) : String :=
  if index = 1 then base else base ++ "_" ++ index.repr

/-- The runs directory. `longest` is what the file system takes as a name in it, and
no entry has a longer one; `failure` is any other failure of making or binding a
directory. -/
structure RunsFolder where
  existing : List String
  longest : Nat
  fits : ∀ name ∈ existing, name.utf8ByteSize ≤ longest
  failure : String → Option Raised

/-- Only the length of its name keeps a new directory from being made. -/
def RunsFolder.Works (folder : RunsFolder) : Prop := ∀ runId, folder.failure runId = none

/-- What `RunOwnership.reserve` does. -/
inductive Reservation
  | reserved
  | fileExists
  | failed (error : Raised)

/-- `validate_run_id`. -/
def validateRunId (runId : String) : Except Raised Unit :=
  raiseIf (validRunId runId = false)
    ⟨.valueError, "Run ID must be one non-empty path component containing only letters, " ++
      "numbers, dots, underscores, and hyphens."⟩

/-- `mkdir` of a name that is too long. -/
def nameTooLong (runId : String) : Raised := ⟨.osError, "[Errno 36] File name too long: " ++ runId⟩

/-- `RunOwnership.reserve`. -/
def RunsFolder.reserve (folder : RunsFolder) (runId : String) : Reservation :=
  match validateRunId runId with
  | .error error => .failed error
  | .ok () =>
    if runId ∈ folder.existing then .fileExists
    else if folder.longest < runId.utf8ByteSize then .failed (nameTooLong runId)
    else match folder.failure runId with
      | some error => .failed error
      | none => .reserved

/-- The loop of `_reserve_run_directory` over the indices that are left. -/
def RunsFolder.tryReserve (folder : RunsFolder) (base : String) : List Nat → Except Raised String
  | [] => .error ⟨.runError, "Could not reserve a unique run directory for " ++ base ++ "."⟩
  | index :: rest =>
    match folder.reserve (candidateRunId base index) with
    | .reserved => .ok (candidateRunId base index)
    | .fileExists => folder.tryReserve base rest
    | .failed error => .error error

/-- `range(1, 1000)`. -/
def runIdIndices : List Nat := List.range' 1 999

/-- `_reserve_run_directory`. -/
def reserveRunDirectory (folder : RunsFolder) (instant : Int) (ticketId : String) : Except Raised String :=
  folder.tryReserve (baseRunId instant ticketId) runIdIndices

theorem idCharacter_of_isDigit {c : Char} (h : c.isDigit = true) : idCharacter c = true := by
  simp [idCharacter, Char.isAlphanum, h]

theorem digits_characters (width n : Nat) : (digits width n).all idCharacter = true := by
  induction width with
  | zero => rfl
  | succ width ih => rw [digits, List.all_cons, idCharacter_of_isDigit (digit_spec _).1, ih, Bool.and_self]

theorem toDigits_characters (n : Nat) : (Nat.toDigits 10 n).all idCharacter = true := by
  rw [List.all_eq_true]
  intro c member
  exact idCharacter_of_isDigit (Nat.isDigit_of_mem_toDigits (by omega) (by omega) member)

/-- An identifier is valid when it begins with a letter or a digit. -/
theorem validRunId_cons {value : String} {first : Char} {rest : List Char} (split : value.toList = first :: rest)
    (alphanumeric : first.isAlphanum = true) (characters : value.toList.all idCharacter = true) :
    validRunId value = true := by
  rw [split, List.all_cons, Bool.and_eq_true] at characters
  unfold validRunId
  rw [split]
  dsimp only
  rw [alphanumeric, Bool.true_and]
  exact characters.2

/-- A valid identifier is one plain component of a path. -/
theorem validRunId_component {value : String} (valid : validRunId value = true) :
    value ≠ "." ∧ value ≠ ".." ∧ '/' ∉ value.toList ∧ '\\' ∉ value.toList := by
  have characters : value.toList ≠ [] ∧ value.toList.all idCharacter = true ∧
      value.toList.head?.any Char.isAlphanum = true := by
    unfold validRunId at valid
    split at valid
    · cases valid
    · rename_i first rest split
      rw [Bool.and_eq_true] at valid
      rw [split]
      refine ⟨List.cons_ne_nil _ _, ?_, valid.1⟩
      rw [List.all_cons, Bool.and_eq_true]
      exact ⟨by simp [idCharacter, valid.1], valid.2⟩
  obtain ⟨-, inside, head⟩ := characters
  rw [List.all_eq_true] at inside
  refine ⟨?_, ?_, ?_, ?_⟩
  · rintro rfl
    revert head
    decide
  · rintro rfl
    revert head
    decide
  · intro member
    exact absurd (inside _ member) (by decide)
  · intro member
    exact absurd (inside _ member) (by decide)

theorem candidateRunId_valid (instant : Int) (stem : String) (index : Nat) :
    validRunId (candidateRunId (baseRunId instant (sanitizeTicketId stem)) index) = true := by
  have baseCharacters : (baseRunId instant (sanitizeTicketId stem)).toList.all idCharacter = true := by
    have hyphen : idCharacter '-' = true := by decide
    have underscore : "_".toList.all idCharacter = true := by decide
    simp only [baseRunId, runIdPrefix, String.toList_append, String.toList_ofList, List.all_append, List.all_cons,
      digits_characters, sanitizeTicketId_characters, hyphen, underscore, Bool.and_self]
  have characters : (candidateRunId (baseRunId instant (sanitizeTicketId stem)) index).toList.all idCharacter =
      true := by
    unfold candidateRunId
    split
    · exact baseCharacters
    · have underscore : "_".toList.all idCharacter = true := by decide
      rw [String.toList_append, String.toList_append, List.all_append, List.all_append, baseCharacters, underscore,
        Nat.toList_repr, toDigits_characters]
      rfl
  obtain ⟨rest, split⟩ : ∃ rest, (candidateRunId (baseRunId instant (sanitizeTicketId stem)) index).toList =
      digit ((ofDays ((instant + epochOffset).toNat / microsPerDay)).year / 10 ^ 3) :: rest := by
    unfold candidateRunId
    split <;> simp [baseRunId, runIdPrefix, digits]
  refine validRunId_cons split ?_ characters
  simp [Char.isAlphanum, (digit_spec _).1]

/-! ## The search -/

/-- A valid identifier is reserved unless it exists or is too long. -/
theorem RunsFolder.reserve_valid {folder : RunsFolder} {runId : String} (works : folder.Works)
    (valid : validRunId runId = true) :
    folder.reserve runId =
      if runId ∈ folder.existing then .fileExists
      else if folder.longest < runId.utf8ByteSize then .failed (nameTooLong runId)
      else .reserved := by
  have accepted : validateRunId runId = .ok () := raiseIf_ok.mpr (by simp [valid])
  rw [RunsFolder.reserve, accepted, works runId]

/-- What the loop returns is new. -/
theorem RunsFolder.tryReserve_ok {folder : RunsFolder} {base : String} {indices : List Nat} {runId : String}
    (h : folder.tryReserve base indices = .ok runId) :
    runId ∉ folder.existing ∧ ∃ index ∈ indices, runId = candidateRunId base index := by
  induction indices with
  | nil => cases h
  | cons index rest ih =>
    unfold RunsFolder.tryReserve at h
    cases reserved : folder.reserve (candidateRunId base index) with
    | reserved =>
      rw [reserved] at h
      cases h
      refine ⟨fun known => ?_, index, List.mem_cons_self, rfl⟩
      unfold RunsFolder.reserve at reserved
      split at reserved
      · cases reserved
      · rw [if_pos known] at reserved
        cases reserved
    | fileExists =>
      rw [reserved] at h
      obtain ⟨fresh, later, member, same⟩ := ih h
      exact ⟨fresh, later, List.mem_cons_of_mem _ member, same⟩
    | failed error =>
      rw [reserved] at h
      cases h

/-- The search passes existing directories, and stops at the first other identifier. -/
theorem RunsFolder.tryReserve_error_iff {folder : RunsFolder} {base : String} {indices : List Nat}
    (works : folder.Works) (valid : ∀ index, validRunId (candidateRunId base index) = true) :
    (∃ error, folder.tryReserve base indices = .error error) ↔
      (∀ index ∈ indices, candidateRunId base index ∈ folder.existing) ∨
        ∃ before index after, indices = before ++ index :: after ∧
          (∀ earlier ∈ before, candidateRunId base earlier ∈ folder.existing) ∧
            folder.longest < (candidateRunId base index).utf8ByteSize := by
  induction indices with
  | nil => simp [RunsFolder.tryReserve]
  | cons index rest ih =>
    unfold RunsFolder.tryReserve
    rw [RunsFolder.reserve_valid works (valid index)]
    by_cases known : candidateRunId base index ∈ folder.existing
    · have short := folder.fits _ known
      rw [if_pos known]
      dsimp only
      rw [ih]
      constructor
      · rintro (all | ⟨before, found, after, rfl, existing, long⟩)
        · exact .inl (List.forall_mem_cons.mpr ⟨known, all⟩)
        · exact .inr ⟨index :: before, found, after, rfl, List.forall_mem_cons.mpr ⟨known, existing⟩, long⟩
      · rintro (all | ⟨before, found, after, split, existing, long⟩)
        · exact .inl (List.forall_mem_cons.mp all).2
        · cases before with
          | nil =>
            obtain ⟨rfl, rfl⟩ := List.cons_eq_cons.mp split
            omega
          | cons first before =>
            obtain ⟨rfl, rfl⟩ := List.cons_eq_cons.mp split
            exact .inr ⟨before, found, after, rfl, (List.forall_mem_cons.mp existing).2, long⟩
    · rw [if_neg known]
      by_cases long : folder.longest < (candidateRunId base index).utf8ByteSize
      · rw [if_pos long]
        exact iff_of_true ⟨_, rfl⟩ (.inr ⟨[], index, rest, rfl, by simp, long⟩)
      · rw [if_neg long]
        refine iff_of_false (by simp) ?_
        rintro (all | ⟨before, found, after, split, existing, exceeds⟩)
        · exact known (List.forall_mem_cons.mp all).1
        · cases before with
          | nil =>
            obtain ⟨rfl, rfl⟩ := List.cons_eq_cons.mp split
            exact long exceeds
          | cons first before =>
            obtain ⟨rfl, rfl⟩ := List.cons_eq_cons.mp split
            exact known (List.forall_mem_cons.mp existing).1

/-- Every identifier that is tried is one plain path component, and the reserved one
is new. The reservation fails exactly when all 999 exist, or when the ones before some
identifier exist and the file system takes no name of its length. -/
theorem reserveRunDirectory_safe (folder : RunsFolder) (instant : Int) (stem : String) :
    (∀ index ∈ runIdIndices, ∀ runId,
        runId = candidateRunId (baseRunId instant (sanitizeTicketId stem)) index →
        validateRunId runId = .ok () ∧ runId ≠ "." ∧ runId ≠ ".." ∧ '/' ∉ runId.toList ∧ '\\' ∉ runId.toList) ∧
      (∀ runId, reserveRunDirectory folder instant (sanitizeTicketId stem) = .ok runId →
        runId ∉ folder.existing ∧
          ∃ index ∈ runIdIndices, runId = candidateRunId (baseRunId instant (sanitizeTicketId stem)) index) ∧
      (folder.Works →
        ((∃ error, reserveRunDirectory folder instant (sanitizeTicketId stem) = .error error) ↔
          (∀ index ∈ runIdIndices,
              candidateRunId (baseRunId instant (sanitizeTicketId stem)) index ∈ folder.existing) ∨
            ∃ before index after, runIdIndices = before ++ index :: after ∧
              (∀ earlier ∈ before,
                  candidateRunId (baseRunId instant (sanitizeTicketId stem)) earlier ∈ folder.existing) ∧
                folder.longest < (candidateRunId (baseRunId instant (sanitizeTicketId stem)) index).utf8ByteSize)) := by
  refine ⟨?_, fun runId reserved => RunsFolder.tryReserve_ok reserved,
    fun works => RunsFolder.tryReserve_error_iff works (candidateRunId_valid instant stem)⟩
  rintro index - runId rfl
  have valid := candidateRunId_valid instant stem index
  exact ⟨raiseIf_ok.mpr (by simp [valid]), validRunId_component valid⟩

/-- The runs directory of a usual file system, with these entries. -/
def exampleRunsFolder (existing : List String) (fits : ∀ name ∈ existing, name.utf8ByteSize ≤ 255) : RunsFolder :=
  ⟨existing, 255, fits, fun _ => none⟩

def exampleEmptyRuns : RunsFolder := exampleRunsFolder [] fun _ member => absurd member List.not_mem_nil

def exampleTakenRuns : List String := ["19700101-000000_ticket", "19700101-000000_ticket_2"]

theorem exampleTakenRuns_fit : ∀ name ∈ exampleTakenRuns, name.utf8ByteSize ≤ 255 := by decide +kernel

/-- With two directories taken, the third identifier is reserved. -/
theorem reserveRunDirectory_safe_example :
    reserveRunDirectory (exampleRunsFolder exampleTakenRuns exampleTakenRuns_fit) 0 (sanitizeTicketId "ticket") =
        .ok "19700101-000000_ticket_3" ∧
      "19700101-000000_ticket_3" ∉ exampleTakenRuns ∧
      ¬∀ index ∈ runIdIndices, candidateRunId (baseRunId 0 (sanitizeTicketId "ticket")) index ∈ exampleTakenRuns := by
  have safe := reserveRunDirectory_safe (exampleRunsFolder exampleTakenRuns exampleTakenRuns_fit) 0 "ticket"
  have reserved : reserveRunDirectory (exampleRunsFolder exampleTakenRuns exampleTakenRuns_fit) 0
      (sanitizeTicketId "ticket") = .ok "19700101-000000_ticket_3" := by rfl
  refine ⟨reserved, (safe.2.1 _ reserved).1, fun all => ?_⟩
  obtain ⟨error, failed⟩ := (safe.2.2 fun _ => rfl).mpr (.inl all)
  rw [reserved] at failed
  cases failed

/-- A stem that leaves no room for the time in a name of 255 bytes. -/
def longStem : String := String.ofList (List.replicate 240 'a')

/-- Its letters are its ticket part. -/
theorem longStem_sanitized : sanitizeTicketId longStem = longStem := by
  have letters : longStem.toList = List.replicate 240 'a' := String.toList_ofList
  refine sanitizeTicketId_plain ?_ (strip_eq_self_iff.mpr ?_) ?_ ?_ ?_ <;> rw [letters] <;> decide

theorem longStem_long : 255 < (candidateRunId (baseRunId 0 (sanitizeTicketId longStem)) 1).utf8ByteSize := by
  have prefixed : (runIdPrefix 0).utf8ByteSize = 15 := by decide +kernel
  have long : longStem.utf8ByteSize = 240 := by decide +kernel
  rw [longStem_sanitized, candidateRunId, if_pos rfl, baseRunId, String.utf8ByteSize_append, String.utf8ByteSize_append,
    prefixed, long]
  decide

/-- Not one identifier exists, and the reservation fails. -/
theorem long_stem_refused :
    (∃ error, reserveRunDirectory exampleEmptyRuns 0 (sanitizeTicketId longStem) = .error error) ∧
      ∀ index ∈ runIdIndices,
        candidateRunId (baseRunId 0 (sanitizeTicketId longStem)) index ∉ exampleEmptyRuns.existing := by
  have works : exampleEmptyRuns.Works := fun _ => rfl
  refine ⟨(RunsFolder.tryReserve_error_iff works (candidateRunId_valid 0 longStem)).mpr
    (.inr ⟨[], 1, List.range' 2 998, rfl, by simp, longStem_long⟩), ?_⟩
  rintro index - member
  exact absurd member List.not_mem_nil

end SprintTicket
