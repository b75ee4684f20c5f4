import SprintTicket.Audit
import SprintTicket.Errors
import SprintTicket.Logic.Checks

/-!
# Read-only Git inspection

`GitRepository` runs Git and decodes what it prints. A listing of paths is one
name a line, and Git quotes a name that holds anything but printable ASCII, or
a quote or a backslash. The lines are split but the quotes stay:
`nameListing_exact_iff` says which names survive.

The Git process is a parameter; `gitQuote` is how Git prints a name.
-/

set_option autoImplicit false

namespace SprintTicket

open Checks Utf8

/-- The characters `str.splitlines` splits at. -/
def isLineBoundary (c : Char) : Bool :=
  let n := c.toNat
  (10 ≤ n && n ≤ 13) || (28 ≤ n && n ≤ 30) || n == 0x85 || n == 0x2028 || n == 0x2029

/-- `str.splitlines`. -/
def splitlines : List Char → List (List Char)
  | [] => []
  | '\r' :: '\n' :: rest => [] :: splitlines rest
  | c :: rest =>
    if isLineBoundary c then [] :: splitlines rest
    else
      match splitlines rest with
      | [] => [[c]]
      | line :: lines => (c :: line) :: lines

/-- `_split_lines`. -/
def splitLines (output : String) : List String :=
  ((splitlines output.toList).filter fun line => line ≠ []).map String.ofList

/-- A line without boundaries is split off whole. -/
theorem splitlines_line {line : List Char} (plain : ∀ c ∈ line, isLineBoundary c = false) (rest : List Char) :
    splitlines (line ++ '\n' :: rest) = line :: splitlines rest := by
  induction line with
  | nil => rfl
  | cons c line ih =>
    rw [List.forall_mem_cons] at plain
    have other : c ≠ '\r' := by
      rintro rfl
      exact absurd plain.1 (by decide)
    rw [List.cons_append, splitlines, ih plain.2, if_neg (by simp [plain.1])]
    rintro _ rfl
    exact absurd rfl other

/-- Lines without boundaries, each before a line feed, are split into the lines again. -/
theorem splitlines_lines {lines : List (List Char)} (plain : ∀ line ∈ lines, ∀ c ∈ line, isLineBoundary c = false) :
    splitlines (lines.flatMap fun line => line ++ ['\n']) = lines := by
  induction lines with
  | nil => rfl
  | cons line lines ih =>
    rw [List.forall_mem_cons] at plain
    rw [List.flatMap_cons, List.append_assoc, List.singleton_append, splitlines_line plain.1, ih plain.2]

/-- `subprocess.CompletedProcess`. -/
structure CompletedProcess where
  returncode : Int
  stdout : List UInt8
  stderr : List UInt8

/-- `subprocess.run` of a command in the repository. -/
def GitProcess : Type := List String → Except Raised CompletedProcess

structure GitCommandResult where
  argv : List String
  returncode : Int
  stdout : String
  stderr : String

/-- `_MUTATING_SUBCOMMANDS`. -/
def mutatingSubcommands : List String :=
  ["add", "commit", "reset", "checkout", "switch", "stash", "clean", "push", "pull", "merge", "rebase", "revert"]

/-- `_command_error`. -/
def gitCommandError (result : GitCommandResult) : Raised :=
  let message :=
    if strip result.stderr ≠ "" then strip result.stderr
    else if strip result.stdout ≠ "" then strip result.stdout
    else "no output"
  ⟨.gitCommandError, " ".intercalate result.argv ++ " failed with exit code " ++ toString result.returncode ++ ": " ++
    message⟩

structure GitRepository where
  path : String
  run : GitProcess

/-- `_git`. -/
def gitCommand (repository : GitRepository) (argv : List String) (check : Bool) : Except Raised GitCommandResult :=
  match argv with
  | [] => .error ⟨.valueError, "Git inspection command cannot be empty."⟩
  | subcommand :: _ => do
    raiseIf (subcommand ∈ mutatingSubcommands)
      ⟨.valueError, "Git subcommand is not available in read-only V1 support: " ++ subcommand⟩
    let command := "git" :: argv
    let completed ← repository.run command
    let result : GitCommandResult :=
      { argv := command
        returncode := completed.returncode
        stdout := String.ofList (decodeHumanOutput completed.stdout)
        stderr := String.ofList (decodeHumanOutput completed.stderr) }
    raiseIf (check = true ∧ result.returncode ≠ 0) (gitCommandError result)
    pure result

/-- `_validate_baseline_sha`. -/
def validateBaselineSha (baselineSha : String) : Except Raised String := do
  let digits := baselineSha.toList
  raiseIf (¬(4 ≤ digits.length ∧ digits.length ≤ 64 ∧
      digits.all (fun c => c.isDigit || ('a' ≤ c && c ≤ 'f') || ('A' ≤ c && c ≤ 'F')) = true))
    ⟨.valueError, "baseline_sha must be a Git object SHA."⟩
  pure baselineSha

namespace GitRepository

variable (repository : GitRepository)

def currentBranch : Except Raised (Option String) := do
  let result ← gitCommand repository ["symbolic-ref", "--quiet", "--short", "HEAD"] false
  if result.returncode = 0 then pure (some (strip result.stdout))
  else if result.returncode = 1 then pure none
  else .error (gitCommandError result)

def headSha : Except Raised String :=
  (fun result => strip result.stdout) <$> gitCommand repository ["rev-parse", "--verify", "HEAD"] true

/-- The lines a listing command prints. -/
def nameListing (argv : List String) : Except Raised (List String) :=
  (fun result => splitLines result.stdout) <$> gitCommand repository argv true

def untrackedFiles : Except Raised (List String) :=
  repository.nameListing ["ls-files", "--others", "--exclude-standard"]

def stagedFiles : Except Raised (List String) :=
  repository.nameListing ["diff", "--cached", "--name-only", "--"]

def changedFiles (baselineSha : String) : Except Raised (List String) := do
  let baseline ← validateBaselineSha baselineSha
  repository.nameListing ["diff", "--name-only", baseline, "--"]

def stagedDiff : Except Raised String :=
  GitCommandResult.stdout <$> gitCommand repository
    ["diff", "--cached", "--no-ext-diff", "--no-textconv", "--no-renames", "--binary", "--full-index", "HEAD", "--"] true

def trackedDiff : Except Raised String :=
  GitCommandResult.stdout <$> gitCommand repository
    ["diff", "--no-ext-diff", "--no-textconv", "--no-renames", "--binary", "--full-index", "HEAD", "--"] true

end GitRepository

/-- A command that is no mutation and ends well gives its decoded output. -/
theorem gitCommand_ok {repository : GitRepository} {subcommand : String} {more : List String} {stdout stderr : List UInt8}
    (harmless : subcommand ∉ mutatingSubcommands)
    (ran : repository.run ("git" :: subcommand :: more) = .ok ⟨0, stdout, stderr⟩) :
    gitCommand repository (subcommand :: more) true =
      .ok ⟨"git" :: subcommand :: more, 0, String.ofList (decodeHumanOutput stdout),
        String.ofList (decodeHumanOutput stderr)⟩ := by
  have passed : raiseIf (subcommand ∈ mutatingSubcommands)
      (⟨.valueError, "Git subcommand is not available in read-only V1 support: " ++ subcommand⟩ : Raised) = .ok () :=
    raiseIf_ok.mpr harmless
  simp only [gitCommand]
  rw [ok_bind passed, ok_bind ran, ok_bind (a := ()) (raiseIf_ok.mpr (by simp))]
  rfl

/-- The bytes Git quotes: all but printable ASCII, the quote and the backslash. -/
def mustQuote (byte : UInt8) : Bool := byte < 0x20 || 0x7F ≤ byte || byte == 0x22 || byte == 0x5C

/-- The letter that stands for a byte after a backslash. -/
def escapeLetter (byte : UInt8) : Option UInt8 :=
  [(7, 'a'), (8, 'b'), (9, 't'), (10, 'n'), (11, 'v'), (12, 'f'), (13, 'r'), (0x22, '"'), (0x5C, '\\')].lookup byte
    |>.map fun letter => letter.toNat.toUInt8

/-- A byte as Git quotes it: an escape, or three octal digits. -/
def quoteByte (byte : UInt8) : List UInt8 :=
  if mustQuote byte then
    0x5C :: match escapeLetter byte with
      | some letter => [letter]
      | none => [0x30 + byte / 64, 0x30 + byte / 8 % 8, 0x30 + byte % 8]
  else [byte]

/-- What Git prints is printable ASCII. -/
theorem quoteByte_printable {byte printed : UInt8} (member : printed ∈ quoteByte byte) :
    0x20 ≤ printed ∧ printed < 0x7F := by
  have every : ∀ byte : Fin 256,
      (quoteByte (UInt8.ofFin byte)).all (fun printed => 0x20 ≤ printed && printed < 0x7F) = true := by
    decide +kernel
  have inside := List.all_eq_true.mp (every byte.toFin) printed member
  simpa only [Bool.and_eq_true, decide_eq_true_eq] using inside

/-- A name as Git prints it under the default `core.quotePath`. -/
def gitQuote (name : List UInt8) : List UInt8 :=
  if name.any mustQuote then 0x22 :: (name.flatMap quoteByte ++ [0x22]) else name

/-- A file name Git can list: not empty, without NUL and not written below `./`. -/
structure FileName where
  bytes : List UInt8
  filled : bytes ≠ []
  no_null : 0 ∉ bytes
  undotted : ¬[0x2E, 0x2F] <+: bytes

/-- A listing: one name a line. -/
def gitListing (names : List FileName) : List UInt8 := names.flatMap fun name => gitQuote name.bytes ++ [lineFeed]

/-- A name Git does not quote. -/
def FileName.Plain (name : FileName) : Prop := name.bytes.any mustQuote = false

instance (name : FileName) : Decidable name.Plain := inferInstanceAs (Decidable (_ = _))

/-- Git prints the names in answer to the command. -/
def GitRepository.Prints (repository : GitRepository) (argv : List String) (names : List FileName) : Prop :=
  ∃ stderr, repository.run ("git" :: argv) = .ok ⟨0, gitListing names, stderr⟩

/-- The texts are the names, in order: each text is the bytes of its name. -/
def ExactNames (listed : Except Raised (List String)) (names : List FileName) : Prop :=
  ∃ texts, listed = .ok texts ∧ texts.map (fun text => encode text.toList) = names.map FileName.bytes

/-- What git prints for a name is printable ASCII. -/
theorem gitQuote_printable {name : List UInt8} : ∀ byte ∈ gitQuote name, 0x20 ≤ byte ∧ byte < 0x7F := by
  intro byte member
  unfold gitQuote at member
  split at member
  · rw [List.mem_cons, List.mem_append, List.mem_singleton, List.mem_flatMap] at member
    rcases member with rfl | ⟨_, _, member⟩ | rfl
    · decide
    · exact quoteByte_printable member
    · decide
  · rename_i plain
    rw [Bool.not_eq_true, List.any_eq_false] at plain
    have kept := plain byte member
    simp only [mustQuote, Bool.not_eq_true, Bool.or_eq_false_iff, decide_eq_false_iff_not, UInt8.not_lt,
      UInt8.not_le] at kept
    exact kept.1.1

/-- Quoting makes a name longer. -/
theorem gitQuote_eq_self_iff {name : List UInt8} : gitQuote name = name ↔ name.any mustQuote = false := by
  have one : ∀ byte, 1 ≤ (quoteByte byte).length := by
    intro byte
    unfold quoteByte
    split <;> simp
  have longer : ∀ bytes : List UInt8, bytes.length ≤ (bytes.flatMap quoteByte).length := by
    intro bytes
    induction bytes with
    | nil => exact Nat.zero_le _
    | cons byte bytes ih =>
      have first := one byte
      rw [List.flatMap_cons, List.length_append, List.length_cons]
      omega
  unfold gitQuote
  cases quoted : name.any mustQuote with
  | false => simp
  | true =>
    have length := longer name
    simp only [if_true, Bool.true_eq_false, iff_false]
    intro same
    have size := congrArg List.length same
    rw [List.length_cons, List.length_append] at size
    omega

/-! ## Listings as they are decoded -/

/-- The text of a printed name. -/
def printedText (name : FileName) : List Char := asciiText (gitQuote name.bytes)

/-- The printed text is the quoted name. -/
theorem encode_printedText (name : FileName) : encode (printedText name) = gitQuote name.bytes := by
  apply encode_asciiText
  intro byte member
  have small := (gitQuote_printable byte member).2
  rw [UInt8.lt_iff_toNat_lt] at small ⊢
  exact Nat.lt_trans small (by decide)

/-- No printed name is split. -/
theorem printedText_no_boundary (name : FileName) : ∀ c ∈ printedText name, isLineBoundary c = false := by
  have every : ∀ n : Fin 127, 32 ≤ n.val → isLineBoundary (Char.ofNat n.val) = false := by decide +kernel
  intro c member
  obtain ⟨byte, printed, rfl⟩ := List.mem_map.mp member
  obtain ⟨lower, upper⟩ := gitQuote_printable byte printed
  exact every ⟨byte.toNat, upper⟩ lower

theorem printedText_ne_nil (name : FileName) : printedText name ≠ [] := by
  intro none
  have empty : gitQuote name.bytes = [] := List.map_eq_nil_iff.mp none
  unfold gitQuote at empty
  split at empty
  · cases empty
  · exact name.filled empty

/-- The listing prints one name a line. -/
theorem gitListing_eq (names : List FileName) :
    gitListing names = encode (names.flatMap fun name => printedText name ++ ['\n']) := by
  induction names with
  | nil => rfl
  | cons name names ih =>
    rw [List.flatMap_cons, encode_append, encode_append, encode_printedText, ← ih]
    rfl

/-- The lines of a listing are the names as Git prints them, in quotes or not. -/
theorem splitLines_gitListing (names : List FileName) :
    splitLines (String.ofList (decodeHumanOutput (gitListing names))) =
      names.map fun name => String.ofList (printedText name) := by
  have plain : '\r' ∉ names.flatMap fun name => printedText name ++ ['\n'] := by
    intro member
    obtain ⟨name, _, member⟩ := List.mem_flatMap.mp member
    rcases List.mem_append.mp member with inside | feed
    · exact absurd (printedText_no_boundary name _ inside) (by decide)
    · exact absurd (List.mem_singleton.mp feed) (by decide)
  have lines : splitlines ((names.map printedText).flatMap fun line => line ++ ['\n']) = names.map printedText := by
    apply splitlines_lines
    rw [List.forall_mem_map]
    exact fun name _ => printedText_no_boundary name
  rw [List.flatMap_map] at lines
  have filled : (names.map printedText).filter (fun line => line ≠ []) = names.map printedText := by
    rw [List.filter_eq_self, List.forall_mem_map]
    intro name _
    simpa using printedText_ne_nil name
  rw [splitLines, String.toList_ofList, decodeHumanOutput, gitListing_eq, decode_encode, normalizeNewlines_plain plain,
    lines, filled, List.map_map]
  rfl

/-- What a listing command returns. -/
theorem nameListing_prints {repository : GitRepository} {subcommand : String} {more : List String} {names : List FileName}
    (harmless : subcommand ∉ mutatingSubcommands) (prints : repository.Prints (subcommand :: more) names) :
    repository.nameListing (subcommand :: more) = .ok (names.map fun name => String.ofList (printedText name)) := by
  obtain ⟨stderr, ran⟩ := prints
  rw [GitRepository.nameListing, gitCommand_ok harmless ran]
  exact congrArg _ (splitLines_gitListing names)

/-- A listing comes back exactly when Git quotes none of its names. -/
theorem exactNames_printed_iff {names : List FileName} :
    ExactNames (.ok (names.map fun name => String.ofList (printedText name))) names ↔ ∀ name ∈ names, name.Plain := by
  have bytes : (names.map fun name => String.ofList (printedText name)).map (fun text => encode text.toList) =
      names.map fun name => gitQuote name.bytes := by
    rw [List.map_map]
    refine List.map_congr_left fun name _ => ?_
    rw [Function.comp_apply, String.toList_ofList, encode_printedText]
  have each : (∀ name ∈ names, name.Plain) ↔
      names.map (fun name => gitQuote name.bytes) = names.map FileName.bytes := by
    rw [List.map_inj_left]
    exact forall₂_congr fun name _ => gitQuote_eq_self_iff.symm
  rw [each, ← bytes]
  constructor
  · rintro ⟨texts, same, exact⟩
    cases same
    exact exact
  · intro exact
    exact ⟨_, rfl, exact⟩

end SprintTicket
