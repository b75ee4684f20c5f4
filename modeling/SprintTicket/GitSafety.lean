import SprintTicket.Errors
import SprintTicket.Text

/-!
# Workspace snapshots

A `WorkspaceSnapshot` is the read-only identity of the repository: two captures
are compared field by field (`compareWorkspaceSnapshots`), against a recorded
branch, HEAD and path (`workspaceSafetyChanges`), or by the digest of their
canonical JSON (`matchesFingerprint`).

SHA-256 is a parameter; all that is used of it is the form of its digests.
-/

set_option autoImplicit false

namespace SprintTicket

def isLowerHex (c : Char) : Bool := c.isDigit || ('a' ≤ c && c ≤ 'f')

/-- `_is_sha256`: 64 lowercase hexadecimal digits. -/
def isSha256 (value : String) : Bool :=
  value.toList.length = 64 && value.toList.all isLowerHex

/-- `_GIT_OBJECT_RE`. -/
def isGitObject (value : String) : Bool :=
  let digits := value.toList
  40 ≤ digits.length && digits.length ≤ 64 &&
    digits.all fun c => c.isDigit || ('a' ≤ c && c ≤ 'f') || ('A' ≤ c && c ≤ 'F')

/-- `hashlib.sha256(text.encode("utf-8")).hexdigest()`. -/
structure Sha256 where
  hexdigest : String → String
  hexdigest_isSha256 : ∀ text, isSha256 (hexdigest text) = true

/-- One character of a JSON string as `json.dumps(.., ensure_ascii=False)` writes it. -/
def dumpsChar (c : Char) : List Char :=
  if c = '"' then ['\\', '"']
  else if c = '\\' then ['\\', '\\']
  else if c = '\n' then ['\\', 'n']
  else if c = '\r' then ['\\', 'r']
  else if c = '\t' then ['\\', 't']
  else if c.toNat = 8 then ['\\', 'b']
  else if c.toNat = 12 then ['\\', 'f']
  else if c.toNat < 32 then
    ['\\', 'u', '0', '0', (c.toNat / 16).digitChar, (c.toNat % 16).digitChar]
  else [c]

def dumpsString (text : String) : String :=
  "\"" ++ String.ofList (text.toList.flatMap dumpsChar) ++ "\""

def dumpsOptional : Option String → String
  | none => "null"
  | some text => dumpsString text

def dumpsList (items : List String) : String := "[" ++ ",".intercalate items ++ "]"

def dumpsStrings (texts : List String) : String := dumpsList (texts.map dumpsString)

structure WorkspaceSnapshot where
  repositoryPath : String
  branch : Option String
  headSha : Option String
  stagedPaths : List String
  stagedDiffSha256 : Option String
  trackedDiffSha256 : Option String
  untrackedPaths : List String
  untrackedFileHashes : List (String × String)
  environmentRoots : List String
  inspectionComplete : Bool
  inspectionErrors : List String
  /-- The constructor turns any inspection error into an incomplete inspection. -/
  errors_incomplete : inspectionErrors ≠ [] → inspectionComplete = false
deriving DecidableEq

/-- `canonical_json`, with the keys in sorted order. -/
def WorkspaceSnapshot.canonicalJson (snapshot : WorkspaceSnapshot) : String :=
  let fields : List (String × String) :=
    [("branch", dumpsOptional snapshot.branch),
      ("environment_roots", dumpsStrings snapshot.environmentRoots),
      ("format", dumpsString "ticket_automation.workspace_snapshot"),
      ("head_sha", dumpsOptional snapshot.headSha),
      ("inspection_complete", if snapshot.inspectionComplete then "true" else "false"),
      ("inspection_errors", dumpsStrings snapshot.inspectionErrors),
      ("repository_path", dumpsString snapshot.repositoryPath),
      ("schema_version", "1"),
      ("staged_diff_sha256", dumpsOptional snapshot.stagedDiffSha256),
      ("staged_paths", dumpsStrings snapshot.stagedPaths),
      ("tracked_diff_sha256", dumpsOptional snapshot.trackedDiffSha256),
      ("untracked_file_hashes", dumpsList (snapshot.untrackedFileHashes.map fun entry =>
        dumpsStrings [entry.1, entry.2])),
      ("untracked_paths", dumpsStrings snapshot.untrackedPaths)]
  "\x7b" ++ ",".intercalate (fields.map fun field => dumpsString field.1 ++ ":" ++ field.2) ++ "\x7d"

section Fingerprint

variable (sha256 : Sha256)

def WorkspaceSnapshot.fingerprint (snapshot : WorkspaceSnapshot) : String :=
  sha256.hexdigest snapshot.canonicalJson

def WorkspaceSnapshot.matchesFingerprint (snapshot : WorkspaceSnapshot) (expected : String) : Bool :=
  snapshot.inspectionComplete && isSha256 expected && snapshot.fingerprint sha256 = expected

/-- Only a complete inspection matches a fingerprint. -/
theorem WorkspaceSnapshot.matchesFingerprint_iff {snapshot : WorkspaceSnapshot} {expected : String} :
    snapshot.matchesFingerprint sha256 expected = true ↔
      snapshot.inspectionComplete = true ∧ snapshot.fingerprint sha256 = expected := by
  simp only [matchesFingerprint, Bool.and_eq_true, decide_eq_true_eq]
  constructor
  · rintro ⟨⟨complete, _⟩, same⟩
    exact ⟨complete, same⟩
  · rintro ⟨complete, same⟩
    refine ⟨⟨complete, ?_⟩, same⟩
    rw [← same]
    exact sha256.hexdigest_isSha256 _

end Fingerprint

/-! ## Comparisons -/

structure WorkspaceChange where
  name : String
  expected : String
  actual : String
  message : String
deriving DecidableEq, Repr

/-- `_inspection_label`. -/
def inspectionLabel (snapshot : WorkspaceSnapshot) : String :=
  if snapshot.inspectionComplete then "complete"
  else if snapshot.inspectionErrors = [] then "incomplete"
  else "incomplete: " ++ "; ".intercalate snapshot.inspectionErrors

/-- `_optional`. -/
def optionalLabel (value : Option String) : String := value.getD "<unknown>"

/-- `_paths`. -/
def pathsLabel (values : List String) : String :=
  if values = [] then "empty" else ", ".intercalate values

/-- The change, when its condition holds. -/
def changeWhen (condition : Prop) [Decidable condition] (change : WorkspaceChange) :
    List WorkspaceChange :=
  if condition then [change] else []

@[simp] theorem changeWhen_nil {condition : Prop} [Decidable condition] {change : WorkspaceChange} :
    changeWhen condition change = [] ↔ ¬condition := by
  unfold changeWhen
  split <;> simp_all

/-- Some untracked file is in both snapshots with different contents. -/
def untrackedContentDiffers (expected current : WorkspaceSnapshot) : Bool :=
  expected.untrackedFileHashes.any fun entry =>
    (current.untrackedFileHashes.lookup entry.1).any fun hash => hash ≠ entry.2

/-- `compare_workspace_snapshots`. -/
def compareWorkspaceSnapshots (expected current : WorkspaceSnapshot) : List WorkspaceChange :=
  changeWhen (expected.inspectionComplete = false ∨ current.inspectionComplete = false)
      ⟨"inspection-incomplete", inspectionLabel expected, inspectionLabel current,
        "Workspace inspection was incomplete; unchanged state cannot be established."⟩ ++
    changeWhen (expected.repositoryPath ≠ current.repositoryPath)
      ⟨"repository-path", expected.repositoryPath, current.repositoryPath, "Repository path changed."⟩ ++
    changeWhen (expected.branch ≠ current.branch)
      ⟨"branch", optionalLabel expected.branch, optionalLabel current.branch, "Repository branch changed."⟩ ++
    changeWhen (expected.headSha ≠ current.headSha)
      ⟨"HEAD", optionalLabel expected.headSha, optionalLabel current.headSha, "Repository HEAD changed."⟩ ++
    changeWhen (expected.stagedPaths ≠ current.stagedPaths ∨
        expected.stagedDiffSha256 ≠ current.stagedDiffSha256)
      ⟨"staging", pathsLabel expected.stagedPaths, pathsLabel current.stagedPaths,
        "Repository staging area changed."⟩ ++
    changeWhen (expected.trackedDiffSha256 ≠ current.trackedDiffSha256)
      ⟨"tracked-diff", optionalLabel expected.trackedDiffSha256, optionalLabel current.trackedDiffSha256,
        "Tracked worktree diff changed."⟩ ++
    changeWhen (expected.untrackedPaths ≠ current.untrackedPaths)
      ⟨"untracked-files", pathsLabel expected.untrackedPaths, pathsLabel current.untrackedPaths,
        "Untracked path set changed."⟩ ++
    changeWhen (untrackedContentDiffers expected current = true)
      ⟨"untracked-content", "unchanged", "changed", "Untracked file content changed."⟩ ++
    changeWhen (expected.environmentRoots ≠ current.environmentRoots)
      ⟨"environment-roots", pathsLabel expected.environmentRoots, pathsLabel current.environmentRoots,
        "Detected local Python/Conda environment roots changed."⟩

/-- `WorkspaceSnapshot.matches`. -/
def WorkspaceSnapshot.matches (expected current : WorkspaceSnapshot) : Bool :=
  compareWorkspaceSnapshots expected current = []

/-- What two matching snapshots agree on: every compared field. -/
structure SameWorkspace (expected current : WorkspaceSnapshot) : Prop where
  complete : expected.inspectionComplete = true ∧ current.inspectionComplete = true
  repositoryPath : expected.repositoryPath = current.repositoryPath
  branch : expected.branch = current.branch
  headSha : expected.headSha = current.headSha
  staging : expected.stagedPaths = current.stagedPaths ∧
    expected.stagedDiffSha256 = current.stagedDiffSha256
  trackedDiff : expected.trackedDiffSha256 = current.trackedDiffSha256
  untrackedPaths : expected.untrackedPaths = current.untrackedPaths
  untrackedContent : untrackedContentDiffers expected current = false
  environmentRoots : expected.environmentRoots = current.environmentRoots

theorem WorkspaceSnapshot.matches_iff {expected current : WorkspaceSnapshot} :
    expected.matches current = true ↔ SameWorkspace expected current := by
  simp only [WorkspaceSnapshot.matches, compareWorkspaceSnapshots, decide_eq_true_eq,
    List.append_eq_nil_iff, changeWhen_nil, not_or, not_not, Bool.not_eq_false, Bool.not_eq_true]
  constructor
  · rintro ⟨⟨⟨⟨⟨⟨⟨⟨complete, path⟩, branch⟩, head⟩, staging⟩, tracked⟩, untracked⟩, content⟩, environments⟩
    exact ⟨complete, path, branch, head, staging, tracked, untracked, content, environments⟩
  · rintro ⟨complete, path, branch, head, staging, tracked, untracked, content, environments⟩
    exact ⟨⟨⟨⟨⟨⟨⟨⟨complete, path⟩, branch⟩, head⟩, staging⟩, tracked⟩, untracked⟩, content⟩, environments⟩

/-- `_EMPTY_SHA256`, the digest of no bytes. -/
def emptySha256 : String := "e3b0c44298fc1c149afbf4c8996fb92427ae41e4649b934ca495991b7852b855"

/-- `workspace_safety_changes`; `expectedPath` is the resolved expected path. -/
def workspaceSafetyChanges (snapshot : WorkspaceSnapshot) (expectedPath : String)
    (expectedBranch : Option String) (expectedHeadSha : String)
    (requireEmptyStaging requireCleanWorktree : Bool) : List WorkspaceChange :=
  changeWhen (snapshot.inspectionComplete = false)
      ⟨"inspection-incomplete", "complete workspace inspection", inspectionLabel snapshot,
        "Workspace safety could not be established."⟩ ++
    changeWhen (snapshot.repositoryPath ≠ expectedPath)
      ⟨"repository-path", expectedPath, snapshot.repositoryPath,
        "Repository path no longer matches the recorded workspace."⟩ ++
    changeWhen (snapshot.branch ≠ expectedBranch)
      ⟨"branch", optionalLabel expectedBranch, optionalLabel snapshot.branch,
        "Repository branch no longer matches the recorded workspace."⟩ ++
    changeWhen (snapshot.headSha ≠ some expectedHeadSha)
      ⟨"HEAD", expectedHeadSha, optionalLabel snapshot.headSha,
        "Repository HEAD no longer matches the recorded workspace."⟩ ++
    changeWhen (requireEmptyStaging = true ∧ snapshot.stagedPaths ≠ [])
      ⟨"staging", "empty", pathsLabel snapshot.stagedPaths, "Repository staging area is not empty."⟩ ++
    changeWhen (requireCleanWorktree = true ∧ ∃ digest ∈ snapshot.trackedDiffSha256, digest ≠ emptySha256)
      ⟨"tracked-diff", emptySha256, optionalLabel snapshot.trackedDiffSha256,
        "Tracked worktree is not clean."⟩ ++
    changeWhen (requireCleanWorktree = true ∧ snapshot.untrackedPaths ≠ [])
      ⟨"untracked-files", "empty", pathsLabel snapshot.untrackedPaths, "Untracked paths are present."⟩

/-- What a snapshot without safety changes satisfies. -/
structure SafeWorkspace (snapshot : WorkspaceSnapshot) (expectedPath : String)
    (expectedBranch : Option String) (expectedHeadSha : String)
    (requireEmptyStaging requireCleanWorktree : Bool) : Prop where
  complete : snapshot.inspectionComplete = true
  repositoryPath : snapshot.repositoryPath = expectedPath
  branch : snapshot.branch = expectedBranch
  headSha : snapshot.headSha = some expectedHeadSha
  staging : requireEmptyStaging = true → snapshot.stagedPaths = []
  clean : requireCleanWorktree = true →
    (∀ digest, snapshot.trackedDiffSha256 = some digest → digest = emptySha256) ∧
      snapshot.untrackedPaths = []

/-- Nothing is reported exactly when the workspace is safe to start from. -/
theorem workspaceSafetyChanges_nil {snapshot : WorkspaceSnapshot} {path : String} {branch : Option String}
    {head : String} {empty clean : Bool} :
    workspaceSafetyChanges snapshot path branch head empty clean = [] ↔
      SafeWorkspace snapshot path branch head empty clean := by
  simp only [workspaceSafetyChanges, List.append_eq_nil_iff, changeWhen_nil, not_and, not_not,
    Bool.not_eq_false, not_exists]
  constructor
  · rintro ⟨⟨⟨⟨⟨⟨complete, path⟩, branch⟩, head⟩, staging⟩, tracked⟩, untracked⟩
    exact ⟨complete, path, branch, head, staging, fun on => ⟨tracked on, untracked on⟩⟩
  · rintro ⟨complete, path, branch, head, staging, clean⟩
    exact ⟨⟨⟨⟨⟨⟨complete, path⟩, branch⟩, head⟩, staging⟩, fun on => (clean on).1⟩, fun on => (clean on).2⟩

def exampleWorkspace : WorkspaceSnapshot where
  repositoryPath := "/repo"
  branch := some "main"
  headSha := some "4b825dc642cb6eb9a060e54bf8d69288fbee4904"
  stagedPaths := []
  stagedDiffSha256 := some emptySha256
  trackedDiffSha256 := some "c69ab7bc72545ba55e23b6623d16ca6ef50f1cc690968f5898950e8aaf8bd48c"
  untrackedPaths := []
  untrackedFileHashes := []
  environmentRoots := []
  inspectionComplete := true
  inspectionErrors := []
  errors_incomplete := by simp

/-- The example workspace before any change. -/
def exampleCleanWorkspace : WorkspaceSnapshot :=
  { exampleWorkspace with trackedDiffSha256 := some emptySha256 }

def exampleFingerprint : String := "69483599308a439d6f1d0666ae61ca6014b3db80ea95958b084b0bf03d44c1ed"

def exampleCleanFingerprint : String := "040584671b156e2db6aea132149f04f31a639fd39f6f67f821f673b375e8d41f"

/-- SHA-256 on the canonical JSON of the two example workspaces. -/
def exampleSha256 : Sha256 where
  hexdigest text :=
    if text = exampleWorkspace.canonicalJson then exampleFingerprint
    else if text = exampleCleanWorkspace.canonicalJson then exampleCleanFingerprint
    else emptySha256
  hexdigest_isSha256 text := by
    split
    · decide
    · split <;> decide

end SprintTicket
