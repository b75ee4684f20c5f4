import SprintTicket.Workspace.Git
import SprintTicket.Workspace.Scan

/-!
# Capturing a workspace snapshot

`captureWorkspaceSnapshot` asks Git for the branch, HEAD, the listings and the
diffs, hashes the untracked files and scans for environments. Each inspection
that fails leaves an error in the snapshot. An untracked file is opened under
the text its name was decoded to, so only the files whose names survive the
listing are hashed: `listings_exact_iff`.
-/

set_option autoImplicit false

namespace SprintTicket

open Canonical Checks Utf8

/-- `hashlib.sha256(value).hexdigest()` of bytes. -/
structure ByteSha256 where
  hexdigest : List UInt8 → String
  hexdigest_isSha256 : ∀ bytes, isSha256 (hexdigest bytes) = true

/-- What a capture looks at: the repository, the paths and the tree of its scan,
and the files below it. A file is read by the bytes of its name. -/
structure Workspace where
  repository : GitRepository
  paths : ScanPaths
  root : Node
  read : List UInt8 → Except Raised (List UInt8)
  digest : ByteSha256

/-- `os.path.relpath`, of the components of two absolute paths. -/
def relpathParts : List (List Char) → List (List Char) → List (List Char)
  | part :: parts, other :: base =>
    if part = other then relpathParts parts base
    else List.replicate (base.length + 1) ['.', '.'] ++ part :: parts
  | parts, base => List.replicate base.length ['.', '.'] ++ parts

/-- `_relative_path`. -/
def relativePath (resolve : PathResolver) (path repositoryPath : String) : Except Raised String := do
  let resolvedPath ← resolve path
  let parts := pathParts resolvedPath
  let base := pathParts repositoryPath
  pure (if base <+: parts then pathText (parts.drop base.length)
    else canonicalPath (pathText (relpathParts parts base)))

/-- What the inspections of a capture let pass as an error of the snapshot. -/
def inspectionFailures : List ExceptionClass := [.osError, .runtimeError, .valueError]

/-- One inspection: its result, or a fallback and an error under its label. -/
def inspect {α : Type} (label : String) (fallback : α) (body : Except Raised α) : Except Raised (α × List String) :=
  handling inspectionFailures ((fun value => (value, [])) <$> body) fun error =>
    (fallback, [label ++ ": " ++ error.message])

/-- The hash of one untracked file, or an error. -/
def hashUntracked (workspace : Workspace) (relativePath : String) :
    Except Raised (List (String × String) × List String) :=
  handling [.osError, .valueError]
    ((fun content => ([(relativePath, workspace.digest.hexdigest content)], [])) <$>
      workspace.read (encode relativePath.toList))
    fun error => ([], ["untracked-content:" ++ relativePath ++ ": " ++ error.message])

/-- The loop over the untracked files. -/
def hashAll (workspace : Workspace) : List String → Except Raised (List (String × String) × List String)
  | [] => .ok ([], [])
  | path :: rest => do
    let (hashes, errors) ← hashUntracked workspace path
    let (more, others) ← hashAll workspace rest
    pure (hashes ++ more, errors ++ others)

/-- The untracked paths, their hashes and what went wrong. -/
def inspectUntracked (workspace : Workspace) : Except Raised (List String × List (String × String) × List String) := do
  let (paths, errors) ← inspect "untracked-paths" [] workspace.repository.untrackedFiles
  let (hashes, others) ← hashAll workspace (paths.insertionSort (· ≤ ·))
  pure (paths, hashes, errors ++ others)

/-- The environment roots and what went wrong; the errors of a scan that ends
are reported besides its roots. -/
def inspectEnvironments (workspace : Workspace) (repositoryPath : String) :
    Except Raised (List String × List String) :=
  handling inspectionFailures
    (do
      let scan ← captureWorkspaceEnvironmentSnapshot workspace.paths repositoryPath workspace.root
      let roots ← scan.environments.mapM fun environment =>
        relativePath workspace.paths.resolve environment.rootPath repositoryPath
      pure (roots, scan.inspectionErrors.map fun error => "environment-roots: " ++ error))
    fun error => ([], ["environment-roots: " ++ error.message])

/-- `_sha256(text.encode("utf-8"))`. -/
def Workspace.textDigest (workspace : Workspace) (text : String) : String :=
  workspace.digest.hexdigest (encode text.toList)

/-- What a capture passes to the constructor. -/
def captureData (workspace : Workspace) : Except Raised SnapshotData := do
  let repository := workspace.repository
  let (repositoryPath, pathErrors) ←
    snapshotPath workspace.paths.resolve workspace.paths.absolute (pathString repository.path)
  let (branch, branchErrors) ← inspect "branch" none repository.currentBranch
  let (headSha, headErrors) ← inspect "HEAD" none (some <$> repository.headSha)
  let (stagedPaths, stagingErrors) ← inspect "staging" [] repository.stagedFiles
  let (stagedDiff, stagedErrors) ←
    inspect "staged-diff" none ((fun diff => some (workspace.textDigest diff)) <$> repository.stagedDiff)
  let (trackedDiff, trackedErrors) ←
    inspect "tracked-worktree" none ((fun diff => some (workspace.textDigest diff)) <$> repository.trackedDiff)
  let (untrackedPaths, untrackedFileHashes, untrackedErrors) ← inspectUntracked workspace
  let (environmentRoots, environmentErrors) ← inspectEnvironments workspace repositoryPath
  let errors := pathErrors ++ branchErrors ++ headErrors ++ stagingErrors ++ stagedErrors ++ trackedErrors ++
    untrackedErrors ++ environmentErrors
  pure
    { repositoryPath
      branch
      headSha
      stagedPaths
      stagedDiffSha256 := stagedDiff
      trackedDiffSha256 := trackedDiff
      untrackedPaths
      untrackedFileHashes
      environmentRoots
      inspectionComplete := decide (errors = [])
      inspectionErrors := errors }

/-- `capture_workspace_snapshot`. -/
def captureWorkspaceSnapshot (workspace : Workspace) : Except Raised WorkspaceSnapshot := do
  let data ← captureData workspace
  WorkspaceSnapshot.create workspace.paths.resolve workspace.paths.absolute data

/-- A check that ran reports its value and no error. -/
theorem inspect_ok {α : Type} {label : String} {fallback value : α} {body : Except Raised α} (ran : body = .ok value) :
    inspect label fallback body = .ok (value, []) := by
  rw [ran]
  rfl

/-- The hashes are those of the files that can be read. -/
theorem hashAll_ok {workspace : Workspace} {paths : List String} {hashes : List (String × String)}
    {errors : List String} (hashed : hashAll workspace paths = .ok (hashes, errors)) (entry : String × String) :
    entry ∈ hashes ↔ ∃ path ∈ paths, ∃ content,
      workspace.read (encode path.toList) = .ok content ∧ entry = (path, workspace.digest.hexdigest content) := by
  induction paths generalizing hashes errors with
  | nil =>
    cases hashed
    simp
  | cons path rest ih =>
    obtain ⟨⟨first, problems⟩, one, hashed⟩ := bind_ok_iff.mp hashed
    obtain ⟨⟨more, others⟩, later, hashed⟩ := bind_ok_iff.mp hashed
    cases hashed
    have own : entry ∈ first ↔ ∃ content,
        workspace.read (encode path.toList) = .ok content ∧ entry = (path, workspace.digest.hexdigest content) := by
      rcases handling_ok one with found | ⟨error, failed, same⟩
      · obtain ⟨content, read, same⟩ := map_ok_iff.mp found
        cases same
        simp [read]
      · cases same
        have unread : ∀ content, workspace.read (encode path.toList) ≠ .ok content := by
          intro content read
          rw [read] at failed
          cases failed
        simp [unread]
    rw [List.mem_append, own, ih later, List.exists_mem_cons_iff]

/-- When every file can be read there are no errors. -/
theorem hashAll_readable {workspace : Workspace} {paths : List String}
    (readable : ∀ path ∈ paths, ∃ content, workspace.read (encode path.toList) = .ok content) :
    ∃ hashes, hashAll workspace paths = .ok (hashes, []) := by
  induction paths with
  | nil => exact ⟨[], rfl⟩
  | cons path rest ih =>
    rw [List.forall_mem_cons] at readable
    obtain ⟨content, read⟩ := readable.1
    obtain ⟨hashes, later⟩ := ih readable.2
    have one : hashUntracked workspace path = .ok ([(path, workspace.digest.hexdigest content)], []) := by
      rw [hashUntracked, read]
      rfl
    refine ⟨(path, workspace.digest.hexdigest content) :: hashes, ?_⟩
    refine bind_ok_iff.mpr ⟨_, one, ?_⟩
    exact bind_ok_iff.mpr ⟨_, later, rfl⟩

/-- A plain name is printed as its own bytes. -/
theorem encode_plainText {name : FileName} (plain : name.Plain) :
    encode (printedText name) = name.bytes := by
  rw [encode_printedText, gitQuote_eq_self_iff.mpr plain]

/-- The constructor leaves a plain name as it is. -/
theorem canonicalPath_plain {name : FileName} (plain : name.Plain) :
    canonicalPath (String.ofList (printedText name)) = String.ofList (printedText name) := by
  have bytes := encode_plainText plain
  have slashes : '\\' ∉ printedText name := by
    intro inside
    have member : (0x5C : UInt8) ∈ encode (printedText name) := (mem_encode (by decide) (by decide)).mpr inside
    rw [bytes] at member
    exact absurd (List.any_eq_false.mp plain _ member) (by decide)
  have undotted : ∀ rest, printedText name ≠ '.' :: '/' :: rest := by
    intro rest same
    apply name.undotted
    rw [← bytes, same]
    exact ⟨encode rest, rfl⟩
  have filled := printedText_ne_nil name
  rw [canonicalPath, String.toList_ofList, forwardSlashes_eq_self slashes]
  generalize printedText name = text at undotted filled
  have dots : dropDots text = text := by
    unfold dropDots
    split
    · rename_i rest
      exact absurd rfl (undotted rest)
    · rfl
  rw [dots]
  cases text with
  | nil => exact absurd rfl filled
  | cons c rest => rfl

/-! ## When the listings are decoded exactly -/

/-- Everything but the untracked files can be inspected. -/
structure Inspectable (workspace : Workspace) (repositoryPath : String) : Prop where
  path : workspace.paths.resolve (pathString workspace.repository.path) = .ok repositoryPath
  settled : ∃ path, workspace.paths.resolve (pathString repositoryPath) = .ok path
  branch : ∃ branch, workspace.repository.currentBranch = .ok branch
  headSha : ∃ headSha, workspace.repository.headSha = .ok headSha ∧ isGitObject headSha = true
  stagedDiff : ∃ diff, workspace.repository.stagedDiff = .ok diff
  trackedDiff : ∃ diff, workspace.repository.trackedDiff = .ok diff
  environments : ∃ roots, inspectEnvironments workspace repositoryPath = .ok (roots, [])

/-- The listings return the names, a capture hashes every untracked file that can
be read, and it is complete when nothing stands in its way. -/
structure DecodesListings (workspace : Workspace) (baselineSha : String) (untracked staged changed : List FileName) :
    Prop where
  untracked_exact : ExactNames workspace.repository.untrackedFiles untracked
  staged_exact : ExactNames workspace.repository.stagedFiles staged
  changed_exact : ExactNames (workspace.repository.changedFiles baselineSha) changed
  hashed : ∀ snapshot, captureWorkspaceSnapshot workspace = .ok snapshot →
    ∀ name ∈ untracked, ∀ content, workspace.read name.bytes = .ok content →
      ∃ text, encode text.toList = name.bytes ∧
        (text, workspace.digest.hexdigest content) ∈ snapshot.untrackedFileHashes
  complete : ∀ repositoryPath, Inspectable workspace repositoryPath →
    (∀ name ∈ untracked, ∃ content, workspace.read name.bytes = .ok content) →
      ∃ snapshot, captureWorkspaceSnapshot workspace = .ok snapshot ∧ snapshot.inspectionComplete = true

section Plain

variable {workspace : Workspace} {names : List FileName}

/-- The texts a listing of plain names is decoded to. -/
def plainTexts (names : List FileName) : List String := names.map fun name => String.ofList (printedText name)

/-- The sorted listing contains the printed names and nothing else. -/
theorem mem_sorted_plainTexts {text : String} :
    text ∈ (plainTexts names).insertionSort (· ≤ ·) ↔ ∃ name ∈ names, String.ofList (printedText name) = text := by
  rw [List.mem_insertionSort, plainTexts, List.mem_map]

/-- The hashes of plain names, in one spelling already. -/
theorem canonicalHashes_plain (plain : ∀ name ∈ names, name.Plain) {hashes : List (String × String)}
    {errors : List String} (hashed : hashAll workspace ((plainTexts names).insertionSort (· ≤ ·)) = .ok (hashes, errors)) :
    canonicalHashes hashes = hashes ∧ Functional hashes ∧ ∀ entry ∈ hashes, isSha256 entry.2 = true := by
  have members := hashAll_ok hashed
  refine ⟨?_, ?_, ?_⟩
  · conv_rhs => rw [← List.map_id hashes]
    refine List.map_congr_left fun entry member => ?_
    obtain ⟨path, listed, content, _, rfl⟩ := (members entry).mp member
    obtain ⟨name, named, rfl⟩ := mem_sorted_plainTexts.mp listed
    rw [canonicalPath_plain (plain name named)]
    rfl
  · intro first one second two same
    obtain ⟨path, _, content, read, rfl⟩ := (members first).mp one
    obtain ⟨other, _, content', read', rfl⟩ := (members second).mp two
    obtain rfl : path = other := same
    rw [read] at read'
    cases read'
    rfl
  · intro entry member
    obtain ⟨_, _, content, _, rfl⟩ := (members entry).mp member
    exact workspace.digest.hexdigest_isSha256 content

/-- The hashes a capture passes on are those of its untracked files. -/
theorem captureData_untracked {data : SnapshotData} (collected : captureData workspace = .ok data) :
    ∃ errors, inspectUntracked workspace = .ok (data.untrackedPaths, data.untrackedFileHashes, errors) := by
  obtain ⟨⟨_, _⟩, _, collected⟩ := bind_ok_iff.mp collected
  obtain ⟨⟨_, _⟩, _, collected⟩ := bind_ok_iff.mp collected
  obtain ⟨⟨_, _⟩, _, collected⟩ := bind_ok_iff.mp collected
  obtain ⟨⟨_, _⟩, _, collected⟩ := bind_ok_iff.mp collected
  obtain ⟨⟨_, _⟩, _, collected⟩ := bind_ok_iff.mp collected
  obtain ⟨⟨_, _⟩, _, collected⟩ := bind_ok_iff.mp collected
  obtain ⟨⟨_, _, errors⟩, untracked, collected⟩ := bind_ok_iff.mp collected
  obtain ⟨⟨_, _⟩, _, collected⟩ := bind_ok_iff.mp collected
  cases collected
  exact ⟨errors, untracked⟩

/-- A capture that returns has hashed the readable files with plain names. -/
theorem capture_hashed (plain : ∀ name ∈ names, name.Plain)
    (listed : workspace.repository.untrackedFiles = .ok (plainTexts names)) {snapshot : WorkspaceSnapshot}
    (captured : captureWorkspaceSnapshot workspace = .ok snapshot) {name : FileName} (member : name ∈ names)
    {content : List UInt8} (read : workspace.read name.bytes = .ok content) :
    (String.ofList (printedText name), workspace.digest.hexdigest content) ∈ snapshot.untrackedFileHashes := by
  obtain ⟨data, collected, created⟩ := bind_ok_iff.mp captured
  obtain ⟨path, pathErrors, _, rfl⟩ := WorkspaceSnapshot.create_ok.mp created
  obtain ⟨errors, untracked⟩ := captureData_untracked collected
  obtain ⟨⟨paths, _⟩, ran, untracked⟩ := bind_ok_iff.mp untracked
  obtain ⟨⟨hashes, others⟩, hashed, untracked⟩ := bind_ok_iff.mp untracked
  rw [inspect_ok listed] at ran
  cases ran
  have same : hashes = data.untrackedFileHashes := congrArg (fun result => result.2.1) (pure_ok.mp untracked)
  obtain ⟨canonical, functional, _⟩ := canonicalHashes_plain plain hashed
  show _ ∈ (recordHashes data.untrackedFileHashes).1.insertionSort NameOrder
  rw [List.mem_insertionSort, recordHashes_map, ← same, canonical, mem_assignAll functional, hashAll_ok hashed]
  refine ⟨_, mem_sorted_plainTexts.mpr ⟨name, member, rfl⟩, content, ?_, rfl⟩
  rw [String.toList_ofList, encode_plainText (plain name member)]
  exact read

/-- A capture of readable files with plain names that can inspect the rest is complete. -/
theorem capture_complete (plain : ∀ name ∈ names, name.Plain)
    (listed : workspace.repository.untrackedFiles = .ok (plainTexts names)) {staged : List String}
    (stagedListed : workspace.repository.stagedFiles = .ok staged) {repositoryPath : String}
    (inspectable : Inspectable workspace repositoryPath)
    (readable : ∀ name ∈ names, ∃ content, workspace.read name.bytes = .ok content) :
    ∃ snapshot, captureWorkspaceSnapshot workspace = .ok snapshot ∧ snapshot.inspectionComplete = true := by
  have texts : ∀ path ∈ (plainTexts names).insertionSort (· ≤ ·), ∃ content,
      workspace.read (encode path.toList) = .ok content := by
    intro path member
    obtain ⟨name, named, rfl⟩ := mem_sorted_plainTexts.mp member
    rw [String.toList_ofList, encode_plainText (plain name named)]
    exact readable name named
  obtain ⟨hashes, hashed⟩ := hashAll_readable texts
  obtain ⟨canonical, functional, digests⟩ := canonicalHashes_plain plain hashed
  obtain ⟨branch, branched⟩ := inspectable.branch
  obtain ⟨headSha, head, object⟩ := inspectable.headSha
  obtain ⟨stagedDiff, stagedDiffed⟩ := inspectable.stagedDiff
  obtain ⟨trackedDiff, trackedDiffed⟩ := inspectable.trackedDiff
  obtain ⟨roots, scanned⟩ := inspectable.environments
  obtain ⟨path, settled⟩ := inspectable.settled
  have resolved : ∀ {given found : String}, workspace.paths.resolve (pathString given) = .ok found →
      snapshotPath workspace.paths.resolve workspace.paths.absolute (pathString given) = .ok (found, []) := by
    intro given found ran
    rw [snapshotPath, ran]
    rfl
  have untracked : inspectUntracked workspace = .ok (plainTexts names, hashes, []) := by
    refine bind_ok_iff.mpr ⟨_, inspect_ok listed, ?_⟩
    exact bind_ok_iff.mpr ⟨_, hashed, rfl⟩
  have collected : captureData workspace = .ok
      { repositoryPath
        branch
        headSha := some headSha
        stagedPaths := staged
        stagedDiffSha256 := some (workspace.textDigest stagedDiff)
        trackedDiffSha256 := some (workspace.textDigest trackedDiff)
        untrackedPaths := plainTexts names
        untrackedFileHashes := hashes
        environmentRoots := roots
        inspectionComplete := true
        inspectionErrors := [] } := by
    refine bind_ok_iff.mpr ⟨_, resolved inspectable.path, ?_⟩
    refine bind_ok_iff.mpr ⟨_, inspect_ok branched, ?_⟩
    refine bind_ok_iff.mpr ⟨_, inspect_ok (map_ok_iff.mpr ⟨_, head, rfl⟩), ?_⟩
    refine bind_ok_iff.mpr ⟨_, inspect_ok stagedListed, ?_⟩
    refine bind_ok_iff.mpr ⟨_, inspect_ok (map_ok_iff.mpr ⟨_, stagedDiffed, rfl⟩), ?_⟩
    refine bind_ok_iff.mpr ⟨_, inspect_ok (map_ok_iff.mpr ⟨_, trackedDiffed, rfl⟩), ?_⟩
    refine bind_ok_iff.mpr ⟨_, untracked, ?_⟩
    exact bind_ok_iff.mpr ⟨_, scanned, rfl⟩
  refine ⟨_, bind_ok_iff.mpr ⟨_, collected, WorkspaceSnapshot.create_ok.mpr ⟨_, _, resolved settled, rfl⟩⟩, ?_⟩
  refine SnapshotData.normalize_complete_iff.mpr ⟨?_, rfl⟩
  refine
    { complete := rfl
      errors := rfl
      headSha := object
      stagedDiff := workspace.digest.hexdigest_isSha256 _
      trackedDiff := workspace.digest.hexdigest_isSha256 _
      functional := canonical.symm ▸ functional
      digests
      hashed := ?_ }
  intro path
  show path ∈ (plainTexts names).map canonicalPath ↔ path ∈ (canonicalHashes hashes).map Prod.fst
  rw [canonical, plainTexts, List.map_map, List.mem_map, List.mem_map]
  constructor
  · rintro ⟨name, named, rfl⟩
    obtain ⟨content, read⟩ := readable name named
    have listed := mem_sorted_plainTexts.mpr ⟨name, named, rfl⟩
    obtain ⟨content, read⟩ := texts _ listed
    refine ⟨_, (hashAll_ok hashed _).mpr ⟨_, listed, content, read, rfl⟩, ?_⟩
    exact (canonicalPath_plain (plain name named)).symm
  · rintro ⟨entry, member, rfl⟩
    obtain ⟨text, listed, _, _, rfl⟩ := (hashAll_ok hashed entry).mp member
    obtain ⟨name, named, rfl⟩ := mem_sorted_plainTexts.mp listed
    exact ⟨name, named, canonicalPath_plain (plain name named)⟩

end Plain

/-- Git's listings come back exactly, and a capture hashes the readable untracked
files and is complete, exactly when no listed name needs quotes. -/
theorem listings_exact_iff {workspace : Workspace} {baselineSha : String} {untracked staged changed : List FileName}
    (baseline : validateBaselineSha baselineSha = .ok baselineSha)
    (untrackedPrints : workspace.repository.Prints ["ls-files", "--others", "--exclude-standard"] untracked)
    (stagedPrints : workspace.repository.Prints ["diff", "--cached", "--name-only", "--"] staged)
    (changedPrints : workspace.repository.Prints ["diff", "--name-only", baselineSha, "--"] changed) :
    DecodesListings workspace baselineSha untracked staged changed ↔
      ∀ name ∈ untracked ++ staged ++ changed, name.Plain := by
  have untrackedListed : workspace.repository.untrackedFiles = .ok (plainTexts untracked) :=
    nameListing_prints (by decide) untrackedPrints
  have stagedListed : workspace.repository.stagedFiles = .ok (plainTexts staged) :=
    nameListing_prints (by decide) stagedPrints
  have changedListed : workspace.repository.changedFiles baselineSha = .ok (plainTexts changed) := by
    rw [GitRepository.changedFiles, ok_bind baseline]
    exact nameListing_prints (by decide) changedPrints
  rw [List.forall_mem_append, List.forall_mem_append]
  constructor
  · intro decodes
    have first := decodes.untracked_exact
    have second := decodes.staged_exact
    have third := decodes.changed_exact
    rw [untrackedListed] at first
    rw [stagedListed] at second
    rw [changedListed] at third
    exact ⟨⟨exactNames_printed_iff.mp first, exactNames_printed_iff.mp second⟩, exactNames_printed_iff.mp third⟩
  · rintro ⟨⟨untrackedPlain, stagedPlain⟩, changedPlain⟩
    refine
      { untracked_exact := untrackedListed ▸ exactNames_printed_iff.mpr untrackedPlain
        staged_exact := stagedListed ▸ exactNames_printed_iff.mpr stagedPlain
        changed_exact := changedListed ▸ exactNames_printed_iff.mpr changedPlain
        hashed := ?_
        complete := ?_ }
    · intro snapshot captured name member content read
      refine ⟨_, ?_, capture_hashed untrackedPlain untrackedListed captured member read⟩
      rw [String.toList_ofList, encode_plainText (untrackedPlain name member)]
    · intro repositoryPath inspectable readable
      exact capture_complete untrackedPlain untrackedListed stagedListed inspectable readable

/-- A clean repository with some untracked files. -/
def exampleProcess (untracked : List FileName) : GitProcess := fun command =>
  if command = ["git", "symbolic-ref", "--quiet", "--short", "HEAD"] then .ok ⟨0, encode "main\n".toList, []⟩
  else if command = ["git", "rev-parse", "--verify", "HEAD"] then
    .ok ⟨0, encode "4b825dc642cb6eb9a060e54bf8d69288fbee4904\n".toList, []⟩
  else if command = ["git", "ls-files", "--others", "--exclude-standard"] then .ok ⟨0, gitListing untracked, []⟩
  else .ok ⟨0, [], []⟩

/-- The untracked files of the repository are empty; there are no others. -/
def exampleUntracked (untracked : List FileName) : Workspace where
  repository := ⟨"/repo", exampleProcess untracked⟩
  paths := exampleScanPaths
  root := .directory (.mk none none .nil)
  read bytes :=
    if bytes ∈ untracked.map FileName.bytes then .ok [] else .error ⟨.osError, "No such file or directory"⟩
  digest := ⟨fun _ => emptySha256, fun _ => by decide⟩

def exampleNote : FileName where
  bytes := encode "notes.txt".toList
  filled := by decide
  no_null := by decide
  undotted := by decide

/-- The name `é.txt`, which Git prints as `"\303\251.txt"`. -/
def exampleAccented : FileName where
  bytes := encode "é.txt".toList
  filled := by decide
  no_null := by decide
  undotted := by decide

theorem listings_exact_iff_example :
    DecodesListings (exampleUntracked [exampleNote]) "4b825dc6" [exampleNote] [] [] :=
  (listings_exact_iff (by decide) ⟨[], rfl⟩ ⟨[], rfl⟩ ⟨[], rfl⟩).mpr (by decide)

/-- The name comes back in quotes, and no file of that name is found. -/
theorem accented_name_lost :
    (exampleUntracked [exampleAccented]).repository.untrackedFiles = .ok ["\"\\303\\251.txt\""] ∧
      Inspectable (exampleUntracked [exampleAccented]) "/repo" ∧
        (captureWorkspaceSnapshot (exampleUntracked [exampleAccented])).toOption.map
            WorkspaceSnapshot.inspectionErrors =
          some ["untracked-content: paths and content hashes do not describe the same files",
            "untracked-content:\"\\303\\251.txt\": No such file or directory"] ∧
          ¬DecodesListings (exampleUntracked [exampleAccented]) "4b825dc6" [exampleAccented] [] [] := by
  have listed : (exampleUntracked [exampleAccented]).repository.untrackedFiles = .ok ["\"\\303\\251.txt\""] := by
    decide +kernel
  refine ⟨listed, ?_, by decide +kernel, ?_⟩
  · exact
      { path := rfl
        settled := ⟨_, rfl⟩
        branch := ⟨_, rfl⟩
        headSha := ⟨_, rfl, by decide +kernel⟩
        stagedDiff := ⟨_, rfl⟩
        trackedDiff := ⟨_, rfl⟩
        environments := ⟨_, rfl⟩ }
  · intro decodes
    obtain ⟨texts, same, exact⟩ := decodes.untracked_exact
    rw [listed] at same
    cases same
    revert exact
    decide +kernel

end SprintTicket
