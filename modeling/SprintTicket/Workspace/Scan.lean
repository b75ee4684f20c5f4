import SprintTicket.Workspace.Snapshot
import SprintTicket.WorkspaceGuard

/-!
# Scanning a repository for environments

A directory tree as the scan meets it: what each name stands for, and where
listing a directory, searching it, or finding the type of an entry fails. A link
is given with what is found behind it. `walkRepository` reports the environment
roots of the tree and does not look below them; `Reached` says where it gets to.
-/

set_option autoImplicit false

namespace SprintTicket

open Canonical Checks

mutual

/-- A directory. `unlisted` is the error of listing it, `unsearched` the error of
looking up a name in it. -/
inductive Directory
  | mk (unlisted unsearched : Option String) (entries : Entries)

/-- What a directory holds. `untyped` is the error of asking for an entry's type. -/
inductive Entries
  | nil
  | cons (name : String) (untyped : Option String) (node : Node) (rest : Entries)

/-- What a name stands for. A link that is `blocked` cannot be followed. -/
inductive Node
  | file
  | special
  | directory (directory : Directory)
  | dangling
  | link (junction : Bool) (blocked : Option String) (target : Node)

end

namespace Directory

def unlisted : Directory → Option String
  | .mk unlisted _ _ => unlisted

def unsearched : Directory → Option String
  | .mk _ unsearched _ => unsearched

def entries : Directory → Entries
  | .mk _ _ entries => entries

end Directory

def Entries.toList : Entries → List (String × Option String × Node)
  | .nil => []
  | .cons name untyped node rest => (name, untyped, node) :: rest.toList

/-- The first entry of a name; names are not repeated in a directory. -/
def Entries.find? (name : String) : Entries → Option Node
  | .nil => none
  | .cons other _ node rest => if other = name then some node else rest.find? name

/-- The outcome of `os.stat`. What does not exist, hangs in a loop of links or lies
below something that is no directory is `missing`; what is `found` is no link. -/
inductive Stat
  | missing
  | failed (error : String)
  | found (node : Node)

def Node.stat : Node → Stat
  | .link _ (some error) _ => .failed error
  | .link _ none target => target.stat
  | .dangling => .missing
  | node => .found node

def Directory.child (directory : Directory) (name : String) : Stat :=
  match directory.unsearched with
  | some error => .failed error
  | none =>
    match directory.entries.find? name with
    | some node => node.stat
    | none => .missing

/-- One more component of a path. -/
def Stat.child (name : String) : Stat → Stat
  | .found (.directory directory) => directory.child name
  | .found _ => .missing
  | other => other

def Stat.descend (stat : Stat) (names : List String) : Stat := names.foldl (fun stat name => stat.child name) stat

/-- `os.stat(directory / name / ...)`. -/
def Directory.stat (directory : Directory) (names : List String) : Stat :=
  (Stat.found (.directory directory)).descend names

/-- `Path.is_file`, which answers False for what is missing and raises any other error. -/
def isFile : Stat → Except Raised Bool
  | .found .file => .ok true
  | .failed error => .error ⟨.osError, error⟩
  | _ => .ok false

/-- `Path.is_dir`. -/
def isDir : Stat → Except Raised Bool
  | .found (.directory _) => .ok true
  | .failed error => .error ⟨.osError, error⟩
  | _ => .ok false

/-- `entry.is_dir(follow_symlinks=False)`, which holds of a junction. -/
def Node.isDirectory : Node → Bool
  | .directory _ => true
  | .link junction _ _ => junction
  | _ => false

/-- `parent / name`. -/
def joinPath (parent name : String) : String :=
  if parent.toList.getLast? = some '/' then parent ++ name else parent ++ "/" ++ name

/-- `_SKIPPED_DIRECTORY_NAMES`. -/
def skippedDirectoryNames : List String :=
  [".git", ".hg", ".svn", "__pycache__", ".mypy_cache", ".pytest_cache", ".ruff_cache"]

/-- `_first_existing_file`. -/
def firstExistingFile : List (String × Stat) → Except Raised (Option String)
  | [] => .ok none
  | (path, stat) :: rest => do
    if ← isFile stat then pure (some path) else firstExistingFile rest

/-- The loop of `_posix_site_packages` over the entries of `lib`. An entry whose
type cannot be found is passed over. -/
def librarySitePackages (libPath : String) : List (String × Option String × Node) → Except Raised (Option String)
  | [] => .ok none
  | (name, untyped, node) :: rest =>
    if ("python".toList.isPrefixOf name.toList && untyped.isNone && node.isDirectory) = true then do
      if ← isDir (node.stat.child "site-packages") then
        pure (some (joinPath (joinPath libPath name) "site-packages"))
      else librarySitePackages libPath rest
    else librarySitePackages libPath rest

/-- `_posix_site_packages`; a directory that cannot be listed has none. -/
def posixSitePackages (libPath : String) : Stat → Except Raised (Option String)
  | .found (.directory (.mk none _ entries)) => librarySitePackages libPath entries.toList
  | _ => .ok none

section Detection

variable (path : String) (directory : Directory)

/-- `_credible_python_environment_markers`, after the Windows pair. -/
def posixMarkers : Except Raised (List String) := do
  let sitePackages ← posixSitePackages (joinPath path "lib") (directory.stat ["lib"])
  let python ← isFile (directory.stat ["bin", "python"])
  match sitePackages with
  | some found => pure (if python then [joinPath (joinPath path "bin") "python", found] else [])
  | none => pure []

/-- `_credible_python_environment_markers`. -/
def crediblePythonEnvironmentMarkers : Except Raised (List String) := do
  let scripts := joinPath path "Scripts"
  let windowsPython ← firstExistingFile
    [(joinPath scripts "python.exe", directory.stat ["Scripts", "python.exe"]),
      (joinPath scripts "python", directory.stat ["Scripts", "python"])]
  match windowsPython with
  | some python =>
    if ← isDir (directory.stat ["Lib", "site-packages"]) then
      pure [python, joinPath (joinPath path "Lib") "site-packages"]
    else posixMarkers path directory
  | none => posixMarkers path directory

/-- `_detect_environment_root`. -/
def detectEnvironmentRoot : Except Raised (Option LocalEnvironment) := do
  if ← isFile (directory.stat ["conda-meta", "history"]) then
    pure (some ⟨"conda", path, [joinPath (joinPath path "conda-meta") "history"]⟩)
  else if ← isFile (directory.stat ["pyvenv.cfg"]) then
    pure (some ⟨"python_venv", path, [joinPath path "pyvenv.cfg"]⟩)
  else do
    let markers ← crediblePythonEnvironmentMarkers path directory
    pure (if markers = [] then none else some ⟨"python_venv", path, markers⟩)

end Detection

/-- A detected environment is rooted where it was detected. -/
theorem detectEnvironmentRoot_rootPath {path : String} {directory : Directory} {environment : LocalEnvironment}
    (detected : detectEnvironmentRoot path directory = .ok (some environment)) : environment.rootPath = path := by
  unfold detectEnvironmentRoot at detected
  obtain ⟨conda, _, detected⟩ := bind_ok_iff.mp detected
  cases conda with
  | true =>
    cases detected
    rfl
  | false =>
    obtain ⟨pyvenv, _, detected⟩ := bind_ok_iff.mp detected
    cases pyvenv with
    | true =>
      cases detected
      rfl
    | false =>
      obtain ⟨markers, _, detected⟩ := bind_ok_iff.mp detected
      have chosen := pure_ok.mp detected
      split at chosen
      · cases chosen
      · cases chosen
        rfl

/-- What the scan found so far. -/
structure Scan where
  environments : List LocalEnvironment
  errors : List String

def Scan.empty : Scan := ⟨[], []⟩

def Scan.append (first second : Scan) : Scan :=
  ⟨first.environments ++ second.environments, first.errors ++ second.errors⟩

/-- What the walk is given besides the tree: `_relative_path`, the resolved
repository, and the error of listing a path that is no directory. -/
structure ScanContext where
  relative : String → String → String
  repositoryPath : String
  refusal : String

/-- An error of the walk at a path. -/
def ScanContext.failure (context : ScanContext) (path error : String) : Scan :=
  ⟨[], [context.relative path context.repositoryPath ++ ": " ++ error]⟩

mutual

/-- `_walk_repository` on a directory. -/
def walkRepository (context : ScanContext) (path : String) : Directory → Except Raised Scan
  | .mk unlisted unsearched entries => do
    match ← detectEnvironmentRoot path (.mk unlisted unsearched entries) with
    | some environment => pure ⟨[environment], []⟩
    | none =>
      match unlisted with
      | some error => pure (context.failure path error)
      | none => walkEntries context path entries

/-- The loop of `_walk_repository` over the entries of a directory. -/
def walkEntries (context : ScanContext) (path : String) : Entries → Except Raised Scan
  | .nil => pure .empty
  | .cons name untyped node rest => do
    let first ← (if name ∈ skippedDirectoryNames then .ok .empty
      else match untyped with
        | some error => .ok (context.failure (joinPath path name) error)
        | none => walkEntry context (joinPath path name) node)
    let others ← walkEntries context path rest
    pure (first.append others)

/-- The scan goes into real directories only: `is_dir` does not follow links, and
a junction is left out by `_is_junction`. -/
def walkEntry (context : ScanContext) (path : String) : Node → Except Raised Scan
  | .directory directory => walkRepository context path directory
  | _ => pure .empty

end

/-- `_walk_repository` on the repository itself, which need not be a directory. -/
def walkRoot (context : ScanContext) (path : String) (root : Node) : Except Raised Scan :=
  match root.stat with
  | .found (.directory directory) => walkRepository context path directory
  | .failed error => .error ⟨.osError, error⟩
  | _ => .ok (context.failure path context.refusal)

/-- `sorted(environments, key=_environment_sort_key)`. -/
def sortEnvironments (identity : PathResolver) (environments : List LocalEnvironment) :
    Except Raised (List LocalEnvironment) := do
  let keyed ← environments.mapM fun environment => do
    let key ← identity environment.rootPath
    pure (key, environment)
  pure ((keyed.insertionSort fun first second => first.1 ≤ second.1).map Prod.snd)

/-- The functions on paths the scan uses: `Path.resolve`, `Path.absolute`,
`_relative_path` and `_path_identity`. -/
structure ScanPaths where
  resolve : PathResolver
  absolute : String → String
  relative : String → String → String
  identity : PathResolver
  refusal : String

/-- `capture_workspace_environment_snapshot` of a path behind which `root` is found. -/
def captureWorkspaceEnvironmentSnapshot (paths : ScanPaths) (repositoryPath : String) (root : Node) :
    Except Raised WorkspaceEnvironmentSnapshot := do
  let (path, errors) ← snapshotPath paths.resolve paths.absolute repositoryPath
  let scan ← walkRoot ⟨paths.relative, path, paths.refusal⟩ path root
  let environments ← sortEnvironments paths.identity scan.environments
  pure ⟨path, environments, errors ++ scan.errors⟩

/-! ## Where the walk gets to -/

/-- A directory of the tree and its path as the walk gets to them: through
listed directories without markers and through entries that are typed, not
skipped, and real directories. -/
inductive Reached : String → Directory → String → Directory → Prop
  | here (path : String) (directory : Directory) : Reached path directory path directory
  | inside {path target : String} {directory inner last : Directory} {name : String}
      (plain : detectEnvironmentRoot path directory = .ok none) (listed : directory.unlisted = none)
      (entry : (name, none, .directory inner) ∈ directory.entries.toList) (kept : name ∉ skippedDirectoryNames)
      (rest : Reached (joinPath path name) inner target last) : Reached path directory target last

/-- The walk lists the directory and finds the type of every entry it does not skip. -/
structure Legible (directory : Directory) : Prop where
  listed : directory.unlisted = none
  typed : ∀ entry ∈ directory.entries.toList, entry.1 ∉ skippedDirectoryNames → entry.2.1 = none

/-- What a scan that ends has found below a directory. -/
structure Walked (path : String) (directory : Directory) (scan : Scan) : Prop where
  detected : ∀ target last, Reached path directory target last → ∃ found, detectEnvironmentRoot target last = .ok found
  environments : ∀ environment, environment ∈ scan.environments ↔ ∃ target last,
    Reached path directory target last ∧ detectEnvironmentRoot target last = .ok (some environment)
  errors : scan.errors = [] ↔ ∀ target last,
    Reached path directory target last → detectEnvironmentRoot target last = .ok none → Legible last

/-- The same for the entries of a directory. -/
structure WalkedEntries (path : String) (entries : Entries) (scan : Scan) : Prop where
  detected : ∀ name inner target last, (name, none, .directory inner) ∈ entries.toList →
    name ∉ skippedDirectoryNames → Reached (joinPath path name) inner target last →
      ∃ found, detectEnvironmentRoot target last = .ok found
  environments : ∀ environment, environment ∈ scan.environments ↔ ∃ name inner target last,
    (name, none, .directory inner) ∈ entries.toList ∧ name ∉ skippedDirectoryNames ∧
      Reached (joinPath path name) inner target last ∧ detectEnvironmentRoot target last = .ok (some environment)
  errors : scan.errors = [] ↔
    (∀ entry ∈ entries.toList, entry.1 ∉ skippedDirectoryNames → entry.2.1 = none) ∧
      ∀ name inner target last, (name, none, .directory inner) ∈ entries.toList → name ∉ skippedDirectoryNames →
        Reached (joinPath path name) inner target last → detectEnvironmentRoot target last = .ok none → Legible last

section Walk

variable {context : ScanContext}

/-- What two scans found is appended. -/
theorem Scan.append_environments {first second : Scan} :
    (first.append second).environments = first.environments ++ second.environments := rfl

theorem Scan.append_errors {first second : Scan} : (first.append second).errors = first.errors ++ second.errors := rfl

/-- A directory with a marker is reported, and the walk ends there. -/
theorem Walked.marked {path : String} {directory : Directory} {environment : LocalEnvironment}
    (found : detectEnvironmentRoot path directory = .ok (some environment)) :
    Walked path directory ⟨[environment], []⟩ := by
  have only : ∀ {target last}, Reached path directory target last → target = path ∧ last = directory := by
    intro target last reached
    cases reached with
    | here => exact ⟨rfl, rfl⟩
    | inside plain => rw [found] at plain; cases plain
  constructor
  · intro target last reached
    obtain ⟨rfl, rfl⟩ := only reached
    exact ⟨_, found⟩
  · intro other
    rw [List.mem_singleton]
    constructor
    · rintro rfl
      exact ⟨path, directory, .here path directory, found⟩
    · rintro ⟨target, last, reached, detected⟩
      obtain ⟨rfl, rfl⟩ := only reached
      rw [found] at detected
      cases detected
      rfl
  · refine iff_of_true rfl fun target last reached plain => ?_
    obtain ⟨rfl, rfl⟩ := only reached
    rw [found] at plain
    cases plain

/-- A directory that cannot be listed leaves its error. -/
theorem Walked.unlisted {path error : String} {directory : Directory}
    (plain : detectEnvironmentRoot path directory = .ok none) (unlisted : directory.unlisted = some error) :
    Walked path directory (context.failure path error) := by
  constructor
  · intro target last reached
    cases reached with
    | here => exact ⟨_, plain⟩
    | inside _ listed => rw [unlisted] at listed; cases listed
  · intro other
    refine iff_of_false List.not_mem_nil ?_
    rintro ⟨target, last, reached, detected⟩
    cases reached with
    | here => rw [plain] at detected; cases detected
    | inside _ listed => rw [unlisted] at listed; cases listed
  · refine iff_of_false (List.cons_ne_nil _ _) fun legible => ?_
    have listed := (legible path directory (.here path directory) plain).listed
    rw [unlisted] at listed
    cases listed

/-- A listed directory is what its entries are. -/
theorem WalkedEntries.walked {path : String} {directory : Directory} {scan : Scan}
    (plain : detectEnvironmentRoot path directory = .ok none) (listed : directory.unlisted = none)
    (walked : WalkedEntries path directory.entries scan) : Walked path directory scan := by
  constructor
  · intro target last reached
    cases reached with
    | here => exact ⟨_, plain⟩
    | inside _ _ entry kept rest => exact walked.detected _ _ target last entry kept rest
  · intro environment
    rw [walked.environments]
    constructor
    · rintro ⟨name, inner, target, last, entry, kept, reached, detected⟩
      exact ⟨target, last, .inside plain listed entry kept reached, detected⟩
    · rintro ⟨target, last, reached, detected⟩
      cases reached with
      | here => rw [plain] at detected; cases detected
      | inside _ _ entry kept rest => exact ⟨_, _, target, last, entry, kept, rest, detected⟩
  · rw [walked.errors]
    constructor
    · rintro ⟨typed, legible⟩ target last reached unmarked
      cases reached with
      | here => exact ⟨listed, typed⟩
      | inside _ _ entry kept rest => exact legible _ _ target last entry kept rest unmarked
    · intro legible
      refine ⟨(legible path directory (.here path directory) plain).typed, ?_⟩
      intro name inner target last entry kept rest unmarked
      exact legible target last (.inside plain listed entry kept rest) unmarked

theorem WalkedEntries.nil {path : String} : WalkedEntries path .nil .empty where
  detected _ _ _ _ member := absurd member List.not_mem_nil
  environments _ := iff_of_false List.not_mem_nil fun ⟨_, _, _, _, member, _⟩ => List.not_mem_nil member
  errors := iff_of_true rfl ⟨(fun _ member => absurd member List.not_mem_nil),
    fun _ _ _ _ member => absurd member List.not_mem_nil⟩

/-- What the loop makes of its first entry. -/
structure WalkedFirst (path name : String) (untyped : Option String) (node : Node) (scan : Scan) : Prop where
  detected : ∀ inner target last, untyped = none → node = .directory inner → name ∉ skippedDirectoryNames →
    Reached (joinPath path name) inner target last → ∃ found, detectEnvironmentRoot target last = .ok found
  environments : ∀ environment, environment ∈ scan.environments ↔ ∃ inner target last,
    untyped = none ∧ node = .directory inner ∧ name ∉ skippedDirectoryNames ∧
      Reached (joinPath path name) inner target last ∧ detectEnvironmentRoot target last = .ok (some environment)
  errors : scan.errors = [] ↔ (name ∉ skippedDirectoryNames → untyped = none) ∧
    ∀ inner target last, untyped = none → node = .directory inner → name ∉ skippedDirectoryNames →
      Reached (joinPath path name) inner target last → detectEnvironmentRoot target last = .ok none → Legible last

theorem WalkedEntries.cons {path name : String} {untyped : Option String} {node : Node} {rest : Entries}
    {first others : Scan} (walked : WalkedFirst path name untyped node first) (later : WalkedEntries path rest others) :
    WalkedEntries path (.cons name untyped node rest) (first.append others) := by
  constructor
  · simp only [Entries.toList, List.mem_cons]
    rintro other inner target last (same | member) kept
    · cases same
      exact walked.detected inner target last rfl rfl kept
    · exact later.detected other inner target last member kept
  · intro environment
    rw [Scan.append_environments, List.mem_append, walked.environments, later.environments]
    simp only [Entries.toList, List.mem_cons]
    constructor
    · rintro (⟨inner, target, last, rfl, rfl, kept, found⟩ | ⟨other, inner, target, last, member, found⟩)
      · exact ⟨name, inner, target, last, .inl rfl, kept, found⟩
      · exact ⟨other, inner, target, last, .inr member, found⟩
    · rintro ⟨other, inner, target, last, same | member, kept, found⟩
      · cases same
        exact .inl ⟨inner, target, last, rfl, rfl, kept, found⟩
      · exact .inr ⟨other, inner, target, last, member, kept, found⟩
  · rw [Scan.append_errors, List.append_eq_nil_iff, walked.errors, later.errors]
    simp only [Entries.toList, List.mem_cons, forall_eq_or_imp]
    constructor
    · rintro ⟨⟨typed, legible⟩, typedLater, legibleLater⟩
      refine ⟨⟨typed, typedLater⟩, ?_⟩
      rintro other inner target last (same | member) kept
      · cases same
        exact legible inner target last rfl rfl kept
      · exact legibleLater other inner target last member kept
    · rintro ⟨⟨typed, typedLater⟩, legible⟩
      refine ⟨⟨typed, ?_⟩, typedLater, fun other inner target last member => legible other inner target last (.inr member)⟩
      rintro inner target last rfl rfl
      exact legible name inner target last (.inl rfl)

/-- The cases of an entry: skipped, without a type, no directory, or walked into. -/
theorem WalkedFirst.skipped {path name : String} {untyped : Option String} {node : Node}
    (skipped : name ∈ skippedDirectoryNames) : WalkedFirst path name untyped node .empty where
  detected _ _ _ _ _ kept := absurd skipped kept
  environments _ := iff_of_false List.not_mem_nil fun ⟨_, _, _, _, _, kept, _⟩ => kept skipped
  errors := iff_of_true rfl ⟨(fun kept => absurd skipped kept), fun _ _ _ _ _ kept => absurd skipped kept⟩

theorem WalkedFirst.untyped {path name error : String} {node : Node} (kept : name ∉ skippedDirectoryNames) :
    WalkedFirst path name (some error) node (context.failure (joinPath path name) error) where
  detected _ _ _ typed := nomatch typed
  environments _ := iff_of_false List.not_mem_nil fun ⟨_, _, _, typed, _⟩ => nomatch typed
  errors := iff_of_false (List.cons_ne_nil _ _) fun legible => nomatch legible.1 kept

theorem WalkedFirst.other {path name : String} {node : Node} (other : ∀ inner, node ≠ .directory inner) :
    WalkedFirst path name none node .empty where
  detected inner _ _ _ same := absurd same (other inner)
  environments _ := iff_of_false List.not_mem_nil fun ⟨inner, _, _, _, same, _⟩ => other inner same
  errors := iff_of_true rfl ⟨fun _ => rfl, fun inner _ _ _ same => absurd same (other inner)⟩

theorem WalkedFirst.directory {path name : String} {directory : Directory} {scan : Scan}
    (kept : name ∉ skippedDirectoryNames) (walked : Walked (joinPath path name) directory scan) :
    WalkedFirst path name none (.directory directory) scan := by
  constructor
  · rintro inner target last _ same _
    cases same
    exact walked.detected target last
  · intro environment
    rw [walked.environments]
    constructor
    · rintro ⟨target, last, found⟩
      exact ⟨directory, target, last, rfl, rfl, kept, found⟩
    · rintro ⟨inner, target, last, _, same, _, found⟩
      cases same
      exact ⟨target, last, found⟩
  · rw [walked.errors]
    constructor
    · intro legible
      refine ⟨fun _ => rfl, ?_⟩
      rintro inner target last _ same _
      cases same
      exact legible target last
    · rintro ⟨_, legible⟩ target last
      exact legible directory target last rfl rfl kept

mutual

/-- The walk of a directory, by the structure of the tree. -/
theorem walkRepository_walked {path : String} (directory : Directory) {scan : Scan}
    (h : walkRepository context path directory = .ok scan) : Walked path directory scan := by
  cases directory with
  | mk unlisted unsearched entries =>
    unfold walkRepository at h
    obtain ⟨detected, found, h⟩ := bind_ok_iff.mp h
    cases detected with
    | some environment =>
      cases h
      exact .marked found
    | none =>
      cases unlisted with
      | some error =>
        cases h
        exact .unlisted found rfl
      | none => exact (walkEntries_walked entries h).walked found rfl

/-- The walk, over the entries of a directory and over one of them. -/
theorem walkEntries_walked {path : String} (entries : Entries) {scan : Scan}
    (h : walkEntries context path entries = .ok scan) : WalkedEntries path entries scan := by
  cases entries with
  | nil =>
    rw [walkEntries] at h
    cases h
    exact .nil
  | cons name untyped node rest =>
    unfold walkEntries at h
    obtain ⟨first, ran, h⟩ := bind_ok_iff.mp h
    obtain ⟨others, later, h⟩ := bind_ok_iff.mp h
    cases h
    refine .cons ?_ (walkEntries_walked rest later)
    split at ran
    · rename_i skipped
      cases ran
      exact .skipped skipped
    · rename_i kept
      cases untyped with
      | some error =>
        cases ran
        exact .untyped kept
      | none => exact walkEntry_walked node kept ran

theorem walkEntry_walked {path name : String} (node : Node) {scan : Scan} (kept : name ∉ skippedDirectoryNames)
    (h : walkEntry context (joinPath path name) node = .ok scan) : WalkedFirst path name none node scan := by
  cases node with
  | directory directory =>
    rw [walkEntry] at h
    exact .directory kept (walkRepository_walked directory h)
  | file | special | dangling | link =>
    cases h
    exact .other fun _ same => nomatch same

end

end Walk

/-- Sorting loses no environment. -/
theorem sortEnvironments_mem {identity : PathResolver} {environments sorted : List LocalEnvironment}
    (h : sortEnvironments identity environments = .ok sorted) (environment : LocalEnvironment) :
    environment ∈ sorted ↔ environment ∈ environments := by
  obtain ⟨keyed, mapped, h⟩ := bind_ok_iff.mp h
  cases h
  simp only [List.mem_map, List.mem_insertionSort, mem_mapM_ok mapped]
  constructor
  · rintro ⟨⟨key, other⟩, ⟨original, member, named⟩, rfl⟩
    obtain ⟨_, _, same⟩ := bind_ok_iff.mp named
    cases same
    exact member
  · intro member
    obtain ⟨pair, named⟩ := mapM_ok_each mapped member
    obtain ⟨key, found, same⟩ := bind_ok_iff.mp named
    exact ⟨(key, environment), ⟨environment, member, bind_ok_iff.mpr ⟨key, found, rfl⟩⟩, rfl⟩

/-- A root that the scan of a tree sees. -/
def VisibleRoot (repositoryPath : String) (root : Node) (environment : LocalEnvironment) : Prop :=
  ∃ top path last, root.stat = .found (.directory top) ∧ Reached repositoryPath top path last ∧
    detectEnvironmentRoot path last = .ok (some environment)

/-- The scan can read everything it needs: the repository is a directory and every
directory it gets to is legible or a root. -/
structure Readable (repositoryPath : String) (top : Directory) : Prop where
  legible : ∀ path last, Reached repositoryPath top path last → detectEnvironmentRoot path last = .ok none →
    Legible last

/-- What a snapshot of the environments says about the tree. -/
structure Captured (paths : ScanPaths) (path : String) (root : Node) (snapshot : WorkspaceEnvironmentSnapshot) :
    Prop where
  detected : ∀ top target last, root.stat = .found (.directory top) → Reached snapshot.repositoryPath top target last →
    ∃ found, detectEnvironmentRoot target last = .ok found
  environments : ∀ environment, environment ∈ snapshot.environments ↔
    VisibleRoot snapshot.repositoryPath root environment
  errors : snapshot.inspectionErrors = [] ↔
    snapshotPath paths.resolve paths.absolute path = .ok (snapshot.repositoryPath, []) ∧
      ∃ top, root.stat = .found (.directory top) ∧ Readable snapshot.repositoryPath top

/-- A snapshot holds what the walk from the root found. -/
theorem captureWorkspaceEnvironmentSnapshot_ok {paths : ScanPaths} {path : String} {root : Node}
    {snapshot : WorkspaceEnvironmentSnapshot}
    (h : captureWorkspaceEnvironmentSnapshot paths path root = .ok snapshot) : Captured paths path root snapshot := by
  obtain ⟨⟨resolved, errors⟩, found, h⟩ := bind_ok_iff.mp h
  obtain ⟨scan, walked, h⟩ := bind_ok_iff.mp h
  obtain ⟨sorted, ordered, h⟩ := bind_ok_iff.mp h
  cases h
  have members := sortEnvironments_mem ordered
  have located : snapshotPath paths.resolve paths.absolute path = .ok (resolved, []) ↔ errors = [] := by
    rw [found]
    simp
  unfold walkRoot at walked
  dsimp only [VisibleRoot] at *
  constructor
  · intro top target last directory
    rw [directory] at walked
    exact (walkRepository_walked top walked).detected target last
  · intro environment
    rw [members]
    split at walked
    · rename_i top directory
      rw [(walkRepository_walked top walked).environments]
      constructor
      · rintro ⟨target, last, reached, detected⟩
        exact ⟨top, target, last, directory, reached, detected⟩
      · rintro ⟨other, target, last, same, reached, detected⟩
        rw [directory] at same
        cases same
        exact ⟨target, last, reached, detected⟩
    · cases walked
    · rename_i other _
      cases walked
      refine iff_of_false List.not_mem_nil ?_
      rintro ⟨top, _, _, directory, _⟩
      exact other top directory
  · dsimp only
    rw [List.append_eq_nil_iff, located]
    refine and_congr_right fun _ => ?_
    split at walked
    · rename_i top directory
      rw [(walkRepository_walked top walked).errors]
      constructor
      · exact fun legible => ⟨top, directory, ⟨legible⟩⟩
      · rintro ⟨other, same, readable⟩
        rw [directory] at same
        cases same
        exact readable.legible
    · cases walked
    · rename_i other _
      cases walked
      refine iff_of_false (List.cons_ne_nil _ _) ?_
      rintro ⟨top, directory, _⟩
      exact other top directory

/-- A file system on which every path is resolved. -/
def exampleScanPaths : ScanPaths where
  resolve path := .ok path
  absolute := id
  relative path _ := path
  identity path := .ok path
  refusal := "[Errno 20] Not a directory: '/repo'"

def exampleVenv : Directory := .mk none none (.cons "pyvenv.cfg" none .file .nil)

end SprintTicket
