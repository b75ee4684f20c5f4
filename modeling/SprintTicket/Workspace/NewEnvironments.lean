import SprintTicket.Workspace.Scan

/-!
# Which environments are new

`new_environments` subtracts what one scan saw from what another saw. A scan does
not see a root below another root, nor one behind a link, so a root may come
into sight without being new: `newEnvironments_new_iff` says when that does not
happen.
-/

set_option autoImplicit false

namespace SprintTicket

open Checks

/-- What stands at the end of some names, through links. -/
def Node.lookup (root : Node) (names : List String) : Stat := root.stat.descend names

/-- `_detect_environment_root` finds a root at the end of some names. -/
def Qualifies (repositoryPath : String) (root : Node) (names : List String) : Prop :=
  ∃ directory environment, root.lookup names = .found (.directory directory) ∧
    detectEnvironmentRoot (names.foldl joinPath repositoryPath) directory = .ok (some environment)

/-- The way to the end of some names leaves what a scan looks at: it leads below
an environment root, through a link, or through a skipped name. -/
inductive Hidden : String → Directory → List String → Prop
  | root {path name : String} {directory : Directory} {environment : LocalEnvironment} {names : List String}
      (detected : detectEnvironmentRoot path directory = .ok (some environment)) :
      Hidden path directory (name :: names)
  | link {path name : String} {directory : Directory} {node : Node} {names : List String}
      (entry : directory.entries.find? name = some node) (link : ∀ inner, node ≠ .directory inner) :
      Hidden path directory (name :: names)
  | skipped {path name : String} {directory : Directory} {names : List String}
      (skipped : name ∈ skippedDirectoryNames) : Hidden path directory (name :: names)
  | inside {path name : String} {directory inner : Directory} {names : List String}
      (entry : directory.entries.find? name = some (.directory inner))
      (rest : Hidden (joinPath path name) inner names) : Hidden path directory (name :: names)

theorem Entries.mem_of_find? {entries : Entries} {name : String} {node : Node}
    (found : entries.find? name = some node) : ∃ untyped, (name, untyped, node) ∈ entries.toList := by
  fun_induction Entries.find? name entries with
  | case1 => cases found
  | case2 untyped node' rest =>
    cases found
    exact ⟨untyped, List.mem_cons_self⟩
  | case3 other untyped node' rest _ ih =>
    obtain ⟨untyped, member⟩ := ih found
    exact ⟨untyped, List.mem_cons_of_mem _ member⟩

/-- Descending a path is descending its first name, and then the rest. -/
theorem Stat.descend_cons (stat : Stat) (name : String) (names : List String) :
    stat.descend (name :: names) = (stat.child name).descend names := rfl

/-- Only in a directory there is something below. -/
theorem Stat.descend_directory {stat : Stat} {names : List String} {directory : Directory}
    (found : stat.descend names = .found (.directory directory)) : ∃ top, stat = .found (.directory top) := by
  have stuck : ∀ names, Stat.missing.descend names = .missing ∧
      ∀ error, (Stat.failed error).descend names = .failed error := by
    intro names
    induction names with
    | nil => exact ⟨rfl, fun _ => rfl⟩
    | cons name names ih => exact ih
  cases names with
  | nil => exact ⟨directory, found⟩
  | cons name names =>
    cases stat with
    | missing => rw [(stuck _).1] at found; cases found
    | failed error => rw [(stuck _).2] at found; cases found
    | found node =>
      cases node with
      | directory top => exact ⟨top, rfl⟩
      | file | special | dangling | link =>
        have missing := (stuck names).1
        rw [Stat.descend_cons] at found
        exact absurd (missing.symm.trans found) (by simp)

/-- What a directory that can be searched finds by a name. -/
theorem Directory.child_found {directory : Directory} {name : String} {node : Node}
    (found : directory.child name = .found node) :
    ∃ entry, directory.entries.find? name = some entry ∧ entry.stat = .found node := by
  unfold Directory.child at found
  split at found
  · cases found
  · split at found
    · rename_i entry listed
      exact ⟨entry, listed, found⟩
    · cases found

/-- A scan that reads everything gets to every directory that is not hidden. -/
theorem Reached.of_not_hidden {path : String} {top last : Directory} {names : List String}
    (detected : ∀ target inner, Reached path top target inner → ∃ found, detectEnvironmentRoot target inner = .ok found)
    (readable : Readable path top)
    (found : (Stat.found (.directory top)).descend names = .found (.directory last))
    (open' : ¬Hidden path top names) : Reached path top (names.foldl joinPath path) last := by
  induction names generalizing path top with
  | nil =>
    cases found
    exact .here path _
  | cons name names ih =>
    have plain : detectEnvironmentRoot path top = .ok none := by
      obtain ⟨outcome, ran⟩ := detected path top (.here path top)
      cases outcome with
      | none => exact ran
      | some environment => exact absurd (.root ran) open'
    have legible := readable.legible path top (.here path top) plain
    have kept : name ∉ skippedDirectoryNames := fun skipped => open' (.skipped skipped)
    rw [Stat.descend_cons] at found
    obtain ⟨inner, next⟩ := Stat.descend_directory found
    obtain ⟨entry, listed, resolved⟩ := Directory.child_found next
    have real : entry = .directory inner := by
      by_contra other
      refine open' (.link listed fun inner' same => ?_)
      rw [same] at resolved other
      cases resolved
      exact other rfl
    subst real
    obtain ⟨untyped, member⟩ := Entries.mem_of_find? listed
    have typed : untyped = none := legible.typed _ member kept
    rw [typed] at member
    have step : ∀ {target last}, Reached (joinPath path name) inner target last → Reached path top target last :=
      fun rest => .inside plain legible.listed member kept rest
    refine step (ih (fun target last rest => detected target last (step rest)) ⟨?_⟩ ?_ ?_)
    · exact fun target last rest => readable.legible target last (step rest)
    · rw [← found, ← next]
    · exact fun hidden => open' (.inside listed hidden)

/-- What is reported: the environments afterwards whose identity was not there before. -/
theorem mem_newEnvironments {identity : PathResolver} {before after : WorkspaceEnvironmentSnapshot}
    {reported : List LocalEnvironment} (h : newEnvironments identity before after = .ok reported)
    (environment : LocalEnvironment) :
    environment ∈ reported ↔ environment ∈ after.environments ∧
      ∀ earlier ∈ before.environments, identity earlier.rootPath ≠ identity environment.rootPath := by
  obtain ⟨beforeRoots, mapped, h⟩ := bind_ok_iff.mp h
  obtain ⟨decided, members⟩ := filterM_ok h
  rw [members]
  refine and_congr_right fun member => ?_
  obtain ⟨keep, named⟩ := decided environment member
  obtain ⟨root, found, _⟩ := bind_ok_iff.mp named
  have selected : (do let root ← identity environment.rootPath; pure (!beforeRoots.contains root)) =
      (.ok true : Except Raised Bool) ↔ root ∉ beforeRoots := by
    rw [ok_bind found]
    simp
  rw [selected, mem_mapM_ok mapped, found]
  push Not
  rfl

/-- After two scans without errors, no reported environment qualified before
exactly when every root that was hidden from the first scan and is in sight of
the second one leads to a root the first scan saw. -/
theorem newEnvironments_new_iff {identity : PathResolver} {paths paths' : ScanPaths} {path path' : String}
    {rootBefore rootAfter : Node} {before after : WorkspaceEnvironmentSnapshot} {reported : List LocalEnvironment}
    (scannedBefore : captureWorkspaceEnvironmentSnapshot paths path rootBefore = .ok before)
    (scannedAfter : captureWorkspaceEnvironmentSnapshot paths' path' rootAfter = .ok after)
    (completeBefore : before.inspectionErrors = [])
    (compared : newEnvironments identity before after = .ok reported) :
    (∀ environment ∈ reported, ∀ names, environment.rootPath = names.foldl joinPath before.repositoryPath →
      ¬Qualifies before.repositoryPath rootBefore names) ↔
      ∀ environment, VisibleRoot after.repositoryPath rootAfter environment → ∀ names top,
        environment.rootPath = names.foldl joinPath before.repositoryPath →
          rootBefore.stat = .found (.directory top) → Hidden before.repositoryPath top names →
            Qualifies before.repositoryPath rootBefore names →
              ∃ earlier, VisibleRoot before.repositoryPath rootBefore earlier ∧
                identity earlier.rootPath = identity environment.rootPath := by
  have capturedBefore := captureWorkspaceEnvironmentSnapshot_ok scannedBefore
  have members := mem_newEnvironments compared
  simp only [capturedBefore.environments, (captureWorkspaceEnvironmentSnapshot_ok scannedAfter).environments] at members
  obtain ⟨_, top, directory, readable⟩ := capturedBefore.errors.mp completeBefore
  constructor
  · intro new environment visible names _ located _ _ qualified
    by_contra unseen
    push Not at unseen
    exact new environment ((members environment).mpr ⟨visible, unseen⟩) names located qualified
  · intro seen environment listed names located qualified
    obtain ⟨visible, other⟩ := (members environment).mp listed
    by_cases hidden : Hidden before.repositoryPath top names
    · obtain ⟨earlier, visibleBefore, same⟩ := seen environment visible names top located directory hidden qualified
      exact other earlier visibleBefore same
    · -- A root in the open was seen by the first scan, under its own path.
      obtain ⟨last, earlier, found, detected⟩ := qualified
      rw [Node.lookup, directory] at found
      have reached := Reached.of_not_hidden (fun target inner => capturedBefore.detected top target inner directory)
        readable found hidden
      refine other earlier ⟨top, _, last, directory, reached, detected⟩ ?_
      rw [detectEnvironmentRoot_rootPath detected, located]

/-! ## A root that comes into sight -/

/-- An environment below another one. -/
def exampleTreeBefore : Node :=
  .directory (.mk none none (.cons "tools" none (.directory
    (.mk none none (.cons "pyvenv.cfg" none .file (.cons "venv" none (.directory exampleVenv) .nil)))) .nil))

/-- The same tree without the marker of the outer environment. -/
def exampleTreeAfter : Node :=
  .directory (.mk none none (.cons "tools" none (.directory
    (.mk none none (.cons "venv" none (.directory exampleVenv) .nil))) .nil))

def exampleInnerEnvironment : LocalEnvironment := ⟨"python_venv", "/repo/tools/venv", ["/repo/tools/venv/pyvenv.cfg"]⟩

def exampleScanBefore : WorkspaceEnvironmentSnapshot :=
  ⟨"/repo", [⟨"python_venv", "/repo/tools", ["/repo/tools/pyvenv.cfg"]⟩], []⟩

def exampleScanAfter : WorkspaceEnvironmentSnapshot := ⟨"/repo", [exampleInnerEnvironment], []⟩

theorem newEnvironments_existed :
    captureWorkspaceEnvironmentSnapshot exampleScanPaths "/repo" exampleTreeBefore = .ok exampleScanBefore ∧
      captureWorkspaceEnvironmentSnapshot exampleScanPaths "/repo" exampleTreeAfter = .ok exampleScanAfter ∧
        newEnvironments exampleScanPaths.identity exampleScanBefore exampleScanAfter = .ok [exampleInnerEnvironment] ∧
          exampleInnerEnvironment.rootPath = ["tools", "venv"].foldl joinPath "/repo" ∧
            Qualifies "/repo" exampleTreeBefore ["tools", "venv"] :=
  ⟨rfl, rfl, rfl, rfl, exampleVenv, exampleInnerEnvironment, rfl, rfl⟩

theorem newEnvironments_new_iff_example :
    ¬∀ environment, VisibleRoot "/repo" exampleTreeAfter environment → ∀ names top,
      environment.rootPath = names.foldl joinPath "/repo" → exampleTreeBefore.stat = .found (.directory top) →
        Hidden "/repo" top names → Qualifies "/repo" exampleTreeBefore names →
          ∃ earlier, VisibleRoot "/repo" exampleTreeBefore earlier ∧
            exampleScanPaths.identity earlier.rootPath = exampleScanPaths.identity environment.rootPath := by
  have scannedBefore : captureWorkspaceEnvironmentSnapshot exampleScanPaths "/repo" exampleTreeBefore =
      .ok exampleScanBefore := rfl
  have scannedAfter : captureWorkspaceEnvironmentSnapshot exampleScanPaths "/repo" exampleTreeAfter =
      .ok exampleScanAfter := rfl
  have compared : newEnvironments exampleScanPaths.identity exampleScanBefore exampleScanAfter =
      .ok [exampleInnerEnvironment] := rfl
  intro seen
  have new := (newEnvironments_new_iff scannedBefore scannedAfter rfl compared).mpr seen
  exact new exampleInnerEnvironment List.mem_cons_self ["tools", "venv"] rfl
    ⟨exampleVenv, exampleInnerEnvironment, rfl, rfl⟩

end SprintTicket
