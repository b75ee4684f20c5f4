import SprintTicket.Workspace.Scan

/-!
# What a complete scan may miss

`Carries` says which directories carry an environment marker, whatever can be
read. A directory that the scan cannot list, search or find the type of leaves an
error or ends the scan, except in the library of an interpreter: there
`_posix_site_packages` passes over the error. `scan_misses_nothing_iff` is the
exact consequence.
-/

set_option autoImplicit false

namespace SprintTicket

open Checks

/-- What a link leads to. -/
def Node.target : Node → Option Node
  | .link _ _ target => target.target
  | .dangling => none
  | node => some node

def Node.look (name : String) : Node → Option Node
  | .directory inner => (inner.entries.find? name).bind Node.target
  | _ => none

/-- What stands at the end of some names. -/
def Directory.look (directory : Directory) (names : List String) : Option Node :=
  names.foldl (fun place name => place.bind (Node.look name)) (some (.directory directory))

/-- A library holds a directory `python*` with `site-packages` in it. -/
structure HasSitePackages (library : Directory) (name : String) (untyped : Option String) (node : Node) : Prop where
  entry : (name, untyped, node) ∈ library.entries.toList
  named : "python".toList.isPrefixOf name.toList = true
  real : node.isDirectory = true
  sitePackages : ∃ inner, node.target.bind (Node.look "site-packages") = some (.directory inner)

/-- The directory carries a Conda history, a `pyvenv.cfg`, or an interpreter with
its `site-packages`. -/
inductive Carries (directory : Directory) : Prop
  | conda (history : directory.look ["conda-meta", "history"] = some .file)
  | pyvenv (config : directory.look ["pyvenv.cfg"] = some .file)
  | windows (python : directory.look ["Scripts", "python.exe"] = some .file ∨
        directory.look ["Scripts", "python"] = some .file)
      (sitePackages : ∃ inner, directory.look ["Lib", "site-packages"] = some (.directory inner))
  | posix {library : Directory} {name : String} {untyped : Option String} {node : Node}
      (python : directory.look ["bin", "python"] = some .file)
      (lib : directory.look ["lib"] = some (.directory library))
      (sitePackages : HasSitePackages library name untyped node)

/-- Where `_posix_site_packages` passes over an error. -/
inductive LibraryUnread : Stat → Prop
  | blocked (error : String) : LibraryUnread (.failed error)
  | unlisted (error : String) (unsearched : Option String) (entries : Entries) :
      LibraryUnread (.found (.directory (.mk (some error) unsearched entries)))
  | untyped {name error : String} {node : Node} {unsearched : Option String} {entries : Entries}
      (entry : (name, some error, node) ∈ entries.toList) (named : "python".toList.isPrefixOf name.toList = true) :
      LibraryUnread (.found (.directory (.mk none unsearched entries)))

/-- An interpreter whose library could not be read. -/
structure Obscured (directory : Directory) : Prop where
  python : directory.look ["bin", "python"] = some .file
  library : LibraryUnread (directory.stat ["lib"])

/-- A stat that does not fail tells what is there. -/
def Agrees : Stat → Option Node → Prop
  | .missing, place => place = none
  | .failed _, _ => True
  | .found node, place => place = some node

/-- What `stat` answers agrees with what is there. -/
theorem Node.stat_agrees (node : Node) : Agrees node.stat node.target := by
  fun_induction Node.stat node with
  | case1 => trivial
  | case2 junction target ih => exact ih
  | case3 => rfl
  | case4 node blocked linked dangling =>
    cases node with
    | file | special | directory => rfl
    | dangling => exact absurd rfl dangling
    | link junction error target =>
      cases error with
      | none => exact absurd rfl (linked junction target)
      | some error => exact absurd rfl (blocked junction error target)

theorem Agrees.child {stat : Stat} {place : Option Node} (agrees : Agrees stat place) (name : String) :
    Agrees (stat.child name) (place.bind (Node.look name)) := by
  cases stat with
  | missing =>
    rw [show place = none from agrees]
    rfl
  | failed error => trivial
  | found node =>
    rw [show place = some node from agrees, Option.bind_some]
    cases node with
    | directory directory =>
      show Agrees (directory.child name) ((directory.entries.find? name).bind Node.target)
      unfold Directory.child
      cases directory.unsearched with
      | some error => trivial
      | none =>
        cases directory.entries.find? name with
        | none => rfl
        | some entry => exact entry.stat_agrees
    | file | special | dangling | link => rfl

theorem Directory.stat_agrees (directory : Directory) (names : List String) :
    Agrees (directory.stat names) (directory.look names) := by
  unfold Directory.stat Stat.descend Directory.look
  have start : Agrees (.found (.directory directory)) (some (.directory directory)) := rfl
  generalize Stat.found (.directory directory) = stat at start
  generalize some (Node.directory directory) = place at start
  induction names generalizing stat place with
  | nil => exact start
  | cons name names ih => exact ih _ _ (start.child name)

/-- So the checks for files and directories tell the truth, when they answer. -/
theorem Agrees.isFile {stat : Stat} {place : Option Node} (agrees : Agrees stat place) {answer : Bool}
    (h : isFile stat = .ok answer) : answer = true ↔ place = some .file := by
  cases stat with
  | missing =>
    cases h
    simp [show place = none from agrees]
  | failed error => cases h
  | found node =>
    rw [show place = some node from agrees, Option.some.injEq]
    cases node <;> cases h <;> simp

theorem Agrees.isDir {stat : Stat} {place : Option Node} (agrees : Agrees stat place) {answer : Bool}
    (h : isDir stat = .ok answer) : answer = true ↔ ∃ inner, place = some (.directory inner) := by
  cases stat with
  | missing =>
    cases h
    simp [show place = none from agrees]
  | failed error => cases h
  | found node =>
    simp only [show place = some node from agrees, Option.some.injEq]
    cases node <;> cases h <;> simp

/-- The first of the two files that is there. -/
theorem firstExistingFile_ok {first second : String × Stat} {found : Option String}
    (h : firstExistingFile [first, second] = .ok found) :
    (isFile first.2 = .ok true ∧ found = some first.1) ∨ (isFile first.2 = .ok false ∧
      ((isFile second.2 = .ok true ∧ found = some second.1) ∨ (isFile second.2 = .ok false ∧ found = none))) := by
  obtain ⟨answer, asked, h⟩ := bind_ok_iff.mp h
  cases answer with
  | true =>
    cases h
    exact .inl ⟨asked, rfl⟩
  | false =>
    obtain ⟨answer, again, h⟩ := bind_ok_iff.mp h
    cases answer with
    | true =>
      cases h
      exact .inr ⟨asked, .inl ⟨again, rfl⟩⟩
    | false =>
      cases h
      exact .inr ⟨asked, .inr ⟨again, rfl⟩⟩

/-- The loop over a library finds a `site-packages`, or there is none behind an
entry it could type. -/
theorem librarySitePackages_ok {libPath : String} {library : Directory}
    {entries : List (String × Option String × Node)} {found : Option String}
    (inside : ∀ entry ∈ entries, entry ∈ library.entries.toList)
    (h : librarySitePackages libPath entries = .ok found) :
    (∀ path, found = some path → ∃ name untyped node, HasSitePackages library name untyped node) ∧
      (found = none → ∀ name untyped node, (name, untyped, node) ∈ entries →
        HasSitePackages library name untyped node → ∃ error, untyped = some error) := by
  induction entries with
  | nil =>
    cases h
    exact ⟨(fun _ same => nomatch same), fun _ _ _ _ member => absurd member List.not_mem_nil⟩
  | cons entry rest ih =>
    obtain ⟨name, untyped, node⟩ := entry
    rw [List.forall_mem_cons] at inside
    unfold librarySitePackages at h
    split at h
    · rename_i considered
      simp only [Bool.and_eq_true, Option.isNone_iff_eq_none] at considered
      obtain ⟨⟨named, typed⟩, real⟩ := considered
      obtain ⟨answer, asked, h⟩ := bind_ok_iff.mp h
      have packages := (node.stat_agrees.child "site-packages").isDir asked
      cases answer with
      | true =>
        cases h
        exact ⟨fun _ _ => ⟨name, untyped, node, inside.1, named, real, packages.mp rfl⟩, fun none => nomatch none⟩
      | false =>
        obtain ⟨some, none⟩ := ih inside.2 h
        refine ⟨some, fun absent other untyped' node' member has => ?_⟩
        rcases List.mem_cons.mp member with same | member
        · cases same
          exact absurd (packages.mpr has.sitePackages) (by decide)
        · exact none absent other untyped' node' member has
    · rename_i passed
      obtain ⟨some, none⟩ := ih inside.2 h
      refine ⟨some, fun absent other untyped' node' member has => ?_⟩
      rcases List.mem_cons.mp member with same | member
      · cases same
        simp only [has.named, has.real, Bool.true_and, Bool.and_true] at passed
        exact Option.ne_none_iff_exists'.mp (by simpa using passed)
      · exact none absent other untyped' node' member has

/-- The POSIX pair is found, or it is not there, or its library was not read. -/
theorem posixMarkers_ok {path : String} {directory : Directory} {markers : List String}
    (h : posixMarkers path directory = .ok markers) :
    (markers ≠ [] → Carries directory) ∧
      (markers = [] → ∀ library name untyped node, directory.look ["bin", "python"] = some .file →
        directory.look ["lib"] = some (.directory library) → HasSitePackages library name untyped node →
          LibraryUnread (directory.stat ["lib"])) := by
  obtain ⟨sitePackages, read, h⟩ := bind_ok_iff.mp h
  obtain ⟨python, asked, h⟩ := bind_ok_iff.mp h
  have interpreter := (directory.stat_agrees ["bin", "python"]).isFile asked
  have agrees := directory.stat_agrees ["lib"]
  unfold posixSitePackages at read
  split at read
  · rename_i unsearched entries stat
    rw [stat] at agrees ⊢
    have lib : directory.look ["lib"] = some (.directory (.mk none unsearched entries)) := agrees
    obtain ⟨some, none⟩ :=
      @librarySitePackages_ok _ (.mk none unsearched entries) _ _ (fun _ member => member) read
    cases sitePackages with
    | some found =>
      obtain ⟨name, untyped, node, has⟩ := some found rfl
      cases python with
      | true =>
        cases h
        exact ⟨fun _ => .posix (interpreter.mp rfl) lib has, fun empty => nomatch empty⟩
      | false =>
        cases h
        refine ⟨fun other => absurd rfl other, fun _ _ _ _ _ there => ?_⟩
        exact absurd (interpreter.mpr there) (by decide)
    | none =>
      cases h
      refine ⟨fun other => absurd rfl other, fun _ library name untyped node _ there has => ?_⟩
      rw [lib] at there
      cases there
      obtain ⟨error, rfl⟩ := none rfl name untyped node has.entry has
      exact .untyped has.entry has.named
  · rename_i unread
    cases read
    cases h
    refine ⟨fun other => absurd rfl other, fun _ library name untyped node _ there has => ?_⟩
    cases stat : directory.stat ["lib"] with
    | missing =>
      rw [stat, there] at agrees
      cases agrees
    | failed error => exact .blocked error
    | found place =>
      rw [stat, there] at agrees
      cases agrees
      obtain ⟨unlisted, unsearched, entries⟩ := library
      cases unlisted with
      | some error => exact .unlisted error unsearched entries
      | none => exact absurd stat (unread unsearched entries)

theorem crediblePythonEnvironmentMarkers_ok {path : String} {directory : Directory} {markers : List String}
    (h : crediblePythonEnvironmentMarkers path directory = .ok markers) :
    (markers ≠ [] → Carries directory) ∧
      (markers = [] → Carries directory → directory.look ["conda-meta", "history"] ≠ some .file →
        directory.look ["pyvenv.cfg"] ≠ some .file → Obscured directory) := by
  obtain ⟨python, first, h⟩ := bind_ok_iff.mp h
  have scripts : ∀ answer, isFile (directory.stat ["Scripts", "python.exe"]) = .ok answer →
      (answer = true ↔ directory.look ["Scripts", "python.exe"] = some .file) :=
    fun _ asked => (directory.stat_agrees _).isFile asked
  have scripts' : ∀ answer, isFile (directory.stat ["Scripts", "python"]) = .ok answer →
      (answer = true ↔ directory.look ["Scripts", "python"] = some .file) :=
    fun _ asked => (directory.stat_agrees _).isFile asked
  -- Without the Windows pair only the POSIX pair is left.
  have posix {markers : List String} (ran : posixMarkers path directory = .ok markers)
      (apart : (directory.look ["Scripts", "python.exe"] = some .file ∨
          directory.look ["Scripts", "python"] = some .file) →
        ¬∃ inner, directory.look ["Lib", "site-packages"] = some (.directory inner)) :
      (markers ≠ [] → Carries directory) ∧
        (markers = [] → Carries directory → directory.look ["conda-meta", "history"] ≠ some .file →
          directory.look ["pyvenv.cfg"] ≠ some .file → Obscured directory) := by
    refine ⟨(posixMarkers_ok ran).1, fun none carries plain plain' => ?_⟩
    cases carries with
    | conda history => exact absurd history plain
    | pyvenv config => exact absurd config plain'
    | windows python packages => exact absurd packages (apart python)
    | posix python lib has => exact ⟨python, (posixMarkers_ok ran).2 none _ _ _ _ python lib has⟩
  rcases firstExistingFile_ok first with ⟨asked, rfl⟩ | ⟨asked, ⟨asked', rfl⟩ | ⟨asked', rfl⟩⟩
  · obtain ⟨answer, packages, h⟩ := bind_ok_iff.mp h
    have there := (directory.stat_agrees ["Lib", "site-packages"]).isDir packages
    cases answer with
    | true =>
      cases h
      exact ⟨fun _ => .windows (.inl ((scripts _ asked).mp rfl)) (there.mp rfl), fun empty => nomatch empty⟩
    | false => exact posix h fun _ => fun inner => absurd (there.mpr inner) (by decide)
  · obtain ⟨answer, packages, h⟩ := bind_ok_iff.mp h
    have there := (directory.stat_agrees ["Lib", "site-packages"]).isDir packages
    cases answer with
    | true =>
      cases h
      exact ⟨fun _ => .windows (.inr ((scripts' _ asked').mp rfl)) (there.mp rfl), fun empty => nomatch empty⟩
    | false => exact posix h fun _ => fun inner => absurd (there.mpr inner) (by decide)
  · refine posix h fun python => absurd python ?_
    rintro (exe | plain)
    · exact absurd ((scripts _ asked).mpr exe) (by decide)
    · exact absurd ((scripts' _ asked').mpr plain) (by decide)

/-- A directory is detected only if it carries a marker, and one that carries a
marker is detected unless its library was not read. -/
theorem detectEnvironmentRoot_ok {path : String} {directory : Directory} {found : Option LocalEnvironment}
    (h : detectEnvironmentRoot path directory = .ok found) :
    (found ≠ none → Carries directory) ∧ (found = none → Carries directory → Obscured directory) := by
  obtain ⟨conda, asked, h⟩ := bind_ok_iff.mp h
  have history := (directory.stat_agrees ["conda-meta", "history"]).isFile asked
  cases conda with
  | true =>
    cases h
    exact ⟨fun _ => .conda (history.mp rfl), fun none => nomatch none⟩
  | false =>
    obtain ⟨pyvenv, asked, h⟩ := bind_ok_iff.mp h
    have config := (directory.stat_agrees ["pyvenv.cfg"]).isFile asked
    cases pyvenv with
    | true =>
      cases h
      exact ⟨fun _ => .pyvenv (config.mp rfl), fun none => nomatch none⟩
    | false =>
      obtain ⟨markers, ran, h⟩ := bind_ok_iff.mp h
      cases h
      obtain ⟨some, none⟩ := crediblePythonEnvironmentMarkers_ok ran
      constructor
      · intro chosen
        exact some fun empty => chosen (if_pos empty)
      · intro absent carries
        have empty : markers = [] := by
          by_contra other
          rw [if_neg other] at absent
          cases absent
        exact none empty carries (fun there => absurd (history.mpr there) (by decide))
          (fun there => absurd (config.mpr there) (by decide))

/-! ## Complete scans -/

/-- A directory below the repository and its path, through real directories that
are not skipped and carry no marker. -/
inductive Reachable : String → Directory → String → Directory → Prop
  | here (path : String) (directory : Directory) : Reachable path directory path directory
  | inside {path target : String} {directory inner last : Directory} {name : String} {untyped : Option String}
      (plain : ¬Carries directory) (entry : (name, untyped, .directory inner) ∈ directory.entries.toList)
      (kept : name ∉ skippedDirectoryNames) (rest : Reachable (joinPath path name) inner target last) :
      Reachable path directory target last

/-- A complete snapshot has exactly the roots of the tree, and a library that was
not read makes the snapshot incomplete. -/
structure MissesNothing (root : Node) (snapshot : WorkspaceEnvironmentSnapshot) : Prop where
  exact : snapshot.inspectionErrors = [] → ∀ path,
    (∃ environment ∈ snapshot.environments, environment.rootPath = path) ↔ ∃ top last,
      root.stat = .found (.directory top) ∧ Reachable snapshot.repositoryPath top path last ∧ Carries last
  reported : ∀ top path last, root.stat = .found (.directory top) → Reached snapshot.repositoryPath top path last →
    detectEnvironmentRoot path last = .ok none → Obscured last → snapshot.inspectionErrors ≠ []

/-- In a tree the scan can read, without a library it cannot, the walk gets to
what is reachable. -/
theorem reached_iff_reachable {path : String} {top : Directory}
    (detected : ∀ target last, Reached path top target last → ∃ found, detectEnvironmentRoot target last = .ok found)
    (readable : Readable path top)
    (clear : ∀ target last, Reached path top target last → detectEnvironmentRoot target last = .ok none →
      ¬Obscured last) {target : String} {last : Directory} :
    Reached path top target last ↔ Reachable path top target last := by
  constructor
  · intro reached
    induction reached with
    | here path directory => exact .here path directory
    | inside plain listed entry kept rest ih =>
      have step : ∀ {target last}, Reached _ _ target last → Reached _ _ target last :=
        fun rest => .inside plain listed entry kept rest
      have unmarked := fun carries => clear _ _ (.here _ _) plain ((detectEnvironmentRoot_ok plain).2 rfl carries)
      exact .inside unmarked entry kept (ih (fun target last rest => detected target last (step rest))
        ⟨fun target last rest => readable.legible target last (step rest)⟩
        fun target last rest => clear target last (step rest))
  · intro reachable
    induction reachable with
    | here path directory => exact .here path directory
    | inside unmarked entry kept rest ih =>
      obtain ⟨found, ran⟩ := detected _ _ (.here _ _)
      have plain : found = none := by
        by_contra some
        exact unmarked ((detectEnvironmentRoot_ok ran).1 some)
      rw [plain] at ran
      have legible := readable.legible _ _ (.here _ _) ran
      have typed := legible.typed _ entry kept
      dsimp only at typed
      rw [typed] at entry
      have step : ∀ {target last}, Reached _ _ target last → Reached _ _ target last :=
        fun rest => .inside ran legible.listed entry kept rest
      exact step (ih (fun target last rest => detected target last (step rest))
        ⟨fun target last rest => readable.legible target last (step rest)⟩
        fun target last rest => clear target last (step rest))

/-- A snapshot misses nothing exactly when, in a tree where the walk can read all
it walks over, no interpreter on its way has a library it cannot read. -/
theorem scan_misses_nothing_iff {paths : ScanPaths} {path : String} {root : Node}
    {snapshot : WorkspaceEnvironmentSnapshot}
    (scanned : captureWorkspaceEnvironmentSnapshot paths path root = .ok snapshot) :
    MissesNothing root snapshot ↔ ∀ top,
      snapshotPath paths.resolve paths.absolute path = .ok (snapshot.repositoryPath, []) →
        root.stat = .found (.directory top) → Readable snapshot.repositoryPath top → ∀ target last,
          Reached snapshot.repositoryPath top target last → detectEnvironmentRoot target last = .ok none →
            ¬Obscured last := by
  have captured := captureWorkspaceEnvironmentSnapshot_ok scanned
  constructor
  · intro misses top resolved directory readable target last reached plain obscured
    exact misses.reported top target last directory reached plain obscured
      (captured.errors.mpr ⟨resolved, top, directory, readable⟩)
  · intro clear
    constructor
    · intro complete target
      obtain ⟨resolved, top, directory, readable⟩ := captured.errors.mp complete
      have detected := fun target last => captured.detected top target last directory
      have iff := @reached_iff_reachable _ _ detected readable (clear top resolved directory readable)
      constructor
      · rintro ⟨environment, member, rfl⟩
        obtain ⟨top', path', last, directory', reached, found⟩ := (captured.environments environment).mp member
        rw [directory] at directory'
        cases directory'
        rw [detectEnvironmentRoot_rootPath found]
        exact ⟨top, last, directory, iff.mp reached, (detectEnvironmentRoot_ok found).1 (by simp)⟩
      · rintro ⟨top', last, directory', reachable, carries⟩
        rw [directory] at directory'
        cases directory'
        have reached := iff.mpr reachable
        obtain ⟨found, ran⟩ := detected _ _ reached
        cases found with
        | none =>
          exact absurd ((detectEnvironmentRoot_ok ran).2 rfl carries)
            (clear top resolved directory readable _ _ reached ran)
        | some environment =>
          exact ⟨environment, (captured.environments environment).mpr ⟨top, target, last, directory, reached, ran⟩,
            detectEnvironmentRoot_rootPath ran⟩
    · intro top target last directory reached plain obscured complete
      obtain ⟨resolved, top', directory', readable⟩ := captured.errors.mp complete
      rw [directory] at directory'
      cases directory'
      exact clear top resolved directory readable target last reached plain obscured

/-- An interpreter with an empty library. -/
def exampleTools : Directory :=
  .mk none none
    (.cons "bin" none (.directory (.mk none none (.cons "python" none .file .nil)))
      (.cons "lib" none (.directory (.mk none none .nil)) .nil))

/-- A repository with that interpreter and an environment. -/
def exampleProject : Directory :=
  .mk none none (.cons "tools" none (.directory exampleTools) (.cons "env" none (.directory exampleVenv) .nil))

/-- The scan walks over the interpreter and finds the environment. -/
theorem scan_misses_nothing_iff_example :
    MissesNothing (.directory exampleProject)
      ⟨"/repo", [⟨"python_venv", "/repo/env", ["/repo/env/pyvenv.cfg"]⟩], []⟩ := by
  have scanned : captureWorkspaceEnvironmentSnapshot exampleScanPaths "/repo" (.directory exampleProject) =
      .ok ⟨"/repo", [⟨"python_venv", "/repo/env", ["/repo/env/pyvenv.cfg"]⟩], []⟩ := rfl
  refine (scan_misses_nothing_iff scanned).mpr ?_
  rintro top _ ⟨⟩ _ target last reached plain obscured
  cases reached with
  | here => cases obscured.python
  | inside _ _ entry _ rest =>
    simp only [exampleProject, Directory.entries, Entries.toList, List.mem_cons, Prod.mk.injEq, Node.directory.injEq,
      true_and, List.not_mem_nil, or_false] at entry
    rcases entry with ⟨rfl, rfl⟩ | ⟨rfl, rfl⟩
    · cases rest with
      | here =>
        cases obscured.library with
        | untyped entry => cases entry
      | inside _ _ entry _ rest =>
        simp only [exampleTools, Directory.entries, Entries.toList, List.mem_cons, Prod.mk.injEq,
          Node.directory.injEq, true_and, List.not_mem_nil, or_false] at entry
        rcases entry with ⟨rfl, rfl⟩ | ⟨rfl, rfl⟩
        · cases rest with
          | here => cases obscured.python
          | inside _ _ entry _ _ =>
            simp only [Directory.entries, Entries.toList, List.mem_cons, Prod.mk.injEq, List.not_mem_nil,
              or_false, reduceCtorEq, and_false] at entry
        · cases rest with
          | here => cases obscured.python
          | inside _ _ entry _ _ => cases entry
    · cases rest with
      | here => cases plain
      | inside found => cases found

/-- An environment whose library is a link to a directory that may be entered but
not listed. -/
def exampleLinkedEnvironment : Directory :=
  .mk none none
    (.cons "bin" none (.directory (.mk none none (.cons "python" none .file .nil)))
      (.cons "lib" none (.link false none (.directory
        (.mk (some "[Errno 13] Permission denied: '/repo/env/lib'") none
          (.cons "python3.12" none (.directory
            (.mk none none (.cons "site-packages" none (.directory (.mk none none .nil)) .nil))) .nil)))) .nil))

def exampleLinkedTree : Directory := .mk none none (.cons "env" none (.directory exampleLinkedEnvironment) .nil)

theorem scan_misses_environment :
    captureWorkspaceEnvironmentSnapshot exampleScanPaths "/repo" (.directory exampleLinkedTree) =
        .ok ⟨"/repo", [], []⟩ ∧
      ¬MissesNothing (.directory exampleLinkedTree) ⟨"/repo", [], []⟩ := by
  refine ⟨rfl, fun misses => ?_⟩
  have plain : ¬Carries exampleLinkedTree := by
    intro carries
    have detected : detectEnvironmentRoot "/repo" exampleLinkedTree = .ok none := rfl
    cases ((detectEnvironmentRoot_ok detected).2 rfl carries).python
  have reachable : Reachable "/repo" exampleLinkedTree "/repo/env" exampleLinkedEnvironment :=
    .inside plain List.mem_cons_self (by decide) (.here "/repo/env" exampleLinkedEnvironment)
  have carries : Carries exampleLinkedEnvironment :=
    .posix rfl rfl ⟨List.mem_cons_self, by decide, rfl, _, rfl⟩
  obtain ⟨_, member, _⟩ := (misses.exact rfl "/repo/env").mpr ⟨_, _, rfl, reachable, carries⟩
  cases member

end SprintTicket
