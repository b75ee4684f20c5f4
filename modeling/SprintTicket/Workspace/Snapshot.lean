import SprintTicket.Logic.Canonical
import SprintTicket.Logic.Checks
import SprintTicket.GitSafety
import SprintTicket.VerificationEvidence

/-!
# The constructor of workspace snapshots

`WorkspaceSnapshot.create` is `__post_init__`: it brings every path into one
spelling, lists paths and hashes in order, and records what is wrong with its
arguments as inspection errors. What it makes of its arguments depends on them
as sets only, and a complete snapshot is what it makes of its own fields.
-/

set_option autoImplicit false

namespace SprintTicket

open Canonical Checks

/-- `value.replace("\\", "/")`. -/
def forwardSlashes (value : List Char) : List Char := value.map fun c => if c = '\\' then '/' else c

/-- `canonical[2:]` as long as it starts with `./`. -/
def dropDots : List Char → List Char
  | '.' :: '/' :: rest => dropDots rest
  | chars => chars

/-- `_canonical_path`. -/
def canonicalPath (value : String) : String :=
  match dropDots (forwardSlashes value.toList) with
  | [] => "."
  | c :: rest => String.ofList (c :: rest)

theorem mem_dropDots {chars : List Char} {c : Char} (member : c ∈ dropDots chars) : c ∈ chars := by
  fun_induction dropDots chars with
  | case1 rest ih => exact List.mem_cons_of_mem _ (List.mem_cons_of_mem _ (ih member))
  | case2 => exact member

/-- The steps of the canonical path change nothing the second time. -/
theorem dropDots_dropDots (chars : List Char) : dropDots (dropDots chars) = dropDots chars := by
  fun_induction dropDots chars with
  | case1 rest ih => exact ih
  | case2 chars other => rw [dropDots.eq_2 _ other]

theorem forwardSlashes_eq_self {chars : List Char} (plain : '\\' ∉ chars) : forwardSlashes chars = chars := by
  conv_rhs => rw [← List.map_id chars]
  apply List.map_congr_left
  intro c member
  refine if_neg ?_
  rintro rfl
  exact plain member

theorem forwardSlashes_plain (chars : List Char) : '\\' ∉ forwardSlashes chars := by
  intro member
  obtain ⟨c, _, same⟩ := List.mem_map.mp member
  split at same
  · exact absurd same (by decide)
  · rename_i other
    exact other same

@[simp] theorem canonicalPath_canonicalPath (value : String) :
    canonicalPath (canonicalPath value) = canonicalPath value := by
  have fixed := dropDots_dropDots (forwardSlashes value.toList)
  have plain : '\\' ∉ dropDots (forwardSlashes value.toList) :=
    fun member => forwardSlashes_plain _ (mem_dropDots member)
  unfold canonicalPath
  generalize dropDots (forwardSlashes value.toList) = chars at fixed plain
  cases chars with
  | nil => decide
  | cons c rest =>
    dsimp only
    rw [String.toList_ofList, forwardSlashes_eq_self plain, fixed]

/-- Two spellings of one path: leading `./` and the direction of the slashes do
not count. -/
inductive Respelled : String → String → Prop
  | dot (path : String) : Respelled path ("./" ++ path)
  | slashes {path other : String} (same : forwardSlashes path.toList = forwardSlashes other.toList) :
      Respelled path other
  | symm {path other : String} : Respelled path other → Respelled other path
  | trans {path middle other : String} : Respelled path middle → Respelled middle other → Respelled path other

/-- Two spellings of a path have one canonical form. -/
theorem Respelled.canonicalPath_eq {path other : String} (respelled : Respelled path other) :
    canonicalPath path = canonicalPath other := by
  induction respelled with
  | dot path =>
    have dropped : dropDots (forwardSlashes ("./" ++ path).toList) = dropDots (forwardSlashes path.toList) := by
      rw [String.toList_append, forwardSlashes, List.map_append]
      rfl
    rw [canonicalPath, canonicalPath, dropped]
  | slashes same => rw [canonicalPath, canonicalPath, same]
  | symm _ ih => exact ih.symm
  | trans _ _ first second => exact first.trans second

/-- The arguments of `WorkspaceSnapshot`. -/
structure SnapshotData where
  repositoryPath : String
  branch : Option String
  headSha : Option String
  stagedPaths : List String
  stagedDiffSha256 : Option String
  trackedDiffSha256 : Option String
  untrackedPaths : List String
  untrackedFileHashes : List (String × String)
  environmentRoots : List String
  inspectionComplete : Bool
  inspectionErrors : List String := []
deriving DecidableEq

/-- The paths of a listing, in one spelling, once each and in order. -/
def canonicalPaths (paths : List String) : List String := sortedSet (· ≤ ·) (paths.map canonicalPath)

/-- One content hash joins the map; a second value for a path and a malformed
digest are errors. -/
def recordHash (state : List (String × String) × List String) (entry : String × String) :
    List (String × String) × List String :=
  let path := canonicalPath entry.1
  let conflict :=
    if (state.1.lookup path).any fun previous => previous ≠ entry.2 then
      ["untracked-content: conflicting hashes for " ++ path]
    else []
  let malformed :=
    if isSha256 entry.2 then [] else ["untracked-content:" ++ path ++ ": invalid SHA-256 digest"]
  (assign path entry.2 state.1, state.2 ++ conflict ++ malformed)

def recordHashes (entries : List (String × String)) : List (String × String) × List String :=
  entries.foldl recordHash ([], [])

/-- What `__post_init__` finds wrong besides the hashes themselves. -/
def fieldErrors (data : SnapshotData) (hashedPaths : List String) : List String :=
  (if data.headSha.any isGitObject then [] else ["HEAD: unavailable or invalid Git object ID"]) ++
    (if data.stagedDiffSha256.any isSha256 then [] else ["staged-diff: unavailable or invalid SHA-256 digest"]) ++
    (if data.trackedDiffSha256.any isSha256 then []
      else ["tracked-worktree: unavailable or invalid SHA-256 digest"]) ++
    (if (canonicalPaths data.untrackedPaths).toFinset = hashedPaths.toFinset then []
      else ["untracked-content: paths and content hashes do not describe the same files"])

/-- The snapshot of a repository whose path is resolved. -/
def SnapshotData.normalize (data : SnapshotData) (repositoryPath : String) (pathErrors : List String) :
    WorkspaceSnapshot :=
  let hashes := recordHashes data.untrackedFileHashes
  let errors := sortedSet (· ≤ ·)
    (data.inspectionErrors ++ pathErrors ++ hashes.2 ++ fieldErrors data (hashes.1.map Prod.fst))
  { repositoryPath
    branch := data.branch
    headSha := data.headSha
    stagedPaths := canonicalPaths data.stagedPaths
    stagedDiffSha256 := data.stagedDiffSha256
    trackedDiffSha256 := data.trackedDiffSha256
    untrackedPaths := canonicalPaths data.untrackedPaths
    untrackedFileHashes := hashes.1.insertionSort NameOrder
    environmentRoots := canonicalPaths data.environmentRoots
    inspectionComplete := data.inspectionComplete && decide (errors = [])
    inspectionErrors := errors
    errors_incomplete := by
      intro some
      simp [some] }

/-- The resolved path of the repository; when it cannot be resolved, the
absolute one and an error. -/
def snapshotPath (resolve : PathResolver) (absolute : String → String) (path : String) :
    Except Raised (String × List String) :=
  handling [.osError] ((fun resolved => (resolved, [])) <$> resolve path) fun error =>
    (absolute path, ["repository-path: " ++ error.message])

/-- `WorkspaceSnapshot(...)`, with `Path.resolve` and `Path.absolute`. -/
def WorkspaceSnapshot.create (resolve : PathResolver) (absolute : String → String) (data : SnapshotData) :
    Except Raised WorkspaceSnapshot := do
  let (repositoryPath, pathErrors) ← snapshotPath resolve absolute (pathString data.repositoryPath)
  pure (data.normalize repositoryPath pathErrors)

/-- The fields of a snapshot as constructor arguments. -/
def WorkspaceSnapshot.data (snapshot : WorkspaceSnapshot) : SnapshotData :=
  { snapshot with }

/-- The hash entries with their paths in one spelling. -/
def canonicalHashes (entries : List (String × String)) : List (String × String) :=
  entries.map fun entry => (canonicalPath entry.1, entry.2)

theorem canonicalHashes_append (entries : List (String × String)) (entry : String × String) :
    canonicalHashes (entries ++ [entry]) = canonicalHashes entries ++ [(canonicalPath entry.1, entry.2)] :=
  List.map_append

theorem recordHashes_snoc (entries : List (String × String)) (entry : String × String) :
    recordHashes (entries ++ [entry]) = recordHash (recordHashes entries) entry := by
  rw [recordHashes, List.foldl_append]
  rfl

/-- The table of hashes assigns them in their order, the last one wins. -/
theorem recordHashes_map (entries : List (String × String)) :
    (recordHashes entries).1 = assignAll (canonicalHashes entries) := by
  induction entries using List.reverseRecOn with
  | nil => rfl
  | append_singleton entries entry ih =>
    rw [recordHashes_snoc, canonicalHashes_append, assignAll_snoc, ← ih]
    rfl

/-- Recording finds nothing wrong exactly when no path has two contents and
every digest is well formed. The conflict is seen at the first entry that differs
from an earlier one, whatever came between them. -/
theorem recordHashes_errors {entries : List (String × String)} :
    (recordHashes entries).2 = [] ↔
      Functional (canonicalHashes entries) ∧ ∀ entry ∈ entries, isSha256 entry.2 = true := by
  induction entries using List.reverseRecOn with
  | nil => simp [recordHashes, canonicalHashes, Functional]
  | append_singleton entries entry ih =>
    have unfolded : (recordHashes (entries ++ [entry])).2 = [] ↔ (recordHashes entries).2 = [] ∧
        (∀ value, (canonicalPath entry.1, value) ∈ assignAll (canonicalHashes entries) → value = entry.2) ∧
          isSha256 entry.2 = true := by
      have found : ∀ value, (recordHashes entries).1.lookup (canonicalPath entry.1) = some value ↔
          (canonicalPath entry.1, value) ∈ assignAll (canonicalHashes entries) := by
        intro value
        rw [recordHashes_map, lookup_eq_some_iff nodup_keys_assignAll]
      simp only [← found]
      rw [recordHashes_snoc, recordHash]
      cases (recordHashes entries).1.lookup (canonicalPath entry.1) <;> simp
    rw [unfolded, ih, canonicalHashes_append, List.forall_mem_append]
    constructor
    · rintro ⟨⟨functional, digests⟩, agrees, digest⟩
      exact ⟨(functional_snoc functional).mpr agrees, digests, by simpa using digest⟩
    · rintro ⟨functional, digests, digest⟩
      exact ⟨⟨functional.initial, digests⟩, (functional_snoc functional.initial).mp functional, by simpa using digest⟩

/-- Arguments that are a complete inspection. -/
structure CompleteData (data : SnapshotData) : Prop where
  complete : data.inspectionComplete = true
  errors : data.inspectionErrors = []
  headSha : data.headSha.any isGitObject = true
  stagedDiff : data.stagedDiffSha256.any isSha256 = true
  trackedDiff : data.trackedDiffSha256.any isSha256 = true
  functional : Functional (canonicalHashes data.untrackedFileHashes)
  digests : ∀ entry ∈ data.untrackedFileHashes, isSha256 entry.2 = true
  hashed : ∀ path, path ∈ data.untrackedPaths.map canonicalPath ↔
    path ∈ (canonicalHashes data.untrackedFileHashes).map Prod.fst

/-- No field is refused exactly when each has its form. -/
theorem fieldErrors_nil {data : SnapshotData} {hashedPaths : List String} :
    fieldErrors data hashedPaths = [] ↔ data.headSha.any isGitObject = true ∧
      data.stagedDiffSha256.any isSha256 = true ∧ data.trackedDiffSha256.any isSha256 = true ∧
        ∀ path, path ∈ data.untrackedPaths.map canonicalPath ↔ path ∈ hashedPaths := by
  have sets : (canonicalPaths data.untrackedPaths).toFinset = hashedPaths.toFinset ↔
      ∀ path, path ∈ data.untrackedPaths.map canonicalPath ↔ path ∈ hashedPaths := by
    simp only [Finset.ext_iff, List.mem_toFinset, canonicalPaths, mem_sortedSet]
  rw [← sets]
  simp [fieldErrors]

/-- The inspection is complete when the data is and the path was resolved. -/
theorem SnapshotData.normalize_complete_iff {data : SnapshotData} {path : String} {pathErrors : List String} :
    (data.normalize path pathErrors).inspectionComplete = true ↔ CompleteData data ∧ pathErrors = [] := by
  have keys : ∀ path, path ∈ (recordHashes data.untrackedFileHashes).1.map Prod.fst ↔
      path ∈ (canonicalHashes data.untrackedFileHashes).map Prod.fst := by
    intro path
    rw [recordHashes_map, mem_keys_assignAll]
  simp only [SnapshotData.normalize, Bool.and_eq_true, decide_eq_true_eq, sortedSet_eq_nil_iff,
    List.append_eq_nil_iff, recordHashes_errors, fieldErrors_nil, keys]
  constructor
  · rintro ⟨complete, ⟨⟨errors, path⟩, functional, digests⟩, head, staged, tracked, hashed⟩
    exact ⟨⟨complete, errors, head, staged, tracked, functional, digests, hashed⟩, path⟩
  · rintro ⟨⟨complete, errors, head, staged, tracked, functional, digests, hashed⟩, path⟩
    exact ⟨complete, ⟨⟨errors, path⟩, functional, digests⟩, head, staged, tracked, hashed⟩

theorem CompleteData.normalize {data : SnapshotData} (complete : CompleteData data) (path : String) :
    (data.normalize path []).inspectionComplete = true :=
  SnapshotData.normalize_complete_iff.mpr ⟨complete, rfl⟩

/-- The path of a snapshot is resolved, or absolute with the error noted. -/
theorem snapshotPath_ok {resolve : PathResolver} {absolute : String → String} {path resolved : String}
    {errors : List String} (h : snapshotPath resolve absolute path = .ok (resolved, errors)) :
    (resolve path = .ok resolved ∧ errors = []) ∨ errors ≠ [] := by
  rcases handling_ok h with found | ⟨error, _, same⟩
  · obtain ⟨value, ran, same⟩ := map_ok_iff.mp found
    cases same
    exact .inl ⟨ran, rfl⟩
  · cases same
    exact .inr (List.cons_ne_nil _ _)

/-- A snapshot is its normalised data at the path. -/
theorem WorkspaceSnapshot.create_ok {resolve : PathResolver} {absolute : String → String} {data : SnapshotData}
    {snapshot : WorkspaceSnapshot} :
    WorkspaceSnapshot.create resolve absolute data = .ok snapshot ↔ ∃ path errors,
      snapshotPath resolve absolute (pathString data.repositoryPath) = .ok (path, errors) ∧
        data.normalize path errors = snapshot := by
  simp only [WorkspaceSnapshot.create, bind_ok_iff, pure_ok, Prod.exists]

/-! ## What does not matter -/

/-- Arguments with the same canonical paths and hashes. -/
structure SameData (left right : SnapshotData) : Prop where
  branch : left.branch = right.branch
  headSha : left.headSha = right.headSha
  stagedPaths : ∀ path, path ∈ left.stagedPaths.map canonicalPath ↔ path ∈ right.stagedPaths.map canonicalPath
  stagedDiff : left.stagedDiffSha256 = right.stagedDiffSha256
  trackedDiff : left.trackedDiffSha256 = right.trackedDiffSha256
  untrackedPaths : ∀ path,
    path ∈ left.untrackedPaths.map canonicalPath ↔ path ∈ right.untrackedPaths.map canonicalPath
  hashes : ∀ entry,
    entry ∈ canonicalHashes left.untrackedFileHashes ↔ entry ∈ canonicalHashes right.untrackedFileHashes
  environmentRoots : ∀ path,
    path ∈ left.environmentRoots.map canonicalPath ↔ path ∈ right.environmentRoots.map canonicalPath
  inspectionComplete : left.inspectionComplete = right.inspectionComplete
  inspectionErrors : left.inspectionErrors = right.inspectionErrors

theorem mem_canonicalHashes_digest {entries : List (String × String)} :
    (∀ entry ∈ entries, isSha256 entry.2 = true) ↔ ∀ entry ∈ canonicalHashes entries, isSha256 entry.2 = true := by
  rw [canonicalHashes, List.forall_mem_map]

/-- Completeness is a matter of what the data says, not of how it is spelled. -/
theorem CompleteData.congr {left right : SnapshotData} (complete : CompleteData left) (same : SameData left right) :
    CompleteData right where
  complete := same.inspectionComplete ▸ complete.complete
  errors := same.inspectionErrors ▸ complete.errors
  headSha := same.headSha ▸ complete.headSha
  stagedDiff := same.stagedDiff ▸ complete.stagedDiff
  trackedDiff := same.trackedDiff ▸ complete.trackedDiff
  functional := complete.functional.of_mem_iff same.hashes
  digests := by
    have digests := mem_canonicalHashes_digest.mp complete.digests
    simp only [same.hashes] at digests
    exact mem_canonicalHashes_digest.mpr digests
  hashed := by
    intro path
    have hashed := complete.hashed path
    simp only [List.mem_map, same.hashes] at hashed ⊢
    rw [← hashed]
    simpa only [List.mem_map] using (same.untrackedPaths path).symm

/-- The hash map in order. -/
theorem insertionSort_assignAll_eq {left right : List (String × String)} (functional : Functional left)
    (same : ∀ pair, pair ∈ left ↔ pair ∈ right) :
    (assignAll left).insertionSort NameOrder = (assignAll right).insertionSort NameOrder := by
  have once : ∀ pairs : List (String × String), ((assignAll pairs).insertionSort NameOrder).Nodup := by
    intro pairs
    rw [(List.perm_insertionSort NameOrder _).nodup_iff]
    exact nodup_keys_assignAll.of_map _
  apply eq_of_mem_iff (r := NameOrder) (once _) (once _) (List.pairwise_insertionSort _ _)
    (List.pairwise_insertionSort _ _)
  intro pair
  rw [List.mem_insertionSort, List.mem_insertionSort, mem_assignAll functional,
    mem_assignAll (functional.of_mem_iff same)]
  exact same pair

/-- A complete snapshot has no errors to list. -/
theorem WorkspaceSnapshot.inspectionErrors_nil {snapshot : WorkspaceSnapshot}
    (complete : snapshot.inspectionComplete = true) : snapshot.inspectionErrors = [] := by
  by_contra some
  rw [snapshot.errors_incomplete some] at complete
  cases complete

/-- The same canonical data make the same complete snapshot. -/
theorem SnapshotData.normalize_congr {left right : SnapshotData} (complete : CompleteData left)
    (same : SameData left right) (path : String) : left.normalize path [] = right.normalize path [] := by
  have first := complete.normalize path
  have second := (complete.congr same).normalize path
  have flag := first.trans second.symm
  have errors := (WorkspaceSnapshot.inspectionErrors_nil first).trans
    (WorkspaceSnapshot.inspectionErrors_nil second).symm
  have hashes : (recordHashes left.untrackedFileHashes).1.insertionSort NameOrder =
      (recordHashes right.untrackedFileHashes).1.insertionSort NameOrder := by
    rw [recordHashes_map, recordHashes_map]
    exact insertionSort_assignAll_eq complete.functional same.hashes
  simp only [SnapshotData.normalize] at flag errors ⊢
  rw [WorkspaceSnapshot.mk.injEq]
  exact ⟨rfl, same.branch, same.headSha, sortedSet_eq_iff.mpr same.stagedPaths, same.stagedDiff, same.trackedDiff,
    sortedSet_eq_iff.mpr same.untrackedPaths, hashes, sortedSet_eq_iff.mpr same.environmentRoots, flag, errors⟩

/-- The same paths, in any order, number and spelling. -/
def SameListing (left right : List String) : Prop :=
  (∀ path ∈ left, ∃ other ∈ right, Respelled path other) ∧ ∀ other ∈ right, ∃ path ∈ left, Respelled path other

/-- The same files with the same contents, in any order, number and spelling. -/
def SameHashes (left right : List (String × String)) : Prop :=
  (∀ entry ∈ left, ∃ other ∈ right, Respelled entry.1 other.1 ∧ entry.2 = other.2) ∧
    ∀ other ∈ right, ∃ entry ∈ left, Respelled entry.1 other.1 ∧ entry.2 = other.2

/-- Arguments that describe one workspace. -/
structure Variation (left right : SnapshotData) : Prop where
  repositoryPath : pathString left.repositoryPath = pathString right.repositoryPath
  branch : left.branch = right.branch
  headSha : left.headSha = right.headSha
  stagedPaths : SameListing left.stagedPaths right.stagedPaths
  stagedDiff : left.stagedDiffSha256 = right.stagedDiffSha256
  trackedDiff : left.trackedDiffSha256 = right.trackedDiffSha256
  untrackedPaths : SameListing left.untrackedPaths right.untrackedPaths
  untrackedFileHashes : SameHashes left.untrackedFileHashes right.untrackedFileHashes
  environmentRoots : SameListing left.environmentRoots right.environmentRoots
  inspectionComplete : left.inspectionComplete = right.inspectionComplete
  inspectionErrors : left.inspectionErrors = right.inspectionErrors

theorem SameListing.mem_map {left right : List String} (same : SameListing left right) (path : String) :
    path ∈ left.map canonicalPath ↔ path ∈ right.map canonicalPath := by
  simp only [List.mem_map]
  constructor
  · rintro ⟨spelled, member, rfl⟩
    obtain ⟨other, member', respelled⟩ := same.1 spelled member
    exact ⟨other, member', respelled.canonicalPath_eq.symm⟩
  · rintro ⟨spelled, member, rfl⟩
    obtain ⟨other, member', respelled⟩ := same.2 spelled member
    exact ⟨other, member', respelled.canonicalPath_eq⟩

theorem SameHashes.mem {left right : List (String × String)} (same : SameHashes left right)
    (entry : String × String) : entry ∈ canonicalHashes left ↔ entry ∈ canonicalHashes right := by
  simp only [canonicalHashes, List.mem_map]
  constructor
  · rintro ⟨spelled, member, rfl⟩
    obtain ⟨other, member', respelled, content⟩ := same.1 spelled member
    exact ⟨other, member', by rw [respelled.canonicalPath_eq, content]⟩
  · rintro ⟨spelled, member, rfl⟩
    obtain ⟨other, member', respelled, content⟩ := same.2 spelled member
    exact ⟨other, member', by rw [respelled.canonicalPath_eq, content]⟩

theorem Variation.sameData {left right : SnapshotData} (varied : Variation left right) : SameData left right where
  branch := varied.branch
  headSha := varied.headSha
  stagedPaths := varied.stagedPaths.mem_map
  stagedDiff := varied.stagedDiff
  trackedDiff := varied.trackedDiff
  untrackedPaths := varied.untrackedPaths.mem_map
  hashes := varied.untrackedFileHashes.mem
  environmentRoots := varied.environmentRoots.mem_map
  inspectionComplete := varied.inspectionComplete
  inspectionErrors := varied.inspectionErrors

theorem SameData.symm {left right : SnapshotData} (same : SameData left right) : SameData right left where
  branch := same.branch.symm
  headSha := same.headSha.symm
  stagedPaths path := (same.stagedPaths path).symm
  stagedDiff := same.stagedDiff.symm
  trackedDiff := same.trackedDiff.symm
  untrackedPaths path := (same.untrackedPaths path).symm
  hashes entry := (same.hashes entry).symm
  environmentRoots path := (same.environmentRoots path).symm
  inspectionComplete := same.inspectionComplete.symm
  inspectionErrors := same.inspectionErrors.symm

/-- Canonical paths are canonical already. -/
theorem mem_map_canonicalPaths {paths : List String} (path : String) :
    path ∈ (canonicalPaths paths).map canonicalPath ↔ path ∈ paths.map canonicalPath := by
  simp only [canonicalPaths, List.mem_map, mem_sortedSet]
  constructor
  · rintro ⟨_, ⟨spelled, member, rfl⟩, rfl⟩
    exact ⟨spelled, member, (canonicalPath_canonicalPath spelled).symm⟩
  · rintro ⟨spelled, member, rfl⟩
    exact ⟨canonicalPath spelled, ⟨spelled, member, rfl⟩, canonicalPath_canonicalPath spelled⟩

theorem mem_canonicalHashes_sorted {entries : List (String × String)} (functional : Functional (canonicalHashes entries))
    (entry : String × String) :
    entry ∈ canonicalHashes ((recordHashes entries).1.insertionSort NameOrder) ↔ entry ∈ canonicalHashes entries := by
  have canonical : ∀ pair ∈ canonicalHashes entries, canonicalPath pair.1 = pair.1 := by
    intro pair member
    obtain ⟨spelled, _, rfl⟩ := List.mem_map.mp member
    exact canonicalPath_canonicalPath spelled.1
  rw [canonicalHashes, List.mem_map, recordHashes_map]
  simp only [List.mem_insertionSort, mem_assignAll functional]
  constructor
  · rintro ⟨pair, member, rfl⟩
    rw [canonical pair member]
    exact member
  · intro member
    exact ⟨entry, member, by rw [canonical entry member]⟩

theorem SnapshotData.normalize_sameData {data : SnapshotData} (complete : CompleteData data) {path : String} :
    SameData data (data.normalize path []).data where
  branch := rfl
  headSha := rfl
  stagedPaths other := (mem_map_canonicalPaths other).symm
  stagedDiff := rfl
  trackedDiff := rfl
  untrackedPaths other := (mem_map_canonicalPaths other).symm
  hashes entry := (mem_canonicalHashes_sorted complete.functional entry).symm
  environmentRoots other := (mem_map_canonicalPaths other).symm
  inspectionComplete := by
    rw [complete.complete]
    exact (complete.normalize path).symm
  inspectionErrors := by
    rw [complete.errors]
    exact (WorkspaceSnapshot.inspectionErrors_nil (complete.normalize path)).symm

/-- The order, the repetition and the spelling of its arguments change neither
whether a snapshot is complete nor the fingerprint of a complete one, and a
complete snapshot is what the constructor makes of its fields. A resolved path
resolves to itself. -/
theorem snapshot_canonical {resolve : PathResolver} {absolute : String → String} (sha256 : Sha256)
    (settled : ∀ path resolved, resolve path = .ok resolved → resolve (pathString resolved) = .ok resolved) :
    (∀ left right, Variation left right → ∀ snapshot,
      WorkspaceSnapshot.create resolve absolute left = .ok snapshot → ∃ other,
        WorkspaceSnapshot.create resolve absolute right = .ok other ∧
          other.inspectionComplete = snapshot.inspectionComplete ∧
            (snapshot.inspectionComplete = true → other.fingerprint sha256 = snapshot.fingerprint sha256)) ∧
      ∀ data snapshot, WorkspaceSnapshot.create resolve absolute data = .ok snapshot →
        snapshot.inspectionComplete = true →
          WorkspaceSnapshot.create resolve absolute snapshot.data = .ok snapshot := by
  constructor
  · intro left right varied snapshot made
    obtain ⟨path, errors, resolved, rfl⟩ := WorkspaceSnapshot.create_ok.mp made
    rw [varied.repositoryPath] at resolved
    refine ⟨right.normalize path errors, WorkspaceSnapshot.create_ok.mpr ⟨path, errors, resolved, rfl⟩, ?_, ?_⟩
    · rw [Bool.eq_iff_iff, SnapshotData.normalize_complete_iff, SnapshotData.normalize_complete_iff]
      exact and_congr_left fun _ => ⟨fun complete => complete.congr varied.sameData.symm,
        fun complete => complete.congr varied.sameData⟩
    · intro complete
      obtain ⟨described, rfl⟩ := SnapshotData.normalize_complete_iff.mp complete
      rw [SnapshotData.normalize_congr described varied.sameData path]
  · intro data snapshot made complete
    obtain ⟨path, errors, found, rfl⟩ := WorkspaceSnapshot.create_ok.mp made
    obtain ⟨described, rfl⟩ := SnapshotData.normalize_complete_iff.mp complete
    rcases snapshotPath_ok found with ⟨resolved, _⟩ | none
    · refine WorkspaceSnapshot.create_ok.mpr ⟨path, [], ?_, ?_⟩
      · show snapshotPath resolve absolute (pathString path) = .ok (path, [])
        rw [snapshotPath, settled _ _ resolved]
        rfl
      · exact (SnapshotData.normalize_congr described (SnapshotData.normalize_sameData described) path).symm
    · exact absurd rfl none

/-- Every path of the example leads to one repository. -/
def exampleResolver : PathResolver := fun _ => .ok "/repo"

/-- Two untracked files, listed out of order and twice. -/
def exampleSpelledData : SnapshotData :=
  { exampleWorkspace.data with
    untrackedPaths := ["./b.txt", "docs\\a.txt", "b.txt"]
    untrackedFileHashes := [("b.txt", emptySha256), ("./docs/a.txt", exampleFingerprint), (".\\b.txt", emptySha256)] }

/-- The same two files in order. -/
def exampleTidyData : SnapshotData :=
  { exampleWorkspace.data with
    untrackedPaths := ["b.txt", "docs/a.txt"]
    untrackedFileHashes := [("b.txt", emptySha256), ("docs/a.txt", exampleFingerprint)] }

theorem snapshot_canonical_example :
    WorkspaceSnapshot.create exampleResolver id (exampleTidyData.normalize "/repo" []).data =
      .ok (exampleTidyData.normalize "/repo" []) ∧
    (exampleTidyData.normalize "/repo" []).fingerprint exampleSha256 =
      (exampleSpelledData.normalize "/repo" []).fingerprint exampleSha256 := by
  have settled : ∀ path resolved, exampleResolver path = .ok resolved →
      exampleResolver (pathString resolved) = .ok resolved := fun _ _ found => found
  have own : ∀ path, Respelled path path := fun _ => .slashes rfl
  have dotted : Respelled "./b.txt" "b.txt" := (Respelled.dot "b.txt").symm
  have slashed : Respelled "docs\\a.txt" "docs/a.txt" := .slashes (by decide)
  have dottedRoot : Respelled "./docs/a.txt" "docs/a.txt" := (Respelled.dot "docs/a.txt").symm
  have both : Respelled ".\\b.txt" "b.txt" := .trans (.slashes (by decide)) dotted
  have varied : Variation exampleSpelledData exampleTidyData :=
    { repositoryPath := rfl, branch := rfl, headSha := rfl, stagedDiff := rfl, trackedDiff := rfl
      inspectionComplete := rfl, inspectionErrors := rfl
      stagedPaths := ⟨(fun _ none => nomatch none), (fun _ none => nomatch none)⟩
      environmentRoots := ⟨(fun _ none => nomatch none), (fun _ none => nomatch none)⟩
      untrackedPaths := by simp [SameListing, exampleSpelledData, exampleTidyData, own, dotted, slashed]
      untrackedFileHashes := by
        simp [SameHashes, exampleSpelledData, exampleTidyData, own, dottedRoot, both] }
  have canonical := @snapshot_canonical exampleResolver id exampleSha256 settled
  obtain ⟨other, made, _, same⟩ := canonical.1 _ _ varied _ rfl
  cases made
  exact ⟨canonical.2 exampleTidyData _ rfl (by decide +kernel), same (by decide +kernel)⟩

end SprintTicket
