import SprintTicket.Logic.PrefixCode
import SprintTicket.Workspace.Snapshot

/-!
# Comparing snapshots and comparing fingerprints

The field-by-field comparison looks at the hashes of shared untracked files
only, the fingerprint at the whole canonical JSON. Both are equality of
snapshots: a constructed snapshot lists its hashes in order under the paths it
lists as untracked, and canonical JSON can be read back.
-/

set_option autoImplicit false

namespace SprintTicket

open Canonical PrefixCode

/-- The value of a hexadecimal digit. -/
def hexValue (c : Char) : Nat := if c.toNat < 58 then c.toNat - 48 else c.toNat - 87

/-- The character an escaped text starts with. -/
def undump : List Char → Char
  | '\\' :: 'n' :: _ => '\n'
  | '\\' :: 'r' :: _ => '\r'
  | '\\' :: 't' :: _ => '\t'
  | '\\' :: 'b' :: _ => Char.ofNat 8
  | '\\' :: 'f' :: _ => Char.ofNat 12
  | '\\' :: 'u' :: '0' :: '0' :: high :: low :: _ => Char.ofNat (16 * hexValue high + hexValue low)
  | '\\' :: c :: _ => c
  | c :: _ => c
  | [] => ' '

theorem hexValue_digits : ∀ n < 32, 16 * hexValue (n / 16).digitChar + hexValue (n % 16).digitChar = n := by decide

/-- A character is read back from its escape. -/
theorem undump_dumpsChar (c : Char) (rest : List Char) : undump (dumpsChar c ++ rest) = c := by
  unfold dumpsChar
  split_ifs with quote backslash feed ret tab back form small
  · exact quote.symm
  · exact backslash.symm
  · exact feed.symm
  · exact ret.symm
  · exact tab.symm
  · rw [← Char.ofNat_toNat c, back]
    rfl
  · rw [← Char.ofNat_toNat c, form]
    rfl
  · show Char.ofNat (16 * hexValue (c.toNat / 16).digitChar + hexValue (c.toNat % 16).digitChar) = c
    rw [hexValue_digits c.toNat small, Char.ofNat_toNat]
  · rw [List.singleton_append]
    unfold undump
    split <;> simp_all

/-- No escape is the beginning of another. -/
theorem dumpsChar_prefixFree : PrefixFree dumpsChar := by
  intro a b r s h
  have same : a = b := by rw [← undump_dumpsChar a r, h, undump_dumpsChar]
  rw [same] at h
  exact ⟨same, List.append_cancel_left h⟩

theorem dumpsChar_avoids : Avoids dumpsChar '"' := by
  intro c
  unfold dumpsChar
  split_ifs with quote
  all_goals first
    | exact ⟨_, _, rfl, by decide⟩
    | exact ⟨_, _, rfl, quote⟩

theorem dumpsString_toList (text : String) :
    (dumpsString text).toList = '"' :: closed '"' dumpsChar text.toList := by
  simp only [dumpsString, String.toList_append, String.toList_ofList]
  rfl

/-- So strings are prefix free, and then lists of them, and optional ones. -/
theorem dumpsString_prefixFree : PrefixFree fun text : String => (dumpsString text).toList := by
  intro a b r s h
  simp only [dumpsString_toList, List.cons_append, List.cons.injEq, true_and] at h
  obtain ⟨same, rest⟩ := dumpsChar_prefixFree.closed dumpsChar_avoids h
  exact ⟨String.toList_inj.mp same, rest⟩

theorem dumpsString_avoids {c : Char} (other : '"' ≠ c) : Avoids (fun text : String => (dumpsString text).toList) c :=
  fun text => ⟨'"', _, dumpsString_toList text, other⟩

theorem dumpsOptional_prefixFree : PrefixFree fun value : Option String => (dumpsOptional value).toList := by
  intro a b r s h
  cases a with
  | none =>
    cases b with
    | none => exact ⟨rfl, List.append_cancel_left h⟩
    | some text => exact absurd h.symm (dumpsString_avoids (by decide)).ne
  | some text =>
    cases b with
    | none => exact absurd h (dumpsString_avoids (by decide)).ne
    | some other =>
      obtain ⟨rfl, rest⟩ := dumpsString_prefixFree h
      exact ⟨rfl, rest⟩

theorem intercalate_separated {α : Type} {encode : α → List Char} {separator close : Char} (items : List α) :
    [separator].intercalate (items.map encode) ++ [close] = separated separator close encode items := by
  induction items with
  | nil => rfl
  | cons item rest ih =>
    cases rest with
    | nil => simp [separated]
    | cons next rest =>
      rw [List.map_cons, List.map_cons, List.intercalate_cons_cons]
      show _ = encode item ++ separator :: separated separator close encode (next :: rest)
      rw [← ih]
      simp

/-- A list is its items between brackets, separated by commas. -/
theorem dumpsList_toList (items : List String) :
    (dumpsList items).toList = '[' :: ([','].intercalate (items.map String.toList) ++ [']']) := by
  simp only [dumpsList, String.toList_append, String.toList_intercalate]
  rfl

theorem dumpsList_prefixFree {α : Type} {dumps : α → String} (free : PrefixFree fun item => (dumps item).toList)
    (avoids : Avoids (fun item => (dumps item).toList) ']') :
    PrefixFree fun items : List α => (dumpsList (items.map dumps)).toList := by
  have written : ∀ items : List α, (dumpsList (items.map dumps)).toList =
      '[' :: separated ',' ']' (fun item => (dumps item).toList) items := by
    intro items
    rw [dumpsList_toList, List.map_map, ← intercalate_separated]
    rfl
  intro a b r s h
  simp only [written, List.cons_append, List.cons.injEq, true_and] at h
  exact free.separated avoids (by decide) h

theorem dumpsStrings_prefixFree : PrefixFree fun texts : List String => (dumpsStrings texts).toList :=
  dumpsList_prefixFree dumpsString_prefixFree (dumpsString_avoids (by decide))

theorem dumpsHashes_prefixFree : PrefixFree fun hashes : List (String × String) =>
    (dumpsList (hashes.map fun entry => dumpsStrings [entry.1, entry.2])).toList := by
  refine @dumpsList_prefixFree (String × String) (fun entry => dumpsStrings [entry.1, entry.2]) ?_ ?_
  · refine dumpsStrings_prefixFree.comp (f := fun entry : String × String => [entry.1, entry.2]) ?_
    intro first second same
    simp only [List.cons.injEq, and_true] at same
    exact Prod.ext same.1 same.2
  · exact fun entry => ⟨'[', _, dumpsList_toList _, by decide⟩

theorem dumpsBool_prefixFree : PrefixFree fun value : Bool => (if value then "true" else "false").toList := by
  intro a b r s h
  cases a <;> cases b
  · exact ⟨rfl, List.append_cancel_left h⟩
  · exact absurd (List.head_eq_of_cons_eq h) (by decide)
  · exact absurd (List.head_eq_of_cons_eq h) (by decide)
  · exact ⟨rfl, List.append_cancel_left h⟩

/-- Equal canonical JSON is the JSON of one snapshot. -/
theorem WorkspaceSnapshot.canonicalJson_injective {left right : WorkspaceSnapshot}
    (same : left.canonicalJson = right.canonicalJson) : left = right := by
  have h := congrArg String.toList same
  simp only [WorkspaceSnapshot.canonicalJson, List.map_cons, List.map_nil, String.intercalate_cons_cons,
    String.intercalate_singleton, String.toList_append, List.append_assoc] at h
  -- The fields in the order they are written; what stands between them is the same on both sides.
  simp only [List.append_cancel_left_eq] at h
  obtain ⟨branch, h⟩ := dumpsOptional_prefixFree h
  simp only [List.append_cancel_left_eq] at h
  obtain ⟨environmentRoots, h⟩ := dumpsStrings_prefixFree h
  simp only [List.append_cancel_left_eq] at h
  obtain ⟨headSha, h⟩ := dumpsOptional_prefixFree h
  simp only [List.append_cancel_left_eq] at h
  obtain ⟨complete, h⟩ := dumpsBool_prefixFree h
  simp only [List.append_cancel_left_eq] at h
  obtain ⟨errors, h⟩ := dumpsStrings_prefixFree h
  simp only [List.append_cancel_left_eq] at h
  obtain ⟨repositoryPath, h⟩ := dumpsString_prefixFree h
  simp only [List.append_cancel_left_eq] at h
  obtain ⟨stagedDiff, h⟩ := dumpsOptional_prefixFree h
  simp only [List.append_cancel_left_eq] at h
  obtain ⟨stagedPaths, h⟩ := dumpsStrings_prefixFree h
  simp only [List.append_cancel_left_eq] at h
  obtain ⟨trackedDiff, h⟩ := dumpsOptional_prefixFree h
  simp only [List.append_cancel_left_eq] at h
  obtain ⟨hashes, h⟩ := dumpsHashes_prefixFree h
  simp only [List.append_cancel_left_eq] at h
  obtain ⟨untrackedPaths, _⟩ := dumpsStrings_prefixFree h
  cases left
  cases right
  rw [WorkspaceSnapshot.mk.injEq]
  exact ⟨repositoryPath, branch, headSha, stagedPaths, stagedDiff, trackedDiff, untrackedPaths, hashes,
    environmentRoots, complete, errors⟩

/-! ## Constructed snapshots -/

/-- What the constructor makes sure of in a complete snapshot. -/
structure Canonicalized (snapshot : WorkspaceSnapshot) : Prop where
  hashes_sorted : snapshot.untrackedFileHashes.Pairwise NameOrder
  keys_nodup : (snapshot.untrackedFileHashes.map Prod.fst).Nodup
  hashed : ∀ path, path ∈ snapshot.untrackedPaths ↔ path ∈ snapshot.untrackedFileHashes.map Prod.fst

/-- Normalised data is in canonical form. -/
theorem SnapshotData.normalize_canonicalized {data : SnapshotData} (complete : CompleteData data) (path : String)
    (errors : List String) : Canonicalized (data.normalize path errors) := by
  have members : ((data.normalize path errors).untrackedFileHashes.map Prod.fst).Perm
      ((assignAll (canonicalHashes data.untrackedFileHashes)).map Prod.fst) := by
    rw [← recordHashes_map]
    exact (List.perm_insertionSort NameOrder _).map Prod.fst
  refine ⟨List.pairwise_insertionSort NameOrder _, ?_, ?_⟩
  · rw [members.nodup_iff]
    exact nodup_keys_assignAll
  · intro other
    rw [members.mem_iff, mem_keys_assignAll, ← complete.hashed other]
    exact mem_sortedSet

theorem WorkspaceSnapshot.create_canonicalized {resolve : PathResolver} {absolute : String → String}
    {data : SnapshotData} {snapshot : WorkspaceSnapshot}
    (made : WorkspaceSnapshot.create resolve absolute data = .ok snapshot)
    (complete : snapshot.inspectionComplete = true) : Canonicalized snapshot := by
  obtain ⟨path, errors, _, rfl⟩ := WorkspaceSnapshot.create_ok.mp made
  exact SnapshotData.normalize_canonicalized (SnapshotData.normalize_complete_iff.mp complete).1 path errors

/-- No shared file differs: every hash of a shared file is in the other snapshot too. -/
theorem untrackedContentDiffers_false {expected current : WorkspaceSnapshot} (canonical : Canonicalized current) :
    untrackedContentDiffers expected current = false ↔ ∀ entry ∈ expected.untrackedFileHashes,
      entry.1 ∈ current.untrackedFileHashes.map Prod.fst → entry ∈ current.untrackedFileHashes := by
  have found : ∀ path hash, current.untrackedFileHashes.lookup path = some hash ↔
      (path, hash) ∈ current.untrackedFileHashes := fun _ _ => lookup_eq_some_iff canonical.keys_nodup
  rw [untrackedContentDiffers, List.any_eq_false]
  refine forall₂_congr fun entry _ => ?_
  rw [Bool.not_eq_true]
  cases look : current.untrackedFileHashes.lookup entry.1 with
  | none =>
    have absent : entry.1 ∉ current.untrackedFileHashes.map Prod.fst := by
      intro shared
      obtain ⟨⟨path, hash⟩, member, rfl⟩ := List.mem_map.mp shared
      rw [(found _ _).mpr member] at look
      cases look
    exact iff_of_true rfl fun shared => absurd shared absent
  | some hash =>
    have member := (found _ _).mp look
    have shared : entry.1 ∈ current.untrackedFileHashes.map Prod.fst := List.mem_map.mpr ⟨_, member, rfl⟩
    have same : hash = entry.2 ↔ entry ∈ current.untrackedFileHashes := by
      constructor
      · rintro rfl
        exact member
      · intro listed
        rw [(found entry.1 entry.2).mpr listed] at look
        exact (Option.some.inj look).symm
    simp [shared, ← same]

/-- Snapshots that match are one snapshot. -/
theorem WorkspaceSnapshot.matches_iff_eq {left right : WorkspaceSnapshot}
    (complete : left.inspectionComplete = true ∧ right.inspectionComplete = true)
    (canonicalLeft : Canonicalized left) (canonicalRight : Canonicalized right) :
    left.matches right = true ↔ left = right := by
  rw [WorkspaceSnapshot.matches_iff]
  constructor
  · intro same
    have shared : ∀ path, path ∈ left.untrackedFileHashes.map Prod.fst ↔
        path ∈ right.untrackedFileHashes.map Prod.fst := by
      intro path
      rw [← canonicalLeft.hashed, ← canonicalRight.hashed, same.untrackedPaths]
    have forward := (untrackedContentDiffers_false canonicalRight).mp same.untrackedContent
    have hashes : left.untrackedFileHashes = right.untrackedFileHashes := by
      apply eq_of_mem_iff (r := NameOrder) canonicalLeft.keys_nodup.of_map canonicalRight.keys_nodup.of_map
        canonicalLeft.hashes_sorted canonicalRight.hashes_sorted
      intro entry
      constructor
      · intro member
        exact forward entry member ((shared _).mp (List.mem_map.mpr ⟨entry, member, rfl⟩))
      · intro member
        -- The path of `entry` is on the left too, with a hash that is then the one on the right.
        obtain ⟨other, listed, key⟩ := List.mem_map.mp ((shared _).mpr (List.mem_map.mpr ⟨entry, member, rfl⟩))
        have there := forward other listed ((shared _).mp (List.mem_map.mpr ⟨other, listed, rfl⟩))
        rw [← List.inj_on_of_nodup_map canonicalRight.keys_nodup there member key]
        exact listed
    cases left
    cases right
    rw [WorkspaceSnapshot.mk.injEq]
    exact ⟨same.repositoryPath, same.branch, same.headSha, same.staging.1, same.staging.2, same.trackedDiff,
      same.untrackedPaths, hashes, same.environmentRoots, complete.1.trans complete.2.symm,
      (WorkspaceSnapshot.inspectionErrors_nil complete.1).trans
        (WorkspaceSnapshot.inspectionErrors_nil complete.2).symm⟩
  · rintro rfl
    exact ⟨complete, rfl, rfl, rfl, ⟨rfl, rfl⟩, rfl, rfl,
      (untrackedContentDiffers_false canonicalRight).mpr fun entry member _ => member, rfl⟩

/-- Two complete snapshots match exactly when their fingerprints are equal,
provided SHA-256 tells their canonical JSON apart, and an incomplete snapshot
matches nothing. -/
theorem matches_iff_fingerprint {sha256 : Sha256} {resolve resolve' : PathResolver}
    {absolute absolute' : String → String} {data data' : SnapshotData} {left right : WorkspaceSnapshot}
    (made : WorkspaceSnapshot.create resolve absolute data = .ok left)
    (made' : WorkspaceSnapshot.create resolve' absolute' data' = .ok right)
    (distinct : sha256.hexdigest left.canonicalJson = sha256.hexdigest right.canonicalJson →
      left.canonicalJson = right.canonicalJson) :
    (left.inspectionComplete = true → right.inspectionComplete = true →
      (left.matches right = true ↔ left.fingerprint sha256 = right.fingerprint sha256) ∧
        (left.matches right = true ↔ left.matchesFingerprint sha256 (right.fingerprint sha256) = true)) ∧
      (left.inspectionComplete = false ∨ right.inspectionComplete = false → left.matches right = false) := by
  constructor
  · intro complete complete'
    have same : left.matches right = true ↔ left.fingerprint sha256 = right.fingerprint sha256 := by
      rw [WorkspaceSnapshot.matches_iff_eq ⟨complete, complete'⟩
        (WorkspaceSnapshot.create_canonicalized made complete)
        (WorkspaceSnapshot.create_canonicalized made' complete')]
      constructor
      · rintro rfl
        rfl
      · intro digests
        exact WorkspaceSnapshot.canonicalJson_injective (distinct digests)
    refine ⟨same, ?_⟩
    rw [same, WorkspaceSnapshot.matchesFingerprint_iff]
    exact ⟨fun digests => ⟨complete, digests⟩, And.right⟩
  · intro incomplete
    rw [← Bool.not_eq_true, WorkspaceSnapshot.matches_iff]
    intro same
    rcases incomplete with left' | right'
    · exact absurd (left'.symm.trans same.complete.1) (by decide)
    · exact absurd (right'.symm.trans same.complete.2) (by decide)

theorem matches_iff_fingerprint_example :
    exampleWorkspace.matches exampleCleanWorkspace = true ↔
      exampleWorkspace.fingerprint exampleSha256 = exampleCleanWorkspace.fingerprint exampleSha256 := by
  have made : WorkspaceSnapshot.create exampleResolver id exampleWorkspace.data = .ok exampleWorkspace := rfl
  have made' : WorkspaceSnapshot.create exampleResolver id exampleCleanWorkspace.data = .ok exampleCleanWorkspace :=
    rfl
  have distinct : exampleSha256.hexdigest exampleWorkspace.canonicalJson ≠
      exampleSha256.hexdigest exampleCleanWorkspace.canonicalJson := by decide +kernel
  exact ((matches_iff_fingerprint made made' fun same => absurd same distinct).1 rfl rfl).1

end SprintTicket
