import Mathlib.Data.List.Dedup
import Mathlib.Data.List.Induction
import Mathlib.Data.List.Sort

/-!
# Canonical forms of sets and maps

`sortedSet` lists the members of a collection once each and in order;
`assignAll` enters pairs into a map one after another, so that the last value of
a key wins. Neither the order nor the repetition of the items matters to a
sorted set, and it does not matter to a map whose entries agree on every key
(`Functional`).
-/

set_option autoImplicit false

namespace Canonical

section Sets

variable {α : Type} {r : α → α → Prop} {items left right : List α}

/-- Two lists without repetition that are in order and have the same members are one list. -/
theorem eq_of_mem_iff [Std.Antisymm r] (leftNodup : left.Nodup) (rightNodup : right.Nodup)
    (leftSorted : left.Pairwise r) (rightSorted : right.Pairwise r) (same : ∀ a, a ∈ left ↔ a ∈ right) :
    left = right :=
  ((List.perm_ext_iff_of_nodup leftNodup rightNodup).mpr same).eq_of_pairwise' leftSorted rightSorted

variable [DecidableEq α] [DecidableRel r]

/-- `sorted(set(items))`. -/
def sortedSet (r : α → α → Prop) [DecidableRel r] (items : List α) : List α := items.dedup.insertionSort r

@[simp] theorem mem_sortedSet {a : α} : a ∈ sortedSet r items ↔ a ∈ items := by
  rw [sortedSet, List.mem_insertionSort, List.mem_dedup]

theorem sortedSet_nodup : (sortedSet r items).Nodup :=
  (List.perm_insertionSort r _).nodup_iff.mpr (List.nodup_dedup items)

theorem sortedSet_eq_nil_iff : sortedSet r items = [] ↔ items = [] := by
  simp only [List.eq_nil_iff_forall_not_mem, mem_sortedSet]

/-- A list that is sorted and has no duplicates is its own canonical form. -/
theorem sortedSet_eq_self (nodup : items.Nodup) (sorted : items.Pairwise r) : sortedSet r items = items := by
  rw [sortedSet, nodup.dedup, sorted.insertionSort_eq]

variable [Std.Total r] [IsTrans α r]

theorem sortedSet_pairwise : (sortedSet r items).Pairwise r := List.pairwise_insertionSort r _

/-- What is canonical stays as it is. -/
@[simp] theorem sortedSet_sortedSet : sortedSet r (sortedSet r items) = sortedSet r items :=
  sortedSet_eq_self sortedSet_nodup sortedSet_pairwise

variable [Std.Antisymm r]

/-- A sorted set is its members. -/
theorem sortedSet_eq_iff : sortedSet r left = sortedSet r right ↔ ∀ a, a ∈ left ↔ a ∈ right := by
  constructor
  · intro same a
    rw [← mem_sortedSet (r := r), same, mem_sortedSet]
  · intro same
    apply eq_of_mem_iff (r := r) sortedSet_nodup sortedSet_nodup sortedSet_pairwise sortedSet_pairwise
    intro a
    rw [mem_sortedSet, mem_sortedSet]
    exact same a

end Sets

/-! ## Maps -/

section Maps

variable {κ υ : Type}

/-- The pairs give every key one value. -/
def Functional (pairs : List (κ × υ)) : Prop :=
  ∀ first ∈ pairs, ∀ second ∈ pairs, first.1 = second.1 → first.2 = second.2

theorem Functional.initial {pairs more : List (κ × υ)} (functional : Functional (pairs ++ more)) : Functional pairs :=
  fun _ first _ second => functional _ (List.mem_append_left _ first) _ (List.mem_append_left _ second)

/-- Being functional is a matter of the members alone. -/
theorem Functional.of_mem_iff {left right : List (κ × υ)} (functional : Functional left)
    (same : ∀ pair, pair ∈ left ↔ pair ∈ right) : Functional right :=
  fun first one second two => functional first ((same first).mpr one) second ((same second).mpr two)

variable [DecidableEq κ]

/-- `entries[key] = value`. -/
def assign (key : κ) (value : υ) : List (κ × υ) → List (κ × υ)
  | [] => [(key, value)]
  | (other, old) :: rest => if other = key then (other, value) :: rest else (other, old) :: assign key value rest

/-- The pairs entered one after another. -/
def assignAll (pairs : List (κ × υ)) : List (κ × υ) :=
  pairs.foldl (fun entries pair => assign pair.1 pair.2 entries) []

theorem assignAll_snoc {pairs : List (κ × υ)} {pair : κ × υ} :
    assignAll (pairs ++ [pair]) = assign pair.1 pair.2 (assignAll pairs) := by
  rw [assignAll, List.foldl_append]
  rfl

theorem mem_keys_assign {key other : κ} {value : υ} {entries : List (κ × υ)} :
    other ∈ (assign key value entries).map Prod.fst ↔ other = key ∨ other ∈ entries.map Prod.fst := by
  induction entries with
  | nil => simp [assign]
  | cons entry rest ih =>
    obtain ⟨name, old⟩ := entry
    rw [assign]
    split
    · rename_i same
      simp [same]
    · rw [List.map_cons, List.mem_cons, ih, List.map_cons, List.mem_cons]
      exact or_left_comm

theorem nodup_keys_assign {key : κ} {value : υ} {entries : List (κ × υ)}
    (nodup : (entries.map Prod.fst).Nodup) : ((assign key value entries).map Prod.fst).Nodup := by
  induction entries with
  | nil => simp [assign]
  | cons entry rest ih =>
    obtain ⟨name, old⟩ := entry
    rw [List.map_cons, List.nodup_cons] at nodup
    rw [assign]
    split
    · exact List.nodup_cons.mpr nodup
    · rename_i other
      refine List.nodup_cons.mpr ⟨?_, ih nodup.2⟩
      rw [mem_keys_assign, not_or]
      exact ⟨other, nodup.1⟩

/-- Assigning changes the value of one key. -/
theorem mem_assign {key : κ} {value : υ} {entries : List (κ × υ)} (nodup : (entries.map Prod.fst).Nodup)
    {pair : κ × υ} :
    pair ∈ assign key value entries ↔ pair = (key, value) ∨ (pair.1 ≠ key ∧ pair ∈ entries) := by
  induction entries with
  | nil => simp [assign]
  | cons entry rest ih =>
    obtain ⟨name, old⟩ := entry
    rw [List.map_cons, List.nodup_cons] at nodup
    rw [assign]
    split
    · rename_i same
      subst same
      have later : pair ∈ rest → pair.1 ≠ name := by
        rintro member rfl
        exact nodup.1 (List.mem_map.mpr ⟨_, member, rfl⟩)
      rw [List.mem_cons, List.mem_cons]
      constructor
      · rintro (rfl | member)
        · exact .inl rfl
        · exact .inr ⟨later member, .inr member⟩
      · rintro (rfl | ⟨other, rfl | member⟩)
        · exact .inl rfl
        · exact absurd rfl other
        · exact .inr member
    · rename_i other
      rw [List.mem_cons, ih nodup.2, List.mem_cons]
      constructor
      · rintro (rfl | rfl | ⟨apart, member⟩)
        · exact .inr ⟨other, .inl rfl⟩
        · exact .inl rfl
        · exact .inr ⟨apart, .inr member⟩
      · rintro (rfl | ⟨apart, rfl | member⟩)
        · exact .inr (.inl rfl)
        · exact .inl rfl
        · exact .inr (.inr ⟨apart, member⟩)

/-- A new key goes to the end. -/
theorem assign_of_notMem {key : κ} {value : υ} {entries : List (κ × υ)} (fresh : key ∉ entries.map Prod.fst) :
    assign key value entries = entries ++ [(key, value)] := by
  induction entries with
  | nil => rfl
  | cons entry rest ih =>
    obtain ⟨name, old⟩ := entry
    rw [List.map_cons, List.mem_cons, not_or] at fresh
    rw [assign, if_neg (Ne.symm fresh.1), ih fresh.2]
    rfl

/-- Pairs with different keys are the entries of their map. -/
theorem assignAll_of_nodup {pairs : List (κ × υ)} (nodup : (pairs.map Prod.fst).Nodup) : assignAll pairs = pairs := by
  induction pairs using List.reverseRecOn with
  | nil => rfl
  | append_singleton pairs pair ih =>
    rw [List.map_append, List.nodup_append] at nodup
    rw [assignAll_snoc, ih nodup.1, assign_of_notMem]
    intro member
    exact nodup.2.2 pair.1 member pair.1 List.mem_cons_self rfl

theorem mem_keys_assignAll {pairs : List (κ × υ)} {key : κ} :
    key ∈ (assignAll pairs).map Prod.fst ↔ key ∈ pairs.map Prod.fst := by
  induction pairs using List.reverseRecOn with
  | nil => rfl
  | append_singleton pairs pair ih =>
    rw [assignAll_snoc, mem_keys_assign, ih, List.map_append, List.mem_append, List.map_singleton,
      List.mem_singleton]
    exact or_comm

theorem nodup_keys_assignAll {pairs : List (κ × υ)} : ((assignAll pairs).map Prod.fst).Nodup := by
  induction pairs using List.reverseRecOn with
  | nil => exact List.nodup_nil
  | append_singleton pairs pair ih =>
    rw [assignAll_snoc]
    exact nodup_keys_assign ih

/-- The map of pairs that agree holds exactly the pairs. -/
theorem mem_assignAll {pairs : List (κ × υ)} (functional : Functional pairs) {pair : κ × υ} :
    pair ∈ assignAll pairs ↔ pair ∈ pairs := by
  induction pairs using List.reverseRecOn generalizing pair with
  | nil => rfl
  | append_singleton pairs last ih =>
    rw [assignAll_snoc, mem_assign nodup_keys_assignAll, ih functional.initial, List.mem_append,
      List.mem_singleton]
    constructor
    · rintro (rfl | ⟨_, member⟩)
      · exact .inr rfl
      · exact .inl member
    · rintro (member | rfl)
      · by_cases same : pair.1 = last.1
        · have value := functional pair (List.mem_append_left _ member) last (by simp) same
          exact .inl (Prod.ext same value)
        · exact .inr ⟨same, member⟩
      · exact .inl rfl

/-- One more pair agrees with the earlier ones exactly when the map has no other
value for its key. -/
theorem functional_snoc {pairs : List (κ × υ)} {pair : κ × υ} (functional : Functional pairs) :
    Functional (pairs ++ [pair]) ↔ ∀ value, (pair.1, value) ∈ assignAll pairs → value = pair.2 := by
  constructor
  · intro all value member
    rw [mem_assignAll functional] at member
    exact all _ (List.mem_append_left _ member) pair (by simp) rfl
  · intro agrees
    have one : ∀ first ∈ pairs, first.1 = pair.1 → first.2 = pair.2 := by
      intro first member same
      apply agrees
      rw [mem_assignAll functional, ← same]
      exact member
    intro first firstMember second secondMember same
    rw [List.mem_append, List.mem_singleton] at firstMember secondMember
    rcases firstMember with firstMember | rfl <;> rcases secondMember with secondMember | rfl
    · exact functional first firstMember second secondMember same
    · exact one first firstMember same
    · exact (one second secondMember same.symm).symm
    · rfl

/-- What a lookup finds in a map without repeated keys. -/
theorem lookup_eq_some_iff {entries : List (κ × υ)} (nodup : (entries.map Prod.fst).Nodup) {key : κ} {value : υ} :
    entries.lookup key = some value ↔ (key, value) ∈ entries := by
  induction entries with
  | nil => simp
  | cons entry rest ih =>
    obtain ⟨name, old⟩ := entry
    rw [List.map_cons, List.nodup_cons] at nodup
    rw [List.lookup_cons, List.mem_cons]
    by_cases same : key = name
    · subst same
      have later : (key, value) ∉ rest := fun member => nodup.1 (List.mem_map.mpr ⟨_, member, rfl⟩)
      simp [later, eq_comm]
    · have apart : (key == name) = false := by simpa using same
      simp [apart, same, ih nodup.2]

end Maps

end Canonical
