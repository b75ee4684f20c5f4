import Mathlib.Data.List.Induction
import Mathlib.Data.List.Pairwise
import Mathlib.Order.Nat

/-!
# The latest element of an append-only sequence

An append-only log is a list in order of creation with a strictly increasing
key. `latest p` searches it from the end. With the key increasing, the position
found is the maximal one (`latest_eq_some_iff`); under an append the search is
decided by the new element first (`latest_snoc`).
-/

set_option autoImplicit false

namespace Latest

universe u

variable {α : Type u} {p : α → Bool}

/-- The last element of the list that satisfies `p`. -/
def latest (p : α → Bool) (l : List α) : Option α := l.reverse.find? p

@[simp] theorem latest_nil : latest p [] = none := rfl

@[simp] theorem latest_snoc {l : List α} {a : α} :
    latest p (l ++ [a]) = if p a then some a else latest p l := by
  simp only [latest, List.reverse_append, List.reverse_singleton, List.singleton_append, List.find?_cons]
  cases p a <;> rfl

/-- The latest is a member that satisfies the predicate. -/
theorem latest_some {l : List α} {a : α} (h : latest p l = some a) : a ∈ l ∧ p a = true :=
  ⟨List.mem_reverse.mp (List.mem_of_find?_eq_some h), List.find?_some h⟩

/-- There is no latest exactly when no member satisfies it. -/
theorem latest_eq_none {l : List α} : latest p l = none ↔ ∀ a ∈ l, p a = false := by
  simp [latest]

/-- What is appended is passed over where it does not satisfy `p`. -/
theorem latest_append {l later : List α} (other : ∀ a ∈ later, p a = false) : latest p (l ++ later) = latest p l := by
  have none : later.reverse.find? p = none := by
    rw [List.find?_eq_none]
    intro a member
    simp [other a (List.mem_reverse.mp member)]
  rw [latest, List.reverse_append, List.find?_append, none, Option.none_or]
  rfl

/-- The search from the end is the last element of the filtered list. -/
theorem getLast?_filter {l : List α} : (l.filter p).getLast? = latest p l := by
  induction l using List.reverseRecOn with
  | nil => rfl
  | append_singleton l last ih =>
    rw [List.filter_append, latest_snoc]
    by_cases found : p last = true <;> simp [found, ih]

/-- A search through a map is a search for the preimage. -/
theorem latest_map {β : Type u} {f : β → α} {l : List β} :
    latest p (l.map f) = (latest (p ∘ f) l).map f := by
  simp only [latest, ← List.map_reverse, List.find?_map]

/-- With an increasing key, the latest element is the one with the largest key. -/
theorem latest_eq_some_iff {key : α → Nat} {l : List α}
    (increasing : l.Pairwise fun a b => key a < key b) {a : α} :
    latest p l = some a ↔ a ∈ l ∧ p a = true ∧ ∀ b ∈ l, p b = true → key b ≤ key a := by
  induction l using List.reverseRecOn with
  | nil => simp
  | append_singleton l last ih =>
    obtain ⟨before, _, below⟩ := List.pairwise_append.mp increasing
    have smaller : ∀ b ∈ l, key b < key last := fun b member => below b member last List.mem_cons_self
    rw [latest_snoc]
    by_cases found : p last = true
    · rw [if_pos found]
      constructor
      · rintro ⟨⟩
        refine ⟨by simp, found, fun b member _ => ?_⟩
        rcases List.mem_append.mp member with member | member
        · exact (smaller b member).le
        · exact (congrArg key (List.mem_singleton.mp member)).le
      · rintro ⟨member, _, largest⟩
        rcases List.mem_append.mp member with member | member
        · exact absurd (largest last (by simp) found) (not_le.mpr (smaller a member))
        · rw [List.mem_singleton.mp member]
    · rw [if_neg found, ih before]
      constructor
      · rintro ⟨member, holds, largest⟩
        refine ⟨List.mem_append_left _ member, holds, fun b inside satisfied => ?_⟩
        rcases List.mem_append.mp inside with inside | inside
        · exact largest b inside satisfied
        · rw [List.mem_singleton.mp inside] at satisfied
          exact absurd satisfied found
      · rintro ⟨member, holds, largest⟩
        rcases List.mem_append.mp member with member | member
        · exact ⟨member, holds, fun b inside => largest b (List.mem_append_left _ inside)⟩
        · rw [List.mem_singleton.mp member] at holds
          exact absurd holds found

/-- Elements of an increasing list with one key are one element. -/
theorem key_injective {key : α → Nat} {l : List α}
    (increasing : l.Pairwise fun a b => key a < key b) {a b : α} (ha : a ∈ l) (hb : b ∈ l)
    (same : key a = key b) : a = b := by
  have symmetric : Std.Symm fun a b => key a ≠ key b := ⟨fun _ _ => Ne.symm⟩
  have distinct : l.Pairwise fun a b => key a ≠ key b := increasing.imp fun below => by omega
  by_contra other
  exact distinct.forall ha hb other same

end Latest
