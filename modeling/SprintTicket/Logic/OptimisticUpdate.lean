import Mathlib.Data.List.Basic

/-!
# Compare-and-replace histories

A cell is replaced by many writers. Each replacement names the content it was
prepared from; a `Chain` is a history in which every replacement found exactly
that content. Everything that one replacement preserves is then a property of
the whole history, and a property that no replacement leaves (a final state) is
kept from the first moment it holds.
-/

set_option autoImplicit false

namespace OptimisticUpdate

universe u v

variable {ι : Type u} {R : Type v}

/-- One committed replacement: who made it, the content it was prepared from and
the content it left. -/
structure Link (ι : Type u) (R : Type v) where
  call : ι
  expected : R
  updated : R
deriving DecidableEq

/-- `Chain a links b`: the replacements, oldest first, lead from `a` to `b`, and
each one replaced exactly the content it was prepared from. -/
def Chain : R → List (Link ι R) → R → Prop
  | a, [], b => a = b
  | a, link :: links, b => link.expected = a ∧ Chain link.updated links b

/-- A chain splits where its list of links does. -/
theorem chain_append {a c : R} {earlier later : List (Link ι R)} :
    Chain a (earlier ++ later) c ↔ ∃ b, Chain a earlier b ∧ Chain b later c := by
  induction earlier generalizing a with
  | nil => simp [Chain]
  | cons link links ih =>
    simp only [List.cons_append, Chain, ih]
    constructor
    · rintro ⟨expected, b, before, after⟩
      exact ⟨b, ⟨expected, before⟩, after⟩
    · rintro ⟨b, ⟨expected, before⟩, after⟩
      exact ⟨expected, b, before, after⟩

/-- A replacement that finds the content it expects extends the history. -/
theorem Chain.snoc {a b : R} {links : List (Link ι R)} (chain : Chain a links b)
    {link : Link ι R} (found : link.expected = b) : Chain a (links ++ [link]) link.updated :=
  chain_append.mpr ⟨b, chain, found, rfl⟩

/-- What the first content has and every replacement keeps, every content has. -/
theorem Chain.invariant {P : R → Prop} {a b : R} {links : List (Link ι R)}
    (chain : Chain a links b) (kept : ∀ link ∈ links, P link.expected → P link.updated)
    (start : P a) : P b ∧ ∀ link ∈ links, P link.expected ∧ P link.updated := by
  induction links generalizing a with
  | nil => cases chain; exact ⟨start, by simp⟩
  | cons link links ih =>
    obtain ⟨rfl, rest⟩ := chain
    have updated := kept link List.mem_cons_self start
    obtain ⟨final, others⟩ := ih rest (fun l hl => kept l (List.mem_cons_of_mem _ hl)) updated
    refine ⟨final, fun l hl => ?_⟩
    rcases List.mem_cons.mp hl with rfl | hl
    · exact ⟨start, updated⟩
    · exact others l hl

/-- A chain ends in one state. -/
theorem Chain.end_unique {a b c : R} {links : List (Link ι R)} (left : Chain a links b)
    (right : Chain a links c) : b = c := by
  induction links generalizing a with
  | nil => exact left.symm.trans right
  | cons link links ih => exact ih left.2 right.2

/-- **A final content stays.** Once a content satisfies a property that no
replacement leaves, every later replacement was prepared from such a content. -/
theorem Chain.final {P : R → Prop} {a b c : R} {earlier later : List (Link ι R)}
    (chain : Chain a (earlier ++ later) c)
    (kept : ∀ link ∈ later, P link.expected → P link.updated)
    (reached : Chain a earlier b) (final : P b) : P c ∧ ∀ link ∈ later, P link.expected := by
  obtain ⟨b', before, after⟩ := chain_append.mp chain
  obtain rfl := before.end_unique reached
  obtain ⟨last, all⟩ := after.invariant kept final
  exact ⟨last, fun link member => (all link member).1⟩

end OptimisticUpdate
