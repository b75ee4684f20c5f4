import Mathlib.Data.List.Basic

/-!
# Sequences of checks

Code that validates is a sequence of guarded failures. `raiseIf p e` is one of
them; a sequence succeeds exactly when no guard fires, and `check_bind_ok` with
`bind_ok_iff` turns a successful sequence into the conjunction of what its
checks established, in the order of the code.
-/

set_option autoImplicit false

namespace Checks

variable {ε α β : Type}

/-- Fail with `e` when `p` holds. -/
def raiseIf (p : Prop) [Decidable p] (e : ε) : Except ε Unit :=
  if p then .error e else .ok ()

@[simp] theorem raiseIf_ok {p : Prop} [Decidable p] {e : ε} {r : Unit} :
    raiseIf p e = .ok r ↔ ¬p := by
  unfold raiseIf
  split <;> simp_all

@[simp] theorem raiseIf_error {p : Prop} [Decidable p] {e e' : ε} :
    raiseIf p e = .error e' ↔ p ∧ e = e' := by
  unfold raiseIf
  split <;> simp_all

/-- After a part whose result is known the sequence goes on. -/
theorem ok_bind {first : Except ε α} {rest : α → Except ε β} {a : α} (h : first = .ok a) :
    (first >>= rest) = rest a := by
  rw [h]
  rfl

/-- A sequence succeeds with the result of its rest after its first part. -/
theorem bind_ok_iff {first : Except ε α} {rest : α → Except ε β} {b : β} :
    (first >>= rest) = .ok b ↔ ∃ a, first = .ok a ∧ rest a = .ok b := by
  cases first with
  | error e => simp [bind, Except.bind]
  | ok a => simp [bind, Except.bind]

@[simp] theorem map_ok_iff {f : α → β} {first : Except ε α} {b : β} :
    (f <$> first) = .ok b ↔ ∃ a, first = .ok a ∧ f a = b := by
  cases first with
  | error e => simp [Functor.map, Except.map]
  | ok a => simp [Functor.map, Except.map]

/-- After a check there is nothing to pass on. -/
@[simp] theorem check_bind_ok {check : Except ε Unit} {rest : Unit → Except ε β} {b : β} :
    (check >>= rest) = .ok b ↔ check = .ok () ∧ rest () = .ok b := by
  cases check with
  | error e => simp [bind, Except.bind]
  | ok a => simp [bind, Except.bind]

/-- The sequence fails where its first part fails, or later. -/
theorem bind_error_iff {first : Except ε α} {rest : α → Except ε β} {e : ε} :
    (first >>= rest) = .error e ↔
      first = .error e ∨ ∃ a, first = .ok a ∧ rest a = .error e := by
  cases first with
  | error e => simp [bind, Except.bind]
  | ok a => simp [bind, Except.bind]

/-- Check the items in order, each with its index. -/
def checkEach (check : Nat → α → Except ε Unit) (index : Nat) : List α → Except ε Unit
  | [] => .ok ()
  | item :: rest => do
    check index item
    checkEach check (index + 1) rest

/-- A loop of checks succeeds when each item passes, whatever its index. -/
theorem checkEach_ok {check : Nat → α → Except ε Unit} {P : α → Prop}
    (passes : ∀ index item, check index item = .ok () ↔ P item) {items : List α} {index : Nat} :
    checkEach check index items = .ok () ↔ ∀ item ∈ items, P item := by
  induction items generalizing index with
  | nil => simp [checkEach]
  | cons item rest ih => rw [checkEach, check_bind_ok, passes, ih, List.forall_mem_cons]

/-- A loop that maps its items maps each of them. -/
theorem mem_mapM_ok {f : α → Except ε β} {items : List α} {results : List β} (h : items.mapM f = .ok results)
    (b : β) : b ∈ results ↔ ∃ a ∈ items, f a = .ok b := by
  induction items generalizing results with
  | nil =>
    cases h
    simp
  | cons item rest ih =>
    rw [List.mapM_cons] at h
    obtain ⟨first, ran, h⟩ := bind_ok_iff.mp h
    obtain ⟨others, later, h⟩ := bind_ok_iff.mp h
    cases h
    rw [List.mem_cons, ih later, List.exists_mem_cons_iff, ran, Except.ok.injEq]
    exact or_congr_left eq_comm

/-- When the whole list goes through, each member does. -/
theorem mapM_ok_each {f : α → Except ε β} {items : List α} {results : List β} (h : items.mapM f = .ok results)
    {a : α} (member : a ∈ items) : ∃ b, f a = .ok b := by
  induction items generalizing results with
  | nil => exact absurd member List.not_mem_nil
  | cons item rest ih =>
    rw [List.mapM_cons] at h
    obtain ⟨first, ran, h⟩ := bind_ok_iff.mp h
    obtain ⟨others, later, _⟩ := bind_ok_iff.mp h
    rcases List.mem_cons.mp member with rfl | member
    · exact ⟨first, ran⟩
    · exact ih later member

/-- A loop whose steps all return maps its items. -/
theorem mapM_eq_ok {f : α → Except ε β} {g : α → β} {items : List α} (each : ∀ a ∈ items, f a = .ok (g a)) :
    items.mapM f = .ok (items.map g) := by
  induction items with
  | nil => rfl
  | cons item rest ih =>
    rw [List.mapM_cons, ok_bind (each item List.mem_cons_self),
      ok_bind (ih fun a member => each a (List.mem_cons_of_mem _ member))]
    rfl

/-- A loop fails with what the first of its items that fails raises. -/
theorem mapM_error_iff {f : α → Except ε β} {items : List α} {e : ε} :
    items.mapM f = .error e ↔ ∃ before a after, items = before ++ a :: after ∧
      (∀ b ∈ before, ∃ result, f b = .ok result) ∧ f a = .error e := by
  constructor
  · intro h
    induction items with
    | nil => cases h
    | cons item rest ih =>
      rw [List.mapM_cons] at h
      rcases bind_error_iff.mp h with failed | ⟨first, done, h⟩
      · exact ⟨[], item, rest, rfl, fun b member => absurd member List.not_mem_nil, failed⟩
      rcases bind_error_iff.mp h with failed | ⟨others, _, h⟩
      · obtain ⟨before, a, after, split, loaded, failed⟩ := ih failed
        exact ⟨item :: before, a, after, by rw [split, List.cons_append],
          List.forall_mem_cons.mpr ⟨⟨first, done⟩, loaded⟩, failed⟩
      · cases h
  · rintro ⟨before, a, after, split, loaded, failed⟩
    rw [split]
    clear split
    induction before with
    | nil =>
      rw [List.nil_append, List.mapM_cons]
      exact bind_error_iff.mpr (.inl failed)
    | cons item before ih =>
      obtain ⟨⟨first, done⟩, loaded⟩ := List.forall_mem_cons.mp loaded
      rw [List.cons_append, List.mapM_cons, ok_bind done]
      exact bind_error_iff.mpr (.inl (ih loaded))

/-- A loop that selects items decides each of them. -/
theorem filterM_ok {p : α → Except ε Bool} {items results : List α} (h : items.filterM p = .ok results) :
    (∀ a ∈ items, ∃ keep, p a = .ok keep) ∧ ∀ a, a ∈ results ↔ a ∈ items ∧ p a = .ok true := by
  have loop : ∀ items done kept : List α, List.filterAuxM p items done = .ok kept →
      (∀ a ∈ items, ∃ keep, p a = .ok keep) ∧ ∀ a, a ∈ kept ↔ a ∈ done ∨ (a ∈ items ∧ p a = .ok true) := by
    intro items
    induction items with
    | nil =>
      intro done kept h
      cases h
      simp
    | cons item rest ih =>
      intro done kept h
      obtain ⟨keep, decided, h⟩ := bind_ok_iff.mp h
      obtain ⟨each, members⟩ := ih _ _ h
      refine ⟨List.forall_mem_cons.mpr ⟨⟨keep, decided⟩, each⟩, fun a => ?_⟩
      rw [members]
      cases keep with
      | true =>
        rw [cond_true, List.mem_cons, List.mem_cons]
        constructor
        · rintro ((rfl | before) | ⟨later, selected⟩)
          · exact .inr ⟨.inl rfl, decided⟩
          · exact .inl before
          · exact .inr ⟨.inr later, selected⟩
        · rintro (before | ⟨rfl | later, selected⟩)
          · exact .inl (.inr before)
          · exact .inl (.inl rfl)
          · exact .inr ⟨later, selected⟩
      | false =>
        rw [cond_false, List.mem_cons]
        constructor
        · rintro (before | ⟨later, selected⟩)
          · exact .inl before
          · exact .inr ⟨.inr later, selected⟩
        · rintro (before | ⟨rfl | later, selected⟩)
          · exact .inl before
          · rw [decided] at selected
            cases selected
          · exact .inr ⟨later, selected⟩
  obtain ⟨kept, ran, h⟩ := bind_ok_iff.mp h
  cases h
  obtain ⟨each, members⟩ := loop _ _ _ ran
  refine ⟨each, fun a => ?_⟩
  rw [List.mem_reverse, members]
  simp

/-- A loop that selects items fails on one of them. -/
theorem filterM_error {p : α → Except ε Bool} {items : List α} {e : ε} (h : items.filterM p = .error e) :
    ∃ a ∈ items, p a = .error e := by
  have loop : ∀ items done : List α, List.filterAuxM p items done = .error e → ∃ a ∈ items, p a = .error e := by
    intro items
    induction items with
    | nil =>
      intro done h
      cases h
    | cons item rest ih =>
      intro done h
      rcases bind_error_iff.mp h with failed | ⟨keep, _, h⟩
      · exact ⟨item, List.mem_cons_self, failed⟩
      · obtain ⟨a, member, failed⟩ := ih _ h
        exact ⟨a, List.mem_cons_of_mem _ member, failed⟩
  rcases bind_error_iff.mp h with failed | ⟨kept, _, h⟩
  · exact loop items [] failed
  · cases h

@[simp] theorem pure_ok {a b : α} : (pure a : Except ε α) = .ok b ↔ a = b := by
  simp [pure, Except.pure]

end Checks
