import SprintTicket.Logic.Checks

/-!
# Computations that keep their state when they raise

An exception does not undo what was done before it. `Effect σ ε α` is a
computation over a state `σ` whose final state is there for both outcomes.
`bind_ok` takes a successful sequence apart into its steps, `bind_error` says
where a sequence that raises stopped; `Keeps P` says that a computation
preserves `P` whatever its outcome is.
-/

set_option autoImplicit false

namespace Effects

/-- A computation over the state `σ` that may raise an `ε`. -/
def Effect (σ ε α : Type) : Type := σ → Except ε α × σ

variable {σ ε α β : Type}

namespace Effect

instance : Monad (Effect σ ε) where
  pure a := fun s => (.ok a, s)
  bind x f := fun s =>
    match x s with
    | (.ok a, s') => f a s'
    | (.error e, s') => (.error e, s')

/-- The current state. -/
def get : Effect σ ε σ := fun s => (.ok s, s)

def modify (f : σ → σ) : Effect σ ε Unit := fun s => (.ok (), f s)

/-- A fallible step outside the state. -/
def lift (x : Except ε α) : Effect σ ε α := fun s => (x, s)

def raise (e : ε) : Effect σ ε α := fun s => (.error e, s)

/-- Run to the end and hand the outcome on as a value. -/
def attempt (x : Effect σ ε α) : Effect σ ε (Except ε α) := fun s => (.ok (x s).1, (x s).2)

end Effect

open Effect

@[simp] theorem pure_apply {a : α} {s : σ} : (pure a : Effect σ ε α) s = (.ok a, s) := rfl

@[simp] theorem get_apply {s : σ} : (get : Effect σ ε σ) s = (.ok s, s) := rfl

@[simp] theorem modify_apply {f : σ → σ} {s : σ} : (modify f : Effect σ ε Unit) s = (.ok (), f s) := rfl

@[simp] theorem lift_apply {x : Except ε α} {s : σ} : (lift x : Effect σ ε α) s = (x, s) := rfl

@[simp] theorem raise_apply {e : ε} {s : σ} : (raise e : Effect σ ε α) s = (.error e, s) := rfl

@[simp] theorem attempt_apply {x : Effect σ ε α} {s : σ} : attempt x s = (.ok (x s).1, (x s).2) := rfl

/-- What one step after another does to a state. -/
theorem bind_apply {x : Effect σ ε α} {f : α → Effect σ ε β} {s : σ} :
    (x >>= f) s = match x s with
      | (.ok a, s') => f a s'
      | (.error e, s') => (.error e, s') := rfl

/-- A sequence that succeeds, step by step. -/
theorem bind_ok {x : Effect σ ε α} {f : α → Effect σ ε β} {s t : σ} {b : β} :
    (x >>= f) s = (.ok b, t) ↔ ∃ a s', x s = (.ok a, s') ∧ f a s' = (.ok b, t) := by
  rw [bind_apply]
  obtain ⟨outcome, s'⟩ := x s
  cases outcome <;> simp

/-- A sequence raises in its first step, or after it. -/
theorem bind_error {x : Effect σ ε α} {f : α → Effect σ ε β} {s t : σ} {e : ε} :
    (x >>= f) s = (.error e, t) ↔
      x s = (.error e, t) ∨ ∃ a s', x s = (.ok a, s') ∧ f a s' = (.error e, t) := by
  rw [bind_apply]
  obtain ⟨outcome, s'⟩ := x s
  cases outcome <;> simp

/-- A sequence ends in its first step, or its rest decides how. -/
theorem bind_cases {x : Effect σ ε α} {f : α → Effect σ ε β} {s t : σ} {outcome : Except ε β}
    (h : (x >>= f) s = (outcome, t)) :
    (∃ e, x s = (.error e, t) ∧ outcome = .error e) ∨ ∃ a s', x s = (.ok a, s') ∧ f a s' = (outcome, t) := by
  rw [bind_apply] at h
  rcases run : x s with ⟨a | e, s'⟩
  · rw [run] at h
    cases h
    exact .inl ⟨_, rfl, rfl⟩
  · rw [run] at h
    exact .inr ⟨_, s', rfl, h⟩

/-- After a step whose outcome is known the sequence goes on. -/
theorem bind_of_ok {x : Effect σ ε α} {f : α → Effect σ ε β} {s s' : σ} {a : α}
    (h : x s = (.ok a, s')) : (x >>= f) s = f a s' := by
  rw [bind_apply, h]

/-- After an attempt the sequence goes on with its outcome. -/
theorem attempt_bind {x : Effect σ ε α} {f : Except ε α → Effect σ ε β} {s t : σ} {outcome : Except ε β}
    (h : (attempt x >>= f) s = (outcome, t)) : ∃ body s', x s = (body, s') ∧ f body s' = (outcome, t) :=
  ⟨(x s).1, (x s).2, rfl, h⟩

@[simp] theorem get_bind {f : σ → Effect σ ε β} {s : σ} : (get >>= f) s = f s s := rfl

@[simp] theorem modify_bind {g : σ → σ} {f : Unit → Effect σ ε β} {s : σ} :
    (modify g >>= f) s = f () (g s) := rfl

@[simp] theorem pure_bind_apply {a : α} {f : α → Effect σ ε β} {s : σ} :
    ((pure a : Effect σ ε α) >>= f) s = f a s := rfl

@[simp] theorem lift_ok {x : Except ε α} {s t : σ} {a : α} :
    (lift x : Effect σ ε α) s = (.ok a, t) ↔ x = .ok a ∧ s = t := by
  simp

/-- A fallible step outside the state at the head of a sequence. -/
theorem lift_bind_ok {x : Except ε α} {f : α → Effect σ ε β} {s t : σ} {b : β} :
    (lift x >>= f) s = (.ok b, t) ↔ ∃ a, x = .ok a ∧ f a s = (.ok b, t) := by
  rw [bind_apply, lift_apply]
  cases x <;> simp

theorem lift_bind_error {x : Except ε α} {f : α → Effect σ ε β} {s t : σ} {e : ε} :
    (lift x >>= f) s = (.error e, t) ↔ (x = .error e ∧ s = t) ∨ ∃ a, x = .ok a ∧ f a s = (.error e, t) := by
  rw [bind_apply, lift_apply]
  cases x <;> simp

/-- `P` survives the computation, also when it raises. -/
def Keeps (P : σ → Prop) (x : Effect σ ε α) : Prop := ∀ s, P s → P (x s).2

variable {P : σ → Prop}

theorem keeps_pure {a : α} : Keeps P (pure a : Effect σ ε α) := fun _ h => h

theorem keeps_get : Keeps P (get : Effect σ ε σ) := fun _ h => h

theorem keeps_lift {x : Except ε α} : Keeps P (lift x : Effect σ ε α) := fun _ h => h

theorem keeps_raise {e : ε} : Keeps P (raise e : Effect σ ε α) := fun _ h => h

theorem keeps_modify {f : σ → σ} (h : ∀ s, P s → P (f s)) : Keeps P (modify f : Effect σ ε Unit) := h

/-- The rules for `Keeps` and `Raises`, one for each way to build an effect. -/
theorem keeps_bind {x : Effect σ ε α} {f : α → Effect σ ε β} (hx : Keeps P x) (hf : ∀ a, Keeps P (f a)) :
    Keeps P (x >>= f) := by
  intro s holds
  have after := hx s holds
  rw [bind_apply]
  rcases run : x s with ⟨outcome, s'⟩
  rw [run] at after
  cases outcome with
  | ok a => exact hf a s' after
  | error e => exact after

theorem keeps_attempt {x : Effect σ ε α} (hx : Keeps P x) : Keeps P (attempt x) := fun s h => hx s h

/-- What is kept holds afterwards, whatever the outcome. -/
theorem Keeps.after {x : Effect σ ε α} (hx : Keeps P x) {s t : σ} {outcome : Except ε α}
    (h : x s = (outcome, t)) (holds : P s) : P t := by
  have after := hx s holds
  rw [h] at after
  exact after

/-- A property kept by every computation on the way holds at the start of a
computation that ends without its negation. -/
theorem Keeps.before {x : Effect σ ε α} (hx : Keeps P x) {s t : σ} {outcome : Except ε α}
    (h : x s = (outcome, t)) (now : ¬P t) : ¬P s :=
  fun holds => now (hx.after h holds)

/-- `P` survives the computation, and what it raises satisfies `Q`. -/
def Raises (P : σ → Prop) (Q : ε → Prop) (x : Effect σ ε α) : Prop :=
  ∀ s, P s → P (x s).2 ∧ ∀ e, (x s).1 = .error e → Q e

section Raises

variable {Q : ε → Prop}

theorem raises_pure {a : α} : Raises P Q (pure a : Effect σ ε α) := by
  intro s holds
  refine ⟨holds, ?_⟩
  intro e raised
  cases raised

theorem raises_lift {x : Except ε α} (h : ∀ e, x = .error e → Q e) : Raises P Q (lift x : Effect σ ε α) :=
  fun _ holds => ⟨holds, h⟩

theorem raises_raise {e : ε} (h : Q e) : Raises P Q (raise e : Effect σ ε α) := by
  intro s holds
  refine ⟨holds, ?_⟩
  rintro _ ⟨⟩
  exact h

theorem raises_modify {f : σ → σ} (h : ∀ s, P s → P (f s)) : Raises P Q (modify f : Effect σ ε Unit) := by
  intro s holds
  refine ⟨h s holds, ?_⟩
  intro e raised
  cases raised

/-- An exception of two steps comes from the first, or from the second after it. -/
theorem raises_bind {x : Effect σ ε α} {f : α → Effect σ ε β} (hx : Raises P Q x) (hf : ∀ a, Raises P Q (f a)) :
    Raises P Q (x >>= f) := by
  intro s holds
  obtain ⟨after, raised⟩ := hx s holds
  rw [bind_apply]
  rcases run : x s with ⟨a | e, s'⟩
  · rw [run] at after raised
    refine ⟨after, ?_⟩
    rintro _ ⟨⟩
    exact raised a rfl
  · rw [run] at after
    exact hf _ s' after

/-- A computation that reads the state first knows `P` of what it read. -/
theorem raises_get_bind {f : σ → Effect σ ε β} (hf : ∀ s, P s → Raises P Q (f s)) : Raises P Q (get >>= f) :=
  fun s holds => hf s holds s holds

/-- An attempt raises nothing. -/
theorem raises_attempt {x : Effect σ ε α} (hx : Keeps P x) : Raises P Q (attempt x) := by
  intro s holds
  refine ⟨hx s holds, ?_⟩
  intro e raised
  cases raised

theorem Raises.keeps {x : Effect σ ε α} (hx : Raises P Q x) : Keeps P x := fun s holds => (hx s holds).1

/-- An exception that is raised satisfies what was said of it. -/
theorem Raises.raised {x : Effect σ ε α} (hx : Raises P Q x) {s t : σ} {e : ε} (holds : P s)
    (h : x s = (.error e, t)) : Q e :=
  (hx s holds).2 e (congrArg Prod.fst h)

end Raises

end Effects
