import Mathlib.Data.List.Basic

/-!
# Texts that can be read back

An encoding is prefix free when the rest of the input tells neither the value
nor where it ended: equal inputs that start with two encodings start with the
same value. Such encodings compose, under separators and closing characters that
no item starts with.
-/

set_option autoImplicit false

namespace PrefixCode

variable {α β : Type} {encode : α → List Char}

def PrefixFree (encode : α → List Char) : Prop :=
  ∀ {a b : α} {r s : List Char}, encode a ++ r = encode b ++ s → a = b ∧ r = s

/-- An injective renaming keeps a code prefix free. -/
theorem PrefixFree.comp {f : β → α} (free : PrefixFree encode) (injective : Function.Injective f) :
    PrefixFree (encode ∘ f) := by
  intro a b r s h
  obtain ⟨same, rest⟩ := free h
  exact ⟨injective same, rest⟩

/-- Some text of which no encoding starts with `c`. -/
def Avoids (encode : α → List Char) (c : Char) : Prop := ∀ a, ∃ d rest, encode a = d :: rest ∧ d ≠ c

/-- A code word does not start with a character the code avoids. -/
theorem Avoids.ne {c : Char} (avoids : Avoids encode c) {a : α} {r s : List Char} :
    encode a ++ r ≠ c :: s := by
  intro same
  obtain ⟨d, rest, starts, other⟩ := avoids a
  rw [starts, List.cons_append, List.cons.injEq] at same
  exact other same.1

/-- Items one after another, up to a closing character. -/
def closed (close : Char) (encode : α → List Char) (items : List α) : List Char := items.flatMap encode ++ [close]

theorem PrefixFree.closed {close : Char} (free : PrefixFree encode) (avoids : Avoids encode close) :
    PrefixFree (closed close encode) := by
  intro items others r s h
  unfold PrefixCode.closed at h
  induction items generalizing others with
  | nil =>
    cases others with
    | nil => exact ⟨rfl, by simpa using h⟩
    | cons other others =>
      simp only [List.flatMap_nil, List.nil_append, List.flatMap_cons, List.append_assoc, List.singleton_append] at h
      exact absurd h.symm avoids.ne
  | cons item items ih =>
    cases others with
    | nil =>
      simp only [List.flatMap_nil, List.nil_append, List.flatMap_cons, List.append_assoc, List.singleton_append] at h
      exact absurd h avoids.ne
    | cons other others =>
      simp only [List.flatMap_cons, List.append_assoc] at h
      obtain ⟨rfl, rest⟩ := free h
      rw [← List.append_assoc, ← List.append_assoc] at rest
      obtain ⟨rfl, after⟩ := ih rest
      exact ⟨rfl, after⟩

/-- Items between separators, up to a closing character. -/
def separated (separator close : Char) (encode : α → List Char) : List α → List Char
  | [] => [close]
  | [item] => encode item ++ [close]
  | item :: rest => encode item ++ separator :: separated separator close encode rest

theorem separated_cons (separator close : Char) (item : α) (rest : List α) :
    ∃ d more, separated separator close encode (item :: rest) = encode item ++ d :: more ∧
      ((rest = [] ∧ d = close ∧ more = []) ∨
        (rest ≠ [] ∧ d = separator ∧ more = separated separator close encode rest)) := by
  cases rest with
  | nil => exact ⟨close, [], rfl, .inl ⟨rfl, rfl, rfl⟩⟩
  | cons next rest => exact ⟨separator, _, rfl, .inr ⟨List.cons_ne_nil _ _, rfl, rfl⟩⟩

/-- Lists of code words, separated and closed. -/
theorem PrefixFree.separated {separator close : Char} (free : PrefixFree encode) (avoids : Avoids encode close)
    (different : separator ≠ close) : PrefixFree (separated separator close encode) := by
  intro items others r s h
  induction items generalizing others with
  | nil =>
    cases others with
    | nil => exact ⟨rfl, by simpa [PrefixCode.separated] using h⟩
    | cons other others =>
      obtain ⟨d, more, written, _⟩ := separated_cons separator close other others
      rw [written, List.append_assoc] at h
      exact absurd h.symm avoids.ne
  | cons item items ih =>
    obtain ⟨d, more, written, ending⟩ := separated_cons separator close item items
    cases others with
    | nil =>
      rw [written, List.append_assoc] at h
      exact absurd h avoids.ne
    | cons other others =>
      obtain ⟨d', more', written', ending'⟩ := separated_cons separator close other others
      rw [written, written', List.append_assoc, List.append_assoc] at h
      obtain ⟨rfl, rest⟩ := free h
      rw [List.cons_append, List.cons_append, List.cons.injEq] at rest
      obtain ⟨rfl, rest⟩ := rest
      rcases ending with ⟨rfl, rfl, rfl⟩ | ⟨_, rfl, rfl⟩ <;> rcases ending' with ⟨rfl, closing, rfl⟩ | ⟨_, apart, rfl⟩
      · exact ⟨rfl, rest⟩
      · exact absurd apart.symm different
      · exact absurd closing different
      · obtain ⟨rfl, after⟩ := ih rest
        exact ⟨rfl, after⟩

end PrefixCode
