import Mathlib.Data.List.Basic

/-!
# Records before separators

`split` cuts a text at its separators: the records that end in one, and what is
left after the last. A text that arrives in parts is cut part by part, what is
left of each before the next (`split_append`).
-/

set_option autoImplicit false

namespace Records

variable {α : Type} [DecidableEq α]

/-- The records before each separator, and what follows the last one. -/
def split (separator : α) : List α → List (List α) × List α
  | [] => ([], [])
  | a :: rest =>
    if a = separator then ([] :: (split separator rest).1, (split separator rest).2)
    else
      match (split separator rest).1 with
      | [] => ([], a :: (split separator rest).2)
      | record :: more => ((a :: record) :: more, (split separator rest).2)

section Split

variable {separator : α}

/-- Splitting goes on where the first part left its rest. -/
theorem split_append (left right : List α) :
    split separator (left ++ right) =
      ((split separator left).1 ++ (split separator ((split separator left).2 ++ right)).1,
        (split separator ((split separator left).2 ++ right)).2) := by
  induction left with
  | nil => rfl
  | cons a rest ih =>
    rw [List.cons_append, split, split, ih]
    by_cases ends : a = separator
    · rw [if_pos ends, if_pos ends]
      rfl
    · rw [if_neg ends, if_neg ends]
      cases records : (split separator rest).1 with
      | nil =>
        simp only [List.nil_append, List.cons_append]
        rw [split, if_neg ends]
      | cons record more => rfl

theorem split_of_not_mem {text : List α} (plain : separator ∉ text) : split separator text = ([], text) := by
  induction text with
  | nil => rfl
  | cons a rest ih =>
    rw [List.mem_cons, not_or] at plain
    rw [split, ih plain.2, if_neg (fun same => plain.1 same.symm)]

/-- The rest has no separator in it. -/
theorem not_mem_split (text : List α) : separator ∉ (split separator text).2 := by
  induction text with
  | nil => exact List.not_mem_nil
  | cons a rest ih =>
    rw [split]
    split
    · exact ih
    · rename_i other
      split
      · rw [List.mem_cons, not_or]
        exact ⟨fun same => other same.symm, ih⟩
      · exact ih

/-- A record, its separator, and the rest. -/
theorem split_record {record : List α} (plain : separator ∉ record) (rest : List α) :
    split separator (record ++ separator :: rest) =
      (record :: (split separator rest).1, (split separator rest).2) := by
  induction record with
  | nil => rw [List.nil_append, split, if_pos rfl]
  | cons a record ih =>
    rw [List.mem_cons, not_or] at plain
    rw [List.cons_append, split, if_neg (fun same => plain.1 same.symm), ih plain.2]

end Split

end Records
