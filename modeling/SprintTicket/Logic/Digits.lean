import Mathlib.Tactic.Ring
import Mathlib.Data.List.Basic

/-!
# Decimal fields of fixed width

`digits width n` writes the last `width` decimal digits of `n`, and `readDigits`
reads exactly `width` digits from the front of a text. Reading what was written
gives the number back when it fits the width (`readDigits_digits`).
-/

set_option autoImplicit false

namespace Digits

/-- The decimal digit of `n < 10`. -/
def digit (n : Nat) : Char := Char.ofNat (48 + n % 10)

/-- `n` modulo `10 ^ width`, most significant digit first. -/
def digits : Nat → Nat → List Char
  | 0, _ => []
  | width + 1, n => digit (n / 10 ^ width) :: digits width n

/-- Read `width` digits after the number `acc`. -/
def readDigits : Nat → Nat → List Char → Option (Nat × List Char)
  | 0, acc, rest => some (acc, rest)
  | _ + 1, _, [] => none
  | width + 1, acc, c :: rest =>
    if c.isDigit then readDigits width (acc * 10 + (c.toNat - 48)) rest else none

theorem digit_spec (n : Nat) : (digit n).isDigit = true ∧ (digit n).toNat - 48 = n % 10 := by
  have small : n % 10 < 10 := Nat.mod_lt _ (by omega)
  unfold digit
  generalize n % 10 = d at small
  revert d
  decide

@[simp] theorem digits_length (width n : Nat) : (digits width n).length = width := by
  induction width with
  | zero => rfl
  | succ width ih => simp [digits, ih]

/-- **Round trip** of a decimal field. -/
theorem readDigits_digits (width acc n : Nat) (rest : List Char) :
    readDigits width acc (digits width n ++ rest) = some (acc * 10 ^ width + n % 10 ^ width, rest) := by
  induction width generalizing acc with
  | zero => simp [readDigits, digits, Nat.mod_one]
  | succ width ih =>
    obtain ⟨isDigit, value⟩ := digit_spec (n / 10 ^ width)
    rw [digits, List.cons_append, readDigits, if_pos isDigit, value, ih]
    have split : n % 10 ^ (width + 1) = n % 10 ^ width + 10 ^ width * (n / 10 ^ width % 10) := by
      rw [Nat.pow_succ, Nat.mod_mul]
    rw [split, Nat.pow_succ]
    congr 2
    ring_nf

/-- A number that fits the width is read back. -/
theorem readDigits_small {width n : Nat} (small : n < 10 ^ width) (rest : List Char) :
    readDigits width 0 (digits width n ++ rest) = some (n, rest) := by
  rw [readDigits_digits, Nat.mod_eq_of_lt small]
  simp

/-! ## Order -/

/-- The characters of digits are ordered as the digits are. -/
theorem digit_lt {a b : Nat} (h : a % 10 < b % 10) : digit a < digit b := by
  obtain ⟨first, value⟩ := digit_spec a
  obtain ⟨second, value'⟩ := digit_spec b
  have low : 48 ≤ (digit a).toNat := by
    rw [Char.isDigit_iff_toNat] at first
    exact first.1
  rw [Char.lt_def, UInt32.lt_iff_toNat_lt]
  show (digit a).toNat < (digit b).toNat
  omega

/-- Fields of one width compare as texts the way their numbers do, whatever follows. -/
theorem digits_append_lt {width a b : Nat} (h : a % 10 ^ width < b % 10 ^ width) (left right : List Char) :
    digits width a ++ left < digits width b ++ right := by
  induction width with
  | zero => simp [Nat.mod_one] at h
  | succ width ih =>
    have splitA : a % 10 ^ (width + 1) = a % 10 ^ width + 10 ^ width * (a / 10 ^ width % 10) := by
      rw [Nat.pow_succ, Nat.mod_mul]
    have splitB : b % 10 ^ (width + 1) = b % 10 ^ width + 10 ^ width * (b / 10 ^ width % 10) := by
      rw [Nat.pow_succ, Nat.mod_mul]
    have positive : 0 < 10 ^ width := Nat.pow_pos (by omega)
    have below := Nat.mod_lt a positive
    rw [splitA, splitB] at h
    rw [digits, digits, List.cons_append, List.cons_append, List.cons_lt_cons_iff]
    rcases Nat.lt_trichotomy (a / 10 ^ width % 10) (b / 10 ^ width % 10) with less | same | more
    · exact .inl (digit_lt less)
    · rw [same] at h
      exact .inr ⟨by rw [digit, digit, same], ih (by omega)⟩
    · have room : 10 ^ width * (b / 10 ^ width % 10 + 1) ≤ 10 ^ width * (a / 10 ^ width % 10) :=
        Nat.mul_le_mul_left _ more
      have bound := Nat.mod_lt b positive
      rw [Nat.mul_add] at room
      omega

end Digits
