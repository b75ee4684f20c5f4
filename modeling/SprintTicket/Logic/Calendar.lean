import Mathlib.Tactic.IntervalCases

/-!
# The proleptic Gregorian calendar

`ofDays` turns a day count since the first of January of year 1 into a date by
the decomposition into cycles of 400, 100, 4 and 1 years, and `toDays` counts
the days before a date. `toDays_ofDays` is the round trip, `ofDays_valid` that
the dates are real ones.
-/

set_option autoImplicit false

namespace Calendar

structure Date where
  year : Nat
  month : Nat
  day : Nat
deriving DecidableEq, Repr

def isLeap (year : Nat) : Bool :=
  year % 4 = 0 && (year % 100 ≠ 0 || year % 400 = 0)

/-- The days before the first of January of `year`. -/
def daysBeforeYear (year : Nat) : Nat :=
  (year - 1) * 365 + (year - 1) / 4 - (year - 1) / 100 + (year - 1) / 400

/-- The length of February. -/
def february (year : Nat) : Nat := if isLeap year then 29 else 28

/-- The days of the year before `month`. -/
def daysBeforeMonth (year month : Nat) : Nat :=
  match month with
  | 0 | 1 => 0
  | 2 => 31
  | month + 3 => 31 + february year + [0, 31, 61, 92, 122, 153, 184, 214, 245, 275].getD month 306

def daysInMonth (year month : Nat) : Nat :=
  daysBeforeMonth year (month + 1) - daysBeforeMonth year month

/-- The month of a day of the year, counted from 0. -/
def monthOf (year dayOfYear : Nat) : Nat :=
  if dayOfYear < 31 then 1
  else if dayOfYear < 31 + february year then 2
  else
    let march := dayOfYear - (31 + february year)
    if march < 31 then 3 else if march < 61 then 4 else if march < 92 then 5 else if march < 122 then 6
    else if march < 153 then 7 else if march < 184 then 8 else if march < 214 then 9
    else if march < 245 then 10 else if march < 275 then 11 else 12

/-- The year of a day count and the day within it, counted from 0. -/
def yearOf (days : Nat) : Nat × Nat :=
  let n400 := days / 146097
  let in400 := days % 146097
  let n100 := min (in400 / 36524) 3
  let in100 := in400 - n100 * 36524
  let n4 := in100 / 1461
  let in4 := in100 % 1461
  let n1 := min (in4 / 365) 3
  (400 * n400 + 100 * n100 + 4 * n4 + n1 + 1, in4 - n1 * 365)

def ofDays (days : Nat) : Date :=
  let (year, dayOfYear) := yearOf days
  let month := monthOf year dayOfYear
  ⟨year, month, dayOfYear - daysBeforeMonth year month + 1⟩

def toDays (date : Date) : Nat :=
  daysBeforeYear date.year + daysBeforeMonth date.year date.month + (date.day - 1)

/-- A date of the calendar. -/
structure Date.Valid (date : Date) : Prop where
  year_pos : 1 ≤ date.year
  month : 1 ≤ date.month ∧ date.month ≤ 12
  day : 1 ≤ date.day ∧ date.day ≤ daysInMonth date.year date.month

/-- The parts of a year number, counted from 0. -/
theorem daysBeforeYear_cycles {a b c d : Nat} (hb : b ≤ 3) (hc : c ≤ 24) (hd : d ≤ 3) :
    daysBeforeYear (400 * a + 100 * b + 4 * c + d + 1) = 146097 * a + 36524 * b + 1461 * c + 365 * d := by
  have quarters : (400 * a + 100 * b + 4 * c + d) / 4 = 100 * a + 25 * b + c := by omega
  have centuries : (400 * a + 100 * b + 4 * c + d) / 100 = 4 * a + b := by omega
  have cycles : (400 * a + 100 * b + 4 * c + d) / 400 = a := by omega
  unfold daysBeforeYear
  rw [Nat.add_sub_cancel, quarters, centuries, cycles]
  omega

/-- A year is leap when it ends a group of four that does not end a century,
unless the century ends a cycle. -/
theorem isLeap_cycles {a b c d : Nat} (hb : b ≤ 3) (hc : c ≤ 24) (hd : d ≤ 3) :
    isLeap (400 * a + 100 * b + 4 * c + d + 1) = true ↔ d = 3 ∧ (c ≠ 24 ∨ b = 3) := by
  simp only [isLeap, Bool.and_eq_true, Bool.or_eq_true, decide_eq_true_eq]
  omega

/-- The year a day lies in, and how far into it. -/
theorem yearOf_spec (days : Nat) :
    daysBeforeYear (yearOf days).1 + (yearOf days).2 = days ∧ 1 ≤ (yearOf days).1 ∧
      (yearOf days).2 < 337 + february (yearOf days).1 := by
  obtain ⟨a, ha⟩ : ∃ a, a = days / 146097 := ⟨_, rfl⟩
  obtain ⟨b, hb⟩ : ∃ b, b = min (days % 146097 / 36524) 3 := ⟨_, rfl⟩
  obtain ⟨c, hc⟩ : ∃ c, c = (days % 146097 - b * 36524) / 1461 := ⟨_, rfl⟩
  obtain ⟨d, hd⟩ : ∃ d, d = min ((days % 146097 - b * 36524) % 1461 / 365) 3 := ⟨_, rfl⟩
  have eq : yearOf days = (400 * a + 100 * b + 4 * c + d + 1,
      (days % 146097 - b * 36524) % 1461 - d * 365) := by
    subst ha hb hc hd
    rfl
  have boundB : b ≤ 3 := by omega
  have boundC : c ≤ 24 := by omega
  have boundD : d ≤ 3 := by omega
  rw [eq]
  refine ⟨?_, by omega, ?_⟩
  · rw [daysBeforeYear_cycles boundB boundC boundD]
    omega
  · unfold february
    have leap := isLeap_cycles (a := a) boundB boundC boundD
    split
    · omega
    · rename_i common
      have : ¬(d = 3 ∧ (c ≠ 24 ∨ b = 3)) := fun h => common (leap.mpr h)
      omega

theorem february_bounds (year : Nat) : 28 ≤ february year ∧ february year ≤ 29 := by
  unfold february
  split <;> omega

theorem daysInMonth_le {year month : Nat} (last : month ≤ 12) : daysInMonth year month ≤ 31 := by
  have bounds := february_bounds year
  unfold daysInMonth
  interval_cases month <;>
    simp only [daysBeforeMonth, List.getD_cons_zero, List.getD_cons_succ, List.getD_nil] <;> omega

/-- The month a day of the year lies in. -/
theorem monthOf_spec {year dayOfYear : Nat} (inYear : dayOfYear < 337 + february year) :
    1 ≤ monthOf year dayOfYear ∧ monthOf year dayOfYear ≤ 12 ∧
      daysBeforeMonth year (monthOf year dayOfYear) ≤ dayOfYear ∧
      dayOfYear < daysBeforeMonth year (monthOf year dayOfYear + 1) := by
  have bounds := february_bounds year
  unfold monthOf
  dsimp only
  repeat' split
  all_goals
    simp only [daysBeforeMonth, List.getD_cons_zero, List.getD_cons_succ, List.getD_nil]
    omega

/-! ## Round trip -/

/-- Counting days and reading a date off them are inverse. -/
theorem toDays_ofDays (days : Nat) : toDays (ofDays days) = days := by
  obtain ⟨before, _, inYear⟩ := yearOf_spec days
  obtain ⟨_, _, started, _⟩ := monthOf_spec inYear
  simp only [toDays, ofDays, Nat.add_sub_cancel]
  omega

/-- Every day is a date. -/
theorem ofDays_valid (days : Nat) : (ofDays days).Valid := by
  obtain ⟨_, positive, inYear⟩ := yearOf_spec days
  obtain ⟨first, last, started, ended⟩ := monthOf_spec inYear
  refine ⟨positive, ⟨first, last⟩, ?_⟩
  simp only [ofDays, daysInMonth]
  omega

/-- The days of years below 10000 have dates with four-digit years. -/
theorem ofDays_year {days : Nat} (bound : days < 3652059) : (ofDays days).year ≤ 9999 := by
  obtain ⟨before, positive, _⟩ := yearOf_spec days
  by_contra late
  have late : 10000 ≤ (yearOf days).1 := by
    simp only [ofDays] at late
    omega
  have many : 3652059 ≤ daysBeforeYear (yearOf days).1 := by
    unfold daysBeforeYear
    omega
  omega

/-- The order of dates. -/
def Date.Before (left right : Date) : Prop :=
  left.year < right.year ∨ left.year = right.year ∧
    (left.month < right.month ∨ left.month = right.month ∧ left.day < right.day)

theorem daysBeforeMonth_mono (year : Nat) : Monotone (daysBeforeMonth year) := by
  have bounds := february_bounds year
  apply monotone_nat_of_le_succ
  intro month
  match month with
  | 0 | 1 => simp [daysBeforeMonth]
  | 2 => simp [daysBeforeMonth]
  | month + 3 =>
    simp only [daysBeforeMonth]
    by_cases late : month < 10
    · interval_cases month <;> simp
    · have past : [0, 31, 61, 92, 122, 153, 184, 214, 245, 275].length ≤ month := by simpa using late
      rw [List.getD_eq_getElem?_getD, List.getD_eq_getElem?_getD, List.getElem?_eq_none past,
        List.getElem?_eq_none (Nat.le_succ_of_le past)]

/-- A division by a constant steps up at the multiples of the constant. -/
theorem div_step (n divisor : Nat) (positive : 1 ≤ n) :
    n / divisor = (n - 1) / divisor + if n % divisor = 0 then 1 else 0 := by
  obtain ⟨m, rfl⟩ : ∃ m, n = m + 1 := ⟨n - 1, by omega⟩
  simp only [Nat.succ_div, Nat.add_sub_cancel, Nat.dvd_iff_mod_eq_zero]

/-- A year has 337 days and its February. -/
theorem daysBeforeYear_succ {year : Nat} (positive : 1 ≤ year) :
    daysBeforeYear (year + 1) = daysBeforeYear year + (337 + february year) := by
  have quarters := div_step year 4 positive
  have centuries := div_step year 100 positive
  have cycles := div_step year 400 positive
  have century : year % 100 = 0 → year % 4 = 0 := by omega
  have cycle : year % 400 = 0 → year % 100 = 0 := by omega
  have fewer : (year - 1) / 100 ≤ (year - 1) / 4 := Nat.div_le_div_left (by omega) (by omega)
  unfold daysBeforeYear february isLeap
  simp only [Bool.and_eq_true, Bool.or_eq_true, decide_eq_true_eq, ne_eq, Nat.add_sub_cancel]
  rw [quarters, centuries, cycles]
  generalize (year - 1) / 4 = n4 at *
  generalize (year - 1) / 100 = n100 at *
  generalize (year - 1) / 400 = n400 at *
  by_cases h4 : year % 4 = 0 <;> by_cases h100 : year % 100 = 0 <;> by_cases h400 : year % 400 = 0 <;>
    simp [h4, h100, h400] at century cycle ⊢ <;> omega

theorem daysBeforeYear_mono : Monotone daysBeforeYear := by
  apply monotone_nat_of_le_succ
  intro year
  cases year with
  | zero => simp [daysBeforeYear]
  | succ year =>
    have grown := daysBeforeYear_succ (Nat.le_add_left 1 year)
    omega

/-- The days of a date within its year and its month. -/
theorem Date.Valid.bounds {date : Date} (valid : date.Valid) :
    daysBeforeYear date.year + daysBeforeMonth date.year date.month ≤ toDays date ∧
      toDays date < daysBeforeYear date.year + daysBeforeMonth date.year (date.month + 1) ∧
      toDays date < daysBeforeYear (date.year + 1) := by
  have day := valid.day
  unfold daysInMonth at day
  have last : daysBeforeMonth date.year (date.month + 1) ≤ 337 + february date.year := by
    calc daysBeforeMonth date.year (date.month + 1) ≤ daysBeforeMonth date.year 13 :=
          daysBeforeMonth_mono _ (by have := valid.month; omega)
      _ ≤ 337 + february date.year := by
        simp only [daysBeforeMonth, List.getD_nil, List.getD_cons_succ]
        omega
  rw [daysBeforeYear_succ valid.year_pos]
  unfold toDays
  omega

/-- A later date is a later day. -/
theorem toDays_lt {left right : Date} (validLeft : left.Valid) (validRight : right.Valid)
    (before : left.Before right) : toDays left < toDays right := by
  have upper := validLeft.bounds
  have lower := validRight.bounds
  rcases before with year | ⟨year, month | ⟨month, day⟩⟩
  · have years : daysBeforeYear (left.year + 1) ≤ daysBeforeYear right.year := daysBeforeYear_mono year
    omega
  · have months : daysBeforeMonth left.year (left.month + 1) ≤ daysBeforeMonth left.year right.month :=
      daysBeforeMonth_mono _ month
    rw [← year] at lower
    omega
  · have first := validLeft.day.1
    unfold toDays
    rw [year, month]
    omega

/-- Later days have later dates. -/
theorem ofDays_before {days days' : Nat} (h : days < days') : (ofDays days).Before (ofDays days') := by
  by_contra other
  have reversed : ofDays days = ofDays days' ∨ (ofDays days').Before (ofDays days) := by
    generalize ofDays days = left at other
    generalize ofDays days' = right at other
    unfold Date.Before at other ⊢
    have eta : left = right ↔ left.year = right.year ∧ left.month = right.month ∧ left.day = right.day := by
      cases left
      cases right
      simp
    rw [eta]
    omega
  rcases reversed with same | before
  · have equal := congrArg toDays same
    rw [toDays_ofDays, toDays_ofDays] at equal
    omega
  · have less := toDays_lt (ofDays_valid days') (ofDays_valid days) before
    rw [toDays_ofDays, toDays_ofDays] at less
    omega

end Calendar
