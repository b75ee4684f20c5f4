import Mathlib.Data.Int.Notation

/-!
# Datetimes

A timezone-aware `datetime`: the reading of a wall clock, the zone it belongs to
and the offset of the zone there. Python subtracts and compares two datetimes of
one zone by their wall clocks and any others by their instants, and a reading
that exists twice in its zone equals no datetime of another zone.

Readings, offsets and instants are integers of microseconds, instants since the
Unix epoch.
-/

set_option autoImplicit false

namespace SprintTicket

/-- The microseconds from the first instant of a `datetime` to the Unix epoch. -/
def epochOffset : Int := 62135596800000000

def microsPerDay : Nat := 86400000000

/-- The instants of the years 1 to 9999. -/
def IsInstant (instant : Int) : Prop :=
  -epochOffset ≤ instant ∧ instant < 3652059 * microsPerDay - epochOffset

instance (instant : Int) : Decidable (IsInstant instant) := inferInstanceAs (Decidable (_ ∧ _))

theorem epoch_isInstant : IsInstant 0 := by decide

structure AwareDatetime where
  wall : Int
  /-- The identity of the `tzinfo`; zero is `datetime.UTC`. -/
  zone : Nat
  /-- `utcoffset()`. -/
  offset : Int
  /-- `utcoffset()` of the same reading with the other `fold`. -/
  foldedOffset : Int
  wall_range : IsInstant wall
  offset_range : -(microsPerDay : Int) < offset ∧ offset < microsPerDay
  utc_offset : zone = 0 → offset = 0 ∧ foldedOffset = 0
deriving DecidableEq

namespace AwareDatetime

/-- The moment the reading stands for, which may lie outside of all years. -/
def instant (value : AwareDatetime) : Int := value.wall - value.offset

/-- A moment on the clock of UTC. -/
def utc (instant : Int) (range : IsInstant instant) : AwareDatetime where
  wall := instant
  zone := 0
  offset := 0
  foldedOffset := 0
  wall_range := range
  offset_range := by decide
  utc_offset := fun _ => ⟨rfl, rfl⟩

/-- `later - earlier`. -/
def sub (later earlier : AwareDatetime) : Int :=
  if later.zone = earlier.zone then later.wall - earlier.wall else later.instant - earlier.instant

/-- `left < right`. -/
def before (left right : AwareDatetime) : Prop := left.sub right < 0

instance (left right : AwareDatetime) : Decidable (left.before right) := inferInstanceAs (Decidable (_ < _))

/-- `left == right`. -/
def pyEq (left right : AwareDatetime) : Prop :=
  if left.zone = right.zone then left.wall = right.wall
  else left.offset = left.foldedOffset ∧ right.offset = right.foldedOffset ∧ left.instant = right.instant

@[simp] theorem utc_instant {instant : Int} {range : IsInstant instant} : (utc instant range).instant = instant := by
  simp [AwareDatetime.instant, utc]

@[simp] theorem utc_sub {left right : Int} {leftRange : IsInstant left} {rightRange : IsInstant right} :
    (utc left leftRange).sub (utc right rightRange) = left - right := rfl

/-- A datetime equals its moment in UTC exactly when it is in UTC or its reading
exists once. -/
theorem pyEq_utc {value : AwareDatetime} (range : IsInstant value.instant) :
    value.pyEq (utc value.instant range) ↔ value.zone = 0 ∨ value.offset = value.foldedOffset := by
  unfold pyEq
  by_cases same : value.zone = 0
  · have moment : value.wall = value.instant := by
      rw [AwareDatetime.instant, (value.utc_offset same).1]
      omega
    simp [utc, same, ← moment]
  · simp [utc, same, AwareDatetime.instant]

end AwareDatetime

end SprintTicket
