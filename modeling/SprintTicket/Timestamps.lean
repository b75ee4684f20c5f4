import Mathlib.Data.String.Basic
import SprintTicket.Logic.Calendar
import SprintTicket.Logic.Digits
import SprintTicket.Datetimes
import SprintTicket.Errors

/-!
# Timestamps

Instants are integers of microseconds since the Unix epoch. `formatTimestamp`
writes the UTC text the persisted records hold, and `parseTimestamp` reads it
back: `parseTimestamp_formatTimestamp`, for every instant a `datetime` holds.
-/

set_option autoImplicit false

namespace SprintTicket

open Calendar Digits

/-- The fraction of `isoformat`, which leaves out a zero one. -/
def formatFraction (micros : Nat) : List Char :=
  if micros = 0 then [] else '.' :: digits 6 micros

/-- `isoformat` of a date and a time of day, without an offset. -/
def isoFormat (date : Date) (time : Nat) : List Char :=
  digits 4 date.year ++ '-' :: (digits 2 date.month ++ '-' :: (digits 2 date.day ++
    'T' :: (digits 2 (time / 3600000000) ++ ':' :: (digits 2 (time / 60000000 % 60) ++
      ':' :: (digits 2 (time / 1000000 % 60) ++ formatFraction (time % 1000000))))))

/-- `format_timestamp`. -/
def formatTimestamp (instant : Int) : String :=
  let micros := (instant + epochOffset).toNat
  String.ofList (isoFormat (ofDays (micros / microsPerDay)) (micros % microsPerDay) ++ ['Z'])

/-- The next character is `c`. -/
def expect (c : Char) : List Char → Option (List Char)
  | [] => none
  | x :: rest => if x = c then some rest else none

/-- An optional fraction of a second. -/
def readFraction : List Char → Option (Nat × List Char)
  | '.' :: rest => readDigits 6 0 rest
  | rest => some (0, rest)

/-- The hours and minutes of an offset, in microseconds. -/
def readOffsetMicros (rest : List Char) : Option Int := do
  let (hours, rest) ← readDigits 2 0 rest
  let rest ← expect ':' rest
  let (minutes, rest) ← readDigits 2 0 rest
  if rest = [] ∧ hours < 24 ∧ minutes < 60 then some ((hours * 60 + minutes : Nat) * 60000000) else none

/-- An optional offset at the end of the text. -/
def readOffset : List Char → Option (Option Int)
  | [] => some none
  | '+' :: rest => some <$> readOffsetMicros rest
  | '-' :: rest => (fun offset => some (-offset)) <$> readOffsetMicros rest
  | _ => none

/-- `datetime.fromisoformat` on the extended form `isoformat` writes: the time
since the first instant, on the clock of the offset. -/
def fromIsoFormat (text : List Char) : Option (Nat × Option Int) := do
  let (year, rest) ← readDigits 4 0 text
  let rest ← expect '-' rest
  let (month, rest) ← readDigits 2 0 rest
  let rest ← expect '-' rest
  let (day, rest) ← readDigits 2 0 rest
  let rest ← expect 'T' rest
  let (hour, rest) ← readDigits 2 0 rest
  let rest ← expect ':' rest
  let (minute, rest) ← readDigits 2 0 rest
  let rest ← expect ':' rest
  let (second, rest) ← readDigits 2 0 rest
  let (micros, rest) ← readFraction rest
  let offset ← readOffset rest
  if 1 ≤ year ∧ (1 ≤ month ∧ month ≤ 12) ∧ (1 ≤ day ∧ day ≤ daysInMonth year month) ∧
      hour < 24 ∧ minute < 60 ∧ second < 60 then
    some (toDays ⟨year, month, day⟩ * microsPerDay +
      (hour * 3600000000 + minute * 60000000 + second * 1000000 + micros), offset)
  else none

/-- `parse_timestamp`. -/
def parseTimestamp (field value : String) : Except Raised Int :=
  let text := value.toList
  if text = [] then .error ⟨.codecError, field ++ " must be a non-empty timestamp string."⟩
  else
    let candidate := if text.getLast? = some 'Z' then text.dropLast ++ "+00:00".toList else text
    match fromIsoFormat candidate with
    | none => .error ⟨.codecError, field ++ " must be an ISO-8601 timestamp."⟩
    | some (_, none) => .error ⟨.codecError, field ++ " must include a timezone."⟩
    | some (micros, some offset) => .ok (micros - epochOffset - offset)

/-! ## Round trip -/

/-- The fraction is read back, in six digits or none. -/
theorem readFraction_format {micros : Nat} (small : micros < 1000000) (rest : List Char) :
    readFraction (formatFraction micros ++ '+' :: rest) = some (micros, '+' :: rest) := by
  unfold formatFraction
  split
  · rename_i zero
    rw [zero]
    rfl
  · exact readDigits_small (by omega) _

/-- Hours, minutes, seconds and fraction make up the time of day. -/
theorem time_parts (time : Nat) :
    time / 3600000000 * 3600000000 + time / 60000000 % 60 * 60000000 + time / 1000000 % 60 * 1000000 +
      time % 1000000 = time := by
  have minutes : time / 60000000 = time / 1000000 / 60 := by rw [Nat.div_div_eq_div_mul]
  have hours : time / 3600000000 = time / 1000000 / 60 / 60 := by
    rw [Nat.div_div_eq_div_mul, Nat.div_div_eq_div_mul]
  rw [minutes, hours]
  omega

/-- The written date and time are read back. -/
theorem fromIsoFormat_isoFormat {date : Date} {time : Nat} (valid : date.Valid) (fourDigits : date.year ≤ 9999)
    (inDay : time < microsPerDay) :
    fromIsoFormat (isoFormat date time ++ "+00:00".toList) =
      some (toDays date * microsPerDay + time, some 0) := by
  have inDay : time < 86400000000 := inDay
  have monthBound : daysInMonth date.year date.month ≤ 31 := daysInMonth_le valid.month.2
  have dayBound := valid.day.2
  have year (rest : List Char) : readDigits 4 0 (digits 4 date.year ++ rest) = some (date.year, rest) :=
    readDigits_small (by omega) rest
  have month (rest : List Char) : readDigits 2 0 (digits 2 date.month ++ rest) = some (date.month, rest) :=
    readDigits_small (by have := valid.month; omega) rest
  have day (rest : List Char) : readDigits 2 0 (digits 2 date.day ++ rest) = some (date.day, rest) :=
    readDigits_small (by omega) rest
  have hour (rest : List Char) :
      readDigits 2 0 (digits 2 (time / 3600000000) ++ rest) = some (time / 3600000000, rest) :=
    readDigits_small (by omega) rest
  have minute (rest : List Char) :
      readDigits 2 0 (digits 2 (time / 60000000 % 60) ++ rest) = some (time / 60000000 % 60, rest) :=
    readDigits_small (by omega) rest
  have second (rest : List Char) :
      readDigits 2 0 (digits 2 (time / 1000000 % 60) ++ rest) = some (time / 1000000 % 60, rest) :=
    readDigits_small (by omega) rest
  have fraction (rest : List Char) :
      readFraction (formatFraction (time % 1000000) ++ '+' :: rest) = some (time % 1000000, '+' :: rest) :=
    readFraction_format (by omega) rest
  have offset : readOffset ['+', '0', '0', ':', '0', '0'] = some (some 0) := by decide
  have inRange : 1 ≤ date.year ∧ (1 ≤ date.month ∧ date.month ≤ 12) ∧
      (1 ≤ date.day ∧ date.day ≤ daysInMonth date.year date.month) ∧
      time / 3600000000 < 24 ∧ time / 60000000 % 60 < 60 ∧ time / 1000000 % 60 < 60 :=
    ⟨valid.year_pos, valid.month, valid.day, by omega, by omega, by omega⟩
  have ofText : "+00:00".toList = ['+', '0', '0', ':', '0', '0'] := by decide
  simp only [fromIsoFormat, isoFormat, ofText, List.append_assoc, List.cons_append, year, month, day, hour,
    minute, second, fraction, offset, expect, if_true, Option.bind_eq_bind, Option.bind_some, inRange,
    and_self, time_parts]

/-- **Round trip** of a timestamp. -/
theorem parseTimestamp_formatTimestamp {instant : Int} (field : String) (range : IsInstant instant) :
    parseTimestamp field (formatTimestamp instant) = .ok instant := by
  obtain ⟨below, above⟩ := range
  have positive : 0 < microsPerDay := by simp [microsPerDay]
  have micros : ((instant + epochOffset).toNat : Int) = instant + epochOffset := by omega
  obtain ⟨total, same⟩ : ∃ total, total = (instant + epochOffset).toNat := ⟨_, rfl⟩
  rw [← same] at micros
  have bound : total < 3652059 * microsPerDay := by omega
  have days : total / microsPerDay < 3652059 := Nat.div_lt_of_lt_mul (by rw [Nat.mul_comm]; exact bound)
  have parsed := fromIsoFormat_isoFormat (ofDays_valid (total / microsPerDay)) (ofDays_year days)
    (Nat.mod_lt total positive)
  rw [toDays_ofDays, Nat.div_add_mod'] at parsed
  unfold parseTimestamp formatTimestamp
  rw [← same]
  simp only [String.toList_ofList, List.append_eq_nil_iff, List.cons_ne_nil, and_false, if_false,
    List.getLast?_concat, if_true, List.dropLast_concat, parsed]
  congr 1
  omega

/-- A later second is a later text, whatever the fractions are. -/
theorem isoFormat_append_lt {date date' : Date} {time time' : Nat} (valid : date.Valid) (valid' : date'.Valid)
    (year : date.year ≤ 9999) (year' : date'.year ≤ 9999) (inDay : time < microsPerDay)
    (inDay' : time' < microsPerDay)
    (h : date.Before date' ∨ date = date' ∧ time / 1000000 < time' / 1000000) (left right : List Char) :
    isoFormat date time ++ left < isoFormat date' time' ++ right := by
  have inDay : time < 86400000000 := inDay
  have inDay' : time' < 86400000000 := inDay'
  have month := valid.month
  have month' := valid'.month
  have day := valid.day.2.trans (daysInMonth_le month.2)
  have day' := valid'.day.2.trans (daysInMonth_le month'.2)
  have same (c : Char) {xs ys : List Char} (less : xs < ys) : c :: xs < c :: ys :=
    List.cons_lt_cons_iff.mpr (.inr ⟨rfl, less⟩)
  simp only [isoFormat, List.append_assoc, List.cons_append]
  rcases h with (years | ⟨years, months | ⟨months, days⟩⟩) | ⟨dates, seconds⟩
  · exact digits_append_lt (by omega) _ _
  · rw [years]
    exact List.append_left_lt (same _ (digits_append_lt (by omega) _ _))
  · rw [years, months]
    exact List.append_left_lt (same _ (List.append_left_lt (same _ (digits_append_lt (by omega) _ _))))
  · rw [dates]
    refine List.append_left_lt (same _ (List.append_left_lt (same _ (List.append_left_lt (same _ ?_)))))
    have minutes (t : Nat) : t / 60000000 = t / 1000000 / 60 := by rw [Nat.div_div_eq_div_mul]
    have hours (t : Nat) : t / 3600000000 = t / 1000000 / 60 / 60 := by
      rw [Nat.div_div_eq_div_mul, Nat.div_div_eq_div_mul]
    rw [minutes, minutes, hours, hours]
    have early : time / 1000000 < 86400 := by omega
    have early' : time' / 1000000 < 86400 := by omega
    generalize time / 1000000 = s at *
    generalize time' / 1000000 = s' at *
    have parts : s / 60 / 60 < s' / 60 / 60 ∨ s / 60 / 60 = s' / 60 / 60 ∧
        (s / 60 % 60 < s' / 60 % 60 ∨ s / 60 % 60 = s' / 60 % 60 ∧ s % 60 < s' % 60) := by omega
    rcases parts with hour | ⟨hour, minute | ⟨minute, second⟩⟩
    · exact digits_append_lt (by omega) _ _
    · rw [hour]
      exact List.append_left_lt (same _ (digits_append_lt (by omega) _ _))
    · rw [hour, minute]
      exact List.append_left_lt (same _ (List.append_left_lt (same _ (digits_append_lt (by omega) _ _))))

/-- Within a second the text without a fraction is the last one: `Z` follows the dot. -/
theorem formatFraction_append_lt {micros micros' : Nat} (small : micros < 1000000) (small' : micros' < 1000000)
    (fraction : micros ≠ 0) (h : micros' = 0 ∨ micros < micros') :
    formatFraction micros ++ ['Z'] < formatFraction micros' ++ ['Z'] := by
  unfold formatFraction
  rw [if_neg fraction]
  by_cases whole : micros' = 0
  · rw [if_pos whole]
    exact List.cons_lt_cons_iff.mpr (.inl (by decide))
  · rw [if_neg whole]
    have less : micros < micros' := h.resolve_left whole
    exact List.cons_lt_cons_iff.mpr (.inr ⟨rfl, digits_append_lt (by omega) _ _⟩)

/-- Where the text of an instant sorts: a whole second comes after every fraction of it. -/
def writtenInstant (instant : Int) : Int := if instant % 1000000 = 0 then instant + 1000000 else instant

/-- The text of an instant that is written later is later. -/
theorem formatTimestamp_lt {a b : Int} (ha : IsInstant a) (hb : IsInstant b)
    (h : writtenInstant a < writtenInstant b) : formatTimestamp a < formatTimestamp b := by
  obtain ⟨m, hm⟩ : ∃ m, m = (a + epochOffset).toNat := ⟨_, rfl⟩
  obtain ⟨n, hn⟩ : ∃ n, n = (b + epochOffset).toNat := ⟨_, rfl⟩
  have rangeM : (m : Int) = a + 62135596800000000 ∧ m < 3652059 * 86400000000 := by
    unfold IsInstant epochOffset microsPerDay at ha
    unfold epochOffset at hm
    omega
  have rangeN : (n : Int) = b + 62135596800000000 ∧ n < 3652059 * 86400000000 := by
    unfold IsInstant epochOffset microsPerDay at hb
    unfold epochOffset at hn
    omega
  have order : m / 1000000 < n / 1000000 ∨ m / 1000000 = n / 1000000 ∧ m % 1000000 ≠ 0 ∧
      (n % 1000000 = 0 ∨ m % 1000000 < n % 1000000) := by
    unfold writtenInstant at h
    split at h <;> split at h <;> omega
  have earlyM : m / microsPerDay < 3652059 := by unfold microsPerDay; omega
  have earlyN : n / microsPerDay < 3652059 := by unfold microsPerDay; omega
  have inDay (k : Nat) : k % microsPerDay < microsPerDay := Nat.mod_lt _ (by simp [microsPerDay])
  rw [String.lt_iff_toList_lt, formatTimestamp, formatTimestamp, String.toList_ofList, String.toList_ofList,
    ← hm, ← hn]
  rcases order with seconds | ⟨seconds, fraction, later⟩
  · have dates : (ofDays (m / microsPerDay)).Before (ofDays (n / microsPerDay)) ∨
        ofDays (m / microsPerDay) = ofDays (n / microsPerDay) ∧
          m % microsPerDay / 1000000 < n % microsPerDay / 1000000 := by
      by_cases days : m / microsPerDay < n / microsPerDay
      · exact .inl (ofDays_before days)
      · have equal : m / microsPerDay = n / microsPerDay := by
          unfold microsPerDay at days ⊢
          omega
        refine .inr ⟨congrArg ofDays equal, ?_⟩
        unfold microsPerDay at equal ⊢
        omega
    exact isoFormat_append_lt (ofDays_valid _) (ofDays_valid _) (ofDays_year earlyM) (ofDays_year earlyN)
      (inDay m) (inDay n) dates _ _
  · have days : m / microsPerDay = n / microsPerDay := by unfold microsPerDay; omega
    have times (unit : Nat) (divides : 1000000 ∣ unit) : m % microsPerDay / unit = n % microsPerDay / unit := by
      obtain ⟨k, rfl⟩ := divides
      rw [← Nat.div_div_eq_div_mul, ← Nat.div_div_eq_div_mul]
      congr 1
      unfold microsPerDay
      omega
    have rest (k : Nat) : k % microsPerDay % 1000000 = k % 1000000 := by unfold microsPerDay; omega
    simp only [isoFormat, List.append_assoc, List.cons_append, days, times 3600000000 ⟨3600, rfl⟩,
      times 60000000 ⟨60, rfl⟩, times 1000000 ⟨1, rfl⟩, rest]
    have bound (k : Nat) : k % 1000000 < 1000000 := Nat.mod_lt _ (by omega)
    have fractions := formatFraction_append_lt (bound m) (bound n) fraction later
    have same (c : Char) {xs ys : List Char} (less : xs < ys) : c :: xs < c :: ys :=
      List.cons_lt_cons_iff.mpr (.inr ⟨rfl, less⟩)
    exact List.append_left_lt (same _ (List.append_left_lt (same _ (List.append_left_lt (same _
      (List.append_left_lt (same _ (List.append_left_lt (same _ (List.append_left_lt fractions))))))))))

end SprintTicket
