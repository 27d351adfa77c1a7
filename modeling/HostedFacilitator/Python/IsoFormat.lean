import HostedFacilitator.Python.Datetime
import HostedFacilitator.Python.Literals

/-!
# Reading points in time

`datetime.fromisoformat()` on the format that every supported Python reads,
`YYYY-MM-DD[*HH[:MM[:SS[.fff[fff]]]][+HH:MM[:SS[.ffffff]]]]` with any character for the star. It reads the text of a time
in UTC back as that time (`fromisoformat_isoformat`).
-/

namespace HostedFacilitator

open Decimal (lastDigits length_lastDigits isDigit_of_mem_lastDigits)

/-! ## Values -/

/-- A `datetime` with a time zone: the microseconds that its fields are from the first of January 1970, and `utcoffset()`
in microseconds. -/
structure AwareDatetime where
  fields : Int
  utcoffset : Int
  fields_range : IsDatetime fields
  utcoffset_range : -86400000000 < utcoffset ∧ utcoffset < 86400000000

/-- The point in time, in microseconds since the epoch. -/
def AwareDatetime.instant (value : AwareDatetime) : Int := value.fields - value.utcoffset

theorem utc_range : -86400000000 < (0 : Int) ∧ (0 : Int) < 86400000000 := by decide

/-- `value.astimezone(timezone.utc)`; outside of the years 1 to 9999 it raises `OverflowError`. -/
def AwareDatetime.astimezoneUtc (value : AwareDatetime) : Option AwareDatetime :=
  if h : IsDatetime value.instant then some ⟨value.instant, 0, h, utc_range⟩ else none

/-- What `fromisoformat` returns; without a time zone the `datetime` is no point in time. -/
inductive PyDatetime where
  | naive (fields : {i // IsDatetime i})
  | aware (value : AwareDatetime)

/-- The point in time, where there is one. -/
def PyDatetime.instant : PyDatetime → Option Int
  | .naive _ => none
  | .aware value => some value.instant

/-- The constructor, for fields of a date that exists. -/
def PyDatetime.make (fields : Int) (utcoffset : Option Int) : Option PyDatetime :=
  if h : IsDatetime fields then
    match utcoffset with
    | none => some (.naive ⟨fields, h⟩)
    | some offset =>
      if hoffset : -86400000000 < offset ∧ offset < 86400000000 then some (.aware ⟨fields, offset, h, hoffset⟩) else none
  else none

/-! ## The reader -/

/-- `count` digits, and the text behind them. -/
def parseDigits (count : Nat) (s : List Char) : Option (Nat × List Char) :=
  if s.length < count then none else (digitsValue 0 (s.take count)).map fun n => (n, s.drop count)

/-- `separator` and two digits; where the text ends the field is zero. -/
def parseField (separator : Char) (s : List Char) : Option (Nat × List Char) :=
  match s with
  | [] => some (0, [])
  | c :: rest => if c = separator then parseDigits 2 rest else none

/-- `[.fff[fff]]`, in microseconds. -/
def parseFraction (s : List Char) : Option Nat :=
  match s with
  | [] => some 0
  | c :: digits =>
    if c ≠ '.' then none
    else if digits.length = 6 then digitsValue 0 digits
    else if digits.length = 3 then (digitsValue 0 digits).map fun n => 1000 * n
    else none

structure ClockFields where
  hour : Nat
  minute : Nat
  second : Nat
  microsecond : Nat

namespace ClockFields

def midnight : ClockFields := ⟨0, 0, 0, 0⟩

def Valid (t : ClockFields) : Prop := t.hour < 24 ∧ t.minute < 60 ∧ t.second < 60

instance decidableValid (t : ClockFields) : Decidable t.Valid := inferInstanceAs (Decidable (_ ∧ _))

def microseconds (t : ClockFields) : Nat := ((t.hour * 60 + t.minute) * 60 + t.second) * 1000000 + t.microsecond

end ClockFields

/-- `HH[:MM[:SS[.fff[fff]]]]`. -/
def parseClock (s : List Char) : Option ClockFields := do
  let (hour, s) ← parseDigits 2 s
  let (minute, s) ← parseField ':' s
  let (second, s) ← parseField ':' s
  let microsecond ← parseFraction s
  return ⟨hour, minute, second, microsecond⟩

/-- `HH:MM[:SS[.ffffff]]` behind a sign. -/
def parseOffset (sign : Char) (s : List Char) : Option Int :=
  if s.length = 5 ∨ s.length = 8 ∨ s.length = 15 then
    (parseClock s).map fun t => if sign = '-' then -(t.microseconds : Int) else t.microseconds
  else none

def isSign (c : Char) : Bool := c = '+' || c = '-'

/-- The time of the day and the offset. -/
def parseTime (s : List Char) : Option (ClockFields × Option Int) := do
  let time ← parseClock (s.takeWhile fun c => !isSign c)
  match s.dropWhile fun c => !isSign c with
  | [] => return (time, none)
  | sign :: zone =>
    let offset ← parseOffset sign zone
    return (time, some offset)

/-- The number of a day of the calendar, from the first day of the year 1. -/
def dayNumber (year month day : Nat) : Option Nat :=
  let before := (monthLengths year).take (month - 1)
  let length := (monthLengths year).getD (month - 1) 0
  if 1 ≤ year ∧ 1 ≤ month ∧ month ≤ 12 ∧ 1 ≤ day ∧ day ≤ length then
    some (daysBefore (year - 1) + before.sum + (day - 1))
  else none

/-- `YYYY-MM-DD`. -/
def parseDate (s : List Char) : Option Nat := do
  let (year, s) ← parseDigits 4 s
  let (month, s) ← parseField '-' s
  let (day, _) ← parseField '-' s
  dayNumber year month day

/-- `datetime.fromisoformat(value)`; `none` where it raises `ValueError`. -/
def fromisoformat (value : String) : Option PyDatetime := do
  let s := value.toList
  let day ← parseDate (s.take 10)
  let (time, offset) ← if s.length ≤ 10 then some (.midnight, none) else parseTime (s.drop 11)
  if time.Valid then PyDatetime.make (((day : Int) - 719162) * 86400000000 + time.microseconds) offset else none

/-! ## Reading what was written -/

/-- A field of digits read back, in front of the rest of a number. -/
theorem digitsValue_lastDigits (w acc n : Nat) (rest : List Char) :
    digitsValue acc (lastDigits w n ++ rest) = digitsValue (10 ^ w * acc + n % 10 ^ w) rest := by
  induction w generalizing n rest with
  | zero =>
    rw [pow_zero, Nat.mod_one, Nat.one_mul]
    rfl
  | succ w ih =>
    have hdigit : (n % 10).digitChar.isDigit = true :=
      isDigit_of_mem_lastDigits (k := 1) (n := n) (List.mem_singleton.mpr rfl)
    have hlast : (n % 10).digitChar.toNat = 48 + n % 10 := Nat.toNat_digitChar_of_lt_ten (by omega)
    have hpow : 10 ^ (w + 1) = 10 * 10 ^ w := by rw [pow_succ, Nat.mul_comm]
    rw [lastDigits, List.append_assoc, ih, List.singleton_append, digitsValue_digit hdigit, hlast,
      Nat.add_sub_cancel_left, hpow, Nat.mod_mul]
    congr 1
    ring

theorem digitsValue_field {w n : Nat} (h : n < 10 ^ w) : digitsValue 0 (lastDigits w n) = some n := by
  have hvalue := digitsValue_lastDigits w 0 n []
  rwa [List.append_nil, Nat.mul_zero, Nat.zero_add, Nat.mod_eq_of_lt h] at hvalue

theorem parseDigits_lastDigits {w n : Nat} (h : n < 10 ^ w) (rest : List Char) :
    parseDigits w (lastDigits w n ++ rest) = some (n, rest) := by
  have hlength : (lastDigits w n ++ rest).length = w + rest.length := by rw [List.length_append, length_lastDigits]
  rw [parseDigits, if_neg (by omega), List.take_left' (length_lastDigits w n), List.drop_left' (length_lastDigits w n),
    digitsValue_field h, Option.map_some]

theorem parseField_cons {n : Nat} (separator : Char) (h : n < 100) (rest : List Char) :
    parseField separator (separator :: (lastDigits 2 n ++ rest)) = some (n, rest) := by
  rw [parseField, if_pos rfl, parseDigits_lastDigits h]

/-- Month and day are counted from one. -/
theorem dayNumber_eq (n : Nat) :
    dayNumber (yearsBefore n + 1) ((splitMonth (monthLengths (yearsBefore n + 1)) (n - daysBefore (yearsBefore n))).1 + 1)
      ((splitMonth (monthLengths (yearsBefore n + 1)) (n - daysBefore (yearsBefore n))).2 + 1) = some n := by
  have hday := splitMonth_day_lt (dayOfYear_lt n)
  have hsum := splitMonth_eq (monthLengths (yearsBefore n + 1)) (n - daysBefore (yearsBefore n))
  have hbounds := splitMonth_bounds n
  have hstart := (daysBefore_yearsBefore n).1
  simp only [dayNumber, Nat.add_sub_cancel]
  rw [if_pos ⟨by omega, by omega, by omega, by omega, hday⟩]
  congr 1
  omega

theorem parseDate_dateText {n : Nat} (h : n < 3652059) : parseDate (dateText n) = some n := by
  have hyear := yearsBefore_lt h
  obtain ⟨hmonth, hday⟩ := splitMonth_bounds n
  have hlast := parseField_cons '-' (n := (splitMonth (monthLengths (yearsBefore n + 1))
    (n - daysBefore (yearsBefore n))).2 + 1) (by omega) []
  rw [List.append_nil] at hlast
  simp only [parseDate, dateText]
  rw [parseDigits_lastDigits (by omega)]
  simp only [Option.bind_eq_bind, Option.bind_some]
  rw [parseField_cons '-' (by omega)]
  simp only [Option.bind_some, hlast]
  exact dayNumber_eq n

/-- The digits of `fractionText`. -/
def fractionDigits (microsecond : Nat) : List Char := if microsecond = 0 then [] else '.' :: lastDigits 6 microsecond

theorem parseFraction_digits {n : Nat} (h : n < 1000000) : parseFraction (fractionDigits n) = some n := by
  rw [fractionDigits]
  split
  · subst n
    rfl
  · have hvalue := digitsValue_field (w := 6) h
    simp only [parseFraction, ne_eq, not_true_eq_false, if_false, length_lastDigits, if_true, hvalue]

/-- The time of the day without the offset. -/
def clockDigits (t : Nat) : List Char :=
  lastDigits 2 (t / 3600000000) ++ ':' :: (lastDigits 2 (t / 60000000 % 60) ++
    ':' :: (lastDigits 2 (t / 1000000 % 60) ++ fractionDigits (t % 1000000)))

theorem clockText_eq (t : Nat) : clockText t = clockDigits t ++ '+' :: ['0', '0', ':', '0', '0'] := by
  simp only [clockText, clockDigits, fractionText, fractionDigits, List.append_assoc, List.cons_append]

theorem isSign_digit {c : Char} (h : c.isDigit = true) : isSign c = false := by
  by_contra hsign
  simp only [isSign, Bool.not_eq_false, Bool.or_eq_true, decide_eq_true_eq] at hsign
  rcases hsign with rfl | rfl <;> exact absurd h (by decide)

theorem clockDigits_not_sign {t : Nat} {c : Char} (h : c ∈ clockDigits t) : (!isSign c) = true := by
  have hdigit : ∀ w n, c ∈ lastDigits w n → (!isSign c) = true := fun w n hc => by
    rw [isSign_digit (isDigit_of_mem_lastDigits hc)]
    rfl
  simp only [clockDigits, fractionDigits, List.mem_append, List.mem_cons] at h
  rcases h with h | rfl | h | rfl | h | h
  · exact hdigit _ _ h
  · rfl
  · exact hdigit _ _ h
  · rfl
  · exact hdigit _ _ h
  · split at h
    · cases h
    · rcases List.mem_cons.mp h with rfl | h
      · rfl
      · exact hdigit _ _ h

/-- The fields of a time of the day. -/
def ClockFields.ofMicroseconds (t : Nat) : ClockFields :=
  ⟨t / 3600000000, t / 60000000 % 60, t / 1000000 % 60, t % 1000000⟩

namespace ClockFields

theorem ofMicroseconds_valid {t : Nat} (h : t < 86400000000) : (ofMicroseconds t).Valid := by
  refine ⟨?_, ?_, ?_⟩ <;> simp only [ofMicroseconds] <;> omega

theorem microseconds_ofMicroseconds (t : Nat) : (ofMicroseconds t).microseconds = t := by
  simp only [ofMicroseconds, microseconds]
  omega

end ClockFields

theorem parseClock_digits {t : Nat} (h : t < 86400000000) :
    parseClock (clockDigits t) = some (.ofMicroseconds t) := by
  simp only [parseClock, clockDigits]
  rw [parseDigits_lastDigits (by omega)]
  simp only [Option.bind_eq_bind, Option.bind_some]
  rw [parseField_cons ':' (by omega)]
  simp only [Option.bind_some]
  rw [parseField_cons ':' (by omega)]
  simp only [Option.bind_some]
  rw [parseFraction_digits (by omega)]
  rfl

theorem parseTime_clockText {t : Nat} (h : t < 86400000000) :
    parseTime (clockText t) = some (.ofMicroseconds t, some 0) := by
  have htake : (clockText t).takeWhile (fun c => !isSign c) = clockDigits t := by
    rw [clockText_eq, List.takeWhile_append_of_pos fun c hc => clockDigits_not_sign hc,
      List.takeWhile_cons_of_neg (by decide), List.append_nil]
  have hdrop : (clockText t).dropWhile (fun c => !isSign c) = '+' :: ['0', '0', ':', '0', '0'] := by
    rw [clockText_eq, List.dropWhile_append_of_pos fun c hc => clockDigits_not_sign hc,
      List.dropWhile_cons_of_neg (by decide)]
  have hzone : parseOffset '+' ['0', '0', ':', '0', '0'] = some 0 := by decide
  simp only [parseTime, htake, hdrop, parseClock_digits h, hzone]
  rfl

/-- The text of a time in UTC is read back as that time in UTC. -/
theorem fromisoformat_isoformat {i : Int} (h : IsDatetime i) :
    fromisoformat (isoformat i) = some (.aware ⟨i, 0, h, utc_range⟩) := by
  obtain ⟨hmin, hmax⟩ := h
  obtain ⟨n, hn⟩ : ∃ n : Nat, (n : Int) = i / 86400000000 + 719162 := ⟨_, Int.toNat_of_nonneg (by omega)⟩
  obtain ⟨t, ht⟩ : ∃ t : Nat, (t : Int) = i % 86400000000 := ⟨_, Int.toNat_of_nonneg (by omega)⟩
  have hchars : (isoformat i).toList = dateText n ++ 'T' :: clockText t := by
    rw [isoformat, String.toList_ofList, ← hn, ← ht, Int.toNat_natCast, Int.toNat_natCast]
  have hlength := length_dateText n
  have hdate : (isoformat i).toList.take 10 = dateText n := by rw [hchars, List.take_left' hlength]
  have hclock : (isoformat i).toList.drop 11 = clockText t := by
    rw [hchars, show 11 = 10 + 1 from rfl, ← List.drop_drop, List.drop_left' hlength]
    rfl
  have hlong : ¬ (isoformat i).toList.length ≤ 10 := by
    rw [hchars, List.length_append, hlength, List.length_cons]
    omega
  have hfields : ((n : Int) - 719162) * 86400000000 + (ClockFields.ofMicroseconds t).microseconds = i := by
    rw [ClockFields.microseconds_ofMicroseconds, hn, ht]
    omega
  have hvalid : (ClockFields.ofMicroseconds t).Valid := ClockFields.ofMicroseconds_valid (by omega)
  simp only [fromisoformat, hdate, hclock, if_neg hlong]
  rw [parseDate_dateText (by omega), parseTime_clockText (by omega)]
  simp only [Option.bind_eq_bind, Option.bind_some, if_pos hvalid, hfields, PyDatetime.make]
  rw [dif_pos ⟨hmin, hmax⟩]
  rfl

example : (fromisoformat "2024-02-29T12:34:56.000001+01:30").bind PyDatetime.instant = some 1709204696000001 := by
  decide +kernel

end HostedFacilitator
