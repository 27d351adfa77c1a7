import HostedFacilitator.Lib.FixedWidth
import Mathlib.Data.String.Basic

/-!
# Points in time as texts

`datetime.isoformat()` of a time in UTC, given in microseconds since the epoch: the date in the Gregorian calendar, the
time of the day, and the microseconds unless there are none. A `datetime` lies in the years 1 to 9999 (`IsDatetime`), and
there the order of the texts is the order of the times (`serializeDatetime_le`).
-/

namespace HostedFacilitator

open Decimal (lastDigits length_lastDigits)
open FixedWidth

/-- `datetime.min` and `datetime.max` are the bounds. -/
def IsDatetime (i : Int) : Prop := -62135596800000000 ≤ i ∧ i ≤ 253402300799999999

instance (i : Int) : Decidable (IsDatetime i) := inferInstanceAs (Decidable (_ ∧ _))

/-! ## The calendar -/

/-- The days before the year `y + 1`, from the first day of the year 1. -/
def daysBefore (y : Nat) : Nat := 365 * y + y / 4 - y / 100 + y / 400

/-- The years before the one that day `n` is in, by cycles of 400, 100, 4 and 1. -/
def yearsBefore (n : Nat) : Nat :=
  let centuries := min (n % 146097 / 36524) 3
  let rest := n % 146097 - 36524 * centuries
  400 * (n / 146097) + 100 * centuries + 4 * (rest / 1461) + min (rest % 1461 / 365) 3

def isLeap (year : Nat) : Bool := year % 4 = 0 && (year % 100 ≠ 0 || year % 400 = 0)

def monthLengths (year : Nat) : List Nat :=
  [31, if isLeap year then 29 else 28, 31, 30, 31, 30, 31, 31, 30, 31, 30, 31]

/-- The month that a day of the year is in, and the day of that month, both counted from zero. -/
def splitMonth : List Nat → Nat → Nat × Nat
  | [], d => (0, d)
  | length :: rest, d =>
    if d < length then (0, d)
    else ((splitMonth rest (d - length)).1 + 1, (splitMonth rest (d - length)).2)

/-- The days of whole cycles. -/
theorem daysBefore_cycles {a b c d : Nat} (hb : b ≤ 3) (hc : c ≤ 24) (hd : d ≤ 3) :
    daysBefore (400 * a + 100 * b + 4 * c + d) = 146097 * a + 36524 * b + 1461 * c + 365 * d := by
  have h4 : (400 * a + 100 * b + 4 * c + d) / 4 = 100 * a + 25 * b + c := by omega
  have h100 : (400 * a + 100 * b + 4 * c + d) / 100 = 4 * a + b := by omega
  have h400 : (400 * a + 100 * b + 4 * c + d) / 400 = a := by omega
  rw [daysBefore, h4, h100, h400]
  omega

theorem daysBefore_succ (y : Nat) : daysBefore y ≤ daysBefore (y + 1) := by
  have hsmall : y / 100 ≤ y / 4 := Nat.div_le_div_left (by omega) (by omega)
  simp only [daysBefore]
  omega

theorem daysBefore_mono {y y' : Nat} (h : y ≤ y') : daysBefore y ≤ daysBefore y' :=
  monotone_nat_of_le_succ daysBefore_succ h

/-- The cycles that a day is in. -/
theorem yearsBefore_cycles (n : Nat) : ∃ a b c d, b ≤ 3 ∧ c ≤ 24 ∧ d ≤ 3 ∧
    yearsBefore n = 400 * a + 100 * b + 4 * c + d ∧ 146097 * a + 36524 * b + 1461 * c + 365 * d ≤ n ∧
    (d < 3 → n < 146097 * a + 36524 * b + 1461 * c + 365 * (d + 1)) ∧
    (c < 24 → n < 146097 * a + 36524 * b + 1461 * (c + 1)) ∧ (b < 3 → n < 146097 * a + 36524 * (b + 1)) ∧
    n < 146097 * (a + 1) := by
  obtain ⟨b, hb⟩ : ∃ b, b = min (n % 146097 / 36524) 3 := ⟨_, rfl⟩
  obtain ⟨rest, hrest⟩ : ∃ rest, rest = n % 146097 - 36524 * b := ⟨_, rfl⟩
  obtain ⟨d, hd⟩ : ∃ d, d = min (rest % 1461 / 365) 3 := ⟨_, rfl⟩
  have hn : n % 146097 = 36524 * b + rest ∧ rest ≤ 36524 ∧ (b < 3 → rest < 36524) := by omega
  have hyears : yearsBefore n = 400 * (n / 146097) + 100 * b + 4 * (rest / 1461) + d := by
    subst hd hrest hb
    rfl
  refine ⟨n / 146097, b, rest / 1461, d, ?_, ?_, ?_, hyears, ?_, ?_, ?_, ?_, ?_⟩
  all_goals omega

/-- The day `n` is one of the year. -/
theorem daysBefore_yearsBefore (n : Nat) :
    daysBefore (yearsBefore n) ≤ n ∧ n < daysBefore (yearsBefore n + 1) := by
  obtain ⟨a, b, c, d, hb, hc, hd, hyears, hlow, hhigh⟩ := yearsBefore_cycles n
  rw [hyears]
  refine ⟨by rw [daysBefore_cycles hb hc hd]; exact hlow, ?_⟩
  -- the next year begins a new cycle where this one was the last of its cycle
  by_cases hd' : d < 3
  · have hnext : 400 * a + 100 * b + 4 * c + d + 1 = 400 * a + 100 * b + 4 * c + (d + 1) := by omega
    have hdays := daysBefore_cycles (a := a) (d := d + 1) hb hc (by omega)
    rw [hnext, hdays]
    omega
  · by_cases hc' : c < 24
    · have hnext : 400 * a + 100 * b + 4 * c + d + 1 = 400 * a + 100 * b + 4 * (c + 1) + 0 := by omega
      have hdays := daysBefore_cycles (a := a) (c := c + 1) (d := 0) hb (by omega) (by omega)
      rw [hnext, hdays]
      omega
    · by_cases hb' : b < 3
      · have hnext : 400 * a + 100 * b + 4 * c + d + 1 = 400 * a + 100 * (b + 1) + 4 * 0 + 0 := by omega
        have hdays := daysBefore_cycles (a := a) (b := b + 1) (c := 0) (d := 0) (by omega) (by omega) (by omega)
        rw [hnext, hdays]
        omega
      · have hnext : 400 * a + 100 * b + 4 * c + d + 1 = 400 * (a + 1) + 100 * 0 + 4 * 0 + 0 := by omega
        have hdays := daysBefore_cycles (a := a + 1) (b := 0) (c := 0) (d := 0) (by omega) (by omega) (by omega)
        rw [hnext, hdays]
        omega

/-- A later day is in a later year, or later in the same one. -/
theorem yearsBefore_mono {n n' : Nat} (h : n < n') : yearsBefore n ≤ yearsBefore n' := by
  by_contra hlt
  have hle : daysBefore (yearsBefore n' + 1) ≤ daysBefore (yearsBefore n) := daysBefore_mono (by omega)
  have hn := (daysBefore_yearsBefore n).1
  have hn' := (daysBefore_yearsBefore n').2
  omega

theorem dayOfYear_lt (n : Nat) :
    n - daysBefore (yearsBefore n) < (monthLengths (yearsBefore n + 1)).sum := by
  obtain ⟨hle, hlt⟩ := daysBefore_yearsBefore n
  generalize yearsBefore n = y at hle hlt ⊢
  have hsum : (monthLengths (y + 1)).sum = if isLeap (y + 1) then 366 else 365 := by
    cases hleap : isLeap (y + 1) <;> simp [monthLengths, hleap]
  rw [hsum]
  simp only [isLeap, daysBefore, Bool.and_eq_true, Bool.or_eq_true, decide_eq_true_eq] at *
  split <;> omega

theorem splitMonth_lt {lengths : List Nat} {d k : Nat} (hd : d < lengths.sum) (hk : ∀ l ∈ lengths, l ≤ k) :
    (splitMonth lengths d).1 < lengths.length ∧ (splitMonth lengths d).2 < k := by
  induction lengths generalizing d with
  | nil => cases hd
  | cons l lengths ih =>
    rw [List.sum_cons] at hd
    have hl := hk l List.mem_cons_self
    rw [splitMonth]
    split
    · exact ⟨Nat.succ_pos _, by omega⟩
    · have := ih (d := d - l) (by omega) fun l' hl' => hk l' (List.mem_cons_of_mem _ hl')
      rw [List.length_cons]
      omega

/-- A later day of the year is in a later month, or later in the same one. -/
theorem splitMonth_mono (lengths : List Nat) {d d' : Nat} (h : d < d') :
    (splitMonth lengths d).1 < (splitMonth lengths d').1 ∨
      (splitMonth lengths d).1 = (splitMonth lengths d').1 ∧ (splitMonth lengths d).2 < (splitMonth lengths d').2 := by
  induction lengths generalizing d d' with
  | nil => exact .inr ⟨rfl, h⟩
  | cons l lengths ih =>
    rw [splitMonth, splitMonth]
    by_cases hd' : d' < l
    · have hd : d < l := by omega
      rw [if_pos hd, if_pos hd']
      exact .inr ⟨rfl, h⟩
    · by_cases hd : d < l
      · rw [if_pos hd, if_neg hd']
        exact .inl (Nat.succ_pos _)
      · simp only [if_neg hd, if_neg hd']
        have hless : d - l < d' - l := by omega
        have := ih hless
        omega

theorem splitMonth_eq (lengths : List Nat) (d : Nat) :
    (lengths.take (splitMonth lengths d).1).sum + (splitMonth lengths d).2 = d := by
  induction lengths generalizing d with
  | nil => exact Nat.zero_add d
  | cons l lengths ih =>
    rw [splitMonth]
    split
    · exact Nat.zero_add d
    · have := ih (d - l)
      rw [List.take_succ_cons, List.sum_cons]
      omega

/-- The day is one of its month. -/
theorem splitMonth_day_lt {lengths : List Nat} {d : Nat} (hd : d < lengths.sum) :
    (splitMonth lengths d).2 < lengths.getD (splitMonth lengths d).1 0 := by
  induction lengths generalizing d with
  | nil => cases hd
  | cons l lengths ih =>
    rw [List.sum_cons] at hd
    rw [splitMonth]
    split
    · assumption
    · exact ih (by omega)

/-- The last day of the year 9999 is the bound. -/
theorem yearsBefore_lt {n : Nat} (h : n < 3652059) : yearsBefore n < 9999 := by
  by_contra hlt
  have hle : daysBefore 9999 ≤ daysBefore (yearsBefore n) := daysBefore_mono (by omega)
  have hday := (daysBefore_yearsBefore n).1
  have hlast : daysBefore 9999 = 3652059 := by decide
  omega

/-- The month and the day of a date fit their fields. -/
theorem splitMonth_bounds (n : Nat) :
    (splitMonth (monthLengths (yearsBefore n + 1)) (n - daysBefore (yearsBefore n))).1 < 12 ∧
      (splitMonth (monthLengths (yearsBefore n + 1)) (n - daysBefore (yearsBefore n))).2 < 31 := by
  refine splitMonth_lt (dayOfYear_lt n) fun l hl => ?_
  simp only [monthLengths, List.mem_cons, List.not_mem_nil, or_false] at hl
  have : (if isLeap (yearsBefore n + 1) then 29 else 28) ≤ 31 := by split <;> omega
  omega

/-! ## The text -/

/-- `YYYY-MM-DD`. -/
def dateText (n : Nat) : List Char :=
  let year := yearsBefore n + 1
  let split := splitMonth (monthLengths year) (n - daysBefore (yearsBefore n))
  lastDigits 4 year ++ '-' :: (lastDigits 2 (split.1 + 1) ++ '-' :: lastDigits 2 (split.2 + 1))

/-- `.ffffff`, and the offset. -/
def fractionText (microsecond : Nat) : List Char :=
  (if microsecond = 0 then [] else '.' :: lastDigits 6 microsecond) ++ ['+', '0', '0', ':', '0', '0']

/-- `HH:MM:SS` and what follows. -/
def clockText (t : Nat) : List Char :=
  lastDigits 2 (t / 3600000000) ++ ':' ::
    (lastDigits 2 (t / 60000000 % 60) ++ ':' :: (lastDigits 2 (t / 1000000 % 60) ++ fractionText (t % 1000000)))

/-- `value.astimezone(timezone.utc).isoformat()`. -/
def isoformat (i : Int) : String :=
  String.ofList (dateText (i / 86400000000 + 719162).toNat ++ 'T' :: clockText (i % 86400000000).toNat)

/-- `_serialize_datetime`. -/
def serializeDatetime (value : Int) : String := isoformat value

theorem length_dateText (n : Nat) : (dateText n).length = 10 := by
  simp [dateText, length_lastDigits]

theorem cons_lt_cons {c : Char} {s t : List Char} (h : s < t) : c :: s < c :: t :=
  List.cons_lt_cons_iff.mpr (.inr ⟨rfl, h⟩)

theorem dateText_lt {n n' : Nat} (h : n < n') (hn' : n' < 3652059) : dateText n < dateText n' := by
  have hyear := yearsBefore_lt hn'
  refine field_lt (by omega) ?_
  rcases Nat.lt_or_eq_of_le (yearsBefore_mono h) with hlt | heq
  · exact .inl (by omega)
  · have hbound := splitMonth_bounds n'
    have hstart := (daysBefore_yearsBefore n).1
    rw [heq] at hstart ⊢
    refine .inr ⟨rfl, cons_lt_cons (field_lt (by omega) ?_)⟩
    have hday : n - daysBefore (yearsBefore n') < n' - daysBefore (yearsBefore n') := by omega
    rcases splitMonth_mono (monthLengths (yearsBefore n' + 1)) hday with hmonth | ⟨hmonth, hday⟩
    · exact .inl (by omega)
    · exact .inr ⟨by omega, cons_lt_cons (lastDigits_lt (by omega) (by omega))⟩

theorem fractionText_lt {m n : Nat} (h : m < n) (hn : n < 1000000) : fractionText m < fractionText n := by
  rw [fractionText, fractionText, if_neg (show n ≠ 0 by omega)]
  split
  · exact List.cons_lt_cons_iff.mpr (.inl (by decide))
  · exact cons_lt_cons (append_lt (lastDigits_lt h hn) (by rw [length_lastDigits, length_lastDigits]) _ _)

theorem clockText_lt {t t' : Nat} (h : t < t') (ht' : t' < 86400000000) : clockText t < clockText t' := by
  refine field_lt (by omega) ?_
  rcases Nat.lt_or_eq_of_le (Nat.div_le_div_right (c := 3600000000) h.le) with hlt | hhour
  · exact .inl hlt
  · refine .inr ⟨hhour, cons_lt_cons (field_lt (by omega) ?_)⟩
    rcases Nat.lt_trichotomy (t / 60000000 % 60) (t' / 60000000 % 60) with hlt | hminute | hgt
    · exact .inl hlt
    · refine .inr ⟨hminute, cons_lt_cons (field_lt (by omega) ?_)⟩
      rcases Nat.lt_trichotomy (t / 1000000 % 60) (t' / 1000000 % 60) with hlt | hsecond | hgt
      · exact .inl hlt
      · exact .inr ⟨hsecond, fractionText_lt (by omega) (by omega)⟩
      · omega
    · omega

/-- An earlier time has a smaller text. -/
theorem serializeDatetime_lt {i j : Int} (hi : IsDatetime i) (hj : IsDatetime j) (h : i < j) :
    serializeDatetime i < serializeDatetime j := by
  obtain ⟨hmin, -⟩ := hi
  obtain ⟨-, hmax⟩ := hj
  rw [String.lt_iff_toList_lt, serializeDatetime, serializeDatetime, isoformat, isoformat, String.toList_ofList,
    String.toList_ofList]
  by_cases hday : i / 86400000000 < j / 86400000000
  · exact append_lt (dateText_lt (by omega) (by omega)) (by rw [length_dateText, length_dateText]) _ _
  · have heq : i / 86400000000 = j / 86400000000 := by omega
    refine append_lt_of_eq (by rw [heq]) (cons_lt_cons (clockText_lt ?_ ?_))
    · omega
    · omega

/-- The order of the texts is the order of the times. -/
theorem serializeDatetime_le {i j : Int} (hi : IsDatetime i) (hj : IsDatetime j) :
    serializeDatetime i ≤ serializeDatetime j ↔ i ≤ j := by
  constructor
  · intro h
    by_contra hlt
    exact absurd (serializeDatetime_lt hj hi (by omega)) (not_lt.mpr h)
  · intro h
    rcases eq_or_lt_of_le h with rfl | hlt
    · exact le_rfl
    · exact (serializeDatetime_lt hi hj hlt).le

theorem serializeDatetime_inj {i j : Int} (hi : IsDatetime i) (hj : IsDatetime j) :
    serializeDatetime i = serializeDatetime j ↔ i = j := by
  rw [le_antisymm_iff, serializeDatetime_le hi hj, serializeDatetime_le hj hi, ← le_antisymm_iff]

example : serializeDatetime 1709210096000001 = "2024-02-29T12:34:56.000001+00:00" := by decide +kernel

end HostedFacilitator
