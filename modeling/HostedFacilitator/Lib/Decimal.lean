import Mathlib.Algebra.Order.Field.Rat
import Mathlib.Tactic.Linarith
import Mathlib.Tactic.NormNum
import Mathlib.Tactic.Positivity
import Mathlib.Tactic.Ring
import HostedFacilitator.Lib.Separator

/-!
# Decimal fractions

A decimal fraction `c · 10^e` has many spellings; the reduced one has no trailing zero in `c` (`reduce`), and there is
one reduced spelling of each value (`Reduced.value_inj`). Rounding to a number of significant digits goes from one
reduced spelling to another (`Reduced.round`). The plain notation writes all digits and no exponent, and tells different
signed fractions apart (`plain_inj`).
-/

namespace Decimal

/-- A decimal fraction without trailing zeros; zero has the exponent zero. -/
structure Reduced where
  coefficient : Nat
  exponent : Int
  reduced : (coefficient = 0 ∧ exponent = 0) ∨ coefficient % 10 ≠ 0
  deriving DecidableEq

/-- Strips trailing zeros, at most `fuel` of them. -/
def strip : Nat → Nat → Int → Nat × Int
  | 0, c, e => (c, e)
  | fuel + 1, c, e => if c % 10 = 0 then strip fuel (c / 10) (e + 1) else (c, e)

theorem strip_reduced {fuel c : Nat} (e : Int) (hc : 0 < c) (hfuel : c ≤ fuel) : (strip fuel c e).1 % 10 ≠ 0 := by
  induction fuel generalizing c e with
  | zero => omega
  | succ fuel ih =>
    rw [strip]
    split
    · exact ih (e + 1) (by omega) (by omega)
    · assumption

/-- The reduced spelling of `c · 10^e`. -/
def reduce (c : Nat) (e : Int) : Reduced :=
  if h : 0 < c then ⟨(strip c c e).1, (strip c c e).2, .inr (strip_reduced e h le_rfl)⟩
  else ⟨0, 0, .inl ⟨rfl, rfl⟩⟩

namespace Reduced

def value (r : Reduced) : ℚ := r.coefficient * (10 : ℚ) ^ r.exponent

end Reduced

theorem strip_value (fuel c : Nat) (e : Int) :
    ((strip fuel c e).1 : ℚ) * (10 : ℚ) ^ (strip fuel c e).2 = c * (10 : ℚ) ^ e := by
  induction fuel generalizing c e with
  | zero => rfl
  | succ fuel ih =>
    rw [strip]
    split
    · rename_i hzero
      have hdiv : (c : ℚ) = (c / 10 : Nat) * 10 := by
        have : c = c / 10 * 10 := by omega
        exact_mod_cast this
      rw [ih, hdiv, zpow_add₀ (by norm_num), zpow_one]
      ring
    · simp only

/-- Reducing keeps the value. -/
theorem value_reduce (c : Nat) (e : Int) : (reduce c e).value = c * (10 : ℚ) ^ e := by
  unfold reduce
  split
  · exact strip_value c c e
  · rename_i h
    obtain rfl : c = 0 := by omega
    simp [Reduced.value]

namespace Reduced

variable {r r' : Reduced}

/-- The larger exponent of two spellings of one value cannot be larger. -/
theorem exponent_le (hc : r'.coefficient % 10 ≠ 0) (h : r.value = r'.value) : r.exponent ≤ r'.exponent := by
  by_contra hlt
  obtain ⟨k, hk⟩ : ∃ k : Nat, r.exponent = r'.exponent + (k + 1) := ⟨(r.exponent - r'.exponent - 1).toNat, by omega⟩
  have hpow : (10 : ℚ) ^ r'.exponent ≠ 0 := zpow_ne_zero _ (by norm_num)
  have hvalue : (r.coefficient : ℚ) * 10 ^ (k + 1) = r'.coefficient := by
    apply mul_right_cancel₀ hpow
    rw [← value, ← h, value, hk, zpow_add₀ (by norm_num), ← Nat.cast_succ, zpow_natCast]
    rw [Nat.succ_eq_add_one]
    ring
  have hnat : r.coefficient * 10 ^ (k + 1) = r'.coefficient := by exact_mod_cast hvalue
  rw [← hnat, pow_succ] at hc
  exact hc (by rw [← mul_assoc]; exact Nat.mul_mod_left _ _)

theorem value_eq_zero (h : r.value = 0) : r.coefficient = 0 := by
  rcases mul_eq_zero.mp h with hc | hp
  · exact_mod_cast hc
  · exact absurd hp (zpow_ne_zero _ (by norm_num))

theorem exponent_eq_zero (h : r.coefficient = 0) : r.exponent = 0 := by
  rcases r.reduced with ⟨-, he⟩ | hc
  · exact he
  · exact absurd (by rw [h]) hc

theorem eq_of_fields (hc : r.coefficient = r'.coefficient) (he : r.exponent = r'.exponent) : r = r' := by
  cases r
  cases r'
  simp_all

/-- **One spelling for each value.** -/
theorem value_inj : r.value = r'.value ↔ r = r' := by
  constructor
  · intro h
    by_cases hc : r.coefficient = 0
    · have hc' : r'.coefficient = 0 := value_eq_zero (by rw [← h, value, hc]; simp)
      exact eq_of_fields (hc.trans hc'.symm) ((exponent_eq_zero hc).trans (exponent_eq_zero hc').symm)
    · have hc' : r'.coefficient ≠ 0 := fun hc' => hc (value_eq_zero (by rw [h, value, hc']; simp))
      have hn : r.coefficient % 10 ≠ 0 := r.reduced.resolve_left fun hr => hc hr.1
      have hn' : r'.coefficient % 10 ≠ 0 := r'.reduced.resolve_left fun hr => hc' hr.1
      have he : r.exponent = r'.exponent := le_antisymm (exponent_le hn' h) (exponent_le hn h.symm)
      have hpow : (10 : ℚ) ^ r'.exponent ≠ 0 := zpow_ne_zero _ (by norm_num)
      have hcoeff : (r.coefficient : ℚ) = r'.coefficient := by
        apply mul_right_cancel₀ hpow
        rw [← value, ← h, value, he]
      exact eq_of_fields (by exact_mod_cast hcoeff) he
  · exact congrArg value

theorem value_integer (h : 0 ≤ r.exponent) : r.value = (r.coefficient * 10 ^ r.exponent.toNat : Nat) := by
  obtain ⟨k, hk⟩ := Int.eq_ofNat_of_zero_le h
  rw [value, hk, zpow_natCast, Int.toNat_natCast]
  push_cast
  rfl

end Reduced

/-- Reducing takes the trailing zeros away. -/
theorem strip_eq (fuel c : Nat) (e : Int) :
    ∃ t : Nat, c = (strip fuel c e).1 * 10 ^ t ∧ (strip fuel c e).2 = e + t := by
  induction fuel generalizing c e with
  | zero => exact ⟨0, by simp [strip], by simp [strip]⟩
  | succ fuel ih =>
    rw [strip]
    split
    · rename_i hzero
      obtain ⟨t, hc, he⟩ := ih (c / 10) (e + 1)
      refine ⟨t + 1, ?_, by rw [he]; push_cast; ring⟩
      calc c = c / 10 * 10 := by omega
        _ = (strip fuel (c / 10) (e + 1)).1 * 10 ^ t * 10 := by rw [← hc]
        _ = (strip fuel (c / 10) (e + 1)).1 * 10 ^ (t + 1) := by rw [pow_succ, mul_assoc]
    · exact ⟨0, by simp, by simp⟩

theorem reduce_eq {c : Nat} (hc : 0 < c) (e : Int) :
    ∃ t : Nat, c = (reduce c e).coefficient * 10 ^ t ∧ (reduce c e).exponent = e + t := by
  rw [reduce, dif_pos hc]
  exact strip_eq c c e

theorem reduce_coefficient_pos {c : Nat} (hc : 0 < c) (e : Int) : 0 < (reduce c e).coefficient := by
  obtain ⟨t, hct, -⟩ := reduce_eq hc e
  refine Nat.pos_of_ne_zero fun hzero => ?_
  rw [hzero, Nat.zero_mul] at hct
  omega

theorem strip_shift (fuel c : Nat) (e k : Int) :
    strip fuel c (e + k) = ((strip fuel c e).1, (strip fuel c e).2 + k) := by
  induction fuel generalizing c e with
  | zero => rfl
  | succ fuel ih =>
    rw [strip, strip]
    split
    · rw [← ih, add_right_comm]
    · rfl

/-- The coefficient does not depend on the exponent, which only moves. -/
theorem reduce_shift {c : Nat} (hc : 0 < c) (e : Int) :
    (reduce c e).coefficient = (reduce c 0).coefficient ∧ (reduce c e).exponent = (reduce c 0).exponent + e := by
  have hshift := strip_shift c c 0 e
  rw [zero_add] at hshift
  simp only [reduce, dif_pos hc, hshift, and_self]

/-- A fraction is an integer when its reduced exponent is not negative. -/
theorem Reduced.integral_iff {r : Reduced} : (∃ k : Nat, r.value = k) ↔ 0 ≤ r.exponent := by
  constructor
  · rintro ⟨k, hk⟩
    have hr : r = reduce k 0 := Reduced.value_inj.mp (by rw [hk, value_reduce]; simp)
    rw [hr]
    rcases Nat.eq_zero_or_pos k with rfl | hpos
    · exact le_rfl
    · obtain ⟨t, -, he⟩ := reduce_eq hpos 0
      omega
  · exact fun h => ⟨_, value_integer h⟩

/-! ## Rounding -/

/-- The integer nearest to `n / d`, the even one of two that are as near. -/
def roundHalfEven (n d : Nat) : Nat :=
  if 2 * (n % d) < d then n / d
  else if d < 2 * (n % d) then n / d + 1
  else n / d + n / d % 2

theorem roundHalfEven_mul_right (n d : Nat) {k : Nat} (hk : 0 < k) :
    roundHalfEven (n * k) (d * k) = roundHalfEven n d := by
  have hdiv : n * k / (d * k) = n / d := Nat.mul_div_mul_right n d hk
  have hmod : n * k % (d * k) = n % d * k := Nat.mul_mod_mul_right k n d
  have hlow : 2 * (n % d * k) < d * k ↔ 2 * (n % d) < d := by
    rw [← mul_assoc, Nat.mul_lt_mul_right hk]
  have hhigh : d * k < 2 * (n % d * k) ↔ d < 2 * (n % d) := by
    rw [← mul_assoc, Nat.mul_lt_mul_right hk]
  simp only [roundHalfEven, hdiv, hmod, hlow, hhigh]

theorem roundHalfEven_mul_self (k : Nat) {d : Nat} (hd : 0 < d) : roundHalfEven (k * d) d = k := by
  have hlow : 2 * (k * d % d) < d := by rw [Nat.mul_mod_left]; omega
  rw [roundHalfEven, if_pos hlow, Nat.mul_div_cancel k hd]

theorem roundHalfEven_le {n d k : Nat} (h : n < k * d) : roundHalfEven n d ≤ k := by
  have hdiv : n / d < k := Nat.div_lt_of_lt_mul (by rwa [mul_comm])
  unfold roundHalfEven
  split
  · omega
  · split
    · omega
    · omega

theorem div_le_roundHalfEven (n d : Nat) : n / d ≤ roundHalfEven n d := by
  unfold roundHalfEven
  split
  · exact le_rfl
  · split <;> omega

/-- The number of digits. -/
def digitCount (n : Nat) : Nat := (Nat.toDigits 10 n).length

theorem digitCount_pos (n : Nat) : 0 < digitCount n := Nat.length_toDigits_pos

theorem digitCount_le_iff {n k : Nat} (hk : 0 < k) : digitCount n ≤ k ↔ n < 10 ^ k :=
  Nat.length_toDigits_le_iff (by decide) hk

theorem lt_pow_digitCount (n : Nat) : n < 10 ^ digitCount n := (digitCount_le_iff (digitCount_pos n)).mp le_rfl

theorem digitCount_mul_pow {c : Nat} (hc : 0 < c) (k : Nat) : digitCount (c * 10 ^ k) = digitCount c + k := by
  have hpow : 0 < 10 ^ k := by positivity
  apply le_antisymm
  · rw [digitCount_le_iff (by have := digitCount_pos c; omega), pow_add]
    exact Nat.mul_lt_mul_of_pos_right (lt_pow_digitCount c) hpow
  · by_contra hlt
    -- one digit less would be too few for `c` as well
    obtain ⟨m, hm⟩ : ∃ m, digitCount c = m + 1 := ⟨digitCount c - 1, by have := digitCount_pos c; omega⟩
    have hlow : ¬c < 10 ^ m := by
      rcases Nat.eq_zero_or_pos m with rfl | hpos
      · omega
      · rw [← digitCount_le_iff hpos]
        omega
    have hle : digitCount (c * 10 ^ k) ≤ m + k := by omega
    have hmk : 0 < m + k := by have := digitCount_pos (c * 10 ^ k); omega
    rw [digitCount_le_iff hmk, pow_add, Nat.mul_lt_mul_right hpow] at hle
    exact hlow hle

namespace Reduced

/-- The exponent at which a fraction is rounded: it keeps `digits` digits, and nothing below `10^least`. -/
def quantum (digits : Nat) (least : Int) (r : Reduced) : Int :=
  let q := r.exponent + digitCount r.coefficient - digits
  if q < least then least else q

/-- The fraction rounded to `digits` significant digits, half to even, and to a multiple of `10^least`. -/
def round (digits : Nat) (least : Int) (r : Reduced) : Reduced :=
  let q := r.quantum digits least
  if q ≤ r.exponent then r
  else reduce (roundHalfEven r.coefficient (10 ^ (q - r.exponent).toNat)) q

theorem digitCount_reduce_le {c : Nat} (e : Int) : digitCount (reduce c e).coefficient ≤ digitCount c := by
  rcases Nat.eq_zero_or_pos c with rfl | hc
  · exact le_rfl
  · obtain ⟨t, hct, -⟩ := reduce_eq hc e
    have hpos := reduce_coefficient_pos hc e
    have hdigits := digitCount_mul_pow hpos t
    rw [← hct] at hdigits
    omega

theorem quantum_eq (digits : Nat) (least : Int) (r : Reduced) :
    r.quantum digits least = max (r.exponent + digitCount r.coefficient - digits) least := by
  unfold quantum
  dsimp only
  split <;> omega

/-- A fraction of few digits is not rounded, and no other. -/
theorem round_eq_self_iff {digits : Nat} {least : Int} {r : Reduced} (hd : 0 < digits) (hleast : least ≤ r.exponent) :
    r.round digits least = r ↔ digitCount r.coefficient ≤ digits := by
  have hquantum : r.quantum digits least ≤ r.exponent ↔ digitCount r.coefficient ≤ digits := by
    rw [quantum_eq]
    omega
  rw [← hquantum, round]
  constructor
  · intro h
    by_contra hlt
    rw [if_neg hlt] at h
    have hcoeff : 0 < r.coefficient := by
      by_contra hzero
      have hone : digitCount r.coefficient = 1 := by rw [show r.coefficient = 0 by omega]; rfl
      omega
    -- the exponent of the result is at least the quantum
    rcases Nat.eq_zero_or_pos (roundHalfEven r.coefficient (10 ^ (r.quantum digits least - r.exponent).toNat)) with
      hzero | hpos
    · rw [hzero] at h
      rw [← h] at hcoeff
      exact absurd hcoeff (Nat.lt_irrefl 0)
    · obtain ⟨t, -, he⟩ := reduce_eq hpos (r.quantum digits least)
      rw [h] at he
      omega
  · intro h
    exact if_pos h

end Reduced

/-! ## Plain notation -/

/-- The last `k` digits of a number. -/
def lastDigits : Nat → Nat → List Char
  | 0, _ => []
  | k + 1, n => lastDigits k (n / 10) ++ [(n % 10).digitChar]

theorem digitChar_inj {a b : Nat} (ha : a < 10) (hb : b < 10) (h : a.digitChar = b.digitChar) : a = b := by
  have hval := congrArg Char.toNat h
  rw [Nat.toNat_digitChar_of_lt_ten ha, Nat.toNat_digitChar_of_lt_ten hb] at hval
  omega

theorem length_lastDigits (k n : Nat) : (lastDigits k n).length = k := by
  induction k generalizing n with
  | zero => rfl
  | succ k ih => simp [lastDigits, ih]

theorem lastDigits_inj {k n n' : Nat} (hn : n < 10 ^ k) (hn' : n' < 10 ^ k) (h : lastDigits k n = lastDigits k n') :
    n = n' := by
  induction k generalizing n n' with
  | zero =>
    rw [pow_zero] at hn hn'
    omega
  | succ k ih =>
    rw [pow_succ] at hn hn'
    have hlength : (lastDigits k (n / 10)).length = (lastDigits k (n' / 10)).length := by
      rw [length_lastDigits, length_lastDigits]
    obtain ⟨hinit, hlast⟩ := List.append_inj h hlength
    have hdiv : n / 10 = n' / 10 := ih (by omega) (by omega) hinit
    have hmod : n % 10 = n' % 10 := digitChar_inj (by omega) (by omega) (List.cons.inj hlast).1
    omega

theorem isDigit_of_mem_lastDigits {k n : Nat} {c : Char} (h : c ∈ lastDigits k n) : c.isDigit = true := by
  induction k generalizing n with
  | zero => cases h
  | succ k ih =>
    rcases List.mem_append.mp h with h | h
    · exact ih h
    · obtain rfl := List.mem_singleton.mp h
      rw [Nat.isDigit_digitChar]
      simp
      omega

/-- The digits of a fraction, with a point where there is something behind it. -/
def digits (r : Reduced) : List Char :=
  if 0 ≤ r.exponent then Nat.toDigits 10 (r.coefficient * 10 ^ r.exponent.toNat)
  else
    let k := (-r.exponent).toNat
    Nat.toDigits 10 (r.coefficient / 10 ^ k) ++ '.' :: lastDigits k (r.coefficient % 10 ^ k)

/-- The plain notation of a signed fraction. -/
def plain (negative : Bool) (r : Reduced) : String :=
  String.ofList ((if negative then ['-'] else []) ++ digits r)

theorem toDigits_inj {n n' : Nat} (h : Nat.toDigits 10 n = Nat.toDigits 10 n') : n = n' := by
  have hval := congrArg (Nat.ofDigitChars 10 · 0) h
  simpa [Nat.ofDigitChars_toDigits] using hval

/-- A character of the digits is a digit or the point. -/
theorem mem_digits {r : Reduced} {c : Char} (h : c ∈ digits r) : c.isDigit = true ∨ c = '.' := by
  unfold digits at h
  split at h
  · exact .inl (Nat.isDigit_of_mem_toDigits (by decide) (by decide) h)
  · simp only [List.mem_append, List.mem_cons] at h
    rcases h with h | h | h
    · exact .inl (Nat.isDigit_of_mem_toDigits (by decide) (by decide) h)
    · exact .inr h
    · exact .inl (isDigit_of_mem_lastDigits h)

theorem point_not_mem_toDigits (n : Nat) : '.' ∉ Nat.toDigits 10 n := by
  intro h
  exact absurd (Nat.isDigit_of_mem_toDigits (by decide) (by decide) h) (by decide)

/-- The digits tell fractions apart. -/
theorem digits_inj {r r' : Reduced} (h : digits r = digits r') : r = r' := by
  unfold digits at h
  split at h
  · rename_i he
    split at h
    · rename_i he'
      -- two integers: their values are equal
      have hnat := toDigits_inj h
      rw [← Reduced.value_inj, Reduced.value_integer he, Reduced.value_integer he', hnat]
    · exact absurd (h ▸ List.mem_append_right _ List.mem_cons_self) (point_not_mem_toDigits _)
  · rename_i he
    split at h
    · exact absurd (h ▸ List.mem_append_right _ List.mem_cons_self) (point_not_mem_toDigits _)
    · rename_i he'
      obtain ⟨hwhole, hfraction⟩ :=
        Separator.joined_inj (point_not_mem_toDigits _) (point_not_mem_toDigits _) h
      have hk : (-r.exponent).toNat = (-r'.exponent).toNat := by
        have := congrArg List.length hfraction
        rwa [length_lastDigits, length_lastDigits] at this
      rw [← hk] at hwhole hfraction
      have hdiv := toDigits_inj hwhole
      have hmod := lastDigits_inj (Nat.mod_lt _ (by positivity)) (Nat.mod_lt _ (by positivity)) hfraction
      apply Reduced.eq_of_fields
      · rw [← Nat.div_add_mod r.coefficient (10 ^ (-r.exponent).toNat), hdiv, hmod, Nat.div_add_mod]
      · omega

/-- **The plain notation tells signed fractions apart.** -/
theorem plain_inj {negative negative' : Bool} {r r' : Reduced} (h : plain negative r = plain negative' r') :
    negative = negative' ∧ r = r' := by
  have hsign : ∀ r : Reduced, '-' ∉ digits r := by
    intro r hr
    rcases mem_digits hr with h | h
    · exact absurd h (by decide)
    · exact absurd h (by decide)
  have hlist := congrArg String.toList h
  simp only [plain, String.toList_ofList] at hlist
  cases negative with
  | true =>
    cases negative' with
    | true => exact ⟨rfl, digits_inj (List.cons.inj hlist).2⟩
    | false =>
      have hcons : '-' :: digits r = digits r' := hlist
      exact absurd (hcons ▸ List.mem_cons_self) (hsign r')
  | false =>
    cases negative' with
    | true =>
      have hcons : digits r = '-' :: digits r' := hlist
      exact absurd (hcons ▸ List.mem_cons_self) (hsign r)
    | false => exact ⟨rfl, digits_inj hlist⟩

end Decimal
