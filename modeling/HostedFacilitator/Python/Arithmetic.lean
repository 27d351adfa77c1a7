import HostedFacilitator.Python.Literals

/-!
# Arithmetic on decimal numbers

Products and quotients of `decimal.Decimal` in the default context: 28 significant digits, half to even, exponents of at
most `Emax`. The exact result is rounded by `fix`, which finds the value that `Decimal.Reduced.round` gives
(`fix_cases`). `toStr` is `str()`, which writes the coefficient and the exponent, so that reading it back gives the same
number (`decimal_toStr`).
-/

namespace HostedFacilitator
namespace PyDecimal

/-! ## Operations -/

/-- `c · 10^e` rounded to a multiple of `10^q`; a carry into a 29th digit moves the exponent. -/
def roundAt (c : Nat) (e q : Int) : Nat × Int :=
  if q ≤ e then (c, e)
  else
    let n := Decimal.roundHalfEven c (10 ^ (q - e).toNat)
    if 28 < Decimal.digitCount n then (n / 10, q + 1) else (n, q)

/-- An exact result in the default context. -/
def fix (negative : Bool) (c : Nat) (e : Int) : Except PyErr PyDecimal :=
  if c = 0 then .ok (.finite negative 0 (max leastExponent (min e largestExponent)))
  else
    let rounded := roundAt c e (max (e + Decimal.digitCount c - 28) leastExponent)
    if largestExponent < rounded.2 + Decimal.digitCount rounded.1 - 1 then
      .error (.other "Overflow" "[<class 'decimal.Overflow'>]")
    else .ok (.finite negative rounded.1 rounded.2)

/-- An operation on a number that is not finite. -/
def propagate : PyDecimal → Except PyErr PyDecimal
  | .nan _ true _ => .error (.other "InvalidOperation" "[<class 'decimal.InvalidOperation'>]")
  | .nan negative false payload => .ok (.nan negative false (payload % 10 ^ 28))
  | d => .ok d

/-- `d * Decimal(n)`, for a positive integer. -/
def mulNat (n : Nat) : PyDecimal → Except PyErr PyDecimal
  | .finite negative c e => fix negative (c * n) e
  | d => propagate d

/-- `d / Decimal(n)`, for a positive integer. -/
def divNat (n : Nat) : PyDecimal → Except PyErr PyDecimal
  | .finite negative c e =>
    if c = 0 then fix negative 0 e
    else
      -- two digits more than the context keeps
      let shift : Int := Decimal.digitCount n - Decimal.digitCount c + 29
      let dividend := if 0 ≤ shift then c * 10 ^ shift.toNat else c
      let divisor := if 0 ≤ shift then n else n * 10 ^ (-shift).toNat
      let quotient := dividend / divisor
      if dividend % divisor = 0 then
        -- exact: as close to the exponent of the dividend as possible
        let stripped := Decimal.strip shift.toNat quotient (e - shift)
        fix negative stripped.1 stripped.2
      else fix negative (if quotient % 5 = 0 then quotient + 1 else quotient) (e - shift)
  | d => propagate d

/-- `d.to_integral_value()`. -/
def toIntegralValue : PyDecimal → PyDecimal
  | .finite negative c e =>
    if 0 ≤ e then .finite negative c e else .finite negative (Decimal.roundHalfEven c (10 ^ (-e).toNat)) 0
  | d => d

def signed (negative : Bool) (n : Nat) : Int := if negative then -(n : Int) else n

/-- `d == d'`; a NaN equals nothing. -/
def eq : PyDecimal → PyDecimal → Bool
  | .finite negative c e, .finite negative' c' e' =>
    let m := min e e'
    signed negative (c * 10 ^ (e - m).toNat) == signed negative' (c' * 10 ^ (e' - m).toNat)
  | .infinity negative, .infinity negative' => negative == negative'
  | _, _ => false

/-- `int(d)`. -/
def toInt : PyDecimal → Except PyErr Int
  | .finite negative c e => .ok (signed negative (if 0 ≤ e then c * 10 ^ e.toNat else c / 10 ^ (-e).toNat))
  | .infinity _ => .error (.other "OverflowError" "cannot convert Infinity to integer")
  | .nan .. => .error (.value "cannot convert NaN to integer")

/-- The exponent that `str()` writes: `"%+d" % x`, after an `E`. -/
def exponentText (x : Int) : List Char :=
  if x = 0 then [] else 'E' :: (if 0 ≤ x then '+' else '-') :: Nat.toDigits 10 x.natAbs

/-- The digits of a finite number, with a point after `dot` of them. -/
def pointed (digits : List Char) (dot : Int) : List Char :=
  if dot ≤ 0 then '0' :: '.' :: (List.replicate (-dot).toNat '0' ++ digits)
  else if digits.length ≤ dot then digits ++ List.replicate (dot - digits.length).toNat '0'
  else digits.take dot.toNat ++ '.' :: digits.drop dot.toNat

def finiteText (c : Nat) (e : Int) : List Char :=
  let digits := Nat.toDigits 10 c
  let leftDigits := e + digits.length
  let dot := if e ≤ 0 ∧ -6 < leftDigits then leftDigits else 1
  pointed digits dot ++ exponentText (leftDigits - dot)

/-- `str(d)`. -/
def toStr : PyDecimal → String
  | .finite negative c e => String.ofList ((if negative then ['-'] else []) ++ finiteText c e)
  | .infinity negative => if negative then "-Infinity" else "Infinity"
  | .nan negative signaling payload =>
    (if negative then "-" else "") ++ (if signaling then "sNaN" else "NaN") ++
      (if payload = 0 then "" else toString payload)

/-! ## Rounding -/

section Rounding

variable {negative : Bool} {c : Nat} {e q : Int}

/-- A finite number that the context can hold. -/
structure Fits (c : Nat) (e : Int) : Prop where
  digits : Decimal.digitCount c ≤ 28
  least : leastExponent ≤ e
  largest : e + Decimal.digitCount c - 1 ≤ largestExponent

def value (c : Nat) (e : Int) : ℚ := c * (10 : ℚ) ^ e

theorem value_reduce : (Decimal.reduce c e).value = value c e := Decimal.value_reduce c e

theorem value_mul_pow (c k : Nat) (e : Int) : value (c * 10 ^ k) e = value c (e + k) := by
  rw [value, value, zpow_add₀ (by norm_num), zpow_natCast]
  push_cast
  ring

/-- Equal numbers have their first digit in the same place. -/
theorem adjusted_eq {c c' : Nat} {e e' : Int} (hc : 0 < c) (hc' : 0 < c') (h : value c e = value c' e') :
    e + Decimal.digitCount c = e' + Decimal.digitCount c' := by
  have hr : Decimal.reduce c e = Decimal.reduce c' e' := by
    rw [← Decimal.Reduced.value_inj, value_reduce, value_reduce, h]
  obtain ⟨t, hct, het⟩ := Decimal.reduce_eq hc e
  obtain ⟨t', hct', het'⟩ := Decimal.reduce_eq hc' e'
  rw [← hr] at hct' het'
  have hpos := Decimal.reduce_coefficient_pos hc e
  have hdigits := Decimal.digitCount_mul_pow hpos t
  have hdigits' := Decimal.digitCount_mul_pow hpos t'
  rw [← hct] at hdigits
  rw [← hct'] at hdigits'
  omega

/-- Rounding away at most as many digits as there are beyond 28, or more. -/
theorem roundAt_cases (hq : e + Decimal.digitCount c - 28 ≤ q) :
    value (roundAt c e q).1 (roundAt c e q).2 =
        (if q ≤ e then value c e else value (Decimal.roundHalfEven c (10 ^ (q - e).toNat)) q) ∧
      Decimal.digitCount (roundAt c e q).1 ≤ 28 ∧ q ≤ (roundAt c e q).2 := by
  by_cases hle : q ≤ e
  · rw [roundAt, if_pos hle, if_pos hle]
    exact ⟨rfl, by dsimp only; omega, hle⟩
  · rw [roundAt, if_neg hle, if_neg hle]
    dsimp only
    have hmax : Decimal.roundHalfEven c (10 ^ (q - e).toNat) ≤ 10 ^ 28 := by
      apply Decimal.roundHalfEven_le
      rw [← pow_add]
      exact (Decimal.lt_pow_digitCount c).trans_le (Nat.pow_le_pow_right (by decide) (by omega))
    split
    · rename_i hcarry
      have heq : Decimal.roundHalfEven c (10 ^ (q - e).toNat) = 10 ^ 28 := by
        refine le_antisymm hmax ?_
        by_contra hlt
        have := (Decimal.digitCount_le_iff (by decide : 0 < 28)).mpr (not_le.mp hlt)
        omega
      refine ⟨?_, ?_, ?_⟩
      · have hten : (10 : Nat) ^ 28 / 10 = 10 ^ 27 := by norm_num
        have hsucc : (10 : Nat) ^ 28 = 10 ^ 27 * 10 ^ 1 := by norm_num
        rw [heq, hten, hsucc, value_mul_pow]
        rfl
      · rw [heq]
        show Decimal.digitCount (10 ^ 28 / 10) ≤ 28
        decide +kernel
      · dsimp only
        omega
    · exact ⟨rfl, by dsimp only; omega, le_rfl⟩

/-- Only what lies below half of the smallest step is rounded to zero. -/
theorem roundAt_zero (hc : 0 < c) (hq : e + Decimal.digitCount c - 28 ≤ q) (hzero : (roundAt c e q).1 = 0) :
    (roundAt c e q).2 = q ∧ e + Decimal.digitCount c - 28 < q := by
  unfold roundAt at hzero ⊢
  split at hzero
  · exact absurd hzero hc.ne'
  · rename_i hle
    rw [if_neg hle]
    dsimp only at hzero ⊢
    split at hzero
    · rename_i hcarry
      have hsmall := (Decimal.digitCount_le_iff (by decide : 0 < 28)).not.mp (not_le.mpr hcarry)
      have : (10 : Nat) ≤ 10 ^ 28 := by norm_num
      dsimp only at hzero
      omega
    · rename_i hcarry
      rw [if_neg hcarry]
      refine ⟨rfl, ?_⟩
      have hdiv := Decimal.div_le_roundHalfEven c (10 ^ (q - e).toNat)
      have hlt : c < 10 ^ (q - e).toNat := by
        by_contra hge
        have := Nat.div_pos (not_lt.mp hge) (by positivity)
        dsimp only at hzero
        omega
      have := (Decimal.digitCount_le_iff (by omega)).mpr hlt
      omega

/-- Where `fix` rounds, and to what. -/
theorem value_roundAt (hc : 0 < c) (least : Int) :
    (if max (e + Decimal.digitCount c - 28) least ≤ e then value c e
      else value (Decimal.roundHalfEven c (10 ^ (max (e + Decimal.digitCount c - 28) least - e).toNat))
        (max (e + Decimal.digitCount c - 28) least)) =
      ((Decimal.reduce c e).round 28 least).value := by
  obtain ⟨t, hct, het⟩ := Decimal.reduce_eq hc e
  have hpos := Decimal.reduce_coefficient_pos hc e
  have hdigits := Decimal.digitCount_mul_pow hpos t
  rw [← hct] at hdigits
  have hquantum : (Decimal.reduce c e).quantum 28 least = max (e + Decimal.digitCount c - 28) least := by
    rw [Decimal.Reduced.quantum_eq]
    congr 1
    push_cast
    omega
  rw [Decimal.Reduced.round, hquantum]
  generalize max (e + Decimal.digitCount c - 28) least = q
  by_cases hle : q ≤ e
  · rw [if_pos hle, if_pos (by omega), value_reduce]
  · rw [if_neg hle]
    by_cases hr : q ≤ (Decimal.reduce c e).exponent
    · -- only trailing zeros are cut off
      obtain ⟨k, hk⟩ : ∃ k : Nat, (Decimal.reduce c e).exponent = q + k :=
        ⟨((Decimal.reduce c e).exponent - q).toNat, by omega⟩
      have hsplit : c = (Decimal.reduce c e).coefficient * 10 ^ k * 10 ^ (q - e).toNat := by
        rw [mul_assoc, ← pow_add, show k + (q - e).toNat = t by omega, ← hct]
      rw [if_pos hr]
      conv_lhs => rw [hsplit, Decimal.roundHalfEven_mul_self _ (by positivity), value_mul_pow, ← hk]
      rfl
    · have hpow : (q - e).toNat = (q - (Decimal.reduce c e).exponent).toNat + t := by omega
      rw [if_neg hr, value_reduce]
      conv_lhs => rw [hct, hpow, pow_add, Decimal.roundHalfEven_mul_right _ _ (by positivity)]

/-- The outcome of an operation: the number rounded to 28 digits, or an overflow where that is too large. -/
theorem fix_cases (negative : Bool) (c : Nat) (e : Int) :
    (largestExponent < ((Decimal.reduce c e).round 28 leastExponent).exponent +
        Decimal.digitCount ((Decimal.reduce c e).round 28 leastExponent).coefficient - 1 ∧
      ∃ err, fix negative c e = .error err) ∨
    (((Decimal.reduce c e).round 28 leastExponent).exponent +
        Decimal.digitCount ((Decimal.reduce c e).round 28 leastExponent).coefficient - 1 ≤ largestExponent ∧
      ∃ n e', fix negative c e = .ok (.finite negative n e') ∧ Fits n e' ∧
        value n e' = ((Decimal.reduce c e).round 28 leastExponent).value) := by
  rcases Nat.eq_zero_or_pos c with rfl | hc
  · have hzero : Decimal.reduce 0 e = ⟨0, 0, .inl ⟨rfl, rfl⟩⟩ := rfl
    have hleast : leastExponent ≤ (Decimal.reduce 0 e).exponent := by
      rw [hzero]
      decide
    have hround : (Decimal.reduce 0 e).round 28 leastExponent = Decimal.reduce 0 e := by
      rw [Decimal.Reduced.round_eq_self_iff (by decide) hleast, hzero]
      decide
    rw [hround, hzero]
    refine .inr ⟨by decide, 0, max leastExponent (min e largestExponent), if_pos rfl,
      ⟨by decide, le_max_left _ _, ?_⟩, ?_⟩
    · have hone : (Decimal.digitCount 0 : Int) = 1 := by decide
      rw [hone]
      have : leastExponent ≤ largestExponent := by decide
      omega
    · simp [value, Decimal.Reduced.value]
  · obtain ⟨hvalue, hdigits, hleast⟩ := roundAt_cases (le_max_left (e + Decimal.digitCount c - 28) leastExponent)
    rw [value_roundAt hc] at hvalue
    have hzero := roundAt_zero hc (le_max_left (e + Decimal.digitCount c - 28) leastExponent)
    have hfix : fix negative c e =
        if largestExponent < (roundAt c e (max (e + Decimal.digitCount c - 28) leastExponent)).2 +
            Decimal.digitCount (roundAt c e (max (e + Decimal.digitCount c - 28) leastExponent)).1 - 1 then
          .error (.other "Overflow" "[<class 'decimal.Overflow'>]")
        else .ok (.finite negative (roundAt c e (max (e + Decimal.digitCount c - 28) leastExponent)).1
          (roundAt c e (max (e + Decimal.digitCount c - 28) leastExponent)).2) := if_neg hc.ne'
    rw [hfix]
    generalize (Decimal.reduce c e).round 28 leastExponent = r at hvalue ⊢
    generalize roundAt c e (max (e + Decimal.digitCount c - 28) leastExponent) = rounded at hvalue hdigits hleast hzero ⊢
    obtain ⟨n, e'⟩ := rounded
    dsimp only at hvalue hdigits hleast hzero ⊢
    have hadjusted : r.exponent + Decimal.digitCount r.coefficient - 1 ≤ largestExponent ↔
        e' + Decimal.digitCount n - 1 ≤ largestExponent := by
      rcases Nat.eq_zero_or_pos n with rfl | hn
      · have hr : r.coefficient = 0 := Decimal.Reduced.value_eq_zero (by rw [← hvalue]; simp [value])
        obtain ⟨rfl, hq⟩ := hzero rfl
        have hone : (Decimal.digitCount 0 : Int) = 1 := by decide
        have hlimits : leastExponent ≤ largestExponent ∧ (0 : Int) ≤ largestExponent := by decide
        rw [hr, Decimal.Reduced.exponent_eq_zero hr, hone]
        omega
      · have hr : 0 < r.coefficient := by
          rw [Nat.pos_iff_ne_zero]
          intro hr
          have hpow : (0 : ℚ) < 10 ^ e' := zpow_pos (by norm_num) e'
          have : (0 : ℚ) < value n e' := mul_pos (by exact_mod_cast hn) hpow
          rw [hvalue, Decimal.Reduced.value, hr] at this
          simp at this
        have hsame : value n e' = value r.coefficient r.exponent := hvalue
        rw [adjusted_eq hn hr hsame]
    by_cases hover : largestExponent < e' + Decimal.digitCount n - 1
    · exact .inl ⟨by omega, _, if_pos hover⟩
    · refine .inr ⟨by omega, n, e', if_neg hover, ⟨hdigits, (le_max_right _ _).trans hleast, by omega⟩,
        hvalue⟩

end Rounding

/-! ## Quotients -/

section Quotients

variable {c : Nat}

theorem divNat_fix (negative : Bool) (c n : Nat) : ∃ c' e', divNat n (.finite negative c 0) = fix negative c' e' := by
  by_cases hc : c = 0
  · exact ⟨0, 0, by rw [divNat, if_pos hc]⟩
  · simp only [divNat, if_neg hc]
    generalize (Decimal.digitCount n : Int) - Decimal.digitCount c + 29 = shift
    generalize (if 0 ≤ shift then c * 10 ^ shift.toNat else c) = dividend
    generalize (if 0 ≤ shift then n else n * 10 ^ (-shift).toNat) = divisor
    by_cases hexact : dividend % divisor = 0
    · exact ⟨_, _, if_pos hexact⟩
    · exact ⟨_, _, if_neg hexact⟩

theorem divNat_of_dvd (negative : Bool) {shift : Int} {n : Nat} (quotient : Nat) (hc : c ≠ 0)
    (hshift : (Decimal.digitCount n : Int) - Decimal.digitCount c + 29 = shift)
    (h : (if 0 ≤ shift then c * 10 ^ shift.toNat else c) =
      quotient * if 0 ≤ shift then n else n * 10 ^ (-shift).toNat) (hn : 0 < n) :
    ∃ c' e', divNat n (.finite negative c 0) = fix negative c' e' ∧ value c' e' = value quotient (-shift) := by
  have hdivisor : 0 < if 0 ≤ shift then n else n * 10 ^ (-shift).toNat := by
    split <;> positivity
  refine ⟨_, _, ?_, (Decimal.strip_value shift.toNat quotient (0 - shift)).trans (by rw [zero_sub]; rfl)⟩
  simp only [divNat, if_neg hc, hshift, h, Nat.mul_mod_left, if_true, Nat.mul_div_cancel _ hdivisor]

/-- A number of at most 28 digits is divided exactly, before it is rounded. -/
theorem divNat_short (negative : Bool) (hshort : Decimal.digitCount (Decimal.reduce c 0).coefficient ≤ 28) :
    ∃ c' e', divNat 1000000 (.finite negative c 0) = fix negative c' e' ∧ value c' e' = value c (-6) := by
  rcases Nat.eq_zero_or_pos c with rfl | hc
  · exact ⟨0, 0, by rw [divNat, if_pos rfl], by simp [value]⟩
  · obtain ⟨t, hct, -⟩ := Decimal.reduce_eq hc 0
    have hpos := Decimal.reduce_coefficient_pos hc 0
    have hdigits := Decimal.digitCount_mul_pow hpos t
    rw [← hct] at hdigits
    have hseven : Decimal.digitCount 1000000 = 7 := by decide
    have hmillion : (1000000 : Nat) = 10 ^ 6 := by norm_num
    generalize hm : (Decimal.reduce c 0).coefficient = m at *
    obtain ⟨shift, hshift⟩ : ∃ shift : Int, (Decimal.digitCount 1000000 : Int) - Decimal.digitCount c + 29 = shift :=
      ⟨_, rfl⟩
    by_cases hsign : 0 ≤ shift
    · obtain ⟨c', e', hdiv, hvalue⟩ := divNat_of_dvd negative (m * 10 ^ (t + shift.toNat - 6))
        hc.ne' hshift (by
          rw [if_pos hsign, if_pos hsign, hct, hmillion, mul_assoc, mul_assoc, ← pow_add, ← pow_add]
          congr 2
          omega) (by decide)
      refine ⟨c', e', hdiv, hvalue.trans ?_⟩
      rw [hct, value_mul_pow, value_mul_pow]
      congr 1
      omega
    · obtain ⟨c', e', hdiv, hvalue⟩ := divNat_of_dvd negative (m * 10 ^ (t - (6 + (-shift).toNat)))
        hc.ne' hshift (by
          rw [if_neg hsign, if_neg hsign, hct, hmillion, mul_assoc, ← pow_add, ← pow_add]
          congr 2
          omega) (by decide)
      refine ⟨c', e', hdiv, hvalue.trans ?_⟩
      rw [hct, value_mul_pow, value_mul_pow]
      congr 1
      omega

end Quotients

/-! ## Integers -/

section Integers

variable {negative : Bool} {c k : Nat} {e : Int}

theorem signed_inj {n n' : Nat} : signed negative n = signed negative n' ↔ n = n' := by
  cases negative <;> simp [signed]

theorem value_of_nonneg (h : 0 ≤ e) : value c e = (c * 10 ^ e.toNat : Nat) := by
  obtain ⟨n, rfl⟩ := Int.eq_ofNat_of_zero_le h
  rw [value, zpow_natCast, Int.toNat_natCast]
  push_cast
  rfl

theorem value_of_neg (h : e < 0) : value c e = k ↔ c = k * 10 ^ (-e).toNat := by
  obtain ⟨n, hn⟩ := Int.eq_ofNat_of_zero_le (a := -e) (by omega)
  obtain rfl : e = -(n : Int) := by omega
  have hpow : (10 : ℚ) ^ n ≠ 0 := pow_ne_zero _ (by norm_num)
  rw [value, zpow_neg, zpow_natCast, neg_neg, Int.toNat_natCast, ← div_eq_mul_inv, div_eq_iff hpow]
  exact_mod_cast Iff.rfl

/-- `d == d.to_integral_value()` holds of the integers. -/
theorem eq_toIntegralValue (negative : Bool) (c : Nat) (e : Int) :
    eq (.finite negative c e) (toIntegralValue (.finite negative c e)) = true ↔ ∃ k : Nat, value c e = k := by
  rcases le_or_gt 0 e with he | he
  · rw [toIntegralValue, if_pos he]
    exact iff_of_true (by simp [eq]) ⟨_, value_of_nonneg he⟩
  · have hmin : min e 0 = e := min_eq_left he.le
    simp only [toIntegralValue, if_neg (not_le.mpr he), eq, hmin, beq_iff_eq, signed_inj, Int.sub_self, Int.toNat_zero,
      pow_zero, mul_one, Int.zero_sub]
    constructor
    · exact fun h => ⟨_, (value_of_neg he).mpr h⟩
    · rintro ⟨k, hk⟩
      have hc := (value_of_neg he).mp hk
      rw [hc, Decimal.roundHalfEven_mul_self k (by positivity)]

theorem toInt_of_integral (h : value c e = k) : toInt (.finite negative c e) = .ok (signed negative k) := by
  rcases le_or_gt 0 e with he | he
  · rw [value_of_nonneg he] at h
    have hk : c * 10 ^ e.toNat = k := by exact_mod_cast h
    rw [toInt, if_pos he, hk]
  · rw [value_of_neg he] at h
    rw [toInt, if_neg (not_le.mpr he), h, Nat.mul_div_cancel _ (by positivity)]

end Integers

/-! ## Reading back -/

section Text

variable {u : Decimals} {c : Nat} {e : Int} {s w f : List Char}

theorem digitsValue_eq {acc : Nat} (h : ∀ c ∈ s, c.isDigit = true) :
    digitsValue acc s = some (Nat.ofDigitChars 10 s acc) := by
  induction s generalizing acc with
  | nil => rfl
  | cons c rest ih =>
    rw [digitsValue_digit (h c List.mem_cons_self), ih fun x hx => h x (List.mem_cons_of_mem c hx)]
    rfl

theorem digitsValue_toDigits (n : Nat) : digitsValue 0 (Nat.toDigits 10 n) = some n := by
  rw [digitsValue_eq fun c hc => Nat.isDigit_of_mem_toDigits (by decide) (by decide) hc,
    Nat.ofDigitChars_toDigits (by decide) (by decide)]

theorem digitsValue_zeros (k : Nat) (s : List Char) : digitsValue 0 (List.replicate k '0' ++ s) = digitsValue 0 s := by
  induction k with
  | zero => rfl
  | succ k ih =>
    rw [List.replicate_succ, List.cons_append, digitsValue_digit (by decide)]
    exact ih

theorem readExponent_exponentText (x : Int) : readExponent (exponentText x) = some x := by
  unfold exponentText
  split
  · rename_i hx
    rw [hx]
    rfl
  · have hne : (Nat.toDigits 10 x.natAbs).isEmpty = false := by
      rw [List.isEmpty_eq_false_iff]
      exact Nat.toDigits_ne_nil
    split
    · rename_i hpos
      simp only [readExponent, hne, Bool.false_eq_true, if_false, digitsValue_toDigits]
      exact congrArg some (Int.natAbs_of_nonneg hpos)
    · rename_i hneg
      have habs : -(x.natAbs : Int) = x := by omega
      simp only [readExponent, hne, Bool.false_eq_true, if_false, digitsValue_toDigits]
      exact congrArg some habs

/-- The digits in front of the point and behind it, and the exponent. -/
theorem readFinite_parts {m : List Char} {n : Nat} {x : Int} (hm : m = w ++ '.' :: f ∨ m = w ∧ f = [])
    (hdigits : ∀ c ∈ w ++ f, c.isDigit = true) (hn : digitsValue 0 (w ++ f) = some n) (hne : w ++ f ≠ [])
    (hleast : -1999999999999999997 ≤ x - f.length)
    (hlargest : x - f.length + Decimal.digitCount n - 1 ≤ 999999999999999999) :
    readFinite (m ++ exponentText x) = some (n, x - f.length) := by
  have hplain : ∀ c ∈ m, (!(c == 'e' || c == 'E')) = true := by
    intro c hc
    have hchar : c = '.' ∨ c.isDigit = true := by
      rcases hm with rfl | ⟨rfl, rfl⟩
      · simp only [List.mem_append, List.mem_cons] at hc hdigits
        rcases hc with hc | hc | hc
        · exact .inr (hdigits c (.inl hc))
        · exact .inl hc
        · exact .inr (hdigits c (.inr hc))
      · exact .inr (hdigits c (by rwa [List.append_nil]))
    rcases hchar with rfl | hd
    · decide
    · obtain ⟨-, -, -, he, hE, -⟩ := digit_plain hd
      simp [he, hE]
  have hexp : (exponentText x).takeWhile (fun c => !(c == 'e' || c == 'E')) = [] ∧
      (exponentText x).dropWhile (fun c => !(c == 'e' || c == 'E')) = exponentText x := by
    unfold exponentText
    split
    · exact ⟨rfl, rfl⟩
    · exact ⟨List.takeWhile_cons_of_neg (by decide), List.dropWhile_cons_of_neg (by decide)⟩
  have hmantissa : (m ++ exponentText x).takeWhile (fun c => !(c == 'e' || c == 'E')) = m := by
    rw [List.takeWhile_append_of_pos hplain, hexp.1, List.append_nil]
  have hrest : (m ++ exponentText x).dropWhile (fun c => !(c == 'e' || c == 'E')) = exponentText x := by
    rw [List.dropWhile_append_of_pos hplain, hexp.2]
  have hpoint : ∀ c ∈ w, (c != '.') = true := by
    intro c hc
    obtain ⟨-, -, -, -, -, hp⟩ := digit_plain (hdigits c (List.mem_append_left f hc))
    simp [hp]
  have hparts : m.takeWhile (· != '.') = w ∧ (m.dropWhile (· != '.')).drop 1 = f := by
    rcases hm with rfl | ⟨rfl, rfl⟩
    · rw [List.takeWhile_append_of_pos hpoint, List.dropWhile_append_of_pos hpoint]
      simp
    · rw [List.takeWhile_eq_self_iff.mpr hpoint, List.dropWhile_eq_nil_iff.mpr hpoint]
      exact ⟨rfl, rfl⟩
  simp only [readFinite, hmantissa, hrest, hparts.1, hparts.2, hn, readExponent_exponentText]
  rw [if_neg (by simpa using hne)]
  simp only [Option.bind_eq_bind, Option.bind_some]
  rw [if_neg (by omega)]

/-- The finite numbers within the limits of the library. -/
structure Readable (c : Nat) (e : Int) : Prop where
  least : -1999999999999999997 ≤ e
  largest : e + Decimal.digitCount c - 1 ≤ 999999999999999999

theorem Fits.readable (h : Fits c e) : Readable c e := by
  have hlimits : leastExponent = -1000026 ∧ largestExponent = 999999 := ⟨rfl, rfl⟩
  exact ⟨by have := h.least; omega, by have := h.largest; omega⟩

/-- The mantissa and the exponent that `str()` writes are those of the number. -/
theorem pointed_parts (c : Nat) (e : Int) {dot : Int}
    (hdot : dot = e + Decimal.digitCount c ∧ e ≤ 0 ∨ dot = 1) :
    ∃ w f, (pointed (Nat.toDigits 10 c) dot = w ++ '.' :: f ∨ pointed (Nat.toDigits 10 c) dot = w ∧ f = []) ∧
      (∀ x ∈ w ++ f, x.isDigit = true) ∧ digitsValue 0 (w ++ f) = some c ∧ w ++ f ≠ [] ∧
      e + Decimal.digitCount c - dot - f.length = e := by
  have hcount : Decimal.digitCount c = (Nat.toDigits 10 c).length := rfl
  have hpos := Decimal.digitCount_pos c
  have hdigits : ∀ x ∈ Nat.toDigits 10 c, x.isDigit = true :=
    fun x hx => Nat.isDigit_of_mem_toDigits (by decide) (by decide) hx
  by_cases hlow : dot ≤ 0
  · have hcons : ['0'] ++ (List.replicate (-dot).toNat '0' ++ Nat.toDigits 10 c) =
        List.replicate ((-dot).toNat + 1) '0' ++ Nat.toDigits 10 c := by
      rw [List.replicate_succ, List.singleton_append, List.cons_append]
    refine ⟨['0'], List.replicate (-dot).toNat '0' ++ Nat.toDigits 10 c, .inl (if_pos hlow), ?_, ?_, by simp, ?_⟩
    · rw [hcons]
      intro x hx
      rcases List.mem_append.mp hx with hx | hx
      · rw [List.eq_of_mem_replicate hx]
        decide
      · exact hdigits x hx
    · rw [hcons, digitsValue_zeros, digitsValue_toDigits]
    · rw [List.length_append, List.length_replicate, ← hcount]
      omega
  · by_cases hhigh : ((Nat.toDigits 10 c).length : Int) ≤ dot
    · have hzeros : (dot - (Nat.toDigits 10 c).length).toNat = 0 := by omega
      have hpointed : pointed (Nat.toDigits 10 c) dot = Nat.toDigits 10 c := by
        rw [pointed, if_neg hlow, if_pos hhigh, hzeros, List.replicate_zero, List.append_nil]
      refine ⟨Nat.toDigits 10 c, [], .inr ⟨hpointed, rfl⟩, ?_, ?_, ?_, ?_⟩
      · rwa [List.append_nil]
      · rw [List.append_nil, digitsValue_toDigits]
      · rw [List.append_nil]
        exact Nat.toDigits_ne_nil
      · rw [List.length_nil]
        omega
    · have hpointed : pointed (Nat.toDigits 10 c) dot =
          (Nat.toDigits 10 c).take dot.toNat ++ '.' :: (Nat.toDigits 10 c).drop dot.toNat := by
        rw [pointed, if_neg hlow, if_neg hhigh]
      refine ⟨(Nat.toDigits 10 c).take dot.toNat, (Nat.toDigits 10 c).drop dot.toNat, .inl hpointed, ?_, ?_, ?_, ?_⟩
      · rwa [List.take_append_drop]
      · rw [List.take_append_drop, digitsValue_toDigits]
      · rw [List.take_append_drop]
        exact Nat.toDigits_ne_nil
      · rw [List.length_drop, ← hcount]
        omega

theorem readFinite_finiteText (h : Readable c e) : readFinite (finiteText c e) = some (c, e) := by
  have hdot : ∀ left : Int, left = e + Decimal.digitCount c →
      (if e ≤ 0 ∧ -6 < left then left else 1) = e + Decimal.digitCount c ∧ e ≤ 0 ∨
        (if e ≤ 0 ∧ -6 < left then left else 1) = 1 := by
    intro left hleft
    split
    · rename_i hcond
      exact .inl ⟨hleft, hcond.1⟩
    · exact .inr rfl
  obtain ⟨w, f, hparts, hdigits, hvalue, hne, hexp⟩ := pointed_parts c e (hdot _ rfl)
  have hread := readFinite_parts (x := e + Decimal.digitCount c -
    (if e ≤ 0 ∧ -6 < e + Decimal.digitCount c then e + Decimal.digitCount c else 1)) hparts hdigits hvalue hne
    (by rw [hexp]; exact h.least) (by rw [hexp]; exact h.largest)
  rw [hexp] at hread
  exact hread

/-- The text begins with a digit. -/
theorem finiteText_head (c : Nat) (e : Int) : ∃ d rest, finiteText c e = d :: rest ∧ d.isDigit = true := by
  have hdigits : ∀ x ∈ Nat.toDigits 10 c, x.isDigit = true :=
    fun x hx => Nat.isDigit_of_mem_toDigits (by decide) (by decide) hx
  obtain ⟨d, rest, hd⟩ := List.exists_cons_of_ne_nil (Nat.toDigits_ne_nil (n := c) (b := 10))
  have hhead := hdigits d (hd ▸ List.mem_cons_self)
  unfold finiteText
  dsimp only
  generalize (if e ≤ 0 ∧ -6 < e + ((Nat.toDigits 10 c).length : Int) then
    e + ((Nat.toDigits 10 c).length : Int) else 1) = dot
  unfold pointed
  split
  · exact ⟨'0', _, rfl, by decide⟩
  · rename_i hlow
    split
    · rw [hd]
      exact ⟨d, _, rfl, hhead⟩
    · obtain ⟨k, hk⟩ : ∃ k, dot.toNat = k + 1 := ⟨dot.toNat - 1, by omega⟩
      rw [hd, hk, List.take_succ_cons]
      exact ⟨d, _, rfl, hhead⟩

/-- The characters of a number. -/
def isNumberChar (c : Char) : Bool := c.isDigit || ['.', 'E', '+', '-'].contains c

theorem isNumberChar_plain {c : Char} (h : isNumberChar c = true) :
    c.toNat < 127 ∧ isPySpace c = false ∧ (c != '_') = true := by
  simp only [isNumberChar, Bool.or_eq_true, List.contains_iff_mem, List.mem_cons, List.not_mem_nil, or_false] at h
  rcases h with h | rfl | rfl | rfl | rfl
  · have hdigit := isDigit_toNat.mp h
    exact ⟨by omega, digit_not_space h, bne_iff_ne.mpr (digit_ne_underscore h)⟩
  · decide
  · decide
  · decide
  · decide

theorem isNumberChar_toDigits {n : Nat} {c : Char} (h : c ∈ Nat.toDigits 10 n) : isNumberChar c = true := by
  rw [isNumberChar, Nat.isDigit_of_mem_toDigits (by decide) (by decide) h, Bool.true_or]

theorem exponentText_chars {x : Int} {c : Char} (h : c ∈ exponentText x) : isNumberChar c = true := by
  unfold exponentText at h
  split at h
  · cases h
  · rcases List.mem_cons.mp h with rfl | h
    · decide
    · rcases List.mem_cons.mp h with rfl | h
      · split <;> decide
      · exact isNumberChar_toDigits h

theorem finiteText_chars : ∀ x ∈ finiteText c e, isNumberChar x = true := by
  intro x hx
  rcases List.mem_append.mp hx with hx | hx
  · have hdot : (if e ≤ 0 ∧ -6 < e + ((Nat.toDigits 10 c).length : Int) then
        e + ((Nat.toDigits 10 c).length : Int) else 1) = e + Decimal.digitCount c ∧ e ≤ 0 ∨
          (if e ≤ 0 ∧ -6 < e + ((Nat.toDigits 10 c).length : Int) then
            e + ((Nat.toDigits 10 c).length : Int) else 1) = 1 := by
      split
      · rename_i hplain
        exact .inl ⟨rfl, hplain.1⟩
      · exact .inr rfl
    obtain ⟨w, f, hparts, hdigits, -⟩ := pointed_parts c e hdot
    have hmem : x = '.' ∨ x ∈ w ++ f := by
      rcases hparts with hp | ⟨hp, -⟩
      · rw [hp] at hx
        simp only [List.mem_append, List.mem_cons] at hx ⊢
        tauto
      · exact .inr (List.mem_append_left f (hp ▸ hx))
    rcases hmem with rfl | hmem
    · decide
    · rw [isNumberChar, hdigits x hmem, Bool.true_or]
  · exact exponentText_chars hx

/-- `Decimal()` takes nothing away from the characters of a number. -/
theorem trim_number (hne : s ≠ []) (h : ∀ c ∈ s, isNumberChar c = true) :
    (Trim.trim isPySpace ((String.ofList s).toList.map u.toAscii)).filter (· != '_') = s := by
  have hascii : s.map u.toAscii = s := by
    conv_rhs => rw [← List.map_id s]
    refine List.map_congr_left fun c hc => ?_
    rw [Decimals.toAscii, if_pos (isNumberChar_plain (h c hc)).1]
    rfl
  have htrim : Trim.trim isPySpace s = s := by
    have hcore := @Trim.trim_append _ isPySpace [] s [] (by simp) (fun c hc => (isNumberChar_plain (h c hc)).2.1) hne
      (by simp)
    rwa [List.nil_append, List.append_nil] at hcore
  have hfilter : s.filter (· != '_') = s := List.filter_eq_self.mpr fun c hc => (isNumberChar_plain (h c hc)).2.2
  rw [String.toList_ofList, hascii, htrim, hfilter]

/-- **`Decimal(str(d))` is `d`**, for every finite number within the limits. -/
theorem decimal_toStr (u : Decimals) (negative : Bool) (h : Readable c e) :
    u.decimal (toStr (.finite negative c e)) = some (.finite negative c e) := by
  obtain ⟨d, rest, htext, hd⟩ := finiteText_head c e
  have hread : readMagnitude negative (d :: rest) = some (.finite negative c e) := by
    rw [readMagnitude_of_digit negative hd, ← htext, readFinite_finiteText h]
    rfl
  have hchars : ∀ x ∈ d :: rest, isNumberChar x = true := htext ▸ finiteText_chars
  cases negative with
  | true =>
    have hchars' : ∀ x ∈ '-' :: d :: rest, isNumberChar x = true := by
      intro x hx
      rcases List.mem_cons.mp hx with rfl | hx
      · decide
      · exact hchars x hx
    rw [toStr, if_pos rfl, htext, decimal_eq, List.singleton_append, trim_number (List.cons_ne_nil _ _) hchars']
    exact hread
  | false =>
    obtain ⟨hplus, hminus⟩ := digit_not_sign hd
    rw [toStr, if_neg (by decide), htext, decimal_eq, List.nil_append, trim_number (List.cons_ne_nil _ _) hchars]
    split
    · exact absurd (List.cons.inj ‹_›).1 hplus
    · exact absurd (List.cons.inj ‹_›).1 hminus
    · exact hread

end Text

end PyDecimal
end HostedFacilitator
