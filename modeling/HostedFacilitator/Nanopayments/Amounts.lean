import HostedFacilitator.Python.Arithmetic

/-!
# USDC amounts

`_decimal_to_atomic` multiplies a decimal text by a million and refuses it unless the product is an integer, and
`_atomic_to_decimal` divides. Both work in the default context, so the test for an integer sees the product rounded to 28
digits: an amount with a digit beyond them is taken for another one (`conversion_exact_iff`).
-/

namespace HostedFacilitator
namespace Nanopayments

/-! ## The conversions -/

/-- A text that is no number. -/
def conversionSyntax : PyErr := .other "InvalidOperation" "[<class 'decimal.ConversionSyntax'>]"

/-- `_decimal_to_atomic`. -/
def decimalToAtomic (u : Decimals) (amountDecimal : String) : Except PyErr Int :=
  match u.decimal amountDecimal with
  | none => .error conversionSyntax
  | some amount => do
    let scaled ← amount.mulNat 1000000
    if scaled.eq scaled.toIntegralValue then scaled.toInt
    else .error (.value ("USDC amount has more than 6 decimal places: " ++ amountDecimal))

/-- `_atomic_to_decimal`, on the text of the amount. -/
def atomicTextToDecimal (u : Decimals) (amountAtomic : String) : Except PyErr String :=
  match u.decimal amountAtomic with
  | none => .error conversionSyntax
  | some amount => (amount.divNat 1000000).map PyDecimal.toStr

/-- `_atomic_to_decimal`, on an integer. -/
def atomicToDecimal (u : Decimals) (amountAtomic : Int) : Except PyErr String := do
  let text ← strInt amountAtomic
  atomicTextToDecimal u text

/-- The text is a number of `k` millionths. -/
def Denotes (u : Decimals) (s : String) (k : Int) : Prop :=
  ∃ d, u.decimal s = some d ∧ d.number = .rational (k / 10 ^ 6)

/-! ## From a text -/

/-- The product in the context keeps what decides: an integer is kept as it is, and a fraction stays one (or is too
large altogether). -/
def KeepsInteger : PyDecimal → Prop
  | .finite _ c e =>
    let r := Decimal.reduce (c * 1000000) e
    let rounded := r.round 28 leastExponent
    if 0 ≤ r.exponent then
      Decimal.digitCount r.coefficient ≤ 28 ∧ r.exponent + Decimal.digitCount r.coefficient - 1 ≤ largestExponent
    else
      rounded.exponent < 0 ∨ largestExponent < rounded.exponent + Decimal.digitCount rounded.coefficient - 1
  | _ => True

section FromText

open PyDecimal

variable {u : Decimals} {s : String} {negative : Bool} {c : Nat} {e k : Int}

/-- What the conversion returns: the product, rounded, if it is an integer. -/
theorem decimalToAtomic_ok (h : u.decimal s = some (.finite negative c e)) :
    decimalToAtomic u s = .ok k ↔
      ((Decimal.reduce (c * 1000000) e).round 28 leastExponent).exponent +
          Decimal.digitCount ((Decimal.reduce (c * 1000000) e).round 28 leastExponent).coefficient - 1 ≤ largestExponent ∧
        ∃ m : Nat, ((Decimal.reduce (c * 1000000) e).round 28 leastExponent).value = m ∧ k = signed negative m := by
  simp only [decimalToAtomic, h, mulNat]
  rcases fix_cases negative (c * 1000000) e with ⟨hover, err, hfix⟩ | ⟨hfits, n, e', hfix, -, hvalue⟩
  · rw [hfix]
    exact iff_of_false (by rintro ⟨⟩) fun h => by omega
  · rw [hfix, ← hvalue]
    refine Iff.trans ?_ (and_iff_right hfits).symm
    show (if eq (.finite negative n e') (toIntegralValue (.finite negative n e')) = true then
      toInt (.finite negative n e') else _) = .ok k ↔ _
    by_cases hinteger : ∃ m : Nat, value n e' = m
    · obtain ⟨m, hm⟩ := hinteger
      rw [if_pos ((eq_toIntegralValue _ _ _).mpr ⟨m, hm⟩), toInt_of_integral hm]
      constructor
      · rintro ⟨⟩
        exact ⟨m, hm, rfl⟩
      · rintro ⟨m', hm', rfl⟩
        have : m = m' := by exact_mod_cast hm.symm.trans hm'
        rw [this]
    · rw [if_neg (mt (eq_toIntegralValue _ _ _).mp hinteger)]
      refine iff_of_false (by rintro ⟨⟩) ?_
      rintro ⟨m, hm, -⟩
      exact hinteger ⟨m, hm⟩

/-- What the text denotes: the product as it is, if it is an integer. -/
theorem denotes_iff (h : u.decimal s = some (.finite negative c e)) :
    Denotes u s k ↔ ∃ m : Nat, (Decimal.reduce (c * 1000000) e).value = m ∧ k = signed negative m := by
  have hvalue : (Decimal.reduce (c * 1000000) e).value = c * (10 : ℚ) ^ e * 10 ^ 6 := by
    rw [Decimal.value_reduce]
    push_cast
    ring
  have hnonneg : (0 : ℚ) ≤ c * (10 : ℚ) ^ e * 10 ^ 6 :=
    mul_nonneg (mul_nonneg (Nat.cast_nonneg c) (zpow_nonneg (by norm_num) e)) (by norm_num)
  have hdenotes : Denotes u s k ↔ (if negative then -1 else 1) * (c * (10 : ℚ) ^ e) = k / 10 ^ 6 := by
    rw [Denotes]
    simp only [h, Option.some.injEq, exists_eq_left', PyDecimal.number, Number.rational.injEq]
  rw [hdenotes, eq_div_iff (by norm_num), hvalue]
  generalize (c : ℚ) * (10 : ℚ) ^ e = q at hnonneg ⊢
  cases negative with
  | false =>
    rw [if_neg (by decide), one_mul]
    constructor
    · intro hk
      have hpos : 0 ≤ k := by exact_mod_cast hk ▸ hnonneg
      obtain ⟨m, rfl⟩ := Int.eq_ofNat_of_zero_le hpos
      exact ⟨m, hk, rfl⟩
    · rintro ⟨m, hm, rfl⟩
      exact hm
  | true =>
    rw [if_pos rfl, neg_one_mul, neg_mul]
    constructor
    · intro hk
      have hq : q * 10 ^ 6 = ((-k : Int) : ℚ) := by
        push_cast
        linarith
      have hpos : 0 ≤ -k := by exact_mod_cast hq ▸ hnonneg
      obtain ⟨m, hm⟩ := Int.eq_ofNat_of_zero_le hpos
      refine ⟨m, by rw [hq, hm]; rfl, ?_⟩
      rw [signed, if_pos rfl]
      omega
    · rintro ⟨m, hm, rfl⟩
      rw [hm, signed, if_pos rfl]
      push_cast
      rfl

theorem decimal_exact_iff (u : Decimals) (s : String) :
    (∀ k, decimalToAtomic u s = .ok k ↔ Denotes u s k) ↔ ∀ d, u.decimal s = some d → KeepsInteger d := by
  cases hs : u.decimal s with
  | none =>
    refine iff_of_true (fun k => iff_of_false ?_ ?_) (by rintro d ⟨⟩)
    · simp [decimalToAtomic, hs]
    · simp [Denotes, hs]
  | some d =>
    simp only [Option.some.injEq, forall_eq']
    cases d with
    | infinity negative =>
      refine iff_of_true (fun k => iff_of_false ?_ ?_) trivial
      · have hraises : ∃ err, decimalToAtomic u s = .error err := by
          simp only [decimalToAtomic, hs]
          cases negative <;> exact ⟨_, rfl⟩
        obtain ⟨err, herr⟩ := hraises
        rw [herr]
        rintro ⟨⟩
      · simp [Denotes, hs, PyDecimal.number]
    | nan negative signaling payload =>
      refine iff_of_true (fun k => iff_of_false ?_ ?_) trivial
      · cases signaling <;> simp only [decimalToAtomic, hs, mulNat, propagate] <;> rintro ⟨⟩
      · simp [Denotes, hs, PyDecimal.number]
    | finite negative c e =>
      simp only [decimalToAtomic_ok hs, denotes_iff hs, KeepsInteger]
      generalize Decimal.reduce (c * 1000000) e = r
      by_cases hinteger : 0 ≤ r.exponent
      · rw [if_pos hinteger]
        obtain ⟨m, hm⟩ := Decimal.Reduced.integral_iff.mpr hinteger
        have hleast : leastExponent ≤ r.exponent := le_trans (by decide) hinteger
        rw [← Decimal.Reduced.round_eq_self_iff (by decide) hleast]
        constructor
        · intro hall
          obtain ⟨hlargest, m', hm', heq⟩ := (hall (signed negative m)).mpr ⟨m, hm, rfl⟩
          have hround : r.round 28 leastExponent = r := by
            rw [← Decimal.Reduced.value_inj, hm', hm, signed_inj.mp heq]
          exact ⟨hround, hround ▸ hlargest⟩
        · rintro ⟨hround, hlargest⟩ k
          rw [hround]
          exact and_iff_right hlargest
      · rw [if_neg hinteger]
        have hnone : ∀ k, ¬∃ m : Nat, r.value = m ∧ k = signed negative m := by
          rintro k ⟨m, hm, -⟩
          exact hinteger (Decimal.Reduced.integral_iff.mp ⟨m, hm⟩)
        constructor
        · intro hall
          by_contra hexact
          rw [not_or, not_lt, not_lt] at hexact
          obtain ⟨m, hm⟩ := Decimal.Reduced.integral_iff.mpr hexact.1
          exact hnone _ ((hall (signed negative m)).mp ⟨hexact.2, m, hm, rfl⟩)
        · refine fun hexact k => iff_of_false ?_ (hnone k)
          rintro ⟨hlargest, m, hm, -⟩
          have hpos := Decimal.Reduced.integral_iff.mp ⟨m, hm⟩
          omega

end FromText

/-! ## From an integer and back -/

section RoundTrip

open PyDecimal

variable {u : Decimals}

theorem finiteText_integer (c : Nat) : finiteText c 0 = Nat.toDigits 10 c := by
  have hpos := Decimal.digitCount_pos c
  have hlength : ((Nat.toDigits 10 c).length : Int) = Decimal.digitCount c := rfl
  have hdot : (if (0 : Int) ≤ 0 ∧ -6 < 0 + ((Nat.toDigits 10 c).length : Int) then 0 + ((Nat.toDigits 10 c).length : Int)
      else 1) = (Nat.toDigits 10 c).length := by
    rw [if_pos ⟨le_rfl, by omega⟩, zero_add]
  have hpointed : pointed (Nat.toDigits 10 c) (Nat.toDigits 10 c).length = Nat.toDigits 10 c := by
    rw [pointed, if_neg (by omega), if_pos le_rfl, Int.sub_self]
    simp
  unfold finiteText
  dsimp only
  rw [hdot, hpointed, zero_add, Int.sub_self]
  exact List.append_nil _

/-- `str(n)` is the text of a decimal number without an exponent. -/
theorem toString_int (n : Int) : toString n = toStr (.finite (decide (n < 0)) n.natAbs 0) := by
  rw [toStr, finiteText_integer]
  rcases le_or_gt 0 n with hn | hn
  · obtain ⟨m, rfl⟩ := Int.eq_ofNat_of_zero_le hn
    rw [decide_eq_false (not_lt.mpr hn), toString_nat]
    rfl
  · obtain ⟨m, hm⟩ := Int.eq_ofNat_of_zero_le (a := -n) (by omega)
    obtain rfl : n = -(m : Int) := by omega
    rw [decide_eq_true hn, toString_neg (by omega), Int.natAbs_neg, Int.natAbs_natCast]
    rfl

theorem strInt_eq (n : Int) :
    strInt n = if Decimal.digitCount n.natAbs ≤ 4300 then .ok (toString n)
      else .error (.value "Exceeds the limit (4300 digits) for integer string conversion") := by
  have hlength : (toString n.natAbs).length = Decimal.digitCount n.natAbs := by
    show (Nat.repr n.natAbs).length = _
    rw [Nat.repr_eq_ofList_toDigits, String.length_ofList]
    rfl
  rw [strInt, hlength]

/-- What `_atomic_to_decimal` makes of an integer: nothing where `str()` refuses it. -/
theorem atomicToDecimal_ok {n : Int} {t : String} :
    atomicToDecimal u n = .ok t ↔
      Decimal.digitCount n.natAbs ≤ 4300 ∧
        ∃ d, divNat 1000000 (.finite (decide (n < 0)) n.natAbs 0) = .ok d ∧ d.toStr = t := by
  have hread : Decimal.digitCount n.natAbs ≤ 4300 →
      u.decimal (toString n) = some (.finite (decide (n < 0)) n.natAbs 0) := by
    intro h
    have hreadable : Readable n.natAbs 0 := ⟨by decide, by omega⟩
    rw [toString_int]
    exact decimal_toStr u (decide (n < 0)) hreadable
  rw [atomicToDecimal, bind_ok, strInt_eq]
  by_cases h : Decimal.digitCount n.natAbs ≤ 4300
  · simp only [if_pos h, Except.ok.injEq, exists_eq_left', and_iff_right h, atomicTextToDecimal, hread h, map_ok]
  · simp only [h, if_false, reduceCtorEq, false_and, exists_false]

/-- The number written by `_atomic_to_decimal`, read and multiplied: its coefficient has at most 28 digits, so nothing
is rounded. -/
theorem decimalToAtomic_toStr {negative : Bool} {c : Nat} {e k : Int} (h : Fits c e) :
    decimalToAtomic u (toStr (.finite negative c e)) = .ok k ↔
      (Decimal.reduce c (e + 6)).exponent + Decimal.digitCount (Decimal.reduce c (e + 6)).coefficient - 1 ≤
          largestExponent ∧
        ∃ m : Nat, value c (e + 6) = m ∧ k = signed negative m := by
  have hreduce : Decimal.reduce (c * 1000000) e = Decimal.reduce c (e + 6) := by
    rw [← Decimal.Reduced.value_inj, value_reduce, value_reduce, show 1000000 = 10 ^ 6 by norm_num, value_mul_pow]
    rfl
  have hleast : leastExponent ≤ (Decimal.reduce c (e + 6)).exponent := by
    rcases Nat.eq_zero_or_pos c with rfl | hc
    · exact (by decide : leastExponent ≤ 0)
    · obtain ⟨t, -, he⟩ := Decimal.reduce_eq hc (e + 6)
      have := h.least
      omega
  have hshort : Decimal.digitCount (Decimal.reduce c (e + 6)).coefficient ≤ 28 :=
    (Decimal.Reduced.digitCount_reduce_le (e + 6)).trans h.digits
  rw [decimalToAtomic_ok (decimal_toStr u negative h.readable), hreduce,
    (Decimal.Reduced.round_eq_self_iff (by decide) hleast).mpr hshort, value_reduce]

theorem signed_natAbs (n : Int) {m : Nat} : n = signed (decide (n < 0)) m ↔ m = n.natAbs := by
  unfold signed
  rcases lt_or_ge n 0 with hn | hn
  · rw [decide_eq_true hn, if_pos rfl]
    omega
  · rw [decide_eq_false (not_lt.mpr hn), if_neg (by decide)]
    omega

/-- The first digit of an integer, and of a fraction of it. -/
theorem adjusted_reduce (c : Nat) (e : Int) :
    (Decimal.reduce c e).exponent + Decimal.digitCount (Decimal.reduce c e).coefficient =
      if c = 0 then 1 else Decimal.digitCount c + e := by
  split
  · rename_i hc
    subst hc
    show (0 : Int) + Decimal.digitCount 0 = 1
    decide
  · rename_i hc
    obtain ⟨t, hct, he⟩ := Decimal.reduce_eq (Nat.pos_of_ne_zero hc) e
    have hpos := Decimal.reduce_coefficient_pos (Nat.pos_of_ne_zero hc) e
    have hdigits := Decimal.digitCount_mul_pow hpos t
    rw [← hct] at hdigits
    omega

/-- The number divided by a million has the digits of the number. -/
theorem round_millionth {c c' : Nat} {e' : Int} (hvalue : value c' e' = value c (-6))
    (hshort : Decimal.digitCount (Decimal.reduce c 0).coefficient ≤ 28) :
    (Decimal.reduce c' e').round 28 leastExponent = Decimal.reduce c (-6) := by
  have hsame : Decimal.reduce c' e' = Decimal.reduce c (-6) := by
    rw [← Decimal.Reduced.value_inj, value_reduce, value_reduce, hvalue]
  rw [hsame]
  have hfields : leastExponent ≤ (Decimal.reduce c (-6)).exponent ∧
      Decimal.digitCount (Decimal.reduce c (-6)).coefficient ≤ 28 := by
    rcases Nat.eq_zero_or_pos c with rfl | hc
    · decide
    · obtain ⟨hcoeff, hexp⟩ := Decimal.reduce_shift hc (-6)
      obtain ⟨t, -, he⟩ := Decimal.reduce_eq hc 0
      have hleast : leastExponent = -1000026 := rfl
      rw [hcoeff]
      exact ⟨by omega, hshort⟩
  exact (Decimal.Reduced.round_eq_self_iff (by decide) hfields.1).mpr hfields.2

theorem round_trip_iff (u : Decimals) (n : Int) :
    (∃ t, atomicToDecimal u n = .ok t ∧ decimalToAtomic u t = .ok n) ↔
      Decimal.digitCount (Decimal.reduce n.natAbs 0).coefficient ≤ 28 ∧ Decimal.digitCount n.natAbs ≤ 4300 := by
  simp only [atomicToDecimal_ok]
  constructor
  · rintro ⟨t, ⟨hlong, d, hdiv, rfl⟩, h⟩
    refine ⟨?_, hlong⟩
    obtain ⟨c', e', hfix⟩ := divNat_fix (decide (n < 0)) n.natAbs 1000000
    rw [hfix] at hdiv
    rcases fix_cases (decide (n < 0)) c' e' with ⟨-, err, herr⟩ | ⟨-, m, e, hok, hfits, -⟩
    · rw [herr] at hdiv
      cases hdiv
    · rw [hok] at hdiv
      obtain rfl := Except.ok.inj hdiv
      obtain ⟨-, k, hk, hn⟩ := (decimalToAtomic_toStr hfits).mp h
      rw [signed_natAbs] at hn
      -- the number read is `n`, with at most 28 digits
      have hsame : Decimal.reduce n.natAbs 0 = Decimal.reduce m (e + 6) := by
        rw [← Decimal.Reduced.value_inj, value_reduce, value_reduce, hk, hn]
        simp [value]
      rw [hsame]
      exact (Decimal.Reduced.digitCount_reduce_le (e + 6)).trans hfits.digits
  · rintro ⟨hshort, hlong⟩
    obtain ⟨c', e', hdiv, hvalue⟩ := divNat_short (decide (n < 0)) hshort
    have hround := round_millionth hvalue hshort
    have hlargest : largestExponent = 999999 := rfl
    have hquotient := adjusted_reduce n.natAbs (-6)
    have hnumber := adjusted_reduce n.natAbs 0
    rcases fix_cases (decide (n < 0)) c' e' with ⟨hover, -⟩ | ⟨-, m, e, hok, hfits, hm⟩
    · rw [hround] at hover
      split at hquotient <;> omega
    · rw [hround, value_reduce] at hm
      have hback : value m (e + 6) = n.natAbs := by
        have hshift : value (m * 10 ^ 6) e = value m (e + 6) := value_mul_pow m 6 e
        have hmul : value (m * 10 ^ 6) e = value m e * 10 ^ 6 := by
          rw [value, value]
          push_cast
          ring
        have hmul' : value n.natAbs (-6) * 10 ^ 6 = n.natAbs := by
          rw [value, mul_assoc]
          norm_num
        rw [← hshift, hmul, hm, hmul']
      have hsame : Decimal.reduce m (e + 6) = Decimal.reduce n.natAbs 0 := by
        rw [← Decimal.Reduced.value_inj, value_reduce, value_reduce, hback]
        simp [value]
      refine ⟨_, ⟨hlong, _, hdiv.trans hok, rfl⟩, (decimalToAtomic_toStr hfits).mpr ⟨?_, n.natAbs, hback, ?_⟩⟩
      · rw [hsame]
        split at hnumber <;> omega
      · rw [signed_natAbs]

end RoundTrip

/-- **The conversions are exact** on the amounts whose millionths keep within 28 digits, and from an integer and back on
the integers of at most 28 significant digits. -/
theorem conversion_exact_iff (u : Decimals) :
    (∀ s, (∀ k, decimalToAtomic u s = .ok k ↔ Denotes u s k) ↔ ∀ d, u.decimal s = some d → KeepsInteger d) ∧
    ∀ n : Int, (∃ t, atomicToDecimal u n = .ok t ∧ decimalToAtomic u t = .ok n) ↔
      Decimal.digitCount (Decimal.reduce n.natAbs 0).coefficient ≤ 28 ∧ Decimal.digitCount n.natAbs ≤ 4300 :=
  ⟨decimal_exact_iff u, round_trip_iff u⟩

/-- An amount with 38 decimal places is taken for a millionth. -/
theorem conversion_inexact :
    ¬∀ (u : Decimals) (s : String) (k : Int), decimalToAtomic u s = .ok k ↔ Denotes u s k := by
  intro hall
  have hread : Decimals.ascii.decimal "0.00000099999999999999999999999999999999" =
      some (.finite false 99999999999999999999999999999999 (-38)) := by
    decide +kernel
  have hreturns : (decimalToAtomic .ascii "0.00000099999999999999999999999999999999").toOption = some 1 := by
    decide +kernel
  have hok : decimalToAtomic .ascii "0.00000099999999999999999999999999999999" = .ok 1 := by
    cases h : decimalToAtomic .ascii "0.00000099999999999999999999999999999999" with
    | error err =>
      rw [h] at hreturns
      cases hreturns
    | ok k =>
      rw [h] at hreturns
      exact congrArg Except.ok (Option.some.inj hreturns)
  obtain ⟨d, hd, hnumber⟩ := (hall _ _ _).mp hok
  obtain rfl := Option.some.inj (hread.symm.trans hd)
  have hq := Number.rational.inj hnumber
  norm_num at hq

end Nanopayments
end HostedFacilitator
