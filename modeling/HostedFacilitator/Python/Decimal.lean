import HostedFacilitator.Lib.Decimal
import HostedFacilitator.Python.Numbers

/-!
# Texts as decimal numbers

`decimal.Decimal(text)` takes a text apart exactly. The code then asks whether the number is an integer, writes an integer
with `str(int(number))` and every other number with `format(number.normalize(), "f")`, and `normalize()` rounds to the
28 digits of the default context. All of this depends on the value of the number, so it works on the reduced spelling.

Two numbers are written alike exactly when they are rounded alike (`spelled_inj`), and equal numbers always are
(`spelling_of_number`).
-/

namespace HostedFacilitator

/-- A `decimal.Decimal`. -/
inductive PyDecimal where
  | finite (negative : Bool) (coefficient : Nat) (exponent : Int)
  | infinity (negative : Bool)
  | nan (negative signaling : Bool) (payload : Nat)
  deriving DecidableEq

/-! ## Reading -/

/-- A number written in ASCII digits only, after `acc`. -/
def digitsValue : Nat → List Char → Option Nat
  | acc, [] => some acc
  | acc, c :: rest => if c.isDigit then digitsValue (10 * acc + (c.toNat - 48)) rest else none

/-- The exponent part: nothing, or an `e`, an optional sign and digits. -/
def readExponent : List Char → Option Int
  | [] => some 0
  | [_] => none
  | _ :: '+' :: ds => if ds.isEmpty then none else (digitsValue 0 ds).map Int.ofNat
  | _ :: '-' :: ds => if ds.isEmpty then none else (digitsValue 0 ds).map fun n => -(n : Int)
  | _ :: ds => (digitsValue 0 ds).map Int.ofNat

/-- A finite number without its sign: digits with at most one point among them, then the exponent. The exponent stays
within the limits of the library. -/
def readFinite (s : List Char) : Option (Nat × Int) := do
  let isExponent (c : Char) : Bool := c == 'e' || c == 'E'
  let mantissa := s.takeWhile (!isExponent ·)
  let whole := mantissa.takeWhile (· != '.')
  let fraction := (mantissa.dropWhile (· != '.')).drop 1
  if (whole ++ fraction).isEmpty then none
  else
    let c ← digitsValue 0 (whole ++ fraction)
    let exponent ← readExponent (s.dropWhile (!isExponent ·))
    let e := exponent - fraction.length
    if e < -1999999999999999997 ∨ 999999999999999999 < e + Decimal.digitCount c - 1 then none else some (c, e)

/-- The part after the sign: a NaN with digits as its payload, an infinity, or a finite number. -/
def readMagnitude (negative : Bool) (s : List Char) : Option PyDecimal :=
  let lower := s.map Char.toLower
  if lower.take 3 = ['n', 'a', 'n'] then (digitsValue 0 (s.drop 3)).map (.nan negative false)
  else if lower.take 4 = ['s', 'n', 'a', 'n'] then (digitsValue 0 (s.drop 4)).map (.nan negative true)
  else if lower = ['i', 'n', 'f'] ∨ lower = ['i', 'n', 'f', 'i', 'n', 'i', 't', 'y'] then some (.infinity negative)
  else (readFinite s).map fun n => .finite negative n.1 n.2

/-- `Decimal(text)`; `none` is an `InvalidOperation`. Underscores do not count. -/
def Decimals.decimal (u : Decimals) (s : String) : Option PyDecimal :=
  match ((strip s).toList.filter (· != '_')).map u.toAscii with
  | '+' :: rest => readMagnitude false rest
  | '-' :: rest => readMagnitude true rest
  | rest => readMagnitude false rest

theorem decimal_empty (u : Decimals) : u.decimal "" = none := by
  have hchars : (strip "").toList = [] := by decide +kernel
  rw [Decimals.decimal, hchars]
  rfl

theorem decimal_zero (u : Decimals) : u.decimal "0" = some (.finite false 0 0) := by
  have hchars : (strip "0").toList = ['0'] := by decide +kernel
  have hread : readMagnitude false ['0'] = some (.finite false 0 0) := by decide +kernel
  rw [Decimals.decimal, hchars]
  exact hread

/-! ## Writing -/

/-- `Etiny` of the default context. -/
def leastExponent : Int := -1000026

/-- `Emax` of the default context. -/
def largestExponent : Int := 999999

/-- The text of a quiet NaN; the context keeps 28 digits of the payload. -/
def nanText (negative : Bool) (payload : Nat) : String :=
  (if negative then "-" else "") ++ "NaN" ++ (if payload = 0 then "" else toString payload)

/-- What the code learns from a number. -/
def PyDecimal.reading : PyDecimal → DecimalReading
  | .infinity _ => .raises (.other "OverflowError" "cannot convert Infinity to integer")
  | .nan _ true _ => .raises (.other "InvalidOperation" "[<class 'decimal.InvalidOperation'>]")
  | .nan negative false payload => .fractional (nanText negative (payload % 10 ^ 28))
  | .finite negative c e =>
    let r := Decimal.reduce c e
    if 0 ≤ r.exponent then
      if 4300 < Decimal.digitCount r.coefficient + r.exponent.toNat then
        .raises (.value "Exceeds the limit (4300 digits) for integer string conversion")
      else
        let n : Int := r.coefficient * 10 ^ r.exponent.toNat
        .integral (if negative then -n else n)
    else
      let rounded := r.round 28 leastExponent
      if largestExponent < rounded.exponent + Decimal.digitCount rounded.coefficient - 1 then
        .raises (.other "Overflow" "[<class 'decimal.Overflow'>]")
      else .fractional (Decimal.plain negative rounded)

/-- The code's arithmetic raises: the number is an infinity, a signaling NaN, an integer that is too long for `str()`, or
another number that is too large once it is rounded. -/
def PyDecimal.raises : PyDecimal → Bool
  | .infinity _ => true
  | .nan _ signaling _ => signaling
  | .finite _ c e =>
    let r := Decimal.reduce c e
    if 0 ≤ r.exponent then decide (4300 < Decimal.digitCount r.coefficient + r.exponent.toNat)
    else
      let rounded := r.round 28 leastExponent
      decide (largestExponent < rounded.exponent + Decimal.digitCount rounded.coefficient - 1)

/-- Such an exception is not the validator's. -/
theorem PyDecimal.reading_raises {d : PyDecimal} (h : d.raises = true) :
    ∃ e, d.reading = .raises e ∧ ∀ m, e ≠ .protocolValidation m := by
  cases d with
  | infinity negative => exact ⟨_, rfl, fun m hm => PyErr.noConfusion hm⟩
  | nan negative signaling payload =>
    cases signaling with
    | true => exact ⟨_, rfl, fun m hm => PyErr.noConfusion hm⟩
    | false => cases h
  | finite negative c e =>
    simp only [raises] at h
    simp only [reading]
    split at h
    · rename_i he
      rw [if_pos he, if_pos (of_decide_eq_true h)]
      exact ⟨_, rfl, fun m hm => PyErr.noConfusion hm⟩
    · rename_i he
      rw [if_neg he, if_pos (of_decide_eq_true h)]
      exact ⟨_, rfl, fun m hm => PyErr.noConfusion hm⟩

/-- Every other number is read as an integer or as a fraction. -/
theorem PyDecimal.reading_of_not_raises {d : PyDecimal} (h : d.raises = false) :
    (∃ n, d.reading = .integral n) ∨ ∃ t, d.reading = .fractional t := by
  cases d with
  | infinity negative => cases h
  | nan negative signaling payload =>
    cases signaling with
    | true => cases h
    | false => exact .inr ⟨_, rfl⟩
  | finite negative c e =>
    simp only [raises] at h
    simp only [reading]
    split at h
    · rename_i he
      rw [if_pos he, if_neg (of_decide_eq_false h)]
      exact .inl ⟨_, rfl⟩
    · rename_i he
      rw [if_neg he, if_neg (of_decide_eq_false h)]
      exact .inr ⟨_, rfl⟩

/-- What the code learns from `Decimal(text)`. -/
@[irreducible] def Decimals.read (u : Decimals) (s : String) : DecimalReading :=
  ((u.decimal s).map PyDecimal.reading).getD .invalid

/-- The text functions with Python's decimal numbers. -/
def Text.withDecimals (text : Text) (u : Decimals) : Text := { text with decimal := u.read }

/-! ## The number behind a text -/

/-- What a `Decimal` stands for. -/
inductive Number where
  | rational (q : ℚ)
  | infinity (negative : Bool)
  | nan (negative signaling : Bool) (payload : Nat)

def PyDecimal.number : PyDecimal → Number
  | .finite negative c e => .rational ((if negative then -1 else 1) * (c * (10 : ℚ) ^ e))
  | .infinity negative => .infinity negative
  | .nan negative signaling payload => .nan negative signaling payload

/-- A number as it is written: an integer as it is, another number rounded to 28 significant digits. -/
inductive Spelling where
  | fraction (negative : Bool) (r : Decimal.Reduced)
  | nan (negative : Bool) (payload : Nat)
  deriving DecidableEq

/-- The spelling of a number that is written at all. -/
def PyDecimal.spelling : PyDecimal → Option Spelling
  | .infinity _ | .nan _ true _ => none
  | .nan negative false payload => some (.nan negative (payload % 10 ^ 28))
  | .finite negative c e =>
    let r := Decimal.reduce c e
    if 0 ≤ r.exponent then some (.fraction (negative && r.coefficient != 0) r)
    else some (.fraction negative (r.round 28 leastExponent))

def Spelling.text : Spelling → String
  | .fraction negative r => Decimal.plain negative r
  | .nan negative payload => nanText negative payload

/-! ## What is written -/

section Written

variable {d d' : PyDecimal} {s s' : Spelling}

theorem toString_nat (n : Nat) : toString (n : Int) = String.ofList (Nat.toDigits 10 n) := by
  rw [← Nat.repr_eq_ofList_toDigits]
  rfl

theorem toString_neg {n : Nat} (h : n ≠ 0) : toString (-(n : Int)) = String.ofList ('-' :: Nat.toDigits 10 n) := by
  obtain ⟨k, rfl⟩ := Nat.exists_eq_succ_of_ne_zero h
  have hneg : toString (-((k.succ : Nat) : Int)) = "-" ++ Nat.repr k.succ := rfl
  rw [hneg, Nat.repr_eq_ofList_toDigits]
  rw [← String.toList_inj]
  simp

/-- An integer is written as `str(int(number))` writes it. -/
theorem plain_integer (negative : Bool) {r : Decimal.Reduced} (h : 0 ≤ r.exponent) :
    Decimal.plain (negative && r.coefficient != 0) r =
      toString (if negative then -((r.coefficient * 10 ^ r.exponent.toNat : Nat) : Int)
        else ((r.coefficient * 10 ^ r.exponent.toNat : Nat) : Int)) := by
  have hdigits : Decimal.digits r = Nat.toDigits 10 (r.coefficient * 10 ^ r.exponent.toNat) := by
    rw [Decimal.digits, if_pos h]
  rw [Decimal.plain, hdigits]
  cases negative with
  | false => rw [Bool.false_and, if_neg (by decide), if_neg (by decide), toString_nat]; rfl
  | true =>
    by_cases hc : r.coefficient = 0
    · rw [hc]
      simp
      decide
    · have hn : r.coefficient * 10 ^ r.exponent.toNat ≠ 0 := by positivity
      have hne : (r.coefficient != 0) = true := by simpa using hc
      rw [hne, if_pos rfl, toString_neg hn]
      rfl

theorem spelling_of_integral {n : Int} (h : d.reading = .integral n) :
    ∃ s, d.spelling = some s ∧ s.text = toString n := by
  cases d with
  | infinity negative => cases h
  | nan negative signaling payload => cases signaling <;> cases h
  | finite negative c e =>
    simp only [PyDecimal.reading] at h
    split at h
    · rename_i he
      split at h
      · cases h
      · cases h
        refine ⟨_, by rw [PyDecimal.spelling, if_pos he], ?_⟩
        have hplain := plain_integer negative he
        push_cast at hplain
        exact hplain
    · split at h <;> cases h

theorem spelling_of_fractional {t : String} (h : d.reading = .fractional t) :
    ∃ s, d.spelling = some s ∧ s.text = t := by
  cases d with
  | infinity negative => cases h
  | nan negative signaling payload =>
    cases signaling with
    | true => cases h
    | false => exact ⟨_, rfl, DecimalReading.fractional.inj h⟩
  | finite negative c e =>
    simp only [PyDecimal.reading] at h
    split at h
    · split at h <;> cases h
    · rename_i he
      split at h
      · cases h
      · exact ⟨.fraction negative _, by rw [PyDecimal.spelling, if_neg he], DecimalReading.fractional.inj h⟩

theorem nanText_toList (negative : Bool) (payload : Nat) :
    (nanText negative payload).toList = (if negative then ['-'] else []) ++ 'N' :: 'a' :: 'N' ::
      (if payload = 0 then [] else Nat.toDigits 10 payload) := by
  unfold nanText
  cases negative <;> by_cases h : payload = 0 <;> simp [h, toString, Nat.toList_repr]

/-- A NaN is not written like a fraction. -/
theorem n_not_mem_plain (negative : Bool) (r : Decimal.Reduced) : 'N' ∉ (Decimal.plain negative r).toList := by
  rw [Decimal.plain, String.toList_ofList, List.mem_append]
  rintro (h | h)
  · cases negative <;> simp at h
  · rcases Decimal.mem_digits h with h | h
    · exact absurd h (by decide)
    · exact absurd h (by decide)

theorem n_mem_nanText (negative : Bool) (payload : Nat) : 'N' ∈ (nanText negative payload).toList := by
  rw [nanText_toList]
  simp

theorem nanText_inj {negative negative' : Bool} {payload payload' : Nat}
    (h : nanText negative payload = nanText negative' payload') : negative = negative' ∧ payload = payload' := by
  have hlist := congrArg String.toList h
  rw [nanText_toList, nanText_toList] at hlist
  have hpayload : ∀ {p p' : Nat}, (if p = 0 then [] else Nat.toDigits 10 p) =
      (if p' = 0 then [] else Nat.toDigits 10 p') → p = p' := by
    intro p p' hp
    by_cases h0 : p = 0
    · by_cases h0' : p' = 0
      · exact h0.trans h0'.symm
      · rw [if_pos h0, if_neg h0'] at hp
        exact absurd hp.symm Nat.toDigits_ne_nil
    · by_cases h0' : p' = 0
      · rw [if_neg h0, if_pos h0'] at hp
        exact absurd hp Nat.toDigits_ne_nil
      · rw [if_neg h0, if_neg h0'] at hp
        exact Decimal.toDigits_inj hp
  cases negative <;> cases negative' <;> simp at hlist
  · exact ⟨rfl, hpayload hlist⟩
  · exact ⟨rfl, hpayload hlist⟩

/-- **Different spellings are different texts.** -/
theorem spelled_inj (h : s.text = s'.text) : s = s' := by
  cases s with
  | fraction negative r =>
    cases s' with
    | fraction negative' r' =>
      obtain ⟨rfl, rfl⟩ := Decimal.plain_inj h
      rfl
    | nan negative' payload' =>
      exact absurd (congrArg String.toList h ▸ n_mem_nanText negative' payload') (n_not_mem_plain negative r)
  | nan negative payload =>
    cases s' with
    | fraction negative' r' =>
      exact absurd (congrArg String.toList h ▸ n_mem_nanText negative payload) (n_not_mem_plain negative' r')
    | nan negative' payload' =>
      obtain ⟨rfl, rfl⟩ := nanText_inj h
      rfl

/-- A spelling of zero has no sign. -/
theorem spelling_zero {negative : Bool} {c : Nat} {e : Int} (h : (Decimal.reduce c e).value = 0) :
    (PyDecimal.finite negative c e).spelling = some (.fraction false (Decimal.reduce c e)) := by
  have hc := Decimal.Reduced.value_eq_zero h
  have he : (Decimal.reduce c e).exponent = 0 := by
    rcases (Decimal.reduce c e).reduced with ⟨-, he⟩ | hne
    · exact he
    · exact absurd (by rw [hc]) hne
  rw [PyDecimal.spelling, if_pos he.ge, hc]
  simp

theorem spelling_congr {negative : Bool} {c c' : Nat} {e e' : Int} (h : Decimal.reduce c e = Decimal.reduce c' e') :
    (PyDecimal.finite negative c e).spelling = (PyDecimal.finite negative c' e').spelling := by
  simp only [PyDecimal.spelling, h]

/-- Equal numbers are spelled alike. -/
theorem spelling_of_number (h : d.number = d'.number) : d.spelling = d'.spelling := by
  cases d with
  | infinity negative =>
    cases d' with
    | infinity negative' => rfl
    | finite | nan => cases h
  | nan negative signaling payload =>
    cases d' with
    | nan negative' signaling' payload' =>
      obtain ⟨rfl, rfl, rfl⟩ := Number.nan.inj h
      rfl
    | finite | infinity => cases h
  | finite negative c e =>
    cases d' with
    | infinity | nan => cases h
    | finite negative' c' e' =>
      have hq := Number.rational.inj h
      rw [← Decimal.value_reduce, ← Decimal.value_reduce] at hq
      have hnonneg : ∀ (c : Nat) (e : Int), 0 ≤ (Decimal.reduce c e).value := by
        intro c e
        rw [Decimal.value_reduce]
        exact mul_nonneg (Nat.cast_nonneg c) (zpow_nonneg (by norm_num) e)
      by_cases hsign : negative = negative'
      · subst hsign
        have hvalue : (Decimal.reduce c e).value = (Decimal.reduce c' e').value := by
          cases negative with
          | false => simpa using hq
          | true => simpa using hq
        exact spelling_congr (Decimal.Reduced.value_inj.mp hvalue)
      · -- the signs differ, so both are zero
        have hzero : (Decimal.reduce c e).value = 0 ∧ (Decimal.reduce c' e').value = 0 := by
          have h₁ := hnonneg c e
          have h₂ := hnonneg c' e'
          cases negative <;> cases negative' <;> simp at hq hsign
          · constructor <;> linarith
          · constructor <;> linarith
        rw [spelling_zero hzero.1, spelling_zero hzero.2,
          Decimal.Reduced.value_inj.mp (hzero.1.trans hzero.2.symm)]

end Written

end HostedFacilitator
