import HostedFacilitator.Python.Value

/-!
# Texts as integers

`int(text)` and `int(text, 16)`: spaces around the number, a sign, in base 16 an optional `0x`, then digits with
single underscores between them. Decimal digits of every script count as digits, which the code takes from the Unicode
tables; they stay a parameter (`Decimals`). `bytes.hex()` goes the other way, and reading it back gives the number that
the bytes spell in big-endian order (`ofText_hexBytes`).
-/

namespace HostedFacilitator

/-- The table behind `unicodedata.decimal`, for one character. -/
structure Decimals where
  digit : Char → Option Nat
  digit_lt : ∀ c d, digit c = some d → d < 10

/-- A table that knows nothing beyond ASCII. -/
def Decimals.ascii : Decimals where
  digit := fun c => if c.isDigit then some (c.toNat - 48) else none
  digit_lt := by
    intro c d h
    split at h
    · rename_i hc
      simp only [Char.isDigit, Bool.and_eq_true, decide_eq_true_eq, ge_iff_le, UInt32.le_iff_toNat_le] at hc
      have h9 : '9'.val.toNat = 57 := rfl
      have hval : c.toNat = c.val.toNat := rfl
      have := Option.some.inj h
      omega
    · cases h

/-- `text.startswith("0x")`. -/
def startsHex (s : String) : Bool := s.toList.take 2 == ['0', 'x']

/-! ## `int()` -/

/-- The value of a digit in a base up to 16. -/
def digitValue (c : Char) : Option Nat :=
  let n := c.toNat
  if 48 ≤ n && n ≤ 57 then some (n - 48)
  else if 97 ≤ n && n ≤ 102 then some (n - 87)
  else if 65 ≤ n && n ≤ 70 then some (n - 55)
  else none

/-- A digit of the base. -/
def digitIn (base : Nat) (c : Char) : Option Nat := (digitValue c).filter (· < base)

/-- The digits after a digit; an underscore stands between two digits only. -/
def readDigits (base : Nat) : Nat → List Char → Option Nat
  | acc, [] => some acc
  | acc, '_' :: c :: rest =>
    match digitIn base c with
    | some d => readDigits base (base * acc + d) rest
    | none => none
  | acc, c :: rest =>
    match digitIn base c with
    | some d => readDigits base (base * acc + d) rest
    | none => none

/-- A numeral without a sign. -/
def readNat (base : Nat) : List Char → Option Nat
  | [] => none
  | c :: rest => (digitIn base c).bind fun d => readDigits base d rest

/-- The `0x` that base 16 allows, with one underscore after it. -/
def dropHexMark : List Char → List Char
  | '0' :: x :: rest =>
    if x = 'x' ∨ x = 'X' then
      match rest with
      | '_' :: rest => rest
      | rest => rest
    else '0' :: x :: rest
  | s => s

/-- The spaces that `int()` allows around a number. -/
def isIntSpace (c : Char) : Bool := (9 ≤ c.toNat && c.toNat ≤ 13) || c.toNat == 32

def trimInt (s : List Char) : List Char := ((s.dropWhile isIntSpace).reverse.dropWhile isIntSpace).reverse

/-- A numeral with the sign taken off: `sys.int_info.default_max_str_digits` bounds the digits of base 10. -/
def readUnsigned (base : Nat) (s : List Char) : Option Nat :=
  if base = 16 then readNat 16 (dropHexMark s)
  else if 4300 < (s.filter (· != '_')).length then none
  else readNat base s

/-- A numeral in ASCII characters. -/
def readInt (base : Nat) (s : List Char) : Option Int :=
  match trimInt s with
  | '-' :: rest => (readUnsigned base rest).map fun n => -(n : Int)
  | '+' :: rest => (readUnsigned base rest).map Int.ofNat
  | rest => (readUnsigned base rest).map Int.ofNat

/-- The ASCII spelling of a character in a number; a character that is neither a space nor a digit spoils it. -/
def Decimals.toAscii (u : Decimals) (c : Char) : Char :=
  if c.toNat < 127 then c
  else if isPySpace c then ' '
  else match u.digit c with
    | some d => Char.ofNat (48 + d)
    | none => '?'

/-- `int(text, base)`; `none` is a `ValueError`. -/
def Decimals.ofText (u : Decimals) (base : Nat) (s : String) : Option Int := readInt base (s.toList.map u.toAscii)

/-- `float.__int__`. -/
def PyFloat.truncate : PyFloat → Except PyErr Int
  | .finite _ q => .ok (Int.tdiv q.num q.den)
  | .infinity _ => .error (.other "OverflowError" "cannot convert float infinity to integer")
  | .nan => .error (.value "cannot convert float NaN to integer")

/-- A text that is no numeral. -/
def orBadLiteral (n : Option Int) : Except PyErr Int :=
  match n with
  | some n => .ok n
  | none => .error (.value "invalid literal for int()")

/-- `int(v)`. -/
def PyVal.toInt (u : Decimals) : PyVal → Except PyErr Int
  | .bool b => .ok (if b then 1 else 0)
  | .int n => .ok n
  | .float f => f.truncate
  | .str s => orBadLiteral (u.ofText 10 s)
  | .null | .list _ | .dict _ => .error (.type "int() argument must be a string or a real number")

/-- `str(n)`; `sys.int_info.default_max_str_digits` bounds the digits. -/
def strInt (n : Int) : Except PyErr String :=
  if (toString n.natAbs).length ≤ 4300 then .ok (toString n)
  else .error (.value "Exceeds the limit (4300 digits) for integer string conversion")

/-- `except (TypeError, ValueError): return None`. -/
def noneOnBadValue : Except PyErr Int → Except PyErr (Option Int)
  | .ok n => .ok (some n)
  | .error (.type _) | .error (.value _) => .ok none
  | .error e => .error e

theorem noneOnBadValue_some {x : Except PyErr Int} {n : Int} (h : noneOnBadValue x = .ok (some n)) : x = .ok n := by
  unfold noneOnBadValue at h
  split at h
  · exact congrArg Except.ok (Option.some.inj (Except.ok.inj h))
  · cases h
  · cases h
  · cases h

/-! ## `bytes.hex()` -/

def hexDigit (n : Nat) : Char := if n < 10 then Char.ofNat (48 + n) else Char.ofNat (87 + n)

/-- The digits of `data.hex()`. -/
def hexDigits : List UInt8 → List Char
  | [] => []
  | b :: bs => hexDigit (b.toNat / 16) :: hexDigit (b.toNat % 16) :: hexDigits bs

/-- The number that bytes spell in big-endian order, after `acc`. -/
def bigEndian : Nat → List UInt8 → Nat
  | acc, [] => acc
  | acc, b :: bs => bigEndian (256 * acc + b.toNat) bs

theorem digitIn_hexDigit : ∀ n < 16, digitIn 16 (hexDigit n) = some n := by decide

theorem hexDigit_plain :
    ∀ n < 16, hexDigit n ≠ '_' ∧ (hexDigit n).toNat < 127 ∧ isIntSpace (hexDigit n) = false := by decide

theorem readDigits_digit {base d : Nat} {c : Char} (acc : Nat) (rest : List Char) (hc : c ≠ '_')
    (hd : digitIn base c = some d) : readDigits base acc (c :: rest) = readDigits base (base * acc + d) rest := by
  rw [readDigits, hd]
  intro c' rest' h _
  exact hc h

/-- A byte is two digits. -/
theorem readDigits_hexDigits (acc : Nat) (data : List UInt8) :
    readDigits 16 acc (hexDigits data) = some (bigEndian acc data) := by
  induction data generalizing acc with
  | nil => rfl
  | cons b bs ih =>
    have hb := b.toNat_lt
    have hhigh : b.toNat / 16 < 16 := by omega
    have hlow : b.toNat % 16 < 16 := by omega
    rw [hexDigits, readDigits_digit _ _ (hexDigit_plain _ hhigh).1 (digitIn_hexDigit _ hhigh),
      readDigits_digit _ _ (hexDigit_plain _ hlow).1 (digitIn_hexDigit _ hlow), ih, bigEndian]
    congr 2
    omega

theorem hexDigits_plain {data : List UInt8} {c : Char} (h : c ∈ hexDigits data) :
    c ≠ '_' ∧ c.toNat < 127 ∧ isIntSpace c = false := by
  induction data with
  | nil => cases h
  | cons b bs ih =>
    have hb := b.toNat_lt
    rcases List.mem_cons.mp h with rfl | h
    · exact hexDigit_plain _ (by omega)
    · rcases List.mem_cons.mp h with rfl | h
      · exact hexDigit_plain _ (by omega)
      · exact ih h

theorem trimInt_eq {s : List Char} (h : ∀ c ∈ s, isIntSpace c = false) : trimInt s = s := by
  have hdrop : ∀ l : List Char, (∀ c ∈ l, isIntSpace c = false) → l.dropWhile isIntSpace = l := by
    intro l hl
    cases l with
    | nil => rfl
    | cons c l => simp [List.dropWhile, hl c List.mem_cons_self]
  rw [trimInt, hdrop s h, hdrop, List.reverse_reverse]
  intro c hc
  exact h c (List.mem_reverse.mp hc)

/-- The mark leaves the digits as they are: they do not begin with an underscore. -/
theorem dropHexMark_hexDigits (data : List UInt8) : dropHexMark ('0' :: 'x' :: hexDigits data) = hexDigits data := by
  cases data with
  | nil => rfl
  | cons b bs =>
    have hb := b.toNat_lt
    have hhead := (hexDigit_plain (b.toNat / 16) (by omega)).1
    simp only [dropHexMark, hexDigits, true_or, if_true]
    split
    · rename_i heq
      exact absurd (List.cons.inj heq).1 hhead
    · rfl

theorem readNat_hexDigits {data : List UInt8} (h : data ≠ []) :
    readNat 16 (hexDigits data) = some (bigEndian 0 data) := by
  cases data with
  | nil => exact absurd rfl h
  | cons b bs =>
    have hb := b.toNat_lt
    have hhigh : b.toNat / 16 < 16 := by omega
    have hfirst := readDigits_digit 0 (hexDigit (b.toNat % 16) :: hexDigits bs)
      (hexDigit_plain _ hhigh).1 (digitIn_hexDigit _ hhigh)
    rw [← readDigits_hexDigits, hexDigits, hfirst, readNat, digitIn_hexDigit _ hhigh]
    simp

/-- Reading the hexadecimal text of some bytes gives their number; the text of no bytes is not a number. -/
theorem Decimals.ofText_hexBytes (u : Decimals) (data : List UInt8) :
    u.ofText 16 (String.ofList ('0' :: 'x' :: hexDigits data)) =
      if data = [] then none else some (bigEndian 0 data : Int) := by
  have hplain : ∀ c ∈ '0' :: 'x' :: hexDigits data, c.toNat < 127 ∧ isIntSpace c = false := by
    intro c hc
    simp only [List.mem_cons] at hc
    rcases hc with rfl | rfl | hc
    · decide
    · decide
    · exact (hexDigits_plain hc).2
  have hascii : ('0' :: 'x' :: hexDigits data).map u.toAscii = '0' :: 'x' :: hexDigits data := by
    conv_rhs => rw [← List.map_id ('0' :: 'x' :: hexDigits data)]
    apply List.map_congr_left
    intro c hc
    simp [toAscii, (hplain c hc).1]
  rw [ofText, String.toList_ofList, hascii, readInt, trimInt_eq fun c hc => (hplain c hc).2]
  show (readUnsigned 16 ('0' :: 'x' :: hexDigits data)).map Int.ofNat = _
  rw [readUnsigned, if_pos rfl, dropHexMark_hexDigits]
  by_cases h : data = []
  · subst h
    rfl
  · rw [readNat_hexDigits h, if_neg h]
    rfl

end HostedFacilitator
