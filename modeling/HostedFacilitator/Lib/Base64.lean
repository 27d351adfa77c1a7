import Mathlib.Data.List.Basic

/-!
# Base 64

Bytes as symbols of an alphabet of 64, as in RFC 4648: three bytes are four sextets, and what is left at the end gives
two or three sextets, which may be filled up with `=`. A decoder here is lenient: it reads the symbols up to the first
`=` and skips what is no symbol.

* `octets_sextets`: the sextets of some bytes spell these bytes;
* `decode_encode`, `decode_padded`: so a decoder reads back what was encoded, with and without the filling;
* `encode_all`: what holds of every symbol holds of every character of an encoded text;
* `splitOn_dotted`: full stops between encoded texts separate them.
-/

namespace Base64

structure Alphabet where
  symbol : Nat → Char
  value : Char → Option Nat
  value_symbol : ∀ n < 64, value (symbol n) = some n
  symbol_ne : ∀ n < 64, symbol n ≠ '='

/-- The two alphabets of RFC 4648, which differ in the last two symbols. -/
def symbolWith (last last' : Char) (n : Nat) : Char :=
  if n < 26 then Char.ofNat (65 + n) else if n < 52 then Char.ofNat (71 + n) else if n < 62 then Char.ofNat (n - 4)
  else if n = 62 then last else last'

def valueWith (last last' c : Char) : Option Nat :=
  if c.isUpper then some (c.toNat - 65) else if c.isLower then some (c.toNat - 71)
  else if c.isDigit then some (c.toNat + 4) else if c = last then some 62 else if c = last' then some 63 else none

theorem standard_valid : ∀ n < 64, valueWith '+' '/' (symbolWith '+' '/' n) = some n ∧ symbolWith '+' '/' n ≠ '=' := by
  decide +kernel

theorem urlSafe_valid : ∀ n < 64, valueWith '-' '_' (symbolWith '-' '_' n) = some n ∧ symbolWith '-' '_' n ≠ '=' := by
  decide +kernel

def standard : Alphabet where
  symbol := symbolWith '+' '/'
  value := valueWith '+' '/'
  value_symbol := fun n hn => (standard_valid n hn).1
  symbol_ne := fun n hn => (standard_valid n hn).2

def urlSafe : Alphabet where
  symbol := symbolWith '-' '_'
  value := valueWith '-' '_'
  value_symbol := fun n hn => (urlSafe_valid n hn).1
  symbol_ne := fun n hn => (urlSafe_valid n hn).2

/-! ## Sextets -/

def sextets : List UInt8 → List Nat
  | [] => []
  | [a] => [a.toNat / 4, a.toNat % 4 * 16]
  | [a, b] => [a.toNat / 4, a.toNat % 4 * 16 + b.toNat / 16, b.toNat % 16 * 4]
  | a :: b :: c :: rest =>
    a.toNat / 4 :: (a.toNat % 4 * 16 + b.toNat / 16) :: (b.toNat % 16 * 4 + c.toNat / 64) :: c.toNat % 64 ::
      sextets rest

/-- The bytes that some sextets spell; bits that fill no byte are dropped. -/
def octets : List Nat → List UInt8
  | s :: t :: u :: v :: rest =>
    .ofNat (s * 4 + t / 16) :: .ofNat (t % 16 * 16 + u / 4) :: .ofNat (u % 4 * 64 + v) :: octets rest
  | [s, t, u] => [.ofNat (s * 4 + t / 16), .ofNat (t % 16 * 16 + u / 4)]
  | [s, t] => [.ofNat (s * 4 + t / 16)]
  | _ => []

theorem sextets_lt : ∀ (bs : List UInt8), ∀ n ∈ sextets bs, n < 64
  | [] => by simp [sextets]
  | [a] => by
    have := a.toNat_lt
    simp only [sextets, List.forall_mem_cons, List.not_mem_nil, false_implies, implies_true, and_true]
    omega
  | [a, b] => by
    have := a.toNat_lt
    have := b.toNat_lt
    simp only [sextets, List.forall_mem_cons, List.not_mem_nil, false_implies, implies_true, and_true]
    omega
  | a :: b :: c :: rest => by
    have := a.toNat_lt
    have := b.toNat_lt
    have := c.toNat_lt
    simp only [sextets, List.forall_mem_cons]
    refine ⟨by omega, by omega, by omega, by omega, sextets_lt rest⟩

theorem ofNat_eq {n : Nat} {a : UInt8} (h : n = a.toNat) : UInt8.ofNat n = a := by
  rw [h, UInt8.ofNat_toNat]

theorem octets_sextets : ∀ bs : List UInt8, octets (sextets bs) = bs
  | [] => rfl
  | [a] => by
    have := a.toNat_lt
    rw [sextets, octets, ofNat_eq (a := a) (by omega)]
  | [a, b] => by
    have := a.toNat_lt
    have := b.toNat_lt
    rw [sextets, octets, ofNat_eq (a := a) (by omega), ofNat_eq (a := b) (by omega)]
  | a :: b :: c :: rest => by
    have := a.toNat_lt
    have := b.toNat_lt
    have := c.toNat_lt
    rw [sextets, octets, octets_sextets rest, ofNat_eq (a := a) (by omega), ofNat_eq (a := b) (by omega),
      ofNat_eq (a := c) (by omega)]

/-! ## Texts -/

variable (A : Alphabet)

/-- Without filling. -/
def encode (bs : List UInt8) : List Char := (sextets bs).map A.symbol

/-- Filled up to a multiple of four. -/
def padded (bs : List UInt8) : List Char :=
  encode A bs ++ List.replicate ((4 - (sextets bs).length % 4) % 4) '='

def decode (cs : List Char) : List UInt8 := octets ((cs.takeWhile (· != '=')).filterMap A.value)

variable {A}

theorem filterMap_symbols {ns : List Nat} (h : ∀ n ∈ ns, n < 64) : (ns.map A.symbol).filterMap A.value = ns := by
  induction ns with
  | nil => rfl
  | cons n ns ih =>
    obtain ⟨hn, hns⟩ := List.forall_mem_cons.mp h
    rw [List.map_cons, List.filterMap_cons, A.value_symbol n hn, ih hns]

/-- What holds of every symbol holds of every character of an encoded text. -/
theorem encode_all {p : Char → Prop} (h : ∀ n < 64, p (A.symbol n)) (bs : List UInt8) : ∀ c ∈ encode A bs, p c := by
  intro c hc
  obtain ⟨n, hn, rfl⟩ := List.mem_map.mp hc
  exact h n (sextets_lt bs n hn)

theorem takeWhile_encode (bs : List UInt8) (k : Nat) :
    (encode A bs ++ List.replicate k '=').takeWhile (· != '=') = encode A bs := by
  have hplain : ∀ c ∈ encode A bs, (c != '=') = true :=
    encode_all (p := fun c => (c != '=') = true) (fun n hn => by simpa using A.symbol_ne n hn) bs
  rw [List.takeWhile_append_of_pos hplain]
  cases k <;> simp [List.replicate]

theorem decode_padded (bs : List UInt8) : decode A (padded A bs) = bs := by
  rw [decode, padded, takeWhile_encode, encode, filterMap_symbols (sextets_lt bs), octets_sextets]

theorem decode_encode (bs : List UInt8) : decode A (encode A bs) = bs := by
  have htake := takeWhile_encode (A := A) bs 0
  rw [List.replicate_zero, List.append_nil] at htake
  rw [decode, htake, encode, filterMap_symbols (sextets_lt bs), octets_sextets]

/-! ## Three segments -/

/-- Three texts in URL-safe base 64, with full stops between them. -/
def dotted (a b c : List UInt8) : List Char :=
  encode urlSafe a ++ '.' :: (encode urlSafe b ++ '.' :: encode urlSafe c)

theorem dot_not_mem_encode (bs : List UInt8) : '.' ∉ encode urlSafe bs := by
  have hsymbol : ∀ n < 64, urlSafe.symbol n ≠ '.' := by decide +kernel
  exact fun hmem => encode_all (p := fun c => c ≠ '.') hsymbol bs '.' hmem rfl

theorem splitOn_dotted (a b c : List UInt8) :
    (dotted a b c).splitOn '.' = [encode urlSafe a, encode urlSafe b, encode urlSafe c] := by
  rw [dotted, List.splitOn_append_cons_self_of_not_mem (dot_not_mem_encode a),
    List.splitOn_append_cons_self_of_not_mem (dot_not_mem_encode b), List.splitOn_eq_singleton (dot_not_mem_encode c)]

/-- A text of encoded texts has its full stops between them only. -/
theorem eq_of_dotted {first second third : List Char} {a b c : List UInt8}
    (hsplit : dotted a b c = first ++ '.' :: (second ++ '.' :: third)) :
    first = encode urlSafe a ∧ second = encode urlSafe b ∧ third = encode urlSafe c := by
  have hnone : ∀ bs, (encode urlSafe bs).count '.' = 0 := fun bs => List.count_eq_zero.mpr (dot_not_mem_encode bs)
  have hcount := congrArg (List.count '.') hsplit
  simp only [dotted, List.count_append, List.count_cons_self, hnone] at hcount
  have hfirst : '.' ∉ first := List.count_eq_zero.mp (by omega)
  have hsecond : '.' ∉ second := List.count_eq_zero.mp (by omega)
  have hthird : '.' ∉ third := List.count_eq_zero.mp (by omega)
  have hlists := congrArg (List.splitOn '.') hsplit
  rw [splitOn_dotted, List.splitOn_append_cons_self_of_not_mem hfirst,
    List.splitOn_append_cons_self_of_not_mem hsecond, List.splitOn_eq_singleton hthird] at hlists
  simp only [List.cons.injEq, and_true] at hlists
  exact ⟨hlists.1.symm, hlists.2.1.symm, hlists.2.2.symm⟩

end Base64
