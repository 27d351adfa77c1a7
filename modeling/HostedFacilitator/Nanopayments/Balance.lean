import HostedFacilitator.Nanopayments.Types
import HostedFacilitator.Python.Arithmetic

/-!
# The balance at Circle's gateway

`check_balance` reads the balance out of Circle's answer with `_to_int`. A text with a point is split there, and the
digits behind it are filled up or cut to six. Both parts then go through `int()`, which may raise, and the sign in front
of the text is that of the first part alone: `to_int_iff` says on which values the function returns, and returns what a
balance text denotes.
-/

namespace HostedFacilitator
namespace Nanopayments

/-! ## The functions -/

/-- `except (ValueError, TypeError): return 0`. -/
def zeroOnFailure : Except PyErr Int → Except PyErr Int
  | .error (.value _) | .error (.type _) => .ok 0
  | x => x

/-- `(fraction + "000000")[:6]`. -/
def sixDigits (fraction : List Char) : List Char := (fraction ++ List.replicate 6 '0').take 6

/-- `_to_int`. -/
def toInt (u : Decimals) : PyVal → Except PyErr Int
  | .null => .ok 0
  | .bool b => .ok (if b then 1 else 0)
  | .int n => .ok n
  | .str s =>
    match s.toList.splitOn '.' with
    | whole :: fraction :: _ => do
      let n ← orBadLiteral (u.ofText 10 (String.ofList whole))
      let m ← orBadLiteral (u.ofText 10 (String.ofList (sixDigits fraction)))
      .ok (n * 1000000 + m)
    | _ => orBadLiteral (u.ofText 10 s)
  | v => zeroOnFailure (v.toInt u)

structure GatewayBalance where
  total : Int
  available : Int
  formattedTotal : String
  formattedAvailable : String

/-- `_select_gateway_balance`: the first dictionary with the domain; a text or a dictionary is gone through without
finding one. -/
def selectGatewayBalance (text : Text) (u : Decimals) (balances : PyVal) (domainId : Int) : Except PyErr PyDict :=
  match balances with
  | .list items => .ok (((items.filterMap PyVal.asDict).find? fun balance =>
      u.ofText 10 ((balance.get "domain").toStr text) == some domainId).getD [])
  | .str _ | .dict _ => .ok []
  | _ => .error (.type "object is not iterable")

/-- `f"{d:.6f}"`, of a finite number. -/
def sixPlaces (negative : Bool) (c : Nat) (e : Int) : String :=
  let n := if -6 ≤ e then c * 10 ^ (e + 6).toNat else Decimal.roundHalfEven c (10 ^ (-6 - e).toNat)
  String.ofList ((if negative then ['-'] else []) ++ Nat.toDigits 10 (n / 10 ^ 6) ++
    '.' :: Decimal.lastDigits 6 (n % 10 ^ 6))

/-- `f"{Decimal(total) / Decimal(1_000_000):.6f} USDC"`. -/
def formatTotal (total : Int) : Except PyErr String :=
  (PyDecimal.divNat 1000000 (.finite (decide (total < 0)) total.natAbs 0)).map fun
    | .finite negative c e => sixPlaces negative c e ++ " USDC"
    | d => d.toStr ++ " USDC"

/-- `check_balance`, from the JSON of a successful answer on. -/
def checkBalance (text : Text) (u : Decimals) (domainId : Int) (data : PyVal) : Except PyErr GatewayBalance := do
  let data ← data.expectDict
  let balances := data.getOr "balances" (.list [])
  if balances.truthy then
    let bal ← selectGatewayBalance text u balances domainId
    let total ← toInt u (bal.getOr "balance" (.str "0"))
    let formatted ← formatTotal total
    .ok { total := total, available := total, formattedTotal := formatted, formattedAvailable := formatted }
  else .ok { total := 0, available := 0, formattedTotal := "0 USDC", formattedAvailable := "0 USDC" }

/-! ## Balance texts -/

/-- An optional sign, digits, a point, digits. -/
structure BalanceText (sign whole fraction : List Char) (s : String) : Prop where
  text : s.toList = sign ++ whole ++ '.' :: fraction
  sign : sign = [] ∨ sign = ['+'] ∨ sign = ['-']
  whole_ne : whole ≠ []
  whole_digits : ∀ c ∈ whole, c.isDigit = true
  fraction_ne : fraction ≠ []
  fraction_digits : ∀ c ∈ fraction, c.isDigit = true

/-- The number that digits spell. -/
def number (digits : List Char) : Nat := Nat.ofDigitChars 10 digits 0

/-- The decimal that a balance text denotes, times a million, truncated toward zero. -/
def atomicUnits (sign whole fraction : List Char) : Int :=
  Int.tdiv (PyDecimal.signed (sign = ['-']) (number (whole ++ fraction)) * 10 ^ 6) (10 ^ fraction.length)

/-- `_to_int` returns, and returns what a balance text denotes. -/
def Right (u : Decimals) (v : PyVal) : Prop :=
  (∃ n, toInt u v = .ok n) ∧
    ∀ s sign whole fraction, v = .str s → BalanceText sign whole fraction s →
      toInt u v = .ok (atomicUnits sign whole fraction)

/-- What `_to_int` can read: no infinity, no text that `int()` refuses whole or in its parts, and no negative balance
with a fraction of a unit. -/
def Readable (u : Decimals) : PyVal → Prop
  | .float (.infinity _) => False
  | .str s =>
    match s.toList.splitOn '.' with
    | whole :: fraction :: _ =>
      IntLiteral u (String.ofList whole) ∧ IntLiteral u (String.ofList (sixDigits fraction)) ∧
        ∀ sign digits rest, BalanceText sign digits rest s → sign = ['-'] → ∀ c ∈ rest.take 6, c = '0'
    | _ => IntLiteral u s
  | _ => True

section Parts

variable {u : Decimals} {s : String} {sign whole fraction : List Char}

theorem point_not_mem (hdigits : ∀ c ∈ whole, c.isDigit = true) : '.' ∉ whole :=
  fun h => absurd (hdigits '.' h) (by decide)

/-- A balance text has two parts. -/
theorem BalanceText.split (h : BalanceText sign whole fraction s) :
    s.toList.splitOn '.' = [sign ++ whole, fraction] := by
  have hsign : '.' ∉ sign ++ whole := by
    rw [List.mem_append, not_or]
    refine ⟨?_, point_not_mem h.whole_digits⟩
    rcases h.sign with hs | hs | hs <;> rw [hs] <;> decide
  rw [h.text, List.splitOn_append_cons_self_of_not_mem hsign, List.splitOn_eq_singleton (point_not_mem h.fraction_digits)]

theorem readDigits_number {acc : Nat} (h : ∀ c ∈ whole, c.isDigit = true) :
    readDigits 10 acc whole = some (Nat.ofDigitChars 10 whole acc) := by
  induction whole generalizing acc with
  | nil => rfl
  | cons c rest ih =>
    have hc := h c List.mem_cons_self
    rw [readDigits_digit acc rest (digit_ne_underscore hc) (digitIn_ten.mpr ⟨hc, rfl⟩),
      ih fun x hx => h x (List.mem_cons_of_mem c hx)]
    rfl

theorem readUnsigned_number (hne : whole ≠ []) (h : ∀ c ∈ whole, c.isDigit = true) :
    readUnsigned 10 whole = if whole.length ≤ 4300 then some (number whole) else none := by
  have hfilter : whole.filter (· != '_') = whole :=
    List.filter_eq_self.mpr fun c hc => bne_iff_ne.mpr (digit_ne_underscore (h c hc))
  rw [readUnsigned, if_neg (by decide), hfilter]
  by_cases hlong : whole.length ≤ 4300
  · rw [if_neg (by omega), if_pos hlong]
    obtain ⟨c, rest, rfl⟩ := List.exists_cons_of_ne_nil hne
    have hc := h c List.mem_cons_self
    rw [readNat, digitIn_ten.mpr ⟨hc, rfl⟩, Option.bind_some,
      readDigits_number fun x hx => h x (List.mem_cons_of_mem c hx)]
    congr 1
    show _ = Nat.ofDigitChars 10 rest (10 * 0 + (c.toNat - 48))
    rw [Nat.mul_zero, Nat.zero_add]
  · rw [if_pos (by omega), if_neg hlong]

theorem isIntSpace_of_number {c : Char} (h : PyDecimal.isNumberChar c = true) : isIntSpace c = false := by
  have hspace := (PyDecimal.isNumberChar_plain h).2.1
  rw [Bool.eq_false_iff] at hspace ⊢
  intro hint
  refine hspace ?_
  simp only [isIntSpace, isPySpace, Bool.or_eq_true, Bool.and_eq_true, decide_eq_true_eq, beq_iff_eq] at hint ⊢
  omega

/-- `int()` of a sign and digits. -/
theorem ofText_number (hsign : sign = [] ∨ sign = ['+'] ∨ sign = ['-']) (hne : whole ≠ [])
    (h : ∀ c ∈ whole, c.isDigit = true) :
    u.ofText 10 (String.ofList (sign ++ whole)) =
      if whole.length ≤ 4300 then some (PyDecimal.signed (sign = ['-']) (number whole)) else none := by
  have hchars : ∀ c ∈ sign ++ whole, PyDecimal.isNumberChar c = true := by
    intro c hc
    rcases List.mem_append.mp hc with hc | hc
    · rcases hsign with rfl | rfl | rfl
      · cases hc
      · obtain rfl := List.mem_singleton.mp hc
        decide
      · obtain rfl := List.mem_singleton.mp hc
        decide
    · rw [PyDecimal.isNumberChar, h c hc, Bool.true_or]
  have hascii : (sign ++ whole).map u.toAscii = sign ++ whole := by
    conv_rhs => rw [← List.map_id (sign ++ whole)]
    refine List.map_congr_left fun c hc => ?_
    rw [Decimals.toAscii, if_pos (PyDecimal.isNumberChar_plain (hchars c hc)).1]
    rfl
  obtain ⟨c, rest, hcons⟩ := List.exists_cons_of_ne_nil hne
  obtain ⟨hplus, hminus⟩ := digit_not_sign (h c (hcons ▸ List.mem_cons_self))
  have hdrop : dropSign (sign ++ whole) = whole := by
    rcases hsign with rfl | rfl | rfl
    · rw [List.nil_append, hcons, dropSign]
      · intro rest' heq
        exact hminus (List.cons.inj heq).1
      · intro rest' heq
        exact hplus (List.cons.inj heq).1
    · rfl
    · rfl
  have hhead : (sign ++ whole).head? = some '-' ↔ sign = ['-'] := by
    rcases hsign with rfl | rfl | rfl
    · simp [hcons, hminus]
    · simp
    · simp
  rw [Decimals.ofText, String.toList_ofList, hascii, readInt_dropSign,
    trimInt_eq fun c hc => isIntSpace_of_number (hchars c hc), hdrop, readUnsigned_number hne h]
  by_cases hshort : whole.length ≤ 4300
  · rw [if_pos hshort, if_pos hshort, Option.map_some, PyDecimal.signed]
    by_cases hs : sign = ['-']
    · rw [if_pos (hhead.mpr hs), if_pos (decide_eq_true hs)]
    · rw [if_neg (mt hhead.mp hs), if_neg (by simpa using hs)]
  · rw [if_neg hshort, if_neg hshort, Option.map_none]

/-! ## The digits behind the point -/

theorem number_append (w f : List Char) : number (w ++ f) = number w * 10 ^ f.length + number f := by
  rw [number, Nat.ofDigitChars_append, Nat.ofDigitChars_eq_ofDigitChars_zero, Nat.mul_comm]
  rfl

theorem number_lt (h : ∀ c ∈ whole, c.isDigit = true) : number whole < 10 ^ whole.length := by
  have hvalue : digitsValue 0 whole = some (number whole) := PyDecimal.digitsValue_eq h
  have hlt := digitsValue_lt hvalue
  rwa [Nat.zero_add, Nat.one_mul] at hlt

theorem sixDigits_eq (f : List Char) : sixDigits f = f.take 6 ++ List.replicate (6 - f.length) '0' := by
  rw [sixDigits, List.take_append, List.take_replicate, Nat.min_eq_left (by omega)]

theorem sixDigits_digits (h : ∀ c ∈ fraction, c.isDigit = true) : ∀ c ∈ sixDigits fraction, c.isDigit = true := by
  intro c hc
  rw [sixDigits_eq, List.mem_append] at hc
  rcases hc with hc | hc
  · exact h c (List.mem_of_mem_take hc)
  · rw [List.eq_of_mem_replicate hc]
    decide

theorem length_sixDigits (f : List Char) : (sixDigits f).length = 6 := by
  rw [sixDigits_eq, List.length_append, List.length_take, List.length_replicate]
  omega

/-- Six digits are the millionths, cut off. -/
theorem number_sixDigits (h : ∀ c ∈ fraction, c.isDigit = true) :
    number fraction * 10 ^ 6 / 10 ^ fraction.length = number (sixDigits fraction) := by
  rcases Nat.le_total fraction.length 6 with hle | hle
  · obtain ⟨k, hk⟩ := Nat.exists_eq_add_of_le hle
    have hzeros : number (List.replicate k '0') = 0 := by
      rw [number, Nat.ofDigitChars_replicate_zero, Nat.mul_zero]
    rw [sixDigits_eq, List.take_of_length_le hle, number_append, show 6 - fraction.length = k by omega, hzeros,
      List.length_replicate, Nat.add_zero, hk, pow_add, Nat.mul_comm (10 ^ fraction.length), ← Nat.mul_assoc]
    exact Nat.mul_div_cancel _ (by positivity)
  · obtain ⟨k, hk⟩ := Nat.exists_eq_add_of_le hle
    have hsplit : number fraction = number (fraction.take 6) * 10 ^ k + number (fraction.drop 6) := by
      conv_lhs => rw [← List.take_append_drop 6 fraction, number_append]
      rw [List.length_drop, show fraction.length - 6 = k by omega]
    have hrest : number (fraction.drop 6) < 10 ^ k := by
      have hdigits : ∀ c ∈ fraction.drop 6, c.isDigit = true := fun c hc => h c (List.mem_of_mem_drop hc)
      have hlt := number_lt hdigits
      rwa [List.length_drop, show fraction.length - 6 = k by omega] at hlt
    have hpow : 0 < 10 ^ k := by positivity
    rw [sixDigits_eq, show 6 - fraction.length = 0 by omega, List.replicate_zero, List.append_nil, hk, pow_add,
      Nat.mul_comm (10 ^ 6), Nat.mul_div_mul_right _ _ (by positivity), hsplit, Nat.add_comm,
      Nat.add_mul_div_right _ _ hpow, Nat.div_eq_of_lt hrest, Nat.zero_add]

theorem number_eq_zero (h : ∀ c ∈ whole, c.isDigit = true) : number whole = 0 ↔ ∀ c ∈ whole, c = '0' := by
  induction whole with
  | nil => simp [number]
  | cons c rest ih =>
    have hc := isDigit_toNat.mp (h c List.mem_cons_self)
    have hone : number [c] = c.toNat - 48 := by
      rw [number, Nat.ofDigitChars_cons, Nat.ofDigitChars_nil]
      simp
    have hzero : c.toNat - 48 = 0 ↔ c = '0' := by
      constructor
      · intro hval
        rw [← Char.ofNat_toNat c, show c.toNat = 48 by omega]
      · rintro rfl
        rfl
    rw [← List.singleton_append, number_append, hone]
    simp only [Nat.add_eq_zero_iff, Nat.mul_eq_zero, hzero, ih fun x hx => h x (List.mem_cons_of_mem c hx),
      List.mem_append, List.mem_singleton, or_imp, forall_and, forall_eq]
    have hpow : (10 : Nat) ^ rest.length ≠ 0 := by positivity
    tauto

/-- The units of a balance text are those in front of the point and those behind it. -/
theorem atomicUnits_eq (h : ∀ c ∈ fraction, c.isDigit = true) :
    atomicUnits sign whole fraction =
      PyDecimal.signed (sign = ['-']) (number whole * 10 ^ 6 + number (sixDigits fraction)) := by
  have hnat : number (whole ++ fraction) * 10 ^ 6 / 10 ^ fraction.length =
      number whole * 10 ^ 6 + number (sixDigits fraction) := by
    rw [number_append, Nat.add_mul, ← number_sixDigits h, Nat.mul_right_comm, Nat.add_comm,
      Nat.add_mul_div_right _ _ (by positivity), Nat.add_comm]
  have hint : Int.tdiv ((number (whole ++ fraction) : Int) * 10 ^ 6) (10 ^ fraction.length) =
      ((number whole * 10 ^ 6 + number (sixDigits fraction) : Nat) : Int) := by
    rw [← hnat]
    exact_mod_cast (Int.ofNat_tdiv (number (whole ++ fraction) * 10 ^ 6) (10 ^ fraction.length)).symm
  unfold atomicUnits PyDecimal.signed
  split
  · rw [Int.neg_mul, Int.neg_tdiv, hint]
  · exact hint

/-! ## What is read -/

theorem orBadLiteral_ok {x : Option Int} {n : Int} : orBadLiteral x = .ok n ↔ x = some n := by
  cases x with
  | none => exact iff_of_false (by rintro ⟨⟩) (by rintro ⟨⟩)
  | some m => exact ⟨fun h => congrArg some (Except.ok.inj h), fun h => congrArg Except.ok (Option.some.inj h)⟩

/-- A text with a point. -/
theorem toInt_parts {w f : List Char} {rest : List (List Char)} (h : s.toList.splitOn '.' = w :: f :: rest) {n : Int} :
    toInt u (.str s) = .ok n ↔
      ∃ a b, u.ofText 10 (String.ofList w) = some a ∧ u.ofText 10 (String.ofList (sixDigits f)) = some b ∧
        n = a * 1000000 + b := by
  simp only [toInt, h, bind_ok, orBadLiteral_ok, Except.ok.injEq]
  constructor
  · rintro ⟨a, ha, b, hb, rfl⟩
    exact ⟨a, b, ha, hb, rfl⟩
  · rintro ⟨a, b, ha, hb, rfl⟩
    exact ⟨a, ha, b, hb, rfl⟩

/-- A balance text that `int()` reads in its parts: the sign is missing from the fraction. -/
theorem BalanceText.toInt_eq (h : BalanceText sign whole fraction s) (hshort : whole.length ≤ 4300) :
    toInt u (.str s) =
      .ok (PyDecimal.signed (sign = ['-']) (number whole) * 1000000 + number (sixDigits fraction)) := by
  have hwhole := ofText_number (u := u) h.sign h.whole_ne h.whole_digits
  rw [if_pos hshort] at hwhole
  have hsix : sixDigits fraction ≠ [] := by
    rw [← List.length_pos_iff, length_sixDigits]
    decide
  have hfraction := ofText_number (u := u) (.inl rfl) hsix (sixDigits_digits h.fraction_digits)
  rw [length_sixDigits, if_pos (by decide)] at hfraction
  exact (toInt_parts h.split).mpr ⟨_, _, hwhole, hfraction, rfl⟩

/-- The sign of the whole part is the sign of the balance, unless a negative balance has units behind the point. -/
theorem signed_parts_iff (w f : Nat) :
    PyDecimal.signed (sign = ['-']) w * 1000000 + f = PyDecimal.signed (sign = ['-']) (w * 10 ^ 6 + f) ↔
      (sign = ['-'] → f = 0) := by
  unfold PyDecimal.signed
  by_cases hs : sign = ['-']
  · simp only [hs, decide_true, if_true, true_imp_iff]
    push_cast
    omega
  · simp only [hs, decide_false, Bool.false_eq_true, if_false, false_imp_iff, iff_true]
    push_cast
    omega

theorem BalanceText.right_iff (h : BalanceText sign whole fraction s) (hshort : whole.length ≤ 4300) :
    toInt u (.str s) = .ok (atomicUnits sign whole fraction) ↔ (sign = ['-'] → ∀ c ∈ fraction.take 6, c = '0') := by
  have hzero : number (sixDigits fraction) = 0 ↔ ∀ c ∈ fraction.take 6, c = '0' := by
    rw [number_eq_zero (sixDigits_digits h.fraction_digits), sixDigits_eq]
    simp only [List.mem_append, or_imp, forall_and, and_iff_left_iff_imp]
    exact fun _ c hc => List.eq_of_mem_replicate hc
  rw [h.toInt_eq hshort, atomicUnits_eq h.fraction_digits, Except.ok.injEq, signed_parts_iff, hzero]

end Parts

section Values

variable {u : Decimals} {v : PyVal}

/-- A value that is no text: it is read unless it is an infinity. -/
theorem right_of_not_str (hstr : v.asStr = none) : Right u v ↔ ∃ n, toInt u v = .ok n := by
  refine and_iff_left fun s _ _ _ hs => ?_
  rw [hs] at hstr
  cases hstr

theorem right_str_iff (s : String) : Right u (.str s) ↔ Readable u (.str s) := by
  cases hsplit : s.toList.splitOn '.' with
  | nil => exact absurd hsplit (List.splitOn_ne_nil _ _)
  | cons w parts =>
    cases parts with
    | nil =>
      have hread : Readable u (.str s) ↔ IntLiteral u s := by simp only [Readable, hsplit]
      have hnone : ∀ sign whole fraction, ¬BalanceText sign whole fraction s := by
        intro sign whole fraction h
        exact absurd (congrArg List.length (hsplit.symm.trans h.split)) (by simp)
      rw [hread, ← ofText_isSome, Option.isSome_iff_exists]
      have hint : ∀ n, toInt u (.str s) = .ok n ↔ u.ofText 10 s = some n := by
        intro n
        simp only [toInt, hsplit, orBadLiteral_ok]
      simp only [Right, hint]
      refine and_iff_left fun s' sign whole fraction hs h => ?_
      obtain rfl := PyVal.str.inj hs
      exact absurd h (hnone sign whole fraction)
    | cons f rest =>
      have hread : Readable u (.str s) ↔ IntLiteral u (String.ofList w) ∧ IntLiteral u (String.ofList (sixDigits f)) ∧
          ∀ sign digits rest, BalanceText sign digits rest s → sign = ['-'] → ∀ c ∈ rest.take 6, c = '0' := by
        simp only [Readable, hsplit]
      have hreturns : (∃ n, toInt u (.str s) = .ok n) ↔
          IntLiteral u (String.ofList w) ∧ IntLiteral u (String.ofList (sixDigits f)) := by
        rw [← ofText_isSome, ← ofText_isSome, Option.isSome_iff_exists, Option.isSome_iff_exists]
        simp only [toInt_parts hsplit]
        constructor
        · rintro ⟨n, a, b, ha, hb, -⟩
          exact ⟨⟨a, ha⟩, ⟨b, hb⟩⟩
        · rintro ⟨⟨a, ha⟩, ⟨b, hb⟩⟩
          exact ⟨_, a, b, ha, hb, rfl⟩
      rw [hread, Right, hreturns, and_assoc]
      refine and_congr_right fun hw => and_congr_right fun _ => ?_
      -- the whole part of a balance text is short, since `int()` reads it
      have hshort : ∀ {sign whole fraction}, BalanceText sign whole fraction s → whole.length ≤ 4300 := by
        intro sign whole fraction h
        obtain ⟨rfl, -⟩ := List.cons.inj (hsplit.symm.trans h.split)
        have hsome := ofText_isSome.mpr hw
        rw [ofText_number h.sign h.whole_ne h.whole_digits] at hsome
        by_contra hlong
        rw [if_neg hlong] at hsome
        cases hsome
      constructor
      · intro hall sign digits rest h
        exact (h.right_iff (hshort h)).mp (hall s sign digits rest rfl h)
      · rintro hall s' sign whole fraction hs h
        obtain rfl := PyVal.str.inj hs
        exact (h.right_iff (hshort h)).mpr (hall sign whole fraction h)

theorem right_iff (u : Decimals) (v : PyVal) : Right u v ↔ Readable u v := by
  cases v with
  | str s => exact right_str_iff s
  | null => exact (right_of_not_str rfl).trans (iff_of_true ⟨0, rfl⟩ trivial)
  | bool b => exact (right_of_not_str rfl).trans (iff_of_true ⟨_, rfl⟩ trivial)
  | int n => exact (right_of_not_str rfl).trans (iff_of_true ⟨n, rfl⟩ trivial)
  | list xs => exact (right_of_not_str rfl).trans (iff_of_true ⟨0, rfl⟩ trivial)
  | dict d => exact (right_of_not_str rfl).trans (iff_of_true ⟨0, rfl⟩ trivial)
  | float f =>
    cases f with
    | finite repr q => exact (right_of_not_str rfl).trans (iff_of_true ⟨_, rfl⟩ trivial)
    | nan => exact (right_of_not_str rfl).trans (iff_of_true ⟨0, rfl⟩ trivial)
    | infinity negative =>
      refine (right_of_not_str rfl).trans (iff_of_false ?_ id)
      rintro ⟨_, h⟩
      cases h

/-- What `check_balance` reports is what `_to_int` returns of the selected balance. -/
theorem checkBalance_total {text : Text} {domainId : Int} {data bal : PyDict}
    (hsome : (data.getOr "balances" (.list [])).truthy = true)
    (hbal : selectGatewayBalance text u (data.getOr "balances" (.list [])) domainId = .ok bal) :
    (∀ b, checkBalance text u domainId (.dict data) = .ok b → toInt u (bal.getOr "balance" (.str "0")) = .ok b.total) ∧
      ∀ e, toInt u (bal.getOr "balance" (.str "0")) = .error e →
        checkBalance text u domainId (.dict data) = .error e := by
  have hcheck : checkBalance text u domainId (.dict data) = (do
      let total ← toInt u (bal.getOr "balance" (.str "0"))
      let formatted ← formatTotal total
      .ok { total := total, available := total, formattedTotal := formatted, formattedAvailable := formatted }) := by
    rw [checkBalance, PyVal.expectDict_dict]
    show (if (data.getOr "balances" (.list [])).truthy = true then _ else _) = _
    rw [if_pos hsome, hbal]
    rfl
  rw [hcheck]
  constructor
  · intro b h
    obtain ⟨total, htotal, h⟩ := bind_ok.mp h
    obtain ⟨formatted, -, h⟩ := bind_ok.mp h
    obtain rfl := Except.ok.inj h
    exact htotal
  · intro e h
    rw [h]
    rfl

end Values

/-- **The balance is read right** of the values that can be read, and of no others; it is what `check_balance`
reports. -/
theorem to_int_iff (u : Decimals) :
    (∀ v, Right u v ↔ Readable u v) ∧
    ∀ (text : Text) (domainId : Int) (data bal : PyDict), (data.getOr "balances" (.list [])).truthy = true →
      selectGatewayBalance text u (data.getOr "balances" (.list [])) domainId = .ok bal →
      (∀ b, checkBalance text u domainId (.dict data) = .ok b →
        toInt u (bal.getOr "balance" (.str "0")) = .ok b.total) ∧
      ∀ e, toInt u (bal.getOr "balance" (.str "0")) = .error e →
        checkBalance text u domainId (.dict data) = .error e :=
  ⟨right_iff u, fun _ _ _ _ hsome hbal => checkBalance_total hsome hbal⟩

/-- A balance of minus one and a half comes out as minus a half, and a text that is no number raises. -/
theorem to_int_wrong :
    ¬∀ (u : Decimals) (v : PyVal), (∃ n, toInt u v = .ok n) ∧
      ∀ s sign whole fraction, v = .str s → BalanceText sign whole fraction s →
        toInt u v = .ok (atomicUnits sign whole fraction) := by
  intro hall
  have hbalance : BalanceText ['-'] ['1'] ['5'] "-1.5" :=
    ⟨by decide +kernel, .inr (.inr rfl), by decide, List.forall_mem_singleton.mpr (by decide), by decide,
      List.forall_mem_singleton.mpr (by decide)⟩
  have hright := (hall .ascii (.str "-1.5")).2 "-1.5" _ _ _ rfl hbalance
  have hwrong : (toInt .ascii (.str "-1.5")).toOption = some (-500000) := by decide +kernel
  rw [hright] at hwrong
  exact absurd hwrong (by decide)

end Nanopayments
end HostedFacilitator
