import HostedFacilitator.Lib.Trim
import HostedFacilitator.Python.Decimal

/-!
# Integer literals

A text that `int()` accepts, `Decimal()` accepts too, and both read the same number (`decimal_of_ofText`). The converse
fails: a decimal point, an exponent, an underscore at an odd place or a text of more than 4300 digits is for `Decimal()`
only. `IntLiteral` says which texts `int()` accepts.
-/

namespace HostedFacilitator

/-- Digits with single underscores between them. -/
def grouped : List Char → Bool
  | [] => false
  | [c] => c.isDigit
  | c :: '_' :: rest => c.isDigit && grouped rest
  | c :: rest => c.isDigit && grouped rest

/-- A numeral without its sign. -/
def dropSign : List Char → List Char
  | '-' :: rest => rest
  | '+' :: rest => rest
  | rest => rest

/-- A text that `int()` accepts: spaces around a sign and at most 4300 digits with single underscores between them. -/
structure IntLiteral (u : Decimals) (s : String) : Prop where
  grouped : grouped (dropSign (trimInt (s.toList.map u.toAscii))) = true
  short : ((dropSign (trimInt (s.toList.map u.toAscii))).filter (· != '_')).length ≤ 4300

section Digits

theorem isDigit_toNat {c : Char} : c.isDigit = true ↔ 48 ≤ c.toNat ∧ c.toNat ≤ 57 := by
  have h0 : '0'.val.toNat = 48 := rfl
  have h9 : '9'.val.toNat = 57 := rfl
  have hval : c.toNat = c.val.toNat := rfl
  simp only [Char.isDigit, Bool.and_eq_true, decide_eq_true_eq, ge_iff_le, UInt32.le_iff_toNat_le, h0, h9, hval]

theorem digitIn_ten {c : Char} {d : Nat} : digitIn 10 c = some d ↔ c.isDigit = true ∧ d = c.toNat - 48 := by
  rw [isDigit_toNat, digitIn, Option.filter_eq_some_iff, digitValue]
  simp only [Bool.and_eq_true, decide_eq_true_eq]
  split
  · rename_i h
    simp only [Option.some.injEq]
    omega
  · rename_i h
    split
    · simp only [Option.some.injEq]
      omega
    · split
      · simp only [Option.some.injEq]
        omega
      · simp only [reduceCtorEq, false_and, false_iff]
        omega

theorem digit_ne_underscore {c : Char} (h : c.isDigit = true) : c ≠ '_' := by
  rintro rfl
  exact absurd h (by decide)

theorem filter_digit {c : Char} (h : c.isDigit = true) (rest : List Char) :
    (c :: rest).filter (· != '_') = c :: rest.filter (· != '_') :=
  List.filter_cons_of_pos (bne_iff_ne.mpr (digit_ne_underscore h))

theorem filter_underscore (rest : List Char) : ('_' :: rest).filter (· != '_') = rest.filter (· != '_') :=
  List.filter_cons_of_neg (by decide)

theorem digitsValue_digit {acc : Nat} {c : Char} (h : c.isDigit = true) (rest : List Char) :
    digitsValue acc (c :: rest) = digitsValue (10 * acc + (c.toNat - 48)) rest := by
  rw [digitsValue, if_pos h]

/-- The underscores do not count, and everything else is a digit. -/
theorem readDigits_filter {acc n : Nat} {s : List Char} (h : readDigits 10 acc s = some n) :
    digitsValue acc (s.filter (· != '_')) = some n ∧ ∀ c ∈ s, c.isDigit = true ∨ c = '_' := by
  fun_induction readDigits 10 acc s with
  | case1 acc => exact ⟨h, by simp⟩
  | case2 acc c rest d hd ih =>
    obtain ⟨hdigit, rfl⟩ := digitIn_ten.mp hd
    obtain ⟨hvalue, hall⟩ := ih h
    constructor
    · rw [filter_underscore, filter_digit hdigit, digitsValue_digit hdigit, hvalue]
    · intro x hx
      rcases List.mem_cons.mp hx with rfl | hx
      · exact .inr rfl
      · rcases List.mem_cons.mp hx with rfl | hx
        · exact .inl hdigit
        · exact hall x hx
  | case3 acc c rest hd => cases h
  | case4 acc c rest hnot d hd ih =>
    obtain ⟨hdigit, rfl⟩ := digitIn_ten.mp hd
    obtain ⟨hvalue, hall⟩ := ih h
    constructor
    · rw [filter_digit hdigit, digitsValue_digit hdigit, hvalue]
    · intro x hx
      rcases List.mem_cons.mp hx with rfl | hx
      · exact .inl hdigit
      · exact hall x hx
  | case5 acc c rest hnot hd => cases h

theorem readNat_filter {n : Nat} {s : List Char} (h : readNat 10 s = some n) :
    (∃ c rest, s = c :: rest ∧ c.isDigit = true) ∧ digitsValue 0 (s.filter (· != '_')) = some n ∧
      ∀ c ∈ s, c.isDigit = true ∨ c = '_' := by
  cases s with
  | nil => cases h
  | cons c rest =>
    obtain ⟨d, hd, hrest⟩ := Option.bind_eq_some_iff.mp h
    obtain ⟨hdigit, rfl⟩ := digitIn_ten.mp hd
    obtain ⟨hvalue, hall⟩ := readDigits_filter hrest
    refine ⟨⟨c, rest, rfl, hdigit⟩, ?_, ?_⟩
    · rw [filter_digit hdigit, digitsValue_digit hdigit, Nat.mul_zero, Nat.zero_add, hvalue]
    · intro x hx
      rcases List.mem_cons.mp hx with rfl | hx
      · exact .inl hdigit
      · exact hall x hx

theorem digitIn_none {c : Char} (h : c.isDigit = false) : digitIn 10 c = none := by
  cases hd : digitIn 10 c with
  | none => rfl
  | some d => exact absurd (digitIn_ten.mp hd).1 (by simp [h])

theorem grouped_not_digit {c : Char} (h : c.isDigit = false) (s : List Char) : grouped (c :: s) = false := by
  unfold grouped
  split <;> simp_all

theorem grouped_cons {c x : Char} (hc : c.isDigit = true) (hx : x ≠ '_') (s : List Char) :
    grouped (c :: x :: s) = grouped (x :: s) := by
  rw [grouped, hc, Bool.true_and]
  · intro h
    cases h
  · intro rest h
    exact hx (List.cons.inj h).1

/-- After a digit the reader goes on exactly over the groups. -/
theorem readDigits_isSome (acc : Nat) {c : Char} (hc : c.isDigit = true) (s : List Char) :
    (readDigits 10 acc s).isSome = grouped (c :: s) := by
  fun_induction readDigits 10 acc s generalizing c with
  | case1 acc => exact hc.symm
  | case2 acc x rest d hd ih =>
    have hx := (digitIn_ten.mp hd).1
    rw [ih hx, grouped, hc, Bool.true_and]
  | case3 acc x rest hd =>
    have hx : x.isDigit = false := by
      by_contra h
      rw [digitIn_ten.mpr ⟨by simpa using h, rfl⟩] at hd
      cases hd
    rw [grouped, hc, Bool.true_and, grouped_not_digit hx]
    rfl
  | case4 acc x rest hnot d hd ih =>
    have hx := (digitIn_ten.mp hd).1
    rw [ih hx, grouped_cons hc (digit_ne_underscore hx)]
  | case5 acc x rest hnot hd =>
    have hx : x.isDigit = false := by
      by_contra h
      rw [digitIn_ten.mpr ⟨by simpa using h, rfl⟩] at hd
      cases hd
    by_cases hu : x = '_'
    · subst hu
      cases rest with
      | nil => simp [grouped]
      | cons y rest => exact absurd rfl (hnot y rest rfl)
    · rw [grouped_cons hc hu, grouped_not_digit hx]
      rfl

theorem readNat_isSome (s : List Char) : (readNat 10 s).isSome = grouped s := by
  cases s with
  | nil => rfl
  | cons c rest =>
    cases hc : c.isDigit with
    | true =>
      rw [readNat, digitIn_ten.mpr ⟨hc, rfl⟩, Option.bind_some, readDigits_isSome _ hc]
    | false =>
      rw [readNat, digitIn_none hc, grouped_not_digit hc]
      rfl

end Digits

/-! ## What `int()` accepts -/

section Literal

variable {u : Decimals} {s : String}

theorem readUnsigned_isSome (s : List Char) :
    (readUnsigned 10 s).isSome = true ↔ grouped s = true ∧ (s.filter (· != '_')).length ≤ 4300 := by
  rw [readUnsigned, if_neg (by decide)]
  split
  · rename_i h
    exact iff_of_false (by simp) fun h' => absurd h'.2 (by omega)
  · rename_i h
    rw [readNat_isSome]
    exact (and_iff_left (by omega)).symm

/-- The sign, and the number behind it. -/
theorem readInt_dropSign (s : List Char) :
    readInt 10 s = (readUnsigned 10 (dropSign (trimInt s))).map fun n : Nat =>
      if (trimInt s).head? = some '-' then -(n : Int) else n := by
  unfold readInt
  split
  · rename_i rest h
    rw [h, dropSign]
    cases readUnsigned 10 rest <;> rfl
  · rename_i rest h
    rw [h, dropSign]
    cases readUnsigned 10 rest <;> rfl
  · rename_i hminus hplus
    have hhead : (trimInt s).head? ≠ some '-' := by
      intro h
      obtain ⟨rest, hrest⟩ := List.head?_eq_some_iff.mp h
      exact hminus rest hrest
    have hdrop : dropSign (trimInt s) = trimInt s := by
      unfold dropSign
      split
      · rename_i h
        exact absurd h (hminus _)
      · rename_i h
        exact absurd h (hplus _)
      · rfl
    rw [hdrop]
    cases readUnsigned 10 (trimInt s) with
    | none => rfl
    | some n => rw [Option.map_some, Option.map_some, if_neg hhead]; rfl

theorem ofText_isSome : (u.ofText 10 s).isSome = true ↔ IntLiteral u s := by
  rw [Decimals.ofText, readInt_dropSign, Option.isSome_map, readUnsigned_isSome]
  exact ⟨fun h => ⟨h.1, h.2⟩, fun h => ⟨h.1, h.2⟩⟩

end Literal

/-! ## The same number -/

section Agreement

variable {u : Decimals} {s : String}

/-- The digits of a numeral bound its number. -/
theorem digitsValue_lt {acc n : Nat} {s : List Char} (h : digitsValue acc s = some n) :
    n < (acc + 1) * 10 ^ s.length := by
  induction s generalizing acc with
  | nil =>
    cases h
    simp
  | cons c rest ih =>
    rw [digitsValue] at h
    split at h
    · rename_i hc
      have hdigit := isDigit_toNat.mp hc
      calc n < (10 * acc + (c.toNat - 48) + 1) * 10 ^ rest.length := ih h
        _ ≤ ((acc + 1) * 10) * 10 ^ rest.length := Nat.mul_le_mul_right _ (by omega)
        _ = (acc + 1) * 10 ^ (c :: rest).length := by rw [List.length_cons, Nat.pow_succ', Nat.mul_assoc]
    · cases h

theorem digitCount_le {n : Nat} {s : List Char} (h : digitsValue 0 s = some n) (hne : s ≠ []) :
    Decimal.digitCount n ≤ s.length := by
  have hlt := digitsValue_lt h
  rw [Nat.zero_add, Nat.one_mul] at hlt
  exact (Nat.length_toDigits_le_iff (by decide) (List.length_pos_of_ne_nil hne)).mpr hlt

/-- No digit begins an infinity, a NaN, an exponent or a fraction. -/
theorem digit_plain {c : Char} (h : c.isDigit = true) :
    c.toLower ≠ 'n' ∧ c.toLower ≠ 's' ∧ c.toLower ≠ 'i' ∧ c ≠ 'e' ∧ c ≠ 'E' ∧ c ≠ '.' := by
  have hdigit := isDigit_toNat.mp h
  have hplain : ∀ n < 58, 48 ≤ n → (Char.ofNat n).toLower ≠ 'n' ∧ (Char.ofNat n).toLower ≠ 's' ∧
      (Char.ofNat n).toLower ≠ 'i' ∧ Char.ofNat n ≠ 'e' ∧ Char.ofNat n ≠ 'E' ∧ Char.ofNat n ≠ '.' := by decide
  have hc := hplain c.toNat (by omega) (by omega)
  rwa [Char.ofNat_toNat] at hc

theorem digit_not_space {c : Char} (h : c.isDigit = true) : isPySpace c = false := by
  have hdigit := isDigit_toNat.mp h
  rw [Bool.eq_false_iff]
  intro hspace
  simp only [isPySpace, Bool.or_eq_true, Bool.and_eq_true, decide_eq_true_eq, beq_iff_eq] at hspace
  omega

theorem digit_not_sign {c : Char} (h : c.isDigit = true) : c ≠ '+' ∧ c ≠ '-' := by
  constructor
  · rintro rfl
    exact absurd h (by decide)
  · rintro rfl
    exact absurd h (by decide)

/-- A text of digits is a finite number without an exponent. -/
theorem readFinite_digits {n : Nat} {s : List Char} (h : digitsValue 0 s = some n) (hne : s ≠ [])
    (hall : ∀ c ∈ s, c.isDigit = true) (hlength : s.length ≤ 4300) : readFinite s = some (n, 0) := by
  have hexp : s.takeWhile (fun c => !(c == 'e' || c == 'E')) = s := by
    rw [List.takeWhile_eq_self_iff]
    intro c hc
    obtain ⟨-, -, -, he, hE, -⟩ := digit_plain (hall c hc)
    simp [he, hE]
  have hrest : s.dropWhile (fun c => !(c == 'e' || c == 'E')) = [] := by
    rw [List.dropWhile_eq_nil_iff]
    intro c hc
    obtain ⟨-, -, -, he, hE, -⟩ := digit_plain (hall c hc)
    simp [he, hE]
  have hwhole : s.takeWhile (· != '.') = s := by
    rw [List.takeWhile_eq_self_iff]
    intro c hc
    obtain ⟨-, -, -, -, -, hpoint⟩ := digit_plain (hall c hc)
    simp [hpoint]
  have hfraction : s.dropWhile (· != '.') = [] := by
    rw [List.dropWhile_eq_nil_iff]
    intro c hc
    obtain ⟨-, -, -, -, -, hpoint⟩ := digit_plain (hall c hc)
    simp [hpoint]
  have hcount := digitCount_le h hne
  simp only [readFinite, hexp, hrest, hwhole, hfraction, List.drop_nil, List.append_nil, h]
  rw [if_neg (by simpa using hne)]
  simp only [readExponent, Option.bind_eq_bind, Option.bind_some, List.length_nil, Nat.cast_zero, sub_zero]
  rw [if_neg (by omega)]

/-- What begins with a digit is a finite number. -/
theorem readMagnitude_of_digit (negative : Bool) {c : Char} (h : c.isDigit = true) (rest : List Char) :
    readMagnitude negative (c :: rest) = (readFinite (c :: rest)).map fun n => .finite negative n.1 n.2 := by
  obtain ⟨hn, hs, hi, -⟩ := digit_plain h
  simp only [readMagnitude, List.map_cons, List.take_succ_cons]
  rw [if_neg fun h => hn (List.cons.inj h).1, if_neg fun h => hs (List.cons.inj h).1,
    if_neg fun h => h.elim (fun h => hi (List.cons.inj h).1) fun h => hi (List.cons.inj h).1]

/-- A text of digits is read as an integer. -/
theorem readMagnitude_digits (negative : Bool) {n : Nat} {s : List Char} (h : digitsValue 0 s = some n) (hne : s ≠ [])
    (hall : ∀ c ∈ s, c.isDigit = true) (hlength : s.length ≤ 4300) :
    readMagnitude negative s = some (.finite negative n 0) := by
  have hfinite := readFinite_digits h hne hall hlength
  obtain ⟨c, rest, rfl⟩ := List.exists_cons_of_ne_nil hne
  rw [readMagnitude_of_digit negative (hall c List.mem_cons_self), hfinite]
  rfl

/-- What becomes of a character beyond ASCII. -/
theorem toAscii_cases {c : Char} (h : 127 ≤ c.toNat) :
    (isPySpace c = true ∧ u.toAscii c = ' ') ∨ (isPySpace c = false ∧ ∃ n ≤ 9, u.toAscii c = Char.ofNat (48 + n)) ∨
      (isPySpace c = false ∧ u.toAscii c = '?') := by
  rw [Decimals.toAscii, if_neg (by omega)]
  cases hspace : isPySpace c with
  | true => exact .inl ⟨rfl, by simp⟩
  | false =>
    cases hd : u.digit c with
    | none => exact .inr (.inr ⟨rfl, by simp⟩)
    | some d => exact .inr (.inl ⟨rfl, d, Nat.le_of_lt_succ (u.digit_lt c d hd), by simp⟩)

theorem ofNat_digit : ∀ n ≤ 9, isPySpace (Char.ofNat (48 + n)) = false ∧ Char.ofNat (48 + n) ≠ '_' := by decide

theorem toAscii_isPySpace (c : Char) : isPySpace (u.toAscii c) = isPySpace c := by
  by_cases h : c.toNat < 127
  · rw [Decimals.toAscii, if_pos h]
  · rcases toAscii_cases (u := u) (c := c) (by omega) with ⟨hc, ha⟩ | ⟨hc, n, hn, ha⟩ | ⟨hc, ha⟩
    · rw [hc, ha]
      decide
    · rw [hc, ha, (ofNat_digit n hn).1]
    · rw [hc, ha]
      decide

theorem toAscii_underscore (c : Char) : (u.toAscii c != '_') = (c != '_') := by
  by_cases h : c.toNat < 127
  · rw [Decimals.toAscii, if_pos h]
  · have hc : (c != '_') = true := by
      rw [bne_iff_ne]
      rintro rfl
      exact h (by decide)
    rw [hc, bne_iff_ne]
    rcases toAscii_cases (u := u) (c := c) (by omega) with ⟨-, ha⟩ | ⟨-, n, hn, ha⟩ | ⟨-, ha⟩
    · rw [ha]
      decide
    · rw [ha]
      exact (ofNat_digit n hn).2
    · rw [ha]
      decide

/-- `Decimal()` works on the characters in ASCII as well. -/
theorem decimal_eq (s : String) :
    u.decimal s = match (Trim.trim isPySpace (s.toList.map u.toAscii)).filter (· != '_') with
      | '+' :: rest => readMagnitude false rest
      | '-' :: rest => readMagnitude true rest
      | rest => readMagnitude false rest := by
  have hspace : isPySpace ∘ u.toAscii = isPySpace := funext toAscii_isPySpace
  have hunderscore : (fun c => c != '_') ∘ u.toAscii = fun c => c != '_' := funext toAscii_underscore
  rw [Trim.trim_map, hspace, List.filter_map, hunderscore, Decimals.decimal, strip, String.toList_ofList]
  rfl

theorem dropSign_cases (s : List Char) :
    s = '-' :: dropSign s ∨ s = '+' :: dropSign s ∨ (s = dropSign s ∧ s.head? ≠ some '-' ∧ s.head? ≠ some '+') := by
  unfold dropSign
  split
  · exact .inl rfl
  · exact .inr (.inl rfl)
  · rename_i hminus hplus
    refine .inr (.inr ⟨rfl, fun h => ?_, fun h => ?_⟩)
    · obtain ⟨rest, hrest⟩ := List.head?_eq_some_iff.mp h
      exact hminus rest hrest
    · obtain ⟨rest, hrest⟩ := List.head?_eq_some_iff.mp h
      exact hplus rest hrest

/-- **What `int()` reads, `Decimal()` reads as the same number.** -/
theorem decimal_of_ofText {m : Int} (h : u.ofText 10 s = some m) :
    ∃ negative c, u.decimal s = some (.finite negative c 0) ∧ m = if negative then -(c : Int) else c := by
  rw [Decimals.ofText, readInt_dropSign] at h
  generalize hcore : trimInt (s.toList.map u.toAscii) = core at h
  obtain ⟨n, hn, rfl⟩ := Option.map_eq_some_iff.mp h
  have hlength : ((dropSign core).filter (· != '_')).length ≤ 4300 :=
    ((readUnsigned_isSome _).mp (by rw [hn]; rfl)).2
  rw [readUnsigned, if_neg (by decide), if_neg (by omega)] at hn
  obtain ⟨⟨first, rest, hfirst, hdigit⟩, hvalue, hall⟩ := readNat_filter hn
  have hdigits : ∀ c ∈ (dropSign core).filter (· != '_'), c.isDigit = true := by
    intro c hc
    obtain ⟨hmem, hne⟩ := List.mem_filter.mp hc
    exact (hall c hmem).resolve_right (by simpa using hne)
  have hne : (dropSign core).filter (· != '_') ≠ [] := by
    rw [hfirst, filter_digit hdigit]
    exact List.cons_ne_nil _ _
  have hread := fun negative => readMagnitude_digits negative hvalue hne hdigits hlength
  -- neither a sign nor a digit nor an underscore is a space, so both functions trim the text alike
  have hbody : ∀ c ∈ dropSign core, isPySpace c = false := by
    intro c hc
    rcases hall c hc with hd | rfl
    · exact digit_not_space hd
    · decide
  have hplain : ∀ c ∈ core, isPySpace c = false := by
    intro c hc
    rcases dropSign_cases core with he | he | ⟨he, -⟩
    · rw [he] at hc
      rcases List.mem_cons.mp hc with rfl | hc
      · decide
      · exact hbody c hc
    · rw [he] at hc
      rcases List.mem_cons.mp hc with rfl | hc
      · decide
      · exact hbody c hc
    · exact hbody c (he ▸ hc)
  have hcore_ne : core ≠ [] := by
    rintro rfl
    cases hfirst
  have htrim : Trim.trim isPySpace (s.toList.map u.toAscii) = core := by
    have himp : ∀ c, isIntSpace c = true → isPySpace c = true := by
      intro c hc
      simp only [isIntSpace, isPySpace, Bool.or_eq_true, Bool.and_eq_true, decide_eq_true_eq, beq_iff_eq] at hc ⊢
      omega
    have hint : Trim.trim isIntSpace (s.toList.map u.toAscii) = core := hcore
    rw [Trim.trim_of_imp himp (by rwa [hint]) (by rwa [hint]), hint]
  rw [decimal_eq, htrim]
  rcases dropSign_cases core with he | he | ⟨he, hminus, hplus⟩
  · have hfilter : core.filter (· != '_') = '-' :: (dropSign core).filter (· != '_') := by
      conv_lhs => rw [he]
      exact List.filter_cons_of_pos (by decide)
    exact ⟨true, n, by rw [hfilter]; exact hread true, by rw [he]; rfl⟩
  · have hfilter : core.filter (· != '_') = '+' :: (dropSign core).filter (· != '_') := by
      conv_lhs => rw [he]
      exact List.filter_cons_of_pos (by decide)
    exact ⟨false, n, by rw [hfilter]; exact hread false, by rw [he]; rfl⟩
  · refine ⟨false, n, ?_, by rw [if_neg hminus]; rfl⟩
    have hfilter : core.filter (· != '_') = first :: rest.filter (· != '_') := by
      rw [he, hfirst, filter_digit hdigit]
    have hrest := hread false
    rw [hfirst, filter_digit hdigit] at hrest
    rw [hfilter]
    split
    · rename_i hcons
      exact absurd (List.cons.inj hcons).1 (digit_not_sign hdigit).1
    · rename_i hcons
      exact absurd (List.cons.inj hcons).1 (digit_not_sign hdigit).2
    · exact hrest

end Agreement

end HostedFacilitator
