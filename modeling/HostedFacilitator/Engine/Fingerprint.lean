import HostedFacilitator.Engine.Envelope
import HostedFacilitator.Python.Decimal

/-!
# What a fingerprint tells apart

`payment_fingerprint` hashes the canonical JSON of a payment. With the hash and the JSON taken to be injective, two
payments have one fingerprint exactly when their fields agree: addresses up to the case of their letters when they begin
with `0x`, and numbers as they are spelled (`fingerprint_eq_iff`). A number that is no integer is rounded before it is
spelled, so two payments can agree in their fingerprints and differ in a number (`fingerprint_characterised`).

The validator compares the same fields in another way: every address up to case, scheme and network through `str()`. Two
requirements that it cannot tell apart can have two fingerprints (`validator_agrees_iff`).
-/

namespace HostedFacilitator

/-! ## JSON values -/

mutual

/-- The value with the entries of its dictionaries in the order of their keys, as `sort_keys=True` writes them. -/
def PyVal.sorted : PyVal → PyVal
  | .list xs => .list (PyVal.sortedList xs)
  | .dict d => .dict ((PyVal.sortedEntries d).mergeSort fun e e' => e.1 ≤ e'.1)
  | .null => .null
  | .bool b => .bool b
  | .int n => .int n
  | .float f => .float f
  | .str s => .str s

def PyVal.sortedList : List PyVal → List PyVal
  | [] => []
  | x :: xs => PyVal.sorted x :: PyVal.sortedList xs

def PyVal.sortedEntries : List (String × PyVal) → List (String × PyVal)
  | [] => []
  | (k, v) :: rest => (k, PyVal.sorted v) :: PyVal.sortedEntries rest

end

/-- The two values are the same JSON. -/
def PyVal.Same (v w : PyVal) : Prop := v.sorted = w.sorted

theorem PyVal.Same.refl (v : PyVal) : v.Same v := rfl

theorem PyVal.Same.symm {v w : PyVal} (h : v.Same w) : w.Same v := Eq.symm h

theorem PyVal.same_null {v : PyVal} : v.Same .null ↔ v = .null := by
  cases v <;> simp [PyVal.Same, PyVal.sorted]

@[simp] theorem PyVal.same_str (s t : String) : (PyVal.str s).Same (.str t) ↔ s = t := by
  simp [PyVal.Same, PyVal.sorted]

@[simp] theorem PyVal.same_int (n m : Int) : (PyVal.int n).Same (.int m) ↔ n = m := by
  simp [PyVal.Same, PyVal.sorted]

theorem PyVal.sortedEntries_map (entries : List (String × PyVal)) :
    PyVal.sortedEntries entries = entries.map fun e => (e.1, e.2.sorted) := by
  induction entries with
  | nil => rfl
  | cons e rest ih => rw [PyVal.sortedEntries, ih, List.map_cons]

/-- The values of a key are equal in two tables with the same entries. -/
theorem value_eq_of_mem {α : Type} {entries : List (String × α × α)} (hkeys : (entries.map Prod.fst).Nodup)
    (hmem : ∀ x, x ∈ (entries.map fun e => (e.1, e.2.1)) ↔ x ∈ (entries.map fun e => (e.1, e.2.2)))
    {e : String × α × α} (he : e ∈ entries) : e.2.1 = e.2.2 := by
  obtain ⟨e', he', heq⟩ := List.mem_map.mp ((hmem _).mp (List.mem_map.mpr ⟨e, he, rfl⟩))
  obtain ⟨hkey, hvalue⟩ := Prod.mk.inj heq
  have hsame : e' = e := List.inj_on_of_nodup_map hkeys he' he hkey
  rw [hsame] at hvalue
  exact hvalue.symm

/-- Two dictionaries with the same keys are the same when their values are. -/
theorem PyVal.same_dict {entries : List (String × PyVal × PyVal)} (hkeys : (entries.map Prod.fst).Nodup) :
    (PyVal.dict (entries.map fun e => (e.1, e.2.1))).Same (.dict (entries.map fun e => (e.1, e.2.2))) ↔
      ∀ e ∈ entries, e.2.1.Same e.2.2 := by
  let sorted := entries.map fun e => (e.1, e.2.1.sorted, e.2.2.sorted)
  have hleft : PyVal.sortedEntries (entries.map fun e => (e.1, e.2.1)) = sorted.map fun e => (e.1, e.2.1) := by
    simp [PyVal.sortedEntries_map, sorted]
  have hright : PyVal.sortedEntries (entries.map fun e => (e.1, e.2.2)) = sorted.map fun e => (e.1, e.2.2) := by
    simp [PyVal.sortedEntries_map, sorted]
  have hnodup : (sorted.map Prod.fst).Nodup := by simpa [sorted, Function.comp_def] using hkeys
  rw [PyVal.Same, PyVal.sorted, PyVal.sorted, hleft, hright, PyVal.dict.injEq]
  constructor
  · intro h e he
    refine value_eq_of_mem hnodup (fun x => ?_) (e := (e.1, e.2.1.sorted, e.2.2.sorted)) (List.mem_map.mpr ⟨e, he, rfl⟩)
    rw [← (List.mergeSort_perm _ _).mem_iff, h, (List.mergeSort_perm _ _).mem_iff]
  · intro h
    congr 1
    simp only [sorted, List.map_map]
    refine List.map_congr_left fun e he => ?_
    exact congrArg (Prod.mk e.1) (h e he)

/-- The digest tells the two hashed dictionaries apart, as JSON values. -/
def Text.Injective (text : Text) (d d' : PyDict) : Prop :=
  text.sha256 (text.jsonDumps (.dict d)) = text.sha256 (text.jsonDumps (.dict d')) ↔ (PyVal.dict d).Same (.dict d')

/-! ## Addresses -/

/-- The text begins with `0x` or `0X`. -/
def beginsHex (s : String) : Bool :=
  match s.toList with
  | '0' :: c :: _ => c == 'x' || c == 'X'
  | _ => false

/-- `str.lower()` keeps a `0x` at the beginning and makes one only of `0X`. -/
def Text.LowersHex (text : Text) : Prop := ∀ s, startsHex (text.lower s) = beginsHex s

/-- The two values are the same, or texts that begin with `0x` and differ in the case of letters only. -/
def SameHex (text : Text) (v w : PyVal) : Prop :=
  v.Same w ∨
    ∃ s t, v = .str s ∧ w = .str t ∧ beginsHex s = true ∧ beginsHex t = true ∧ text.lower s = text.lower t

theorem beginsHex_of_startsHex {s : String} (h : startsHex s = true) : beginsHex s = true := by
  simp only [startsHex, beq_iff_eq] at h
  unfold beginsHex
  split
  · rename_i c rest hs
    rw [hs] at h
    simp only [List.take_succ_cons, List.take_zero, List.cons.injEq, and_true, true_and] at h
    simp [h]
  · rename_i hs
    obtain ⟨rest, hrest⟩ : ∃ rest, s.toList = '0' :: 'x' :: rest := by
      refine ⟨s.toList.drop 2, ?_⟩
      conv_lhs => rw [← List.take_append_drop 2 s.toList, h]
      rfl
    exact absurd hrest (hs _ _)

theorem lowerHex_str (text : Text) (s : String) :
    lowerHex text (.str s) = .str (if startsHex (text.lower s) then text.lower s else s) := by
  simp only [lowerHex, startsHex, beq_iff_eq]
  split <;> rfl

theorem lowerHex_of_not_str {text : Text} {v : PyVal} (h : v.asStr = none) : lowerHex text v = v := by
  cases v with
  | str s => cases h
  | null | bool | int | float | list | dict => rfl

/-- A text is the same as texts only. -/
theorem same_str_of_not_str {v : PyVal} (h : v.asStr = none) (s : String) :
    ¬ (PyVal.str s).Same v ∧ ¬ v.Same (.str s) := by
  cases v with
  | str t => cases h
  | null | bool | int | float | list | dict => simp [PyVal.Same, PyVal.sorted]

theorem SameHex.of_not_str {text : Text} {v w : PyVal} (h : v.asStr = none ∨ w.asStr = none) :
    SameHex text v w ↔ v.Same w := by
  constructor
  · rintro (hsame | ⟨s, t, rfl, rfl, -⟩)
    · exact hsame
    · rcases h with h | h <;> cases h
  · exact .inl

/-- On texts: a text in lower case that begins with `0x` comes from a text that does. -/
theorem SameHex.str_iff {text : Text} (hlower : text.LowersHex) (s t : String) :
    (if beginsHex s then text.lower s else s) = (if beginsHex t then text.lower t else t) ↔
      SameHex text (.str s) (.str t) := by
  have hstarts : ∀ s t, beginsHex s = true → text.lower s = t → beginsHex t = true := by
    rintro s t hs rfl
    exact beginsHex_of_startsHex (by rw [hlower, hs])
  constructor
  · intro h
    by_cases hs : beginsHex s = true
    · by_cases ht : beginsHex t = true
      · rw [if_pos hs, if_pos ht] at h
        exact .inr ⟨s, t, rfl, rfl, hs, ht, h⟩
      · rw [if_pos hs, if_neg ht] at h
        exact absurd (hstarts s t hs h) ht
    · by_cases ht : beginsHex t = true
      · rw [if_neg hs, if_pos ht] at h
        exact absurd (hstarts t s ht h.symm) hs
      · rw [if_neg hs, if_neg ht] at h
        exact .inl (by simp [h])
  · rintro (h | ⟨s', t', hs', ht', hs, ht, h⟩)
    · rw [PyVal.same_str] at h
      rw [h]
    · obtain rfl := PyVal.str.inj hs'
      obtain rfl := PyVal.str.inj ht'
      rw [if_pos hs, if_pos ht, h]

/-- `_lower_hex` makes of two values the same exactly when they are the same up to case. -/
theorem same_lowerHex {text : Text} (hlower : text.LowersHex) (v w : PyVal) :
    (lowerHex text v).Same (lowerHex text w) ↔ SameHex text v w := by
  cases hv : v.asStr with
  | none =>
    rw [lowerHex_of_not_str hv, SameHex.of_not_str (.inl hv)]
    cases hw : w.asStr with
    | none => rw [lowerHex_of_not_str hw]
    | some t =>
      obtain rfl := PyVal.asStr_eq_some hw
      rw [lowerHex_str]
      exact iff_of_false (same_str_of_not_str hv _).2 (same_str_of_not_str hv _).2
  | some s =>
    obtain rfl := PyVal.asStr_eq_some hv
    cases hw : w.asStr with
    | none =>
      rw [lowerHex_of_not_str hw, SameHex.of_not_str (.inr hw), lowerHex_str]
      exact iff_of_false (same_str_of_not_str hw _).1 (same_str_of_not_str hw _).1
    | some t =>
      obtain rfl := PyVal.asStr_eq_some hw
      rw [lowerHex_str, lowerHex_str, PyVal.same_str, hlower, hlower]
      exact SameHex.str_iff hlower s t

/-! ## Numbers -/

section Numbers

variable (text : Text) (u : Decimals)

/-- The number that a field holds; there is none where the field is missing. -/
def numberIn : PyVal → Option Number
  | .null => none
  | v => (u.decimal (v.toStr text)).map PyDecimal.number

/-- The number of a field as it is written: an integer as it is, another number rounded to 28 significant digits. -/
def spellingIn : PyVal → Option Spelling
  | .null => none
  | v => (u.decimal (v.toStr text)).bind PyDecimal.spelling

variable {text u} {v w v' w' : PyVal}

theorem toStr_withDecimals (v : PyVal) : v.toStr (text.withDecimals u) = v.toStr text := by
  cases v with
  | bool b => cases b <;> rfl
  | float f =>
    cases f with
    | infinity negative => cases negative <;> rfl
    | finite | nan => rfl
  | null | int | str | list | dict => rfl

theorem numberIn_of_ne_null (h : v ≠ .null) : numberIn text u v = (u.decimal (v.toStr text)).map PyDecimal.number := by
  cases v with
  | null => exact absurd rfl h
  | bool | int | float | str | list | dict => rfl

theorem spellingIn_of_ne_null (h : v ≠ .null) :
    spellingIn text u v = (u.decimal (v.toStr text)).bind PyDecimal.spelling := by
  cases v with
  | null => exact absurd rfl h
  | bool | int | float | str | list | dict => rfl

/-- A number that is written has a spelling. -/
theorem written_spelling {t written : String}
    (h : (∃ n, u.read t = .integral n ∧ written = toString n) ∨ u.read t = .fractional written) :
    ∃ d s, u.decimal t = some d ∧ d.spelling = some s ∧ s.text = written := by
  rw [Decimals.read] at h
  cases hd : u.decimal t with
  | none =>
    rw [hd] at h
    rcases h with ⟨n, h, -⟩ | h <;> cases h
  | some d =>
    rw [hd] at h
    rcases h with ⟨n, h, rfl⟩ | h
    · obtain ⟨s, hs, htext⟩ := spelling_of_integral h
      exact ⟨d, s, rfl, hs, htext⟩
    · obtain ⟨s, hs, htext⟩ := spelling_of_fractional h
      exact ⟨d, s, rfl, hs, htext⟩

theorem numericString_of_ne_null (hv : v ≠ .null) :
    numericString (text.withDecimals u) v =
      match u.read (v.toStr text) with
      | .invalid => .error (.value ("Invalid numeric fingerprint field: " ++ text.repr v))
      | .integral n => .ok (.str (toString n))
      | .fractional plain => .ok (.str plain)
      | .raises e => .error e := by
  rw [← toStr_withDecimals (u := u)]
  cases v with
  | null => exact absurd rfl hv
  | bool | int | float | str | list | dict => rfl

/-- `_numeric_string` writes the spelling of a number. -/
theorem numericString_ok (h : numericString (text.withDecimals u) v = .ok w) :
    (v = .null ∧ w = .null) ∨
      (v ≠ .null ∧ ∃ s, spellingIn text u v = some s ∧ w = .str s.text) := by
  by_cases hv : v = .null
  · subst hv
    cases h
    exact .inl ⟨rfl, rfl⟩
  · right
    refine ⟨hv, ?_⟩
    rw [numericString_of_ne_null hv] at h
    rw [spellingIn_of_ne_null hv]
    split at h
    · cases h
    · rename_i n hn
      cases h
      obtain ⟨d, s, hd, hs, htext⟩ := written_spelling (.inl ⟨n, hn, rfl⟩)
      exact ⟨s, by rw [hd]; exact hs, by rw [htext]⟩
    · rename_i plain hplain
      cases h
      obtain ⟨d, s, hd, hs, htext⟩ := written_spelling (.inr hplain)
      exact ⟨s, by rw [hd]; exact hs, by rw [htext]⟩
    · cases h

/-- Two numbers are written alike exactly when their spellings are equal. -/
theorem same_numericString (h : numericString (text.withDecimals u) v = .ok w)
    (h' : numericString (text.withDecimals u) v' = .ok w') :
    w.Same w' ↔ spellingIn text u v = spellingIn text u v' := by
  rcases numericString_ok h with ⟨rfl, rfl⟩ | ⟨-, s, hs, rfl⟩
  · rcases numericString_ok h' with ⟨rfl, rfl⟩ | ⟨-, s', hs', rfl⟩
    · simp [PyVal.Same]
    · rw [hs']
      simp [PyVal.Same, PyVal.sorted, spellingIn]
  · rcases numericString_ok h' with ⟨rfl, rfl⟩ | ⟨-, s', hs', rfl⟩
    · rw [hs]
      simp [PyVal.Same, PyVal.sorted, spellingIn]
    · rw [hs, hs', PyVal.same_str, Option.some.injEq]
      exact ⟨spelled_inj, congrArg Spelling.text⟩

/-- Equal numbers are written alike. -/
theorem spellingIn_of_numberIn (h : numberIn text u v = numberIn text u v') :
    spellingIn text u v = spellingIn text u v' := by
  have hnone : ∀ v, numberIn text u v = none → spellingIn text u v = none := by
    intro v hv
    by_cases hn : v = .null
    · rw [hn]
      rfl
    · rw [numberIn_of_ne_null hn, Option.map_eq_none_iff] at hv
      rw [spellingIn_of_ne_null hn, hv]
      rfl
  have hsome : ∀ v x, numberIn text u v = some x →
      ∃ d : PyDecimal, d.number = x ∧ spellingIn text u v = d.spelling := by
    intro v x hv
    by_cases hn : v = .null
    · rw [hn] at hv
      cases hv
    · rw [numberIn_of_ne_null hn] at hv
      obtain ⟨d, hd, rfl⟩ := Option.map_eq_some_iff.mp hv
      exact ⟨d, rfl, by rw [spellingIn_of_ne_null hn, hd]; rfl⟩
  cases hx : numberIn text u v with
  | none => rw [hnone v hx, hnone v' (h ▸ hx)]
  | some x =>
    obtain ⟨d, hd, hs⟩ := hsome v x hx
    obtain ⟨d', hd', hs'⟩ := hsome v' x (h ▸ hx)
    rw [hs, hs', spelling_of_number (hd.trans hd'.symm)]

end Numbers

/-! ## Payments -/

/-- A call of `payment_fingerprint` on a payload with an `accepted` object. -/
structure Payment where
  paymentPayload : PyDict
  paymentRequirements : PyDict
  provider : String
  x402Version : Int
  accepted : PyDict
  isAccepted : paymentPayload.get "accepted" = .dict accepted

namespace Payment

section Fields

variable (text : Text) (u : Decimals) (p q : Payment)

def auth : PyDict := authorization p.paymentPayload

def canonical : Except PyErr PyDict :=
  canonicalPayment text p.paymentPayload p.paymentRequirements p.provider p.x402Version

def fingerprint : Except PyErr String :=
  paymentFingerprint text p.paymentPayload p.paymentRequirements p.provider p.x402Version

/-- The fields agree that are no numbers: addresses and the nonce up to case when they begin with `0x`, the others as
they are. -/
structure SameTexts : Prop where
  x402Version : p.x402Version = q.x402Version
  provider : p.provider = q.provider
  scheme : (p.accepted.get "scheme").Same (q.accepted.get "scheme")
  network : (p.accepted.get "network").Same (q.accepted.get "network")
  asset : SameHex text (p.accepted.get "asset") (q.accepted.get "asset")
  payTo : SameHex text (p.accepted.get "payTo") (q.accepted.get "payTo")
  payer : SameHex text (p.auth.get "from") (q.auth.get "from")
  authorizationTo : SameHex text (p.auth.get "to") (q.auth.get "to")
  nonce : SameHex text (p.auth.get "nonce") (q.auth.get "nonce")

/-- The fields that are read as numbers. -/
def numerals : List PyVal :=
  [p.accepted.get "amount", p.auth.get "value", p.auth.get "validAfter", p.auth.get "validBefore"]

/-- The numbers agree, or are missing on both sides. -/
def SameNumbers : Prop := p.numerals.map (numberIn text u) = q.numerals.map (numberIn text u)

/-- The numbers agree once those that are no integers are rounded to 28 significant digits. -/
def SameRounded : Prop := p.numerals.map (spellingIn text u) = q.numerals.map (spellingIn text u)

end Fields

section Canonical

variable {text : Text} {u : Decimals} {p q : Payment} {d d' : PyDict}

theorem sameRounded_of_sameNumbers (h : p.SameNumbers text u q) : p.SameRounded text u q := by
  simp only [SameNumbers, numerals, List.map_cons, List.map_nil, List.cons.injEq, and_true] at h
  obtain ⟨hamount, hvalue, hafter, hbefore⟩ := h
  simp only [SameRounded, numerals, List.map_cons, List.map_nil, List.cons.injEq, and_true]
  exact ⟨spellingIn_of_numberIn hamount, spellingIn_of_numberIn hvalue, spellingIn_of_numberIn hafter,
    spellingIn_of_numberIn hbefore⟩

/-- The hashed dictionary, with its four numbers. -/
def hashed (text : Text) (p : Payment) (amount value validAfter validBefore : PyVal) : PyDict :=
  [("x402Version", .int p.x402Version),
    ("provider", .str p.provider),
    ("scheme", p.accepted.get "scheme"),
    ("network", p.accepted.get "network"),
    ("asset", lowerHex text (p.accepted.get "asset")),
    ("amount", amount),
    ("payTo", lowerHex text (p.accepted.get "payTo")),
    ("payer", lowerHex text (p.auth.get "from")),
    ("authorizationTo", lowerHex text (p.auth.get "to")),
    ("authorizationValue", value),
    ("authorizationNonce", lowerHex text (p.auth.get "nonce")),
    ("validAfter", validAfter),
    ("validBefore", validBefore)]

theorem canonical_eq (text : Text) (p : Payment) : p.canonical text = (do
    let amount ← numericString text (p.accepted.get "amount")
    let value ← numericString text (p.auth.get "value")
    let validAfter ← numericString text (p.auth.get "validAfter")
    let validBefore ← numericString text (p.auth.get "validBefore")
    .ok (p.hashed text amount value validAfter validBefore)) := by
  have hpayable : (p.paymentPayload.get "accepted").asDict.getD p.paymentRequirements = p.accepted := by
    rw [p.isAccepted]
    rfl
  rw [canonical, canonicalPayment, hpayable]
  rfl

theorem canonical_ok_iff : p.canonical text = .ok d ↔
    ∃ amount value validAfter validBefore,
      numericString text (p.accepted.get "amount") = .ok amount ∧
      numericString text (p.auth.get "value") = .ok value ∧
      numericString text (p.auth.get "validAfter") = .ok validAfter ∧
      numericString text (p.auth.get "validBefore") = .ok validBefore ∧
      d = p.hashed text amount value validAfter validBefore := by
  rw [canonical_eq]
  constructor
  · intro h
    obtain ⟨amount, hamount, h⟩ := bind_ok.mp h
    obtain ⟨value, hvalue, h⟩ := bind_ok.mp h
    obtain ⟨validAfter, hafter, h⟩ := bind_ok.mp h
    obtain ⟨validBefore, hbefore, h⟩ := bind_ok.mp h
    exact ⟨amount, value, validAfter, validBefore, hamount, hvalue, hafter, hbefore, (Except.ok.inj h).symm⟩
  · rintro ⟨amount, value, validAfter, validBefore, hamount, hvalue, hafter, hbefore, rfl⟩
    exact bind_ok.mpr ⟨amount, hamount, bind_ok.mpr ⟨value, hvalue, bind_ok.mpr ⟨validAfter, hafter,
      bind_ok.mpr ⟨validBefore, hbefore, rfl⟩⟩⟩⟩

/-- Two hashed dictionaries are the same field by field. -/
theorem same_hashed {a b c e a' b' c' e' : PyVal} :
    (PyVal.dict (p.hashed text a b c e)).Same (.dict (q.hashed text a' b' c' e')) ↔
      (p.x402Version = q.x402Version ∧ p.provider = q.provider ∧
        (p.accepted.get "scheme").Same (q.accepted.get "scheme") ∧
        (p.accepted.get "network").Same (q.accepted.get "network") ∧
        (lowerHex text (p.accepted.get "asset")).Same (lowerHex text (q.accepted.get "asset")) ∧
        (lowerHex text (p.accepted.get "payTo")).Same (lowerHex text (q.accepted.get "payTo")) ∧
        (lowerHex text (p.auth.get "from")).Same (lowerHex text (q.auth.get "from")) ∧
        (lowerHex text (p.auth.get "to")).Same (lowerHex text (q.auth.get "to")) ∧
        (lowerHex text (p.auth.get "nonce")).Same (lowerHex text (q.auth.get "nonce"))) ∧
      a.Same a' ∧ b.Same b' ∧ c.Same c' ∧ e.Same e' := by
  let entries : List (String × PyVal × PyVal) :=
    [("x402Version", .int p.x402Version, .int q.x402Version),
      ("provider", .str p.provider, .str q.provider),
      ("scheme", p.accepted.get "scheme", q.accepted.get "scheme"),
      ("network", p.accepted.get "network", q.accepted.get "network"),
      ("asset", lowerHex text (p.accepted.get "asset"), lowerHex text (q.accepted.get "asset")),
      ("amount", a, a'),
      ("payTo", lowerHex text (p.accepted.get "payTo"), lowerHex text (q.accepted.get "payTo")),
      ("payer", lowerHex text (p.auth.get "from"), lowerHex text (q.auth.get "from")),
      ("authorizationTo", lowerHex text (p.auth.get "to"), lowerHex text (q.auth.get "to")),
      ("authorizationValue", b, b'),
      ("authorizationNonce", lowerHex text (p.auth.get "nonce"), lowerHex text (q.auth.get "nonce")),
      ("validAfter", c, c'),
      ("validBefore", e, e')]
  have hkeys : (entries.map Prod.fst).Nodup := by
    simp only [entries, List.map_cons, List.map_nil]
    decide
  have hsame := PyVal.same_dict hkeys
  have hleft : (entries.map fun e => (e.1, e.2.1)) = p.hashed text a b c e := rfl
  have hright : (entries.map fun e => (e.1, e.2.2)) = q.hashed text a' b' c' e' := rfl
  rw [hleft, hright] at hsame
  rw [hsame]
  simp only [entries, List.forall_mem_cons, PyVal.same_int, PyVal.same_str]
  tauto

theorem fingerprint_of_canonical (h : p.canonical text = .ok d) :
    p.fingerprint text = .ok (text.sha256 (text.jsonDumps (.dict d))) := by
  rw [canonical] at h
  rw [fingerprint, paymentFingerprint, h]
  rfl

/-- Two payments have one fingerprint exactly when their texts agree and their numbers are rounded alike. -/
theorem fingerprint_eq_iff (hlower : text.LowersHex) (h : p.canonical (text.withDecimals u) = .ok d)
    (h' : q.canonical (text.withDecimals u) = .ok d') (hinj : (text.withDecimals u).Injective d d') :
    p.fingerprint (text.withDecimals u) = q.fingerprint (text.withDecimals u) ↔
      p.SameTexts text q ∧ p.SameRounded text u q := by
  rw [fingerprint_of_canonical h, fingerprint_of_canonical h', Except.ok.injEq]
  obtain ⟨amount, value, after, before, hamount, hvalue, hafter, hbefore, rfl⟩ := canonical_ok_iff.mp h
  obtain ⟨amount', value', after', before', hamount', hvalue', hafter', hbefore', rfl⟩ := canonical_ok_iff.mp h'
  refine hinj.trans (same_hashed.trans ?_)
  have hlower' : (text.withDecimals u).LowersHex := hlower
  rw [same_numericString hamount hamount', same_numericString hvalue hvalue', same_numericString hafter hafter',
    same_numericString hbefore hbefore']
  simp only [same_lowerHex hlower', SameRounded, numerals, List.map_cons, List.map_nil, List.cons.injEq, and_true]
  refine and_congr_left fun _ => ?_
  constructor
  · rintro ⟨h₁, h₂, h₃, h₄, h₅, h₆, h₇, h₈, h₉⟩
    exact ⟨h₁, h₂, h₃, h₄, h₅, h₆, h₇, h₈, h₉⟩
  · rintro ⟨h₁, h₂, h₃, h₄, h₅, h₆, h₇, h₈, h₉⟩
    exact ⟨h₁, h₂, h₃, h₄, h₅, h₆, h₇, h₈, h₉⟩

/-- **The fingerprints of two payments are equal exactly when the payments agree, unless a number is lost to rounding**:
every other field agrees, and two different numbers have the same 28 digits. -/
theorem fingerprint_characterised (hlower : text.LowersHex) (h : p.canonical (text.withDecimals u) = .ok d)
    (h' : q.canonical (text.withDecimals u) = .ok d') (hinj : (text.withDecimals u).Injective d d') :
    (p.fingerprint (text.withDecimals u) = q.fingerprint (text.withDecimals u) ↔
        p.SameTexts text q ∧ p.SameNumbers text u q) ↔
      ¬(p.SameTexts text q ∧ p.SameRounded text u q ∧ ¬p.SameNumbers text u q) := by
  rw [fingerprint_eq_iff hlower h h' hinj]
  have hrounded : p.SameNumbers text u q → p.SameRounded text u q := sameRounded_of_sameNumbers
  tauto

end Canonical

/-! ## Two sample payments -/

section Sample

/-- `str.lower()` on ASCII texts. -/
def asciiLower (s : String) : String := String.ofList (s.toList.map Char.toLower)

theorem toLower_toNat (c : Char) :
    c.toLower.toNat = if 65 ≤ c.toNat ∧ c.toNat ≤ 90 then c.toNat + 32 else c.toNat := by
  have hA : 'A'.val.toNat = 65 := rfl
  have hZ : 'Z'.val.toNat = 90 := rfl
  have hstep : ('a'.val - 'A'.val).toNat = 32 := rfl
  have hval : c.toNat = c.val.toNat := rfl
  by_cases h : c.val ≥ 'A'.val ∧ c.val ≤ 'Z'.val
  · have hlower : c.toLower.toNat = (c.val + ('a'.val - 'A'.val)).toNat := congrArg Char.toNat (dif_pos h)
    rw [ge_iff_le, UInt32.le_iff_toNat_le, UInt32.le_iff_toNat_le, hA, hZ] at h
    rw [hlower, UInt32.toNat_add, hstep, hval, if_pos h]
    omega
  · have hlower : c.toLower = c := dif_neg h
    rw [ge_iff_le, UInt32.le_iff_toNat_le, UInt32.le_iff_toNat_le, hA, hZ] at h
    rw [hlower, hval, if_neg h]

theorem toLower_eq_zero (c : Char) : c.toLower = '0' ↔ c = '0' := by
  rw [← Char.toNat_inj, ← Char.toNat_inj, toLower_toNat]
  have h0 : '0'.toNat = 48 := rfl
  rw [h0]
  split <;> omega

theorem toLower_eq_x (c : Char) : c.toLower = 'x' ↔ c = 'x' ∨ c = 'X' := by
  rw [← Char.toNat_inj, ← Char.toNat_inj, ← Char.toNat_inj, toLower_toNat]
  have hx : 'x'.toNat = 120 := rfl
  have hX : 'X'.toNat = 88 := rfl
  rw [hx, hX]
  split <;> omega

theorem asciiLower_lowersHex (s : String) : startsHex (asciiLower s) = beginsHex s := by
  unfold startsHex beginsHex asciiLower
  rw [String.toList_ofList, Bool.eq_iff_iff, beq_iff_eq]
  cases s.toList with
  | nil => simp
  | cons a rest =>
    cases rest with
    | nil => simp
    | cons b rest =>
      simp only [List.map_cons, List.take_succ_cons, List.take_zero, List.cons.injEq, and_true, toLower_eq_zero,
        toLower_eq_x]
      split
      · rename_i c rest' h
        cases h
        simp
      · rename_i h
        have : a ≠ '0' := by
          rintro rfl
          exact h _ _ rfl
        simp [this]

/-- The end of the canonical JSON of a sample payment. -/
def sampleRest : String :=
  "\",\"authorizationNonce\":\"0x01\",\"authorizationTo\":\"0xb2\",\"authorizationValue\":\"1000\"," ++
    "\"network\":\"eip155:8453\",\"payTo\":\"0xb2\",\"payer\":\"0xc3\",\"provider\":\"circle_gateway\"," ++
    "\"scheme\":\"exact\",\"validAfter\":\"0\",\"validBefore\":\"1900000000\",\"x402Version\":2\x7d"

/-- The canonical JSON of a sample payment. -/
def sampleJson (amount asset : String) : String :=
  "\x7b\"amount\":\"" ++ amount ++ "\",\"asset\":\"" ++ asset ++ sampleRest

theorem sampleJson_asset {amount asset asset' : String} :
    sampleJson amount asset = sampleJson amount asset' ↔ asset = asset' := by
  simp only [sampleJson, String.append_left_inj, String.append_right_inj]

/-- The digests of the sample payments. -/
def sampleDigest (s : String) : String :=
  if s = sampleJson "1000" "USDC" then "9f29a2bcd91328d339d6f5f1e5692136fa0aee595fc26e1148c5c1cd5b591f5e"
  else if s = sampleJson "1000" "usdc" then "24d713eb95fa99e7a70960b9b5fa78f30e5e0dd220ab27060a08ef70a95b59f6"
  else if s = sampleJson "1000" "0xa1" then "ea5cd9dbd06b6d0aaabdc21f320831c7a6eaa74c265bbffa6ffd859b370f447b"
  else "39788e4f0b342476982e3cd0de3aa67737ada00ceef73166dee808e823752240"

/-- The standard library on the sample payments. -/
def paymentText : Text where
  containerStr := fun _ => ""
  repr := fun _ => ""
  lower := asciiLower
  decimal := fun _ => .invalid
  jsonDumps := fun v =>
    let field (key : String) : String := (((v.asDict.getD []) : PyDict).get key).asStr.getD ""
    sampleJson (field "amount") (field "asset")
  sha256 := sampleDigest

theorem paymentText_lowersHex : paymentText.LowersHex := asciiLower_lowersHex

/-- The requirement of a sample payment. -/
def sampleRequirement (asset : String) (amount : PyVal) : PyDict :=
  [("scheme", .str "exact"), ("network", .str "eip155:8453"), ("asset", .str asset), ("amount", amount),
    ("payTo", .str "0xB2")]

def sampleAuthorization : PyDict :=
  [("from", .str "0xC3"), ("to", .str "0xB2"), ("value", .str "1000"), ("validAfter", .str "0"),
    ("validBefore", .str "1900000000"), ("nonce", .str "0x01")]

def samplePayment (asset : String) (amount : PyVal) : Payment where
  paymentPayload :=
    [("x402Version", .int 2),
      ("accepted", .dict (sampleRequirement asset amount)),
      ("payload", .dict [("authorization", .dict sampleAuthorization)])]
  paymentRequirements := sampleRequirement asset amount
  provider := "circle_gateway"
  x402Version := 2
  accepted := sampleRequirement asset amount
  isAccepted := rfl

theorem numericString_integer (s : String) {n : Int} (h : Decimals.ascii.read s = .integral n) :
    numericString (paymentText.withDecimals .ascii) (.str s) = .ok (.str (toString n)) := by
  rw [numericString_of_ne_null (fun h => PyVal.noConfusion h), PyVal.toStr, h]

/-- The dictionary that a sample payment is hashed from. -/
def sampleHashed (asset : String) (amount : PyVal) (written : String) : PyDict :=
  (samplePayment asset amount).hashed (paymentText.withDecimals .ascii) (.str written) (.str "1000") (.str "0")
    (.str "1900000000")

theorem sample_canonical (asset : String) {amount : PyVal} {written : String}
    (h : numericString (paymentText.withDecimals .ascii) amount = .ok (.str written)) :
    (samplePayment asset amount).canonical (paymentText.withDecimals .ascii) =
      .ok (sampleHashed asset amount written) := by
  have hread : ∀ s n, Decimals.ascii.read s = .integral n → ∀ v, v = PyVal.str s →
      numericString (paymentText.withDecimals .ascii) v = .ok (.str (toString n)) := by
    rintro s n hn v rfl
    exact numericString_integer s hn
  have hamount : (samplePayment asset amount).accepted.get "amount" = amount := rfl
  refine canonical_ok_iff.mpr ⟨.str written, .str "1000", .str "0", .str "1900000000", ?_, ?_, ?_, ?_, rfl⟩
  · rw [hamount]
    exact h
  · exact hread "1000" 1000 (by unfold Decimals.read; rfl) _ rfl
  · exact hread "0" 0 (by unfold Decimals.read; rfl) _ rfl
  · exact hread "1900000000" 1900000000 (by unfold Decimals.read; rfl) _ rfl

theorem sample_fingerprint (asset : String) {written : String} {amount : PyVal}
    (hasset : startsHex (asciiLower asset) = false)
    (h : numericString (paymentText.withDecimals .ascii) amount = .ok (.str written)) :
    (samplePayment asset amount).fingerprint (paymentText.withDecimals .ascii) =
      .ok (sampleDigest (sampleJson written asset)) := by
  have hjson : ∀ d : PyDict, paymentText.jsonDumps (.dict d) =
      sampleJson ((d.get "amount").asStr.getD "") ((d.get "asset").asStr.getD "") := fun _ => rfl
  have hamount : (sampleHashed asset amount written).get "amount" = .str written := rfl
  have hlookup : (sampleHashed asset amount written).lookup "asset" =
      some (lowerHex (paymentText.withDecimals .ascii) ((samplePayment asset amount).accepted.get "asset")) := rfl
  have haccepted : (samplePayment asset amount).accepted.get "asset" = .str asset := rfl
  have hlower : (paymentText.withDecimals .ascii).lower = asciiLower := rfl
  have hasStr : ∀ s, (PyVal.str s).asStr.getD "" = s := fun _ => rfl
  have hwritten := hjson (sampleHashed asset amount written)
  rw [hamount, PyDict.get, hlookup, Option.getD_some, haccepted, lowerHex_str, hlower, hasset,
    if_neg Bool.false_ne_true, hasStr, hasStr] at hwritten
  exact (fingerprint_of_canonical (sample_canonical asset h)).trans
    (congrArg (fun s => Except.ok (sampleDigest s)) hwritten)

theorem sampleDigest_capital : sampleDigest (sampleJson "1000" "USDC") =
    "9f29a2bcd91328d339d6f5f1e5692136fa0aee595fc26e1148c5c1cd5b591f5e" := by
  rw [sampleDigest, if_pos rfl]

theorem sampleDigest_small : sampleDigest (sampleJson "1000" "usdc") =
    "24d713eb95fa99e7a70960b9b5fa78f30e5e0dd220ab27060a08ef70a95b59f6" := by
  have hne : sampleJson "1000" "usdc" ≠ sampleJson "1000" "USDC" :=
    fun h => absurd (sampleJson_asset.mp h) (by decide)
  rw [sampleDigest, if_neg hne, if_pos rfl]

/-- Sample payments are hashed from one dictionary when their amounts are written alike and their assets are the same
up to case. -/
theorem sample_injective (asset asset' : String) (amount amount' : PyVal) (written : String)
    (hasset : (if startsHex (asciiLower asset) then asciiLower asset else asset) =
      (if startsHex (asciiLower asset') then asciiLower asset' else asset')) :
    (paymentText.withDecimals .ascii).Injective (sampleHashed asset amount written)
      (sampleHashed asset' amount' written) := by
  have hget : ∀ (asset : String) (amount : PyVal), (samplePayment asset amount).accepted.get "asset" = .str asset :=
    fun _ _ => rfl
  have hdict : sampleHashed asset amount written = sampleHashed asset' amount' written := by
    have hlower : lowerHex (paymentText.withDecimals .ascii) (.str asset) =
        lowerHex (paymentText.withDecimals .ascii) (.str asset') := by
      rw [lowerHex_str, lowerHex_str]
      exact congrArg PyVal.str hasset
    simp only [sampleHashed, hashed, hget, hlower]
    rfl
  rw [hdict]
  exact iff_of_true rfl (.refl _)

/-- The sample payment with its asset and its amount respelled has the same fingerprint. -/
theorem fingerprint_respelled :
    (samplePayment "0xa1" (.str "1000")).fingerprint (paymentText.withDecimals .ascii) =
        (samplePayment "0xA1" (.float (.finite "1000.0" 1000))).fingerprint (paymentText.withDecimals .ascii) ↔
      (samplePayment "0xa1" (.str "1000")).SameTexts paymentText
          (samplePayment "0xA1" (.float (.finite "1000.0" 1000))) ∧
        (samplePayment "0xa1" (.str "1000")).SameNumbers paymentText .ascii
          (samplePayment "0xA1" (.float (.finite "1000.0" 1000))) := by
  have hnumber : (Decimals.ascii.decimal "1000").map PyDecimal.number =
      (Decimals.ascii.decimal "1000.0").map PyDecimal.number := by
    have h : Decimals.ascii.decimal "1000" = some (.finite false 1000 0) := by decide +kernel
    have h' : Decimals.ascii.decimal "1000.0" = some (.finite false 10000 (-1)) := by decide +kernel
    rw [h, h', Option.map_some, Option.map_some]
    norm_num [PyDecimal.number]
  have hwritten : numericString (paymentText.withDecimals .ascii) (.str "1000") = .ok (.str "1000") :=
    numericString_integer "1000" (n := 1000) (by unfold Decimals.read; rfl)
  have hwritten' : numericString (paymentText.withDecimals .ascii) (.float (.finite "1000.0" 1000)) =
      .ok (.str "1000") := by
    rw [numericString_of_ne_null (fun h => PyVal.noConfusion h)]
    unfold Decimals.read
    rfl
  have hasset : (if startsHex (asciiLower "0xa1") then asciiLower "0xa1" else "0xa1") =
      (if startsHex (asciiLower "0xA1") then asciiLower "0xA1" else "0xA1") := by decide +kernel
  refine (fingerprint_characterised paymentText_lowersHex (sample_canonical "0xa1" hwritten)
    (sample_canonical "0xA1" hwritten') (sample_injective "0xa1" "0xA1" _ _ "1000" hasset)).mpr ?_
  rintro ⟨-, -, h⟩
  refine h ?_
  simp only [SameNumbers, numerals, List.map_cons, List.map_nil, List.cons.injEq, and_true]
  exact ⟨hnumber, rfl, rfl, rfl⟩

/-- The fingerprint does not tell `0.1` from a larger number of 31 digits. -/
theorem amount_rounded :
    (paymentText.withDecimals .ascii).Injective (sampleHashed "0xA1" (.str "0.1") "0.1")
        (sampleHashed "0xA1" (.str "0.1000000000000000000000000000001") "0.1") ∧
      (samplePayment "0xA1" (.str "0.1")).canonical (paymentText.withDecimals .ascii) =
        .ok (sampleHashed "0xA1" (.str "0.1") "0.1") ∧
      (samplePayment "0xA1" (.str "0.1000000000000000000000000000001")).canonical (paymentText.withDecimals .ascii) =
        .ok (sampleHashed "0xA1" (.str "0.1000000000000000000000000000001") "0.1") ∧
      ¬((samplePayment "0xA1" (.str "0.1")).fingerprint (paymentText.withDecimals .ascii) =
          (samplePayment "0xA1" (.str "0.1000000000000000000000000000001")).fingerprint
            (paymentText.withDecimals .ascii) ↔
        (samplePayment "0xA1" (.str "0.1")).SameTexts paymentText
            (samplePayment "0xA1" (.str "0.1000000000000000000000000000001")) ∧
          (samplePayment "0xA1" (.str "0.1")).SameNumbers paymentText .ascii
            (samplePayment "0xA1" (.str "0.1000000000000000000000000000001"))) := by
  have hnumber : (Decimals.ascii.decimal "0.1").map PyDecimal.number ≠
      (Decimals.ascii.decimal "0.1000000000000000000000000000001").map PyDecimal.number := by
    have h : Decimals.ascii.decimal "0.1" = some (.finite false 1 (-1)) := by decide +kernel
    have h' : Decimals.ascii.decimal "0.1000000000000000000000000000001" =
        some (.finite false 1000000000000000000000000000001 (-31)) := by decide +kernel
    rw [h, h', Option.map_some, Option.map_some]
    norm_num [PyDecimal.number]
  have hwritten : ∀ s, Decimals.ascii.read s = .fractional "0.1" →
      numericString (paymentText.withDecimals .ascii) (.str s) = .ok (.str "0.1") := by
    intro s hs
    rw [numericString_of_ne_null (fun h => PyVal.noConfusion h), PyVal.toStr, hs]
  have hcanonical := sample_canonical "0xA1" (hwritten "0.1" (by unfold Decimals.read; rfl))
  have hcanonical' := sample_canonical "0xA1"
    (hwritten "0.1000000000000000000000000000001" (by unfold Decimals.read; rfl))
  refine ⟨sample_injective "0xA1" "0xA1" _ _ "0.1" rfl, hcanonical, hcanonical', ?_⟩
  intro h
  have hsame := (h.mp (by
    rw [fingerprint_of_canonical hcanonical, fingerprint_of_canonical hcanonical']
    rfl)).2
  simp only [SameNumbers, numerals, List.map_cons, List.map_nil, List.cons.injEq, and_true] at hsame
  exact hnumber hsame.1

end Sample

end Payment

/-! ## Against the validator -/

section Validator

variable {text : Text} {u : Decimals} {envelope envelope' : FacilitatorEnvelope} {accepted accepted' : PyDict}
  {provider : String}

/-- The payment of an envelope that the validator accepts. -/
def FacilitatorEnvelope.payment (envelope : FacilitatorEnvelope) (provider : String) {accepted : PyDict}
    (h : envelope.paymentPayload.get "accepted" = .dict accepted) : Payment where
  paymentPayload := envelope.paymentPayload
  paymentRequirements := envelope.paymentRequirements
  provider := provider
  x402Version := envelope.x402Version
  accepted := accepted
  isAccepted := h

/-- The numbers of the authorization are numbers or missing. -/
def Readable (text : Text) (auth : PyDict) : Prop :=
  ∀ key ∈ ["value", "validAfter", "validBefore"], ∃ written, numericString text (auth.get key) = .ok written

/-- The fingerprint does not tell the two requirements apart, their amounts aside. -/
structure SameRequirement (text : Text) (accepted accepted' : PyDict) : Prop where
  scheme : (accepted.get "scheme").Same (accepted'.get "scheme")
  network : (accepted.get "network").Same (accepted'.get "network")
  asset : SameHex text (accepted.get "asset") (accepted'.get "asset")
  payTo : SameHex text (accepted.get "payTo") (accepted'.get "payTo")

theorem read_none (u : Decimals) : u.read "None" = .invalid := by
  unfold Decimals.read
  rfl

theorem canonicalAmount_withDecimals (v : PyVal) :
    canonicalAmount (text.withDecimals u) v =
      match u.read (v.toStr text) with
      | .invalid => .error (.protocolValidation ("Invalid payment amount: " ++ text.repr v))
      | .integral n => .ok (toString n)
      | .fractional plain => .ok plain
      | .raises e => .error e := by
  rw [← toStr_withDecimals (u := u)]
  rfl

/-- The validator and the fingerprint write an amount alike. -/
theorem numericString_of_canonicalAmount {v : PyVal} {c : String}
    (h : canonicalAmount (text.withDecimals u) v = .ok c) :
    numericString (text.withDecimals u) v = .ok (.str c) := by
  rw [canonicalAmount_withDecimals] at h
  by_cases hv : v = .null
  · rw [hv, PyVal.toStr, read_none] at h
    cases h
  · rw [numericString_of_ne_null hv]
    cases hr : u.read (v.toStr text) with
    | invalid | raises e =>
      rw [hr] at h
      cases h
    | integral n | fractional plain =>
      rw [hr] at h
      cases h
      rfl

/-- A payment is hashed exactly when its amount and the numbers of its authorization are read. -/
theorem Payment.canonical_of_readable {p : Payment} {amount : PyVal}
    (hamount : numericString text (p.accepted.get "amount") = .ok amount) (h : Readable text p.auth) :
    ∃ d, p.canonical text = .ok d := by
  obtain ⟨value, hvalue⟩ := h "value" (by simp)
  obtain ⟨validAfter, hafter⟩ := h "validAfter" (by simp)
  obtain ⟨validBefore, hbefore⟩ := h "validBefore" (by simp)
  exact ⟨_, canonical_ok_iff.mpr ⟨amount, value, validAfter, validBefore, hamount, hvalue, hafter, hbefore, rfl⟩⟩

/-- Where a number of the authorization cannot be read, the same exception is raised for every requirement. -/
theorem Payment.canonical_of_unreadable {p q : Payment} {amount : PyVal}
    (hamount : numericString text (p.accepted.get "amount") = .ok amount)
    (hamount' : numericString text (q.accepted.get "amount") = .ok amount)
    (hauth : ∀ key, p.auth.get key = q.auth.get key) (h : ¬ Readable text p.auth) :
    p.canonical text = q.canonical text := by
  rw [canonical_eq, canonical_eq, hamount, hamount', ← hauth, ← hauth, ← hauth]
  cases hvalue : numericString text (p.auth.get "value") with
  | error e => rfl
  | ok value =>
    cases hafter : numericString text (p.auth.get "validAfter") with
    | error e => rfl
    | ok validAfter =>
      cases hbefore : numericString text (p.auth.get "validBefore") with
      | error e => rfl
      | ok validBefore =>
        refine absurd ?_ h
        intro key hkey
        simp only [List.mem_cons, List.not_mem_nil, or_false] at hkey
        rcases hkey with rfl | rfl | rfl
        · exact ⟨value, hvalue⟩
        · exact ⟨validAfter, hafter⟩
        · exact ⟨validBefore, hbefore⟩

theorem SameHex.refl (text : Text) (v : PyVal) : SameHex text v v := .inl (.refl v)

/-- With one authorization, the texts of two payments agree exactly when their requirements do. -/
theorem Payment.sameTexts_iff {p q : Payment} (hversion : p.x402Version = q.x402Version)
    (hprovider : p.provider = q.provider) (hauth : ∀ key, p.auth.get key = q.auth.get key) :
    p.SameTexts text q ↔ SameRequirement text p.accepted q.accepted := by
  constructor
  · intro h
    exact ⟨h.scheme, h.network, h.asset, h.payTo⟩
  · intro h
    refine ⟨hversion, hprovider, h.scheme, h.network, h.asset, h.payTo, ?_, ?_, ?_⟩ <;>
    · rw [hauth]
      exact .refl text _

/-- **Requirements that the validator cannot tell apart have one fingerprint exactly when** scheme and network are the
same JSON and asset and receiver are the same up to the case of `0x` texts, or no fingerprint is computed at all. -/
theorem validator_agrees_iff (hlower : text.LowersHex)
    (hvalid : validateSettlementEnvelope (text.withDecimals u) envelope = .ok accepted)
    (hvalid' : validateSettlementEnvelope (text.withDecimals u) envelope' = .ok accepted')
    (hversion : envelope.x402Version = envelope'.x402Version)
    (hauth : ∀ key, (authorization envelope.paymentPayload).get key = (authorization envelope'.paymentPayload).get key)
    (hfields : ∀ field ∈ comparedFields, canonicalValue (text.withDecimals u) field (accepted.get field) =
      canonicalValue (text.withDecimals u) field (accepted'.get field))
    (hinj : ∀ d d',
      canonicalPayment (text.withDecimals u) envelope.paymentPayload envelope.paymentRequirements provider
        envelope.x402Version = .ok d →
      canonicalPayment (text.withDecimals u) envelope'.paymentPayload envelope'.paymentRequirements provider
        envelope'.x402Version = .ok d' →
      (text.withDecimals u).Injective d d') :
    settlementFingerprint (text.withDecimals u) envelope provider =
        settlementFingerprint (text.withDecimals u) envelope' provider ↔
      (Readable (text.withDecimals u) (authorization envelope.paymentPayload) →
        SameRequirement text accepted accepted') := by
  obtain ⟨haccepted, hcompared⟩ := validated_fields hvalid
  obtain ⟨haccepted', -⟩ := validated_fields hvalid'
  let p := envelope.payment provider haccepted
  let q := envelope'.payment provider haccepted'
  obtain ⟨c, hc, hc'⟩ : ∃ c, numericString (text.withDecimals u) (p.accepted.get "amount") = .ok (.str c) ∧
      numericString (text.withDecimals u) (q.accepted.get "amount") = .ok (.str c) := by
    have hmem : "amount" ∈ comparedFields := by simp [comparedFields]
    obtain ⟨-, -, c, hc, -⟩ := hcompared "amount" hmem
    exact ⟨c, numericString_of_canonicalAmount hc, numericString_of_canonicalAmount ((hfields _ hmem).symm.trans hc)⟩
  show p.fingerprint (text.withDecimals u) = q.fingerprint (text.withDecimals u) ↔ _
  by_cases hread : Readable (text.withDecimals u) (authorization envelope.paymentPayload)
  · obtain ⟨d, hd⟩ := Payment.canonical_of_readable (p := p) hc hread
    have hread' : Readable (text.withDecimals u) q.auth := by
      intro key hkey
      obtain ⟨written, hw⟩ := hread key hkey
      exact ⟨written, (hauth key) ▸ hw⟩
    obtain ⟨d', hd'⟩ := Payment.canonical_of_readable (p := q) hc' hread'
    have hrounded : p.SameRounded text u q := by
      simp only [Payment.SameRounded, Payment.numerals, List.map_cons, List.map_nil, List.cons.injEq, and_true]
      refine ⟨(same_numericString hc hc').mp (.refl _), ?_, ?_, ?_⟩ <;>
      · show spellingIn text u ((authorization envelope.paymentPayload).get _) = _
        rw [hauth]
        rfl
    rw [Payment.fingerprint_eq_iff hlower hd hd' (hinj d d' hd hd'),
      Payment.sameTexts_iff (p := p) (q := q) hversion rfl hauth]
    exact ⟨fun h _ => h.1, fun h => ⟨h hread, hrounded⟩⟩
  · have hsame := Payment.canonical_of_unreadable (p := p) (q := q) hc hc' hauth hread
    refine iff_of_true ?_ fun h => absurd h hread
    rw [Payment.canonical, Payment.canonical] at hsame
    rw [Payment.fingerprint, Payment.fingerprint, paymentFingerprint, paymentFingerprint, hsame]

/-- The envelope of a sample payment. -/
def assetEnvelope (asset : String) (amount : PyVal) : FacilitatorEnvelope where
  x402Version := 2
  paymentPayload := (Payment.samplePayment asset amount).paymentPayload
  paymentRequirements := Payment.sampleRequirement asset amount

theorem checkField_self {d : PyDict} {field c : String} (hhas : d.has field = true)
    (h : canonicalValue text field (d.get field) = .ok c) : checkField text d d field = .ok () := by
  rw [checkField, hhas, h]
  simp [bind, Except.bind]

theorem assetEnvelope_valid (asset : String) {amount : PyVal} {c : String}
    (h : canonicalAmount (Payment.paymentText.withDecimals .ascii) amount = .ok c) :
    validateSettlementEnvelope (Payment.paymentText.withDecimals .ascii) (assetEnvelope asset amount) =
      .ok (Payment.sampleRequirement asset amount) :=
  bind_ok.mpr ⟨(), checkField_self rfl rfl, bind_ok.mpr ⟨(), checkField_self rfl rfl,
    bind_ok.mpr ⟨(), checkField_self rfl rfl, bind_ok.mpr ⟨(), checkField_self rfl h,
      bind_ok.mpr ⟨(), checkField_self rfl rfl, rfl⟩⟩⟩⟩⟩

/-- The amounts of the sample envelopes, as the validator and the fingerprint write them. -/
theorem canonicalAmount_thousand :
    canonicalAmount (Payment.paymentText.withDecimals .ascii) (.str "1000") = .ok "1000" := by
  have hread : Decimals.ascii.read "1000" = .integral 1000 := by
    unfold Decimals.read
    rfl
  rw [canonicalAmount_withDecimals, PyVal.toStr, hread]
  rfl

/-- The validator compares assets in small letters. -/
theorem assets_compared {asset asset' : String} (h : Payment.asciiLower asset = Payment.asciiLower asset')
    (amount : PyVal) (field : String) (hfield : field ∈ comparedFields) :
    canonicalValue (Payment.paymentText.withDecimals .ascii) field
        ((Payment.sampleRequirement asset amount).get field) =
      canonicalValue (Payment.paymentText.withDecimals .ascii) field
        ((Payment.sampleRequirement asset' amount).get field) := by
  simp only [comparedFields, List.mem_cons, List.not_mem_nil, or_false] at hfield
  have hget : ∀ (asset : String) (amount : PyVal), (Payment.sampleRequirement asset amount).get "amount" = amount :=
    fun _ _ => rfl
  rcases hfield with rfl | rfl | rfl | rfl | rfl
  · rfl
  · rfl
  · exact congrArg Except.ok h
  · rw [hget, hget]
  · rfl

/-- The envelope with its asset in capital letters has the same fingerprint. -/
theorem asset_recased :
    settlementFingerprint (Payment.paymentText.withDecimals .ascii) (assetEnvelope "0xa1" (.str "1000"))
        "circle_gateway" =
      settlementFingerprint (Payment.paymentText.withDecimals .ascii) (assetEnvelope "0xA1" (.str "1000"))
        "circle_gateway" := by
  have hwritten := numericString_of_canonicalAmount canonicalAmount_thousand
  have hlower : Payment.asciiLower "0xa1" = Payment.asciiLower "0xA1" := by decide +kernel
  refine (validator_agrees_iff Payment.paymentText_lowersHex (assetEnvelope_valid "0xa1" canonicalAmount_thousand)
    (assetEnvelope_valid "0xA1" canonicalAmount_thousand) rfl (fun _ => rfl)
    (assets_compared hlower _) ?_).mpr ?_
  · intro d d' hd hd'
    obtain rfl := Except.ok.inj ((Payment.sample_canonical "0xa1" hwritten).symm.trans hd)
    obtain rfl := Except.ok.inj ((Payment.sample_canonical "0xA1" hwritten).symm.trans hd')
    exact Payment.sample_injective "0xa1" "0xA1" _ _ "1000" (by decide +kernel)
  · intro _
    exact ⟨rfl, rfl, .inr ⟨"0xa1", "0xA1", rfl, rfl, by decide, by decide, hlower⟩, .refl _ _⟩

/-- An asset that is no address has two fingerprints, in capital letters and in small ones. -/
theorem symbol_recased :
    validateSettlementEnvelope (Payment.paymentText.withDecimals .ascii) (assetEnvelope "USDC" (.str "1000")) =
        .ok (Payment.sampleRequirement "USDC" (.str "1000")) ∧
      validateSettlementEnvelope (Payment.paymentText.withDecimals .ascii) (assetEnvelope "usdc" (.str "1000")) =
        .ok (Payment.sampleRequirement "usdc" (.str "1000")) ∧
      authorization (assetEnvelope "USDC" (.str "1000")).paymentPayload =
        authorization (assetEnvelope "usdc" (.str "1000")).paymentPayload ∧
      (∀ field ∈ comparedFields,
        canonicalValue (Payment.paymentText.withDecimals .ascii) field
            ((Payment.sampleRequirement "USDC" (.str "1000")).get field) =
          canonicalValue (Payment.paymentText.withDecimals .ascii) field
            ((Payment.sampleRequirement "usdc" (.str "1000")).get field)) ∧
      settlementFingerprint (Payment.paymentText.withDecimals .ascii) (assetEnvelope "USDC" (.str "1000"))
          "circle_gateway" = .ok "9f29a2bcd91328d339d6f5f1e5692136fa0aee595fc26e1148c5c1cd5b591f5e" ∧
      settlementFingerprint (Payment.paymentText.withDecimals .ascii) (assetEnvelope "usdc" (.str "1000"))
          "circle_gateway" = .ok "24d713eb95fa99e7a70960b9b5fa78f30e5e0dd220ab27060a08ef70a95b59f6" := by
  have hwritten := numericString_of_canonicalAmount canonicalAmount_thousand
  have hlower : Payment.asciiLower "USDC" = Payment.asciiLower "usdc" := by decide +kernel
  refine ⟨assetEnvelope_valid _ canonicalAmount_thousand, assetEnvelope_valid _ canonicalAmount_thousand, rfl,
    assets_compared hlower _, ?_, ?_⟩
  · have hfp := Payment.sample_fingerprint "USDC" (by decide +kernel) hwritten
    rw [Payment.sampleDigest_capital] at hfp
    exact hfp
  · have hfp := Payment.sample_fingerprint "usdc" (by decide +kernel) hwritten
    rw [Payment.sampleDigest_small] at hfp
    exact hfp

end Validator

end HostedFacilitator
