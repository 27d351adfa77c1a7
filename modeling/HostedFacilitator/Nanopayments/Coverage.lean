import HostedFacilitator.Engine.Fingerprint
import HostedFacilitator.Nanopayments.Client

/-!
# Whether the fingerprint covers what is posted

The fingerprint reads an authorization from `payload.authorization`, or else from a top-level `authorization`. What is
posted to Circle comes from `payload.authorization` only, with a default for each missing field, and the posted
requirement is the seller's, not the accepted one that is hashed. Two envelopes with one fingerprint are posted alike
exactly when these differences do not show (`posted_alike_iff`).
-/

namespace HostedFacilitator
namespace HostedCircleGatewayProvider

open Nanopayments

/-! ## Bodies that say the same -/

/-- The dictionary at a path; an empty one where there is none. -/
def dictAt (d : PyDict) (path : List String) : PyDict := path.foldl (fun d key => (d.get key).asDict.getD []) d

/-- A missing `validAfter` counts as zero. -/
def zeroIfMissing : PyVal → PyVal
  | .null => .str "0"
  | v => v

section Same

variable (text : Text) (u : Decimals)

/-- The same value, or two texts that differ in the case of letters only. -/
def SameAddress (v w : PyVal) : Prop :=
  v.Same w ∨ ∃ s t, v = .str s ∧ w = .str t ∧ text.lower s = text.lower t

/-- The same number, or the same value that is no number. -/
def SameNumeral (v w : PyVal) : Prop :=
  numberIn text u v = numberIn text u w ∧ (numberIn text u v = none → v.Same w)

structure SameAuthorization (a a' : PyDict) : Prop where
  addresses : ∀ key ∈ ["from", "to", "nonce"], SameAddress text (a.get key) (a'.get key)
  numbers : ∀ key ∈ ["value", "validBefore"], SameNumeral text u (a.get key) (a'.get key)
  validAfter : SameNumeral text u (zeroIfMissing (a.get "validAfter")) (zeroIfMissing (a'.get "validAfter"))

structure SameKind (r r' : PyDict) : Prop where
  texts : ∀ key ∈ ["scheme", "network"], (r.get key).toStr text = (r'.get key).toStr text
  addresses : ∀ key ∈ ["asset", "payTo"], SameAddress text (r.get key) (r'.get key)
  amount : SameNumeral text u (r.get "amount") (r'.get "amount")

/-- Two bodies carry the same authorization and the same requirement in both of its places. -/
structure SameBody (b b' : PyDict) : Prop where
  authorization : SameAuthorization text u (dictAt b ["paymentPayload", "payload", "authorization"])
    (dictAt b' ["paymentPayload", "payload", "authorization"])
  accepted : SameKind text u (dictAt b ["paymentPayload", "accepted"]) (dictAt b' ["paymentPayload", "accepted"])
  requirements : SameKind text u (dictAt b ["paymentRequirements"]) (dictAt b' ["paymentRequirements"])

/-! ## What the envelopes have to agree in -/

/-- The authorization that is read for the post. -/
def carried (paymentPayload : PyDict) : Option PyDict :=
  (paymentPayload.get "payload").asDict.bind fun payload => (PyDict.get payload "authorization").asDict

/-- Two numbers that are written alike are equal. -/
def KeptApart (v w : PyVal) : Prop := spellingIn text u v = spellingIn text u w → numberIn text u v = numberIn text u w

/-- The two authorizations have the same fields, and no number of theirs is lost to rounding. -/
structure SamePresence (a a' : PyDict) : Prop where
  present : ∀ key ∈ ["from", "to", "nonce", "value", "validBefore"], a.has key = a'.has key
  numbers : ∀ key ∈ ["value", "validAfter", "validBefore"], KeptApart text u (a.get key) (a'.get key)

/-- The authorization says no more than the defaults that are posted for a missing one. -/
structure Blank (a : PyDict) : Prop where
  addresses : ∀ key ∈ ["from", "to", "nonce"], a.has key = true → SameAddress text (a.get key) (.str "")
  numbers : ∀ key ∈ ["value", "validBefore"], a.has key = false
  validAfter : numberIn text u (zeroIfMissing (a.get "validAfter")) = numberIn text u (.str "0")

/-- The authorizations are read from the same place, or the one that is read is blank. -/
def SameSource : Option PyDict → Option PyDict → Prop
  | some a, some a' => SamePresence text u a a'
  | some a, none | none, some a => Blank text u a
  | none, none => True

/-- A value is a list or a dictionary, whose text depends on the order of its entries. -/
def isContainer : PyVal → Bool
  | .list _ | .dict _ => true
  | _ => false

/-- The required asset and receiver are texts in both, or the same; the accepted values that are containers have the
same text; and no amount is lost to rounding. -/
structure SameRequired (accepted accepted' r r' : PyDict) : Prop where
  texts : ∀ key ∈ ["scheme", "network"], isContainer (accepted.get key) = true →
    (accepted.get key).toStr text = (accepted'.get key).toStr text
  addresses : ∀ key ∈ ["asset", "payTo"], (r.get key).Same (r'.get key) ∨
    ((r.get key).asStr.isSome = true ∧ (r'.get key).asStr.isSome = true ∧
      (isContainer (accepted.get key) = true → (accepted.get key).toStr text = (accepted'.get key).toStr text))
  amount : KeptApart text u (r.get "amount") (r'.get "amount")

end Same

/-! ## Field by field -/

section Fields

variable {text : Text} {u : Decimals} {v w : PyVal} {a a' : PyDict} {key : String}

theorem SameAddress.symm (h : SameAddress text v w) : SameAddress text w v := by
  rcases h with h | ⟨s, t, hs, ht, hlower⟩
  · exact .inl h.symm
  · exact .inr ⟨t, s, ht, hs, hlower.symm⟩

theorem SameNumeral.symm (h : SameNumeral text u v w) : SameNumeral text u w v :=
  ⟨h.1.symm, fun hnone => (h.2 (h.1.trans hnone)).symm⟩

theorem SameNumeral.refl (v : PyVal) : SameNumeral text u v v := ⟨rfl, fun _ => .refl v⟩

theorem SameAddress.of_sameHex (h : SameHex text v w) : SameAddress text v w := by
  rcases h with h | ⟨s, t, hs, ht, -, -, hlower⟩
  · exact .inl h
  · exact .inr ⟨s, t, hs, ht, hlower⟩

theorem not_sameAddress_null (s : String) : ¬ SameAddress text .null (.str s) := by
  rintro (h | ⟨s, t, hs, -⟩)
  · simp [PyVal.Same, PyVal.sorted] at h
  · cases hs

/-- A missing address is posted as the empty text, which the fingerprint does not tell from null. -/
theorem sameAddress_getOr (h : SameHex text (a.get key) (a'.get key)) :
    SameAddress text (a.getOr key (.str "")) (a'.getOr key (.str "")) ↔ a.has key = a'.has key := by
  cases hhas : a.has key with
  | true =>
    rw [PyDict.getOr_of_has hhas]
    cases hhas' : a'.has key with
    | true =>
      rw [PyDict.getOr_of_has hhas']
      exact iff_of_true (.of_sameHex h) rfl
    | false =>
      rw [PyDict.getOr_of_not_has hhas']
      rw [PyDict.get_of_not_has hhas', SameHex.of_not_str (.inr rfl), PyVal.same_null] at h
      rw [h]
      exact iff_of_false (not_sameAddress_null "") (by simp)
  | false =>
    rw [PyDict.getOr_of_not_has hhas]
    cases hhas' : a'.has key with
    | true =>
      rw [PyDict.getOr_of_has hhas']
      rw [PyDict.get_of_not_has hhas, SameHex.of_not_str (.inl rfl)] at h
      rw [PyVal.same_null.mp h.symm]
      exact iff_of_false (fun h => not_sameAddress_null "" h.symm) (by simp)
    | false =>
      rw [PyDict.getOr_of_not_has hhas']
      exact iff_of_true (.inl (.refl _)) rfl

theorem numberIn_empty : numberIn text u (.str "") = none := by
  rw [numberIn_of_ne_null (fun h => PyVal.noConfusion h), PyVal.toStr, decimal_empty]
  rfl

theorem numberIn_zero : numberIn text u (.str "0") ≠ none := by
  rw [numberIn_of_ne_null (fun h => PyVal.noConfusion h), PyVal.toStr, decimal_zero]
  exact Option.some_ne_none _

variable {c c' : PyVal}

/-- A field that is read and is not null is a number. -/
theorem numberIn_ne_none (h : numericString (text.withDecimals u) v = .ok c) (hv : v ≠ .null) :
    numberIn text u v ≠ none := by
  rcases numericString_ok h with ⟨hnull, -⟩ | ⟨-, s, hs, -⟩
  · exact absurd hnull hv
  · rw [spellingIn_of_ne_null hv] at hs
    obtain ⟨d, hd, -⟩ := Option.bind_eq_some_iff.mp hs
    rw [numberIn_of_ne_null hv, hd]
    exact Option.some_ne_none _

theorem null_of_spellingIn (h : numericString (text.withDecimals u) v = .ok c) (hnone : spellingIn text u v = none) :
    v = .null := by
  rcases numericString_ok h with ⟨hnull, -⟩ | ⟨-, s, hs, -⟩
  · exact hnull
  · rw [hs] at hnone
    cases hnone

/-- Two fields that are written alike are the same unless a number is lost to rounding. -/
theorem sameNumeral_iff (h : numericString (text.withDecimals u) v = .ok c)
    (h' : numericString (text.withDecimals u) w = .ok c') (hspelled : spellingIn text u v = spellingIn text u w) :
    SameNumeral text u v w ↔ KeptApart text u v w := by
  constructor
  · intro hsame _
    exact hsame.1
  · intro hkept
    refine ⟨hkept hspelled, fun hnone => ?_⟩
    have hv : v = .null := by
      by_contra hne
      exact numberIn_ne_none h hne hnone
    have hw : w = .null := null_of_spellingIn h' (by rw [← hspelled, hv]; rfl)
    rw [hv, hw]
    exact .refl _

/-- A missing number is posted as the empty text, which the fingerprint does not tell from null. -/
theorem sameNumeral_getOr (h : numericString (text.withDecimals u) (a.get key) = .ok c)
    (h' : numericString (text.withDecimals u) (a'.get key) = .ok c')
    (hspelled : spellingIn text u (a.get key) = spellingIn text u (a'.get key)) :
    SameNumeral text u (a.getOr key (.str "")) (a'.getOr key (.str "")) ↔
      a.has key = a'.has key ∧ KeptApart text u (a.get key) (a'.get key) := by
  have hempty : ¬ SameNumeral text u .null (.str "") := by
    intro hsame
    have hnull := hsame.2 rfl
    simp [PyVal.Same, PyVal.sorted] at hnull
  cases hhas : a.has key with
  | true =>
    cases hhas' : a'.has key with
    | true =>
      rw [PyDict.getOr_of_has hhas, PyDict.getOr_of_has hhas', sameNumeral_iff h h' hspelled]
      simp
    | false =>
      rw [PyDict.get_of_not_has hhas'] at hspelled
      rw [PyDict.getOr_of_has hhas, PyDict.getOr_of_not_has hhas', null_of_spellingIn h hspelled]
      exact iff_of_false hempty (by simp)
  | false =>
    cases hhas' : a'.has key with
    | true =>
      rw [PyDict.get_of_not_has hhas] at hspelled
      rw [PyDict.getOr_of_not_has hhas, PyDict.getOr_of_has hhas', null_of_spellingIn h' hspelled.symm]
      exact iff_of_false (fun hsame => hempty hsame.symm) (by simp)
    | false =>
      rw [PyDict.getOr_of_not_has hhas, PyDict.getOr_of_not_has hhas', PyDict.get_of_not_has hhas,
        PyDict.get_of_not_has hhas']
      exact iff_of_true (.refl _) ⟨rfl, fun _ => rfl⟩

theorem zeroIfMissing_getOr : zeroIfMissing (a.getOr key (.str "0")) = zeroIfMissing (a.get key) := by
  cases hhas : a.has key with
  | true => rw [PyDict.getOr_of_has hhas]
  | false =>
    rw [PyDict.getOr_of_not_has hhas, PyDict.get_of_not_has hhas]
    rfl

theorem zeroIfMissing_of_ne_null (h : v ≠ .null) : zeroIfMissing v = v := by
  cases v with
  | null => exact absurd rfl h
  | bool | int | float | str | list | dict => rfl

/-- A missing `validAfter` is posted as zero, and null counts as missing. -/
theorem sameNumeral_zeroIfMissing (h : numericString (text.withDecimals u) v = .ok c)
    (h' : numericString (text.withDecimals u) w = .ok c') (hspelled : spellingIn text u v = spellingIn text u w) :
    SameNumeral text u (zeroIfMissing v) (zeroIfMissing w) ↔ KeptApart text u v w := by
  by_cases hv : v = .null
  · have hw : w = .null := null_of_spellingIn h' (by rw [← hspelled, hv]; rfl)
    rw [hv, hw]
    exact iff_of_true (.refl _) fun _ => rfl
  · have hw : w ≠ .null := by
      rintro rfl
      exact hv (null_of_spellingIn h hspelled)
    rw [zeroIfMissing_of_ne_null hv, zeroIfMissing_of_ne_null hw, sameNumeral_iff h h' hspelled]

/-- Among the numbers that are read, only a missing one is posted as the empty text. -/
theorem sameNumeral_empty (h : numericString (text.withDecimals u) (a.get key) = .ok c) :
    SameNumeral text u (a.getOr key (.str "")) (.str "") ↔ a.has key = false := by
  cases hhas : a.has key with
  | false =>
    rw [PyDict.getOr_of_not_has hhas]
    exact iff_of_true (.refl _) rfl
  | true =>
    rw [PyDict.getOr_of_has hhas]
    refine iff_of_false ?_ (by simp)
    intro hsame
    by_cases hnull : a.get key = .null
    · rw [hnull] at hsame
      have := hsame.2 rfl
      simp [PyVal.Same, PyVal.sorted] at this
    · exact numberIn_ne_none h hnull (hsame.1.trans numberIn_empty)

/-- Values that are the same JSON are equal, unless they are containers. -/
theorem eq_of_same (h : v.Same w) (hv : isContainer v = false) : v = w := by
  cases v <;> cases w <;> simp_all [PyVal.Same, PyVal.sorted, isContainer]

/-- The text by which the validator compares an asset or a receiver. -/
def addressText (text : Text) (v : PyVal) : String := (v.lowerStr text).toStr text

theorem addressText_of_not_str (h : v.asStr = none) : addressText text v = v.toStr text := by
  cases v with
  | str s => cases h
  | null | bool | int | float | list | dict => rfl

theorem not_str_of_container (h : isContainer v = true) : v.asStr = none := by
  cases v <;> first | rfl | cases h

/-- Same JSON as a container is no text. -/
theorem not_str_of_same (h : v.Same w) (hv : isContainer v = true) : w.asStr = none := by
  cases w with
  | str s => exact absurd h (same_str_of_not_str (not_str_of_container hv) s).2
  | null | bool | int | float | list | dict => rfl

theorem addressText_of_sameHex (h : SameHex text v w) :
    addressText text v = addressText text w ↔ (isContainer v = true → v.toStr text = w.toStr text) := by
  cases hv : isContainer v with
  | false =>
    refine iff_of_true ?_ fun hc => absurd hc (by simp)
    rcases h with hsame | ⟨s, t, rfl, rfl, -, -, hlower⟩
    · rw [eq_of_same hsame hv]
    · exact hlower
  | true =>
    have hsame : v.Same w := (SameHex.of_not_str (.inl (not_str_of_container hv))).mp h
    rw [addressText_of_not_str (not_str_of_container hv), addressText_of_not_str (not_str_of_same hsame hv)]
    simp

/-- Two required addresses whose accepted ones the fingerprint does not tell apart. -/
theorem sameAddress_required {r r' : PyVal} (h : SameHex text v w) (hr : addressText text v = addressText text r)
    (hr' : addressText text w = addressText text r') :
    SameAddress text r r' ↔ r.Same r' ∨
      (r.asStr.isSome = true ∧ r'.asStr.isSome = true ∧
        (isContainer v = true → v.toStr text = w.toStr text)) := by
  rw [← addressText_of_sameHex h, hr, hr']
  constructor
  · rintro (hsame | ⟨s, t, rfl, rfl, hlower⟩)
    · exact .inl hsame
    · exact .inr ⟨rfl, rfl, hlower⟩
  · rintro (hsame | ⟨hs, ht, hlower⟩)
    · exact .inl hsame
    · obtain ⟨s, hs⟩ := Option.isSome_iff_exists.mp hs
      obtain ⟨t, ht⟩ := Option.isSome_iff_exists.mp ht
      obtain rfl := PyVal.asStr_eq_some hs
      obtain rfl := PyVal.asStr_eq_some ht
      exact .inr ⟨s, t, rfl, rfl, hlower⟩

end Fields

/-! ## The authorization -/

section Authorization

variable {text : Text} {u : Decimals} {a a' : PyDict}

/-- The fingerprint does not tell the two authorizations apart. -/
structure Alike (text : Text) (u : Decimals) (a a' : PyDict) : Prop where
  addresses : ∀ key ∈ ["from", "to", "nonce"], SameHex text (a.get key) (a'.get key)
  numbers : ∀ key ∈ ["value", "validAfter", "validBefore"], ∃ c c',
    numericString (text.withDecimals u) (a.get key) = .ok c ∧
      numericString (text.withDecimals u) (a'.get key) = .ok c' ∧
      spellingIn text u (a.get key) = spellingIn text u (a'.get key)

theorem posted_of_address {key : String} (h : key ∈ ["from", "to", "nonce"]) :
    key ∈ ["from", "to", "nonce", "value", "validBefore"] := List.mem_append_left ["value", "validBefore"] h

theorem posted_of_number {key : String} (h : key ∈ ["value", "validBefore"]) :
    key ∈ ["from", "to", "nonce", "value", "validBefore"] := List.mem_append_right ["from", "to", "nonce"] h

theorem numeral_of_number {key : String} (h : key ∈ ["value", "validBefore"]) :
    key ∈ ["value", "validAfter", "validBefore"] := by
  rcases List.mem_cons.mp h with rfl | h
  · exact List.mem_cons_self
  · exact List.mem_cons_of_mem _ (List.mem_cons_of_mem _ h)

/-- What is posted of an authorization. -/
theorem get_posted {key : String} (h : key ∈ ["from", "to", "nonce", "value", "validBefore"]) (a : PyDict) :
    PyDict.get (EIP3009Authorization.fromDict a).toDict key = a.getOr key (.str "") := by
  simp only [List.mem_cons, List.not_mem_nil, or_false] at h
  rcases h with rfl | rfl | rfl | rfl | rfl <;> rfl

theorem get_posted_validAfter (a : PyDict) :
    PyDict.get (EIP3009Authorization.fromDict a).toDict "validAfter" = a.getOr "validAfter" (.str "0") := rfl

/-- Two authorizations are posted alike exactly when the same fields are there and no number is lost. -/
theorem sameAuthorization_iff (h : Alike text u a a') :
    SameAuthorization text u (EIP3009Authorization.fromDict a).toDict (EIP3009Authorization.fromDict a').toDict ↔
      SamePresence text u a a' := by
  have haddress : ∀ key ∈ ["from", "to", "nonce"],
      (SameAddress text (PyDict.get (EIP3009Authorization.fromDict a).toDict key)
        (PyDict.get (EIP3009Authorization.fromDict a').toDict key) ↔ a.has key = a'.has key) := by
    intro key hkey
    rw [get_posted (posted_of_address hkey), get_posted (posted_of_address hkey)]
    exact sameAddress_getOr (h.addresses key hkey)
  have hnumber : ∀ key ∈ ["value", "validBefore"],
      (SameNumeral text u (PyDict.get (EIP3009Authorization.fromDict a).toDict key)
        (PyDict.get (EIP3009Authorization.fromDict a').toDict key) ↔
          a.has key = a'.has key ∧ KeptApart text u (a.get key) (a'.get key)) := by
    intro key hkey
    obtain ⟨c, c', hc, hc', hspelled⟩ := h.numbers key (numeral_of_number hkey)
    rw [get_posted (posted_of_number hkey), get_posted (posted_of_number hkey)]
    exact sameNumeral_getOr hc hc' hspelled
  have hafter : SameNumeral text u
      (zeroIfMissing (PyDict.get (EIP3009Authorization.fromDict a).toDict "validAfter"))
      (zeroIfMissing (PyDict.get (EIP3009Authorization.fromDict a').toDict "validAfter")) ↔
        KeptApart text u (a.get "validAfter") (a'.get "validAfter") := by
    obtain ⟨c, c', hc, hc', hspelled⟩ := h.numbers "validAfter" (by simp)
    rw [get_posted_validAfter, get_posted_validAfter, zeroIfMissing_getOr, zeroIfMissing_getOr]
    exact sameNumeral_zeroIfMissing hc hc' hspelled
  constructor
  · rintro ⟨h₁, h₂, h₃⟩
    have hvalue := (hnumber "value" (by simp)).mp (h₂ "value" (by simp))
    have hbefore := (hnumber "validBefore" (by simp)).mp (h₂ "validBefore" (by simp))
    refine ⟨?_, ?_⟩
    · simp only [List.forall_mem_cons, List.not_mem_nil, false_implies, implies_true, and_true]
      exact ⟨(haddress "from" (by simp)).mp (h₁ "from" (by simp)), (haddress "to" (by simp)).mp (h₁ "to" (by simp)),
        (haddress "nonce" (by simp)).mp (h₁ "nonce" (by simp)), hvalue.1, hbefore.1⟩
    · simp only [List.forall_mem_cons, List.not_mem_nil, false_implies, implies_true, and_true]
      exact ⟨hvalue.2, hafter.mp h₃, hbefore.2⟩
  · rintro ⟨hpresent, hkept⟩
    refine ⟨?_, ?_, hafter.mpr (hkept "validAfter" (by simp))⟩
    · exact fun key hkey => (haddress key hkey).mpr (hpresent key (posted_of_address hkey))
    · exact fun key hkey =>
        (hnumber key hkey).mpr ⟨hpresent key (posted_of_number hkey), hkept key (numeral_of_number hkey)⟩

theorem getOr_nil (key : String) (default : PyVal) : PyDict.getOr [] key default = default := rfl

/-- An authorization is posted like a missing one exactly when it is blank. -/
theorem sameAuthorization_default (h : Readable (text.withDecimals u) a) :
    SameAuthorization text u (EIP3009Authorization.fromDict a).toDict (EIP3009Authorization.fromDict []).toDict ↔
      Blank text u a := by
  have haddress : ∀ key ∈ ["from", "to", "nonce"],
      (SameAddress text (PyDict.get (EIP3009Authorization.fromDict a).toDict key)
        (PyDict.get (EIP3009Authorization.fromDict []).toDict key) ↔
          (a.has key = true → SameAddress text (a.get key) (.str ""))) := by
    intro key hkey
    rw [get_posted (posted_of_address hkey), get_posted (posted_of_address hkey), getOr_nil]
    cases hhas : a.has key with
    | true =>
      rw [PyDict.getOr_of_has hhas]
      simp
    | false =>
      rw [PyDict.getOr_of_not_has hhas]
      exact iff_of_true (.inl (.refl _)) (by simp)
  have hnumber : ∀ key ∈ ["value", "validBefore"],
      (SameNumeral text u (PyDict.get (EIP3009Authorization.fromDict a).toDict key)
        (PyDict.get (EIP3009Authorization.fromDict []).toDict key) ↔ a.has key = false) := by
    intro key hkey
    obtain ⟨c, hc⟩ := h key (numeral_of_number hkey)
    rw [get_posted (posted_of_number hkey), get_posted (posted_of_number hkey), getOr_nil]
    exact sameNumeral_empty hc
  have hafter : SameNumeral text u
      (zeroIfMissing (PyDict.get (EIP3009Authorization.fromDict a).toDict "validAfter"))
      (zeroIfMissing (PyDict.get (EIP3009Authorization.fromDict []).toDict "validAfter")) ↔
        numberIn text u (zeroIfMissing (a.get "validAfter")) = numberIn text u (.str "0") := by
    rw [get_posted_validAfter, get_posted_validAfter, zeroIfMissing_getOr, zeroIfMissing_getOr]
    constructor
    · exact fun hsame => hsame.1
    · intro heq
      exact ⟨heq, fun hnone => absurd (heq.symm.trans hnone) numberIn_zero⟩
  constructor
  · rintro ⟨h₁, h₂, h₃⟩
    exact ⟨fun key hkey => (haddress key hkey).mp (h₁ key hkey), fun key hkey => (hnumber key hkey).mp (h₂ key hkey),
      hafter.mp h₃⟩
  · rintro ⟨h₁, h₂, h₃⟩
    exact ⟨fun key hkey => (haddress key hkey).mpr (h₁ key hkey),
      fun key hkey => (hnumber key hkey).mpr (h₂ key hkey), hafter.mpr h₃⟩

theorem SameAuthorization.symm (h : SameAuthorization text u a a') : SameAuthorization text u a' a where
  addresses := fun key hkey => (h.addresses key hkey).symm
  numbers := fun key hkey => (h.numbers key hkey).symm
  validAfter := h.validAfter.symm

theorem SameAuthorization.refl (a : PyDict) : SameAuthorization text u a a where
  addresses := fun _ _ => .inl (.refl _)
  numbers := fun _ _ => .refl _
  validAfter := .refl _

end Authorization

/-! ## The requirement -/

section Requirement

variable {text : Text} {u : Decimals} {accepted accepted' r r' : PyDict}

/-- What the validator has compared. -/
structure Compared (text : Text) (u : Decimals) (accepted r : PyDict) : Prop where
  texts : ∀ key ∈ ["scheme", "network"], (accepted.get key).toStr text = (r.get key).toStr text
  addresses : ∀ key ∈ ["asset", "payTo"], addressText text (accepted.get key) = addressText text (r.get key)
  amount : ∃ c, numericString (text.withDecimals u) (accepted.get "amount") = .ok c ∧
    numericString (text.withDecimals u) (r.get "amount") = .ok c

theorem addressText_withDecimals (v : PyVal) : addressText (text.withDecimals u) v = addressText text v := by
  rw [addressText, toStr_withDecimals]
  rfl

theorem compared_of_valid {envelope : FacilitatorEnvelope}
    (h : validateSettlementEnvelope (text.withDecimals u) envelope = .ok accepted) :
    Compared text u accepted envelope.paymentRequirements := by
  obtain ⟨-, hfields⟩ := validated_fields h
  refine ⟨?_, ?_, ?_⟩
  · intro key hkey
    obtain ⟨-, -, c, hc, hc'⟩ := hfields key (by
      simp only [comparedFields, List.mem_cons, List.not_mem_nil, or_false] at hkey ⊢
      tauto)
    have hsame : canonicalValue (text.withDecimals u) key (accepted.get key) =
        canonicalValue (text.withDecimals u) key (envelope.paymentRequirements.get key) := hc.trans hc'.symm
    simp only [List.mem_cons, List.not_mem_nil, or_false] at hkey
    rw [← toStr_withDecimals (u := u), ← toStr_withDecimals (u := u)]
    rcases hkey with rfl | rfl <;> exact Except.ok.inj hsame
  · intro key hkey
    obtain ⟨-, -, c, hc, hc'⟩ := hfields key (by
      simp only [comparedFields, List.mem_cons, List.not_mem_nil, or_false] at hkey ⊢
      tauto)
    have hvalue : ∀ v, canonicalValue (text.withDecimals u) key v = .ok (addressText (text.withDecimals u) v) := by
      intro v
      simp only [List.mem_cons, List.not_mem_nil, or_false] at hkey
      rcases hkey with rfl | rfl <;> cases v <;> rfl
    have hsame := hc.trans hc'.symm
    rw [hvalue, hvalue, addressText_withDecimals, addressText_withDecimals] at hsame
    exact Except.ok.inj hsame
  · obtain ⟨-, -, c, hc, hc'⟩ := hfields "amount" (by simp [comparedFields])
    exact ⟨.str c, numericString_of_canonicalAmount hc, numericString_of_canonicalAmount hc'⟩

/-- Requirements whose accepted ones the fingerprint does not tell apart. -/
theorem sameKind_iff (h : Compared text u accepted r) (h' : Compared text u accepted' r')
    (hsame : SameRequirement text accepted accepted')
    (hspelled : spellingIn text u (accepted.get "amount") = spellingIn text u (accepted'.get "amount")) :
    SameKind text u r r' ↔ SameRequired text u accepted accepted' r r' := by
  have htext : ∀ key ∈ ["scheme", "network"], ((r.get key).toStr text = (r'.get key).toStr text ↔
      (isContainer (accepted.get key) = true → (accepted.get key).toStr text = (accepted'.get key).toStr text)) := by
    intro key hkey
    have hjson : (accepted.get key).Same (accepted'.get key) := by
      simp only [List.mem_cons, List.not_mem_nil, or_false] at hkey
      rcases hkey with rfl | rfl
      · exact hsame.scheme
      · exact hsame.network
    rw [← h.texts key hkey, ← h'.texts key hkey]
    cases hc : isContainer (accepted.get key) with
    | true => simp
    | false => exact iff_of_true (by rw [eq_of_same hjson hc]) (by simp)
  have haddress : ∀ key ∈ ["asset", "payTo"], SameHex text (accepted.get key) (accepted'.get key) := by
    intro key hkey
    simp only [List.mem_cons, List.not_mem_nil, or_false] at hkey
    rcases hkey with rfl | rfl
    · exact hsame.asset
    · exact hsame.payTo
  have hamount : SameNumeral text u (r.get "amount") (r'.get "amount") ↔
      KeptApart text u (r.get "amount") (r'.get "amount") := by
    obtain ⟨c, hc, hr⟩ := h.amount
    obtain ⟨c', hc', hr'⟩ := h'.amount
    refine sameNumeral_iff hr hr' ?_
    have hleft := (same_numericString hc hr).mp (.refl _)
    have hright := (same_numericString hc' hr').mp (.refl _)
    rw [← hleft, ← hright, hspelled]
  constructor
  · rintro ⟨h₁, h₂, h₃⟩
    exact ⟨fun key hkey => (htext key hkey).mp (h₁ key hkey),
      fun key hkey => (sameAddress_required (haddress key hkey) (h.addresses key hkey) (h'.addresses key hkey)).mp
        (h₂ key hkey), hamount.mp h₃⟩
  · rintro ⟨h₁, h₂, h₃⟩
    exact ⟨fun key hkey => (htext key hkey).mpr (h₁ key hkey),
      fun key hkey => (sameAddress_required (haddress key hkey) (h.addresses key hkey) (h'.addresses key hkey)).mpr
        (h₂ key hkey), hamount.mpr h₃⟩

end Requirement

/-! ## The whole body -/

section Body

variable {text : Text} {u : Decimals} {networks : List String} {envelope envelope' : FacilitatorEnvelope}
  {accepted accepted' : PyDict}

theorem get_of_getOr_dict {d inner : PyDict} {key : String} (h : d.getOr key (.dict []) = .dict inner) :
    (d.get key).asDict = some inner ∨ ((d.get key).asDict = none ∧ inner = []) := by
  cases hhas : d.has key with
  | true =>
    rw [PyDict.getOr_of_has hhas] at h
    rw [h]
    exact .inl rfl
  | false =>
    rw [PyDict.getOr_of_not_has hhas] at h
    rw [PyDict.get_of_not_has hhas]
    exact .inr ⟨rfl, (PyVal.dict.inj h).symm⟩

/-- What is posted is the authorization that the envelope carries, or the defaults. -/
theorem Submission.auth_eq {inner auth payload requirement : PyDict} {request : SettleRequest}
    (h : Submission envelope inner auth payload requirement request) :
    auth = (carried envelope.paymentPayload).getD [] := by
  unfold carried
  rcases get_of_getOr_dict h.readInner with hinner | ⟨hinner, rfl⟩
  · rw [hinner, Option.bind_some]
    rcases get_of_getOr_dict h.readAuth with hauth | ⟨hauth, rfl⟩
    · rw [hauth, Option.getD_some]
    · rw [hauth, Option.getD_none]
  · rw [hinner, Option.bind_none, Option.getD_none]
    exact (PyVal.dict.inj h.readAuth).symm

theorem authorization_of_carried {d a : PyDict} (h : carried d = some a) : authorization d = a := by
  unfold carried at h
  rw [authorization, h]

/-- The places of a posted body. -/
theorem Submission.places {inner auth payload requirement : PyDict} {request : SettleRequest}
    (h : Submission envelope inner auth payload requirement request) :
    dictAt request.body ["paymentPayload", "payload", "authorization"] =
        (EIP3009Authorization.fromDict auth).toDict ∧
      dictAt request.body ["paymentPayload", "accepted"] = requirement ∧
      dictAt request.body ["paymentRequirements"] = requirement := by
  have hpayload : ((request.body.get "paymentPayload").asDict).getD [] = payload := by
    rw [h.body]
    rfl
  have hrequirement : ((request.body.get "paymentRequirements").asDict).getD [] = requirement := by
    rw [h.body]
    rfl
  refine ⟨?_, ?_, ?_⟩
  · simp only [dictAt, List.foldl_cons, List.foldl_nil, hpayload, h.signed]
    rfl
  · simp only [dictAt, List.foldl_cons, List.foldl_nil, hpayload, h.accepted]
    rfl
  · simp only [dictAt, List.foldl_cons, List.foldl_nil, hrequirement]

/-- A fingerprint comes from a dictionary. -/
theorem canonical_of_fingerprint {p : Payment} {f : String} (h : p.fingerprint text = .ok f) :
    ∃ d, p.canonical text = .ok d := by
  unfold Payment.fingerprint paymentFingerprint at h
  unfold Payment.canonical
  cases hd : canonicalPayment text p.paymentPayload p.paymentRequirements p.provider p.x402Version with
  | error e =>
    rw [hd] at h
    cases h
  | ok d => exact ⟨d, rfl⟩

/-- The numbers of a hashed payment are read. -/
theorem readable_of_canonical {p : Payment} {d : PyDict} (h : p.canonical text = .ok d) : Readable text p.auth := by
  obtain ⟨-, value, after, before, -, hvalue, hafter, hbefore, -⟩ := Payment.canonical_ok_iff.mp h
  intro key hkey
  simp only [List.mem_cons, List.not_mem_nil, or_false] at hkey
  rcases hkey with rfl | rfl | rfl
  · exact ⟨value, hvalue⟩
  · exact ⟨after, hafter⟩
  · exact ⟨before, hbefore⟩

/-- Payments with one fingerprint have authorizations that it does not tell apart. -/
theorem alike_of_fingerprint {p q : Payment} {d d' : PyDict} (hd : p.canonical (text.withDecimals u) = .ok d)
    (hd' : q.canonical (text.withDecimals u) = .ok d') (htexts : p.SameTexts text q) (hrounded : p.SameRounded text u q) :
    Alike text u p.auth q.auth := by
  have hread := readable_of_canonical hd
  have hread' := readable_of_canonical hd'
  simp only [Payment.SameRounded, Payment.numerals, List.map_cons, List.map_nil, List.cons.injEq, and_true] at hrounded
  obtain ⟨-, hvalue, hafter, hbefore⟩ := hrounded
  refine ⟨?_, ?_⟩
  · intro key hkey
    simp only [List.mem_cons, List.not_mem_nil, or_false] at hkey
    rcases hkey with rfl | rfl | rfl
    · exact htexts.payer
    · exact htexts.authorizationTo
    · exact htexts.nonce
  · intro key hkey
    obtain ⟨c, hc⟩ := hread key hkey
    obtain ⟨c', hc'⟩ := hread' key hkey
    refine ⟨c, c', hc, hc', ?_⟩
    simp only [List.mem_cons, List.not_mem_nil, or_false] at hkey
    rcases hkey with rfl | rfl | rfl
    · exact hvalue
    · exact hafter
    · exact hbefore

/-- Two payments that are hashed are posted with the same authorization exactly when it has the same source. -/
theorem sameSource_iff {p q : Payment} {d d' : PyDict} (hd : p.canonical (text.withDecimals u) = .ok d)
    (hd' : q.canonical (text.withDecimals u) = .ok d') (halike : Alike text u p.auth q.auth) :
    SameAuthorization text u (EIP3009Authorization.fromDict ((carried p.paymentPayload).getD [])).toDict
        (EIP3009Authorization.fromDict ((carried q.paymentPayload).getD [])).toDict ↔
      SameSource text u (carried p.paymentPayload) (carried q.paymentPayload) := by
  have hauth : ∀ {p : Payment} {a : PyDict}, carried p.paymentPayload = some a → p.auth = a :=
    fun h => authorization_of_carried h
  cases hp : carried p.paymentPayload with
  | some a =>
    rw [hauth hp] at halike
    cases hq : carried q.paymentPayload with
    | some a' =>
      rw [hauth hq] at halike
      exact sameAuthorization_iff halike
    | none =>
      have hread := readable_of_canonical hd
      rw [hauth hp] at hread
      exact sameAuthorization_default hread
  | none =>
    cases hq : carried q.paymentPayload with
    | some a' =>
      have hread := readable_of_canonical hd'
      rw [hauth hq] at hread
      exact ⟨fun h => (sameAuthorization_default hread).mp h.symm, fun h => ((sameAuthorization_default hread).mpr h).symm⟩
    | none => exact iff_of_true (.refl _) trivial

theorem SameKind.congr {r r' s s' : PyDict} (h : ∀ key ∈ comparedFields, s.get key = r.get key)
    (h' : ∀ key ∈ comparedFields, s'.get key = r'.get key) : SameKind text u s s' ↔ SameKind text u r r' := by
  simp only [comparedFields, List.forall_mem_cons, List.not_mem_nil, false_implies, implies_true, and_true] at h h'
  obtain ⟨hscheme, hnetwork, hasset, hamount, hpayTo⟩ := h
  obtain ⟨hscheme', hnetwork', hasset', hamount', hpayTo'⟩ := h'
  have hfields : ∀ r r', SameKind text u r r' ↔
      ((r.get "scheme").toStr text = (r'.get "scheme").toStr text ∧
        (r.get "network").toStr text = (r'.get "network").toStr text) ∧
      (SameAddress text (r.get "asset") (r'.get "asset") ∧ SameAddress text (r.get "payTo") (r'.get "payTo")) ∧
        SameNumeral text u (r.get "amount") (r'.get "amount") := by
    intro r r'
    constructor
    · intro hk
      exact ⟨⟨hk.texts _ (by simp), hk.texts _ (by simp)⟩, ⟨hk.addresses _ (by simp), hk.addresses _ (by simp)⟩, hk.amount⟩
    · rintro ⟨ht, ha, hn⟩
      exact ⟨by simpa using ht, by simpa using ha, hn⟩
  rw [hfields, hfields, hscheme, hscheme', hnetwork, hnetwork', hasset, hasset', hpayTo, hpayTo', hamount, hamount']

/-- **Two envelopes with one fingerprint are posted alike exactly when** their authorizations are read from the same
place and have the same fields, or the only one that is read says no more than the defaults; the required assets and
receivers are texts, or the same values; and no two different numbers are rounded to one. -/
theorem posted_alike_iff {f : String} (hlower : text.LowersHex)
    (hvalid : validateSettlementEnvelope (text.withDecimals u) envelope = .ok accepted)
    (hvalid' : validateSettlementEnvelope (text.withDecimals u) envelope' = .ok accepted')
    (hgateway : validateEnvelope networks envelope = .ok ()) (hgateway' : validateEnvelope networks envelope' = .ok ())
    (hinj : ∀ d d',
      canonicalPayment (text.withDecimals u) envelope.paymentPayload envelope.paymentRequirements "circle_gateway"
        envelope.x402Version = .ok d →
      canonicalPayment (text.withDecimals u) envelope'.paymentPayload envelope'.paymentRequirements "circle_gateway"
        envelope'.x402Version = .ok d' →
      (text.withDecimals u).Injective d d')
    (hf : settlementFingerprint (text.withDecimals u) envelope "circle_gateway" = .ok f)
    (hf' : settlementFingerprint (text.withDecimals u) envelope' "circle_gateway" = .ok f) :
    ∃ request request', submit u envelope = .ok request ∧ submit u envelope' = .ok request' ∧
      (SameBody text u request.body request'.body ↔
        SameSource text u (carried envelope.paymentPayload) (carried envelope'.paymentPayload) ∧
          SameRequired text u accepted accepted' envelope.paymentRequirements envelope'.paymentRequirements) := by
  obtain ⟨haccepted, hcompared⟩ := validated_fields hvalid
  obtain ⟨haccepted', hcompared'⟩ := validated_fields hvalid'
  let p := envelope.payment "circle_gateway" haccepted
  let q := envelope'.payment "circle_gateway" haccepted'
  obtain ⟨d, hd⟩ := canonical_of_fingerprint (p := p) hf
  obtain ⟨d', hd'⟩ := canonical_of_fingerprint (p := q) hf'
  obtain ⟨htexts, hrounded⟩ := (Payment.fingerprint_eq_iff (p := p) (q := q) hlower hd hd' (hinj d d' hd hd')).mp
    (Eq.trans hf hf'.symm)
  have halike := alike_of_fingerprint hd hd' htexts hrounded
  have hamount : spellingIn text u (accepted.get "amount") = spellingIn text u (accepted'.get "amount") := by
    simp only [Payment.SameRounded, Payment.numerals, List.map_cons, List.map_nil, List.cons.injEq, and_true] at hrounded
    exact hrounded.1
  obtain ⟨request, inner, auth, payload, requirement, hsubmit, hs⟩ := submit_ok (u := u) hgateway
  obtain ⟨request', inner', auth', payload', requirement', hsubmit', hs'⟩ := submit_ok (u := u) hgateway'
  refine ⟨request, request', hsubmit, hsubmit', ?_⟩
  have hsource := sameSource_iff hd hd' halike
  have hkind : SameKind text u requirement requirement' ↔
      SameRequired text u accepted accepted' envelope.paymentRequirements envelope'.paymentRequirements := by
    have hposted : ∀ key ∈ comparedFields, requirement.get key = envelope.paymentRequirements.get key :=
      fun key hkey => (hs.fields key hkey).trans (PyDict.getOr_of_has (hcompared key hkey).2.1 _)
    have hposted' : ∀ key ∈ comparedFields, requirement'.get key = envelope'.paymentRequirements.get key :=
      fun key hkey => (hs'.fields key hkey).trans (PyDict.getOr_of_has (hcompared' key hkey).2.1 _)
    rw [SameKind.congr hposted hposted']
    exact sameKind_iff (compared_of_valid hvalid) (compared_of_valid hvalid')
      ⟨htexts.scheme, htexts.network, htexts.asset, htexts.payTo⟩ hamount
  obtain ⟨hauthorization, hplace, hrequirements⟩ := hs.places
  obtain ⟨hauthorization', hplace', hrequirements'⟩ := hs'.places
  rw [← hkind]
  rw [hs.auth_eq] at hauthorization
  rw [hs'.auth_eq] at hauthorization'
  constructor
  · rintro ⟨h₁, h₂, -⟩
    rw [hauthorization, hauthorization'] at h₁
    rw [hplace, hplace'] at h₂
    exact ⟨hsource.mp h₁, h₂⟩
  · rintro ⟨h₁, h₂⟩
    refine ⟨?_, ?_, ?_⟩
    · rw [hauthorization, hauthorization']
      exact hsource.mpr h₁
    · rw [hplace, hplace']
      exact h₂
    · rw [hrequirements, hrequirements']
      exact h₂

end Body

/-! ## A sample payment -/

section Sample

def gatewayRequirement : PyDict :=
  Payment.sampleRequirement "0xa1" (.str "1000") ++ [("extra", .dict [("name", .str "GatewayWalletBatched")])]

def payerAuthorization (payer : String) : PyDict :=
  [("from", .str payer), ("to", .str "0xB2"), ("value", .str "1000"), ("validAfter", .str "0"),
    ("validBefore", .str "1900000000"), ("nonce", .str "0x01")]

/-- A payment with its authorization in the payload, or at the top. -/
def authorizedEnvelope (nested : Bool) (payer : String) : FacilitatorEnvelope where
  x402Version := 2
  paymentPayload :=
    [("x402Version", .int 2), ("accepted", .dict gatewayRequirement),
      if nested then
        ("payload", .dict [("signature", .str "0x02"), ("authorization", .dict (payerAuthorization payer))])
      else ("authorization", .dict (payerAuthorization payer))]
  paymentRequirements := gatewayRequirement

variable (nested : Bool) (payer : String)

theorem authorizedEnvelope_valid :
    validateSettlementEnvelope (Payment.paymentText.withDecimals .ascii) (authorizedEnvelope nested payer) =
      .ok gatewayRequirement :=
  bind_ok.mpr ⟨(), checkField_self rfl rfl, bind_ok.mpr ⟨(), checkField_self rfl rfl,
    bind_ok.mpr ⟨(), checkField_self rfl rfl, bind_ok.mpr ⟨(), checkField_self rfl canonicalAmount_thousand,
      bind_ok.mpr ⟨(), checkField_self rfl rfl, rfl⟩⟩⟩⟩⟩

theorem authorizedEnvelope_gateway : validateEnvelope [] (authorizedEnvelope nested payer) = .ok () := by
  cases nested <;> rfl

theorem authorizedEnvelope_authorization :
    authorization (authorizedEnvelope nested payer).paymentPayload = payerAuthorization payer := by
  cases nested <;> rfl

def authorizedPayment : Payment :=
  (authorizedEnvelope nested payer).payment "circle_gateway" (validated_fields (authorizedEnvelope_valid nested payer)).1

theorem authorizedPayment_canonical :
    (authorizedPayment nested payer).canonical (Payment.paymentText.withDecimals .ascii) =
      .ok ((authorizedPayment nested payer).hashed (Payment.paymentText.withDecimals .ascii) (.str "1000") (.str "1000")
        (.str "0") (.str "1900000000")) := by
  have hread : ∀ s n, Decimals.ascii.read s = .integral n → ∀ v, v = PyVal.str s →
      numericString (Payment.paymentText.withDecimals .ascii) v = .ok (.str (toString n)) := by
    rintro s n hn v rfl
    exact Payment.numericString_integer s hn
  have hauth : (authorizedPayment nested payer).auth = payerAuthorization payer :=
    authorizedEnvelope_authorization nested payer
  refine Payment.canonical_ok_iff.mpr
    ⟨.str "1000", .str "1000", .str "0", .str "1900000000", ?_, ?_, ?_, ?_, rfl⟩
  · exact hread "1000" 1000 (by unfold Decimals.read; rfl) _ rfl
  · rw [hauth]
    exact hread "1000" 1000 (by unfold Decimals.read; rfl) _ rfl
  · rw [hauth]
    exact hread "0" 0 (by unfold Decimals.read; rfl) _ rfl
  · rw [hauth]
    exact hread "1900000000" 1900000000 (by unfold Decimals.read; rfl) _ rfl

/-- Sample payments are hashed from one dictionary when their payers are the same up to case. -/
theorem authorizedPayment_hashed {nested' : Bool} {payer' : String}
    (h : lowerHex (Payment.paymentText.withDecimals .ascii) (.str payer) =
      lowerHex (Payment.paymentText.withDecimals .ascii) (.str payer')) (amount value validAfter validBefore : PyVal) :
    (authorizedPayment nested payer).hashed (Payment.paymentText.withDecimals .ascii) amount value validAfter validBefore =
      (authorizedPayment nested' payer').hashed (Payment.paymentText.withDecimals .ascii) amount value validAfter
        validBefore := by
  have hauth : ∀ nested payer, (authorizedPayment nested payer).auth = payerAuthorization payer :=
    authorizedEnvelope_authorization
  have haccepted : ∀ nested payer, (authorizedPayment nested payer).accepted = gatewayRequirement := fun _ _ => rfl
  have hversion : ∀ nested payer, (authorizedPayment nested payer).x402Version = 2 := fun _ _ => rfl
  have hprovider : ∀ nested payer, (authorizedPayment nested payer).provider = "circle_gateway" := fun _ _ => rfl
  have hfrom : ∀ payer, PyDict.get (payerAuthorization payer) "from" = .str payer := fun _ => rfl
  have hto : ∀ payer, PyDict.get (payerAuthorization payer) "to" = .str "0xB2" := fun _ => rfl
  have hnonce : ∀ payer, PyDict.get (payerAuthorization payer) "nonce" = .str "0x01" := fun _ => rfl
  simp only [Payment.hashed, hauth, haccepted, hversion, hprovider, hfrom, hto, hnonce, h]

theorem lowerHex_payer : lowerHex (Payment.paymentText.withDecimals .ascii) (.str "0xC3") =
    lowerHex (Payment.paymentText.withDecimals .ascii) (.str "0xc3") := by
  have htexts : (if startsHex (Payment.asciiLower "0xC3") then Payment.asciiLower "0xC3" else "0xC3") =
      (if startsHex (Payment.asciiLower "0xc3") then Payment.asciiLower "0xc3" else "0xc3") := by decide +kernel
  rw [lowerHex_str, lowerHex_str]
  exact congrArg PyVal.str htexts

/-- The sample payment with its payer in small letters is posted alike. -/
theorem posted_recased :
    ∃ request request', submit .ascii (authorizedEnvelope true "0xC3") = .ok request ∧
      submit .ascii (authorizedEnvelope true "0xc3") = .ok request' ∧
      SameBody Payment.paymentText .ascii request.body request'.body := by
  have hd := authorizedPayment_canonical true "0xC3"
  have hd' := authorizedPayment_canonical true "0xc3"
  rw [← authorizedPayment_hashed true "0xC3" lowerHex_payer] at hd'
  obtain ⟨request, request', hsubmit, hsubmit', hiff⟩ := posted_alike_iff Payment.paymentText_lowersHex
    (authorizedEnvelope_valid true "0xC3") (authorizedEnvelope_valid true "0xc3")
    (authorizedEnvelope_gateway true "0xC3") (authorizedEnvelope_gateway true "0xc3")
    (by
      intro d d' h h'
      obtain rfl := Except.ok.inj (hd.symm.trans h)
      obtain rfl := Except.ok.inj (hd'.symm.trans h')
      exact iff_of_true rfl (.refl _))
    (Payment.fingerprint_of_canonical hd) (Payment.fingerprint_of_canonical hd')
  refine ⟨request, request', hsubmit, hsubmit', hiff.mpr ⟨⟨?_, ?_⟩, ?_, ?_, fun _ => rfl⟩⟩
  · simp only [List.forall_mem_cons, List.not_mem_nil, false_implies, implies_true, and_true]
    exact ⟨rfl, rfl, rfl, rfl, rfl⟩
  · simp only [List.forall_mem_cons, List.not_mem_nil, false_implies, implies_true, and_true]
    exact ⟨fun _ => rfl, fun _ => rfl, fun _ => rfl⟩
  · exact fun _ _ _ => rfl
  · exact fun _ _ => .inl (.refl _)

/-- An authorization at the top is hashed like one in the payload, and is not posted. -/
theorem top_authorization_not_posted :
    validateSettlementEnvelope (Payment.paymentText.withDecimals .ascii) (authorizedEnvelope true "0xC3") =
        .ok gatewayRequirement ∧
      validateSettlementEnvelope (Payment.paymentText.withDecimals .ascii) (authorizedEnvelope false "0xC3") =
        .ok gatewayRequirement ∧
      validateEnvelope [] (authorizedEnvelope true "0xC3") = .ok () ∧
      validateEnvelope [] (authorizedEnvelope false "0xC3") = .ok () ∧
      (∃ f, settlementFingerprint (Payment.paymentText.withDecimals .ascii) (authorizedEnvelope true "0xC3")
            "circle_gateway" = .ok f ∧
          settlementFingerprint (Payment.paymentText.withDecimals .ascii) (authorizedEnvelope false "0xC3")
            "circle_gateway" = .ok f) ∧
      ∃ request request', submit .ascii (authorizedEnvelope true "0xC3") = .ok request ∧
        submit .ascii (authorizedEnvelope false "0xC3") = .ok request' ∧
        ¬ SameBody Payment.paymentText .ascii request.body request'.body := by
  have hd := authorizedPayment_canonical true "0xC3"
  have hd' := authorizedPayment_canonical false "0xC3"
  rw [authorizedPayment_hashed true "0xC3" rfl] at hd
  obtain ⟨request, inner, auth, payload, requirement, hsubmit, hs⟩ :=
    submit_ok (u := .ascii) (authorizedEnvelope_gateway true "0xC3")
  obtain ⟨request', inner', auth', payload', requirement', hsubmit', hs'⟩ :=
    submit_ok (u := .ascii) (authorizedEnvelope_gateway false "0xC3")
  refine ⟨authorizedEnvelope_valid _ _, authorizedEnvelope_valid _ _, authorizedEnvelope_gateway _ _,
    authorizedEnvelope_gateway _ _, ⟨_, Payment.fingerprint_of_canonical hd, Payment.fingerprint_of_canonical hd'⟩,
    request, request', hsubmit, hsubmit', ?_⟩
  intro hsame
  have hpayer := hsame.authorization.addresses "from" (by simp)
  rw [hs.places.1, hs'.places.1, hs.auth_eq, hs'.auth_eq] at hpayer
  have hcarried : (carried (authorizedEnvelope true "0xC3").paymentPayload).getD [] = payerAuthorization "0xC3" := rfl
  have hcarried' : (carried (authorizedEnvelope false "0xC3").paymentPayload).getD [] = [] := rfl
  rw [hcarried, hcarried'] at hpayer
  rcases hpayer with h | ⟨s, t, hsent, hdefault, hlower⟩
  · exact absurd ((PyVal.same_str "0xC3" "").mp h) (by decide)
  · obtain rfl := PyVal.str.inj hsent
    obtain rfl := PyVal.str.inj hdefault
    exact absurd hlower (by decide +kernel)

end Sample

end HostedCircleGatewayProvider
end HostedFacilitator
