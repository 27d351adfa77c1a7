import HostedFacilitator.Engine.Fingerprint

/-!
# Which exceptions an envelope can raise

The route answers a `ProtocolValidationError` with 400; every other exception leaves it as it is. Both readers of a number
wrap what `Decimal(text)` refuses, and nothing after it: an infinity, a signaling NaN, or a number that is too long raises
another exception in `validate_settlement_envelope`, a NaN passes, and `_settlement_fingerprint` raises a plain
`ValueError` for a number of the authorization that it cannot read. Apart from these an envelope is accepted with a
finite amount, or rejected (`rejected_or_accepted_iff`).
-/

namespace HostedFacilitator

/-- The error that the route maps to 400. -/
def PyErr.IsRejection (e : PyErr) : Prop := ∃ m, e = .protocolValidation m

/-- A computation that returns, or raises a rejection. -/
def Rejects {α : Type} (x : Except PyErr α) : Prop := ∀ e, x = .error e → e.IsRejection

section Rejects

variable {α β : Type} {x : Except PyErr α} {f : α → Except PyErr β}

theorem Rejects.ok (a : α) : Rejects (.ok a : Except PyErr α) := fun _ h => by cases h

theorem Rejects.rejection (m : String) : Rejects (.error (.protocolValidation m) : Except PyErr α) := by
  intro e h
  cases h
  exact ⟨m, rfl⟩

/-- One step after another. -/
theorem rejects_bind : Rejects (x >>= f) ↔ Rejects x ∧ ∀ a, x = .ok a → Rejects (f a) := by
  cases x with
  | error e =>
    constructor
    · intro h
      exact ⟨fun e' he => h e' (by cases he; rfl), fun a ha => by cases ha⟩
    · intro h e' he
      exact h.1 e' (by cases he; rfl)
  | ok a =>
    constructor
    · intro h
      exact ⟨.ok a, fun b hb => by cases hb; exact h⟩
    · intro h
      exact h.2 a rfl

end Rejects

/-! ## Numbers -/

section Numbers

variable (text : Text) (u : Decimals)

/-- The value is a number on which the code's arithmetic raises. -/
def TooLarge (v : PyVal) : Prop := ∃ d, u.decimal (v.toStr text) = some d ∧ d.raises = true

/-- The value is a NaN that raises nothing. -/
def QuietNaN (v : PyVal) : Prop := ∃ negative payload, u.decimal (v.toStr text) = some (.nan negative false payload)

/-- The value is missing, or a number that the code can write. -/
def Writable (v : PyVal) : Prop := v = .null ∨ ∃ d, u.decimal (v.toStr text) = some d ∧ d.raises = false

/-- The value denotes a finite number. -/
def Finite (v : PyVal) : Prop := ∃ q, numberIn text u v = some (.rational q)

variable {text u} {v : PyVal}

variable (text u) in
/-- An amount is refused, raises something else, or is written. -/
theorem canonicalAmount_cases (v : PyVal) :
    (u.decimal (v.toStr text) = none ∧ ∃ m, canonicalAmount (text.withDecimals u) v = .error (.protocolValidation m)) ∨
      (TooLarge text u v ∧ ∃ e, canonicalAmount (text.withDecimals u) v = .error e ∧ ¬ e.IsRejection) ∨
      ((∃ d, u.decimal (v.toStr text) = some d ∧ d.raises = false) ∧
        ∃ c, canonicalAmount (text.withDecimals u) v = .ok c) := by
  rw [canonicalAmount_withDecimals, Decimals.read]
  cases hd : u.decimal (v.toStr text) with
  | none => exact .inl ⟨rfl, _, rfl⟩
  | some d =>
    cases hr : d.raises with
    | true =>
      obtain ⟨e, he, hne⟩ := PyDecimal.reading_raises hr
      refine .inr (.inl ⟨⟨d, hd, hr⟩, e, ?_, fun h => h.elim hne⟩)
      rw [Option.map_some, Option.getD_some, he]
    | false =>
      refine .inr (.inr ⟨⟨d, rfl, hr⟩, ?_⟩)
      rw [Option.map_some, Option.getD_some]
      rcases PyDecimal.reading_of_not_raises hr with ⟨n, hn⟩ | ⟨t, ht⟩
      · exact ⟨_, by rw [hn]⟩
      · exact ⟨_, by rw [ht]⟩

theorem rejects_canonicalAmount :
    Rejects (canonicalAmount (text.withDecimals u) v) ↔ ¬ TooLarge text u v := by
  rcases canonicalAmount_cases text u v with ⟨hnone, m, hm⟩ | ⟨hlarge, e, he, hne⟩ | ⟨⟨d, hd, hr⟩, c, hc⟩
  · rw [hm]
    refine iff_of_true (.rejection m) ?_
    rintro ⟨d, hd, -⟩
    rw [hnone] at hd
    cases hd
  · rw [he]
    exact iff_of_false (fun h => hne (h e rfl)) (fun h => h hlarge)
  · rw [hc]
    refine iff_of_true (.ok c) ?_
    rintro ⟨d', hd', hr'⟩
    rw [hd] at hd'
    cases hd'
    rw [hr] at hr'
    cases hr'

/-- A number that is written is finite unless it is a NaN. -/
theorem finite_of_canonicalAmount {c : String} (h : canonicalAmount (text.withDecimals u) v = .ok c) :
    Finite text u v ↔ ¬ QuietNaN text u v := by
  have hnull : v ≠ .null := by
    rintro rfl
    rw [canonicalAmount_withDecimals, PyVal.toStr, read_none] at h
    cases h
  obtain ⟨d, hd, hr⟩ : ∃ d, u.decimal (v.toStr text) = some d ∧ d.raises = false := by
    rcases canonicalAmount_cases text u v with ⟨-, m, hm⟩ | ⟨-, e, he, -⟩ | ⟨hd, -⟩
    · rw [hm] at h
      cases h
    · rw [he] at h
      cases h
    · exact hd
  unfold Finite QuietNaN
  rw [numberIn_of_ne_null hnull, hd, Option.map_some]
  cases d with
  | finite negative c e => exact iff_of_true ⟨_, rfl⟩ (by rintro ⟨n, p, hp⟩; cases hp)
  | infinity negative => cases hr
  | nan negative signaling payload =>
    cases signaling with
    | true => cases hr
    | false => exact iff_of_false (by rintro ⟨q, hq⟩; cases hq) (fun hn => hn ⟨negative, payload, rfl⟩)

/-- A number of the authorization is written exactly when it can be. -/
theorem numericString_ok_iff : (∃ w, numericString (text.withDecimals u) v = .ok w) ↔ Writable text u v := by
  by_cases hv : v = .null
  · subst hv
    exact iff_of_true ⟨.null, rfl⟩ (.inl rfl)
  · rw [numericString_of_ne_null hv, Decimals.read]
    cases hd : u.decimal (v.toStr text) with
    | none =>
      refine iff_of_false (by rintro ⟨w, hw⟩; cases hw) ?_
      rintro (hnull | ⟨d, hd', -⟩)
      · exact hv hnull
      · rw [hd] at hd'
        cases hd'
    | some d =>
      rw [Option.map_some, Option.getD_some]
      cases hr : d.raises with
      | true =>
        obtain ⟨e, he, -⟩ := PyDecimal.reading_raises hr
        rw [he]
        refine iff_of_false (by rintro ⟨w, hw⟩; cases hw) ?_
        rintro (hnull | ⟨d', hd', hr'⟩)
        · exact hv hnull
        · rw [hd] at hd'
          cases hd'
          rw [hr] at hr'
          cases hr'
      | false =>
        refine iff_of_true ?_ (.inr ⟨d, hd, hr⟩)
        rcases PyDecimal.reading_of_not_raises hr with ⟨n, hn⟩ | ⟨t, ht⟩
        · exact ⟨_, by rw [hn]⟩
        · exact ⟨_, by rw [ht]⟩

/-- What `_numeric_string` raises is never a rejection. -/
theorem rejects_numericString :
    Rejects (numericString (text.withDecimals u) v) ↔ ∃ w, numericString (text.withDecimals u) v = .ok w := by
  cases hx : numericString (text.withDecimals u) v with
  | ok w => exact iff_of_true (.ok w) ⟨w, rfl⟩
  | error e =>
    refine iff_of_false ?_ (by rintro ⟨w, hw⟩; cases hw)
    intro h
    obtain ⟨m, rfl⟩ := h e rfl
    have hv : v ≠ .null := by
      rintro rfl
      cases hx
    rw [numericString_of_ne_null hv, Decimals.read] at hx
    cases hd : u.decimal (v.toStr text) with
    | none =>
      rw [hd] at hx
      cases hx
    | some d =>
      rw [hd, Option.map_some, Option.getD_some] at hx
      cases hr : d.raises with
      | true =>
        obtain ⟨e, he, hne⟩ := PyDecimal.reading_raises hr
        rw [he] at hx
        exact hne m (Except.error.inj hx)
      | false =>
        rcases PyDecimal.reading_of_not_raises hr with ⟨n, hn⟩ | ⟨t, ht⟩
        · rw [hn] at hx
          cases hx
        · rw [ht] at hx
          cases hx

end Numbers

/-! ## The validator -/

section Validator

variable {text : Text} {u : Decimals} {accepted requirements : PyDict} {envelope : FacilitatorEnvelope} {field : String}

/-- Both requirements have the field, and their values are the same to the validator. -/
structure Agrees (text : Text) (accepted requirements : PyDict) (field : String) : Prop where
  inAccepted : accepted.has field = true
  inRequired : requirements.has field = true
  same : ∃ c, canonicalValue text field (accepted.get field) = .ok c ∧
    canonicalValue text field (requirements.get field) = .ok c

/-- Everything that the validator looks at is right. -/
structure Matches (text : Text) (envelope : FacilitatorEnvelope) (accepted : PyDict) : Prop where
  isAccepted : envelope.paymentPayload.get "accepted" = .dict accepted
  fields : ∀ field ∈ comparedFields, Agrees text accepted envelope.paymentRequirements field
  timeout : accepted.has "maxTimeoutSeconds" = true → envelope.paymentRequirements.has "maxTimeoutSeconds" = true →
    (accepted.get "maxTimeoutSeconds").toStr text = (envelope.paymentRequirements.get "maxTimeoutSeconds").toStr text
  version : (envelope.paymentPayload.get "x402Version").eq (.int envelope.x402Version) = true
  extra : (accepted.get "extra").eq (envelope.paymentRequirements.get "extra") = true

theorem checkField_ok_iff :
    checkField text accepted requirements field = .ok () ↔ Agrees text accepted requirements field := by
  constructor
  · intro h
    obtain ⟨ha, hr, hsame⟩ := checkField_ok h
    exact ⟨ha, hr, hsame⟩
  · rintro ⟨ha, hr, c, hc, hc'⟩
    rw [checkField, ha, hr, hc, hc']
    simp [bind, Except.bind]

theorem checkTimeout_ok_iff : checkTimeout text accepted requirements = .ok () ↔
    (accepted.has "maxTimeoutSeconds" = true → requirements.has "maxTimeoutSeconds" = true →
      (accepted.get "maxTimeoutSeconds").toStr text = (requirements.get "maxTimeoutSeconds").toStr text) := by
  unfold checkTimeout
  split
  · rename_i h
    simp only [Bool.and_eq_true, bne_iff_ne, ne_eq] at h
    exact iff_of_false (fun h => by cases h) (fun himp => h.2 (himp h.1.1 h.1.2))
  · rename_i h
    simp only [Bool.and_eq_true, bne_iff_ne, ne_eq, not_and, not_not] at h
    exact iff_of_true rfl fun ha hr => h ⟨ha, hr⟩

/-- The validator returns exactly when everything is right. -/
theorem validate_ok_iff : validateSettlementEnvelope text envelope = .ok accepted ↔ Matches text envelope accepted := by
  constructor
  · intro h
    obtain ⟨hd, hfields⟩ := validated_fields h
    rw [validateSettlementEnvelope, hd] at h
    obtain ⟨_, -, h⟩ := bind_ok.mp h
    obtain ⟨_, -, h⟩ := bind_ok.mp h
    obtain ⟨_, -, h⟩ := bind_ok.mp h
    obtain ⟨_, -, h⟩ := bind_ok.mp h
    obtain ⟨_, -, h⟩ := bind_ok.mp h
    obtain ⟨_, htimeout, h⟩ := bind_ok.mp h
    split at h
    · cases h
    rename_i hversion
    split at h
    · cases h
    rename_i hextra
    exact ⟨hd, fun field hf => ⟨(hfields field hf).1, (hfields field hf).2.1, (hfields field hf).2.2⟩,
      checkTimeout_ok_iff.mp htimeout, by simpa using hversion, by simpa using hextra⟩
  · rintro ⟨hd, hfields, htimeout, hversion, hextra⟩
    have hcheck : ∀ field ∈ comparedFields,
        checkField text accepted envelope.paymentRequirements field = .ok () :=
      fun field hf => checkField_ok_iff.mpr (hfields field hf)
    rw [validateSettlementEnvelope, hd]
    refine bind_ok.mpr ⟨(), hcheck "scheme" (by simp [comparedFields]), bind_ok.mpr ⟨(),
      hcheck "network" (by simp [comparedFields]), bind_ok.mpr ⟨(), hcheck "asset" (by simp [comparedFields]),
        bind_ok.mpr ⟨(), hcheck "amount" (by simp [comparedFields]), bind_ok.mpr ⟨(),
          hcheck "payTo" (by simp [comparedFields]), bind_ok.mpr ⟨(), checkTimeout_ok_iff.mpr htimeout, ?_⟩⟩⟩⟩⟩⟩
    rw [hversion, hextra]
    rfl

variable (text) in
theorem canonicalValue_of_ne_amount (h : field ≠ "amount") (v : PyVal) : ∃ c, canonicalValue text field v = .ok c := by
  unfold canonicalValue
  split
  · exact ⟨_, rfl⟩
  · exact ⟨_, rfl⟩
  · exact absurd rfl h
  · exact ⟨_, rfl⟩

/-- Only the amount can raise anything but a rejection. -/
theorem rejects_checkField (h : field ≠ "amount") : Rejects (checkField text accepted requirements field) := by
  unfold checkField
  split
  · exact .rejection _
  split
  · exact .rejection _
  obtain ⟨a, ha⟩ := canonicalValue_of_ne_amount text h (accepted.get field)
  obtain ⟨b, hb⟩ := canonicalValue_of_ne_amount text h (requirements.get field)
  refine rejects_bind.mpr ⟨by rw [ha]; exact .ok a, fun _ _ => rejects_bind.mpr ⟨by rw [hb]; exact .ok b, fun _ _ => ?_⟩⟩
  split
  · exact .ok _
  · exact .rejection _

/-- The amounts raise nothing but rejections. -/
def SafeAmounts (text : Text) (u : Decimals) (accepted requirements : PyDict) : Prop :=
  accepted.has "amount" = true → requirements.has "amount" = true →
    ¬ TooLarge text u (accepted.get "amount") ∧
      ((u.decimal ((accepted.get "amount").toStr text)).isSome = true → ¬ TooLarge text u (requirements.get "amount"))

theorem rejects_checkAmount : Rejects (checkField (text.withDecimals u) accepted requirements "amount") ↔
    SafeAmounts text u accepted requirements := by
  have hvalue : ∀ v, canonicalValue (text.withDecimals u) "amount" v = canonicalAmount (text.withDecimals u) v := by
    intro v
    cases v <;> rfl
  unfold checkField SafeAmounts
  by_cases ha : accepted.has "amount" = true
  · by_cases hr : requirements.has "amount" = true
    · rw [ha, hr, if_neg (by decide), if_neg (by decide), rejects_bind, hvalue, hvalue, rejects_canonicalAmount]
      simp only [true_implies]
      refine and_congr_right fun hsmall => ?_
      rcases canonicalAmount_cases text u (accepted.get "amount") with
        ⟨hnone, m, hm⟩ | ⟨hlarge, -⟩ | ⟨⟨d, hd, -⟩, c, hc⟩
      · rw [hm, hnone]
        refine iff_of_true (fun a ha => ?_) (fun h => ?_)
        · cases ha
        · cases h
      · exact absurd hlarge hsmall
      · rw [hc, hd]
        simp only [Option.isSome_some, true_implies]
        constructor
        · intro h
          exact rejects_canonicalAmount.mp (rejects_bind.mp (h c rfl)).1
        · intro h a _
          refine rejects_bind.mpr ⟨rejects_canonicalAmount.mpr h, fun b _ => ?_⟩
          split
          · exact .ok _
          · exact .rejection _
    · rw [ha, if_neg (by decide), if_pos (by simpa using hr)]
      exact iff_of_true (.rejection _) fun _ h => absurd h hr
  · rw [if_pos (by simpa using ha)]
    exact iff_of_true (.rejection _) fun h => absurd h ha

/-- The validator raises nothing but rejections exactly when the amounts that it reaches do not. -/
theorem rejects_validate : Rejects (validateSettlementEnvelope (text.withDecimals u) envelope) ↔
    ∀ accepted, envelope.paymentPayload.get "accepted" = .dict accepted →
      (∀ field ∈ ["scheme", "network", "asset"],
        Agrees (text.withDecimals u) accepted envelope.paymentRequirements field) →
      SafeAmounts text u accepted envelope.paymentRequirements := by
  cases hd : envelope.paymentPayload.get "accepted" with
  | dict accepted =>
    rw [validateSettlementEnvelope, hd]
    have hrest : ∀ a : Unit, checkField (text.withDecimals u) accepted envelope.paymentRequirements "asset" = .ok a →
        (Rejects (do
          checkField (text.withDecimals u) accepted envelope.paymentRequirements "amount"
          checkField (text.withDecimals u) accepted envelope.paymentRequirements "payTo"
          checkTimeout (text.withDecimals u) accepted envelope.paymentRequirements
          if !(envelope.paymentPayload.get "x402Version").eq (.int envelope.x402Version) then
            .error (.protocolValidation "paymentPayload.x402Version does not match x402Version")
          else if !(PyDict.get accepted "extra").eq (envelope.paymentRequirements.get "extra") then
            .error (.protocolValidation "paymentPayload.accepted.extra does not match paymentRequirements.extra")
          else .ok accepted) ↔ SafeAmounts text u accepted envelope.paymentRequirements) := by
      intro _ _
      rw [rejects_bind, rejects_checkAmount]
      refine and_iff_left_of_imp fun _ _ _ => rejects_bind.mpr ⟨rejects_checkField (by decide), fun _ _ =>
        rejects_bind.mpr ⟨?_, fun _ _ => ?_⟩⟩
      · unfold checkTimeout
        split
        · exact .rejection _
        · exact .ok _
      · split
        · exact .rejection _
        split
        · exact .rejection _
        · exact .ok _
    simp only
    rw [rejects_bind, rejects_bind, rejects_bind]
    constructor
    · rintro ⟨-, h⟩ accepted' haccepted hfields
      cases haccepted
      have hcheck : ∀ field ∈ ["scheme", "network", "asset"],
          checkField (text.withDecimals u) accepted envelope.paymentRequirements field = .ok () :=
        fun field hf => checkField_ok_iff.mpr (hfields field hf)
      exact (hrest () (hcheck "asset" (by simp))).mp
        (((h () (hcheck "scheme" (by simp))).2 () (hcheck "network" (by simp))).2 () (hcheck "asset" (by simp)))
    · intro h
      refine ⟨rejects_checkField (by decide), fun _ hscheme => ⟨rejects_checkField (by decide), fun _ hnetwork =>
        ⟨rejects_checkField (by decide), fun _ hasset => (hrest () hasset).mpr (h accepted rfl ?_)⟩⟩⟩
      intro field hf
      simp only [List.mem_cons, List.not_mem_nil, or_false] at hf
      rcases hf with rfl | rfl | rfl
      · exact checkField_ok_iff.mp hscheme
      · exact checkField_ok_iff.mp hnetwork
      · exact checkField_ok_iff.mp hasset
  | null | bool | int | float | str | list =>
    rw [validateSettlementEnvelope, hd]
    exact iff_of_true (.rejection _) fun _ h => by cases h

end Validator

/-! ## Validation and fingerprint -/

section Envelope

variable {text : Text} {u : Decimals}

theorem rejects_map {α β : Type} {x : Except PyErr α} {f : α → β} : Rejects (x.map f) ↔ Rejects x := by
  cases x with
  | error e => exact ⟨fun h e' he => h e' (by cases he; rfl), fun h e' he => h e' (by cases he; rfl)⟩
  | ok a => exact iff_of_true (.ok _) (.ok _)

/-- A payment whose amount is written raises a plain error exactly when a number of its authorization cannot be read. -/
theorem rejects_canonical {p : Payment} {amount : PyVal}
    (h : numericString (text.withDecimals u) (p.accepted.get "amount") = .ok amount) :
    Rejects (p.canonical (text.withDecimals u)) ↔ Readable (text.withDecimals u) p.auth := by
  have hread : Readable (text.withDecimals u) p.auth ↔
      (∃ w, numericString (text.withDecimals u) (p.auth.get "value") = .ok w) ∧
        (∃ w, numericString (text.withDecimals u) (p.auth.get "validAfter") = .ok w) ∧
          ∃ w, numericString (text.withDecimals u) (p.auth.get "validBefore") = .ok w := by
    simp only [Readable, List.forall_mem_cons, List.not_mem_nil, false_implies, implies_true, and_true]
  rw [Payment.canonical_eq, rejects_bind, hread]
  simp only [rejects_bind, rejects_numericString]
  constructor
  · rintro ⟨-, hrest⟩
    obtain ⟨⟨value, hvalue⟩, hrest⟩ := hrest amount h
    obtain ⟨⟨after, hafter⟩, hrest⟩ := hrest value hvalue
    exact ⟨⟨value, hvalue⟩, ⟨after, hafter⟩, (hrest after hafter).1⟩
  · rintro ⟨hvalue, hafter, hbefore⟩
    exact ⟨⟨amount, h⟩, fun _ _ => ⟨hvalue, fun _ _ => ⟨hafter, fun _ _ => ⟨hbefore, fun _ _ => .ok _⟩⟩⟩⟩

/-- No number of the envelope makes the validator or the fingerprint raise anything but a rejection, and no NaN passes. -/
structure Harmless (text : Text) (u : Decimals) (envelope : FacilitatorEnvelope) : Prop where
  amounts : ∀ accepted, envelope.paymentPayload.get "accepted" = .dict accepted →
    (∀ field ∈ ["scheme", "network", "asset"],
      Agrees (text.withDecimals u) accepted envelope.paymentRequirements field) →
    SafeAmounts text u accepted envelope.paymentRequirements
  numbers : ∀ accepted, Matches (text.withDecimals u) envelope accepted →
    ¬ QuietNaN text u (accepted.get "amount") ∧ ¬ QuietNaN text u (envelope.paymentRequirements.get "amount")
  authorization : ∀ accepted, Matches (text.withDecimals u) envelope accepted →
    ∀ key ∈ ["value", "validAfter", "validBefore"],
      Writable text u ((authorization envelope.paymentPayload).get key)

/-- **An envelope is rejected, or accepted with a finite amount and a fingerprint, exactly when** it is harmless: no
amount that is reached is infinite, signaling or too long, no accepted amount is a NaN, and every number of an accepted
payment's authorization is missing or can be written. -/
theorem rejected_or_accepted_iff (text : Text) (u : Decimals) (envelope : FacilitatorEnvelope) (provider : String) :
    (Rejects (do
        let _ ← validateSettlementEnvelope (text.withDecimals u) envelope
        settlementFingerprint (text.withDecimals u) envelope provider) ∧
      ∀ accepted, validateSettlementEnvelope (text.withDecimals u) envelope = .ok accepted →
        Finite text u (accepted.get "amount") ∧ Finite text u (envelope.paymentRequirements.get "amount")) ↔
      Harmless text u envelope := by
  have haccepted : ∀ accepted, Matches (text.withDecimals u) envelope accepted →
      (Rejects (settlementFingerprint (text.withDecimals u) envelope provider) ↔
        ∀ key ∈ ["value", "validAfter", "validBefore"],
          Writable text u ((authorization envelope.paymentPayload).get key)) ∧
      (Finite text u (accepted.get "amount") ↔ ¬ QuietNaN text u (accepted.get "amount")) ∧
      (Finite text u (envelope.paymentRequirements.get "amount") ↔
        ¬ QuietNaN text u (envelope.paymentRequirements.get "amount")) := by
    intro accepted hmatches
    obtain ⟨c, hc, hc'⟩ := (hmatches.fields "amount" (by simp [comparedFields])).same
    have hamount : canonicalAmount (text.withDecimals u) (accepted.get "amount") = .ok c := hc
    have hamount' : canonicalAmount (text.withDecimals u) (envelope.paymentRequirements.get "amount") = .ok c := hc'
    refine ⟨?_, finite_of_canonicalAmount hamount, finite_of_canonicalAmount hamount'⟩
    rw [settlementFingerprint, paymentFingerprint, rejects_map]
    have hread := rejects_canonical (p := envelope.payment provider hmatches.isAccepted)
      (numericString_of_canonicalAmount hamount)
    refine hread.trans ?_
    simp only [Readable, numericString_ok_iff]
    rfl
  rw [rejects_bind, rejects_validate]
  constructor
  · rintro ⟨⟨hamounts, hfp⟩, hfinite⟩
    refine ⟨hamounts, fun accepted hm => ?_, fun accepted hm => ?_⟩
    · obtain ⟨-, hiff, hiff'⟩ := haccepted accepted hm
      obtain ⟨hf, hf'⟩ := hfinite accepted (validate_ok_iff.mpr hm)
      exact ⟨hiff.mp hf, hiff'.mp hf'⟩
    · exact (haccepted accepted hm).1.mp (hfp accepted (validate_ok_iff.mpr hm))
  · rintro ⟨hamounts, hnumbers, hauth⟩
    refine ⟨⟨hamounts, fun accepted ha => ?_⟩, fun accepted ha => ?_⟩
    · have hm := validate_ok_iff.mp ha
      exact (haccepted accepted hm).1.mpr (hauth accepted hm)
    · have hm := validate_ok_iff.mp ha
      obtain ⟨-, hiff, hiff'⟩ := haccepted accepted hm
      exact ⟨hiff.mpr (hnumbers accepted hm).1, hiff'.mpr (hnumbers accepted hm).2⟩

theorem ok_bind {α β : Type} (a : α) (f : α → Except PyErr β) : (Except.ok a >>= f) = f a := rfl

/-- The validator raises an `OverflowError` on an infinite amount. -/
theorem validate_infinity :
    validateSettlementEnvelope (Payment.paymentText.withDecimals .ascii) (assetEnvelope "0xa1" (.str "Infinity")) =
      .error (.other "OverflowError" "cannot convert Infinity to integer") := by
  have hamount : canonicalAmount (Payment.paymentText.withDecimals .ascii) (.str "Infinity") =
      .error (.other "OverflowError" "cannot convert Infinity to integer") := by
    have hread : Decimals.ascii.read "Infinity" =
        .raises (.other "OverflowError" "cannot convert Infinity to integer") := by
      have hdecimal : Decimals.ascii.decimal "Infinity" = some (.infinity false) := by decide +kernel
      rw [Decimals.read, hdecimal]
      rfl
    rw [canonicalAmount_withDecimals, PyVal.toStr, hread]
  have hcheck : checkField (Payment.paymentText.withDecimals .ascii)
      (Payment.sampleRequirement "0xa1" (.str "Infinity")) (Payment.sampleRequirement "0xa1" (.str "Infinity"))
      "amount" = .error (.other "OverflowError" "cannot convert Infinity to integer") := by
    have hget : (Payment.sampleRequirement "0xa1" (.str "Infinity")).get "amount" = .str "Infinity" := rfl
    have hhas : (Payment.sampleRequirement "0xa1" (.str "Infinity")).has "amount" = true := rfl
    rw [checkField, hhas, hget]
    show (canonicalAmount (Payment.paymentText.withDecimals .ascii) (.str "Infinity") >>= _) = _
    rw [hamount]
    rfl
  have hscheme : ∀ field ∈ ["scheme", "network", "asset"], checkField (Payment.paymentText.withDecimals .ascii)
      (Payment.sampleRequirement "0xa1" (.str "Infinity")) (Payment.sampleRequirement "0xa1" (.str "Infinity"))
      field = .ok () := by
    intro field hf
    simp only [List.mem_cons, List.not_mem_nil, or_false] at hf
    rcases hf with rfl | rfl | rfl <;> exact checkField_self rfl rfl
  have hrequired : (assetEnvelope "0xa1" (.str "Infinity")).paymentRequirements =
      Payment.sampleRequirement "0xa1" (.str "Infinity") := rfl
  have haccepted : (assetEnvelope "0xa1" (.str "Infinity")).paymentPayload.get "accepted" =
      .dict (Payment.sampleRequirement "0xa1" (.str "Infinity")) := rfl
  rw [validateSettlementEnvelope, haccepted]
  simp only [hrequired]
  rw [hscheme "scheme" (by simp), ok_bind, hscheme "network" (by simp), ok_bind, hscheme "asset" (by simp), ok_bind,
    hcheck]
  rfl

/-- An infinite amount is neither rejected nor accepted. -/
theorem infinite_amount_raises : ¬ Rejects (do
    let _ ← validateSettlementEnvelope (Payment.paymentText.withDecimals .ascii) (assetEnvelope "0xa1" (.str "Infinity"))
    settlementFingerprint (Payment.paymentText.withDecimals .ascii) (assetEnvelope "0xa1" (.str "Infinity"))
      "circle_gateway") := by
  rw [validate_infinity]
  intro h
  obtain ⟨m, hm⟩ := h _ rfl
  cases hm

end Envelope

end HostedFacilitator
