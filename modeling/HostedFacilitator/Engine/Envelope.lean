import HostedFacilitator.Engine.Answer

/-!
# Envelopes: validation and fingerprint

`validation.py` compares the requirement a buyer accepted (`paymentPayload.accepted`) with the requirement the seller
sends (`paymentRequirements`), field by field, through `str()`. `fingerprint.py` hashes the accepted one. The two
requirements may therefore differ in a value and still pass, as long as the texts are equal (`fields_agree`).
-/

namespace HostedFacilitator

structure FacilitatorEnvelope where
  x402Version : Int
  paymentPayload : PyDict
  paymentRequirements : PyDict

/-! ## `validation.py` -/

section Validation

variable (text : Text)

/-- `_canonical_amount`. -/
def canonicalAmount (v : PyVal) : Except PyErr String :=
  match text.decimal (v.toStr text) with
  | .invalid => .error (.protocolValidation ("Invalid payment amount: " ++ text.repr v))
  | .integral n => .ok (toString n)
  | .fractional plain => .ok plain
  | .raises e => .error e

/-- `_canonical_value`. -/
def canonicalValue (field : String) (v : PyVal) : Except PyErr String :=
  match field, v with
  | "asset", .str s | "payTo", .str s => .ok (text.lower s)
  | "amount", v => canonicalAmount text v
  | _, v => .ok (v.toStr text)

/-- One round of the loop over the compared fields. -/
def checkField (accepted requirements : PyDict) (field : String) : Except PyErr Unit :=
  if !accepted.has field then
    .error (.protocolValidation ("paymentPayload.accepted." ++ field ++ " is required"))
  else if !requirements.has field then
    .error (.protocolValidation ("paymentRequirements." ++ field ++ " is required"))
  else do
    let a ← canonicalValue text field (accepted.get field)
    let b ← canonicalValue text field (requirements.get field)
    if a = b then .ok ()
    else .error (.protocolValidation
      ("paymentPayload.accepted." ++ field ++ " does not match paymentRequirements." ++ field))

/-- The two time limits are compared only when both are there. -/
def checkTimeout (accepted requirements : PyDict) : Except PyErr Unit :=
  if accepted.has "maxTimeoutSeconds" && requirements.has "maxTimeoutSeconds" &&
      (accepted.get "maxTimeoutSeconds").toStr text != (requirements.get "maxTimeoutSeconds").toStr text then
    .error (.protocolValidation ("paymentPayload.accepted.maxTimeoutSeconds does not match " ++
      "paymentRequirements.maxTimeoutSeconds"))
  else .ok ()

/-- `validate_settlement_envelope`. -/
def validateSettlementEnvelope (envelope : FacilitatorEnvelope) : Except PyErr PyDict :=
  match envelope.paymentPayload.get "accepted" with
  | .dict accepted => do
    let requirements := envelope.paymentRequirements
    checkField text accepted requirements "scheme"
    checkField text accepted requirements "network"
    checkField text accepted requirements "asset"
    checkField text accepted requirements "amount"
    checkField text accepted requirements "payTo"
    checkTimeout text accepted requirements
    if !(envelope.paymentPayload.get "x402Version").eq (.int envelope.x402Version) then
      .error (.protocolValidation "paymentPayload.x402Version does not match x402Version")
    else if !(PyDict.get accepted "extra").eq (requirements.get "extra") then
      .error (.protocolValidation "paymentPayload.accepted.extra does not match paymentRequirements.extra")
    else .ok accepted
  | _ => .error (.protocolValidation "paymentPayload.accepted is required")

end Validation

/-! ## `fingerprint.py` -/

section Fingerprint

variable (text : Text)

/-- `_authorization`. -/
def authorization (paymentPayload : PyDict) : PyDict :=
  match (paymentPayload.get "payload").asDict.bind fun payload => (PyDict.get payload "authorization").asDict with
  | some a => a
  | none => (paymentPayload.get "authorization").asDict.getD []

/-- `_lower_hex`, which is also `_lower`. -/
def lowerHex : PyVal → PyVal
  | .str s => if (text.lower s).toList.take 2 = ['0', 'x'] then .str (text.lower s) else .str s
  | v => v

/-- `_numeric_string`. -/
def numericString : PyVal → Except PyErr PyVal
  | .null => .ok .null
  | v =>
    match text.decimal (v.toStr text) with
    | .invalid => .error (.value ("Invalid numeric fingerprint field: " ++ text.repr v))
    | .integral n => .ok (.str (toString n))
    | .fractional plain => .ok (.str plain)
    | .raises e => .error e

/-- The dictionary that is hashed. -/
def canonicalPayment (paymentPayload paymentRequirements : PyDict) (provider : String) (x402Version : Int) :
    Except PyErr PyDict := do
  let auth := authorization paymentPayload
  let payable := (paymentPayload.get "accepted").asDict.getD paymentRequirements
  let amount ← numericString text (payable.get "amount")
  let value ← numericString text (PyDict.get auth "value")
  let validAfter ← numericString text (PyDict.get auth "validAfter")
  let validBefore ← numericString text (PyDict.get auth "validBefore")
  .ok
    [("x402Version", .int x402Version),
      ("provider", .str provider),
      ("scheme", payable.get "scheme"),
      ("network", payable.get "network"),
      ("asset", lowerHex text (payable.get "asset")),
      ("amount", amount),
      ("payTo", lowerHex text (payable.get "payTo")),
      ("payer", lowerHex text (PyDict.get auth "from")),
      ("authorizationTo", lowerHex text (PyDict.get auth "to")),
      ("authorizationValue", value),
      ("authorizationNonce", lowerHex text (PyDict.get auth "nonce")),
      ("validAfter", validAfter),
      ("validBefore", validBefore)]

/-- `payment_fingerprint`. -/
def paymentFingerprint (paymentPayload paymentRequirements : PyDict) (provider : String) (x402Version : Int) :
    Except PyErr String :=
  (canonicalPayment text paymentPayload paymentRequirements provider x402Version).map fun canonical =>
    text.sha256 (text.jsonDumps (.dict canonical))

/-- `_settlement_fingerprint`. -/
def settlementFingerprint (envelope : FacilitatorEnvelope) (providerName : String) : Except PyErr String :=
  paymentFingerprint text envelope.paymentPayload envelope.paymentRequirements providerName envelope.x402Version

/-- `_payer_from_payment_payload`. -/
def payerFromPaymentPayload (paymentPayload : PyDict) : Option String :=
  let nested := (paymentPayload.get "payload").asDict.bind fun payload => (PyDict.get payload "authorization").asDict
  match nested.or (paymentPayload.get "authorization").asDict with
  | some a => (PyDict.get a "from").asStr.filter (· ≠ "")
  | none => none

end Fingerprint

/-! ## What a valid envelope says -/

section Facts

variable {text : Text} {accepted requirements : PyDict} {envelope : FacilitatorEnvelope}

theorem checkField_ok {field : String} {u : Unit} (h : checkField text accepted requirements field = .ok u) :
    accepted.has field = true ∧ requirements.has field = true ∧
      ∃ c, canonicalValue text field (accepted.get field) = .ok c ∧
        canonicalValue text field (requirements.get field) = .ok c := by
  unfold checkField at h
  split at h
  · cases h
  rename_i hhas
  split at h
  · cases h
  rename_i hhas'
  obtain ⟨a, ha, h⟩ := bind_ok.mp h
  obtain ⟨b, hb, h⟩ := bind_ok.mp h
  split at h
  · rename_i hab
    exact ⟨by simpa using hhas, by simpa using hhas', a, ha, hab ▸ hb⟩
  · cases h

/-- The fields that the validator compares. -/
def comparedFields : List String := ["scheme", "network", "asset", "amount", "payTo"]

/-- What a valid envelope says: both requirements have the compared fields, with the same canonical values. -/
theorem validated_fields (h : validateSettlementEnvelope text envelope = .ok accepted) :
    envelope.paymentPayload.get "accepted" = .dict accepted ∧
      ∀ field ∈ comparedFields, accepted.has field = true ∧ envelope.paymentRequirements.has field = true ∧
        ∃ c, canonicalValue text field (accepted.get field) = .ok c ∧
          canonicalValue text field (envelope.paymentRequirements.get field) = .ok c := by
  unfold validateSettlementEnvelope at h
  split at h
  · rename_i d hd
    obtain ⟨_, hscheme, h⟩ := bind_ok.mp h
    obtain ⟨_, hnetwork, h⟩ := bind_ok.mp h
    obtain ⟨_, hasset, h⟩ := bind_ok.mp h
    obtain ⟨_, hamount, h⟩ := bind_ok.mp h
    obtain ⟨_, hpayTo, h⟩ := bind_ok.mp h
    obtain ⟨_, -, h⟩ := bind_ok.mp h
    have hacc : d = accepted := by
      split at h
      · cases h
      split at h
      · cases h
      exact Except.ok.inj h
    subst hacc
    refine ⟨hd, ?_⟩
    intro field hfield
    simp only [comparedFields, List.mem_cons, List.not_mem_nil, or_false] at hfield
    rcases hfield with rfl | rfl | rfl | rfl | rfl
    · exact checkField_ok hscheme
    · exact checkField_ok hnetwork
    · exact checkField_ok hasset
    · exact checkField_ok hamount
    · exact checkField_ok hpayTo
  · cases h

/-- The accepted scheme and network and the required ones have the same texts. -/
theorem fields_agree (h : validateSettlementEnvelope text envelope = .ok accepted) :
    envelope.paymentPayload.get "accepted" = .dict accepted ∧
      (accepted.get "scheme").toStr text = (envelope.paymentRequirements.get "scheme").toStr text ∧
      (accepted.get "network").toStr text = (envelope.paymentRequirements.get "network").toStr text := by
  obtain ⟨hd, hfields⟩ := validated_fields h
  obtain ⟨-, -, c, hc, hc'⟩ := hfields "scheme" (by simp [comparedFields])
  obtain ⟨-, -, c', hn, hn'⟩ := hfields "network" (by simp [comparedFields])
  exact ⟨hd, Except.ok.inj (hc.trans hc'.symm), Except.ok.inj (hn.trans hn'.symm)⟩

end Facts

end HostedFacilitator
