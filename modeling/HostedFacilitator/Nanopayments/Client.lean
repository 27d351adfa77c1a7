import HostedFacilitator.Lib.Dict
import HostedFacilitator.Nanopayments.Types
import HostedFacilitator.Engine.Providers

/-!
# The client of Circle's gateway

`NanopaymentClient.settle` writes the request that goes to Circle's `/settle` (`settleRequest`), and reads the answer:
a decline becomes an exception whose class `_SETTLEMENT_ERROR_CODE_MAP` chooses by the reason (`mapSettlementError`).
The provider then turns that exception into an outcome.

The body carries the authorization and the signature as the buyer sent them, and the seller's requirement in both of
its places (`submit_faithful`).
-/

namespace HostedFacilitator
namespace Nanopayments

/-! ## The request -/

def maxTimeoutSeconds : Int := 604900

/-- `_convert_payload_for_circle`. -/
def convertPayloadForCircle (payloadDict : PyDict) : Except PyErr PyDict := do
  let inner ← (payloadDict.getOr "payload" (.dict [])).expectDict
  let authorization ← (inner.getOr "authorization" (.dict [])).expectDict
  let field (key : String) : String × PyVal := (key, authorization.get key)
  let circlePayload : PyDict :=
    [("authorization", .dict [field "from", field "to", field "value", field "validAfter", field "validBefore",
        field "nonce"]),
      ("signature", inner.get "signature")]
  let kept (key : String) : PyDict := (payloadDict.lookup key).toList.map fun v => (key, v)
  .ok ([("x402Version", payloadDict.getOr "x402Version" (.int 2)), ("payload", .dict circlePayload)] ++
    kept "accepted" ++ kept "resource" ++ kept "scheme" ++ kept "network")

/-- One kind of `_convert_requirements_for_circle`. -/
def convertKind (kind : PyDict) : PyDict :=
  let extra := kind.getOr "extra" (.dict [])
  [("scheme", kind.getOr "scheme" (.str "exact")), ("network", kind.getOr "network" (.str "")),
      ("asset", kind.getOr "asset" (.str "")), ("amount", kind.getOr "amount" (.str "")),
      ("payTo", kind.getOr "payTo" (.str "")),
      ("maxTimeoutSeconds", kind.getOr "maxTimeoutSeconds" (.int maxTimeoutSeconds))] ++
    (if extra.truthy then [("extra", extra)] else [])

/-- `_convert_requirements_for_circle`. -/
def convertRequirementsForCircle (reqDict : PyDict) : Except PyErr PyDict :=
  let accepts := reqDict.getOr "accepts" (.list [])
  if !accepts.truthy then .ok reqDict
  else match accepts with
    | .list kinds => do
      let kinds ← kinds.mapM PyVal.expectDict
      .ok
        [("x402Version", reqDict.getOr "x402Version" (.int 2)),
          ("accepts", .list (kinds.map fun k => .dict (convertKind k)))]
    | _ => .error (.other "AttributeError" "object has no attribute 'get'")

/-- What `settle` hands to `http.post`: the body, and the idempotency key where there is one. -/
structure SettleRequest where
  body : PyDict
  idempotencyKey : PyVal

/-- `settle`, up to the post. -/
def settleRequest (payload : PaymentPayload) (requirements : PaymentRequirements) : Except PyErr SettleRequest := do
  let reqDict := requirements.toDict
  let circlePayload ← convertPayloadForCircle payload.toDict
  let circleAccepted ← convertRequirementsForCircle reqDict
  let first := match circleAccepted.get "accepts" with
    | .list (kind :: _) => some kind
    | _ => none
  let circlePayload := match first with
    | some kind => Dict.set circlePayload "accepted" kind
    | none => circlePayload
  let nonce := payload.payload.authorization.nonce
  .ok
    { body := [("paymentPayload", .dict circlePayload), ("paymentRequirements", first.getD (.dict reqDict))]
      idempotencyKey := if nonce.truthy then nonce else .null }

theorem lookup_eq_get (d : PyDict) (key : String) : d.lookup key = Dict.get d key := by
  induction d with
  | nil => rfl
  | cons e d ih =>
    obtain ⟨k, v⟩ := e
    by_cases h : key = k
    · subst h
      simp [Dict.get, Table.row]
    · have hne : (key == k) = false := by simpa using h
      have hne' : ¬ k = key := fun hk => h hk.symm
      rw [List.lookup_cons, hne, ih]
      simp [Dict.get, Table.row, hne']

theorem get_set (d : PyDict) (key key' : String) (v : PyVal) :
    PyDict.get (Dict.set d key v) key' = if key' = key then v else PyDict.get d key' := by
  rw [PyDict.get, PyDict.get, lookup_eq_get, lookup_eq_get, Dict.get_set]
  split <;> rfl

/-- What `_convert_payload_for_circle` makes of a payload. -/
theorem convertPayloadForCircle_toDict (p : PaymentPayload) :
    ∃ d, convertPayloadForCircle p.toDict = .ok d ∧
      PyDict.get d "payload" = .dict
        [("authorization", .dict p.payload.authorization.toDict), ("signature", p.payload.signature)] := by
  obtain ⟨version, scheme, network, payload, resource, accepted⟩ := p
  cases resource <;> cases accepted <;> exact ⟨_, rfl, rfl⟩

/-- What `_convert_requirements_for_circle` makes of a requirement has its fields. -/
theorem get_convertKind (k : PaymentRequirementsKind) {field : String} (h : field ∈ comparedFields) :
    PyDict.get (convertKind k.toDict) field = PyDict.get k.toDict field := by
  simp only [comparedFields, List.mem_cons, List.not_mem_nil, or_false] at h
  rcases h with rfl | rfl | rfl | rfl | rfl <;> rfl

/-- The request for one requirement carries it twice. -/
theorem settleRequest_ok (p : PaymentPayload) (version : PyVal) (k : PaymentRequirementsKind) :
    ∃ (request : SettleRequest) (payload : PyDict), settleRequest p ⟨version, [k]⟩ = .ok request ∧
      request.body = [("paymentPayload", .dict payload), ("paymentRequirements", .dict (convertKind k.toDict))] ∧
      payload.get "payload" = .dict
        [("authorization", .dict p.payload.authorization.toDict), ("signature", p.payload.signature)] ∧
      payload.get "accepted" = .dict (convertKind k.toDict) ∧
      request.idempotencyKey =
        if p.payload.authorization.nonce.truthy then p.payload.authorization.nonce else .null := by
  obtain ⟨d, hd, hpayload⟩ := convertPayloadForCircle_toDict p
  refine ⟨_, Dict.set d "accepted" (.dict (convertKind k.toDict)),
    bind_ok.mpr ⟨d, hd, bind_ok.mpr ⟨_, rfl, rfl⟩⟩, rfl, ?_, ?_, rfl⟩
  · rw [get_set]
    exact hpayload
  · rw [get_set]
    rfl

end Nanopayments

namespace HostedCircleGatewayProvider

open Nanopayments

/-- `_gateway_requirement_kind`. -/
def gatewayRequirementKind (u : Decimals) (requirements : PyDict) : Except PyErr PaymentRequirementsKind :=
  if !isGatewayKind requirements then
    .error (.protocolValidation "Circle Gateway payments require paymentRequirements.extra.name=GatewayWalletBatched")
  else match PaymentRequirementsKind.fromDict u requirements with
    | .ok kind => .ok kind
    | .error _ => .error (.protocolValidation "Invalid Circle Gateway paymentRequirements")

/-- `_gateway_payment_payload`. -/
def gatewayPaymentPayload (u : Decimals) (envelope : FacilitatorEnvelope) : Except PyErr PaymentPayload :=
  match PaymentPayload.fromDict u envelope.paymentPayload with
  | .ok payload => .ok payload
  | .error _ => .error (.protocolValidation "Invalid Circle Gateway paymentPayload")

/-- `_circle_payment_objects`. -/
def circlePaymentObjects (u : Decimals) (envelope : FacilitatorEnvelope) :
    Except PyErr (PaymentPayload × PaymentRequirements) := do
  let requirement ← gatewayRequirementKind u envelope.paymentRequirements
  let payload ← gatewayPaymentPayload u envelope
  let payload := { payload with accepted := payload.accepted.or (some requirement) }
  .ok (payload, { x402Version := .int envelope.x402Version, accepts := [requirement] })

/-- The request that the provider's `settle` makes the client post. -/
def submit (u : Decimals) (envelope : FacilitatorEnvelope) : Except PyErr SettleRequest := do
  let (payload, requirements) ← circlePaymentObjects u envelope
  settleRequest payload requirements

/-! ## What is posted -/

section Posted

variable {u : Decimals} {text : Text} {networks : List String} {envelope : FacilitatorEnvelope}

/-- What the provider makes the client post for an envelope: the payload with the authorization and the signature that
were read from it, the requirement in two places, and the nonce as the key. -/
structure Submission (envelope : FacilitatorEnvelope) (inner auth payload requirement : PyDict)
    (request : SettleRequest) : Prop where
  readInner : envelope.paymentPayload.getOr "payload" (.dict []) = .dict inner
  readAuth : inner.getOr "authorization" (.dict []) = .dict auth
  body : request.body = [("paymentPayload", .dict payload), ("paymentRequirements", .dict requirement)]
  signed : payload.get "payload" = .dict
    [("authorization", .dict (EIP3009Authorization.fromDict auth).toDict),
      ("signature", inner.getOr "signature" (.str ""))]
  accepted : payload.get "accepted" = .dict requirement
  fields : ∀ field ∈ comparedFields, requirement.get field = envelope.paymentRequirements.getOr field (.str "")
  key : request.idempotencyKey =
    if (auth.getOr "nonce" (.str "")).truthy then auth.getOr "nonce" (.str "") else .null

theorem minValidity_ok {v : PyVal} (h : ∀ b, v ≠ .float (.infinity b)) : ∃ n, minValidity u v = .ok n := by
  cases v with
  | null => exact ⟨none, rfl⟩
  | bool b => exact ⟨_, rfl⟩
  | int n => exact ⟨_, rfl⟩
  | float f =>
    cases f with
    | finite repr q => exact ⟨_, rfl⟩
    | infinity b => exact absurd rfl (h b)
    | nan => exact ⟨_, rfl⟩
  | str s =>
    simp only [minValidity, PyVal.toInt]
    cases u.ofText 10 s with
    | none => exact ⟨_, rfl⟩
    | some n => exact ⟨_, rfl⟩
  | list xs => exact ⟨_, rfl⟩
  | dict d => exact ⟨_, rfl⟩

/-- A requirement that the provider accepts is read field by field. -/
theorem kindFromDict_ok {d : PyDict} (h : requirementsKindRaises d = false) :
    ∃ kind, PaymentRequirementsKind.fromDict u d = .ok kind ∧
      ∀ field ∈ comparedFields, PyDict.get kind.toDict field = d.getOr field (.str "") := by
  have hextra : ∃ extra, d.getOr "extra" (.dict []) = .dict extra ∧
      ∀ b, PyDict.get extra "minValiditySeconds" ≠ .float (.infinity b) := by
    unfold requirementsKindRaises at h
    split at h
    · rename_i hnone
      exact ⟨[], by simp [PyDict.getOr, hnone], by simp [PyDict.get]⟩
    · rename_i extra hsome
      refine ⟨extra, by simp [PyDict.getOr, hsome], ?_⟩
      intro b hb
      rw [hb] at h
      cases h
    · cases h
  obtain ⟨extra, hd, hfinite⟩ := hextra
  obtain ⟨n, hn⟩ := minValidity_ok (u := u) hfinite
  refine ⟨_, bind_ok.mpr ⟨extra, by rw [hd]; rfl, bind_ok.mpr ⟨_, bind_ok.mpr ⟨n, hn, rfl⟩, rfl⟩⟩, ?_⟩
  intro field hfield
  simp only [comparedFields, List.mem_cons, List.not_mem_nil, or_false] at hfield
  rcases hfield with rfl | rfl | rfl | rfl | rfl <;> rfl

theorem optionally_ok {α : Type} {read : PyDict → Except PyErr α} {v : PyVal}
    (hdict : v.truthy = true → ∃ d x, v = .dict d ∧ read d = .ok x) : ∃ x, optionally read v = .ok x := by
  unfold optionally
  split
  · rename_i ht
    obtain ⟨d, x, rfl, hx⟩ := hdict ht
    exact ⟨some x, bind_ok.mpr ⟨d, rfl, bind_ok.mpr ⟨x, hx, rfl⟩⟩⟩
  · exact ⟨none, rfl⟩

/-- A payload that the provider accepts is read with its signature and its authorization. -/
theorem payloadFromDict_ok {d : PyDict} (h : paymentPayloadRaises d = false) :
    ∃ (payload : PaymentPayload) (inner auth : PyDict), PaymentPayload.fromDict u d = .ok payload ∧
      d.getOr "payload" (.dict []) = .dict inner ∧ inner.getOr "authorization" (.dict []) = .dict auth ∧
      payload.payload = ⟨inner.getOr "signature" (.str ""), EIP3009Authorization.fromDict auth⟩ := by
  simp only [paymentPayloadRaises, Bool.or_eq_false_iff] at h
  obtain ⟨⟨hresource, haccepted⟩, hpayload⟩ := h
  obtain ⟨resource, hr⟩ : ∃ x, optionally (fun d => .ok (ResourceInfo.fromDict d)) (d.get "resource") = .ok x := by
    apply optionally_ok
    intro ht
    rw [ht, Bool.true_and, Option.isNone_eq_false_iff] at hresource
    obtain ⟨d', hd'⟩ := Option.isSome_iff_exists.mp hresource
    exact ⟨d', _, PyVal.asDict_eq_some hd', rfl⟩
  obtain ⟨accepted, ha⟩ : ∃ x, optionally (PaymentRequirementsKind.fromDict u) (d.get "accepted") = .ok x := by
    apply optionally_ok
    intro ht
    rw [ht, Bool.true_and] at haccepted
    cases hd : (d.get "accepted").asDict with
    | none =>
      rw [hd] at haccepted
      cases haccepted
    | some d' =>
      rw [hd] at haccepted
      obtain ⟨kind, hkind, -⟩ := kindFromDict_ok (u := u) haccepted
      exact ⟨d', kind, PyVal.asDict_eq_some hd, hkind⟩
  have hread : ∃ inner auth : PyDict, d.getOr "payload" (.dict []) = .dict inner ∧
      inner.getOr "authorization" (.dict []) = .dict auth := by
    unfold payloadInnerRaises at hpayload
    split at hpayload
    · rename_i hnone
      exact ⟨[], [], by simp [PyDict.getOr, hnone], rfl⟩
    · rename_i inner hsome
      split at hpayload
      · rename_i hnone
        exact ⟨inner, [], by simp [PyDict.getOr, hsome], by simp [PyDict.getOr, hnone]⟩
      · rename_i auth hauth
        exact ⟨inner, auth, by simp [PyDict.getOr, hsome], by simp [PyDict.getOr, hauth]⟩
      · cases hpayload
    · cases hpayload
  obtain ⟨inner, auth, hinner, hauth⟩ := hread
  have hread : PaymentPayloadInner.fromDict inner =
      .ok ⟨inner.getOr "signature" (.str ""), EIP3009Authorization.fromDict auth⟩ :=
    bind_ok.mpr ⟨auth, by rw [hauth]; rfl, rfl⟩
  exact ⟨_, inner, auth, bind_ok.mpr ⟨resource, hr, bind_ok.mpr ⟨accepted, ha, bind_ok.mpr ⟨inner, by rw [hinner]; rfl,
    bind_ok.mpr ⟨_, hread, rfl⟩⟩⟩⟩, hinner, hauth, rfl⟩

/-- What `validate_envelope` has made sure of. -/
theorem validateEnvelope_ok (h : validateEnvelope networks envelope = .ok ()) :
    isGatewayKind envelope.paymentRequirements = true ∧ requirementsKindRaises envelope.paymentRequirements = false ∧
      paymentPayloadRaises envelope.paymentPayload = false := by
  unfold validateEnvelope at h
  simp only at h
  split at h
  · cases h
  rename_i hkind
  split at h
  · cases h
  rename_i hrequirements
  split at h
  · cases h
  split at h
  · cases h
  rename_i hpayload
  exact ⟨by simpa using hkind, by simpa using hrequirements, by simpa using hpayload⟩

/-- Every envelope that the provider accepts is submitted. -/
theorem submit_ok (h : validateEnvelope networks envelope = .ok ()) :
    ∃ request inner auth payload requirement, submit u envelope = .ok request ∧
      Submission envelope inner auth payload requirement request := by
  obtain ⟨hgateway, hrequirements, hpayload⟩ := validateEnvelope_ok h
  obtain ⟨kind, hkind, hfields⟩ := kindFromDict_ok (u := u) hrequirements
  obtain ⟨p, inner, auth, hp, hinner, hauth, hread⟩ := payloadFromDict_ok (u := u) hpayload
  obtain ⟨request, payload, hrequest, hbody, hsigned, haccepted, hkey⟩ :=
    settleRequest_ok { p with accepted := p.accepted.or (some kind) } (.int envelope.x402Version) kind
  have hobjects : circlePaymentObjects u envelope = .ok ({ p with accepted := p.accepted.or (some kind) },
      { x402Version := .int envelope.x402Version, accepts := [kind] }) := by
    refine bind_ok.mpr ⟨kind, ?_, bind_ok.mpr ⟨p, ?_, rfl⟩⟩
    · rw [gatewayRequirementKind, hgateway, hkind]
      rfl
    · rw [gatewayPaymentPayload, hp]
  rw [hread] at hsigned hkey
  exact ⟨request, inner, auth, payload, _, bind_ok.mpr ⟨_, hobjects, hrequest⟩,
    ⟨hinner, hauth, hbody, hsigned, haccepted, fun field hf => (get_convertKind kind hf).trans (hfields field hf), hkey⟩⟩

/-- The fields of an authorization. -/
def authorizationFields : List String := ["from", "to", "value", "validAfter", "validBefore", "nonce"]

/-- The envelope carries a signature and a complete authorization. -/
structure Signed (envelope : FacilitatorEnvelope) (inner auth : PyDict) : Prop where
  payload : envelope.paymentPayload.get "payload" = .dict inner
  signature : inner.has "signature" = true
  authorization : inner.get "authorization" = .dict auth
  fields : ∀ field ∈ authorizationFields, auth.has field = true

theorem getOr_of_get_dict {d d' : PyDict} {key : String} (h : d.get key = .dict d') (default : PyVal) :
    d.getOr key default = .dict d' := by
  unfold PyDict.get at h
  unfold PyDict.getOr
  cases hl : d.lookup key with
  | none =>
    rw [hl] at h
    cases h
  | some v =>
    rw [hl] at h
    exact h

/-- A complete authorization is written as it was read. -/
theorem toDict_fromDict {auth : PyDict} (h : ∀ field ∈ authorizationFields, auth.has field = true) :
    (EIP3009Authorization.fromDict auth).toDict = authorizationFields.map fun field => (field, auth.get field) := by
  have hget : ∀ field ∈ authorizationFields, ∀ default, auth.getOr field default = auth.get field :=
    fun field hf default => PyDict.getOr_of_has (h field hf) default
  simp only [authorizationFields, List.mem_cons, List.not_mem_nil, or_false] at hget
  simp only [EIP3009Authorization.fromDict, EIP3009Authorization.toDict, authorizationFields, List.map_cons,
    List.map_nil, hget "from" (by simp), hget "to" (by simp), hget "value" (by simp), hget "validAfter" (by simp),
    hget "validBefore" (by simp), hget "nonce" (by simp)]

/-- **Faithful re-encoding.** What is posted for a signed envelope is its authorization and its signature, and the
seller's requirement in both places; the nonce is the key. And a payload is read back as it was written. -/
theorem submit_faithful (u : Decimals) (text : Text) (networks : List String) :
    (∀ (envelope : FacilitatorEnvelope) (accepted inner auth : PyDict),
      validateSettlementEnvelope text envelope = .ok accepted → validateEnvelope networks envelope = .ok () →
      Signed envelope inner auth →
      ∃ (request : SettleRequest) (payload requirement : PyDict), submit u envelope = .ok request ∧
        request.body = [("paymentPayload", .dict payload), ("paymentRequirements", .dict requirement)] ∧
        payload.get "payload" = .dict
          [("authorization", .dict (authorizationFields.map fun field => (field, auth.get field))),
            ("signature", inner.get "signature")] ∧
        payload.get "accepted" = .dict requirement ∧
        (∀ field ∈ comparedFields, requirement.get field = envelope.paymentRequirements.get field) ∧
        ((auth.get "nonce").truthy = true → request.idempotencyKey = auth.get "nonce")) ∧
    ∀ p : PaymentPayload, PaymentPayload.fromDict u p.toDict = .ok p := by
  refine ⟨?_, PaymentPayload.fromDict_toDict⟩
  intro envelope accepted inner auth hvalid hgateway hsigned
  obtain ⟨request, inner', auth', payload, requirement, hsubmit, hs⟩ := submit_ok (u := u) hgateway
  have hinner : inner' = inner := by
    have := hs.readInner
    rw [getOr_of_get_dict hsigned.payload] at this
    exact (PyVal.dict.inj this).symm
  subst hinner
  have hauth : auth' = auth := by
    have := hs.readAuth
    rw [getOr_of_get_dict hsigned.authorization] at this
    exact (PyVal.dict.inj this).symm
  subst hauth
  refine ⟨request, payload, requirement, hsubmit, hs.body, ?_, hs.accepted, ?_, ?_⟩
  · rw [hs.signed, toDict_fromDict hsigned.fields, PyDict.getOr_of_has hsigned.signature]
  · intro field hf
    rw [hs.fields field hf]
    exact PyDict.getOr_of_has ((validated_fields hvalid).2 field hf).2.1 _
  · intro hnonce
    have hget := PyDict.getOr_of_has (hsigned.fields "nonce" (by simp [authorizationFields])) (.str "")
    rw [hs.key, hget, if_pos hnonce]

/-- The sample payment is posted as it was signed. -/
theorem submit_sample :
    ∃ (request : SettleRequest) (payload requirement : PyDict),
      submit .ascii (sampleEnvelope (some "eip155:5042002") (some "eip155:5042002")).toFacilitatorEnvelope = .ok request ∧
        request.body = [("paymentPayload", .dict payload), ("paymentRequirements", .dict requirement)] ∧
        payload.get "payload" = .dict
          [("authorization", .dict
              [("from", .str "0xa1"), ("to", .str "0xb0"), ("value", .str "1000"), ("validAfter", .str "0"),
                ("validBefore", .str "1893456000"), ("nonce", .str "0x01")]),
            ("signature", .str "0x02")] ∧
        payload.get "accepted" = .dict requirement ∧ request.idempotencyKey = .str "0x01" := by
  obtain ⟨request, payload, requirement, hsubmit, hbody, hpayload, haccepted, -, hkey⟩ :=
    (submit_faithful .ascii networkText []).1
      (sampleEnvelope (some "eip155:5042002") (some "eip155:5042002")).toFacilitatorEnvelope _ _ _ rfl rfl
      ⟨rfl, rfl, rfl, by decide⟩
  exact ⟨request, payload, requirement, hsubmit, hbody, hpayload, haccepted, hkey rfl⟩

end Posted

end HostedCircleGatewayProvider

end HostedFacilitator
