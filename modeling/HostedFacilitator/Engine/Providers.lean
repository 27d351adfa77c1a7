import Mathlib.Data.List.Infix
import HostedFacilitator.Engine.Router

/-!
# The two providers

`exact_evm.py` and `circle_gateway.py`: which requests a provider takes, and how its `settle` turns what the other
side says into a `SettleOutcome`. What the other side says is arbitrary: any JSON value, or an exception. The Circle
provider does not believe a success without a transaction (`HostedCircleGatewayProvider.settle_proven`); the exact one
does (`HostedExactProvider.settle_proven` has a condition).
-/

namespace HostedFacilitator

/-- The constructor of `SettleOutcome`: a field that is not a string or null is a validation error. -/
def settleOutcome (success : Bool) (transaction network payer errorReason : PyVal)
    (status : ProviderSettlementStatus) : ProviderResult :=
  match transaction.asOptStr, network.asOptStr, payer.asOptStr, errorReason.asOptStr with
  | some t, some n, some p, some e =>
    .returned { success := success, transaction := t, network := n, payer := p, errorReason := e,
                settlementStatus := some status }
  | _, _, _, _ => .raised

theorem settleOutcome_returned {success : Bool} {t n p e : PyVal} {status : ProviderSettlementStatus}
    {o : SettleOutcome} (h : settleOutcome success t n p e status = .returned o) :
    t.asOptStr = some o.transaction ∧ providerStatus o = status := by
  unfold settleOutcome at h
  split at h
  · rename_i t' n' p' e' ht hn hp he
    cases h
    exact ⟨ht, rfl⟩
  · cases h

/-- A settled outcome has a transaction. -/
def ProviderResult.Proven (result : ProviderResult) : Prop :=
  ∀ o, result = .returned o → providerStatus o = .settled → truthyStr o.transaction = true

/-- `_safe_nonempty_string`. -/
def safeNonemptyString (v : PyVal) : Bool := v.asStr.any fun s => strip s != ""

theorem truthyStr_of_safeNonemptyString {v : PyVal} {t : Option String} (h : safeNonemptyString v = true)
    (ht : v.asOptStr = some t) : truthyStr t = true := by
  cases v with
  | str s =>
    cases ht
    rw [truthyStr_some]
    rintro rfl
    revert h
    decide
  | null | bool | int | float | list | dict => cases h

/-! ## `exact_evm.py` -/

namespace HostedExactProvider

/-- `matches`. -/
def matchesKind (networks : List String) (scheme network : PyVal) (extra : PyDict) : Bool :=
  if (extra.get "name").asStr = some "GatewayWalletBatched" then false
  else scheme.asStr = some "exact" && (networks.isEmpty || network.isIn networks)

/-- The provider. Its `validate_envelope` and its preflight are those of the `x402` models and of the signer guard. -/
def provider (networks : List String) (validate : FacilitatorEnvelope → Except PyErr Unit)
    (preflight : FacilitatorEnvelope → RequestContext → Except PyErr Unit) : Provider where
  name := "exact_evm"
  matchesKind := some (matchesKind networks)
  supportedNetworks := networks
  validateEnvelope := validate
  preflightSettlement := preflight

/-- What comes of `facilitator.settle`: the call times out, raises, or returns a value. -/
inductive Reply where
  | timedOut
  | raised
  | returned (data : PyVal)

/-- The markers of `_settlement_status_for_failure`. -/
def ambiguousMarkers : List String :=
  ["timeout", "timed out", "rpc", "network", "transport", "connection", "unavailable", "unknown", "provider", "node",
    "rate limit", "malformed"]

/-- `_settlement_status_for_failure`; `none` stands for the `AttributeError` of a reason that is no string. -/
def settlementStatusForFailure (text : Text) (errorReason : PyVal) : Option ProviderSettlementStatus :=
  if !errorReason.truthy then some .unknown
  else errorReason.asStr.map fun s =>
    if ambiguousMarkers.any fun marker => decide (marker.toList <:+: (text.lower s).toList) then .unknown
    else .failedFinal

/-- `settle`, from the reply on; `network` is `paymentRequirements.network`. -/
def settle (text : Text) (network : PyVal) : Reply → ProviderResult
  | .timedOut => settleOutcome false .null network .null (.str "provider_timeout") .unknown
  | .raised => .raised
  | .returned (.dict d) =>
    let outcome (status : ProviderSettlementStatus) (errorReason : PyVal) : ProviderResult :=
      settleOutcome (status == .settled) (PyDict.get d "transaction") ((PyDict.get d "network").orElse network)
        (PyDict.get d "payer") errorReason status
    match PyDict.get d "success" with
    | .bool true => outcome .settled .null
    | .bool false =>
      let errorReason := (PyDict.get d "errorReason").orElse (PyDict.get d "error_reason")
      match settlementStatusForFailure text errorReason with
      | some status => outcome status errorReason
      | none => .raised
    | _ => outcome .unknown (.str "malformed_provider_settlement_response")
  | .returned _ => .raised

/-- A reply that claims success names a transaction: it is not missing, null or empty. -/
def Reply.Proven (reply : Reply) : Prop :=
  ∀ d, reply = .returned (.dict d) → PyDict.get d "success" = .bool true →
    PyDict.get d "transaction" ≠ .null ∧ PyDict.get d "transaction" ≠ .str ""

theorem settlementStatusForFailure_ne_settled {text : Text} {errorReason : PyVal} {status : ProviderSettlementStatus}
    (h : settlementStatusForFailure text errorReason = some status) : status ≠ .settled := by
  unfold settlementStatusForFailure at h
  split at h
  · cases h
    simp
  · obtain ⟨s, -, rfl⟩ := Option.map_eq_some_iff.mp h
    split <;> simp

/-- The provider settles with a transaction when every success it is told of names one. -/
theorem settle_proven {text : Text} {network : PyVal} {reply : Reply} (h : reply.Proven) :
    (settle text network reply).Proven := by
  intro o ho hs
  cases reply with
  | timedOut =>
    obtain ⟨-, hst⟩ := settleOutcome_returned ho
    rw [hst] at hs
    cases hs
  | raised => cases ho
  | returned v =>
    cases v with
    | dict d =>
      simp only [settle] at ho
      split at ho
      · rename_i hsuccess
        obtain ⟨ht, -⟩ := settleOutcome_returned ho
        obtain ⟨hnull, hempty⟩ := h d rfl hsuccess
        cases hv : PyDict.get d "transaction" <;> rw [hv] at ht hnull hempty <;>
          simp only [PyVal.asOptStr, Option.some.injEq, reduceCtorEq] at ht
        · exact absurd rfl hnull
        · rw [← ht, truthyStr_some]
          exact fun he => hempty (by rw [he])
      · split at ho
        · rename_i status hst
          obtain ⟨-, hst'⟩ := settleOutcome_returned ho
          exact absurd (hst'.symm.trans hs) (settlementStatusForFailure_ne_settled hst)
        · cases ho
      · obtain ⟨-, hst⟩ := settleOutcome_returned ho
        rw [hst] at hs
        cases hs
    | null | bool | int | float | str | list => cases ho

end HostedExactProvider

/-! ## `circle_gateway.py` -/

namespace HostedCircleGatewayProvider

/-- `_CIRCLE_ERROR_REASON_ALLOWLIST`. -/
def errorReasonAllowlist : List String :=
  ["address_mismatch", "amount_mismatch", "authorization_expired", "authorization_not_yet_valid",
    "authorization_validity_too_short", "insufficient_balance", "invalid_payload", "invalid_signature",
    "network_mismatch", "nonce_already_used", "self_transfer", "settle_exact_evm_transaction_confirmation_timed_out",
    "settle_exact_failed_onchain", "settle_exact_node_failure", "settle_exact_svm_block_height_exceeded",
    "settle_exact_svm_transaction_confirmation_timed_out", "unexpected_error", "unsupported_asset",
    "unsupported_domain", "unsupported_network", "unsupported_scheme", "wallet_not_found"]

/-- `_AMBIGUOUS_SETTLEMENT_REASONS`. -/
def ambiguousSettlementReasons : List String :=
  ["settle_exact_evm_transaction_confirmation_timed_out", "settle_exact_node_failure",
    "settle_exact_svm_block_height_exceeded", "settle_exact_svm_transaction_confirmation_timed_out",
    "unexpected_error"]

/-- `matches`. -/
def matchesKind (networks : List String) (scheme network : PyVal) (extra : PyDict) : Bool :=
  scheme.asStr = some "exact" && (extra.get "name").asStr = some "GatewayWalletBatched" &&
    (networks.isEmpty || network.isIn networks)

/-- `_is_gateway_kind`. -/
def isGatewayKind (d : PyDict) : Bool :=
  (d.get "extra").asDict.any fun extra => (PyDict.get extra "name").asStr = some "GatewayWalletBatched"

/-- `PaymentRequirementsKind.from_dict` raises: `extra` is no dictionary, or its `minValiditySeconds` is infinite. -/
def requirementsKindRaises (d : PyDict) : Bool :=
  match d.lookup "extra" with
  | none => false
  | some (.dict extra) =>
    match PyDict.get extra "minValiditySeconds" with
    | .float (.infinity _) => true
    | _ => false
  | some _ => true

/-- `PaymentPayloadInner.from_dict` raises. -/
def payloadInnerRaises (d : PyDict) : Bool :=
  match d.lookup "payload" with
  | none => false
  | some (.dict payload) =>
    match payload.lookup "authorization" with
    | none | some (.dict _) => false
    | some _ => true
  | some _ => true

/-- `PaymentPayload.from_dict` raises. -/
def paymentPayloadRaises (d : PyDict) : Bool :=
  ((d.get "resource").truthy && (d.get "resource").asDict.isNone) ||
    ((d.get "accepted").truthy && (d.get "accepted").asDict.all requirementsKindRaises) || payloadInnerRaises d

/-- `validate_envelope`. -/
def validateEnvelope (networks : List String) (envelope : FacilitatorEnvelope) : Except PyErr Unit :=
  let requirements := envelope.paymentRequirements
  if !isGatewayKind requirements then
    .error (.protocolValidation
      "Circle Gateway payments require paymentRequirements.extra.name=GatewayWalletBatched")
  else if requirementsKindRaises requirements then
    .error (.protocolValidation "Invalid Circle Gateway paymentRequirements")
  else if !networks.isEmpty && !((requirements.lookup "network").getD (.str "")).isIn networks then
    .error (.protocolValidation "Circle Gateway network is not enabled")
  else if paymentPayloadRaises envelope.paymentPayload then
    .error (.protocolValidation "Invalid Circle Gateway paymentPayload")
  else if !(envelope.paymentPayload.get "accepted").truthy then
    .error (.protocolValidation "paymentPayload.accepted is required")
  else .ok ()

/-- The provider; it has no preflight. -/
def provider (networks : List String) : Provider where
  name := "circle_gateway"
  matchesKind := some (matchesKind networks)
  supportedNetworks := networks
  validateEnvelope := validateEnvelope networks

/-- What comes of `client.settle`: one of its exceptions, another exception, or a dictionary. -/
inductive Reply where
  | unreachable
  | verificationError (reason details payer : PyVal)
  | settlementError (reason details transaction payer : PyVal)
  | apiError
  | raised
  | returned (data : PyDict)

section Reasons

variable (text : Text)

/-- `_prefixed_circle_reason`. -/
def prefixedCircleReason (reason : String) : String :=
  let normalized := text.lower (strip reason)
  if errorReasonAllowlist.contains normalized then "circle_gateway_" ++ normalized
  else "circle_gateway_settlement_failed"

/-- `_circle_error_reason`. -/
def circleErrorReason (reason details : PyVal) : String :=
  match reason.asStr.filter (· ≠ "") with
  | some r => prefixedCircleReason text r
  | none =>
    match (details.asDict.bind fun d => (PyDict.get d "reason").asStr).filter (· ≠ "") with
    | some r => prefixedCircleReason text r
    | none => "circle_gateway_settlement_failed"

/-- `_is_ambiguous_settlement_error`. -/
def isAmbiguousSettlementError (reason : PyVal) : Bool :=
  reason.asStr.any fun r => ambiguousSettlementReasons.contains (text.lower (strip r))

/-- `settle`, from the reply on; `network` is `paymentRequirements.network`. -/
def settle (network : PyVal) : Reply → ProviderResult
  | .unreachable | .apiError =>
    settleOutcome false .null network .null (.str "circle_gateway_outcome_unknown") .unknown
  | .verificationError reason details payer =>
    settleOutcome false .null network payer (.str (circleErrorReason text reason details)) .failedFinal
  | .settlementError reason details transaction payer =>
    settleOutcome false transaction network payer (.str (circleErrorReason text reason details))
      (if isAmbiguousSettlementError text reason then .unknown else .failedFinal)
  | .raised => .raised
  | .returned d =>
    let transaction := d.get "transaction"
    match d.get "success" with
    | .bool true =>
      if safeNonemptyString transaction then
        settleOutcome true transaction network (d.get "payer")
          ((d.get "errorReason").orElse (d.get "error_reason")) .settled
      else
        settleOutcome false .null network (d.get "payer") (.str "circle_gateway_outcome_unknown") .unknown
    | _ =>
      settleOutcome false transaction network (d.get "payer") ((d.get "errorReason").orElse (d.get "error_reason"))
        .failedFinal

end Reasons

/-- Whatever the client says, a settled outcome has a transaction. -/
theorem settle_proven (text : Text) (network : PyVal) (reply : Reply) : (settle text network reply).Proven := by
  have hne : ∀ {success : Bool} {t n p e : PyVal} {status : ProviderSettlementStatus}, status ≠ .settled →
      (settleOutcome success t n p e status).Proven := by
    intro success t n p e status hst o ho hs
    exact absurd ((settleOutcome_returned ho).2.symm.trans hs) hst
  cases reply with
  | unreachable | apiError | verificationError => exact hne (by simp)
  | settlementError =>
    apply hne
    split <;> simp
  | raised => exact fun o ho => by cases ho
  | returned d =>
    simp only [settle]
    split
    · split
      · rename_i hsafe
        intro o ho _
        exact truthyStr_of_safeNonemptyString hsafe (settleOutcome_returned ho).1
      · exact hne (by simp)
    · exact hne (by simp)

end HostedCircleGatewayProvider

/-! ## Null and the text `None`

The validator compares `str(None)` with `"None"`. A request whose accepted network is null passes with a required network
that is null or that is the text `None`: the fingerprint is the same, the replay key is not. -/

section Sample

/-- The hashed text of the sample payment; `network` is the text of its network. -/
def sampleHashed (network : String) : String :=
  "\x7b\"amount\":\"1000\",\"asset\":\"0x36\",\"authorizationNonce\":\"0x01\",\"authorizationTo\":\"0xb0\"," ++
    "\"authorizationValue\":\"1000\",\"network\":" ++ network ++ ",\"payTo\":\"0xb0\",\"payer\":\"0xa1\"," ++
    "\"provider\":\"circle_gateway\",\"scheme\":\"exact\",\"validAfter\":\"0\",\"validBefore\":\"1893456000\"," ++
    "\"x402Version\":2\x7d"

/-- The standard library on sample requests with one network: their texts are lower case, their numbers are integers,
and `digest` is the digest of the hashed text. -/
def sampleText (network digest : String) : Text where
  containerStr := fun _ => ""
  repr := fun _ => ""
  lower := id
  decimal := fun s =>
    if s = "1000" then .integral 1000 else if s = "0" then .integral 0
    else if s = "1893456000" then .integral 1893456000 else .invalid
  jsonDumps := fun v =>
    match v.asDict.map fun d => PyDict.get d "network" with
    | some .null => sampleHashed "null"
    | some (.str n) => sampleHashed ("\"" ++ n ++ "\"")
    | _ => ""
  sha256 := fun s => if s = sampleHashed network then digest else s

/-- The text functions on the sample payment on a test network. -/
def networkText : Text :=
  sampleText "\"eip155:5042002\"" "29fade826d11cfb0db7b7cc5dab69bfd8f0bb4d63e9345f48762c89faeca5d82"

def sampleRequirements (network : Option String) : PyDict :=
  [("scheme", .str "exact"), ("network", .ofOption network), ("asset", .str "0x36"), ("amount", .str "1000"),
    ("payTo", .str "0xb0"), ("maxTimeoutSeconds", .int 604900), ("extra", .dict [("name", .str "GatewayWalletBatched")])]

def samplePayload (network : Option String) : PyDict :=
  [("x402Version", .int 2),
    ("accepted", .dict (sampleRequirements network)),
    ("payload", .dict
      [("signature", .str "0x02"),
        ("authorization", .dict
          [("from", .str "0xa1"), ("to", .str "0xb0"), ("value", .str "1000"), ("validAfter", .str "0"),
            ("validBefore", .str "1893456000"), ("nonce", .str "0x01")])])]

/-- A Circle payment; the network stands in it twice. -/
def sampleEnvelope (accepted required : Option String) : TextEnvelope where
  x402Version := 2
  paymentPayload := samplePayload accepted
  paymentRequirements := sampleRequirements required
  scheme_text := rfl
  network_text := by cases required <;> rfl

/-- A payment profile that also enables a network named `None`. -/
def sampleContext (profile traceId : String) : RequestContext where
  traceId := traceId
  sellerAccount := { sellerAccountId := "seller" }
  paymentProfile := some
    { paymentProfileId := profile, enabledNetworks := ["eip155:5042002", "None"],
      enabledProviders := ["circle_gateway"] }

/-- The Circle provider for every network. -/
def sampleRouter : ProviderRouter where
  providers := [HostedCircleGatewayProvider.provider []]
  names_nodup := by simp

/-- The claim that a sample request makes. -/
def sampleClaim (text : Text) (digest profile traceId : String) (required : Option String) : ClaimRequest where
  sellerAccountId := "seller"
  paymentProfileId := profile
  fingerprint := digest
  provider := "circle_gateway"
  scheme := some "exact"
  network := required
  traceId := traceId
  safeRequirements := safeRequirements text (sampleRequirements required)

/-- The sample requests that are accepted: `json` is the hashed text of the accepted network. -/
inductive SampleNetworks : Option String → Option String → String → Prop
  | null : SampleNetworks none none "null"
  | none : SampleNetworks none (some "None") "null"
  | text : SampleNetworks (some "eip155:5042002") (some "eip155:5042002") "\"eip155:5042002\""

variable {accepted required : Option String} {json : String}

theorem fingerprint_sample (digest : String) (h : SampleNetworks accepted required json) :
    settlementFingerprint (sampleText json digest) (sampleEnvelope accepted required).toFacilitatorEnvelope
      "circle_gateway" = .ok digest := by
  have hdigest : (sampleText json digest).sha256 (sampleHashed json) = digest := if_pos rfl
  cases h with
  | null | none | text => exact congrArg Except.ok hdigest

theorem prepare_sample (digest profile traceId : String) (h : SampleNetworks accepted required json) :
    prepare (sampleText json digest) sampleRouter (sampleEnvelope accepted required) (sampleContext profile traceId) =
      .ok { request := sampleClaim (sampleText json digest) digest profile traceId required,
            authorizationFrom := some "0xa1" } := by
  have hvalid : validateSettlementEnvelope (sampleText json digest)
      (sampleEnvelope accepted required).toFacilitatorEnvelope = .ok (sampleRequirements accepted) := by
    cases h <;> rfl
  have hroute : sampleRouter.route (sampleText json digest) (sampleEnvelope accepted required).toFacilitatorEnvelope
      (sampleContext profile traceId).activePaymentProfile = .ok (HostedCircleGatewayProvider.provider []) := by
    cases h <;> rfl
  have hcheck : (HostedCircleGatewayProvider.provider []).validateEnvelope
      (sampleEnvelope accepted required).toFacilitatorEnvelope = .ok () := by
    cases h <;> rfl
  refine bind_ok.mpr ⟨_, hvalid, bind_ok.mpr ⟨_, hroute, bind_ok.mpr ⟨_, hcheck, bind_ok.mpr ⟨_, rfl, bind_ok.mpr
    ⟨_, fingerprint_sample digest h, ?_⟩⟩⟩⟩⟩
  cases h <;> rfl

end Sample

end HostedFacilitator
