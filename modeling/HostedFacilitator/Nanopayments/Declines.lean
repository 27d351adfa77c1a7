import HostedFacilitator.Nanopayments.Types
import HostedFacilitator.Engine.Providers

/-!
# Declined settlements

Circle declines a payment with HTTP 402, or with `success: false`, and gives a reason. The client looks the reason up in
`_SETTLEMENT_ERROR_CODE_MAP` for the class of the exception to raise; the provider catches two of the classes and
writes the reason into its outcome.

The table names four classes that do not fit: two of them do not take the arguments they are called with, and
`InvalidSignatureError` puts a text before the reason it is given. Every other reason comes through, unless the network
of the envelope is neither a text nor null, which no outcome takes (`declined_iff`).
-/

namespace HostedFacilitator
namespace Nanopayments

open HostedCircleGatewayProvider (Reply errorReasonAllowlist ambiguousSettlementReasons prefixedCircleReason
  circleErrorReason isAmbiguousSettlementError)

/-- The exception classes of `_SETTLEMENT_ERROR_CODE_MAP`. -/
inductive ExcClass where
  | verificationError
  | invalidSignatureError
  | insufficientBalanceError
  | nonceReusedError
  | networkMismatchError
  | unsupportedNetworkError
  | settlementError
  deriving DecidableEq

namespace ExcClass

/-- `issubclass(exc_class, VerificationError)`. -/
def isVerification : ExcClass → Bool
  | .verificationError | .invalidSignatureError | .insufficientBalanceError | .nonceReusedError => true
  | .networkMismatchError | .unsupportedNetworkError | .settlementError => false

/-- The parameters of the constructor. -/
def parameters : ExcClass → List String
  | .verificationError | .invalidSignatureError | .insufficientBalanceError | .nonceReusedError => ["reason", "payer"]
  | .networkMismatchError => ["buyer_network", "seller_network"]
  | .unsupportedNetworkError => ["network"]
  | .settlementError => ["reason", "transaction", "payer"]

/-- The arguments that `_map_settlement_error` passes. -/
def arguments (c : ExcClass) : List String :=
  if c.isVerification then ["reason", "payer"] else ["reason", "transaction", "payer"]

/-- The `reason` of the exception. -/
def storedReason (text : Text) (reason : PyVal) : ExcClass → PyVal
  | .invalidSignatureError =>
    if reason.truthy then .str ("invalid_signature: " ++ reason.toStr text) else .str "invalid_signature"
  | .insufficientBalanceError => reason.orElse (.str "insufficient_balance")
  | .nonceReusedError => reason.orElse (.str "nonce_already_used")
  | _ => reason

/-- The constructor; an argument that is no parameter is a `TypeError`. -/
def construct (text : Text) (c : ExcClass) (reason transaction payer : PyVal) : Reply :=
  if !c.arguments.all c.parameters.contains then .raised
  else
    let reason := c.storedReason text reason
    if c.isVerification then .verificationError reason (.dict [("reason", reason), ("payer", payer)]) payer
    else .settlementError reason (.dict [("reason", reason), ("transaction", transaction), ("payer", payer)])
      transaction payer

end ExcClass

/-- `_SETTLEMENT_ERROR_CODE_MAP`. -/
def settlementErrorCodeMap : List (String × ExcClass) :=
  [("invalid_signature", .invalidSignatureError), ("authorization_not_yet_valid", .verificationError),
    ("authorization_expired", .verificationError), ("authorization_validity_too_short", .verificationError),
    ("self_transfer", .verificationError), ("insufficient_balance", .insufficientBalanceError),
    ("nonce_already_used", .nonceReusedError), ("network_mismatch", .networkMismatchError),
    ("unsupported_scheme", .unsupportedNetworkError), ("unsupported_network", .unsupportedNetworkError),
    ("unsupported_asset", .verificationError), ("invalid_payload", .verificationError),
    ("address_mismatch", .verificationError), ("amount_mismatch", .verificationError),
    ("unsupported_domain", .verificationError), ("wallet_not_found", .verificationError),
    ("settle_exact_evm_transaction_confirmation_timed_out", .settlementError),
    ("settle_exact_node_failure", .settlementError), ("settle_exact_failed_onchain", .settlementError),
    ("settle_exact_svm_block_height_exceeded", .settlementError),
    ("settle_exact_svm_transaction_confirmation_timed_out", .settlementError),
    ("unexpected_error", .settlementError)]

/-- The class that the table has for a reason. -/
def classFor (reason : String) : ExcClass := (settlementErrorCodeMap.lookup reason).getD .settlementError

/-- `_map_settlement_error`; a list or a dictionary cannot be looked up. -/
def mapSettlementError (text : Text) (reason transaction payer : PyVal) : Reply :=
  let given := reason.orElse (.str "settlement_declined")
  match reason.orElse (.str "") with
  | .list _ | .dict _ => .raised
  | .str s => (classFor s).construct text given transaction payer
  | _ => ExcClass.settlementError.construct text given transaction payer

/-- How the post ends: the request fails, or there is a response, whose body may not be JSON. -/
inductive HttpReply where
  | timedOut
  | connectionFailed
  | response (statusCode : Nat) (json : Option PyVal)

/-- `settle`, from the response on. -/
def settleReply (text : Text) : HttpReply → Reply
  | .timedOut | .connectionFailed => .unreachable
  | .response statusCode json =>
    if statusCode = 402 then
      match json with
      | some (.dict body) =>
        mapSettlementError text (PyDict.getOr body "errorReason" (.str "settlement_declined")) .null
          (PyDict.get body "payer")
      | _ => .raised
    else if !(200 ≤ statusCode && statusCode ≤ 299) then .apiError
    else match json with
      | some (.dict data) =>
        match PyDict.get data "success" with
        | .bool true =>
          if safeNonemptyString (PyDict.get data "transaction") then
            .returned [("success", .bool true), ("transaction", PyDict.get data "transaction"),
              ("payer", PyDict.get data "payer"), ("errorReason", .null)]
          else .apiError
        | .bool false =>
          mapSettlementError text (PyDict.get data "errorReason") (PyDict.get data "transaction")
            (PyDict.get data "payer")
        | _ => .apiError
      | _ => .raised

/-! ## What a decline comes to -/

/-- Circle declines: with HTTP 402, or with `success: false`. The reason, the payer and the transaction are texts, null
or missing. -/
inductive Declines (reason payer transaction : Option String) : HttpReply → Prop
  | paymentRequired {body : PyDict} (hreason : body.get "errorReason" = .ofOption reason)
      (hpayer : body.get "payer" = .ofOption payer) : Declines reason payer transaction (.response 402 (some (.dict body)))
  | unsuccessful {statusCode : Nat} {data : PyDict} (hcode : 200 ≤ statusCode ∧ statusCode ≤ 299)
      (hsuccess : data.get "success" = .bool false) (hreason : data.get "errorReason" = .ofOption reason)
      (hpayer : data.get "payer" = .ofOption payer) (htransaction : data.get "transaction" = .ofOption transaction) :
      Declines reason payer transaction (.response statusCode (some (.dict data)))

/-- The reason is ambiguous: it does not say that nothing was paid. -/
def ambiguous (text : Text) (reason : Option String) : Bool :=
  reason.any fun s => ambiguousSettlementReasons.contains (text.lower (strip s))

/-- The decline comes back as an outcome that says what it was. -/
def Faithful (text : Text) (reason : Option String) (result : ProviderResult) : Prop :=
  ∃ o, result = .returned o ∧
    o.settlementStatus = some (if ambiguous text reason then .unknown else .failedFinal) ∧
    ∀ s, reason = some s → s ∈ errorReasonAllowlist → o.errorReason = some ("circle_gateway_" ++ s)

/-- `str.lower()` leaves a text alone that is ASCII and has no capital letter. -/
def KeepsLower (text : Text) : Prop :=
  ∀ s : String, (s.toList.all fun c => c.toNat < 128 && !c.isUpper) = true → text.lower s = s

/-- The reasons whose class does not fit. -/
def misfits : List String := ["invalid_signature", "network_mismatch", "unsupported_scheme", "unsupported_network"]

section Tables

variable {text : Text}

theorem allowlist_plain :
    ∀ s ∈ errorReasonAllowlist, strip s = s ∧ (s.toList.all fun c => c.toNat < 128 && !c.isUpper) = true := by
  decide +kernel

/-- The allowed reasons are their own normal forms. -/
theorem normal_of_allowed (hlower : KeepsLower text) {s : String} (h : s ∈ errorReasonAllowlist) :
    text.lower (strip s) = s := by
  obtain ⟨hstrip, hplain⟩ := allowlist_plain s h
  rw [hstrip]
  exact hlower s hplain

/-- Every reason of the table is allowed. A class that does not fit has one of the four reasons, and a reason of a
verification error is not ambiguous. -/
theorem codeMap_rows : ∀ row ∈ settlementErrorCodeMap, row.1 ∈ errorReasonAllowlist ∧
    (row.1 ∉ misfits → row.2 = .settlementError ∨
      (row.2.isVerification = true ∧ row.2 ≠ .invalidSignatureError ∧ row.1 ∉ ambiguousSettlementReasons)) := by
  decide +kernel

theorem classFor_cases {s : String} (h : s ∉ misfits) :
    classFor s = .settlementError ∨
      ((classFor s).isVerification = true ∧ classFor s ≠ .invalidSignatureError ∧ s ∈ errorReasonAllowlist ∧
        s ∉ ambiguousSettlementReasons) := by
  cases hc : settlementErrorCodeMap.lookup s with
  | none => exact .inl (by rw [classFor, hc]; rfl)
  | some c =>
    have hclass : classFor s = c := by rw [classFor, hc]; rfl
    obtain ⟨before, after, hsplit, -⟩ := List.lookup_eq_some_iff.mp hc
    have hmem : (s, c) ∈ settlementErrorCodeMap := by rw [hsplit]; simp
    obtain ⟨hallowed, hfits⟩ := codeMap_rows (s, c) hmem
    rw [hclass]
    exact (hfits h).imp_right fun ⟨hv, hne, hamb⟩ => ⟨hv, hne, hallowed, hamb⟩

end Tables

section Outcomes

variable {text : Text} {reason payer transaction network : Option String} {reply : HttpReply}

/-- The reason that the exception is built with. -/
def said (reason : Option String) : String := (orStr reason (some "settlement_declined")).getD ""

theorem mapSettlementError_text (reason : Option String) (t p : PyVal) :
    mapSettlementError text (.ofOption reason) t p =
      (classFor (reason.getD "")).construct text (.str (said reason)) t p := by
  cases reason with
  | none => rfl
  | some s =>
    by_cases h : s = ""
    · subst h
      rfl
    · have htruthy : (PyVal.str s).truthy = true := by simpa [PyVal.truthy] using h
      have hsaid : said (some s) = s := by simp [said, orStr, truthyStr, h]
      simp only [mapSettlementError, PyVal.ofOption, PyVal.orElse, htruthy, if_true, Option.getD_some, hsaid]

variable (text) in
/-- Both ways to decline come to the table. -/
theorem settleReply_declined (h : Declines reason payer transaction reply) :
    ∃ t : Option String, settleReply text reply =
      (classFor (reason.getD "")).construct text (.str (said reason)) (.ofOption t) (.ofOption payer) := by
  cases h with
  | @paymentRequired body hreason hpayer =>
    refine ⟨none, ?_⟩
    have hgiven : settleReply text (.response 402 (some (.dict body))) =
        mapSettlementError text (body.getOr "errorReason" (.str "settlement_declined")) .null (body.get "payer") := rfl
    rw [hgiven, hpayer, ← mapSettlementError_text]
    cases hl : body.lookup "errorReason" with
    | none =>
      have hnull : reason = none := by
        cases reason with
        | none => rfl
        | some s =>
          rw [PyDict.get, hl] at hreason
          cases hreason
      subst hnull
      rw [PyDict.getOr, hl]
      rfl
    | some v =>
      rw [PyDict.get, hl] at hreason
      rw [PyDict.getOr, hl]
      exact congrArg (fun r => mapSettlementError text r .null (.ofOption payer)) hreason
  | @unsuccessful code data hcode hsuccess hreason hpayer htransaction =>
    refine ⟨transaction, ?_⟩
    have hne : code ≠ 402 := by omega
    rw [← mapSettlementError_text, ← hreason, ← hpayer, ← htransaction]
    simp [settleReply, hne, hcode, hsuccess]

theorem asOptStr_ofOption (s : Option String) : (PyVal.ofOption s).asOptStr = some s := by
  cases s <;> rfl

theorem settleOutcome_text (t n p : Option String) (e : String) (status : ProviderSettlementStatus) :
    settleOutcome false (.ofOption t) (.ofOption n) (.ofOption p) (.str e) status =
      .returned { success := false, transaction := t, network := n, payer := p, errorReason := some e,
                  settlementStatus := some status } := by
  simp only [settleOutcome, asOptStr_ofOption]
  rfl

theorem circleErrorReason_text {s : String} (h : s ≠ "") (details : PyVal) :
    circleErrorReason text (.str s) details = prefixedCircleReason text s := by
  have hfilter : (PyVal.str s).asStr.filter (· ≠ "") = some s := by simp [PyVal.asStr, Option.filter, h]
  rw [circleErrorReason, hfilter]

theorem prefixedCircleReason_allowed (hlower : KeepsLower text) {s : String} (h : s ∈ errorReasonAllowlist) :
    prefixedCircleReason text s = "circle_gateway_" ++ s := by
  unfold prefixedCircleReason
  rw [normal_of_allowed hlower h]
  simp [h]

/-- What the provider makes of a `SettlementError`. -/
theorem settle_settlementError {s : String} (h : s ≠ "") (t : Option String) :
    HostedCircleGatewayProvider.settle text (.ofOption network)
        (ExcClass.settlementError.construct text (.str s) (.ofOption t) (.ofOption payer)) =
      .returned { success := false, transaction := t, network := network, payer := payer,
                  errorReason := some (prefixedCircleReason text s),
                  settlementStatus := some (if ambiguous text (some s) then .unknown else .failedFinal) } := by
  have hconstruct : ExcClass.settlementError.construct text (.str s) (.ofOption t) (.ofOption payer) =
      .settlementError (.str s) (.dict [("reason", .str s), ("transaction", .ofOption t), ("payer", .ofOption payer)])
        (.ofOption t) (.ofOption payer) := rfl
  rw [hconstruct, HostedCircleGatewayProvider.settle, settleOutcome_text, circleErrorReason_text h]
  rfl

/-- What the provider makes of a `VerificationError` that keeps its reason. -/
theorem settle_verificationError {c : ExcClass} (hc : c.isVerification = true) (hne : c ≠ .invalidSignatureError)
    {s : String} (h : s ≠ "") (t : PyVal) :
    HostedCircleGatewayProvider.settle text (.ofOption network)
        (c.construct text (.str s) t (.ofOption payer)) =
      .returned { success := false, network := network, payer := payer,
                  errorReason := some (prefixedCircleReason text s), settlementStatus := some .failedFinal } := by
  have htruthy : (PyVal.str s).truthy = true := by simpa [PyVal.truthy] using h
  have hconstruct : c.construct text (.str s) t (.ofOption payer) =
      .verificationError (.str s) (.dict [("reason", .str s), ("payer", .ofOption payer)]) (.ofOption payer) := by
    cases c with
    | verificationError => rfl
    | insufficientBalanceError | nonceReusedError =>
      simp [ExcClass.construct, ExcClass.arguments, ExcClass.parameters, ExcClass.isVerification,
        ExcClass.storedReason, PyVal.orElse, htruthy]
    | invalidSignatureError => exact absurd rfl hne
    | networkMismatchError | unsupportedNetworkError | settlementError => cases hc
  rw [hconstruct, HostedCircleGatewayProvider.settle, circleErrorReason_text h]
  exact settleOutcome_text none network payer (prefixedCircleReason text s) .failedFinal

/-- An empty reason is declined under the default one, which is not ambiguous either. -/
theorem faithful_of_empty (hlower : KeepsLower text) (h : reason.getD "" = "") (t : Option String) :
    Faithful text reason (HostedCircleGatewayProvider.settle text (.ofOption network)
      ((classFor (reason.getD "")).construct text (.str (said reason)) (.ofOption t) (.ofOption payer))) := by
  have hnormal : text.lower (strip "settlement_declined") = "settlement_declined" := by
    rw [show strip "settlement_declined" = "settlement_declined" by decide +kernel]
    exact hlower _ (by decide +kernel)
  have hdefault : ambiguous text (some "settlement_declined") = false := by
    simp only [ambiguous, Option.any_some, hnormal]
    decide +kernel
  have hempty : ambiguous text reason = false := by
    cases reason with
    | none => rfl
    | some s =>
      obtain rfl : s = "" := h
      have hlower' : text.lower (strip "") = "" := by
        rw [show strip "" = "" by decide +kernel]
        exact hlower "" (by decide +kernel)
      simp only [ambiguous, Option.any_some, hlower']
      decide +kernel
  have hsaid : said reason = "settlement_declined" := by
    cases reason with
    | none => rfl
    | some s =>
      obtain rfl : s = "" := h
      rfl
  have hclass : classFor "" = .settlementError := by decide +kernel
  rw [h, hclass, hsaid, settle_settlementError (by decide)]
  refine ⟨_, rfl, by rw [hdefault, hempty], ?_⟩
  rintro s rfl hs
  obtain rfl : s = "" := h
  exact absurd hs (by decide +kernel)

/-- A reason whose class fits comes through. -/
theorem faithful_of_fits (hlower : KeepsLower text) (h : ∀ s, reason = some s → s ∉ misfits) (t : Option String) :
    Faithful text reason (HostedCircleGatewayProvider.settle text (.ofOption network)
      ((classFor (reason.getD "")).construct text (.str (said reason)) (.ofOption t) (.ofOption payer))) := by
  by_cases hne : reason.getD "" = ""
  · exact faithful_of_empty hlower hne t
  cases reason with
  | none => exact absurd rfl hne
  | some s =>
    have hs : s ≠ "" := hne
    have hsaid : said (some s) = s := by simp [said, orStr, truthyStr, hs]
    rw [Option.getD_some, hsaid]
    rcases classFor_cases (h s rfl) with hc | ⟨hv, hnot, hallowed, hamb⟩
    · rw [hc, settle_settlementError hs]
      refine ⟨_, rfl, rfl, ?_⟩
      rintro _ ⟨⟩ hallowed
      rw [prefixedCircleReason_allowed hlower hallowed]
    · rw [settle_verificationError hv hnot hs]
      have hunambiguous : ambiguous text (some s) = false := by
        simp only [ambiguous, Option.any_some, normal_of_allowed hlower hallowed]
        simpa using hamb
      refine ⟨_, rfl, by rw [hunambiguous]; rfl, ?_⟩
      rintro _ ⟨⟩ -
      rw [prefixedCircleReason_allowed hlower hallowed]

/-- The reason of an `InvalidSignatureError` is not on the list any more. -/
theorem settle_invalidSignatureError (hlower : KeepsLower text) (t : PyVal) :
    HostedCircleGatewayProvider.settle text (.ofOption network)
        (ExcClass.invalidSignatureError.construct text (.str "invalid_signature") t (.ofOption payer)) =
      .returned { success := false, network := network, payer := payer,
                  errorReason := some "circle_gateway_settlement_failed", settlementStatus := some .failedFinal } := by
  have hprefixed : prefixedCircleReason text "invalid_signature: invalid_signature" =
      "circle_gateway_settlement_failed" := by
    unfold prefixedCircleReason
    rw [show strip "invalid_signature: invalid_signature" = "invalid_signature: invalid_signature" by decide +kernel,
      hlower "invalid_signature: invalid_signature" (by decide +kernel)]
    decide +kernel
  have hconstruct : ExcClass.invalidSignatureError.construct text (.str "invalid_signature") t (.ofOption payer) =
      .verificationError (.str "invalid_signature: invalid_signature")
        (.dict [("reason", .str "invalid_signature: invalid_signature"), ("payer", .ofOption payer)])
        (.ofOption payer) := rfl
  rw [hconstruct, HostedCircleGatewayProvider.settle, circleErrorReason_text (by decide), hprefixed]
  exact settleOutcome_text none network payer "circle_gateway_settlement_failed" .failedFinal

/-- A reason whose class does not fit raises, or comes back under another name. -/
theorem not_faithful_of_misfit (hlower : KeepsLower text) {s : String} (h : s ∈ misfits) (t : Option String) :
    ¬ Faithful text (some s) (HostedCircleGatewayProvider.settle text (.ofOption network)
      ((classFor s).construct text (.str (said (some s))) (.ofOption t) (.ofOption payer))) := by
  rintro ⟨o, ho, -, hreason⟩
  simp only [misfits, List.mem_cons, List.not_mem_nil, or_false] at h
  rcases h with rfl | rfl | rfl | rfl
  · have hclass : classFor "invalid_signature" = .invalidSignatureError := by decide +kernel
    have hsaid : said (some "invalid_signature") = "invalid_signature" := by decide +kernel
    rw [hclass, hsaid, settle_invalidSignatureError hlower] at ho
    obtain rfl := ProviderResult.returned.inj ho
    have hsame : some "circle_gateway_settlement_failed" = some ("circle_gateway_" ++ "invalid_signature") :=
      hreason "invalid_signature" rfl (by decide +kernel)
    exact absurd hsame (by decide +kernel)
  · cases ho
  · cases ho
  · cases ho

theorem asOptStr_eq_some {v : PyVal} {s : Option String} (h : v.asOptStr = some s) : v = .ofOption s := by
  cases v with
  | null | str =>
    obtain rfl := Option.some.inj h
    rfl
  | bool | int | float | list | dict => cases h

/-- An outcome has the network of the envelope, so that is a text or null. -/
theorem settleOutcome_network {success : Bool} {t n p e : PyVal} {status : ProviderSettlementStatus} {o : SettleOutcome}
    (h : settleOutcome success t n p e status = .returned o) : n = .ofOption o.network := by
  unfold settleOutcome at h
  split at h
  · rename_i hn _ _
    obtain rfl := ProviderResult.returned.inj h
    exact asOptStr_eq_some hn
  · cases h

theorem settle_network {network : PyVal} {reply : Reply} {o : SettleOutcome}
    (h : HostedCircleGatewayProvider.settle text network reply = .returned o) : network = .ofOption o.network := by
  unfold HostedCircleGatewayProvider.settle at h
  split at h
  · exact settleOutcome_network h
  · exact settleOutcome_network h
  · exact settleOutcome_network h
  · exact settleOutcome_network h
  · cases h
  · dsimp only at h
    split at h
    · split at h <;> exact settleOutcome_network h
    · exact settleOutcome_network h

/-- **Declines are mapped faithfully**, except for four reasons and for an envelope whose network is neither a text nor
null. -/
theorem declined_iff (hlower : KeepsLower text) (network : PyVal) (h : Declines reason payer transaction reply) :
    Faithful text reason (HostedCircleGatewayProvider.settle text network (settleReply text reply)) ↔
      (∃ n, network = .ofOption n) ∧ ∀ s, reason = some s → s ∉ misfits := by
  obtain ⟨t, ht⟩ := settleReply_declined text h
  rw [ht]
  constructor
  · rintro hf
    obtain ⟨o, ho, -⟩ := id hf
    obtain rfl := settle_network ho
    refine ⟨⟨o.network, rfl⟩, ?_⟩
    rintro s rfl hs
    exact not_faithful_of_misfit hlower hs t hf
  · rintro ⟨⟨n, rfl⟩, hfits⟩
    exact faithful_of_fits hlower hfits t

/-- The language on texts in lower case. -/
def lowerText : Text where
  containerStr := fun _ => ""
  repr := fun _ => ""
  lower := id
  decimal := fun _ => .invalid
  jsonDumps := fun _ => ""
  sha256 := id

/-- Circle's answer to a payment that it declines for a reason. -/
def declineReply (reason : String) : HttpReply :=
  .response 402 (some (.dict [("success", .bool false), ("errorReason", .str reason), ("payer", .str "0xa1")]))

theorem declineReply_declines (reason : String) : Declines (some reason) (some "0xa1") none (declineReply reason) :=
  .paymentRequired rfl rfl

/-- A payment declined for its balance: under a network in a text this is said, under the network `0` it is not. -/
theorem declined_balance :
    Faithful lowerText (some "insufficient_balance") (HostedCircleGatewayProvider.settle lowerText
        (.str "eip155:84532") (settleReply lowerText (declineReply "insufficient_balance"))) ∧
      ¬ Faithful lowerText (some "insufficient_balance") (HostedCircleGatewayProvider.settle lowerText (.int 0)
        (settleReply lowerText (declineReply "insufficient_balance"))) := by
  have hlower : KeepsLower lowerText := fun _ _ => rfl
  have hdeclined := fun network => declined_iff hlower network (declineReply_declines "insufficient_balance")
  refine ⟨(hdeclined _).mpr ⟨⟨some "eip155:84532", rfl⟩, ?_⟩, fun hf => ?_⟩
  · rintro _ ⟨⟩
    decide +kernel
  · obtain ⟨⟨n, hn⟩, -⟩ := (hdeclined _).mp hf
    cases n <;> cases hn

/-- A payment declined for its network: the exception cannot be built. -/
theorem declined_network :
    ¬ Faithful lowerText (some "network_mismatch") (HostedCircleGatewayProvider.settle lowerText (.ofOption none)
      (settleReply lowerText (declineReply "network_mismatch"))) := by
  obtain ⟨t, ht⟩ := settleReply_declined lowerText (declineReply_declines "network_mismatch")
  rw [ht]
  exact not_faithful_of_misfit (fun _ _ => rfl) (by decide +kernel) t

end Outcomes

end Nanopayments
end HostedFacilitator
