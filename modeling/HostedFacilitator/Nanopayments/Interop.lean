import HostedFacilitator.Engine.Rejection
import HostedFacilitator.Nanopayments.Buyer

/-!
# From the buyer's signature to Circle

A seller hands the header of a paid request and his own requirement to the facilitator (`sellerEnvelope`), which compares
the two and posts the payment to Circle. Both sides read the requirement: the buyer signs what `from_dict` made of it,
completed by a version and a contract (`updatedKind`), and sends that back as the accepted one.

* The facilitator accepts such a payment exactly when the requirement has the compared fields and the buyer has left
  its `extra` as it was (`accepts_buyer_iff`): a seller who leaves the version or the contract to the buyer is refused.
* What Circle receives of an accepted payment is the message that the buyer has signed (`circle_receives_signed`).
-/

namespace HostedFacilitator
namespace Nanopayments

open HostedCircleGatewayProvider (submit Submission submit_ok validateEnvelope)

/-- What the header of a payment says. -/
def headerDict (payload : PaymentPayload) (accepted : PaymentRequirementsKind) : PyDict :=
  Dict.set payload.toDict "accepted" (.dict accepted.toDict)

/-- The envelope of a seller for a paid request. -/
def sellerEnvelope (requirement : PyDict) (payload : PaymentPayload) (accepted : PaymentRequirementsKind) :
    FacilitatorEnvelope where
  x402Version := 2
  paymentPayload := headerDict payload accepted
  paymentRequirements := requirement

section Header

variable {payload : PaymentPayload} {accepted : PaymentRequirementsKind}

/-- The header is the payload with the accepted requirement. -/
theorem headerDict_eq (h : payload.accepted = none) :
    headerDict payload accepted = { payload with accepted := some accepted }.toDict := by
  obtain ⟨version, scheme, network, inner, resource, accepted'⟩ := payload
  obtain rfl : accepted' = none := h
  cases resource <;> rfl

theorem get_headerDict (key : String) : PyDict.get (headerDict payload accepted) key =
    if key = "accepted" then .dict accepted.toDict else PyDict.get payload.toDict key :=
  get_set _ _ _ _

end Header

/-! ## The comparison -/

section Accepts

variable {u : Decimals} {text : Text} {requirement accepted : PyDict} {kind : PaymentRequirementsKind} {contract : PyVal}
  {field : String}

/-- What `from_dict` has read of a requirement, field by field. -/
theorem kindFromDict_fields (h : PaymentRequirementsKind.fromDict u requirement = .ok kind) :
    (∀ field ∈ comparedFields, PyDict.get kind.toDict field = requirement.getOr field (.str "")) ∧
      kind.maxTimeoutSeconds = requirement.getOr "maxTimeoutSeconds" (.int 0) := by
  obtain ⟨extra, -, h⟩ := bind_ok.mp h
  obtain ⟨extra', -, h⟩ := bind_ok.mp h
  cases h
  refine ⟨?_, rfl⟩
  intro field hfield
  simp only [comparedFields, List.mem_cons, List.not_mem_nil, or_false] at hfield
  rcases hfield with rfl | rfl | rfl | rfl | rfl <;> rfl

variable (kind contract) in
/-- Completing the `extra` leaves the compared fields alone. -/
theorem updatedKind_fields (hfield : field ∈ comparedFields) :
    (updatedKind kind contract).toDict.has field = true ∧
      PyDict.get (updatedKind kind contract).toDict field = PyDict.get kind.toDict field := by
  simp only [comparedFields, List.mem_cons, List.not_mem_nil, or_false] at hfield
  rcases hfield with rfl | rfl | rfl | rfl | rfl <;> exact ⟨rfl, rfl⟩

variable {signer : EIP3009Signer} {now amount : Int} {domain : Eip712Domain} {message : Eip712Message}
  {payload : PaymentPayload} {resource : ResourceInfo}

variable (resource) in
/-- **The facilitator accepts what the buyer has signed** exactly when the seller's requirement has every compared
field, its amount is a number, and the buyer has left its `extra` as it was. -/
theorem accepts_buyer_iff (hkind : PaymentRequirementsKind.fromDict u requirement = .ok kind)
    (hsigned : Signed u text signer now (updatedKind kind contract) amount domain message payload) :
    validateSettlementEnvelope text (sellerEnvelope requirement { payload with resource := some resource }
        (updatedKind kind contract)) = .ok (updatedKind kind contract).toDict ↔
      (∀ field ∈ comparedFields, requirement.has field = true) ∧
        (∃ c, canonicalAmount text (requirement.get "amount") = .ok c) ∧
        (PyVal.dict (updatedKind kind contract).extra.toDict).eq (requirement.get "extra") = true := by
  have haccepted : PyDict.get (headerDict { payload with resource := some resource } (updatedKind kind contract))
      "accepted" = .dict (updatedKind kind contract).toDict := by
    rw [get_headerDict, if_pos rfl]
  obtain ⟨hfields, htimeout⟩ := kindFromDict_fields hkind
  rw [validate_ok_iff]
  constructor
  · intro h
    obtain ⟨-, -, c, -, hc⟩ := h.fields "amount" (by simp [comparedFields])
    exact ⟨fun field hfield => (h.fields field hfield).inRequired, ⟨c, hc⟩, h.extra⟩
  · rintro ⟨hhas, ⟨c, hc⟩, hextra⟩
    refine ⟨haccepted, fun field hfield => ?_, fun _ hlimit => ?_, ?_, hextra⟩
    · obtain ⟨hin, hget⟩ := updatedKind_fields kind contract hfield
      rw [hfields field hfield, PyDict.getOr_of_has (hhas field hfield)] at hget
      refine ⟨hin, hhas field hfield, ?_⟩
      rw [hget]
      show ∃ c, canonicalValue text field (requirement.get field) = .ok c ∧
        canonicalValue text field (requirement.get field) = .ok c
      by_cases hamount : field = "amount"
      · subst hamount
        exact ⟨c, hc, hc⟩
      · obtain ⟨c', hc'⟩ := canonicalValue_of_ne_amount text hamount (requirement.get field)
        exact ⟨c', hc', hc'⟩
    · have hlimit' : requirement.has "maxTimeoutSeconds" = true := hlimit
      show kind.maxTimeoutSeconds.toStr text = _
      rw [htimeout, PyDict.getOr_of_has hlimit']
      rfl
    · show (PyVal.eq (PyDict.get (headerDict _ _) "x402Version") (.int 2)) = true
      rw [get_headerDict, if_neg (by decide)]
      show PyVal.eq payload.x402Version (.int 2) = true
      rw [hsigned.version2]
      decide

/-- The shop's requirement, as the buyer reads it. -/
def shopKind : PaymentRequirementsKind where
  scheme := .str "exact"
  network := .str "eip155:5042002"
  asset := .str "0xa5"
  amount := .str "1000"
  maxTimeoutSeconds := .int 604900
  payTo := .str "0xb0"
  extra := { name := .str circleBatchingName, version := .str "1", verifyingContract := .str "0xc0" }

/-- The buyer can sign for the shop. -/
theorem shop_signed : ∃ amount domain message payload,
    Signed .ascii networkText shopBuyer.signer 1700000000 (updatedKind shopKind (.str "0xc0")) amount
      domain message payload := by
  have hok : ∃ payload, signedPayment .ascii networkText shopBuyer (shopReplies circleBatchingName)
      (updatedKind shopKind (.str "0xc0")) none = .ok payload := ⟨_, rfl⟩
  obtain ⟨payload, hpayload⟩ := hok
  obtain ⟨amount, domain, message, -, hsigned, -⟩ := signedPayment_ok hpayload
  exact ⟨amount, domain, message, payload, hsigned⟩

/-- The facilitator accepts what the buyer has signed for the shop. -/
theorem accepts_buyer_shop : ∃ payload, validateSettlementEnvelope networkText
    (sellerEnvelope (shopRequirement circleBatchingName) payload (updatedKind shopKind (.str "0xc0"))) =
      .ok (updatedKind shopKind (.str "0xc0")).toDict := by
  obtain ⟨amount, domain, message, payload, hsigned⟩ := shop_signed
  refine ⟨_, (accepts_buyer_iff (u := .ascii) (directResource "0xb0" "eip155:5042002") rfl hsigned).mpr ?_⟩
  refine ⟨by decide, ⟨"1000", by rfl⟩, by decide⟩

end Accepts

/-! ## What is posted -/

section Posted

variable {u : Decimals} {text : Text} {networks : List String} {requirement : PyDict} {kind : PaymentRequirementsKind}
  {contract : PyVal} {signer : EIP3009Signer} {now amount : Int} {domain : Eip712Domain} {message : Eip712Message}
  {payload : PaymentPayload} {resource : ResourceInfo}

/-- What `from_dict` can read does not raise, and its name is that of the requirement. -/
theorem kindFromDict_reads (h : PaymentRequirementsKind.fromDict u requirement = .ok kind)
    (hname : kind.extra.name = .str circleBatchingName) :
    HostedCircleGatewayProvider.isGatewayKind requirement = true ∧
      HostedCircleGatewayProvider.requirementsKindRaises requirement = false := by
  obtain ⟨extra, hextra, h⟩ := bind_ok.mp h
  obtain ⟨extra', hread, h⟩ := bind_ok.mp h
  cases h
  obtain ⟨validity, hvalidity, hread⟩ := bind_ok.mp hread
  cases hread
  have hname' : extra.getOr "name" (.str "") = .str circleBatchingName := hname
  have hget : requirement.lookup "extra" = some (.dict extra) := by
    cases hl : requirement.lookup "extra" with
    | none =>
      rw [PyDict.getOr, hl] at hextra
      obtain rfl : [] = extra := Except.ok.inj hextra
      exact absurd (PyVal.str.inj hname') (by decide)
    | some v =>
      rw [PyDict.getOr, hl] at hextra
      cases v with
      | dict d => exact congrArg (fun d => some (PyVal.dict d)) (Except.ok.inj hextra)
      | null | bool | int | float | str | list => cases hextra
  constructor
  · have hhas : extra.has "name" = true := by
      by_contra hnot
      rw [PyDict.getOr_of_not_has (by simpa using hnot)] at hname'
      exact absurd (PyVal.str.inj hname') (by decide)
    rw [PyDict.getOr_of_has hhas] at hname'
    rw [HostedCircleGatewayProvider.isGatewayKind, PyDict.get, hget]
    show decide ((PyDict.get extra "name").asStr = some "GatewayWalletBatched") = true
    rw [hname']
    rfl
  · unfold HostedCircleGatewayProvider.requirementsKindRaises
    rw [hget]
    dsimp only
    split
    · rename_i b hinfinite
      rw [hinfinite] at hvalidity
      cases hvalidity
    · rfl

/-- A requirement that was written does not raise when it is read. -/
theorem requirementsKindRaises_toDict (k : PaymentRequirementsKind) :
    HostedCircleGatewayProvider.requirementsKindRaises k.toDict = false := by
  obtain ⟨scheme, network, asset, amount, limit, payTo, name, version, verifyingContract, validity, assets⟩ := k
  cases validity <;> cases assets <;> rfl

variable (resource) in
/-- Nor does the header of a payment. -/
theorem paymentPayloadRaises_header (k : PaymentRequirementsKind) (hbare : payload.accepted = none) :
    HostedCircleGatewayProvider.paymentPayloadRaises (headerDict { payload with resource := some resource } k) = false := by
  rw [headerDict_eq (show ({ payload with resource := some resource } : PaymentPayload).accepted = none from hbare)]
  show (false || (true && HostedCircleGatewayProvider.requirementsKindRaises k.toDict) || false) = false
  rw [requirementsKindRaises_toDict]
  rfl

variable (networks requirement resource) in
/-- **What Circle receives is what the buyer has signed.** The provider accepts the payment on every enabled network, and
posts the signed message with its signature, and the seller's requirement, under the nonce as the key. -/
theorem circle_receives_signed (hkind : PaymentRequirementsKind.fromDict u requirement = .ok kind)
    (hname : kind.extra.name = .str circleBatchingName)
    (hnetwork : networks = [] ∨ (requirement.getOr "network" (.str "")).isIn networks = true)
    (hsigned : Signed u text signer now (updatedKind kind contract) amount domain message payload) :
    let envelope := sellerEnvelope requirement { payload with resource := some resource } (updatedKind kind contract)
    validateEnvelope networks envelope = .ok () ∧
      ∃ request posted required signature, submit u envelope = .ok request ∧
        signer.sign domain message = .ok signature ∧
        request.body = [("paymentPayload", .dict posted), ("paymentRequirements", .dict required)] ∧
        PyDict.get posted "payload" = .dict
          [("authorization", .dict
              [("from", .str message.fromAddress), ("to", .str message.toAddress), ("value", .str (toString message.value)),
                ("validAfter", .str "0"), ("validBefore", .str (toString message.validBefore)),
                ("nonce", .str message.nonce)]),
            ("signature", .str ("0x" ++ signature))] ∧
        PyDict.get posted "accepted" = .dict required ∧
        (∀ field ∈ comparedFields, PyDict.get required field = requirement.getOr field (.str "")) ∧
        request.idempotencyKey = if message.nonce = "" then .null else .str message.nonce := by
  intro envelope
  obtain ⟨hgateway, hraises⟩ := kindFromDict_reads hkind hname
  have hpayload := paymentPayloadRaises_header resource (updatedKind kind contract) hsigned.bare.2
  have haccepted : PyDict.get envelope.paymentPayload "accepted" = .dict (updatedKind kind contract).toDict := by
    show PyDict.get (headerDict _ _) "accepted" = _
    rw [get_headerDict, if_pos rfl]
  have hvalid : validateEnvelope networks envelope = .ok () := by
    have hnot : (!networks.isEmpty && !((requirement.lookup "network").getD (.str "")).isIn networks) = false := by
      rcases hnetwork with rfl | h
      · rfl
      · have h' : ((requirement.lookup "network").getD (.str "")).isIn networks = true := h
        rw [h']
        exact Bool.and_false _
    unfold validateEnvelope
    dsimp only
    rw [haccepted]
    show (if (!HostedCircleGatewayProvider.isGatewayKind requirement) = true then _
      else if HostedCircleGatewayProvider.requirementsKindRaises requirement = true then _
      else if (!networks.isEmpty && !((requirement.lookup "network").getD (.str "")).isIn networks) = true then _
      else if HostedCircleGatewayProvider.paymentPayloadRaises (headerDict _ _) = true then _ else _) = _
    rw [hgateway, hraises, hnot, hpayload]
    rfl
  obtain ⟨request, inner, auth, posted, required, hsubmit, hs⟩ := submit_ok (u := u) hvalid
  obtain ⟨signature, hsign, hwritten⟩ := hsigned.signature
  have hinner : inner = payload.payload.toDict := by
    have hread : PyDict.getOr (headerDict { payload with resource := some resource } (updatedKind kind contract)) "payload"
        (.dict []) = .dict inner := hs.readInner
    rw [headerDict_eq (show ({ payload with resource := some resource } : PaymentPayload).accepted = none from
      hsigned.bare.2)] at hread
    exact (PyVal.dict.inj hread).symm
  subst hinner
  have hauth : auth = payload.payload.authorization.toDict := (PyVal.dict.inj hs.readAuth).symm
  subst hauth
  refine ⟨hvalid, request, posted, required, signature, hsubmit, hsign, hs.body, ?_, hs.accepted, hs.fields, ?_⟩
  · rw [hs.signed]
    show PyVal.dict [("authorization", .dict payload.payload.authorization.toDict),
      ("signature", payload.payload.signature)] = _
    rw [hwritten, hsigned.authorization]
    rfl
  · rw [hs.key]
    show (if payload.payload.authorization.nonce.truthy = true then payload.payload.authorization.nonce else .null) = _
    rw [hsigned.authorization]
    show (if (message.nonce != "") = true then PyVal.str message.nonce else .null) = _
    by_cases hempty : message.nonce = ""
    · rw [if_pos hempty, hempty]
      rfl
    · rw [if_neg hempty, if_pos (bne_iff_ne.mpr hempty)]

/-- What the buyer has signed for the shop reaches Circle. -/
theorem circle_receives_shop : ∃ (request : SettleRequest) (message : Eip712Message) (payload : PaymentPayload),
    submit .ascii (sellerEnvelope (shopRequirement circleBatchingName) payload (updatedKind shopKind (.str "0xc0"))) =
      .ok request ∧
    request.idempotencyKey = if message.nonce = "" then .null else .str message.nonce := by
  obtain ⟨amount, domain, message, payload, hsigned⟩ := shop_signed
  obtain ⟨-, request, posted, required, signature, hsubmit, -, -, -, -, -, hkey⟩ := circle_receives_signed
    ["eip155:5042002"] (shopRequirement circleBatchingName) (directResource "0xb0" "eip155:5042002") rfl rfl (.inr rfl)
    hsigned
  exact ⟨request, message, _, hsubmit, hkey⟩

end Posted

end Nanopayments
end HostedFacilitator
