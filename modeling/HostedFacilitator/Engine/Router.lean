import HostedFacilitator.Lib.Table
import HostedFacilitator.Engine.Envelope

/-!
# Payment profiles, routing, and the start of `settle`

`tenancy.py` and `router.py`, and the part of `engine.settle` that runs before any store is touched: validation,
routing, the provider's own checks, the fingerprint (`prepare`). Its result is the claim the request will make.

A request is looked up by the scheme and network of `paymentRequirements`, its fingerprint hashes those of
`paymentPayload.accepted`. Requests are `Coherent` when those with the seller and the fingerprint of a payment have equal
providers, schemes and networks; `coherent_of_text` says that this is so when the two places carry strings.
-/

namespace HostedFacilitator

structure PaymentProfileConfig where
  paymentProfileId : String := "default"
  status : String := "active"
  enabledNetworks : List String := ["eip155:5042002"]
  enabledSchemes : List String := ["exact"]
  enabledProviders : List String := ["exact_evm"]
  allowedAssets : List String := []
  allowedPayTo : List String := []

structure SellerAccountConfig where
  sellerAccountId : String
  status : String := "active"
  paymentProfiles : List PaymentProfileConfig := []
  enabledNetworks : List String := ["eip155:5042002"]
  enabledSchemes : List String := ["exact"]
  enabledProviders : List String := ["exact_evm"]
  allowedAssets : List String := []
  allowedPayTo : List String := []

/-- `default_payment_profile`. -/
def SellerAccountConfig.defaultPaymentProfile (s : SellerAccountConfig) : PaymentProfileConfig :=
  match s.paymentProfiles with
  | p :: _ => p
  | [] =>
    { paymentProfileId := "default", status := s.status, enabledNetworks := s.enabledNetworks,
      enabledSchemes := s.enabledSchemes, enabledProviders := s.enabledProviders,
      allowedAssets := s.allowedAssets, allowedPayTo := s.allowedPayTo }

structure RequestContext where
  traceId : String
  sellerAccount : SellerAccountConfig
  paymentProfile : Option PaymentProfileConfig := none

/-- `active_payment_profile`. -/
def RequestContext.activePaymentProfile (c : RequestContext) : PaymentProfileConfig :=
  c.paymentProfile.getD c.sellerAccount.defaultPaymentProfile

/-- `type(v).__name__`. -/
def PyVal.typeName : PyVal → String
  | .null => "NoneType"
  | .bool _ => "bool"
  | .int _ => "int"
  | .float _ => "float"
  | .str _ => "str"
  | .list _ => "list"
  | .dict _ => "dict"

/-- `v.lower()`, which only a string has. -/
def PyVal.lower (text : Text) : PyVal → Except PyErr String
  | .str s => .ok (text.lower s)
  | v => .error (.other "AttributeError" ("\x27" ++ v.typeName ++ "\x27 object has no attribute \x27lower\x27"))

namespace PaymentProfileConfig

/-- A value is refused when there is a list of allowed ones and it is not on it. -/
def refuses (text : Text) (v : PyVal) (allowed : List String) : Except PyErr Bool :=
  if v.truthy && !allowed.isEmpty then (v.lower text).map fun s => !allowed.contains s else .ok false

/-- `allows`. -/
def allows (text : Text) (p : PaymentProfileConfig) (scheme network : PyVal) (provider : String)
    (asset payTo : PyVal) : Except PyErr Bool :=
  if p.status ≠ "active" then .ok false
  else if !p.enabledProviders.contains provider then .ok false
  else if scheme.truthy && !scheme.isIn p.enabledSchemes then .ok false
  else if network.truthy && !network.isIn p.enabledNetworks then .ok false
  else do
    let refused ← refuses text asset p.allowedAssets
    if refused then .ok false else (refuses text payTo p.allowedPayTo).map (!·)

end PaymentProfileConfig

/-! ## `router.py` -/

/-- A provider, as the router and the start of `settle` see it; `matchesKind` is its method `matches`. -/
structure Provider where
  name : String
  matchesKind : Option (PyVal → PyVal → PyDict → Bool) := none
  supportedNetworks : List String := []
  validateEnvelope : FacilitatorEnvelope → Except PyErr Unit := fun _ => .ok ()
  preflightSettlement : FacilitatorEnvelope → RequestContext → Except PyErr Unit := fun _ _ => .ok ()

/-- The registered providers, by name. -/
structure ProviderRouter where
  providers : List Provider
  names_nodup : (providers.map Provider.name).Nodup

namespace ProviderRouter

variable (router : ProviderRouter)

def provider (name : String) : Option Provider := Table.row Provider.name name router.providers

/-- `_provider_supports_network`. -/
def providerSupportsNetwork (p : Provider) (network : PyVal) : Bool :=
  p.supportedNetworks.isEmpty || network.isIn p.supportedNetworks

/-- `_provider_name_for`. -/
def providerNameFor (scheme network : PyVal) (extra : PyDict) : String :=
  match router.providers.find? fun p => (p.matchesKind.map fun m => m scheme network extra).getD false with
  | some p => p.name
  | none =>
    if scheme.asStr = some "exact" then
      match router.provider "exact_evm" with
      | some p => if providerSupportsNetwork p network then "exact_evm" else "delegated_http"
      | none => "delegated_http"
    else "unsupported"

/-- `route`. -/
def route (text : Text) (envelope : FacilitatorEnvelope) (profile : PaymentProfileConfig) :
    Except PyErr Provider :=
  let requirements := envelope.paymentRequirements
  let scheme := requirements.get "scheme"
  let network := requirements.get "network"
  let extra := (requirements.get "extra").asDict.getD []
  let name := router.providerNameFor scheme network extra
  match router.provider name with
  | none => .error (.lookup ("No hosted facilitator provider registered for " ++ name))
  | some p => do
    let allowed ← profile.allows text scheme network name ((requirements.get "asset").lowerStr text)
      ((requirements.get "payTo").lowerStr text)
    if allowed then .ok p
    else .error (.permission ("Payment profile " ++ profile.paymentProfileId ++ " does not allow " ++ name ++
      " for " ++ (scheme.orElse (.str "unknown")).toStr text ++ " on " ++
      (network.orElse (.str "unknown")).toStr text))

/-- `provider_name_for_envelope`. -/
def providerNameForEnvelope (envelope : FacilitatorEnvelope) : String :=
  let requirements := envelope.paymentRequirements
  router.providerNameFor (requirements.get "scheme") (requirements.get "network")
    ((requirements.get "extra").asDict.getD [])

/-- The provider of a route goes by the name that is looked up for the envelope. -/
theorem route_name {text : Text} {envelope : FacilitatorEnvelope} {profile : PaymentProfileConfig} {p : Provider}
    (h : router.route text envelope profile = .ok p) : p.name = router.providerNameForEnvelope envelope := by
  unfold route at h
  simp only at h
  split at h
  · cases h
  · rename_i p' hp'
    obtain ⟨allowed, -, h⟩ := bind_ok.mp h
    split at h
    · cases h
      exact Table.row_key hp'
    · cases h

/-- The name is that of a registered provider, or one of the two that stand for none. -/
theorem providerNameFor_cases (scheme network : PyVal) (extra : PyDict) :
    (∃ p ∈ router.providers, router.providerNameFor scheme network extra = p.name) ∨
      router.providerNameFor scheme network extra = "delegated_http" ∨
      router.providerNameFor scheme network extra = "unsupported" := by
  unfold providerNameFor
  split
  · rename_i p hp
    exact Or.inl ⟨p, List.mem_of_find?_eq_some hp, rfl⟩
  · split
    · split
      · rename_i p hp
        split
        · exact Or.inl ⟨p, Table.row_mem hp, (Table.row_key hp).symm⟩
        · exact Or.inr (Or.inl rfl)
      · exact Or.inr (Or.inl rfl)
    · exact Or.inr (Or.inr rfl)

end ProviderRouter

/-! ## The start of `settle` -/

/-- An envelope whose required scheme and network are strings or null: `str | None` is the type that every store
declares for the two. -/
structure TextEnvelope extends FacilitatorEnvelope where
  scheme_text : (paymentRequirements.get "scheme").asOptStr.isSome = true
  network_text : (paymentRequirements.get "network").asOptStr.isSome = true

namespace TextEnvelope

variable (e : TextEnvelope)

/-- `requirements.get("scheme")`. -/
def scheme : Option String := (e.paymentRequirements.get "scheme").asOptStr.get e.scheme_text

/-- `requirements.get("network")`. -/
def network : Option String := (e.paymentRequirements.get "network").asOptStr.get e.network_text

end TextEnvelope

/-- The claim that a request makes after its checks. -/
def TextEnvelope.claimRequest (text : Text) (envelope : TextEnvelope) (context : RequestContext)
    (provider fingerprint : String) : ClaimRequest where
  sellerAccountId := context.sellerAccount.sellerAccountId
  paymentProfileId := context.activePaymentProfile.paymentProfileId
  fingerprint := fingerprint
  provider := provider
  scheme := envelope.scheme
  network := envelope.network
  traceId := context.traceId
  safeRequirements := safeRequirements text envelope.paymentRequirements

/-- `settle`, up to the fingerprint. -/
def prepare (text : Text) (router : ProviderRouter) (envelope : TextEnvelope) (context : RequestContext) :
    Except PyErr SettleCall := do
  let _ ← validateSettlementEnvelope text envelope.toFacilitatorEnvelope
  let provider ← router.route text envelope.toFacilitatorEnvelope context.activePaymentProfile
  provider.validateEnvelope envelope.toFacilitatorEnvelope
  provider.preflightSettlement envelope.toFacilitatorEnvelope context
  let fingerprint ← settlementFingerprint text envelope.toFacilitatorEnvelope provider.name
  .ok
    { request := envelope.claimRequest text context provider.name fingerprint
      authorizationFrom := payerFromPaymentPayload envelope.paymentPayload }

/-- What a prepared call says about its envelope. -/
theorem prepare_ok {text : Text} {router : ProviderRouter} {envelope : TextEnvelope} {context : RequestContext}
    {call : SettleCall} (h : prepare text router envelope context = .ok call) :
    ∃ accepted, validateSettlementEnvelope text envelope.toFacilitatorEnvelope = .ok accepted ∧
      settlementFingerprint text envelope.toFacilitatorEnvelope call.request.provider =
        .ok call.request.fingerprint ∧
      call.request = envelope.claimRequest text context call.request.provider call.request.fingerprint := by
  obtain ⟨accepted, hacc, h⟩ := bind_ok.mp h
  obtain ⟨provider, -, h⟩ := bind_ok.mp h
  obtain ⟨_, -, h⟩ := bind_ok.mp h
  obtain ⟨_, -, h⟩ := bind_ok.mp h
  obtain ⟨fingerprint, hf, h⟩ := bind_ok.mp h
  cases h
  exact ⟨accepted, hacc, hf, rfl⟩

/-! ## Coherent requests -/

/-- The requests for a payment have one provider, scheme and network. -/
def Coherent (payment : PaymentKey) (requests : List ClaimRequest) : Prop :=
  ∀ c ∈ requests, c.paymentKey = payment → ∀ c' ∈ requests, c'.paymentKey = payment → c.replayKey = c'.replayKey

section Coherent

variable {payment : PaymentKey} {cs cs' : List ClaimRequest} {c : ClaimRequest}

theorem Coherent.sublist (h : Coherent payment cs') (hs : ∀ c ∈ cs, c ∈ cs') : Coherent payment cs :=
  fun c hc hk c' hc' hk' => h c (hs c hc) hk c' (hs c' hc') hk'

theorem Coherent.cons (h : Coherent payment cs) (hc : c ∈ cs) : Coherent payment (c :: cs) := by
  refine h.sublist fun c' hc' => ?_
  rcases List.mem_cons.mp hc' with rfl | hc'
  · exact hc
  · exact hc'

theorem Coherent.tail (h : Coherent payment (c :: cs)) : Coherent payment cs :=
  h.sublist fun _ hc => List.mem_cons_of_mem c hc

end Coherent

/-- Equal digests come from equal providers, schemes and networks: the three are hashed. -/
def Text.Distinguishes (text : Text) (payments : List PyDict) : Prop :=
  ∀ d ∈ payments, ∀ d' ∈ payments, text.sha256 (text.jsonDumps (.dict d)) = text.sha256 (text.jsonDumps (.dict d')) →
    d.get "provider" = d'.get "provider" ∧ d.get "scheme" = d'.get "scheme" ∧ d.get "network" = d'.get "network"

/-- The accepted and the required scheme and network are strings. -/
structure TextEnvelope.Strings (e : TextEnvelope) : Prop where
  scheme : e.scheme.isSome = true
  network : e.network.isSome = true
  accepted_scheme : ∀ d, e.paymentPayload.get "accepted" = .dict d → (PyDict.get d "scheme").asStr.isSome = true
  accepted_network : ∀ d, e.paymentPayload.get "accepted" = .dict d → (PyDict.get d "network").asStr.isSome = true

section Coherence

variable {text : Text} {router : ProviderRouter} {requests : List (TextEnvelope × RequestContext)}

/-- The claims that the accepted requests make. -/
def claimsOf (text : Text) (router : ProviderRouter) (requests : List (TextEnvelope × RequestContext)) :
    List ClaimRequest :=
  requests.filterMap fun x => (prepare text router x.1 x.2).toOption.map SettleCall.request

/-- The dictionaries that are hashed for them. -/
def paymentsOf (text : Text) (router : ProviderRouter) (requests : List (TextEnvelope × RequestContext)) :
    List PyDict :=
  requests.filterMap fun x => (prepare text router x.1 x.2).toOption.bind fun call =>
    (canonicalPayment text x.1.paymentPayload x.1.paymentRequirements call.request.provider
      x.1.x402Version).toOption

theorem canonicalPayment_ok {payload requirements d : PyDict} {provider : String} {version : Int}
    (h : canonicalPayment text payload requirements provider version = .ok d) :
    d.get "provider" = .str provider ∧
      d.get "scheme" = ((payload.get "accepted").asDict.getD requirements).get "scheme" ∧
      d.get "network" = ((payload.get "accepted").asDict.getD requirements).get "network" := by
  obtain ⟨_, -, h⟩ := bind_ok.mp h
  obtain ⟨_, -, h⟩ := bind_ok.mp h
  obtain ⟨_, -, h⟩ := bind_ok.mp h
  obtain ⟨_, -, h⟩ := bind_ok.mp h
  cases h
  exact ⟨rfl, rfl, rfl⟩

/-- Two strings, or null, with one text. -/
theorem asOptStr_of_toStr {v w : PyVal} {s : Option String} (hw : w.asOptStr = some s) (hs : s.isSome = true)
    (hv : v.asStr.isSome = true) (h : v.toStr text = w.toStr text) : v = .str (s.getD "") := by
  cases v <;> first | (cases hv; done) | skip
  cases w <;> first | (cases hw; done) | skip
  · cases hw
    cases hs
  · cases hw
    simpa [PyVal.toStr] using h

/-- What is hashed for a request with strings: the scheme and the network of its claim. -/
theorem hashed_of_prepare {e : TextEnvelope} {context : RequestContext} {call : SettleCall} (hs : e.Strings)
    (h : prepare text router e context = .ok call) :
    ∃ d, canonicalPayment text e.paymentPayload e.paymentRequirements call.request.provider e.x402Version = .ok d ∧
      call.request.fingerprint = text.sha256 (text.jsonDumps (.dict d)) ∧
      d.get "provider" = .str call.request.provider ∧
      d.get "scheme" = .str (call.request.scheme.getD "") ∧ call.request.scheme.isSome = true ∧
      d.get "network" = .str (call.request.network.getD "") ∧ call.request.network.isSome = true := by
  obtain ⟨accepted, hval, hfp, hreq⟩ := prepare_ok h
  obtain ⟨hacc, hscheme, hnetwork⟩ := fields_agree hval
  obtain ⟨d, hd, hdig⟩ : ∃ d, canonicalPayment text e.paymentPayload e.paymentRequirements call.request.provider
      e.x402Version = .ok d ∧ text.sha256 (text.jsonDumps (.dict d)) = call.request.fingerprint := by
    unfold settlementFingerprint paymentFingerprint at hfp
    cases hc : canonicalPayment text e.paymentPayload e.paymentRequirements call.request.provider e.x402Version with
    | error err => rw [hc] at hfp; cases hfp
    | ok d =>
      rw [hc] at hfp
      exact ⟨d, rfl, Except.ok.inj hfp⟩
  obtain ⟨hp, hds, hdn⟩ := canonicalPayment_ok hd
  rw [hacc] at hds hdn
  have hcs : call.request.scheme = e.scheme := by rw [hreq]; rfl
  have hcn : call.request.network = e.network := by rw [hreq]; rfl
  have hes : (e.paymentRequirements.get "scheme").asOptStr = some e.scheme := (Option.some_get _).symm
  have hen : (e.paymentRequirements.get "network").asOptStr = some e.network := (Option.some_get _).symm
  refine ⟨d, hd, hdig.symm, hp, ?_, by rw [hcs]; exact hs.scheme, ?_, by rw [hcn]; exact hs.network⟩
  · rw [hcs]
    exact hds.trans (asOptStr_of_toStr hes hs.scheme (hs.accepted_scheme accepted hacc) hscheme)
  · rw [hcn]
    exact hdn.trans (asOptStr_of_toStr hen hs.network (hs.accepted_network accepted hacc) hnetwork)

/-- Requests with strings are coherent, as long as their digests do not collide. -/
theorem coherent_of_text (hs : ∀ x ∈ requests, x.1.Strings) (hd : text.Distinguishes (paymentsOf text router requests)) :
    ∀ payment, Coherent payment (claimsOf text router requests) := by
  have hmem : ∀ c ∈ claimsOf text router requests, ∃ d ∈ paymentsOf text router requests,
      c.fingerprint = text.sha256 (text.jsonDumps (.dict d)) ∧ d.get "provider" = .str c.provider ∧
      d.get "scheme" = .str (c.scheme.getD "") ∧ c.scheme.isSome = true ∧
      d.get "network" = .str (c.network.getD "") ∧ c.network.isSome = true := by
    intro c hc
    obtain ⟨x, hx, hxc⟩ := List.mem_filterMap.mp hc
    obtain ⟨call, hcall, rfl⟩ := Option.map_eq_some_iff.mp hxc
    have hprep : prepare text router x.1 x.2 = .ok call := by
      cases hp : prepare text router x.1 x.2 with
      | error e => rw [hp] at hcall; cases hcall
      | ok c => rw [hp] at hcall; exact congrArg Except.ok (Option.some.inj hcall)
    obtain ⟨d, hcan, hrest⟩ := hashed_of_prepare (hs x hx) hprep
    refine ⟨d, List.mem_filterMap.mpr ⟨x, hx, ?_⟩, hrest⟩
    rw [hcall, Option.bind_some, hcan]
    rfl
  rintro _ c hc rfl c' hc' hk
  obtain ⟨d, hdm, hf, hp, hsch, hsome, hnet, hnsome⟩ := hmem c hc
  obtain ⟨d', hdm', hf', hp', hsch', hsome', hnet', hnsome'⟩ := hmem c' hc'
  simp only [ClaimRequest.paymentKey, PaymentKey.mk.injEq] at hk
  obtain ⟨hdp, hds, hdn⟩ := hd d hdm d' hdm' (hf.symm.trans (hk.2.symm.trans hf'))
  rw [hp, hp', PyVal.str.injEq] at hdp
  rw [hsch, hsch', PyVal.str.injEq] at hds
  rw [hnet, hnet', PyVal.str.injEq] at hdn
  have getD_inj : ∀ {a b : Option String}, a.isSome = true → b.isSome = true → a.getD "" = b.getD "" → a = b := by
    intro a b ha hb hab
    obtain ⟨x, rfl⟩ := Option.isSome_iff_exists.mp ha
    obtain ⟨y, rfl⟩ := Option.isSome_iff_exists.mp hb
    exact congrArg some hab
  simp only [ClaimRequest.replayKey, hk.1, hk.2, hdp, getD_inj hsome hsome' hds, getD_inj hnsome hnsome' hdn]

end Coherence

end HostedFacilitator
