import HostedFacilitator.Engine.Fingerprint
import HostedFacilitator.Engine.Router

/-!
# What a payment profile permits

`PaymentProfileConfig.allows` checks four values of a request, each against a list of the profile, and skips a value
that is false: it takes `None` for a value that is not given, and `""`, `0`, `False` or an empty container for the same.
`Permits` is what the checks come to (`allows_iff`), and the router returns a provider exactly when it is registered under
the name of the envelope and the profile permits the payment (`route_ok_iff`).
-/

namespace HostedFacilitator

/-- What `str.lower()` does beyond its tables: small letters stay, and no text vanishes. -/
structure Text.Lowers (text : Text) : Prop where
  lower_lower : ∀ s, text.lower (text.lower s) = text.lower s
  lower_eq_empty : ∀ s, text.lower s = "" ↔ s = ""

/-- The profile permits a payment: every value that is given is on the list for it, and the lists of assets and recipients
count when they are not empty. -/
structure Permits (text : Text) (profile : PaymentProfileConfig) (scheme network : PyVal) (provider : String)
    (asset payTo : PyVal) : Prop where
  active : profile.status = "active"
  provider : provider ∈ profile.enabledProviders
  scheme : scheme.truthy = true → ∃ s, scheme = .str s ∧ s ∈ profile.enabledSchemes
  network : network.truthy = true → ∃ s, network = .str s ∧ s ∈ profile.enabledNetworks
  asset : asset.truthy = true → profile.allowedAssets ≠ [] → ∃ s, asset = .str s ∧ text.lower s ∈ profile.allowedAssets
  payTo : payTo.truthy = true → profile.allowedPayTo ≠ [] → ∃ s, payTo = .str s ∧ text.lower s ∈ profile.allowedPayTo

section Allows

variable {text : Text} {profile : PaymentProfileConfig} {scheme network asset payTo v : PyVal} {provider : String}
  {names : List String}

theorem isIn_iff : v.isIn names = true ↔ ∃ s, v = .str s ∧ s ∈ names := by
  cases v with
  | str s => simp [PyVal.isIn, PyVal.asStr]
  | null | bool | int | float | list | dict => simp [PyVal.isIn, PyVal.asStr]

/-- A value that is given is on the list. -/
theorem given_isIn_iff :
    (v.truthy && !v.isIn names) = false ↔ (v.truthy = true → ∃ s, v = .str s ∧ s ∈ names) := by
  rw [← isIn_iff]
  cases v.truthy <;> cases v.isIn names <;> simp

theorem refuses_false_iff : PaymentProfileConfig.refuses text v names = .ok false ↔
    (v.truthy = true → names ≠ [] → ∃ s, v = .str s ∧ text.lower s ∈ names) := by
  unfold PaymentProfileConfig.refuses
  split
  · rename_i h
    simp only [Bool.and_eq_true, Bool.not_eq_true', List.isEmpty_eq_false_iff] at h
    cases v with
    | str s => simp [PyVal.lower, Except.map, h.1, h.2]
    | null | bool | int | float | list | dict => simp [PyVal.lower, Except.map, h.1, h.2]
  · rename_i h
    simp only [Bool.and_eq_true, Bool.not_eq_true', List.isEmpty_eq_false_iff, not_and] at h
    exact iff_of_true rfl fun ht hne => absurd hne (h ht)

theorem not_contains_iff {s : String} : (!names.contains s) = false ↔ s ∈ names := by simp

/-- **The checks come to** `Permits`. -/
theorem allows_iff : profile.allows text scheme network provider asset payTo = .ok true ↔
    Permits text profile scheme network provider asset payTo := by
  unfold PaymentProfileConfig.allows
  constructor
  · intro h
    split at h
    · cases h
    rename_i hactive
    split at h
    · cases h
    rename_i hprovider
    split at h
    · cases h
    rename_i hscheme
    split at h
    · cases h
    rename_i hnetwork
    obtain ⟨refused, hasset, h⟩ := bind_ok.mp h
    cases refused with
    | true => cases h
    | false =>
      rw [if_neg (by decide)] at h
      have hpayTo : PaymentProfileConfig.refuses text payTo profile.allowedPayTo = .ok false := by
        cases hr : PaymentProfileConfig.refuses text payTo profile.allowedPayTo with
        | error e => rw [hr] at h; cases h
        | ok b => rw [hr] at h; cases b <;> first | rfl | cases h
      exact ⟨not_not.mp hactive, not_contains_iff.mp (Bool.not_eq_true _ ▸ hprovider),
        given_isIn_iff.mp (Bool.not_eq_true _ ▸ hscheme), given_isIn_iff.mp (Bool.not_eq_true _ ▸ hnetwork),
        refuses_false_iff.mp hasset, refuses_false_iff.mp hpayTo⟩
  · intro h
    rw [if_neg (not_not.mpr h.active), not_contains_iff.mpr h.provider, given_isIn_iff.mpr h.scheme,
      given_isIn_iff.mpr h.network, refuses_false_iff.mpr h.asset, refuses_false_iff.mpr h.payTo]
    rfl

end Allows

/-! ## The router -/

section Route

variable {text : Text} {router : ProviderRouter} {envelope : FacilitatorEnvelope} {profile : PaymentProfileConfig}
  {p : Provider} {v : PyVal} {names : List String}

/-- The router returns a provider exactly when it is registered and the profile permits the payment. -/
theorem route_ok_iff : router.route text envelope profile = .ok p ↔
    router.provider (router.providerNameForEnvelope envelope) = some p ∧
      Permits text profile (envelope.paymentRequirements.get "scheme") (envelope.paymentRequirements.get "network")
        (router.providerNameForEnvelope envelope) ((envelope.paymentRequirements.get "asset").lowerStr text)
        ((envelope.paymentRequirements.get "payTo").lowerStr text) := by
  rw [← allows_iff]
  unfold ProviderRouter.route
  simp only
  rw [← ProviderRouter.providerNameForEnvelope]
  cases hp : router.provider (router.providerNameForEnvelope envelope) with
  | none => exact iff_of_false (fun h => by cases h) fun h => by cases h.1
  | some q =>
    simp only [Option.some.injEq]
    generalize PaymentProfileConfig.allows text profile _ _ _ _ _ = allowed
    cases allowed with
    | error e => exact iff_of_false (fun h => by cases h) fun h => by cases h.2
    | ok b =>
      cases b with
      | true => exact ⟨fun h => ⟨Except.ok.inj h, rfl⟩, fun h => congrArg Except.ok h.1⟩
      | false => exact iff_of_false (fun h => by cases h) fun h => by cases h.2

theorem lowerStr_truthy (hlower : text.Lowers) (v : PyVal) : (v.lowerStr text).truthy = v.truthy := by
  cases v with
  | str s =>
    rw [Bool.eq_iff_iff]
    simp [PyVal.lowerStr, PyVal.truthy, hlower.lower_eq_empty]
  | null | bool | int | float | list | dict => rfl

/-- A value that was lowered before the check is checked like the value itself. -/
theorem lowered_iff (hlower : text.Lowers) :
    (∃ s, v.lowerStr text = .str s ∧ text.lower s ∈ names) ↔ ∃ s, v = .str s ∧ text.lower s ∈ names := by
  cases v with
  | str s => simp [PyVal.lowerStr, hlower.lower_lower]
  | null | bool | int | float | list | dict => simp [PyVal.lowerStr]

/-- **A routed payment is permitted**: the profile is active, the provider is enabled, the scheme and the network are on
their lists where they are given, and so are the asset and the recipient, in small letters, where the lists have an
entry. -/
theorem route_permits (hlower : text.Lowers) (h : router.route text envelope profile = .ok p) :
    profile.status = "active" ∧ p.name ∈ profile.enabledProviders ∧
      ((envelope.paymentRequirements.get "scheme").truthy = true →
        ∃ s, envelope.paymentRequirements.get "scheme" = .str s ∧ s ∈ profile.enabledSchemes) ∧
      ((envelope.paymentRequirements.get "network").truthy = true →
        ∃ s, envelope.paymentRequirements.get "network" = .str s ∧ s ∈ profile.enabledNetworks) ∧
      ((envelope.paymentRequirements.get "asset").truthy = true → profile.allowedAssets ≠ [] →
        ∃ s, envelope.paymentRequirements.get "asset" = .str s ∧ text.lower s ∈ profile.allowedAssets) ∧
      ((envelope.paymentRequirements.get "payTo").truthy = true → profile.allowedPayTo ≠ [] →
        ∃ s, envelope.paymentRequirements.get "payTo" = .str s ∧ text.lower s ∈ profile.allowedPayTo) := by
  obtain ⟨-, hpermits⟩ := route_ok_iff.mp h
  refine ⟨hpermits.active, router.route_name h ▸ hpermits.provider, hpermits.scheme, hpermits.network, ?_, ?_⟩
  · intro hgiven hne
    exact (lowered_iff hlower).mp (hpermits.asset ((lowerStr_truthy hlower _).trans hgiven) hne)
  · intro hgiven hne
    exact (lowered_iff hlower).mp (hpermits.payTo ((lowerStr_truthy hlower _).trans hgiven) hne)

end Route

section Sample

theorem sampleText_lowers : (Payment.paymentText.withDecimals .ascii).Lowers where
  lower_lower := by
    intro s
    show Payment.asciiLower (Payment.asciiLower s) = Payment.asciiLower s
    rw [Payment.asciiLower, Payment.asciiLower, String.toList_ofList, List.map_map]
    congr 1
    apply List.map_congr_left
    intro c _
    show c.toLower.toLower = c.toLower
    rw [← Char.toNat_inj, Payment.toLower_toNat, Payment.toLower_toNat]
    by_cases hc : 65 ≤ c.toNat ∧ c.toNat ≤ 90
    · rw [if_pos hc, if_neg (by omega)]
    · rw [if_neg hc, if_neg hc]
  lower_eq_empty := by
    intro s
    show Payment.asciiLower s = "" ↔ s = ""
    rw [Payment.asciiLower, ← String.toList_inj, String.toList_ofList, ← String.toList_inj]
    simp

/-- The registered provider of the samples, and a profile that takes one asset. -/
def assetRouter : ProviderRouter where
  providers := [{ name := "exact_evm" }]
  names_nodup := by decide

def assetProfile : PaymentProfileConfig where
  enabledNetworks := ["eip155:8453"]
  allowedAssets := ["0xa1"]

theorem assetRouter_routes {asset : String}
    (h : asset ≠ "" → Payment.asciiLower asset = "0xa1") :
    assetRouter.route (Payment.paymentText.withDecimals .ascii) (assetEnvelope asset (.str "1000")) assetProfile =
      .ok { name := "exact_evm" } := by
  have hname : assetRouter.providerNameForEnvelope (assetEnvelope asset (.str "1000")) = "exact_evm" := rfl
  rw [route_ok_iff, hname]
  refine ⟨rfl, ⟨rfl, by decide, fun _ => ⟨"exact", rfl, by decide⟩, fun _ => ⟨"eip155:8453", rfl, by decide⟩, ?_,
    fun _ hne => absurd rfl hne⟩⟩
  intro hgiven _
  have hne : asset ≠ "" := by
    rw [lowerStr_truthy sampleText_lowers] at hgiven
    exact bne_iff_ne.mp hgiven
  refine ⟨Payment.asciiLower asset, rfl, ?_⟩
  have hlower := sampleText_lowers.lower_lower asset
  have hasset : (Payment.paymentText.withDecimals .ascii).lower asset = "0xa1" := h hne
  rw [hasset] at hlower
  show (Payment.paymentText.withDecimals .ascii).lower (Payment.asciiLower asset) ∈ ["0xa1"]
  rw [h hne, hlower]
  exact List.mem_singleton.mpr rfl

/-- The asset of the profile, in capital letters. -/
theorem capital_asset_permitted :
    ∃ s, (assetEnvelope "0xA1" (.str "1000")).paymentRequirements.get "asset" = .str s ∧
      (Payment.paymentText.withDecimals .ascii).lower s ∈ assetProfile.allowedAssets :=
  (route_permits sampleText_lowers (assetRouter_routes fun _ => by decide +kernel)).2.2.2.2.1 (by decide +kernel)
    (by decide)

/-- An empty asset is accepted and routed, although the profile takes another one only. -/
theorem empty_asset_routed :
    validateSettlementEnvelope (Payment.paymentText.withDecimals .ascii) (assetEnvelope "" (.str "1000")) =
        .ok (Payment.sampleRequirement "" (.str "1000")) ∧
      assetRouter.route (Payment.paymentText.withDecimals .ascii) (assetEnvelope "" (.str "1000")) assetProfile =
        .ok { name := "exact_evm" } ∧
      assetProfile.allowedAssets ≠ [] ∧
      (assetEnvelope "" (.str "1000")).paymentRequirements.get "asset" = .str "" ∧
      (Payment.paymentText.withDecimals .ascii).lower "" ∉ assetProfile.allowedAssets :=
  ⟨assetEnvelope_valid "" canonicalAmount_thousand, assetRouter_routes fun h => absurd rfl h, by decide, rfl,
    by decide +kernel⟩

end Sample

end HostedFacilitator
