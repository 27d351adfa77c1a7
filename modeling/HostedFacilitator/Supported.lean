import HostedFacilitator.App
import HostedFacilitator.Engine.Policy

/-!
# `/supported`

The route collects the kinds of the enabled providers, and filters them by the profile and by the pauses. Before that it
answers with no kinds when none of the enabled providers or none of the enabled networks is allowed, and it skips providers
that are paused. A network is tried under the provider name `network_probe`; as long as that name is not paused, the early
answers drop nothing that the filters would keep (`supported_eq_plain`).
-/

namespace HostedFacilitator

open PaymentProfileConfig

/-- `provider_name_for_kind`. -/
def ProviderRouter.providerNameForKind (router : ProviderRouter) (kind : PyDict) : String :=
  router.providerNameFor (kind.get "scheme") (kind.get "network") ((kind.get "extra").asDict.getD [])

/-- `providers_for_payment_profile`. -/
def ProviderRouter.providersForPaymentProfile (router : ProviderRouter) (profile : PaymentProfileConfig) :
    List Provider :=
  router.providers.filter fun p => profile.enabledProviders.contains p.name

/-- `_payment_profile_allows_kind`. -/
def paymentProfileAllowsKind (text : Text) (profile : PaymentProfileConfig) (provider : String) (kind : PyDict) :
    Except PyErr Bool :=
  profile.allows text (kind.get "scheme") (kind.get "network") provider ((kind.get "asset").lowerStr text)
    ((kind.get "payTo").lowerStr text)

/-- One round of the inner loop: what passes the check is appended. -/
def keepAllowed {α : Type} (check : α → Except PyErr Bool) (kept : List α) (a : α) : Except PyErr (List α) := do
  if ← check a then .ok (kept ++ [a]) else .ok kept

/-- `engine.supported`; `supported` is what the providers answer. -/
def engineSupported (text : Text) (router : ProviderRouter) (profile : PaymentProfileConfig)
    (supported : Provider → List PyDict) (providerAllowed : String → Bool) : Except PyErr (List PyDict) :=
  (router.providersForPaymentProfile profile).foldlM (fun kinds p =>
    if providerAllowed p.name then
      (supported p).foldlM (keepAllowed (paymentProfileAllowsKind text profile p.name)) kinds
    else .ok kinds) []

section Route

variable (u : Unicode) (text : Text) (router : ProviderRouter) (profile : PaymentProfileConfig)
  (supported : Provider → List PyDict) (state : Option ControlPlaneState)

/-- `_control_plane_allows_kind`; a state without a method `allows` allows everything. -/
def controlPlaneAllowsKind (kind : PyDict) : Bool :=
  match state with
  | none => true
  | some s => s.allows u (router.providerNameForKind kind) (kind.get "network").asStr

/-- `_control_plane_allows_provider`. -/
def controlPlaneAllowsProvider (provider : String) : Bool :=
  match state with
  | none => true
  | some s => s.allows u provider none

/-- `_control_plane_blocks_supported`. -/
def controlPlaneBlocksSupported : Bool :=
  match state with
  | none => false
  | some s =>
    if !profile.enabledProviders.any fun provider => s.allows u provider none then true
    else !profile.enabledNetworks.any fun network => s.allows u "network_probe" (some network)

/-- The kinds that the route returns. -/
def supportedKinds : Except PyErr (List PyDict) :=
  if controlPlaneBlocksSupported u profile state then .ok []
  else (engineSupported text router profile supported (controlPlaneAllowsProvider u state)).map fun kinds =>
    kinds.filter (controlPlaneAllowsKind u router state)

/-- A check that returned `True`. -/
def returnedTrue : Except PyErr Bool → Bool
  | .ok b => b
  | .error _ => false

/-- All kinds of all providers, as far as the profile and the pauses allow them. -/
def plainKinds : List PyDict :=
  router.providers.flatMap fun p => (supported p).filter fun kind =>
    returnedTrue (paymentProfileAllowsKind text profile p.name kind) && controlPlaneAllowsKind u router state kind

/-- Every kind has a network and is routed back to the provider that it comes from. -/
def RoutedBack : Prop :=
  ∀ p ∈ router.providers, ∀ kind ∈ supported p,
    (∃ network, kind.get "network" = .str network ∧ network ≠ "") ∧ router.providerNameForKind kind = p.name

end Route

/-! ## The pauses -/

section Pauses

variable {u : Unicode} {provider network : String}

/-- A provider is paused by its name. -/
def ControlPlaneState.providerPaused (u : Unicode) (provider : String) : ControlPlaneState → Bool
  | .memory m => decide (safeProviderName u provider ∈ m.pause.providers)
  | .postgres t => t.pauseTargets.any fun row =>
      row.2.paused && row.1 == (.provider, safeProviderName u provider)

/-- What is allowed on a network is allowed without one. -/
theorem allows_without_network {s : ControlPlaneState} (h : s.allows u provider (some network) = true) :
    s.allows u provider none = true := by
  cases s with
  | memory m =>
    simp only [ControlPlaneState.allows, ControlPlane.Memory.allows] at h ⊢
    split at h
    · cases h
    rename_i hglobal
    split at h
    · cases h
    rename_i hprovider
    rw [if_neg hglobal, if_neg hprovider]
    rfl
  | postgres t =>
    simp only [ControlPlaneState.allows, ControlPlane.Tables.allows, Bool.not_eq_true', List.any_eq_false,
      Bool.and_eq_true, List.contains_iff_mem, List.mem_append, not_and] at h ⊢
    intro row hrow hpaused hmem
    refine h row hrow hpaused (hmem.imp_right fun hnone => ?_)
    cases hnone

/-- A network on which something is allowed is allowed under every name that is not paused. -/
theorem allows_other_name {s : ControlPlaneState} {other : String} (hother : s.providerPaused u other = false)
    (h : s.allows u provider (some network) = true) : s.allows u other (some network) = true := by
  cases s with
  | memory m =>
    simp only [ControlPlaneState.allows, ControlPlane.Memory.allows] at h ⊢
    split at h
    · cases h
    rename_i hglobal
    split at h
    · cases h
    rw [if_neg hglobal, if_neg (of_decide_eq_false hother)]
    exact h
  | postgres t =>
    simp only [ControlPlaneState.providerPaused, List.any_eq_false, Bool.and_eq_true, beq_iff_eq, not_and] at hother
    simp only [ControlPlaneState.allows, ControlPlane.Tables.allows, Bool.not_eq_true', List.any_eq_false,
      Bool.and_eq_true, List.contains_iff_mem, List.mem_append, List.mem_cons, List.not_mem_nil, or_false,
      not_and, not_or] at h ⊢
    intro row hrow hpaused
    obtain ⟨⟨hglobal, -⟩, hnetwork⟩ := h row hrow hpaused
    exact ⟨⟨hglobal, hother row hrow hpaused⟩, hnetwork⟩

end Pauses

/-! ## The loops -/

section Loops

variable {α β : Type}

variable {check : α → Except PyErr Bool} {l kept result : List α}

theorem keepAllowed_ok {a : α} (h : keepAllowed check kept a = .ok result) :
    result = kept ++ [a].filter fun a => returnedTrue (check a) := by
  obtain ⟨b, hb, h⟩ := bind_ok.mp h
  cases b with
  | true =>
    cases h
    simp [returnedTrue, hb]
  | false =>
    cases h
    simp [returnedTrue, hb]

/-- Where the inner loop returns, it has kept what passes. -/
theorem foldlM_keepAllowed (h : l.foldlM (keepAllowed check) kept = .ok result) :
    result = kept ++ l.filter fun a => returnedTrue (check a) := by
  induction l generalizing kept with
  | nil =>
    cases h
    simp
  | cons a l ih =>
    rw [List.foldlM_cons] at h
    obtain ⟨kept', hkept, h⟩ := bind_ok.mp h
    rw [ih h, keepAllowed_ok hkept, List.append_assoc, ← List.filter_append]
    rfl

/-- A loop that appends something for every element. -/
theorem foldlM_append {step : List β → α → Except PyErr (List β)} {part : α → List β} {acc : List β}
    {result : List β} (hstep : ∀ a ∈ l, ∀ acc next, step acc a = .ok next → next = acc ++ part a)
    (h : l.foldlM step acc = .ok result) : result = acc ++ l.flatMap part := by
  induction l generalizing acc with
  | nil =>
    cases h
    simp
  | cons a l ih =>
    rw [List.foldlM_cons] at h
    obtain ⟨next, hnext, h⟩ := bind_ok.mp h
    rw [ih (fun x hx => hstep x (List.mem_cons_of_mem a hx)) h, hstep a List.mem_cons_self acc next hnext,
      List.flatMap_cons, List.append_assoc]

theorem foldlM_returns {step : List β → α → Except PyErr (List β)}
    (hstep : ∀ a ∈ l, ∀ acc, ∃ next, step acc a = .ok next) (acc : List β) : ∃ result, l.foldlM step acc = .ok result := by
  induction l generalizing acc with
  | nil => exact ⟨acc, rfl⟩
  | cons a l ih =>
    obtain ⟨next, hnext⟩ := hstep a List.mem_cons_self acc
    obtain ⟨result, hresult⟩ := ih (fun x hx => hstep x (List.mem_cons_of_mem a hx)) next
    exact ⟨result, by rw [List.foldlM_cons, hnext]; exact hresult⟩

/-- Elements that contribute nothing can be left out. -/
theorem flatMap_filter {q : α → Bool} {part : α → List β} (h : ∀ a ∈ l, q a = false → part a = []) :
    (l.filter q).flatMap part = l.flatMap part := by
  induction l with
  | nil => rfl
  | cons a l ih =>
    have hrest := ih fun x hx => h x (List.mem_cons_of_mem a hx)
    cases hq : q a with
    | true => rw [List.filter_cons_of_pos hq, List.flatMap_cons, List.flatMap_cons, hrest]
    | false =>
      rw [List.filter_cons_of_neg (by simp [hq]), List.flatMap_cons, h a List.mem_cons_self hq, List.nil_append, hrest]

theorem keepAllowed_returns (h : ∀ a ∈ l, ∃ b, check a = .ok b) (kept : List α) :
    ∃ result, l.foldlM (keepAllowed check) kept = .ok result := by
  refine foldlM_returns (fun a ha acc => ?_) kept
  obtain ⟨b, hb⟩ := h a ha
  rw [keepAllowed, hb]
  cases b <;> exact ⟨_, rfl⟩

end Loops

/-! ## The early answers -/

section Supported

variable {u : Unicode} {text : Text} {router : ProviderRouter} {profile : PaymentProfileConfig}
  {supported : Provider → List PyDict} {state : Option ControlPlaneState} {p : Provider} {kind : PyDict}

/-- A kind that passes both filters: its provider is enabled and allowed, and its network is enabled. -/
structure Kept (u : Unicode) (profile : PaymentProfileConfig) (state : Option ControlPlaneState) (p : Provider)
    (kind : PyDict) : Prop where
  enabled : p.name ∈ profile.enabledProviders
  network : ∃ network, kind.get "network" = .str network ∧ network ∈ profile.enabledNetworks ∧
    ∀ s, state = some s → s.allows u p.name (some network) = true

theorem kept_of_filters (hback : RoutedBack router supported) (hp : p ∈ router.providers) (hkind : kind ∈ supported p)
    (hprofile : returnedTrue (paymentProfileAllowsKind text profile p.name kind) = true)
    (hpauses : controlPlaneAllowsKind u router state kind = true) : Kept u profile state p kind := by
  obtain ⟨⟨network, hnetwork, hne⟩, hname⟩ := hback p hp kind hkind
  have hpermits : Permits text profile (kind.get "scheme") (kind.get "network") p.name
      ((kind.get "asset").lowerStr text) ((kind.get "payTo").lowerStr text) := by
    apply allows_iff.mp
    unfold returnedTrue at hprofile
    split at hprofile
    · rename_i b hb
      rw [← hprofile]
      exact hb
    · cases hprofile
  obtain ⟨s, hs, hmem⟩ := hpermits.network (by rw [hnetwork]; simpa [PyVal.truthy] using hne)
  rw [hnetwork] at hs
  cases hs
  refine ⟨hpermits.provider, network, hnetwork, hmem, ?_⟩
  rintro st rfl
  rw [controlPlaneAllowsKind, hname, hnetwork] at hpauses
  exact hpauses

/-- A kept kind comes from a provider that is not skipped. -/
theorem Kept.provider (h : Kept u profile state p kind) : controlPlaneAllowsProvider u state p.name = true := by
  obtain ⟨network, -, -, hallows⟩ := h.network
  cases state with
  | none => rfl
  | some s => exact allows_without_network (hallows s rfl)

/-- Where a kind is kept, the route does not answer early. -/
theorem Kept.not_blocked (h : Kept u profile state p kind)
    (hprobe : ∀ s, state = some s → s.providerPaused u "network_probe" = false) :
    controlPlaneBlocksSupported u profile state = false := by
  have hprovider := h.provider
  obtain ⟨network, -, hmem, hallows⟩ := h.network
  cases state with
  | none => rfl
  | some s =>
    have henabled : profile.enabledProviders.any (fun provider => s.allows u provider none) = true :=
      List.any_eq_true.mpr ⟨p.name, h.enabled, hprovider⟩
    have hnetworks : profile.enabledNetworks.any (fun network => s.allows u "network_probe" (some network)) = true :=
      List.any_eq_true.mpr ⟨network, hmem, allows_other_name (hprobe s rfl) (hallows s rfl)⟩
    simp only [controlPlaneBlocksSupported, henabled, hnetworks]
    rfl

/-- What the engine returns, after the filter of the route. -/
theorem engineSupported_filter {kinds : List PyDict}
    (h : engineSupported text router profile supported (controlPlaneAllowsProvider u state) = .ok kinds)
    (hback : RoutedBack router supported) :
    kinds.filter (controlPlaneAllowsKind u router state) = plainKinds u text router profile supported state := by
  let part (p : Provider) : List PyDict :=
    if controlPlaneAllowsProvider u state p.name then
      (supported p).filter fun kind => returnedTrue (paymentProfileAllowsKind text profile p.name kind)
    else []
  have hkinds : kinds = [] ++ (router.providersForPaymentProfile profile).flatMap part := by
    refine foldlM_append (fun p _ acc next hnext => ?_) h
    by_cases hallowed : controlPlaneAllowsProvider u state p.name = true
    · rw [if_pos hallowed] at hnext
      rw [foldlM_keepAllowed hnext]
      simp only [part, if_pos hallowed]
    · rw [if_neg hallowed] at hnext
      cases hnext
      simp only [part, if_neg hallowed, List.append_nil]
  have hkept : ∀ p ∈ router.providers, ∀ kind ∈ (supported p).filter fun kind =>
      returnedTrue (paymentProfileAllowsKind text profile p.name kind) && controlPlaneAllowsKind u router state kind,
      Kept u profile state p kind := by
    intro p hp kind hkind
    obtain ⟨hmem, hboth⟩ := List.mem_filter.mp hkind
    rw [Bool.and_eq_true] at hboth
    exact kept_of_filters hback hp hmem hboth.1 hboth.2
  have hpart : ∀ p ∈ router.providers, (part p).filter (controlPlaneAllowsKind u router state) =
      (supported p).filter fun kind =>
        returnedTrue (paymentProfileAllowsKind text profile p.name kind) &&
          controlPlaneAllowsKind u router state kind := by
    intro p hp
    by_cases hallowed : controlPlaneAllowsProvider u state p.name = true
    · simp only [part, if_pos hallowed, List.filter_filter]
      exact List.filter_congr fun kind _ => Bool.and_comm _ _
    · -- the provider is skipped, and its kinds would not have passed
      simp only [part, if_neg hallowed, List.filter_nil]
      rw [eq_comm, List.eq_nil_iff_forall_not_mem]
      exact fun kind hkind => hallowed (hkept p hp kind hkind).provider
  rw [hkinds, List.nil_append, List.filter_flatMap, plainKinds, ProviderRouter.providersForPaymentProfile,
    flatMap_filter fun p hp hdisabled => ?_]
  · exact List.flatMap_congr hpart
  · rw [hpart p hp, List.eq_nil_iff_forall_not_mem]
    intro kind hkind
    rw [List.contains_iff_mem.mpr (hkept p hp kind hkind).enabled] at hdisabled
    cases hdisabled

/-- **The early answers drop nothing that the filters keep**, as long as no provider called `network_probe` is paused: what
the route returns are the kinds that pass both filters, and it returns when the profile's check of no kind raises. -/
theorem supported_eq_plain (hback : RoutedBack router supported)
    (hprobe : ∀ s, state = some s → s.providerPaused u "network_probe" = false) :
    (∀ kinds, supportedKinds u text router profile supported state = .ok kinds →
        kinds = plainKinds u text router profile supported state) ∧
      ((∀ p ∈ router.providers, ∀ kind ∈ supported p, ∃ b, paymentProfileAllowsKind text profile p.name kind = .ok b) →
        supportedKinds u text router profile supported state =
          .ok (plainKinds u text router profile supported state)) := by
  have hblocked : controlPlaneBlocksSupported u profile state = true →
      plainKinds u text router profile supported state = [] := by
    intro hblocked
    rw [List.eq_nil_iff_forall_not_mem]
    intro kind hkind
    obtain ⟨p, hp, hkind⟩ := List.mem_flatMap.mp hkind
    obtain ⟨hmem, hboth⟩ := List.mem_filter.mp hkind
    rw [Bool.and_eq_true] at hboth
    have hkept : Kept u profile state p kind := kept_of_filters hback hp hmem hboth.1 hboth.2
    rw [hkept.not_blocked hprobe] at hblocked
    cases hblocked
  constructor
  · intro kinds h
    unfold supportedKinds at h
    split at h
    · rename_i hb
      cases h
      exact (hblocked hb).symm
    · obtain ⟨collected, hcollected, rfl⟩ := map_ok.mp h
      exact engineSupported_filter hcollected hback
  · intro hreturns
    unfold supportedKinds
    split
    · rename_i hb
      rw [hblocked hb]
    · obtain ⟨collected, hcollected⟩ : ∃ collected, engineSupported text router profile supported
          (controlPlaneAllowsProvider u state) = .ok collected := by
        refine foldlM_returns (fun p hp acc => ?_) []
        split
        · exact keepAllowed_returns (hreturns p (List.mem_filter.mp hp).1) acc
        · exact ⟨acc, rfl⟩
      rw [hcollected, ← engineSupported_filter hcollected hback]
      rfl

end Supported

section Sample

/-- Two providers, of which one has the name that the route tries networks under. -/
def probeRouter : ProviderRouter where
  providers := [{ name := "exact_evm" }, { name := "network_probe" }]
  names_nodup := by decide

def probeKinds (p : Provider) : List PyDict :=
  if p.name = "exact_evm" then [[("scheme", .str "exact"), ("network", .str "eip155:5042002")]] else []

theorem probeKinds_routedBack : RoutedBack probeRouter probeKinds := by
  intro p hp kind hkind
  simp only [probeRouter, List.mem_cons, List.not_mem_nil, or_false] at hp
  rcases hp with rfl | rfl
  · rw [probeKinds, if_pos rfl, List.mem_singleton] at hkind
    subst hkind
    exact ⟨⟨"eip155:5042002", rfl, by decide⟩, rfl⟩
  · rw [probeKinds, if_neg (by decide)] at hkind
    cases hkind

/-- Without pauses the kind is returned. -/
theorem supported_without_pauses :
    supportedKinds .ascii (Payment.paymentText.withDecimals .ascii) probeRouter {} probeKinds (some (.memory {})) =
      .ok [[("scheme", .str "exact"), ("network", .str "eip155:5042002")]] := by
  refine ((supported_eq_plain probeKinds_routedBack ?_).2 ?_).trans rfl
  · rintro s h
    cases h
    rfl
  · intro p hp kind hkind
    simp only [probeRouter, List.mem_cons, List.not_mem_nil, or_false] at hp
    rcases hp with rfl | rfl
    · rw [probeKinds, if_pos rfl, List.mem_singleton] at hkind
      subst hkind
      exact ⟨true, rfl⟩
    · rw [probeKinds, if_neg (by decide)] at hkind
      cases hkind

/-- With the other provider paused the route answers with nothing, although both filters keep the kind. -/
theorem supported_probe_paused :
    RoutedBack probeRouter probeKinds ∧
      supportedKinds .ascii (Payment.paymentText.withDecimals .ascii) probeRouter {} probeKinds
        (some (.memory { pause := { providers := {"network_probe"} } })) = .ok [] ∧
      plainKinds .ascii (Payment.paymentText.withDecimals .ascii) probeRouter {} probeKinds
        (some (.memory { pause := { providers := {"network_probe"} } })) =
          [[("scheme", .str "exact"), ("network", .str "eip155:5042002")]] :=
  ⟨probeKinds_routedBack, rfl, rfl⟩

end Sample

end HostedFacilitator
