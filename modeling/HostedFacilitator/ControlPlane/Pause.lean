import HostedFacilitator.Lib.History
import HostedFacilitator.ControlPlane.Equivalence
import HostedFacilitator.Engine.Providers
import HostedFacilitator.App

/-!
# Pauses and the routes they stop

An operator pauses and resumes targets; `/verify` and `/settle` look up the provider and the network of the envelope
before they enter the engine. Abstractly a target is paused when the last call for it was a pause (`lastIsPause`).

* `isPausedLocked_after`: the state says the same, target by target, after every sequence of calls;
* `allows_after`: `allows` refuses an envelope exactly when a target that it matches is paused;
* `pause_exact`: the same for the two handlers, which answer 423 then and leave the provider and the store alone.
-/

namespace HostedFacilitator.ControlPlane

/-! ## Targets and the last call for each -/

/-- What can be paused. -/
inductive Target where
  | global
  | provider (name : String)
  | network (name : String)
  deriving DecidableEq

/-- The row of the target. -/
def Target.key : Target → TargetType × String
  | .global => (.global, "global")
  | .provider name => (.provider, name)
  | .network name => (.network, name)

/-- The envelopes that a pause of the target is meant for. -/
def Target.Matches (router : ProviderRouter) (envelope : FacilitatorEnvelope) : Target → Prop
  | .global => True
  | .provider name => name = router.providerNameForEnvelope envelope
  | .network name => (envelope.paymentRequirements.get "network").asStr = some name

/-- The target of a `set_pause`. -/
def Call.sets : Call → Option Target
  | .setPause .global .. => some .global
  | .setPause .provider target .. => target.map .provider
  | .setPause .network target .. => target.map .network
  | _ => none

/-- Whether a `set_pause` is a pause. -/
def Call.isPause : Call → Bool
  | .setPause _ _ paused .. => paused
  | _ => false

/-- A provider target is the name of a registered provider, and a network target passes `_safe_network`. -/
def Call.Registered (u : Unicode) (router : ProviderRouter) : Call → Prop
  | .setPause .provider target .. => ∃ p ∈ router.providers, target = some p.name
  | .setPause .network target .. => ∃ n, target = some n ∧ safeNetwork u n = .ok n
  | _ => True

/-- The most recent call for the target was a pause. -/
def lastIsPause (calls : List (Call × Draw)) (target : Target) : Bool :=
  (History.last (fun c => c.1.sets = some target) calls).any fun c => c.1.isPause

/-! ## Sequences of calls -/

variable (u : Unicode)

def Memory.after (calls : List (Call × Draw)) : Memory :=
  calls.foldl (fun m c => (settled m (m.apply u c.2 c.1)).2) {}

def Tables.after (calls : List (Call × Draw)) : Tables :=
  calls.foldl (fun t c => (settled t (t.apply u c.2 c.1)).2) {}

inductive Backend where
  | memory
  | postgres

/-- The state after the calls. -/
def Backend.after (calls : List (Call × Draw)) : Backend → ControlPlaneState
  | .memory => .memory (Memory.after u calls)
  | .postgres => .postgres (Tables.after u calls)

/-- What a call makes of the pauses. -/
def Call.change (pause : PauseState) : Call → PauseState
  | .setPause targetType target paused .. =>
    match normalizePauseTarget u targetType target with
    | .ok n => Memory.changePause pause targetType n paused
    | .error _ => pause
  | _ => pause

variable {u} {m : Memory} {t : Tables} {call : Call} {draw draw' : Draw} {calls : List (Call × Draw)}
  {router : ProviderRouter}

theorem Memory.settled_pause : (settled m (m.apply u draw call)).2.pause = call.change u m.pause := by
  cases call with
  | setPause tt target paused reason actor correlationId =>
    simp only [Memory.apply, Call.change, bind, Except.bind, pure, Except.pure]
    cases normalizePauseTarget u tt target with
    | error e => rfl
    | ok n => rfl
  | recordSellerCreate seller keyPrefix actor correlationId =>
    simp only [Memory.apply, bind, Except.bind, pure, Except.pure]
    cases safeSellerRef u seller <;> rfl
  | recordSellerKeyEvent action seller keyPrefix reason actor correlationId =>
    simp only [Memory.apply, bind, Except.bind, pure, Except.pure]
    cases safeSellerKeyAction action with
    | error e => rfl
    | ok safeAction => cases safeSellerRef u seller <;> rfl
  | recordReconciliationEvent action recordId before after reason actor correlationId =>
    simp only [Memory.apply, bind, Except.bind, pure, Except.pure]
    cases safeReconciliationAction action with
    | error e => rfl
    | ok safeAction => cases safeRecordId u recordId <;> rfl

/-- Only `set_pause` writes to the table of targets. -/
theorem Tables.settled_pauseTargets : (settled t (t.apply u draw call)).2.pauseTargets = match call with
    | .setPause targetType target paused .. =>
      match normalizePauseTarget u targetType target with
      | .ok n => ((t.insertMissing (targetType, n) draw.now).upsert (targetType, n) paused draw.now).pauseTargets
      | .error _ => t.pauseTargets
    | _ => t.pauseTargets := by
  cases call with
  | setPause tt target paused reason actor correlationId =>
    simp only [Tables.apply, bind, Except.bind, pure, Except.pure]
    cases normalizePauseTarget u tt target with
    | error e => rfl
    | ok n =>
      obtain ⟨columns, hlocked, -⟩ := Tables.locked (t := t) (tt, n) draw.now
      simp only [hlocked]
      rfl
  | recordSellerCreate seller keyPrefix actor correlationId =>
    simp only [Tables.apply, bind, Except.bind, pure, Except.pure]
    cases safeSellerRef u seller <;> rfl
  | recordSellerKeyEvent action seller keyPrefix reason actor correlationId =>
    simp only [Tables.apply, bind, Except.bind, pure, Except.pure]
    cases reason with
    | some reason => rfl
    | none =>
      cases safeSellerKeyAction action with
      | error e => rfl
      | ok safeAction => cases safeSellerRef u seller <;> rfl
  | recordReconciliationEvent action recordId before after reason actor correlationId =>
    simp only [Tables.apply, bind, Except.bind, pure, Except.pure]
    cases safeReconciliationAction action with
    | error e => rfl
    | ok safeAction => by_cases h : recordId ≤ 0 <;> simp only [h, if_true, if_false] <;> rfl

/-- The relation is about the pauses only. -/
theorem PauseRel.congr {m' : Memory} {t' : Tables} (h : PauseRel u m t) (hm : m'.pause = m.pause)
    (ht : t'.pauseTargets = t.pauseTargets) : PauseRel u m' t' := by
  refine ⟨ht ▸ h.unique, ht ▸ h.normal, fun tt x hx => ?_⟩
  rw [hm, ← h.same tt x hx, Tables.paused, ht, Tables.paused]

/-- Every call keeps the two states together, whether the sides raise or not. -/
theorem PauseRel.apply (h : PauseRel u m t) (call : Call) :
    PauseRel u (settled m (m.apply u draw call)).2 (settled t (t.apply u draw' call)).2 := by
  have hm : (settled m (m.apply u draw call)).2.pause = _ := Memory.settled_pause
  have ht : (settled t (t.apply u draw' call)).2.pauseTargets = _ := Tables.settled_pauseTargets
  cases call with
  | setPause tt target paused reason actor correlationId =>
    cases hn : normalizePauseTarget u tt target with
    | error e =>
      simp only [Call.change, hn] at hm ht
      exact h.congr hm ht
    | ok n =>
      simp only [Call.change, hn] at hm ht
      exact (h.set (normalizePauseTarget_normal hn) paused draw'.now).congr hm ht
  | recordSellerCreate | recordSellerKeyEvent | recordReconciliationEvent => exact h.congr hm ht

theorem Memory.after_snoc (c : Call × Draw) : Memory.after u (calls ++ [c]) =
    (settled (Memory.after u calls) ((Memory.after u calls).apply u c.2 c.1)).2 := by
  rw [Memory.after, List.foldl_append]
  rfl

theorem Tables.after_snoc (c : Call × Draw) : Tables.after u (calls ++ [c]) =
    (settled (Tables.after u calls) ((Tables.after u calls).apply u c.2 c.1)).2 := by
  rw [Tables.after, List.foldl_append]
  rfl

theorem PauseRel.after (calls : List (Call × Draw)) : PauseRel u (Memory.after u calls) (Tables.after u calls) := by
  induction calls using List.reverseRecOn with
  | nil => exact PauseRel.start
  | append_singleton calls c ih =>
    rw [Memory.after_snoc, Tables.after_snoc]
    exact ih.apply c.1

/-- Either state answers as the one in memory. -/
theorem Backend.allows_eq (backend : Backend) (provider : String) (network : Option String) :
    (backend.after u calls).allows u provider network = (Memory.after u calls).allows u provider network := by
  cases backend with
  | memory => rfl
  | postgres => exact (PauseRel.after calls).allows_eq provider network

/-! ## The pauses after a sequence of calls -/

/-- The names that `_safe_provider_name` leaves as they are. -/
def PlainNames (u : Unicode) (router : ProviderRouter) : Prop :=
  ∀ p ∈ router.providers, safeProviderName u p.name = p.name

/-- A name of ASCII letters, digits and the three signs, not longer than 64. -/
theorem safeProviderName_ascii {name : String}
    (hchars : ∀ c ∈ name.toList, c.isAlphanum = true ∧ c.toNat < 128 ∨ c ∈ ['_', '-', '.'])
    (hlen : name.toList.length ≤ 64) (hne : name ≠ "") : safeProviderName u name = name :=
  (keeps_ascii hchars hlen).orDefault_keepOnly hne

/-- The providers of the repository have plain names. -/
theorem plainNames_of_mem (h : ∀ p ∈ router.providers, p.name ∈ ["exact_evm", "circle_gateway"]) :
    PlainNames u router := by
  intro p hp
  have hname := h p hp
  simp only [List.mem_cons, List.not_mem_nil, or_false] at hname
  rcases hname with hname | hname <;> rw [hname] <;>
    exact safeProviderName_ascii (List.all_iff_forall_prop.mp (by decide)) (by decide) (by decide)

/-- The name that is looked up is read as it is. -/
theorem safeProviderName_envelope (hnames : PlainNames u router) (envelope : FacilitatorEnvelope) :
    safeProviderName u (router.providerNameForEnvelope envelope) = router.providerNameForEnvelope envelope := by
  unfold ProviderRouter.providerNameForEnvelope
  rcases router.providerNameFor_cases (envelope.paymentRequirements.get "scheme")
    (envelope.paymentRequirements.get "network") ((envelope.paymentRequirements.get "extra").asDict.getD []) with
    ⟨p, hp, hname⟩ | hname | hname
  · rw [hname]
    exact hnames p hp
  · rw [hname]
    exact safeProviderName_ascii (List.all_iff_forall_prop.mp (by decide)) (by decide) (by decide)
  · rw [hname]
    exact safeProviderName_ascii (List.all_iff_forall_prop.mp (by decide)) (by decide) (by decide)

theorem safeProviderName_ne (s : String) : safeProviderName u s ≠ "" := orDefault_ne (by decide)

theorem Target.key_inj {target target' : Target} (h : target.key = target'.key) : target = target' := by
  cases target <;> cases target' <;> simp_all [Target.key]

/-- A registered target is normalised to itself. -/
theorem Call.change_of_sets (hnames : PlainNames u router) {target : Target} (hr : call.Registered u router)
    (hs : call.sets = some target) (pause : PauseState) :
    call.change u pause = Memory.changePause pause target.key.1 target.key.2 call.isPause ∧
      Normal u (target.key.1, target.key.2) := by
  cases call with
  | setPause tt name paused reason actor correlationId =>
    cases tt with
    | global =>
      cases hs
      exact ⟨rfl, rfl⟩
    | provider =>
      obtain ⟨p, hp, rfl⟩ := hr
      cases hs
      have hplain := hnames p hp
      have hne : p.name ≠ "" := by
        intro hempty
        exact safeProviderName_ne p.name (hplain.trans hempty)
      refine ⟨?_, hplain⟩
      simp [Call.change, normalizePauseTarget, hne, hplain, Target.key, Call.isPause]
    | network =>
      obtain ⟨n, rfl, hn⟩ := hr
      cases hs
      have hne : n ≠ "" := by
        rintro rfl
        simp [safeNetwork] at hn
      refine ⟨?_, hn⟩
      simp [Call.change, normalizePauseTarget, hne, hn, Target.key, Call.isPause]
    | seller | settlement => cases hs
  | recordSellerCreate | recordSellerKeyEvent | recordReconciliationEvent => cases hs

/-- A call without a target changes nothing. -/
theorem Call.change_of_none (hr : call.Registered u router) (hs : call.sets = none) (pause : PauseState) :
    call.change u pause = pause := by
  cases call with
  | setPause tt name paused reason actor correlationId =>
    cases tt with
    | global => cases hs
    | provider =>
      obtain ⟨p, hp, rfl⟩ := hr
      cases hs
    | network =>
      obtain ⟨n, rfl, hn⟩ := hr
      cases hs
    | seller | settlement => rfl
  | recordSellerCreate | recordSellerKeyEvent | recordReconciliationEvent => rfl

/-- One call, seen from one target. -/
theorem isPausedLocked_call (hnames : PlainNames u router) (hr : call.Registered u router) (target : Target) :
    Memory.isPausedLocked (settled m (m.apply u draw call)).2.pause target.key.1 target.key.2 =
      if call.sets = some target then call.isPause else Memory.isPausedLocked m.pause target.key.1 target.key.2 := by
  rw [Memory.settled_pause]
  cases hs : call.sets with
  | none => simp [Call.change_of_none hr hs]
  | some target' =>
    obtain ⟨hchange, hnormal⟩ := Call.change_of_sets hnames hr hs m.pause
    have hglobal : target.key.1 = .global → target.key.2 = "global" := by
      cases target <;> simp [Target.key]
    rw [hchange, isPausedLocked_changePause hnormal hglobal]
    by_cases h : target' = target
    · simp [h]
    · have hkey : target.key ≠ target'.key := fun hkey => h (Target.key_inj hkey).symm
      have hkey' : (target.key.1, target.key.2) ≠ (target'.key.1, target'.key.2) := hkey
      simp [h, hkey']

/-- A target is paused exactly when the last call for it was a pause. -/
theorem isPausedLocked_after (hnames : PlainNames u router) (hr : ∀ c ∈ calls, c.1.Registered u router)
    (target : Target) :
    Memory.isPausedLocked (Memory.after u calls).pause target.key.1 target.key.2 = lastIsPause calls target := by
  induction calls using List.reverseRecOn with
  | nil => cases target <;> rfl
  | append_singleton calls c ih =>
    have ih := ih fun c' hc' => hr c' (List.mem_append_left _ hc')
    rw [Memory.after_snoc, isPausedLocked_call hnames (hr c (by simp)), lastIsPause]
    by_cases h : c.1.sets = some target
    · rw [History.last_snoc (by simpa using h), if_pos h]
      rfl
    · rw [History.last_snoc_of_not (by simpa using h), if_neg h, ih]
      rfl

/-- The last pause of a network is that of one that passes `_safe_network`. -/
theorem safeNetwork_of_lastIsPause (hr : ∀ c ∈ calls, c.1.Registered u router) {n : String}
    (h : lastIsPause calls (.network n) = true) : safeNetwork u n = .ok n := by
  rw [lastIsPause, Option.any_eq_true] at h
  obtain ⟨c, hlast, -⟩ := h
  obtain ⟨pre, post, rfl, hc, -⟩ := History.last_split hlast
  have hregistered := hr c (by simp)
  obtain ⟨call, draw⟩ := c
  have hsets : call.sets = some (.network n) := by simpa using hc
  cases call with
  | setPause tt name paused reason actor correlationId =>
    cases tt with
    | global | seller | settlement => cases hsets
    | provider => cases name <;> cases hsets
    | network =>
      obtain ⟨n', rfl, hn⟩ := hregistered
      cases hsets
      exact hn
  | recordSellerCreate | recordSellerKeyEvent | recordReconciliationEvent => cases hsets

/-- `allows` refuses an envelope exactly when a target that it matches is paused. -/
theorem allows_after (hnames : PlainNames u router) (hr : ∀ c ∈ calls, c.1.Registered u router) (backend : Backend)
    (envelope : FacilitatorEnvelope) :
    (backend.after u calls).allows u (router.providerNameForEnvelope envelope)
        (envelope.paymentRequirements.get "network").asStr = false ↔
      ∃ target : Target, target.Matches router envelope ∧ lastIsPause calls target = true := by
  have hpaused := isPausedLocked_after hnames hr
  rw [backend.allows_eq, Bool.eq_false_iff, ne_eq, Memory.allows_iff, safeProviderName_envelope hnames]
  constructor
  · intro h
    by_contra hnone
    refine h ⟨?_, ?_, fun n hn hmem => ?_⟩
    · refine Bool.eq_false_iff.mpr fun hg => hnone ⟨.global, trivial, ?_⟩
      rw [← hpaused .global]
      exact hg
    · intro hp
      refine hnone ⟨.provider _, rfl, ?_⟩
      rw [← hpaused (.provider _)]
      exact decide_eq_true hp
    · cases htext : (envelope.paymentRequirements.get "network").asStr with
      | none =>
        rw [htext] at hn
        cases hn
      | some value =>
        rw [htext] at hn
        have hvalue : n = value := by
          simp only [safeNetworkOrNone] at hn
          cases hs : safeNetwork u value with
          | error e => rw [hs] at hn; cases hn
          | ok n' =>
            rw [hs] at hn
            cases hn
            exact safeNetwork_ok hs
        refine hnone ⟨.network n, hvalue ▸ htext, ?_⟩
        rw [← hpaused (.network n)]
        exact decide_eq_true hmem
  · rintro ⟨target, hmatch, hlast⟩ ⟨hg, hp, hn⟩
    have hset := (hpaused target).trans hlast
    cases target with
    | global =>
      have hon : (Memory.after u calls).pause.globalPaused = true := hset
      rw [hg] at hon
      cases hon
    | provider name =>
      have hname : name = router.providerNameForEnvelope envelope := hmatch
      subst hname
      exact hp (of_decide_eq_true hset)
    | network n =>
      have htext : (envelope.paymentRequirements.get "network").asStr = some n := hmatch
      refine hn n ?_ (of_decide_eq_true hset)
      rw [htext, safeNetworkOrNone, safeNetwork_of_lastIsPause hr hlast]
      rfl

/-! ## The handlers -/

section Handlers

variable {text : Text} {state state' : ControlPlaneState} {a : Arrival} {context : RequestContext}
  {outcome : Except PyErr VerifyOutcome}

/-- The answer of a paused route. -/
def pausedRoute : HttpError := .http 423 "Hosted facilitator route is paused"

/-- The request is refused as paused exactly under the condition, and then without a call of the provider. -/
structure StopsWhen {α : Type} (handled : Handled α) (paused : Prop) : Prop where
  refused : handled.answer = .error pausedRoute ↔ paused
  before : handled.answer = .error pausedRoute → handled.providerCalled = false

/-- Both handlers enter the engine exactly when the route is not paused. -/
theorem enforceControlPlaneRoute_eq (envelope : FacilitatorEnvelope) :
    enforceControlPlaneRoute u router state envelope =
      if state.allows u (router.providerNameForEnvelope envelope)
          (envelope.paymentRequirements.get "network").asStr = false then .error pausedRoute else .ok () := by
  simp only [enforceControlPlaneRoute, pausedRoute, Bool.not_eq_true']

theorem mapError_ne_paused {α : Type} {f : PyErr → HttpError} (hf : ∀ e, f e ≠ pausedRoute) (x : Except PyErr α) :
    x.mapError f ≠ .error pausedRoute := by
  cases x with
  | ok v => nofun
  | error e =>
    intro h
    exact hf e (Except.error.inj h)

theorem handleVerify_stops (hopen : a.open = .ok context) (hlimiter : a.limiterAllows = true) :
    StopsWhen (handleVerify u router state a text outcome)
      (state.allows u (router.providerNameForEnvelope a.envelope)
        (a.envelope.paymentRequirements.get "network").asStr = false) := by
  unfold handleVerify
  simp only [hopen, hlimiter, enforceControlPlaneRoute_eq, Bool.not_true, Bool.false_eq_true, if_false]
  by_cases h : state.allows u (router.providerNameForEnvelope a.envelope)
      (a.envelope.paymentRequirements.get "network").asStr = false
  · simp only [h, if_true]
    exact ⟨by simp, fun _ => rfl⟩
  · simp only [h, Bool.true_eq_false, if_false]
    have hne := mapError_ne_paused (fun e => a.refusalFor_ne e _) (engineVerify text router a.envelope context outcome).1
    exact ⟨iff_of_false hne nofun, fun hr => absurd hr hne⟩

theorem handleSettle_stops {σ : Type} {s : σ} {engine : RequestContext → σ → Settlement σ}
    (hopen : a.open = .ok context) :
    StopsWhen (handleSettle u router state a (.ok s) engine).1
        (state.allows u (router.providerNameForEnvelope a.envelope)
          (a.envelope.paymentRequirements.get "network").asStr = false) ∧
      ((handleSettle u router state a (.ok s) engine).1.answer = .error pausedRoute →
        (handleSettle u router state a (.ok s) engine).2 = .ok s) := by
  unfold handleSettle
  simp only [hopen, enforceControlPlaneRoute_eq]
  by_cases h : state.allows u (router.providerNameForEnvelope a.envelope)
      (a.envelope.paymentRequirements.get "network").asStr = false
  · simp only [h, if_true]
    exact ⟨⟨by simp, fun _ => rfl⟩, fun _ => trivial⟩
  · simp only [h, Bool.true_eq_false, if_false]
    have hne := mapError_ne_paused (fun e => a.settleRefusalFor_ne e _) (engine context s).answer
    exact ⟨⟨iff_of_false hne nofun, fun hr => absurd hr hne⟩, fun hr => absurd hr hne⟩

/-- The handlers see the state through one answer of `allows`. -/
theorem enforceControlPlaneRoute_congr {envelope : FacilitatorEnvelope}
    (h : state.allows u (router.providerNameForEnvelope envelope) (envelope.paymentRequirements.get "network").asStr =
      state'.allows u (router.providerNameForEnvelope envelope) (envelope.paymentRequirements.get "network").asStr) :
    enforceControlPlaneRoute u router state envelope = enforceControlPlaneRoute u router state' envelope := by
  rw [enforceControlPlaneRoute_eq, enforceControlPlaneRoute_eq, h]

end Handlers

/-- A call for a target that the envelope does not match leaves what `allows` answers for it. -/
theorem allows_after_snoc (hnames : PlainNames u router) (hr : ∀ c ∈ calls, c.1.Registered u router)
    {c : Call × Draw} (hc : c.1.Registered u router) {envelope : FacilitatorEnvelope}
    (hother : ∀ target, c.1.sets = some target → ¬ target.Matches router envelope) (backend : Backend) :
    (backend.after u (calls ++ [c])).allows u (router.providerNameForEnvelope envelope)
        (envelope.paymentRequirements.get "network").asStr =
      (backend.after u calls).allows u (router.providerNameForEnvelope envelope)
        (envelope.paymentRequirements.get "network").asStr := by
  have hr' : ∀ c' ∈ calls ++ [c], c'.1.Registered u router := by
    intro c' hc'
    rcases List.mem_append.mp hc' with hc' | hc'
    · exact hr c' hc'
    · rw [List.mem_singleton.mp hc']
      exact hc
  have hsame : ∀ target : Target, target.Matches router envelope →
      lastIsPause (calls ++ [c]) target = lastIsPause calls target := by
    intro target hm
    have hne : c.1.sets ≠ some target := fun hs => hother target hs hm
    rw [lastIsPause, History.last_snoc_of_not (by simpa using hne), lastIsPause]
  rw [Bool.eq_iff_iff, ← not_iff_not, Bool.not_eq_true, Bool.not_eq_true, allows_after hnames hr',
    allows_after hnames hr]
  refine exists_congr fun target => and_congr_right fun hm => ?_
  rw [hsame target hm]

/-- After every sequence of pauses and resumes, on either state: the provider that the engine routes an envelope to is
the one that is looked up; `/verify` and `/settle` refuse the envelope with 423, before any call of the provider,
exactly when the last call for the global target, for that provider or for the envelope's network was a pause; and a
call for another target leaves what the two do. -/
theorem pause_exact (u : Unicode) (text : Text) (router : ProviderRouter) (hnames : PlainNames u router)
    (backend : Backend) (calls : List (Call × Draw)) (hcalls : ∀ c ∈ calls, c.1.Registered u router) (a : Arrival)
    (context : RequestContext) (hversion : a.envelope.x402Version = 2) (hcontext : a.context = .ok context)
    (hlimiter : a.limiterAllows = true) :
    (∀ profile p, router.route text a.envelope profile = .ok p →
        p.name = router.providerNameForEnvelope a.envelope) ∧
      (∀ outcome, StopsWhen (handleVerify u router (backend.after u calls) a text outcome)
        (∃ target : Target, target.Matches router a.envelope ∧ lastIsPause calls target = true)) ∧
      (∀ {σ : Type} (s : σ) (engine : RequestContext → σ → Settlement σ),
        StopsWhen (handleSettle u router (backend.after u calls) a (.ok s) engine).1
            (∃ target : Target, target.Matches router a.envelope ∧ lastIsPause calls target = true) ∧
          ((handleSettle u router (backend.after u calls) a (.ok s) engine).1.answer = .error pausedRoute →
            (handleSettle u router (backend.after u calls) a (.ok s) engine).2 = .ok s)) ∧
      ∀ c : Call × Draw, c.1.Registered u router →
        (∀ target, c.1.sets = some target → ¬ target.Matches router a.envelope) →
        (∀ outcome, handleVerify u router (backend.after u (calls ++ [c])) a text outcome =
          handleVerify u router (backend.after u calls) a text outcome) ∧
        ∀ {σ : Type} (store : Except PyErr σ) (engine : RequestContext → σ → Settlement σ),
          handleSettle u router (backend.after u (calls ++ [c])) a store engine =
            handleSettle u router (backend.after u calls) a store engine := by
  have hopen : a.open = .ok context := by
    unfold Arrival.open
    rw [if_neg (not_not.mpr hversion), hcontext]
  have hallows := allows_after hnames hcalls backend a.envelope
  refine ⟨fun profile p => router.route_name, fun outcome => ?_, fun s engine => ?_, fun c hc hother => ?_⟩
  · rw [← hallows]
    exact handleVerify_stops hopen hlimiter
  · rw [← hallows]
    exact handleSettle_stops hopen
  · have hsame := allows_after_snoc hnames hcalls hc hother backend
    have hroute := enforceControlPlaneRoute_congr hsame
    unfold handleVerify handleSettle
    simp only [hroute, implies_true, and_self]

/-- The Circle provider is paused and resumed, then a network is paused. -/
def sampleCalls : List (Call × Draw) :=
  [(.setPause .provider (some "circle_gateway") true "incident" "ops" "c-1", ⟨0, .sample⟩),
    (.setPause .provider (some "circle_gateway") false "resolved" "ops" "c-2", ⟨1, .sample⟩),
    (.setPause .network (some "eip155:5042002") true "incident" "ops" "c-3", ⟨2, .sample⟩)]

/-- A Circle payment on a network. -/
def sampleArrival (network : String) : Arrival where
  envelope := (sampleEnvelope (some network) (some network)).toFacilitatorEnvelope
  context := .ok (sampleContext "default" "trace")

/-- Payments on the paused network are refused, payments with the resumed provider on another network are not. -/
theorem pause_exact_one_network :
    (handleVerify .ascii sampleRouter (Backend.postgres.after .ascii sampleCalls) (sampleArrival "eip155:5042002")
        networkText (.ok { isValid := true })).answer = .error pausedRoute ∧
      (handleVerify .ascii sampleRouter (Backend.memory.after .ascii sampleCalls) (sampleArrival "eip155:8453")
        networkText (.ok { isValid := true })).answer ≠ .error pausedRoute := by
  have hnames : PlainNames .ascii sampleRouter := plainNames_of_mem (by simp [sampleRouter,
    HostedCircleGatewayProvider.provider])
  have hcalls : ∀ c ∈ sampleCalls, c.1.Registered .ascii sampleRouter := by
    have hcircle : ∃ p ∈ sampleRouter.providers, some "circle_gateway" = some p.name :=
      ⟨HostedCircleGatewayProvider.provider [], by simp [sampleRouter], rfl⟩
    intro c hc
    simp only [sampleCalls, List.mem_cons, List.not_mem_nil, or_false] at hc
    rcases hc with rfl | rfl | rfl
    · exact hcircle
    · exact hcircle
    · exact ⟨"eip155:5042002", rfl, by decide +kernel⟩
  have hexact (backend : Backend) (network : String) :=
    pause_exact .ascii networkText sampleRouter hnames backend sampleCalls hcalls (sampleArrival network)
      (sampleContext "default" "trace") rfl rfl rfl
  constructor
  · exact ((hexact .postgres "eip155:5042002").2.1 _).refused.mpr ⟨.network "eip155:5042002", rfl, by decide +kernel⟩
  · intro hrefused
    obtain ⟨target, hmatch, hlast⟩ := ((hexact .memory "eip155:8453").2.1 _).refused.mp hrefused
    cases target with
    | global => revert hlast; decide
    | provider name =>
      have hname : name = "circle_gateway" := hmatch
      subst hname
      revert hlast
      decide
    | network n =>
      have hnetwork : n = "eip155:8453" := (Option.some.inj hmatch).symm
      subst hnetwork
      revert hlast
      decide

end HostedFacilitator.ControlPlane
