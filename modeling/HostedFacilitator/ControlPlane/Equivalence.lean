import HostedFacilitator.ControlPlane.State

/-!
# In memory and in Postgres

The two states run side by side on the same calls, each with its own clock and its own `uuid4()`.

* `PauseRel`: the rows with `paused = TRUE` are the flag and the sets; `set_pause` keeps this on every call
  (`PauseRel.setPause`), and then `pause_state` and `allows` agree (`PauseRel.pauseState_eq`, `PauseRel.allows_eq`);
* `control_planes_agree`: the states raise on the same calls and show the same pauses and the same audit tail after
  every call exactly when no accepted call is one of two kinds. A blank reason is stored as `unspecified`, and Postgres
  reads it back as `operator_supplied`; a reason for a key event is an unknown argument for Postgres.
-/

namespace HostedFacilitator.ControlPlane

variable {u : Unicode} {m m' : Memory} {t t' : Tables} {draw draw' : Draw}

/-! ## Pauses -/

/-- The target has a row with `paused = TRUE`. -/
def Tables.paused (t : Tables) (key : TargetType × String) : Bool := (Dict.get t.pauseTargets key).any (·.paused)

/-- What `_normalize_pause_target` returns. -/
def Normal (u : Unicode) (key : TargetType × String) : Prop :=
  match key.1 with
  | .global => key.2 = "global"
  | .provider => safeProviderName u key.2 = key.2
  | .network => safeNetwork u key.2 = .ok key.2
  | .seller | .settlement => False

theorem normalizePauseTarget_normal {targetType : TargetType} {target : Option String} {n : String}
    (h : normalizePauseTarget u targetType target = .ok n) : Normal u (targetType, n) := by
  cases targetType with
  | global => exact (Except.ok.inj h).symm
  | provider =>
    simp only [normalizePauseTarget] at h
    split at h <;> cases h
    simp only [Normal, safeProviderName_idem]
  | network =>
    simp only [normalizePauseTarget] at h
    split at h
    · cases h
    · exact safeNetwork_idem h
  | seller | settlement => cases h

/-- The pauses in memory, after one of them was set. -/
theorem isPausedLocked_changePause {pause : PauseState} {tt tt' : TargetType} {x x' : String} {paused : Bool}
    (hx : Normal u (tt, x)) (hx' : tt' = .global → x' = "global") :
    Memory.isPausedLocked (Memory.changePause pause tt x paused) tt' x' =
      if (tt', x') = (tt, x) then paused else Memory.isPausedLocked pause tt' x' := by
  cases tt with
  | global =>
    have hname : x = "global" := hx
    cases tt' with
    | global => simp [Memory.changePause, Memory.isPausedLocked, hname, hx']
    | provider | network | seller | settlement => rfl
  | provider | network =>
    cases tt' <;> by_cases h : x' = x <;> cases paused <;>
      simp [Memory.changePause, Memory.isPausedLocked, Memory.setMembership, h]
  | seller | settlement => exact absurd hx id

/-- The rows are a table of normalised targets that says what the sets say. -/
structure PauseRel (u : Unicode) (m : Memory) (t : Tables) : Prop where
  unique : (t.pauseTargets.map Prod.fst).Nodup
  normal : ∀ row ∈ t.pauseTargets, Normal u row.1
  same : ∀ tt x, (tt = .global → x = "global") → t.paused (tt, x) = Memory.isPausedLocked m.pause tt x

theorem PauseRel.start : PauseRel u {} {} := by
  refine ⟨List.nodup_nil, by simp, fun tt x _ => ?_⟩
  cases tt <;> rfl

/-- The rows after the three statements of `set_pause`. -/
theorem Tables.get_insertMissing (key key' : TargetType × String) (now : Instant) :
    Dict.get (t.insertMissing key now).pauseTargets key' =
      if key' = key then some ((Dict.get t.pauseTargets key).getD { paused := false, updatedAt := now })
      else Dict.get t.pauseTargets key' := by
  unfold Tables.insertMissing
  cases hk : Dict.get t.pauseTargets key with
  | none =>
    simp only [Option.isSome_none, Bool.false_eq_true, if_false]
    exact Dict.get_set key'
  | some columns =>
    by_cases h : key' = key
    · simp [h, hk]
    · simp [h]

theorem Tables.paused_upsert (key key' : TargetType × String) (paused : Bool) (now : Instant) :
    ((t.insertMissing key now).upsert key paused now).paused key' = if key' = key then paused else t.paused key' := by
  unfold Tables.paused Tables.upsert
  rw [Dict.get_set, Tables.get_insertMissing]
  by_cases h : key' = key <;> simp [h]

/-- A key that is set stays a table of normalised targets. -/
theorem PauseRel.set_normal {d : List ((TargetType × String) × PauseColumns)} {key : TargetType × String}
    {columns : PauseColumns} (hn : ∀ row ∈ d, Normal u row.1) (hk : Normal u key) :
    ∀ row ∈ Dict.set d key columns, Normal u row.1 := by
  intro row hrow
  unfold Dict.set at hrow
  split at hrow
  · obtain ⟨row', hrow', rfl⟩ := Table.mem_update.mp hrow
    split
    · exact hn row' hrow'
    · exact hn row' hrow'
  · rcases List.mem_append.mp hrow with hrow | hrow
    · exact hn row hrow
    · rw [List.mem_singleton.mp hrow]
      exact hk

/-- `set_pause` on both sides. -/
theorem PauseRel.set (h : PauseRel u m t) {tt : TargetType} {x : String} (hx : Normal u (tt, x)) (paused : Bool)
    (now : Instant) : PauseRel u { m with pause := Memory.changePause m.pause tt x paused }
      ((t.insertMissing (tt, x) now).upsert (tt, x) paused now) := by
  have hinsert : ((t.insertMissing (tt, x) now).pauseTargets.map Prod.fst).Nodup ∧
      ∀ row ∈ (t.insertMissing (tt, x) now).pauseTargets, Normal u row.1 := by
    unfold Tables.insertMissing
    split
    · exact ⟨h.unique, h.normal⟩
    · exact ⟨Dict.keys_set_nodup h.unique, PauseRel.set_normal h.normal hx⟩
  refine ⟨Dict.keys_set_nodup hinsert.1, PauseRel.set_normal hinsert.2 hx, fun tt' x' hx' => ?_⟩
  rw [Tables.paused_upsert, isPausedLocked_changePause hx hx']
  split
  · rfl
  · exact h.same tt' x' hx'

/-- The row that `set_pause` locks. -/
theorem Tables.locked (key : TargetType × String) (now : Instant) :
    ∃ columns, Dict.get (t.insertMissing key now).pauseTargets key = some columns ∧ columns.paused = t.paused key := by
  rw [Tables.get_insertMissing, if_pos rfl]
  refine ⟨_, rfl, ?_⟩
  unfold Tables.paused
  cases Dict.get t.pauseTargets key <;> rfl

/-- A row with `paused = TRUE`. -/
theorem PauseRel.paused_iff (h : PauseRel u m t) {key : TargetType × String} :
    t.paused key = true ↔ ∃ row ∈ t.pauseTargets, row.2.paused = true ∧ row.1 = key := by
  unfold Tables.paused
  rw [Option.any_eq_true]
  constructor
  · rintro ⟨columns, hget, hp⟩
    exact ⟨(key, columns), Dict.mem_of_get hget, hp, rfl⟩
  · rintro ⟨⟨_, columns⟩, hrow, hp, rfl⟩
    exact ⟨columns, (Dict.get_eq_some h.unique).mpr hrow, hp⟩

/-- One row of `pause_state`. -/
theorem addPaused_spec {key : TargetType × String} (hk : Normal u key) (state : PauseState) :
    ((Tables.addPaused u state key).globalPaused = true ↔ state.globalPaused = true ∨ (.global, "global") = key) ∧
      (∀ x, x ∈ (Tables.addPaused u state key).providers ↔ x ∈ state.providers ∨ (.provider, x) = key) ∧
      ∀ x, x ∈ (Tables.addPaused u state key).networks ↔ x ∈ state.networks ∨ (.network, x) = key := by
  obtain ⟨tt, x⟩ := key
  cases tt with
  | global =>
    have hx : x = "global" := hk
    simp [Tables.addPaused, hx]
  | provider =>
    have hx : safeProviderName u x = x := hk
    simp [Tables.addPaused, hx, or_comm]
  | network =>
    have hx : safeNetworkOrNone u (some x) = some x := by
      have hok : safeNetwork u x = .ok x := hk
      rw [safeNetworkOrNone, hok]
      rfl
    simp [Tables.addPaused, hx, or_comm]
  | seller | settlement => exact absurd hk id

/-- The rows of `pause_state`. -/
theorem foldl_addPaused (keys : List (TargetType × String)) (hn : ∀ key ∈ keys, Normal u key) (state : PauseState) :
    ((keys.foldl (Tables.addPaused u) state).globalPaused = true ↔
        state.globalPaused = true ∨ (.global, "global") ∈ keys) ∧
      (∀ x, x ∈ (keys.foldl (Tables.addPaused u) state).providers ↔ x ∈ state.providers ∨ (.provider, x) ∈ keys) ∧
      ∀ x, x ∈ (keys.foldl (Tables.addPaused u) state).networks ↔ x ∈ state.networks ∨ (.network, x) ∈ keys := by
  induction keys generalizing state with
  | nil => simp
  | cons key keys ih =>
    obtain ⟨hglobal, hproviders, hnetworks⟩ := addPaused_spec (hn key List.mem_cons_self) state
    obtain ⟨ihglobal, ihproviders, ihnetworks⟩ :=
      ih (fun k hk => hn k (List.mem_cons_of_mem _ hk)) (Tables.addPaused u state key)
    simp only [List.foldl_cons, List.mem_cons]
    refine ⟨?_, fun x => ?_, fun x => ?_⟩
    · rw [ihglobal, hglobal, or_assoc]
    · rw [ihproviders, hproviders, or_assoc]
    · rw [ihnetworks, hnetworks, or_assoc]

theorem PauseRel.pauseState_eq (h : PauseRel u m t) : t.pauseState u = m.pauseState := by
  have hkeys : ∀ key ∈ (t.pauseTargets.filter (·.2.paused)).map Prod.fst, Normal u key := by
    intro key hkey
    obtain ⟨row, hrow, rfl⟩ := List.mem_map.mp hkey
    exact h.normal row (List.mem_filter.mp hrow).1
  have hmem (tt : TargetType) (x : String) (hx : tt = .global → x = "global") :
      (tt, x) ∈ (t.pauseTargets.filter (·.2.paused)).map Prod.fst ↔ Memory.isPausedLocked m.pause tt x = true := by
    rw [← h.same tt x hx, h.paused_iff]
    simp [and_assoc]
  obtain ⟨hglobal, hproviders, hnetworks⟩ := foldl_addPaused _ hkeys {}
  have hflag : (t.pauseState u).globalPaused = m.pause.globalPaused := by
    rw [Bool.eq_iff_iff, Tables.pauseState, hglobal, hmem .global "global" fun _ => rfl]
    simp [Memory.isPausedLocked]
  have hp : (t.pauseState u).providers = m.pause.providers := by
    ext x
    rw [Tables.pauseState, hproviders, hmem .provider x (by simp)]
    simp [Memory.isPausedLocked]
  have hn : (t.pauseState u).networks = m.pause.networks := by
    ext x
    rw [Tables.pauseState, hnetworks, hmem .network x (by simp)]
    simp [Memory.isPausedLocked]
  cases hs : t.pauseState u with
  | mk g ps ns =>
    rw [hs] at hflag hp hn
    rw [Memory.pauseState]
    cases hm : m.pause with
    | mk g' ps' ns' =>
      rw [hm] at hflag hp hn
      simp only at hflag hp hn
      rw [hflag, hp, hn]

theorem safeNetworkOrNone_ne {network : Option String} {n : String} (h : safeNetworkOrNone u network = some n) :
    n ≠ "" := by
  rintro rfl
  cases network with
  | none => cases h
  | some value =>
    simp only [safeNetworkOrNone] at h
    cases hs : safeNetwork u value with
    | error e => rw [hs] at h; cases h
    | ok n =>
      rw [hs] at h
      cases h
      have hempty := safeNetwork_ok hs
      subst hempty
      simp [safeNetwork] at hs

/-- What `allows` looks at. -/
theorem Memory.allows_iff {provider : String} {network : Option String} :
    m.allows u provider network = true ↔ m.pause.globalPaused = false ∧ safeProviderName u provider ∉ m.pause.providers ∧
      ∀ n, safeNetworkOrNone u network = some n → n ∉ m.pause.networks := by
  unfold Memory.allows
  by_cases hg : m.pause.globalPaused = true
  · simp [hg]
  · by_cases hp : safeProviderName u provider ∈ m.pause.providers
    · simp [hp]
    · cases hn : safeNetworkOrNone u network with
      | none => simp [hg, hp]
      | some n =>
        have hne := safeNetworkOrNone_ne hn
        simp [hg, hp, hne]

theorem PauseRel.allows_eq (h : PauseRel u m t) (provider : String) (network : Option String) :
    t.allows u provider network = m.allows u provider network := by
  rw [Bool.eq_iff_iff, Memory.allows_iff]
  have hrow (key : TargetType × String) (hkey : key.1 = .global → key.2 = "global") :
      (∀ row ∈ t.pauseTargets, row.2.paused = true → row.1 ≠ key) ↔ Memory.isPausedLocked m.pause key.1 key.2 = false := by
    rw [← h.same key.1 key.2 hkey, Bool.eq_false_iff, ne_eq, h.paused_iff]
    constructor
    · rintro hall ⟨row, hr, hp, he⟩
      exact hall row hr hp he
    · intro hnone row hr hp he
      exact hnone ⟨row, hr, hp, he⟩
  have hglobal := hrow (.global, "global") fun _ => rfl
  have hprovider := hrow (.provider, safeProviderName u provider) (by simp)
  simp only [Memory.isPausedLocked, decide_eq_false_iff_not] at hglobal hprovider
  rw [← hglobal, ← hprovider]
  unfold Tables.allows
  cases hn : safeNetworkOrNone u network with
  | none =>
    simp [not_or, imp_and, forall_and]
  | some n =>
    have hnetwork := hrow (.network, n) (by simp)
    simp only [Memory.isPausedLocked, decide_eq_false_iff_not] at hnetwork
    simp only [Option.some.injEq, forall_eq']
    rw [← hnetwork]
    simp [not_or, imp_and, forall_and]

/-! ## Side by side -/

/-- A call, with what each side takes from outside. -/
structure Step where
  call : Call
  memory : Draw
  postgres : Draw

structure Pair where
  memory : Memory := {}
  postgres : Tables := {}
  /-- Which side has raised, call by call. -/
  raises : List (Bool × Bool) := []

/-- The state after a call, and whether it raised. -/
def settled {σ : Type} (before : σ) : Except PyErr (AuditEvent × σ) → Bool × σ
  | .ok (_, after) => (false, after)
  | .error _ => (true, before)

variable (u) in
def Pair.step (p : Pair) (s : Step) : Pair :=
  let memory := settled p.memory (p.memory.apply u s.memory s.call)
  let postgres := settled p.postgres (p.postgres.apply u s.postgres s.call)
  { memory := memory.2, postgres := postgres.2, raises := p.raises ++ [(memory.1, postgres.1)] }

variable (u) in
def run (steps : List Step) : Pair := steps.foldl (Pair.step u) {}

/-- The events are the same, up to their ids, their times and the ids that each side drew for one and the same call. -/
structure Same (draws : List (Draw × Draw)) (e e' : AuditEvent) : Prop where
  action : e.action = e'.action
  targetType : e.targetType = e'.targetType
  target : e.target = e'.target
  before : e.before = e'.before
  after : e.after = e'.after
  reason : e.reason = e'.reason
  actor : e.actor = e'.actor
  correlationId : e.correlationId = e'.correlationId ∨
    ∃ d ∈ draws, e.correlationId = d.1.fresh.text ∧ e'.correlationId = d.2.fresh.text

def draws (steps : List Step) : List (Draw × Draw) := steps.map fun s => (s.memory, s.postgres)

variable (u) in
/-- The two states have raised on the same calls and look the same. -/
structure Agree (steps : List Step) : Prop where
  raises : ∀ r ∈ (run u steps).raises, r.1 = r.2
  pauseState : (run u steps).memory.pauseState = (run u steps).postgres.pauseState u
  allows : ∀ provider network,
    (run u steps).memory.allows u provider network = (run u steps).postgres.allows u provider network
  auditTail : ∀ fresh limit, 1 ≤ limit → List.Forall₂ (Same (draws steps)) ((run u steps).memory.auditTail limit)
    ((run u steps).postgres.auditTail u fresh limit)

variable (u) in
/-- The arguments pass the checks that both sides make. -/
def Call.accepted : Call → Bool
  | .setPause targetType target .. => (normalizePauseTarget u targetType target).isOk
  | .recordSellerCreate sellerAccountId .. => (safeSellerRef u sellerAccountId).isOk
  | .recordSellerKeyEvent action sellerAccountId .. =>
    (safeSellerKeyAction action).isOk && (safeSellerRef u sellerAccountId).isOk
  | .recordReconciliationEvent action recordId .. => (safeReconciliationAction action).isOk && 0 < recordId

/-- A reason where one is stored, and none where one is refused. -/
def Call.plain : Call → Bool
  | .setPause _ _ _ reason .. | .recordReconciliationEvent _ _ _ _ reason .. => strip reason ≠ ""
  | .recordSellerKeyEvent _ _ _ reason .. => reason.isNone
  | .recordSellerCreate .. => true

/-- The text of a natural number is digits only. -/
theorem isDigits_toString (n : Nat) : u.isDigits (strip (toString (n : Int))).toList = true := by
  have htext : (toString (n : Int)).toList = Nat.toDigits 10 n := Nat.toList_repr
  have hdigit : ∀ c ∈ Nat.toDigits 10 n, c.isDigit = true :=
    fun c hc => Nat.isDigit_of_mem_toDigits (by decide) (by decide) hc
  have hspace : ∀ c ∈ Nat.toDigits 10 n, isPySpace c = false := by
    intro c hc
    refine Bool.eq_false_iff.mpr fun hs => ?_
    have halnum := isAlphanum_of_space hs
    simp [Char.isAlphanum, hdigit c hc] at halnum
  have hstrip : strip (toString (n : Int)) = toString (n : Int) :=
    strip_of_ends (fun c hc => hspace c (htext ▸ List.mem_of_mem_head? hc))
      fun c hc => hspace c (htext ▸ List.mem_of_getLast? hc)
  rw [hstrip, htext]
  simp only [Unicode.isDigits, Bool.and_eq_true, List.all_eq_true, Bool.not_eq_true', List.isEmpty_eq_false_iff]
  refine ⟨Nat.toDigits_ne_nil, fun c hc => ?_⟩
  have hascii : c.toNat < 128 := by
    have hd := hdigit c hc
    simp only [Char.isDigit, Bool.and_eq_true, decide_eq_true_eq, UInt32.le_iff_toNat_le] at hd
    have hnine : '9'.val.toNat = 57 := rfl
    have hval : c.toNat = c.val.toNat := rfl
    omega
  rw [u.ascii_isdigit c hascii]
  exact hdigit c hc

/-- The two checks of a record id are one. -/
theorem safeRecordId_eq (recordId : Int) : safeRecordId u recordId =
    if recordId ≤ 0 then .error (.value "settlement record id is required") else .ok recordId := by
  unfold safeRecordId
  by_cases h : recordId ≤ 0
  · simp only [h, if_true]
    split <;> rfl
  · obtain ⟨n, rfl⟩ := Int.eq_ofNat_of_zero_le (show 0 ≤ recordId by omega)
    rw [isDigits_toString]
    rfl

/-- Two draws for one call. -/
theorem safeCorrelationId_draws (fresh fresh' : Uuid) (value : String) :
    safeCorrelationId u fresh value = safeCorrelationId u fresh' value ∨
      safeCorrelationId u fresh value = fresh.text ∧ safeCorrelationId u fresh' value = fresh'.text := by
  unfold safeCorrelationId orDefault
  by_cases h : u.keepOnly ['_', '-', '.'] 96 value = ""
  · simp [h]
  · simp [h]

variable {ds : List (Draw × Draw)} {e e' : AuditEvent} {s : Step}

theorem Same.mono {ds' : List (Draw × Draw)} (h : Same ds e e') (hs : ∀ d ∈ ds, d ∈ ds') : Same ds' e e' := by
  refine { h with correlationId := ?_ }
  rcases h.correlationId with hc | ⟨d, hd, hc⟩
  · exact Or.inl hc
  · exact Or.inr ⟨d, hs d hd, hc⟩

variable (u) in
/-- The row reads as the event. -/
def Stored (ds : List (Draw × Draw)) (e row : AuditEvent) : Prop :=
  ∀ fresh, Same ds e (Tables.auditEventFromMapping u fresh row)

variable (u) in
/-- The states after a run in which all is well. -/
structure Rel (ds : List (Draw × Draw)) (m : Memory) (t : Tables) : Prop where
  pauses : PauseRel u m t
  audit : List.Forall₂ (Stored u ds) m.audit t.auditEvents

theorem Rel.mono {ds' : List (Draw × Draw)} (h : Rel u ds m t) (hs : ∀ d ∈ ds, d ∈ ds') : Rel u ds' m t :=
  ⟨h.pauses, h.audit.imp fun _ _ hrow fresh => (hrow fresh).mono hs⟩

/-- Both sides append their event. -/
theorem Rel.append {event event' : Nat → AuditEvent} (h : Rel u ds m t)
    (he : ∀ n n', Stored u ds (event n) (event' n')) : Rel u ds (m.append event).2 (t.insertAudit event').2 :=
  ⟨⟨h.pauses.unique, h.pauses.normal, h.pauses.same⟩, List.rel_append h.audit (.cons (he _ _) .nil)⟩

/-- A row that was written with the same arguments reads as the event in memory, if its reason can be read back. -/
theorem stored_of_reason {reason : String} {action : AuditAction} {tt : TargetType} {target actor correlationId : String}
    {before after : Bool} {d : Draw × Draw} (hd : d ∈ ds) (n n' : Nat)
    (hreason : Tables.readReason u action reason = reason) :
    Stored u ds
      { eventId := n, action := action, targetType := tt, target := target, before := before, after := after
        reason := reason, actor := safeActor u actor
        correlationId := safeCorrelationId u d.1.fresh correlationId, createdAt := d.1.now }
      { eventId := n', action := action, targetType := tt, target := target, before := before, after := after
        reason := reason, actor := safeActor u actor
        correlationId := safeCorrelationId u d.2.fresh correlationId, createdAt := d.2.now } := by
  intro fresh
  simp only [Tables.auditEventFromMapping, safeActor_idem, safeCorrelationId_idem, hreason]
  refine ⟨rfl, rfl, rfl, rfl, rfl, rfl, rfl, ?_⟩
  simp only
  rcases safeCorrelationId_draws (u := u) d.1.fresh d.2.fresh correlationId with hsame | hdrawn
  · exact Or.inl hsame
  · exact Or.inr ⟨d, hd, hdrawn⟩

theorem sellerKeyAuditReason_none {keyPrefix : String} :
    sellerKeyAuditReason u keyPrefix none = "api_key_prefix:" ++ safeKeyPrefix u keyPrefix := rfl

/-- One call on both sides. -/
theorem Rel.step (h : Rel u ds m t) (hd : (s.memory, s.postgres) ∈ ds)
    (hplain : s.call.accepted u = true → s.call.plain = true) :
    (settled m (m.apply u s.memory s.call)).1 = (settled t (t.apply u s.postgres s.call)).1 ∧
      Rel u ds (settled m (m.apply u s.memory s.call)).2 (settled t (t.apply u s.postgres s.call)).2 := by
  obtain ⟨call, dm, dp⟩ := s
  simp only at hd hplain
  cases call with
  | setPause tt target paused reason actor correlationId =>
    simp only [Memory.apply, Tables.apply, bind, Except.bind, pure, Except.pure]
    cases hn : normalizePauseTarget u tt target with
    | error e => exact ⟨rfl, h⟩
    | ok n =>
      have hreason : strip reason ≠ "" := by
        simpa [Call.plain, Call.accepted, hn, Except.isOk, Except.toBool] using hplain
      obtain ⟨columns, hlocked, hpaused⟩ := Tables.locked (t := t) (tt, n) dp.now
      have hnormal := normalizePauseTarget_normal hn
      have hglobal : tt = .global → n = "global" := by
        rintro rfl
        exact hnormal
      have hbefore : columns.paused = Memory.isPausedLocked m.pause tt n := hpaused.trans (h.pauses.same tt n hglobal)
      have hafter : Memory.isPausedLocked (Memory.changePause m.pause tt n paused) tt n = paused := by
        rw [isPausedLocked_changePause hnormal hglobal, if_pos rfl]
      simp only [hlocked, hbefore, hafter, settled, true_and]
      have hrel : Rel u ds { m with pause := Memory.changePause m.pause tt n paused }
          ((t.insertMissing (tt, n) dp.now).upsert (tt, n) paused dp.now) := by
        refine ⟨h.pauses.set hnormal paused dp.now, ?_⟩
        have hevents : ((t.insertMissing (tt, n) dp.now).upsert (tt, n) paused dp.now).auditEvents = t.auditEvents := by
          unfold Tables.upsert Tables.insertMissing
          split <;> rfl
        rw [hevents]
        exact h.audit
      exact hrel.append fun i i' => stored_of_reason hd i i' (safeReason_idem_iff.mpr hreason)
  | recordSellerCreate seller keyPrefix actor correlationId =>
    simp only [Memory.apply, Tables.apply, bind, Except.bind, pure, Except.pure]
    cases hs : safeSellerRef u seller with
    | error e => exact ⟨rfl, h⟩
    | ok target =>
      simp only [settled, true_and]
      exact h.append fun i i' => stored_of_reason hd i i' safeAuditReason_keyPrefix
  | recordSellerKeyEvent action seller keyPrefix reason actor correlationId =>
    simp only [Memory.apply, Tables.apply, bind, Except.bind, pure, Except.pure]
    cases ha : safeSellerKeyAction action with
    | error e =>
      refine ⟨?_, ?_⟩ <;> cases reason <;> first | rfl | exact h
    | ok safeAction =>
      cases hs : safeSellerRef u seller with
      | error e =>
        refine ⟨?_, ?_⟩ <;> cases reason <;> first | rfl | exact h
      | ok target =>
        have hnone : reason = none := by
          simpa [Call.plain, Call.accepted, ha, hs, Except.isOk, Except.toBool] using hplain
        subst hnone
        simp only [Option.isSome_none, Bool.false_eq_true, if_false, settled, Option.join_none, ite_self,
          sellerKeyAuditReason_none, true_and]
        refine h.append fun i i' => ?_
        have haction : safeAction = .sellerApiKeyIssue ∨ safeAction = .sellerApiKeyRevoke := by
          unfold safeSellerKeyAction at ha
          split at ha
          · exact Or.inl (Except.ok.inj ha).symm
          · split at ha
            · exact Or.inr (Except.ok.inj ha).symm
            · cases ha
        rcases haction with rfl | rfl
        · exact stored_of_reason hd i i' safeAuditReason_keyPrefix
        · exact stored_of_reason hd i i' safeAuditReason_keyPrefix
  | recordReconciliationEvent action recordId before after reason actor correlationId =>
    simp only [Memory.apply, Tables.apply, safeRecordId_eq, bind, Except.bind, pure, Except.pure]
    cases ha : safeReconciliationAction action with
    | error e => exact ⟨rfl, h⟩
    | ok safeAction =>
      by_cases hid : recordId ≤ 0
      · simp only [hid, if_true]
        exact ⟨rfl, h⟩
      · have hreason : strip reason ≠ "" := by
          have hpos : 0 < recordId := by omega
          simpa [Call.plain, Call.accepted, ha, hpos, Except.isOk, Except.toBool] using hplain
        simp only [hid, if_false, settled, true_and]
        exact h.append fun i i' => stored_of_reason hd i i' (safeReason_idem_iff.mpr hreason)

theorem run_snoc (steps : List Step) (s : Step) : run u (steps ++ [s]) = (run u steps).step u s := by
  rw [run, List.foldl_append]
  rfl

/-- A run of plain calls keeps the two states together. -/
theorem run_rel {steps : List Step} (hplain : ∀ s ∈ steps, s.call.accepted u = true → s.call.plain = true) :
    Rel u (draws steps) (run u steps).memory (run u steps).postgres ∧ ∀ r ∈ (run u steps).raises, r.1 = r.2 := by
  induction steps using List.reverseRecOn with
  | nil => exact ⟨⟨PauseRel.start, .nil⟩, by simp [run]⟩
  | append_singleton steps s ih =>
    obtain ⟨hrel, hraises⟩ := ih fun s' hs' => hplain s' (List.mem_append_left _ hs')
    have hd : (s.memory, s.postgres) ∈ draws (steps ++ [s]) := List.mem_map.mpr ⟨s, by simp, rfl⟩
    have hsub : ∀ d ∈ draws steps, d ∈ draws (steps ++ [s]) := by
      intro d hd
      rw [draws, List.map_append]
      exact List.mem_append_left _ hd
    obtain ⟨hsame, hnext⟩ := (hrel.mono hsub).step hd (hplain s (by simp))
    rw [run_snoc]
    refine ⟨hnext, fun r hr => ?_⟩
    rcases List.mem_append.mp hr with hr | hr
    · exact hraises r hr
    · rw [List.mem_singleton.mp hr]
      exact hsame

theorem Memory.auditTail_eq {limit : Int} (hl : 1 ≤ limit) :
    m.auditTail limit = m.audit.reverse.take (max 0 (min limit 100)).toNat := by
  have hsize : (max 0 (min limit 100)).toNat ≠ 0 := by omega
  rw [Memory.auditTail, if_neg hsize, List.take_reverse]

theorem Rel.auditTail (h : Rel u ds m t) (fresh : Uuid) {limit : Int} (hl : 1 ≤ limit) :
    List.Forall₂ (Same ds) (m.auditTail limit) (t.auditTail u fresh limit) := by
  rw [Memory.auditTail_eq hl, Tables.auditTail, List.forall₂_map_right_iff]
  have haudit : List.Forall₂ (fun e row => Same ds e (Tables.auditEventFromMapping u fresh row)) m.audit t.auditEvents :=
    h.audit.imp fun _ _ hrow => hrow fresh
  exact List.forall₂_take _ (List.rel_reverse haudit)

theorem agree_of_plain {steps : List Step} (hplain : ∀ s ∈ steps, s.call.accepted u = true → s.call.plain = true) :
    Agree u steps := by
  obtain ⟨hrel, hraises⟩ := run_rel hplain
  exact ⟨hraises, hrel.pauses.pauseState_eq.symm, fun provider network => (hrel.pauses.allows_eq provider network).symm,
    fun fresh limit hl => hrel.auditTail fresh hl⟩

/-! ## What the two slips show -/

theorem Memory.auditTail_append {event : Nat → AuditEvent} : (m.append event).2.auditTail 1 = [event m.nextEventId] := by
  rw [Memory.auditTail_eq le_rfl]
  simp [Memory.append]

theorem Tables.auditTail_insertAudit {event : Nat → AuditEvent} {fresh : Uuid} :
    (t.insertAudit event).2.auditTail u fresh 1 = [auditEventFromMapping u fresh (event t.nextEventId)] := by
  simp [Tables.auditTail, Tables.insertAudit]

/-- The latest event of an accepted call, on both sides. -/
theorem Agree.last {steps : List Step} {event event' : Nat → AuditEvent} (h : Agree u (steps ++ [s]))
    (hm : (run u (steps ++ [s])).memory = (m.append event).2)
    (ht : (run u (steps ++ [s])).postgres = (t.insertAudit event').2) :
    (event m.nextEventId).reason =
      Tables.readReason u (event' t.nextEventId).action (event' t.nextEventId).reason := by
  have htail := h.auditTail .sample 1 le_rfl
  rw [hm, ht, Memory.auditTail_append, Tables.auditTail_insertAudit] at htail
  cases htail with
  | cons hsame _ => exact hsame.reason

/-- Where the states agree after an accepted call, its reason was one that both sides take. -/
theorem plain_of_agree {steps : List Step} (h : Agree u (steps ++ [s])) (ha : s.call.accepted u = true) :
    s.call.plain = true := by
  obtain ⟨call, dm, dp⟩ := s
  cases call with
  | setPause tt target paused reason actor correlationId =>
    cases hn : normalizePauseTarget u tt target with
    | error e => simp [Call.accepted, hn, Except.isOk, Except.toBool] at ha
    | ok n =>
      obtain ⟨columns, hlocked, -⟩ := Tables.locked (t := (run u steps).postgres) (tt, n) dp.now
      have hread := h.last (s := ⟨.setPause tt target paused reason actor correlationId, dm, dp⟩)
        (by rw [run_snoc]; simp only [Pair.step, Memory.apply, hn, bind, Except.bind, pure, Except.pure, settled]; rfl)
        (by rw [run_snoc]; simp only [Pair.step, Tables.apply, hn, bind, Except.bind, pure, Except.pure, settled,
          hlocked]; rfl)
      simp only [Tables.readReason] at hread
      simpa [Call.plain] using safeReason_idem_iff.mp hread.symm
  | recordSellerCreate => rfl
  | recordSellerKeyEvent action seller keyPrefix reason actor correlationId =>
    cases hact : safeSellerKeyAction action with
    | error e => simp [Call.accepted, hact, Except.isOk, Except.toBool] at ha
    | ok safeAction =>
      cases hs : safeSellerRef u seller with
      | error e => simp [Call.accepted, hs, Except.isOk, Except.toBool] at ha
      | ok sellerRef =>
        cases reason with
        | none => rfl
        | some reason =>
          have hraises := h.raises (false, true) (by
            rw [run_snoc]
            simp only [Pair.step, Memory.apply, Tables.apply, hact, hs, bind, Except.bind, pure, Except.pure, settled,
              Option.isSome_some, if_true]
            exact List.mem_append_right _ (List.mem_singleton.mpr rfl))
          cases hraises
  | recordReconciliationEvent action recordId before after reason actor correlationId =>
    cases hact : safeReconciliationAction action with
    | error e => simp [Call.accepted, hact, Except.isOk, Except.toBool] at ha
    | ok safeAction =>
      have hid : ¬recordId ≤ 0 := by
        simp [Call.accepted, hact, Except.isOk, Except.toBool] at ha
        omega
      have hread := h.last
        (s := ⟨.recordReconciliationEvent action recordId before after reason actor correlationId, dm, dp⟩)
        (by rw [run_snoc]; simp only [Pair.step, Memory.apply, safeRecordId_eq, hact, hid, if_false, bind, Except.bind,
          pure, Except.pure, settled]; rfl)
        (by rw [run_snoc]; simp only [Pair.step, Tables.apply, hact, hid, if_false, bind, Except.bind, pure,
          Except.pure, settled]; rfl)
      simp only [Tables.readReason] at hread
      simpa [Call.plain] using safeReason_idem_iff.mp hread.symm

/-- **The two states are equivalent**, call after call, exactly when no accepted `set_pause` or reconciliation event has
a blank reason and no accepted key event comes with a reason. -/
theorem control_planes_agree (u : Unicode) (steps : List Step) :
    (∀ pre, pre <+: steps → Agree u pre) ↔ ∀ s ∈ steps, s.call.accepted u = true → s.call.plain = true := by
  constructor
  · intro hagree s hs ha
    obtain ⟨pre, post, rfl⟩ := List.append_of_mem hs
    exact plain_of_agree (hagree (pre ++ [s]) ⟨post, by simp⟩) ha
  · intro hplain pre hpre
    exact agree_of_plain fun s hs => hplain s (hpre.subset hs)

def sampleDraw : Draw := ⟨0, .sample⟩

/-- An operator pauses everything and gives three blanks for a reason, which is long enough for the request. -/
def blankPause : Step := ⟨.setPause .global none true "   " "ops" "req-1", sampleDraw, sampleDraw⟩

/-- A key is revoked, with a reason. -/
def revokeWithReason : Step :=
  ⟨.recordSellerKeyEvent "seller_api_key_revoke" "seller-1" "omck_ab" (some (some "leaked")) "ops" "req-2", sampleDraw,
    sampleDraw⟩

/-- Postgres turns the missing reason into a given one, and refuses a reason that the memory takes. -/
theorem control_planes_differ :
    ((run .ascii [blankPause]).memory.auditTail 1).map (·.reason) = ["unspecified"] ∧
      ((run .ascii [blankPause]).postgres.auditTail .ascii .sample 1).map (·.reason) = ["operator_supplied"] ∧
      ¬ Agree .ascii [blankPause] ∧
      (run .ascii [revokeWithReason]).raises = [(false, true)] ∧ ¬ Agree .ascii [revokeWithReason] := by
  refine ⟨by decide +kernel, by decide +kernel, fun h => ?_, by decide +kernel, fun h => ?_⟩
  · have hlast : Agree .ascii ([] ++ [blankPause]) := h
    exact absurd (plain_of_agree hlast (by decide +kernel)) (by decide +kernel)
  · have hlast : Agree .ascii ([] ++ [revokeWithReason]) := h
    exact absurd (plain_of_agree hlast (by decide +kernel)) (by decide +kernel)

end HostedFacilitator.ControlPlane
