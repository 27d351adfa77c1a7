import HostedFacilitator.Storage.Sequential
import HostedFacilitator.Postgres.Coupling

/-!
# `PostgresSettlementStore` under sequential calls

The store as one engine uses it while nobody else does. The claim and the finalisation are one transaction each; the
claim looks for the replay key before it looks for the profile key, the other way round from
`_cached_existing_settlement` and from the other two stores. `settle_alone` says that a call that runs alone in the
system of `System.lean` does what `SettlementStore.settleCall` says.
-/

namespace HostedFacilitator.Postgres

namespace Db

/-- `claim_and_start_settle_attempt`, run alone. No row can be hidden from its insert, so the selects after it and the
retries are not reached; a row that is found is returned as it was before it is counted. -/
def claimAndStartSettleAttempt (db : Db) (c : ClaimRequest) (now : Instant) :
    (SettlementRecord × SettlementClaim × Option Nat) × Db :=
  match db.selectReplay c.replayKey with
  | some r => ((r, claimForStatus r.status, none), db.countDuplicate r.recordId now)
  | none =>
    let db' := { db with nextRecordId := db.nextRecordId + 1 }
    match db.get c.profileKey with
    | some r => ((r, claimForStatus r.status, none), db'.countDuplicate r.recordId now)
    | none =>
      let record := c.freshRecord db.nextRecordId now
      let attempt := c.startedAttempt db.nextAttemptId record.recordId now
      ((record, .claimed, some attempt.attemptId),
        { db' with nextAttemptId := db.nextAttemptId + 1 }.addClaim record attempt)

/-- `start_settle_attempt`. -/
def startSettleAttempt (db : Db) (r : SettlementRecord) (traceId : String) (now : Instant) : Nat × Db :=
  (db.nextAttemptId,
    { db with
      attempts := db.attempts ++ [SettlementAttemptRecord.started db.nextAttemptId r.recordId traceId now]
      nextAttemptId := db.nextAttemptId + 1 })

end Db

/-- The store as the engine uses it; it hands out copies of its rows. -/
def store : SettlementStore Db where
  init := {}
  get := Db.get
  getByProviderFingerprint := Db.getByProviderFingerprint
  startSettleAttempt := Db.startSettleAttempt
  held := fun _ r => r
  steps := .atomic
    { claimAndStartSettleAttempt := fun db c now => .ok (db.claimAndStartSettleAttempt c now)
      markRecordAndFinishSettleAttempt := fun db r attemptId f now =>
        db.markRecordAndFinishSettleAttempt r.recordId attemptId f now }

/-! ## The laws -/

/-- The primary keys are keys, and the sequences are ahead of them. -/
structure Db.Sound (db : Db) : Prop where
  ids : db.UniqueIds
  bound : ∀ r ∈ db.records, r.recordId < db.nextRecordId
  attempts_bound : ∀ a ∈ db.attempts, a.attemptId < db.nextAttemptId

namespace Db

variable {db : Db} {c : ClaimRequest} {r : SettlementRecord}

theorem mem_withReplayKey {k : ReplayKey} :
    r ∈ db.withReplayKey k ↔ r ∈ db.records ∧ r.replayKey.coalesce = k.coalesce := by
  simp [withReplayKey]

theorem selectReplay_sound {k : ReplayKey} (h : db.selectReplay k = some r) :
    r ∈ db.records ∧ r.paymentKey = k.paymentKey := by
  obtain ⟨hmem, hk⟩ := mem_withReplayKey.mp (Table.least_mem h)
  exact ⟨hmem, ReplayKey.paymentKey_of_coalesce hk⟩

theorem selectReplay_complete (hr : r ∈ db.records) (hk : r.replayKey = c.replayKey) :
    ∃ r', db.selectReplay c.replayKey = some r' := by
  cases h : db.selectReplay c.replayKey with
  | some r' => exact ⟨r', rfl⟩
  | none =>
    have hmem : r ∈ db.withReplayKey c.replayKey := mem_withReplayKey.mpr ⟨hr, by rw [hk]⟩
    rw [Table.least_eq_none.mp h] at hmem
    cases hmem

theorem get_sound {k : ProfileKey} (h : db.get k = some r) : r ∈ db.records ∧ r.paymentKey = k.paymentKey := by
  refine ⟨Table.row_mem h, ?_⟩
  rw [← r.profileKey_paymentKey, Table.row_key h]

theorem existing_sound (h : store.existing db c = some r) : r ∈ db.records ∧ r.paymentKey = c.paymentKey := by
  unfold SettlementStore.existing at h
  split at h
  · rename_i r' hr'
    cases h
    exact get_sound hr'
  · obtain ⟨hmem, hk⟩ := mem_withReplayKey.mp (List.mem_of_mem_head? h)
    exact ⟨hmem, ReplayKey.paymentKey_of_coalesce hk⟩

theorem existing_complete (hr : r ∈ db.records) (hk : r.replayKey = c.replayKey) :
    ∃ r', store.existing db c = some r' := by
  unfold SettlementStore.existing
  split
  · exact ⟨_, rfl⟩
  · have hmem : r ∈ db.withReplayKey c.replayKey := mem_withReplayKey.mpr ⟨hr, by rw [hk]⟩
    show ∃ r', (db.withReplayKey c.replayKey).head? = some r'
    cases hw : db.withReplayKey c.replayKey with
    | nil =>
      rw [hw] at hmem
      cases hmem
    | cons x xs => exact ⟨x, rfl⟩

/-- A claim for a payment that has one record finds it. -/
theorem claim_of_unique (now : Instant) (hr : r ∈ db.records)
    (huniq : ∀ r' ∈ db.records, r'.paymentKey = r.paymentKey → r' = r) (hk : r.replayKey = c.replayKey) :
    db.claimAndStartSettleAttempt c now =
      ((r, claimForStatus r.status, none), db.countDuplicate r.recordId now) := by
  obtain ⟨r', hr'⟩ := selectReplay_complete hr hk
  obtain ⟨hmem, hpay⟩ := selectReplay_sound hr'
  obtain rfl := huniq r' hmem (by rw [hpay, ← hk, r.replayKey_paymentKey])
  simp only [claimAndStartSettleAttempt, hr']

/-- The tables after a fresh claim. -/
def claimed (db : Db) (c : ClaimRequest) (now : Instant) : Db :=
  { db with nextRecordId := db.nextRecordId + 1, nextAttemptId := db.nextAttemptId + 1 }.addClaim
    (c.freshRecord db.nextRecordId now) (c.startedAttempt db.nextAttemptId db.nextRecordId now)

/-- A claim for a payment that has no record creates it. -/
theorem claim_of_absent (now : Instant) (h : ∀ r ∈ db.records, r.paymentKey ≠ c.paymentKey) :
    db.claimAndStartSettleAttempt c now =
      ((c.freshRecord db.nextRecordId now, .claimed, some db.nextAttemptId), db.claimed c now) := by
  have hreplay : db.selectReplay c.replayKey = none := by
    cases hs : db.selectReplay c.replayKey with
    | none => rfl
    | some r =>
      obtain ⟨hmem, hpay⟩ := selectReplay_sound hs
      exact absurd hpay (h r hmem)
  have hget : db.get c.profileKey = none := by
    cases hg : db.get c.profileKey with
    | none => rfl
    | some r =>
      obtain ⟨hmem, hpay⟩ := get_sound hg
      exact absurd hpay (h r hmem)
  simp only [claimAndStartSettleAttempt, hreplay, hget]
  rfl

/-- Every finalisation accepts a record in progress. -/
theorem expectedStatuses_of_clean {f : Finalization} (h : f.Clean) :
    ∃ expected, expectedStatuses f.recordStatus = some expected ∧ SettlementStatus.settleInProgress ∈ expected := by
  cases h with
  | settled | submitted | settleFailed | unknown => exact ⟨_, rfl, by decide⟩

/-! ## Sound tables -/

theorem Sound.write (h : db.Sound) (recordId : Nat) {f : SettlementRecord → SettlementRecord}
    (hid : ∀ r, (f r).recordId = r.recordId) : (db.write recordId f).Sound := by
  refine ⟨?_, ?_, h.attempts_bound⟩
  · rw [UniqueIds, Db.write, Table.map_update hid]
    exact h.ids
  · intro x hx
    obtain ⟨y, hy, rfl⟩ := Table.mem_update.mp hx
    have hy' := h.bound y hy
    split
    · rw [hid]
      exact hy'
    · exact hy'

theorem Sound.finalize (h : db.Sound) (recordId attemptId : Nat) (f : Finalization) (now : Instant) :
    (db.finalize recordId attemptId f now).Sound := by
  have hw : (db.write recordId (transition f.recordStatus f.transaction f.payer f.errorReason now)).Sound :=
    h.write recordId fun _ => rfl
  refine ⟨hw.ids, hw.bound, ?_⟩
  intro x hx
  obtain ⟨y, hy, rfl⟩ := Table.mem_update.mp hx
  have hy' := h.attempts_bound y hy
  split <;> exact hy'

theorem Sound.claimed (h : db.Sound) (c : ClaimRequest) (now : Instant) : (db.claimed c now).Sound := by
  refine ⟨?_, ?_, ?_⟩
  · refine Table.nodup_append_fresh h.ids fun r hr => ?_
    have hlt := h.bound r hr
    rw [c.freshRecord_recordId]
    omega
  · intro r hr
    show r.recordId < db.nextRecordId + 1
    rcases List.mem_append.mp hr with hr | hr
    · have hlt := h.bound r hr
      omega
    · rw [List.mem_singleton.mp hr, c.freshRecord_recordId]
      omega
  · intro a ha
    show a.attemptId < db.nextAttemptId + 1
    rcases List.mem_append.mp ha with ha | ha
    · have hlt := h.attempts_bound a ha
      omega
    · rw [List.mem_singleton.mp ha]
      exact Nat.lt_succ_self _

end Db

/-- A call that gets the claim finalises its record: nothing else has touched it. -/
theorem settledAlone {db : Db} {call : SettleCall} (h : db.Sound)
    (hnone : ∀ r ∈ db.records, r.paymentKey ≠ call.request.paymentKey) (result : ProviderResult) (times : Readings) :
    SettledAlone Db.Sound Db.records Db.attempts db call result db.nextRecordId db.nextAttemptId times.claim
      times.claim times.mark times.mark (store.claimAndSettle db call result times) := by
  set record := call.request.freshRecord db.nextRecordId times.claim with hrecord
  have hfr : record.Fresh := call.request.freshRecord_fresh _ _
  have hsound := h.claimed call.request times.claim
  have hfresh : ∀ x ∈ db.records, x.recordId ≠ db.nextRecordId := fun x hx => Nat.ne_of_lt (h.bound x hx)
  have hrow : (db.claimed call.request times.claim).record record.recordId = some record := by
    refine (Table.row_eq_some hsound.ids).mpr ⟨?_, rfl⟩
    exact List.mem_append_right _ (List.mem_singleton.mpr rfl)
  obtain ⟨expected, hexp, hmem⟩ := Db.expectedStatuses_of_clean (result.finalization_clean call hfr)
  have hok : (db.claimed call.request times.claim).markRecordAndFinishSettleAttempt record.recordId db.nextAttemptId
      (result.finalization call record) times.mark = .ok ((db.claimed call.request times.claim).finalize
        record.recordId db.nextAttemptId (result.finalization call record) times.mark) :=
    (Db.finalize_ok hsound.ids).mpr ⟨expected, record, hexp, hrow, hfr.status.symm ▸ hmem, rfl⟩
  have hnone' : cachedSettlement record .claimed = none := rfl
  have hdone : store.claimAndSettle db call result times =
      { answer := .ok (result.answer call record), providerCalled := true,
        store := (db.claimed call.request times.claim).finalize record.recordId db.nextAttemptId
          (result.finalization call record) times.mark } := by
    have hclaim := Db.claim_of_absent times.claim hnone
    simp only [SettlementStore.claimAndSettle, SettlementStore.claimSettlementRecord, store, hclaim, ← hrecord, hnone',
      SettlementStore.settleClaimed, SettlementStore.markRecordAndFinishAttempt, hok]
  refine ⟨?_, ?_, ?_, hfresh, ?_⟩
  · rw [hdone]
  · rw [hdone]
  · rw [hdone]
  · rw [hdone]
    refine ⟨hsound.finalize _ _ _ _, ?_, ?_⟩
    · show Table.update _ _ (db.records ++ [record]) = _
      rw [Table.update_append, Table.update_of_none]
      · simp [Table.update, hrecord]
        rfl
      · intro x hx
        exact beq_eq_false_iff_ne.mpr (hfresh x hx)
    · show Table.update _ _ (db.attempts ++ [call.request.startedAttempt db.nextAttemptId db.nextRecordId times.claim]) = _
      rw [Table.update_append, Table.update_of_none]
      · simp [Table.update, ClaimRequest.startedAttempt]
        rfl
      · intro x hx
        exact beq_eq_false_iff_ne.mpr (Nat.ne_of_lt (h.attempts_bound x hx))

/-- The store under sequential calls. -/
def sequential : SequentialStore Db where
  store := store
  records := Db.records
  attempts := Db.attempts
  Inv := Db.Sound
  init := ⟨⟨List.nodup_nil, by simp [store], by simp [store]⟩, rfl, rfl⟩
  ids := fun h => h.ids
  existing_sound := fun _ h => Db.existing_sound h
  existing_complete := fun _ hr hk => Db.existing_complete hr hk
  settle_duplicate := by
    intro db call r result times hinv hr huniq hk
    obtain ⟨o, ho⟩ := duplicateAnswer_isSome call r
    obtain ⟨o', hc, rfl⟩ := cachedSettlement_of_duplicate ho
    refine ⟨_, db.countDuplicate r.recordId times.claim, ho, ?_, ?_, rfl, rfl⟩
    · simp only [SettlementStore.claimAndSettle, SettlementStore.claimSettlementRecord, store,
        Db.claim_of_unique times.claim hr huniq hk, hc]
    · exact hinv.write r.recordId fun _ => rfl
  settle_fresh := by
    intro db call result times hinv hnone
    exact ⟨_, _, _, _, settledAlone hinv hnone result times⟩

/-! ## A call that runs alone -/

/-- The state with one more call, which stands at `phase`. -/
def System.withCall (s : System) (call : SettleCall) (db : Db) (phase : Phase) (calls : List ReplayKey)
    (leases : List LeaseEvent) : System :=
  { s with db := db, processes := s.processes ++ [⟨call, phase⟩], providerCalls := calls, leases := leases }

/-- The steps of the added call lead from one point to another while everybody else stands still. -/
def Alone (hash : String → Int) (s : System) (call : SettleCall) (db : Db) (phase : Phase) (calls : List ReplayKey)
    (db' : Db) (phase' : Phase) (calls' : List ReplayKey) : Prop :=
  ∀ leases, ∃ es leases', (machine hash).Leads (s.withCall call db phase calls leases) es
    (s.withCall call db' phase' calls' leases')

/-- The calls of the provider after one settlement. -/
def providerCallsAfter (done : Settlement Db) (call : SettleCall) (calls : List ReplayKey) : List ReplayKey :=
  if done.providerCalled then calls ++ [call.request.replayKey] else calls

/-- The call, alone, ends as `done` says. -/
def EndsAs (hash : String → Int) (s : System) (call : SettleCall) (db : Db) (phase : Phase) (calls : List ReplayKey)
    (done : Settlement Db) : Prop :=
  ∃ settled, Alone hash s call db phase calls done.store (.finished done.answer settled)
    (providerCallsAfter done call calls)

/-- Nobody else is inside a claim. -/
def System.Quiet (s : System) : Prop := ∀ p ∈ s.processes, p.phase.holdsLock = false

section Alone

variable {hash : String → Int} {s : System} {call : SettleCall} {db db' : Db} {phase phase' : Phase}
  {calls calls' : List ReplayKey}

theorem Alone.refl : Alone hash s call db phase calls db phase calls :=
  fun leases => ⟨[], leases, Transition.Machine.leads_nil.mpr rfl⟩

/-- One step of the call, and then the rest. -/
theorem Alone.head (input : EngineInput) {db₁ : Db} {phase₁ : Phase} (hread : input.reading.all (· ≤ s.clock) = true)
    (hstep : engineNext hash db (s.processes ++ [⟨call, phase⟩]) call phase input = some (db₁, phase₁))
    (hrest : Alone hash s call db₁ phase₁ (logCall calls call.request.replayKey phase₁) db' phase' calls') :
    Alone hash s call db phase calls db' phase' calls' := by
  intro leases
  obtain ⟨es, leases', hes⟩ := hrest (leases ++ engineLease phase phase₁)
  refine ⟨.engine s.processes.length input :: es, leases', Transition.Machine.leads_cons.mpr ⟨_, ?_, hes⟩⟩
  have hget : (s.withCall call db phase calls leases).processes[s.processes.length]? = some ⟨call, phase⟩ := by
    simp [System.withCall]
  have hread' : input.reading.all (· ≤ (s.withCall call db phase calls leases).clock) = true := hread
  have hstep' : engineNext hash (s.withCall call db phase calls leases).db
      (s.withCall call db phase calls leases).processes call phase input = some (db₁, phase₁) := hstep
  simp only [machine, System.next, hget, if_pos hread', hstep', Option.map_some]
  simp [System.withCall]

theorem System.Quiet.lockFree (h : s.Quiet) (hp : phase.holdsLock = false) (k : ReplayKey) :
    lockFree hash (s.processes ++ [⟨call, phase⟩]) k = true := by
  rw [Postgres.lockFree, List.all_eq_true]
  intro p hmem
  rcases List.mem_append.mp hmem with hmem | hmem
  · rw [h p hmem]
    rfl
  · rw [List.mem_singleton.mp hmem, hp]
    rfl

theorem System.Quiet.noPendingConflict (h : s.Quiet) (hp : phase.pendingRecord = none) (k : ProfileKey) :
    noPendingConflict (s.processes ++ [⟨call, phase⟩]) k = true := by
  rw [Postgres.noPendingConflict, List.all_eq_true]
  intro p hmem
  have hnone : p.phase.pendingRecord = none := by
    rcases List.mem_append.mp hmem with hmem | hmem
    · have hlock := h p hmem
      cases hph : p.phase <;> rw [hph] at hlock <;> first | rfl | cases hlock
    · rw [List.mem_singleton.mp hmem]
      exact hp
  rw [hnone]
  rfl

theorem EndsAs.head {done : Settlement Db} (input : EngineInput) {db₁ : Db} {phase₁ : Phase}
    (hread : input.reading.all (· ≤ s.clock) = true)
    (hstep : engineNext hash db (s.processes ++ [⟨call, phase⟩]) call phase input = some (db₁, phase₁))
    (hcalls : phase₁.invokes = false) (hrest : EndsAs hash s call db₁ phase₁ calls done) :
    EndsAs hash s call db phase calls done := by
  obtain ⟨settled, hrest⟩ := hrest
  refine ⟨settled, .head input hread hstep ?_⟩
  rw [logCall, hcalls]
  exact hrest

/-- A claim that has found a record counts it and answers. -/
theorem endsAs_duplicate {now : Instant} {r : SettlementRecord} {o : SettleOutcome} (hnow : now ≤ s.clock)
    (ho : duplicateAnswer call r = some o) :
    EndsAs hash s call db (.claimDuplicate now r) calls
      { answer := .ok o, store := db.countDuplicate r.recordId now } := by
  refine EndsAs.head (.proceed now) (by simpa [EngineInput.reading] using hnow) ?_ rfl ⟨none, .refl⟩
  simp only [engineNext, ho, Option.map_some]

/-- A call that has its record calls the provider and finalises. -/
theorem endsAs_claimed {r : SettlementRecord} {a : Nat} (result : ProviderResult) (times : Readings)
    (hmark : times.mark ≤ s.clock) :
    EndsAs hash s call db (.claimed r a) calls (store.settleClaimed db call r a result times) := by
  have hread : (EngineInput.proceed times.mark).reading.all (· ≤ s.clock) = true := by
    simpa [EngineInput.reading] using hmark
  have hstep : engineNext hash db (s.processes ++ [⟨call, .finalizing r a result⟩]) call (.finalizing r a result)
      (.proceed times.mark) = some ((store.settleClaimed db call r a result times).store,
        .finished (store.settleClaimed db call r a result times).answer (some (r, result))) := by
    cases hok : db.markRecordAndFinishSettleAttempt r.recordId a (result.finalization call r) times.mark with
    | ok db' => simp [engineNext, hok, SettlementStore.settleClaimed, SettlementStore.markRecordAndFinishAttempt, store]
    | error e => simp [engineNext, hok, SettlementStore.settleClaimed, SettlementStore.markRecordAndFinishAttempt, store]
  have hcalls : providerCallsAfter (store.settleClaimed db call r a result times) call calls =
      calls ++ [call.request.replayKey] := by
    unfold SettlementStore.settleClaimed
    split <;> rfl
  refine ⟨some (r, result), .head _ hread rfl (.head (.provider result) rfl rfl (.head _ hread hstep ?_))⟩
  rw [hcalls]
  exact .refl

/-- From the claim on. -/
theorem claimAndSettle_alone (hq : s.Quiet) (result : ProviderResult) (times : Readings)
    (hclaim : times.claim ≤ s.clock) (hmark : times.mark ≤ s.clock) :
    EndsAs hash s call db .claimEnter calls (store.claimAndSettle db call result times) := by
  have hread : (EngineInput.proceed times.claim).reading.all (· ≤ s.clock) = true := by
    simpa [EngineInput.reading] using hclaim
  refine EndsAs.head _ hread rfl rfl (EndsAs.head _ hread (if_pos (hq.lockFree rfl _)) rfl ?_)
  have hfound : ∀ {r : SettlementRecord} {db' : Db}, db.claimAndStartSettleAttempt call.request times.claim =
      ((r, claimForStatus r.status, none), db'.countDuplicate r.recordId times.claim) →
      EndsAs hash s call db' (.claimDuplicate times.claim r) calls (store.claimAndSettle db call result times) := by
    intro r db' hc
    obtain ⟨o, ho⟩ := duplicateAnswer_isSome call r
    obtain ⟨o', ho', rfl⟩ := cachedSettlement_of_duplicate ho
    have hdone : store.claimAndSettle db call result times =
        { answer := .ok (markDuplicate call o'), store := db'.countDuplicate r.recordId times.claim } := by
      simp only [SettlementStore.claimAndSettle, SettlementStore.claimSettlementRecord, store, hc, ho']
    rw [hdone]
    exact endsAs_duplicate hclaim ho
  cases hsel : db.selectReplay call.request.replayKey with
  | some r =>
    have hstep : engineNext hash db (s.processes ++ [⟨call, .claimLocked times.claim 0⟩]) call
        (.claimLocked times.claim 0) (.proceed times.claim) = some (db, .claimDuplicate times.claim r) := by
      simp only [engineNext, hsel]
    refine EndsAs.head _ hread hstep rfl (hfound ?_)
    simp only [Db.claimAndStartSettleAttempt, hsel]
  | none =>
    have hstep : engineNext hash db (s.processes ++ [⟨call, .claimLocked times.claim 0⟩]) call
        (.claimLocked times.claim 0) (.proceed times.claim) = some (db, .claimInsert times.claim 0) := by
      simp only [engineNext, hsel]
    refine EndsAs.head _ hread hstep rfl ?_
    have hfree : noPendingConflict (s.processes ++ [⟨call, .claimInsert times.claim 0⟩]) call.request.profileKey = true :=
      hq.noPendingConflict rfl _
    cases hget : db.get call.request.profileKey with
    | some r =>
      have hstep : engineNext hash db (s.processes ++ [⟨call, .claimInsert times.claim 0⟩]) call
          (.claimInsert times.claim 0) (.proceed times.claim) =
            some ({ db with nextRecordId := db.nextRecordId + 1 }, .claimDuplicate times.claim r) := by
        simp only [engineNext, if_pos hfree, hget]
      refine EndsAs.head _ hread hstep rfl (hfound ?_)
      simp only [Db.claimAndStartSettleAttempt, hsel, hget]
    | none =>
      have hc : db.claimAndStartSettleAttempt call.request times.claim =
          ((call.request.freshRecord db.nextRecordId times.claim, .claimed, some db.nextAttemptId),
            db.claimed call.request times.claim) := by
        simp only [Db.claimAndStartSettleAttempt, hsel, hget]
        rfl
      have hnone : cachedSettlement (call.request.freshRecord db.nextRecordId times.claim) .claimed = none := rfl
      have hdone : store.claimAndSettle db call result times =
          store.settleClaimed (db.claimed call.request times.claim) call
            (call.request.freshRecord db.nextRecordId times.claim) db.nextAttemptId result times := by
        simp only [SettlementStore.claimAndSettle, SettlementStore.claimSettlementRecord, store, hc, hnone]
      have hstep : engineNext hash db (s.processes ++ [⟨call, .claimInsert times.claim 0⟩]) call
          (.claimInsert times.claim 0) (.proceed times.claim) =
            some ({ db with nextRecordId := db.nextRecordId + 1 },
              .claimInserted times.claim (call.request.freshRecord db.nextRecordId times.claim)) := by
        simp only [engineNext, if_pos hfree, hget]
      rw [hdone]
      refine EndsAs.head _ hread hstep rfl ?_
      exact EndsAs.head _ hread rfl rfl (EndsAs.head _ hread rfl rfl (endsAs_claimed result times hmark))

/-- What `_cached_existing_settlement` finds, read by read. -/
theorem cachedExistingSettlement_eq :
    store.cachedExistingSettlement db call =
      match db.get call.request.profileKey with
      | some r => existingAnswer call r
      | none => (db.getByProviderFingerprint call.request.replayKey).bind (existingAnswer call) := by
  unfold SettlementStore.cachedExistingSettlement SettlementStore.existing
  show (match db.get call.request.profileKey with
    | some r => some r
    | none => db.getByProviderFingerprint call.request.replayKey).bind (existingAnswer call) = _
  cases db.get call.request.profileKey <;> rfl

/-- The two reads of `_cached_existing_settlement`: an answer ends the call, otherwise it goes on. -/
theorem endsAs_cached {first second otherwise : Phase} {done : Settlement Db} {t : Instant}
    (hread : (EngineInput.proceed t).reading.all (· ≤ s.clock) = true)
    (hfirst : engineNext hash db (s.processes ++ [⟨call, first⟩]) call first (.proceed t) =
      some (db, answerExisting call (db.get call.request.profileKey) second))
    (hsecond : engineNext hash db (s.processes ++ [⟨call, second⟩]) call second (.proceed t) =
      some (db, answerExisting call (db.getByProviderFingerprint call.request.replayKey) otherwise))
    (hinv : second.invokes = false) (hinv' : otherwise.invokes = false)
    (hsome : ∀ o, store.cachedExistingSettlement db call = some o →
      EndsAs hash s call db (.finished (.ok o) none) calls done)
    (hnone : store.cachedExistingSettlement db call = none → EndsAs hash s call db otherwise calls done) :
    EndsAs hash s call db first calls done := by
  rw [cachedExistingSettlement_eq] at hsome hnone
  cases hget : db.get call.request.profileKey with
  | some r =>
    obtain ⟨o, ho⟩ := duplicateAnswer_isSome call r
    rw [← existingAnswer_eq] at ho
    rw [hget, answerExisting, Option.bind_some, ho] at hfirst
    exact .head _ hread hfirst rfl (hsome o (by rw [hget]; exact ho))
  | none =>
    rw [hget, answerExisting, Option.bind_none] at hfirst
    refine .head _ hread hfirst hinv ?_
    cases hl : (db.getByProviderFingerprint call.request.replayKey).bind (existingAnswer call) with
    | some o =>
      rw [answerExisting, hl] at hsecond
      exact .head _ hread hsecond rfl (hsome o (by rw [hget]; exact hl))
    | none =>
      rw [answerExisting, hl] at hsecond
      exact .head _ hread hsecond hinv' (hnone (by rw [hget]; exact hl))

/-- The first phase of a call. -/
theorem settleCall_alone (hq : s.Quiet) (limiter : Option Bool) (result : ProviderResult) (times : Readings)
    (hclaim : times.claim ≤ s.clock) (hmark : times.mark ≤ s.clock) :
    EndsAs hash s call db (if limiter.isSome then .cachedGet else .claimEnter) calls
      (store.settleCall limiter db call result times) := by
  have hread : (EngineInput.proceed times.claim).reading.all (· ≤ s.clock) = true := by
    simpa [EngineInput.reading] using hclaim
  cases limiter with
  | none => exact claimAndSettle_alone hq result times hclaim hmark
  | some allowed =>
    refine endsAs_cached hread rfl rfl rfl rfl (fun o ho => ?_) (fun hnone => ?_)
    · simp only [SettlementStore.settleCall, ho]
      exact ⟨none, .refl⟩
    · simp only [SettlementStore.settleCall, hnone]
      cases allowed with
      | true =>
        refine .head (.limiter true) rfl rfl rfl ?_
        exact claimAndSettle_alone hq result times hclaim hmark
      | false =>
        refine .head (.limiter false) rfl rfl rfl ?_
        refine endsAs_cached hread rfl rfl rfl rfl (fun o ho => ?_) (fun _ => ⟨none, .refl⟩)
        rw [hnone] at ho
        cases ho

/-- A call that runs alone does what the store's sequential model says. -/
theorem settle_alone (hq : s.Quiet) (limiter : Option Bool) (call : SettleCall) (result : ProviderResult)
    (times : Readings) (hclaim : times.claim ≤ s.clock) (hmark : times.mark ≤ s.clock) :
    ∃ es s' settled, (machine hash).Leads s (.arrive call limiter.isSome :: es) s' ∧
      s'.db = (store.settleCall limiter s.db call result times).store ∧
      s'.processes[s.processes.length]? =
        some ⟨call, .finished (store.settleCall limiter s.db call result times).answer settled⟩ ∧
      s'.providerCalls = providerCallsAfter (store.settleCall limiter s.db call result times) call s.providerCalls := by
  have hends : EndsAs hash s call s.db (if limiter.isSome then .cachedGet else .claimEnter) s.providerCalls
      (store.settleCall limiter s.db call result times) := settleCall_alone hq limiter result times hclaim hmark
  obtain ⟨settled, halone⟩ := hends
  obtain ⟨es, leases', hes⟩ := halone s.leases
  exact ⟨es, _, settled, Transition.Machine.leads_cons.mpr ⟨_, rfl, hes⟩, rfl, by simp [System.withCall], rfl⟩

end Alone

section Reachable

variable {hash : String → Int} {s : System}

theorem reachable_sound (h : (machine hash).Reachable s) : s.db.Sound := by
  have hclaims := reachable_claims h
  refine ⟨hclaims.uniqueIds, ?_, (reachable_coupling h).bound⟩
  intro r hr
  exact hclaims.bound (r.recordId, r.replayKey.coalesce) (List.mem_map.mpr ⟨r, hr, rfl⟩)

end Reachable

end HostedFacilitator.Postgres
