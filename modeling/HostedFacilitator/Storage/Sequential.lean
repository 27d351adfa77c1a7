import HostedFacilitator.Storage.Lawful

/-!
# One call on a store

What `engine.settle` does, from the claim on, when it runs alone (`SequentialStore`): either the payment has a record,
which is counted and answers the call, or a finalised record and its finished attempt are added. The stores with
separate operations do this (`LawfulStore.sequential`); the Postgres store does it in two transactions.
-/

namespace HostedFacilitator

/-- A claim that found a record answers from it. -/
theorem cachedSettlement_of_duplicate {call : SettleCall} {r : SettlementRecord} {o : SettleOutcome}
    (h : duplicateAnswer call r = some o) :
    ∃ o', cachedSettlement r (claimForStatus r.status) = some o' ∧ markDuplicate call o' = o :=
  Option.map_eq_some_iff.mp h

/-- The attempt of a fresh record, once the call has finished. -/
def SettlementAttemptRecord.closed (attemptId recordId : Nat) (traceId : String) (f : Finalization)
    (start finish : Instant) : SettlementAttemptRecord :=
  (SettlementAttemptRecord.started attemptId recordId traceId start).finished f.attemptStatus f.transaction
    f.errorReason finish

/-- What a call that got the claim leaves behind and answers. -/
structure SettledAlone {σ : Type} (Inv : σ → Prop) (records : σ → List SettlementRecord)
    (attempts : σ → List SettlementAttemptRecord) (s : σ) (call : SettleCall) (result : ProviderResult)
    (n a : Nat) (claim start mark finish : Instant) (done : Settlement σ) : Prop where
  answer : done.answer = .ok (result.answer call (call.request.freshRecord n claim))
  limiterChecked : done.limiterChecked = false
  providerCalled : done.providerCalled = true
  fresh : ∀ x ∈ records s, x.recordId ≠ n
  after : After Inv records attempts done.store
    (records s ++ [(call.request.freshRecord n claim).finalized
      (result.finalization call (call.request.freshRecord n claim)) mark])
    (attempts s ++ [.closed a n call.request.traceId (result.finalization call (call.request.freshRecord n claim))
      start finish])

/-- A store, the records and attempts in it, and what one call on it does. -/
structure SequentialStore (σ : Type) where
  store : SettlementStore σ
  records : σ → List SettlementRecord
  attempts : σ → List SettlementAttemptRecord
  Inv : σ → Prop
  init : After Inv records attempts store.init [] []
  ids : ∀ {s}, Inv s → ((records s).map SettlementRecord.recordId).Nodup
  existing_sound : ∀ {s c r}, Inv s → store.existing s c = some r → r ∈ records s ∧ r.paymentKey = c.paymentKey
  existing_complete : ∀ {s c r}, Inv s → r ∈ records s → r.replayKey = c.replayKey →
    ∃ r', store.existing s c = some r'
  settle_duplicate : ∀ {s call r} (result : ProviderResult) (times : Readings), Inv s → r ∈ records s →
    (∀ r' ∈ records s, r'.paymentKey = r.paymentKey → r' = r) → r.replayKey = call.request.replayKey →
    ∃ o s', duplicateAnswer call r = some o ∧
      store.claimAndSettle s call result times = { answer := .ok o, store := s' } ∧
      After Inv records attempts s' (Table.update (fun x => x.recordId == r.recordId)
        (SettlementRecord.recordDuplicateClaim times.claim) (records s)) (attempts s)
  settle_fresh : ∀ {s call} (result : ProviderResult) (times : Readings), Inv s →
    (∀ r ∈ records s, r.paymentKey ≠ call.request.paymentKey) →
    ∃ n a start finish, SettledAlone Inv records attempts s call result n a times.claim start times.mark finish
      (store.claimAndSettle s call result times)

/-! ## Stores with separate operations -/

namespace LawfulStore

variable {σ : Type} (L : LawfulStore σ) {s : σ} {c : ClaimRequest} {r : SettlementRecord}

theorem existing_sound (hinv : L.Inv s) (h : L.store.existing s c = some r) :
    r ∈ L.records s ∧ r.paymentKey = c.paymentKey := by
  unfold SettlementStore.existing at h
  split at h
  · rename_i r' hr'
    cases h
    rw [L.get_eq _ hinv] at hr'
    refine ⟨Table.row_mem hr', ?_⟩
    rw [← r.profileKey_paymentKey, Table.row_key hr', c.profileKey_paymentKey]
  · obtain ⟨hmem, hk⟩ := L.lookup_sound hinv h
    exact ⟨hmem, ReplayKey.paymentKey_of_coalesce hk⟩

theorem existing_complete (hinv : L.Inv s) (hr : r ∈ L.records s) (hk : r.replayKey = c.replayKey) :
    ∃ r', L.store.existing s c = some r' := by
  obtain ⟨r', hr'⟩ := L.lookup_complete hinv hr
  unfold SettlementStore.existing
  split
  · exact ⟨_, rfl⟩
  · exact ⟨r', hk ▸ hr'⟩

/-- A call that finds a record is counted and answered from it. -/
theorem claimAndSettle_duplicate {call : SettleCall} (result : ProviderResult) (times : Readings) (hinv : L.Inv s)
    (h : L.store.existing s call.request = some r) :
    ∃ o s', duplicateAnswer call r = some o ∧
      L.store.claimAndSettle s call result times = { answer := .ok o, store := s' } ∧
      After L.Inv L.records L.attempts s' (Table.update (fun x => x.recordId == r.recordId)
        (SettlementRecord.recordDuplicateClaim times.claim) (L.records s)) (L.attempts s) := by
  obtain ⟨s', hclaim, hafter⟩ := L.claim_duplicate times.claim hinv h
  obtain ⟨o, ho⟩ := duplicateAnswer_isSome call r
  obtain ⟨o', hc, rfl⟩ := cachedSettlement_of_duplicate ho
  have hc' : cachedSettlement (r.recordDuplicateClaim times.claim) (claimForStatus r.status) = some o' := hc
  refine ⟨_, s', ho, ?_, hafter⟩
  simp only [SettlementStore.claimAndSettle, SettlementStore.claimSettlementRecord, L.steps_eq, hclaim, Except.map, hc']

/-- A call that finds none adds its record and its attempt and finalises both. -/
theorem claimAndSettle_fresh {call : SettleCall} (result : ProviderResult) (times : Readings) (hinv : L.Inv s)
    (h : L.store.existing s call.request = none) :
    ∃ n a, SettledAlone L.Inv L.records L.attempts s call result n a times.claim times.start times.mark times.finish
      (L.store.claimAndSettle s call result times) := by
  obtain ⟨n, s₁, hclaim, hfresh, h₁⟩ := L.claim_fresh times.claim hinv h
  set record := call.request.freshRecord n times.claim with hrecord
  obtain ⟨a, s₂, hstart, hafresh, h₂⟩ := L.start_eq record call.request.traceId times.start h₁.inv
  have hrec₂ : L.records s₂ = L.records s ++ [record] := h₂.records_eq.trans h₁.records_eq
  have hrow : Table.row SettlementRecord.recordId n (L.records s₂) = some record := by
    have hn := L.ids h₂.inv
    exact (Table.row_eq_some hn).mpr ⟨by rw [hrec₂]; simp, rfl⟩
  -- the row and the object that the engine holds are the same fresh record
  have hheld : L.store.held s₂ record = record := by
    rcases L.held_eq (r := record) h₂.inv hrow with hh | hh <;> exact hh
  have hfr : record.Fresh := call.request.freshRecord_fresh n times.claim
  have h₃ := L.mark_eq (r := record) times.mark h₂.inv hfr hfr (result.finalization_clean call hfr) hrow
  have h₄ := L.finish_eq a (result.finalization call record).attemptStatus (result.finalization call record).transaction
    (result.finalization call record).errorReason times.finish h₃.inv
  have hdone : L.store.claimAndSettle s call result times =
      { answer := .ok (result.answer call record), providerCalled := true,
        store := L.ops.finishSettleAttempt
          (L.ops.markRecord s₂ record (result.finalization call record) times.mark) a
          (result.finalization call record).attemptStatus (result.finalization call record).transaction
          (result.finalization call record).errorReason times.finish } := by
    have hnone : cachedSettlement record .claimed = none := rfl
    simp only [SettlementStore.claimAndSettle, SettlementStore.claimSettlementRecord, L.steps_eq, hclaim, Except.map,
      hnone, hstart, SettlementStore.settleClaimed, SettlementStore.markRecordAndFinishAttempt, hheld]
  refine ⟨n, a, ?_, ?_, ?_, hfresh, ?_⟩
  · rw [hdone]
  · rw [hdone]
  · rw [hdone]
  · rw [hdone]
    refine ⟨h₄.inv, ?_, ?_⟩
    · rw [h₄.records_eq, h₃.records_eq, hrec₂, Table.update_append, Table.update_of_none]
      · simp [Table.update, hrecord]
      · intro x hx
        exact beq_eq_false_iff_ne.mpr (hfresh x hx)
    · rw [h₄.attempts_eq, h₃.attempts_eq, h₂.attempts_eq, h₁.attempts_eq, Table.update_append, Table.update_of_none]
      · simp [Table.update, SettlementAttemptRecord.started, SettlementAttemptRecord.closed, hrecord]
      · intro x hx
        exact beq_eq_false_iff_ne.mpr (hafresh x (by rw [h₁.attempts_eq]; exact hx))

/-- The store under sequential calls. -/
def sequential : SequentialStore σ where
  store := L.store
  records := L.records
  attempts := L.attempts
  Inv := L.Inv
  init := L.init
  ids := L.ids
  existing_sound := L.existing_sound
  existing_complete := L.existing_complete
  settle_duplicate := by
    intro s call r result times hinv hr huniq hk
    obtain ⟨r', hr'⟩ := L.existing_complete hinv hr hk
    obtain ⟨hmem, hpay⟩ := L.existing_sound hinv hr'
    have hpay' : r.paymentKey = call.request.paymentKey := by
      rw [← r.replayKey_paymentKey, hk, call.request.replayKey_paymentKey]
    obtain rfl := huniq r' hmem (hpay.trans hpay'.symm)
    exact L.claimAndSettle_duplicate result times hinv hr'
  settle_fresh := by
    intro s call result times hinv hnone
    have hex : L.store.existing s call.request = none := by
      cases h : L.store.existing s call.request with
      | none => rfl
      | some r =>
        obtain ⟨hmem, hpay⟩ := L.existing_sound hinv h
        exact absurd hpay (hnone r hmem)
    obtain ⟨n, a, hdone⟩ := L.claimAndSettle_fresh result times hinv hex
    exact ⟨n, a, times.start, times.finish, hdone⟩

end LawfulStore

end HostedFacilitator
