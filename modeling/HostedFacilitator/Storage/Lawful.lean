import HostedFacilitator.Engine.Settle

/-!
# Stores with separate operations

What the in-memory and the SQLite store have in common, as laws about the list of their records and attempts
(`LawfulStore`): the two lookups, a claim that first tries them, an attempt that is added, and the updates that
finalise a record and its attempt. The two stores differ in how they find a replay (by the exact key or by the coalesced
one) and in which columns an update names; on a record that nothing has finalised yet the updates come to the same
(`SettlementRecord.finalized`).
-/

namespace HostedFacilitator

/-- What a finalisation leaves in a record. -/
def SettlementRecord.finalized (f : Finalization) (now : Instant) (r : SettlementRecord) : SettlementRecord :=
  { r with
    status := f.recordStatus
    transaction := f.transaction
    payer := f.payer
    errorReason := f.errorReason
    updatedAt := now }

/-- The attempt that is added for a claimed record. -/
def SettlementAttemptRecord.started (attemptId recordId : Nat) (traceId : String) (now : Instant) :
    SettlementAttemptRecord where
  attemptId := attemptId
  settlementRecordId := recordId
  traceId := some traceId
  status := .started
  startedAt := now

/-- What finishing an attempt leaves in it. -/
def SettlementAttemptRecord.finished (status : SettlementAttemptStatus) (transaction errorReason : Option String)
    (now : Instant) (a : SettlementAttemptRecord) : SettlementAttemptRecord :=
  { a with status := status, finishedAt := some now, transaction := transaction, errorReason := errorReason }

/-- Nothing has finalised the record. -/
structure SettlementRecord.Fresh (r : SettlementRecord) : Prop where
  status : r.status = .settleInProgress
  transaction : r.transaction = none
  payer : r.payer = none
  errorReason : r.errorReason = none

theorem ClaimRequest.freshRecord_fresh (c : ClaimRequest) (n : Nat) (now : Instant) : (c.freshRecord n now).Fresh :=
  ⟨rfl, rfl, rfl, rfl⟩

theorem SettlementRecord.Fresh.recordDuplicateClaim {r : SettlementRecord} (h : r.Fresh) (now : Instant) :
    (r.recordDuplicateClaim now).Fresh :=
  ⟨h.status, h.transaction, h.payer, h.errorReason⟩

/-- The writes that finalise a fresh record: either they name a transaction and a payer, or an error. -/
inductive Finalization.Clean : Finalization → Prop
  | settled (a : SettlementAttemptStatus) (t p : Option String) : Clean ⟨.settled, a, t, p, none⟩
  | submitted (a : SettlementAttemptStatus) (t p : Option String) : Clean ⟨.submitted, a, t, p, none⟩
  | settleFailed (a : SettlementAttemptStatus) (e : Option String) : Clean ⟨.settleFailed, a, none, none, e⟩
  | unknown (a : SettlementAttemptStatus) (e : Option String) : Clean ⟨.unknown, a, none, none, e⟩

theorem ProviderResult.finalization_clean (result : ProviderResult) (call : SettleCall) {r : SettlementRecord}
    (h : r.Fresh) : (result.finalization call r).Clean := by
  cases result with
  | raised =>
    rw [finalization, exceptionFinalization, h.transaction, h.payer]
    exact .unknown _ _
  | returned o =>
    rw [finalization, HostedFacilitator.finalization, h.transaction, h.payer]
    cases providerStatus (completeOutcome call o) with
    | settled => exact .settled _ _ _
    | submitted => exact .submitted _ _ _
    | failedFinal => exact .settleFailed _ _
    | unknown => exact .unknown _ _

/-- The writes depend on the record only through what a fresh record does not have. -/
theorem ProviderResult.finalization_fresh (result : ProviderResult) (call : SettleCall) {r r' : SettlementRecord}
    (h : r.Fresh) (h' : r'.Fresh) : result.finalization call r = result.finalization call r' := by
  cases result with
  | raised => simp only [finalization, exceptionFinalization, h.transaction, h.payer, h'.transaction, h'.payer]
  | returned o =>
    simp only [finalization, HostedFacilitator.finalization, h.transaction, h.payer, h'.transaction, h'.payer]

/-! ## The laws -/

/-- The state after an operation. -/
structure After {σ : Type} (Inv : σ → Prop) (records : σ → List SettlementRecord)
    (attempts : σ → List SettlementAttemptRecord) (s' : σ) (rs : List SettlementRecord)
    (as : List SettlementAttemptRecord) : Prop where
  inv : Inv s'
  records_eq : records s' = rs
  attempts_eq : attempts s' = as

/-- A store with separate operations, the records and attempts in it, its invariant, and its laws. -/
structure LawfulStore (σ : Type) where
  store : SettlementStore σ
  ops : SeparateSteps σ
  steps_eq : store.steps = .separate ops
  records : σ → List SettlementRecord
  attempts : σ → List SettlementAttemptRecord
  Inv : σ → Prop
  init : After Inv records attempts store.init [] []
  ids : ∀ {s}, Inv s → ((records s).map SettlementRecord.recordId).Nodup
  attemptIds : ∀ {s}, Inv s → ((attempts s).map SettlementAttemptRecord.attemptId).Nodup
  get_eq : ∀ {s} (k : ProfileKey), Inv s → store.get s k = Table.row SettlementRecord.profileKey k (records s)
  lookup_sound : ∀ {s k r}, Inv s → store.getByProviderFingerprint s k = some r →
    r ∈ records s ∧ r.replayKey.coalesce = k.coalesce
  lookup_complete : ∀ {s r}, Inv s → r ∈ records s → ∃ r', store.getByProviderFingerprint s r.replayKey = some r'
  held_eq : ∀ {s r row}, Inv s → Table.row SettlementRecord.recordId r.recordId (records s) = some row →
    store.held s r = row ∨ store.held s r = r
  claim_duplicate : ∀ {s c r} (now : Instant), Inv s → store.existing s c = some r →
    ∃ s', ops.claimForSettlement s c now = .ok ((r.recordDuplicateClaim now, claimForStatus r.status), s') ∧
      After Inv records attempts s' (Table.update (fun x => x.recordId == r.recordId)
        (SettlementRecord.recordDuplicateClaim now) (records s)) (attempts s)
  claim_fresh : ∀ {s c} (now : Instant), Inv s → store.existing s c = none →
    ∃ n s', ops.claimForSettlement s c now = .ok ((c.freshRecord n now, .claimed), s') ∧
      (∀ x ∈ records s, x.recordId ≠ n) ∧
      After Inv records attempts s' (records s ++ [c.freshRecord n now]) (attempts s)
  start_eq : ∀ {s} (r : SettlementRecord) (traceId : String) (now : Instant), Inv s →
    ∃ n s', store.startSettleAttempt s r traceId now = (n, s') ∧ (∀ x ∈ attempts s, x.attemptId ≠ n) ∧
      After Inv records attempts s' (records s)
        (attempts s ++ [SettlementAttemptRecord.started n r.recordId traceId now])
  mark_eq : ∀ {s r row} {f : Finalization} (now : Instant), Inv s → r.Fresh → row.Fresh → f.Clean →
    Table.row SettlementRecord.recordId r.recordId (records s) = some row →
    After Inv records attempts (ops.markRecord s r f now)
      (Table.update (fun x => x.recordId == r.recordId) (SettlementRecord.finalized f now) (records s)) (attempts s)
  finish_eq : ∀ {s} (n : Nat) (status : SettlementAttemptStatus) (t e : Option String) (now : Instant), Inv s →
    After Inv records attempts (ops.finishSettleAttempt s n status t e now) (records s)
      (Table.update (fun a => a.attemptId == n) (SettlementAttemptRecord.finished status t e now) (attempts s))

end HostedFacilitator
