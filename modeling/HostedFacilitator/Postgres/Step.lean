import HostedFacilitator.Postgres.System

/-!
# What one event can do

Every transaction on a row is brought to one shape: the row it found, the guard that held of it, and one
`UPDATE .. WHERE id` (`Db.write`). `EngineStep` lists what one step of a call can do and `Step` what one event can do;
`next_step` says that nothing else happens. The invariants of the system are case analyses of these two.
-/

namespace HostedFacilitator.Postgres

namespace Db

/-- The primary key. -/
def UniqueIds (db : Db) : Prop := (db.records.map SettlementRecord.recordId).Nodup

/-- `UPDATE settlement_records SET f WHERE id = recordId`. -/
def write (db : Db) (recordId : Nat) (f : SettlementRecord → SettlementRecord) : Db :=
  { db with records := Table.update (fun r => r.recordId == recordId) f db.records }

/-- What an operator's claim writes: unlike a reconciler's it also stamps the row. -/
def operatorLease (owner : String) (leaseUntil now : Instant) (r : SettlementRecord) : SettlementRecord :=
  { takeLease owner leaseUntil r with updatedAt := now }

/-- What an operator's manual review asks for. -/
def operatorReview (row : SettlementRecord) : Mark :=
  markManualReview row (some "manual_review_operator_requested")

/-- The engine's two updates. -/
def finalize (db : Db) (recordId attemptId : Nat) (f : Finalization) (now : Instant) : Db :=
  { db.write recordId (transition f.recordStatus f.transaction f.payer f.errorReason now) with
    attempts := Table.update (·.attemptId == attemptId) (finishAttempt f now) db.attempts }

/-- The two updates of a lease holder. -/
def applyMark (db : Db) (recordId : Nat) (m : Mark) (now : Instant) : Db :=
  (db.write recordId (transition m.status m.transaction m.payer m.errorReason now)).finishStartedAttempts recordId
    m.status now m.transaction m.errorReason

/-- The same settlement tables with other audit rows. -/
def withAudit (db : Db) (events : List ReconciliationAuditEvent) (nextEventId : Nat) : Db :=
  { db with auditEvents := events, nextEventId := nextEventId }

@[simp] theorem withAudit_records (db : Db) (es : List ReconciliationAuditEvent) (n : Nat) :
    (db.withAudit es n).records = db.records := rfl

@[simp] theorem withAudit_attempts (db : Db) (es : List ReconciliationAuditEvent) (n : Nat) :
    (db.withAudit es n).attempts = db.attempts := rfl

@[simp] theorem withAudit_nextRecordId (db : Db) (es : List ReconciliationAuditEvent) (n : Nat) :
    (db.withAudit es n).nextRecordId = db.nextRecordId := rfl

@[simp] theorem withAudit_nextAttemptId (db : Db) (es : List ReconciliationAuditEvent) (n : Nat) :
    (db.withAudit es n).nextAttemptId = db.nextAttemptId := rfl

/-! ## Columns that no update writes -/

section Columns

variable (r : SettlementRecord) (status : SettlementStatus) (t p e : Option String) (now lease : Instant)
  (owner : String)

@[simp] theorem transition_recordId : (transition status t p e now r).recordId = r.recordId := rfl

@[simp] theorem transition_replayKey : (transition status t p e now r).replayKey = r.replayKey := rfl

@[simp] theorem transition_profileKey : (transition status t p e now r).profileKey = r.profileKey := rfl

@[simp] theorem transition_status : (transition status t p e now r).status = status := rfl

@[simp] theorem takeLease_recordId : (takeLease owner lease r).recordId = r.recordId := rfl

@[simp] theorem takeLease_replayKey : (takeLease owner lease r).replayKey = r.replayKey := rfl

@[simp] theorem takeLease_profileKey : (takeLease owner lease r).profileKey = r.profileKey := rfl

@[simp] theorem takeLease_status : (takeLease owner lease r).status = r.status := rfl

@[simp] theorem operatorLease_recordId : (operatorLease owner lease now r).recordId = r.recordId := rfl

@[simp] theorem operatorLease_replayKey : (operatorLease owner lease now r).replayKey = r.replayKey := rfl

@[simp] theorem operatorLease_profileKey : (operatorLease owner lease now r).profileKey = r.profileKey := rfl

@[simp] theorem operatorLease_status : (operatorLease owner lease now r).status = r.status := rfl

@[simp] theorem dropLease_recordId : (dropLease now r).recordId = r.recordId := rfl

@[simp] theorem dropLease_replayKey : (dropLease now r).replayKey = r.replayKey := rfl

@[simp] theorem dropLease_profileKey : (dropLease now r).profileKey = r.profileKey := rfl

@[simp] theorem dropLease_status : (dropLease now r).status = r.status := rfl

end Columns

/-! ## Transactions on one row -/

section Transactions

variable {db db' : Db} {recordId attemptId : Nat} {now : Instant} {owner : String}

/-- The engine's update goes through exactly when the row is in one of the expected statuses. -/
theorem finalize_ok (hn : db.UniqueIds) {f : Finalization} :
    db.markRecordAndFinishSettleAttempt recordId attemptId f now = .ok db' ↔
      ∃ expected row, expectedStatuses f.recordStatus = some expected ∧ db.record recordId = some row ∧
        row.status ∈ expected ∧ db' = db.finalize recordId attemptId f now := by
  unfold markRecordAndFinishSettleAttempt
  cases hE : expectedStatuses f.recordStatus with
  | none => simp
  | some expected =>
    have hany := Table.any_guard (g := fun r => expected.contains r.status) (k := recordId) hn
    by_cases h : db.records.any (finalizable recordId expected) = true
    · obtain ⟨row, hrow, hs⟩ := hany.mp h
      have hup := Table.update_guard (g := fun r => expected.contains r.status)
        (f := transition f.recordStatus f.transaction f.payer f.errorReason now) hn hrow
      rw [if_pos hs] at hup
      have heq : db.finalize recordId attemptId f now =
          { db with
            records := Table.update (finalizable recordId expected)
              (transition f.recordStatus f.transaction f.payer f.errorReason now) db.records
            attempts := Table.update (·.attemptId == attemptId) (finishAttempt f now) db.attempts } := by
        unfold finalize write
        rw [← hup]
        rfl
      simp only [if_pos h, ← heq, Except.ok.injEq]
      constructor
      · rintro rfl
        exact ⟨expected, row, rfl, hrow, List.contains_iff_mem.mp hs, rfl⟩
      · rintro ⟨-, -, -, -, -, rfl⟩
        rfl
    · simp only [if_neg h, reduceCtorEq, false_iff]
      rintro ⟨_, row, he, hrow, hs, -⟩
      cases he
      exact h (hany.mpr ⟨row, hrow, List.contains_iff_mem.mpr hs⟩)

/-- A claim takes the lease of a free row, or does nothing. -/
theorem claim_ok (hn : db.UniqueIds) {leaseUntil : Instant} {status : SettlementStatus} {stale : Option Instant}
    {claimed : Option SettlementRecord}
    (h : db.claimReconciliationRecord recordId owner leaseUntil [status] stale now = .ok (claimed, db')) :
    (claimed = none ∧ db' = db) ∨
      ∃ row, db.record recordId = some row ∧ row.status = status ∧ leaseFree now row = true ∧
        claimed = some (takeLease owner leaseUntil row) ∧ db' = db.write recordId (takeLease owner leaseUntil) := by
  have hguard : claimable recordId [status] stale now = fun r => r.recordId == recordId &&
      ([status].contains r.status && stale.all (fun t => decide (r.updatedAt ≤ t)) && leaseFree now r) := by
    funext r
    simp [claimable, Bool.and_assoc]
  unfold claimReconciliationRecord at h
  split at h
  · cases h
  · rw [if_neg (by simp), hguard] at h
    simp only [Except.ok.injEq, Prod.mk.injEq] at h
    obtain ⟨rfl, rfl⟩ := h
    cases hf : db.records.find? (fun r => r.recordId == recordId && ([status].contains r.status &&
        stale.all (fun t => decide (r.updatedAt ≤ t)) && leaseFree now r)) with
    | none =>
      left
      refine ⟨rfl, ?_⟩
      rw [Table.update_of_none]
      intro r hr
      simpa using List.find?_eq_none.mp hf r hr
    | some row =>
      right
      obtain ⟨hrow, hg⟩ := Table.find_guard hn hf
      have hup := Table.update_guard (g := fun r => [status].contains r.status &&
        stale.all (fun t => decide (r.updatedAt ≤ t)) && leaseFree now r) (f := takeLease owner leaseUntil) hn hrow
      rw [if_pos hg] at hup
      simp only [Bool.and_eq_true, List.contains_iff_mem, List.mem_singleton] at hg
      exact ⟨row, hrow, hg.1.1, hg.2, rfl, by rw [hup]; rfl⟩

/-- A release drops the owner's lease, or does nothing. -/
theorem release_ok (hn : db.UniqueIds) {released : Option SettlementRecord}
    (h : db.releaseReconciliationRecord recordId owner now = .ok (released, db')) :
    (released = none ∧ db' = db) ∨
      ∃ row, db.record recordId = some row ∧ row.reconciliationOwner = some owner ∧
        released = some (dropLease now row) ∧ db' = db.write recordId (dropLease now) := by
  unfold releaseReconciliationRecord at h
  split at h
  · cases h
  · simp only [Except.ok.injEq, Prod.mk.injEq] at h
    obtain ⟨rfl, rfl⟩ := h
    cases hf : db.records.find? (releasable recordId owner) with
    | none =>
      left
      refine ⟨rfl, ?_⟩
      rw [Table.update_of_none]
      intro r hr
      simpa using List.find?_eq_none.mp hf r hr
    | some row =>
      right
      obtain ⟨hrow, hg⟩ := Table.find_guard (g := fun r : SettlementRecord => r.reconciliationOwner == some owner)
        (k := recordId) hn hf
      have hup := Table.update_guard (g := fun r : SettlementRecord => r.reconciliationOwner == some owner)
        (f := dropLease now) hn hrow
      rw [if_pos hg] at hup
      exact ⟨row, hrow, beq_iff_eq.mp hg, rfl, by unfold write; rw [← hup]; rfl⟩

/-- A mark goes through only for the row that still carries the snapshot's lease. -/
theorem update_ok (hn : db.UniqueIds) {snapshot : SettlementRecord} {m : Mark}
    (h : db.updateReconciliationRecord snapshot m owner now = .ok db') :
    ∃ lease row, snapshot.reconciliationLeaseUntil = some lease ∧ db.record snapshot.recordId = some row ∧
      row.status ∈ m.expected ∧ row.reconciliationOwner = some owner ∧
      row.reconciliationLeaseUntil = some lease ∧ now < lease ∧
      db' = db.applyMark snapshot.recordId m now := by
  unfold updateReconciliationRecord at h
  split at h
  · cases h
  · split at h
    · cases h
    · rename_i lease hlease
      have hguard : leasedTo snapshot.recordId m.expected owner lease now = fun r =>
          r.recordId == snapshot.recordId && (m.expected.contains r.status && r.reconciliationOwner == some owner &&
            r.reconciliationLeaseUntil == some lease && decide (now < lease)) := by
        funext r
        simp [leasedTo, Bool.and_assoc]
      simp only [hguard] at h
      split at h
      · rename_i hany
        obtain ⟨row, hrow, hg⟩ := (Table.any_guard hn).mp hany
        rw [Table.update_guard hn hrow, if_pos hg] at h
        simp only [Bool.and_eq_true, List.contains_iff_mem, beq_iff_eq, decide_eq_true_eq] at hg
        obtain ⟨⟨⟨hs, ho⟩, hl⟩, ht⟩ := hg
        exact ⟨lease, row, hlease, hrow, hs, ho, hl, ht, (Except.ok.inj h).symm⟩
      · cases h

theorem not_leaseFree {r : SettlementRecord} (h : leaseFree now r = false) :
    ∃ lease, r.reconciliationLeaseUntil = some lease ∧ now < lease := by
  unfold leaseFree at h
  split at h
  · cases h
  · rename_i lease hl
    exact ⟨lease, hl, by simpa using h⟩

/-- An operator action that commits found the row, passed its guard and wrote it once. -/
theorem control_ok (hn : db.UniqueIds) {c : ControlAction} {result : SettlementRecord × ReconciliationAuditEvent}
    (h : db.applyReconciliationControlAction c now = .ok (result, db')) :
    ∃ row events n, db.record c.recordId = some row ∧
      ((c.action = .claim ∧ leaseFree now row = true ∧
          db' = (db.write c.recordId (operatorLease c.owner c.leaseUntil now)).withAudit events n) ∨
        (c.action = .release ∧ row.reconciliationOwner = some c.owner ∧
          db' = (db.write c.recordId (dropLease now)).withAudit events n) ∨
        (c.action = .manualReview ∧ row.status = .unknown ∧ row.reconciliationOwner = some c.owner ∧
          (∃ lease, row.reconciliationLeaseUntil = some lease ∧ now < lease) ∧
          db' = (db.applyMark c.recordId (operatorReview row) now).withAudit events n)) := by
  unfold applyReconciliationControlAction at h
  split at h
  · cases h
  split at h
  · cases h
  rename_i row hrow
  split at h
  · cases h
  rename_i r' active hr'
  refine ⟨row, db'.auditEvents, db'.nextEventId, hrow, ?_⟩
  unfold controlledRow at hr'
  cases hact : c.action with
  | claim =>
    left
    simp only [hact, claimReconciliationRecordLocked] at hr' h
    split at hr'
    · cases hr'
    split at hr'
    · cases hr'
    split at hr'
    · cases hr'
    rename_i hfree
    simp only [Except.map, Except.ok.injEq, Prod.mk.injEq] at hr' h
    obtain ⟨rfl, rfl⟩ := hr'
    refine ⟨rfl, by simpa using hfree, ?_⟩
    rw [← h.2, write, ← Table.update_const (f := operatorLease c.owner c.leaseUntil now) hn hrow]
    rfl
  | release =>
    right; left
    simp only [hact, releaseReconciliationRecordLocked] at hr' h
    split at hr'
    · rename_i ho
      simp only [Except.map, Except.ok.injEq, Prod.mk.injEq] at hr' h
      obtain ⟨rfl, rfl⟩ := hr'
      refine ⟨rfl, ho, ?_⟩
      rw [← h.2, write, ← Table.update_const (f := dropLease now) hn hrow]
      rfl
    · cases hr'
  | manualReview =>
    right; right
    simp only [hact, manualReviewReconciliationRecordLocked] at hr' h
    split at hr'
    · cases hr'
    rename_i hs
    split at hr'
    · cases hr'
    rename_i ho
    rw [Bool.or_eq_true, not_or, decide_eq_true_eq, not_not] at ho
    simp only [Except.map, Except.ok.injEq, Prod.mk.injEq] at hr' h
    obtain ⟨rfl, rfl⟩ := hr'
    refine ⟨rfl, not_not.mp hs, ho.1, not_leaseFree (by simpa using ho.2), ?_⟩
    rw [← h.2, applyMark, write, ← Table.update_const (f := transition (operatorReview row).status
      (operatorReview row).transaction (operatorReview row).payer (operatorReview row).errorReason now) hn hrow]
    rfl

end Transactions

end Db

/-! ## Steps of a call -/

namespace Phase

/-- The call holds nothing: no lock, no uncommitted row, no claimed record, no provider result. -/
def idle : Phase → Bool
  | .cachedGet | .cachedLookup | .rateLimit | .rejectedGet | .rejectedLookup | .claimEnter | .claimBegin .. => true
  | .finished _ none | .crashed => true
  | _ => false

/-- The call holds its lock and deals with a row that is not its own. -/
def searching : Phase → Bool
  | .claimSelectProfile .. | .claimSelectReplay .. | .claimDuplicate .. => true
  | _ => false

end Phase

/-- What one step of a call does to the tables and to the call. -/
inductive EngineStep (hash : String → Int) (db : Db) (processes : List Process) (call : SettleCall) :
    Phase → EngineInput → Db → Phase → Prop
  /-- The call goes on without a lock, retries, answers from an existing record, raises or dies. -/
  | leave {phase phase' : Phase} {input : EngineInput} (open_ : phase.ended = false) (idle : phase'.idle = true)
      (ends : phase.ticket = none ∨ phase' = .crashed) :
      EngineStep hash db processes call phase input db phase'
  | lock {now t : Instant} {tries : Nat} (free : lockFree hash processes call.request.replayKey = true) :
      EngineStep hash db processes call (.claimBegin now tries) (.proceed t) db (.claimLocked now tries)
  | miss {now t : Instant} {tries : Nat} (none : db.selectReplay call.request.replayKey = none) :
      EngineStep hash db processes call (.claimLocked now tries) (.proceed t) db (.claimInsert now tries)
  | search {phase phase' : Phase} {input : EngineInput} {n : Nat} (locked : phase.holdsLock = true)
      (clean : phase.pendingRecord = none) (searching : phase'.searching = true) (grows : db.nextRecordId ≤ n) :
      EngineStep hash db processes call phase input { db with nextRecordId := n } phase'
  | insert {now t : Instant} {tries : Nat} (free : noPendingConflict processes call.request.profileKey = true)
      (none : db.get call.request.profileKey = none) :
      EngineStep hash db processes call (.claimInsert now tries) (.proceed t)
        { db with nextRecordId := db.nextRecordId + 1 }
        (.claimInserted now (call.request.freshRecord db.nextRecordId now))
  | start {now t : Instant} {r : SettlementRecord} :
      EngineStep hash db processes call (.claimInserted now r) (.proceed t)
        { db with nextAttemptId := db.nextAttemptId + 1 }
        (.claimStarted r (call.request.startedAttempt db.nextAttemptId r.recordId now))
  | commit {t : Instant} {r : SettlementRecord} {a : SettlementAttemptRecord} :
      EngineStep hash db processes call (.claimStarted r a) (.proceed t) (db.addClaim r a) (.claimed r a.attemptId)
  | count {now t : Instant} {r : SettlementRecord} {o : SettleOutcome} :
      EngineStep hash db processes call (.claimDuplicate now r) (.proceed t)
        (db.write r.recordId (·.recordDuplicateClaim now)) (.finished (.ok o) none)
  | invoke {t : Instant} {r : SettlementRecord} {a : Nat} :
      EngineStep hash db processes call (.claimed r a) (.proceed t) db (.settling r a)
  | reply {r : SettlementRecord} {a : Nat} {result : ProviderResult} :
      EngineStep hash db processes call (.settling r a) (.provider result) db (.finalizing r a result)
  | finalize {now : Instant} {r : SettlementRecord} {a : Nat} {result : ProviderResult} {db' : Db}
      (ok : db.markRecordAndFinishSettleAttempt r.recordId a (result.finalization call r) now = .ok db') :
      EngineStep hash db processes call (.finalizing r a result) (.proceed now) db'
        (.finished (.ok (result.answer call r)) (some (r, result)))
  | refuse {now : Instant} {r : SettlementRecord} {a : Nat} {result : ProviderResult} {e : PyErr}
      (error : db.markRecordAndFinishSettleAttempt r.recordId a (result.finalization call r) now = .error e) :
      EngineStep hash db processes call (.finalizing r a result) (.proceed now) db
        (.finished (.error e) (some (r, result)))
  | abort {r : SettlementRecord} {a : Nat} {result : ProviderResult} {e : PyErr} :
      EngineStep hash db processes call (.finalizing r a result) (.fail e) db
        (.finished (.error e) (some (r, result)))

section EngineStep

variable {hash : String → Int} {db db' : Db} {processes : List Process} {call : SettleCall} {phase phase' : Phase}
  {input : EngineInput}

theorem answerExisting_idle (existing : Option SettlementRecord) {otherwise : Phase} (h : otherwise.idle = true) :
    (answerExisting call existing otherwise).idle = true := by
  unfold answerExisting
  split
  · rfl
  · exact h

/-- Nothing else happens in a step of a call. -/
theorem engineNext_step (h : engineNext hash db processes call phase input = some (db', phase')) :
    EngineStep hash db processes call phase input db' phase' := by
  cases input with
  | fail e =>
    cases phase <;> simp only [engineNext, Phase.ended, reduceIte, reduceCtorEq, Bool.false_eq_true,
      Option.some.injEq, Prod.mk.injEq] at h <;> obtain ⟨rfl, rfl⟩ := h
    case finalizing => exact .abort
    all_goals exact .leave rfl rfl (Or.inl rfl)
  | crash =>
    cases phase <;> simp only [engineNext, Phase.ended, reduceIte, reduceCtorEq, Bool.false_eq_true,
      Option.some.injEq, Prod.mk.injEq] at h <;> obtain ⟨rfl, rfl⟩ := h
    all_goals exact .leave rfl rfl (Or.inr rfl)
  | limiter allowed =>
    cases phase <;> cases allowed <;> simp only [engineNext, reduceCtorEq, Option.some.injEq, Prod.mk.injEq] at h
    all_goals
      obtain ⟨rfl, rfl⟩ := h
      exact .leave rfl rfl (Or.inl rfl)
  | provider result =>
    cases phase <;> simp only [engineNext, reduceCtorEq, Option.some.injEq, Prod.mk.injEq] at h
    obtain ⟨rfl, rfl⟩ := h
    exact .reply
  | blind =>
    cases phase <;> simp only [engineNext, reduceCtorEq] at h
    split at h
    · simp only [Option.some.injEq, Prod.mk.injEq] at h
      obtain ⟨rfl, rfl⟩ := h
      exact .search rfl rfl rfl (Nat.le_succ _)
    · cases h
  | proceed t =>
    cases phase with
    | cachedGet | cachedLookup | rejectedGet | rejectedLookup | claimEnter =>
      simp only [engineNext, Option.some.injEq, Prod.mk.injEq] at h
      obtain ⟨rfl, rfl⟩ := h
      exact .leave rfl (by first | rfl | exact answerExisting_idle _ rfl) (Or.inl rfl)
    | rateLimit | settling | finished | crashed => simp [engineNext] at h
    | claimBegin now tries =>
      simp only [engineNext] at h
      split at h
      · simp only [Option.some.injEq, Prod.mk.injEq] at h
        obtain ⟨rfl, rfl⟩ := h
        exact .lock ‹_›
      · cases h
    | claimLocked now tries =>
      simp only [engineNext] at h
      split at h <;> simp only [Option.some.injEq, Prod.mk.injEq] at h <;> obtain ⟨rfl, rfl⟩ := h
      · exact .search rfl rfl rfl le_rfl
      · exact .miss ‹_›
    | claimInsert now tries =>
      simp only [engineNext] at h
      split at h
      · rename_i hfree
        split at h <;> simp only [Option.some.injEq, Prod.mk.injEq] at h <;> obtain ⟨rfl, rfl⟩ := h
        · exact .search rfl rfl rfl (Nat.le_succ _)
        · exact .insert hfree ‹_›
      · cases h
    | claimSelectProfile now tries =>
      simp only [engineNext] at h
      split at h <;> simp only [Option.some.injEq, Prod.mk.injEq] at h <;> obtain ⟨rfl, rfl⟩ := h <;>
        exact .search rfl rfl rfl le_rfl
    | claimSelectReplay now tries =>
      simp only [engineNext] at h
      split at h
      · simp only [Option.some.injEq, Prod.mk.injEq] at h
        obtain ⟨rfl, rfl⟩ := h
        exact .search rfl rfl rfl le_rfl
      · split at h <;> simp only [Option.some.injEq, Prod.mk.injEq] at h <;> obtain ⟨rfl, rfl⟩ := h <;>
          exact .leave rfl rfl (Or.inl rfl)
    | claimDuplicate now r =>
      simp only [engineNext, Option.map_eq_some_iff, Prod.mk.injEq] at h
      obtain ⟨o, -, rfl, rfl⟩ := h
      exact .count
    | claimInserted now r =>
      simp only [engineNext, Option.some.injEq, Prod.mk.injEq] at h
      obtain ⟨rfl, rfl⟩ := h
      exact .start
    | claimStarted r a =>
      simp only [engineNext, Option.some.injEq, Prod.mk.injEq] at h
      obtain ⟨rfl, rfl⟩ := h
      exact .commit
    | claimed r a =>
      simp only [engineNext, Option.some.injEq, Prod.mk.injEq] at h
      obtain ⟨rfl, rfl⟩ := h
      exact .invoke
    | finalizing r a result =>
      simp only [engineNext] at h
      split at h <;> simp only [Option.some.injEq, Prod.mk.injEq] at h <;> obtain ⟨rfl, rfl⟩ := h
      · exact .finalize ‹_›
      · exact .refuse ‹_›

/-- A claimed record was just committed, or was there before. -/
theorem EngineStep.ticket_cases (hs : EngineStep hash db processes call phase input db' phase')
    {r : SettlementRecord} {a : Nat} (h : phase'.ticket = some (r, a)) :
    (phase.ticket = some (r, a) ∧ db' = db) ∨
      ∃ attempt, phase = .claimStarted r attempt ∧ a = attempt.attemptId ∧ db' = db.addClaim r attempt := by
  cases hs with
  | leave _ hi => cases phase' <;> first | (cases h; done) | cases hi
  | search _ _ hsearch => cases phase' <;> first | (cases h; done) | cases hsearch
  | @commit _ _ attempt =>
    cases h
    exact Or.inr ⟨attempt, rfl, rfl, rfl⟩
  | invoke | reply => exact Or.inl ⟨h, rfl⟩
  | lock | miss | insert | start | count | finalize | refuse | abort => cases h

/-- A call that ends with a provider result has just tried to finalise its record. -/
theorem EngineStep.result_cases (hs : EngineStep hash db processes call phase input db' phase')
    {answer : Except PyErr SettleOutcome} {r : SettlementRecord} {result : ProviderResult}
    (h : phase' = .finished answer (some (r, result))) :
    ∃ a, phase = .finalizing r a result ∧
      ((∃ now, db.markRecordAndFinishSettleAttempt r.recordId a (result.finalization call r) now = .ok db' ∧
          answer = .ok (result.answer call r)) ∨
        (∃ now e, db.markRecordAndFinishSettleAttempt r.recordId a (result.finalization call r) now = .error e ∧
          db' = db ∧ answer = .error e) ∨
        ∃ e, input = .fail e ∧ db' = db ∧ answer = .error e) := by
  cases hs with
  | leave _ hi => cases h; cases hi
  | search _ _ hsearch => cases h; cases hsearch
  | @finalize now _ a _ _ hok =>
    cases h
    exact ⟨a, rfl, Or.inl ⟨now, hok, rfl⟩⟩
  | @refuse now _ a _ e herr =>
    cases h
    exact ⟨a, rfl, Or.inr (Or.inl ⟨now, e, herr, rfl, rfl⟩)⟩
  | @abort _ a _ e =>
    cases h
    exact ⟨a, rfl, Or.inr (Or.inr ⟨e, rfl, rfl, rfl⟩)⟩
  | lock | miss | insert | start | commit | count | invoke | reply => cases h

end EngineStep

/-! ## Events -/

/-- What one event does to the state. -/
inductive Step (hash : String → Int) (s : System) : Event → System → Prop
  | tick {t : Instant} (grows : s.clock ≤ t) : Step hash s (.tick t) { s with clock := t }
  | arrive (call : SettleCall) (limited : Bool) :
      Step hash s (.arrive call limited)
        { s with processes := s.processes ++ [⟨call, if limited then .cachedGet else .claimEnter⟩] }
  | engine {i : Nat} {input : EngineInput} {p : Process} {db' : Db} {phase' : Phase}
      (found : s.processes[i]? = some p)
      (step : EngineStep hash s.db s.processes p.call p.phase input db' phase') :
      Step hash s (.engine i input)
        { s with
          db := db'
          processes := s.processes.set i ⟨p.call, phase'⟩
          providerCalls := logCall s.providerCalls p.call.request.replayKey phase'
          leases := s.leases ++ engineLease p.phase phase' }
  /-- Only the reconcilers' own states change, and none of them gets hold of a record. -/
  | rest {e : Event} {workers : List Worker}
      (kept : ∀ (w : Nat) (config : HostedSettlementReconciler) (held : SettlementRecord × Instant),
        workers[w]? = some ⟨config, some held⟩ → s.workers[w]? = some ⟨config, some held⟩) :
      Step hash s e { s with workers := workers }
  | workerClaims {w recordId : Nat} {status : SettlementStatus} {now reading : Instant}
      {config : HostedSettlementReconciler} {row : SettlementRecord} (found : s.workers[w]? = some ⟨config, none⟩)
      (time : reading ≤ s.clock) (row_eq : s.db.record recordId = some row)
      (free : Db.leaseFree reading row = true) :
      Step hash s (.reconcilerClaim w recordId status now reading)
        { s with
          db := s.db.write recordId (Db.takeLease config.owner (config.leaseUntil now))
          workers := s.workers.set w ⟨config, some (Db.takeLease config.owner (config.leaseUntil now) row, now)⟩
          leases := s.leases ++ [.claimed (.worker w) recordId config.owner (config.leaseUntil now) reading] }
  | workerMarks {w : Nat} {reply : ProviderReply} {now reading lease : Instant}
      {config : HostedSettlementReconciler} {snapshot row : SettlementRecord} {m : Db.Mark}
      (found : s.workers[w]? = some ⟨config, some (snapshot, now)⟩) (time : reading ≤ s.clock)
      (decision : config.handleClaimed snapshot now reply = .mark m)
      (update : s.db.updateReconciliationRecord snapshot m config.owner reading =
        .ok (s.db.applyMark snapshot.recordId m reading))
      (lease_eq : snapshot.reconciliationLeaseUntil = some lease)
      (row_eq : s.db.record snapshot.recordId = some row) (status : row.status ∈ m.expected)
      (owner : row.reconciliationOwner = some config.owner) (row_lease : row.reconciliationLeaseUntil = some lease)
      (live : reading < lease) :
      Step hash s (.reconcilerReply w reply reading)
        { s with
          db := s.db.applyMark snapshot.recordId m reading
          workers := s.workers.set w ⟨config, none⟩
          leases := s.leases ++
            [.marked (.worker w) snapshot.recordId config.owner lease reading row.status m.status] }
  | released {recordId : Nat} {owner : String} {reading : Instant} {row : SettlementRecord}
      (time : reading ≤ s.clock) (row_eq : s.db.record recordId = some row) :
      Step hash s (.release recordId owner reading)
        { s with db := s.db.write recordId (Db.dropLease reading), leases := s.leases ++ [.cleared recordId] }
  | operatorClaims {c : Db.ControlAction} {reading : Instant} {row : SettlementRecord}
      {events : List ReconciliationAuditEvent} {n : Nat} (time : reading ≤ s.clock)
      (row_eq : s.db.record c.recordId = some row) (free : Db.leaseFree reading row = true) :
      Step hash s (.control c reading)
        { s with
          db := (s.db.write c.recordId (Db.operatorLease c.owner c.leaseUntil reading)).withAudit events n
          leases := s.leases ++ [.claimed .operator c.recordId c.owner c.leaseUntil reading] }
  | operatorReleases {c : Db.ControlAction} {reading : Instant} {row : SettlementRecord}
      {events : List ReconciliationAuditEvent} {n : Nat} (time : reading ≤ s.clock)
      (row_eq : s.db.record c.recordId = some row) :
      Step hash s (.control c reading)
        { s with
          db := (s.db.write c.recordId (Db.dropLease reading)).withAudit events n
          leases := s.leases ++ [.cleared c.recordId] }
  | operatorReviews {c : Db.ControlAction} {reading lease : Instant} {row : SettlementRecord}
      {events : List ReconciliationAuditEvent} {n : Nat} (time : reading ≤ s.clock)
      (row_eq : s.db.record c.recordId = some row) (status : row.status = .unknown)
      (owner : row.reconciliationOwner = some c.owner) (row_lease : row.reconciliationLeaseUntil = some lease)
      (live : reading < lease) :
      Step hash s (.control c reading)
        { s with
          db := (s.db.applyMark c.recordId (Db.operatorReview row) reading).withAudit events n
          leases := s.leases ++ [.marked .operator c.recordId c.owner lease reading row.status .manualReview] }

section Step

variable {hash : String → Int} {s s' : System} {e : Event}

/-- Nothing new is held when one reconciler lets go. -/
theorem held_of_set {workers : List Worker} {v w : Nat} {c config : HostedSettlementReconciler}
    {held : SettlementRecord × Instant} (h : (workers.set v ⟨c, none⟩)[w]? = some ⟨config, some held⟩) :
    workers[w]? = some ⟨config, some held⟩ := by
  rcases Table.set_cases h with ⟨-, he⟩ | ⟨-, h⟩
  · cases he
  · exact h

/-- Nothing else happens in an event. -/
theorem next_step (hn : s.db.UniqueIds) (h : System.next hash s e = some s') : Step hash s e s' := by
  cases e with
  | tick t =>
    simp only [System.next] at h
    split at h
    · cases h
      exact .tick ‹_›
    · cases h
  | arrive call limited =>
    cases h
    exact .arrive call limited
  | engine i input =>
    obtain ⟨p, db', phase', hp, hstep, rfl⟩ := System.next_engine h
    exact .engine hp (engineNext_step hstep)
  | spawn config =>
    cases h
    apply Step.rest
    intro w c held hw
    rcases Table.append_cases hw with hw | ⟨-, he⟩
    · exact hw
    · cases he
  | reconcilerClaim w recordId status now reading =>
    simp only [System.next] at h
    split at h
    · rename_i config hw
      split at h
      · rename_i ht
        split at h
        · rename_i claimed db' hc
          cases h
          rcases Db.claim_ok hn hc with ⟨rfl, rfl⟩ | ⟨row, hrow, hs, hfree, rfl, rfl⟩
          · simpa [claimLease] using Step.rest fun v c held => held_of_set
          · have hid : row.recordId = recordId := Table.row_key hrow
            simpa [claimLease, hid] using Step.workerClaims hw ht.2 hrow hfree
        · cases h
      · cases h
    · cases h
  | reconcilerReply w reply reading =>
    simp only [System.next] at h
    split at h
    · rename_i config snapshot now hw
      split at h
      · rename_i ht
        split at h
        · rename_i m hm
          split at h
          · rename_i db' hu
            cases h
            obtain ⟨lease, row, hlease, hrow, hs, ho, hl, hlt, rfl⟩ := Db.update_ok hn hu
            have hid : row.recordId = snapshot.recordId := Table.row_key hrow
            simpa [markLease, hrow, hl, hid] using Step.workerMarks hw ht hm hu hlease hrow hs ho hl hlt
          · cases h
            exact .rest fun v c held => held_of_set
        · cases h
          exact .rest fun v c held => held_of_set
      · cases h
    · cases h
  | reconcilerStops w =>
    simp only [System.next] at h
    split at h
    · cases h
      exact .rest fun v c held => held_of_set
    · cases h
  | release recordId owner reading =>
    simp only [System.next] at h
    split at h
    · rename_i ht
      split at h
      · rename_i released db' hr
        cases h
        rcases Db.release_ok hn hr with ⟨rfl, rfl⟩ | ⟨row, hrow, -, rfl, rfl⟩
        · have hrest : Step hash s (.release recordId owner reading) { s with workers := s.workers } :=
            .rest fun _ _ _ h => h
          simpa using hrest
        · have hid : row.recordId = recordId := Table.row_key hrow
          simpa [hid] using Step.released ht hrow
      · cases h
        exact .rest fun _ _ _ h => h
    · cases h
  | control c reading =>
    simp only [System.next] at h
    split at h
    · rename_i ht
      split at h
      · rename_i result db' hc
        cases h
        obtain ⟨row, events, n, hrow, hcase⟩ := Db.control_ok hn hc
        have hid : row.recordId = c.recordId := Table.row_key hrow
        rcases hcase with ⟨ha, hfree, rfl⟩ | ⟨ha, -, rfl⟩ | ⟨ha, hs, ho, ⟨lease, hl, hlt⟩, rfl⟩
        · simpa [controlLease, ha] using Step.operatorClaims ht hrow hfree
        · simpa [controlLease, ha] using Step.operatorReleases ht hrow
        · simpa [controlLease, ha, markLease, hrow, hl, hid] using Step.operatorReviews ht hrow hs ho hl hlt
      · cases h
        exact .rest fun _ _ _ h => h
    · cases h

/-- Without a step of a call the calls stay, or one arrives. -/
theorem Step.processes_cases (hs : Step hash s e s') (he : ∀ i input, e ≠ .engine i input) :
    s'.processes = s.processes ∨ ∃ (call : SettleCall) (limited : Bool),
      s'.processes = s.processes ++ [⟨call, if limited then .cachedGet else .claimEnter⟩] := by
  cases hs with
  | engine => exact absurd rfl (he _ _)
  | arrive call limited => exact Or.inr ⟨call, limited, rfl⟩
  | tick | rest | workerClaims | workerMarks | released | operatorClaims | operatorReleases | operatorReviews =>
    exact Or.inl rfl

/-- The history of the leases grows. -/
theorem Step.leases_grow (hs : Step hash s e s') {ev : LeaseEvent} (h : ev ∈ s.leases) : ev ∈ s'.leases := by
  cases hs with
  | tick | arrive | rest => exact h
  | engine | workerClaims | workerMarks | released | operatorClaims | operatorReleases | operatorReviews =>
    exact List.mem_append_left _ h

end Step

end HostedFacilitator.Postgres
