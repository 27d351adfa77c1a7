import HostedFacilitator.Postgres.Db

/-!
# The reconciler's decisions

`HostedSettlementReconciler` claims a stale record, asks the record's provider about it and turns the answer into
one of the store's marks. `handleClaimed` is that last part: `_apply_outcome`, `_mark_manual_or_pending`, `_mark_unknown`
and the two branches of `run_once` for a missing provider and a raising one. It reads the claimed snapshot, never the
table.
-/

namespace HostedFacilitator

open Postgres (Db)

inductive ReconciliationStatus where
  | settled
  | failedFinal
  | unknown
  | manualReview
  | pending
  deriving DecidableEq, Repr

structure ReconciliationOutcome where
  status : ReconciliationStatus
  transaction : Option String := none
  payer : Option String := none
  errorReason : Option String := none
  deriving DecidableEq

/-- The constructor's arguments; durations in microseconds. An empty owner is refused there. -/
structure HostedSettlementReconciler where
  owner : String
  leaseSeconds : Int := 60
  staleInProgressAfter : Int := 120 * 1000000
  staleSubmittedAfter : Int := 120 * 1000000
  staleUnknownAfter : Int := 300 * 1000000
  manualReviewAfter : Int := 1800 * 1000000
  owner_ne : owner ≠ ""

/-- What `run_once` gets when it looks for the claimed record's provider and asks it. -/
inductive ProviderReply where
  | notRegistered
  | raised
  | returned (outcome : ReconciliationOutcome)
  deriving DecidableEq

/-- What the reconciler does with a claimed record. -/
inductive Decision where
  | mark (m : Db.Mark)
  | pending
  | raises (e : PyErr)

namespace HostedSettlementReconciler

variable (rec : HostedSettlementReconciler)

/-- `_stale_before_for_status`. -/
def staleBeforeForStatus (status : SettlementStatus) (now : Instant) : Instant :=
  match status with
  | .settleInProgress => now - rec.staleInProgressAfter
  | .submitted => now - rec.staleSubmittedAfter
  | _ => now - rec.staleUnknownAfter

/-- The lease that `_claim` asks for. -/
def leaseUntil (now : Instant) : Instant := now + rec.leaseSeconds * 1000000

/-- `_claim`, for a candidate listed with this id and status; `reading` is the store's clock reading. -/
def claim (db : Db) (recordId : Nat) (status : SettlementStatus) (now reading : Instant) :
    Except PyErr (Option SettlementRecord × Db) :=
  db.claimReconciliationRecord recordId rec.owner (rec.leaseUntil now) [status]
    (some (rec.staleBeforeForStatus status now)) reading

/-- `_default_unknown_reason`. -/
def defaultUnknownReason (r : SettlementRecord) : String :=
  if r.status = .settleInProgress then "stale_settle_in_progress" else "reconciliation_unknown"

/-- `error_reason or _default_unknown_reason(record)`. -/
def unknownReason (r : SettlementRecord) (errorReason : Option String) : Option String :=
  orStr errorReason (some (defaultUnknownReason r))

/-- `_mark_unknown`. -/
def markUnknown (r : SettlementRecord) (errorReason : Option String) : Decision :=
  .mark (Db.markReconciledUnknown r (unknownReason r errorReason))

/-- `_mark_manual_or_pending`. -/
def markManualOrPending (r : SettlementRecord) (now : Instant) (errorReason : Option String) : Decision :=
  if r.status = .settleInProgress then markUnknown r errorReason
  else if r.status = .unknown ∧ rec.manualReviewAfter ≤ now - r.updatedAt then
    .mark (Db.markManualReview r errorReason)
  else .pending

/-- `_apply_outcome`. -/
def applyOutcome (r : SettlementRecord) (o : ReconciliationOutcome) (now : Instant) : Decision :=
  match o.status with
  | .settled =>
    let transaction := orStr o.transaction r.transaction
    if truthyStr transaction then .mark (Db.markReconciledSettled transaction (orStr o.payer r.payer))
    else .raises (.value "settled reconciliation outcome requires transaction proof")
  | .failedFinal =>
    if r.status = .settleInProgress then markUnknown r o.errorReason
    else .mark (Db.markReconciledFailed r o.errorReason)
  | .unknown =>
    if r.status = .submitted ∨ r.status = .settleInProgress then
      .mark (Db.markReconciledUnknown r (unknownReason r o.errorReason))
    else rec.markManualOrPending r now o.errorReason
  | .manualReview => rec.markManualOrPending r (now + rec.manualReviewAfter) o.errorReason
  | .pending => rec.markManualOrPending r now o.errorReason

/-- What `run_once` does with a claimed record. -/
def handleClaimed (r : SettlementRecord) (now : Instant) : ProviderReply → Decision
  | .notRegistered => rec.markManualOrPending r now (some "reconciliation_provider_not_registered")
  | .raised =>
    if r.status = .settleInProgress then markUnknown r (some "provider_reconciliation_exception") else .pending
  | .returned o => rec.applyOutcome r o now

/-! ## What a decision can ask for -/

/-- The four marks, and that a mark to `settled` carries a transaction. -/
inductive Mark.Ok (r : SettlementRecord) : Db.Mark → Prop
  | settled {t p : Option String} (h : truthyStr t = true) : Mark.Ok r (Db.markReconciledSettled t p)
  | failed (e : Option String) : Mark.Ok r (Db.markReconciledFailed r e)
  | unknown (e : Option String) : Mark.Ok r (Db.markReconciledUnknown r e)
  | manualReview (e : Option String) : Mark.Ok r (Db.markManualReview r e)

variable {rec}

theorem markManualOrPending_ok {r : SettlementRecord} {now : Instant} {e : Option String} {m : Db.Mark}
    (h : rec.markManualOrPending r now e = .mark m) : Mark.Ok r m := by
  unfold markManualOrPending at h
  split at h
  · cases h; exact .unknown _
  · split at h
    · cases h; exact .manualReview e
    · cases h

theorem applyOutcome_ok {r : SettlementRecord} {o : ReconciliationOutcome} {now : Instant} {m : Db.Mark}
    (h : rec.applyOutcome r o now = .mark m) : Mark.Ok r m := by
  unfold applyOutcome at h
  split at h
  · simp only at h
    split at h
    · rename_i ht
      cases h
      exact .settled ht
    · cases h
  · split at h
    · cases h; exact .unknown _
    · cases h; exact .failed _
  · split at h
    · cases h; exact .unknown _
    · exact markManualOrPending_ok h
  · exact markManualOrPending_ok h
  · exact markManualOrPending_ok h

/-- Every mark the reconciler asks for is one of the store's four. -/
theorem handleClaimed_ok {r : SettlementRecord} {now : Instant} {reply : ProviderReply} {m : Db.Mark}
    (h : rec.handleClaimed r now reply = .mark m) : Mark.Ok r m := by
  cases reply with
  | notRegistered => exact markManualOrPending_ok h
  | raised =>
    simp only [handleClaimed] at h
    split at h
    · cases h; exact .unknown _
    · cases h
  | returned o => exact applyOutcome_ok h

end HostedSettlementReconciler

end HostedFacilitator
