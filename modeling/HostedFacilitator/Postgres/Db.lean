import HostedFacilitator.ControlPlane.Sanitize
import HostedFacilitator.Lib.Table
import HostedFacilitator.Engine.Answer

/-!
# The Postgres tables and the statements on them

`Db` is the committed content of `settlement_records`, `settlement_attempts` and `control_plane_audit_events`,
with their id sequences. Each definition below is one SQL statement of `postgres.py`, or one transaction that starts by
locking the row it is about (`UPDATE .. WHERE id`, `SELECT .. FOR UPDATE`) and therefore takes effect at once. The
transaction of `claim_and_start_settle_attempt` has no such row to lock; it is cut into its statements here and run
in `System.lean`.
-/

namespace HostedFacilitator

/-- An audit row about a settlement; `target` is the record's id. -/
structure ReconciliationAuditEvent where
  eventId : Nat
  action : ReconciliationAction
  target : Nat
  before : Bool
  after : Bool
  reason : String
  actor : String
  correlationId : String
  createdAt : Instant

namespace Postgres

structure Db where
  records : List SettlementRecord := []
  attempts : List SettlementAttemptRecord := []
  auditEvents : List ReconciliationAuditEvent := []
  nextRecordId : Nat := 1
  nextAttemptId : Nat := 1
  nextEventId : Nat := 1

namespace Db

/-! ## Reading -/

/-- `get_record_by_id`. -/
def record (db : Db) (recordId : Nat) : Option SettlementRecord :=
  Table.row SettlementRecord.recordId recordId db.records

/-- `get`: the row with this seller, payment profile and fingerprint. -/
def get (db : Db) (k : ProfileKey) : Option SettlementRecord :=
  Table.row SettlementRecord.profileKey k db.records

/-- The rows with this seller, provider, scheme, network and fingerprint, up to `COALESCE`. -/
def withReplayKey (db : Db) (k : ReplayKey) : List SettlementRecord :=
  db.records.filter fun r => r.replayKey.coalesce == k.coalesce

/-- `get_by_provider_fingerprint`: `LIMIT 1` without an order. -/
def getByProviderFingerprint (db : Db) (k : ReplayKey) : Option SettlementRecord :=
  (db.withReplayKey k).head?

/-- The first select of a claim: `ORDER BY id ASC LIMIT 1`. -/
def selectReplay (db : Db) (k : ReplayKey) : Option SettlementRecord :=
  Table.least SettlementRecord.recordId (db.withReplayKey k)

/-! ## The statements of a claim -/

/-- The `UPDATE` that counts a duplicate claim. -/
def countDuplicate (db : Db) (recordId : Nat) (now : Instant) : Db :=
  { db with records := Table.update (·.recordId == recordId) (·.recordDuplicateClaim now) db.records }

/-- A claim commits: the record and its attempt become visible together. -/
def addClaim (db : Db) (r : SettlementRecord) (a : SettlementAttemptRecord) : Db :=
  { db with records := db.records ++ [r], attempts := db.attempts ++ [a] }

/-! ## Finalising -/

/-- The statuses from which the engine may move a record to `status`; `none` stands for the `ValueError`. -/
def expectedStatuses : SettlementStatus → Option (List SettlementStatus)
  | .settled => some [.settleInProgress, .submitted]
  | .submitted | .settleFailed => some [.settleInProgress]
  | .unknown => some [.settleInProgress, .submitted]
  | _ => none

/-- What a status transition writes to the record: it also drops the reconciliation lease. -/
def transition (status : SettlementStatus) (transaction payer errorReason : Option String) (now : Instant)
    (r : SettlementRecord) : SettlementRecord :=
  { r with
    status := status
    transaction := transaction
    payer := payer
    errorReason := errorReason
    reconciliationOwner := none
    reconciliationLeaseUntil := none
    updatedAt := now }

/-- What the engine writes to the attempt. -/
def finishAttempt (f : Finalization) (now : Instant) (a : SettlementAttemptRecord) : SettlementAttemptRecord :=
  { a with
    status := f.attemptStatus
    finishedAt := some now
    transaction := f.transaction
    errorReason := f.errorReason }

/-- The guard of the engine's update. -/
def finalizable (recordId : Nat) (expected : List SettlementStatus) (r : SettlementRecord) : Bool :=
  r.recordId == recordId && expected.contains r.status

/-- `mark_record_and_finish_settle_attempt`. -/
def markRecordAndFinishSettleAttempt (db : Db) (recordId attemptId : Nat) (f : Finalization) (now : Instant) :
    Except PyErr Db :=
  match expectedStatuses f.recordStatus with
  | none => .error (.value ("Unsupported settlement finalization status: " ++ f.recordStatus.value))
  | some expected =>
    if db.records.any (finalizable recordId expected) then
      .ok { db with
        records := Table.update (finalizable recordId expected)
          (transition f.recordStatus f.transaction f.payer f.errorReason now) db.records
        attempts := Table.update (·.attemptId == attemptId) (finishAttempt f now) db.attempts }
    else
      .error (.runtime ("Postgres settlement record " ++ toString recordId ++
        " was not in an expected status for transition to " ++ f.recordStatus.value))

/-! ## Reconciliation leases -/

/-- No lease, or a lease that has run out at `now`. -/
def leaseFree (now : Instant) (r : SettlementRecord) : Bool :=
  match r.reconciliationLeaseUntil with
  | none => true
  | some l => l ≤ now

/-- The guard of `CLAIM_RECONCILIATION_RECORD_SQL`. -/
def claimable (recordId : Nat) (eligible : List SettlementStatus) (staleBefore : Option Instant) (now : Instant)
    (r : SettlementRecord) : Bool :=
  r.recordId == recordId && eligible.contains r.status && staleBefore.all (fun t => r.updatedAt ≤ t) &&
    leaseFree now r

/-- What taking a lease writes. -/
def takeLease (owner : String) (leaseUntil : Instant) (r : SettlementRecord) : SettlementRecord :=
  { r with
    reconciliationOwner := some owner
    reconciliationLeaseUntil := some leaseUntil
    reconciliationAttempts := r.reconciliationAttempts + 1 }

/-- What giving a lease back writes. -/
def dropLease (now : Instant) (r : SettlementRecord) : SettlementRecord :=
  { r with reconciliationOwner := none, reconciliationLeaseUntil := none, updatedAt := now }

/-- `claim_reconciliation_record`: the claimed row, when the update hit one, and the new tables. -/
def claimReconciliationRecord (db : Db) (recordId : Nat) (owner : String) (leaseUntil : Instant)
    (eligible : List SettlementStatus) (staleBefore : Option Instant) (now : Instant) :
    Except PyErr (Option SettlementRecord × Db) :=
  if owner = "" then .error (.value "reconciliation owner is required")
  else if eligible = [] then .ok (none, db)
  else
    let hit := claimable recordId eligible staleBefore now
    .ok ((db.records.find? hit).map (takeLease owner leaseUntil),
      { db with records := Table.update hit (takeLease owner leaseUntil) db.records })

/-- The guard of a release. -/
def releasable (recordId : Nat) (owner : String) (r : SettlementRecord) : Bool :=
  r.recordId == recordId && r.reconciliationOwner == some owner

/-- `release_reconciliation_record`. -/
def releaseReconciliationRecord (db : Db) (recordId : Nat) (owner : String) (now : Instant) :
    Except PyErr (Option SettlementRecord × Db) :=
  if owner = "" then .error (.value "reconciliation owner is required")
  else
    let hit := releasable recordId owner
    .ok ((db.records.find? hit).map (dropLease now),
      { db with records := Table.update hit (dropLease now) db.records })

/-! ## Reconciliation transitions -/

/-- `_attempt_status_for_reconciled_status`. -/
def attemptStatusForReconciledStatus : SettlementStatus → Option SettlementAttemptStatus
  | .settled => some .settled
  | .settleFailed => some .failed
  | .unknown | .manualReview => some .unknown
  | _ => none

/-- `_finish_started_attempts_for_reconciliation`; `COALESCE` keeps a value that is not replaced. -/
def finishStartedAttempts (db : Db) (recordId : Nat) (status : SettlementStatus) (finishedAt : Instant)
    (transaction errorReason : Option String) : Db :=
  match attemptStatusForReconciledStatus status with
  | none => db
  | some attemptStatus =>
    { db with
      attempts := Table.update (fun a => a.settlementRecordId == recordId && a.status == .started)
        (fun a => { a with
          status := attemptStatus
          finishedAt := some finishedAt
          transaction := transaction.or a.transaction
          errorReason := errorReason.or a.errorReason }) db.attempts }

/-- A status change that a lease holder asks for. -/
structure Mark where
  status : SettlementStatus
  expected : List SettlementStatus
  transaction : Option String
  payer : Option String
  errorReason : Option String

/-- The guard of a reconciliation update: the row still carries the claimant's lease, and it has not run out. -/
def leasedTo (recordId : Nat) (expected : List SettlementStatus) (owner : String) (lease now : Instant)
    (r : SettlementRecord) : Bool :=
  r.recordId == recordId && expected.contains r.status && r.reconciliationOwner == some owner &&
    r.reconciliationLeaseUntil == some lease && now < lease

/-- `_update_reconciliation_record`: `snapshot` is the record as the claim returned it. -/
def updateReconciliationRecord (db : Db) (snapshot : SettlementRecord) (m : Mark) (owner : String) (now : Instant) :
    Except PyErr Db :=
  if owner = "" then .error (.value "reconciliation owner is required")
  else match snapshot.reconciliationLeaseUntil with
    | none => .error (.value "claimed reconciliation lease is required for updates")
    | some lease =>
      let hit := leasedTo snapshot.recordId m.expected owner lease now
      if db.records.any hit then
        .ok ({ db with
          records := Table.update hit (transition m.status m.transaction m.payer m.errorReason now)
            db.records }.finishStartedAttempts snapshot.recordId m.status now m.transaction m.errorReason)
      else
        .error (.runtime ("Postgres settlement record " ++ toString snapshot.recordId ++ " was not leased by " ++
          owner ++ " in an expected status for transition to " ++ m.status.value))

/-- `mark_reconciled_settled`. -/
def markReconciledSettled (transaction payer : Option String) : Mark :=
  ⟨.settled, [.unknown, .submitted, .settleInProgress], transaction, payer, none⟩

/-- `mark_reconciled_failed`. -/
def markReconciledFailed (snapshot : SettlementRecord) (errorReason : Option String) : Mark :=
  ⟨.settleFailed, [.unknown, .settleInProgress], snapshot.transaction, snapshot.payer, errorReason⟩

/-- `mark_reconciled_unknown`. -/
def markReconciledUnknown (snapshot : SettlementRecord) (errorReason : Option String) : Mark :=
  ⟨.unknown, [.submitted, .settleInProgress], snapshot.transaction, snapshot.payer, errorReason⟩

/-- `mark_manual_review`. -/
def markManualReview (snapshot : SettlementRecord) (errorReason : Option String) : Mark :=
  ⟨.manualReview, [.unknown], snapshot.transaction, snapshot.payer, errorReason⟩

/-! ## Operator actions -/

/-- The arguments of `apply_reconciliation_control_action`, after the `_safe_*` functions. -/
structure ControlAction where
  action : ReconciliationAction
  recordId : Nat
  owner : String
  leaseUntil : Instant
  activeStaleBefore : Instant
  reason : String
  actor : String
  correlationId : String

/-- `_claim_reconciliation_record_locked`, on the locked row. -/
def claimReconciliationRecordLocked (r : SettlementRecord) (owner : String) (leaseUntil activeStaleBefore : Instant)
    (now : Instant) : Except PyErr SettlementRecord :=
  if !([.unknown, .manualReview, .submitted, .settleInProgress] : List SettlementStatus).contains r.status then
    .error (.runtime "Settlement record is not claimable")
  else if ([.submitted, .settleInProgress] : List SettlementStatus).contains r.status &&
      activeStaleBefore < r.updatedAt then
    .error (.runtime "Active settlement record is not stale enough to claim")
  else if !leaseFree now r then .error (.runtime "Settlement record is not claimable")
  else .ok { takeLease owner leaseUntil r with updatedAt := now }

/-- `_release_reconciliation_record_locked`, on the locked row. -/
def releaseReconciliationRecordLocked (r : SettlementRecord) (owner : String) (now : Instant) :
    Except PyErr SettlementRecord :=
  if r.reconciliationOwner = some owner then .ok (dropLease now r)
  else .error (.runtime "Settlement record is not leased by this operator")

/-- `_manual_review_reconciliation_record_locked`, on the locked row; its `WHERE` clause repeats these checks. -/
def manualReviewReconciliationRecordLocked (r : SettlementRecord) (owner : String) (now : Instant) :
    Except PyErr SettlementRecord :=
  if r.status ≠ .unknown then .error (.runtime "Only unknown settlement records can move to manual review")
  else if r.reconciliationOwner ≠ some owner || leaseFree now r then
    .error (.runtime "Settlement record must be claimed by this operator")
  else .ok (transition .manualReview r.transaction r.payer (some "manual_review_operator_requested") now r)

/-- The row after the action, and whether a lease counts as active after it. -/
def controlledRow (c : ControlAction) (now : Instant) (r : SettlementRecord) :
    Except PyErr (SettlementRecord × Bool) :=
  match c.action with
  | .claim => (claimReconciliationRecordLocked r c.owner c.leaseUntil c.activeStaleBefore now).map (·, true)
  | .release => (releaseReconciliationRecordLocked r c.owner now).map (·, false)
  | .manualReview => (manualReviewReconciliationRecordLocked r c.owner now).map (·, true)

/-- `apply_reconciliation_control_action`: the action and its audit row commit together, or nothing does. -/
def applyReconciliationControlAction (db : Db) (c : ControlAction) (now : Instant) :
    Except PyErr ((SettlementRecord × ReconciliationAuditEvent) × Db) :=
  if c.owner = "" then .error (.value "reconciliation owner is required")
  else match db.record c.recordId with
    | none => .error (.key (toString c.recordId))
    | some r =>
      match controlledRow c now r with
      | .error e => .error e
      | .ok (r', active) =>
        let event : ReconciliationAuditEvent :=
          { eventId := db.nextEventId, action := c.action, target := c.recordId,
            before := truthyStr r.reconciliationOwner, after := active, reason := c.reason, actor := c.actor,
            correlationId := c.correlationId, createdAt := now }
        let db' : Db :=
          { db with
            records := Table.update (·.recordId == c.recordId) (fun _ => r') db.records
            auditEvents := db.auditEvents ++ [event]
            nextEventId := db.nextEventId + 1 }
        match c.action with
        | .manualReview => .ok ((r', event), db'.finishStartedAttempts c.recordId .manualReview now r.transaction
            (some "manual_review_operator_requested"))
        | _ => .ok ((r', event), db')

end Db

end Postgres

end HostedFacilitator
