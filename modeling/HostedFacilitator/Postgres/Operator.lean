import HostedFacilitator.Lib.Transaction
import HostedFacilitator.Lib.Tally
import HostedFacilitator.ControlPlane.Sanitize
import HostedFacilitator.Postgres.AtMostOnce

/-!
# Operator actions

`apply_reconciliation_control_action` statement by statement: a locking select, an update with its own `WHERE`, for
a manual review the update of the attempts, and the audit row. Every statement and the commit may fail, and an error
anywhere rolls the transaction back; only the sequence of the audit ids has moved on (`undo`).

* `controlAction_cases`: it returns what `applyReconciliationControlAction` returns, or raises and leaves the tables
  as they were;
* `Operator.machine`: such calls among the events of the engine and the reconcilers;
* `operator_action_atomic`: in every reachable state a call does exactly what it was asked for and writes one audit row,
  or raises and changes nothing; and a record's `reconciliation_attempts` is the number of the reconcilers' claims plus
  the number of its `reconciliation_claim` audit rows.
-/

namespace HostedFacilitator

/-- `re.fullmatch(r"[A-Za-z0-9_.@-]{1,48}\.[0-9a-f]{24}", subject)`. -/
def isLeaseOwner (subject : String) : Bool :=
  let chars := subject.toList
  let name := chars.take (chars.length - 25)
  let digest := chars.drop (chars.length - 24)
  25 < chars.length && name.length ≤ 48 && name.all (fun c => c.isAlphanum || ['_', '.', '@', '-'].contains c) &&
    (chars[chars.length - 25]? == some '.') && digest.all fun c => "0123456789abcdef".toList.contains c

/-- `_safe_operator_lease_owner`, without an issuer. -/
def safeOperatorLeaseOwner (u : Unicode) (sha256 : String → String) (value : String) : String :=
  let subject := orDefault (strip value) "unknown"
  if isLeaseOwner subject then subject
  else
    String.ofList ((safeActor u subject).toList.take 48) ++ "." ++
      String.ofList ((sha256 ("\x00" ++ subject)).toList.take 24)

namespace Postgres

/-- The arguments of `apply_reconciliation_control_action`. -/
structure OperatorCall where
  action : String
  recordId : Int
  owner : String
  leaseUntil : Instant
  activeStaleBefore : Instant
  reason : String
  actor : String
  correlationId : String

/-- The arguments after the `_safe_*` functions. -/
def OperatorCall.prepare (u : Unicode) (sha256 : String → String) (fresh : Uuid) (call : OperatorCall) :
    Except PyErr Db.ControlAction := do
  let action ← safeReconciliationAction call.action
  return {
    action := action
    recordId := call.recordId.toNat
    owner := safeOperatorLeaseOwner u sha256 call.owner
    leaseUntil := call.leaseUntil
    activeStaleBefore := call.activeStaleBefore
    reason := safeReason call.reason
    actor := safeActor u call.actor
    correlationId := safeCorrelationId u fresh call.correlationId }

namespace Db

/-- The statements of the transaction, and its commit. -/
inductive ControlStatement where
  | select
  | update
  | finishAttempts
  | audit
  | commit
  deriving DecidableEq

/-- Which statements fail, and how. -/
abbrev Faults := ControlStatement → Option PyErr

/-- `UPDATE settlement_records SET f WHERE hit RETURNING *`. -/
def updateReturning (hit : SettlementRecord → Bool) (f : SettlementRecord → SettlementRecord) (db : Db) :
    Option SettlementRecord × Db :=
  ((db.records.find? hit).map f, { db with records := Table.update hit f db.records })

section Body

open Transaction

variable (faults : Faults)

/-- `_claim_reconciliation_record_locked`. -/
def claimLocked (r : SettlementRecord) (owner : String) (leaseUntil activeStaleBefore now : Instant) :
    Body Db PyErr SettlementRecord := do
  if !([.unknown, .manualReview, .submitted, .settleInProgress] : List SettlementStatus).contains r.status then
    throw (.runtime "Settlement record is not claimable")
  else if ([.submitted, .settleInProgress] : List SettlementStatus).contains r.status &&
      activeStaleBefore < r.updatedAt then
    throw (.runtime "Active settlement record is not stale enough to claim")
  else if !leaseFree now r then throw (.runtime "Settlement record is not claimable")
  else
    let row ← statement (faults .update)
      (updateReturning (·.recordId == r.recordId) fun r => { takeLease owner leaseUntil r with updatedAt := now })
    match row with
    | some row => return row
    | none => throw (.runtime "Settlement record is not claimable")

/-- `_release_reconciliation_record_locked`. -/
def releaseLocked (r : SettlementRecord) (owner : String) (now : Instant) : Body Db PyErr SettlementRecord := do
  if r.reconciliationOwner ≠ some owner then throw (.runtime "Settlement record is not leased by this operator")
  else
    let row ← statement (faults .update) (updateReturning (releasable r.recordId owner) (dropLease now))
    match row with
    | some row => return row
    | none => throw (.runtime "Settlement record is not leased by this operator")

/-- The guard of the update of a manual review. -/
def reviewable (recordId : Nat) (owner : String) (lease : Option Instant) (now : Instant) (r : SettlementRecord) : Bool :=
  r.recordId == recordId && r.status == .unknown && r.reconciliationOwner == some owner &&
    r.reconciliationLeaseUntil == lease && r.reconciliationLeaseUntil.any (now < ·)

/-- What a manual review writes to the record; the transaction and the payer stay. -/
def reviewRow (now : Instant) (r : SettlementRecord) : SettlementRecord :=
  transition .manualReview r.transaction r.payer (some "manual_review_operator_requested") now r

/-- `_manual_review_reconciliation_record_locked`. -/
def manualReviewLocked (r : SettlementRecord) (owner : String) (now : Instant) : Body Db PyErr SettlementRecord := do
  if r.status ≠ .unknown then throw (.runtime "Only unknown settlement records can move to manual review")
  else if r.reconciliationOwner ≠ some owner then
    throw (.runtime "Settlement record must be claimed by this operator")
  else if leaseFree now r then throw (.runtime "Settlement record must be claimed by this operator")
  else
    let row ← statement (faults .update)
      (updateReturning (reviewable r.recordId owner r.reconciliationLeaseUntil now) (reviewRow now))
    match row with
    | some row =>
      statement (faults .finishAttempts) fun db =>
        ((), db.finishStartedAttempts r.recordId .manualReview now r.transaction
          (some "manual_review_operator_requested"))
      return row
    | none => throw (.runtime "Settlement record must be claimed by this operator")

/-- `INSERT INTO control_plane_audit_events .. RETURNING *`. -/
def insertAudit (event : Nat → ReconciliationAuditEvent) (db : Db) : ReconciliationAuditEvent × Db :=
  (event db.nextEventId,
    { db with auditEvents := db.auditEvents ++ [event db.nextEventId], nextEventId := db.nextEventId + 1 })

/-- The update of the action, on the locked row. -/
def actionLocked (c : ControlAction) (record : SettlementRecord) (now : Instant) : Body Db PyErr SettlementRecord :=
  match c.action with
  | .claim => claimLocked faults record c.owner c.leaseUntil c.activeStaleBefore now
  | .release => releaseLocked faults record c.owner now
  | .manualReview => manualReviewLocked faults record c.owner now

/-- `after_active`. -/
def afterActive : ReconciliationAction → Bool
  | .claim | .manualReview => true
  | .release => false

/-- The body of the transaction. -/
def controlBody (c : ControlAction) (now : Instant) : Body Db PyErr (SettlementRecord × ReconciliationAuditEvent) := do
  let locked ← statement (faults .select) fun db => (db.record c.recordId, db)
  match locked with
  | none => throw (.key (toString c.recordId))
  | some record =>
    let updated ← actionLocked faults c record now
    let event ← statement (faults .audit) (insertAudit fun id =>
      { eventId := id, action := c.action, target := c.recordId, before := truthyStr record.reconciliationOwner,
        after := afterActive c.action, reason := c.reason, actor := c.actor, correlationId := c.correlationId
        createdAt := now })
    statement (faults .commit) fun db => ((), db)
    return (updated, event)

/-- The tables are put back, the sequence is not. -/
def undo (before after : Db) : Db := { before with nextEventId := after.nextEventId }

/-- `apply_reconciliation_control_action`. -/
def controlAction (u : Unicode) (sha256 : String → String) (fresh : Uuid) (faults : Faults) (call : OperatorCall)
    (now : Instant) (db : Db) : Except PyErr (SettlementRecord × ReconciliationAuditEvent) × Db :=
  match call.prepare u sha256 fresh with
  | .error e => (.error e, db)
  | .ok c =>
    if c.owner = "" then (.error (.value "reconciliation owner is required"), db)
    else if call.recordId < 0 then (.error (.key (toString call.recordId)), db)
    else atomically undo (controlBody faults c now) db

/-! ## A call that returns -/

variable {faults} {db db' : Db} {r r' : SettlementRecord} {c : ControlAction} {owner : String} {now : Instant}

/-- An update of the locked row, whose guard the row meets. -/
theorem updateReturning_eq (hn : db.UniqueIds) (hr : db.record r.recordId = some r)
    (hit g : SettlementRecord → Bool) {f : SettlementRecord → SettlementRecord}
    (hhit : hit = fun x => x.recordId == r.recordId && g x) (hg : g r = true) :
    updateReturning hit f db =
      (some (f r), { db with records := Table.update (·.recordId == r.recordId) (fun _ => f r) db.records }) := by
  subst hhit
  have hfind : db.records.find? (fun x => x.recordId == r.recordId && g x) = some r := by
    cases hf : db.records.find? (fun x => x.recordId == r.recordId && g x) with
    | none =>
      have hmiss := List.find?_eq_none.mp hf r (Table.row_mem hr)
      simp [hg] at hmiss
    | some row => exact (Table.find_guard hn hf).1.symm.trans hr
  have hup := Table.update_guard (g := g) (f := f) hn hr
  rw [if_pos hg] at hup
  rw [updateReturning, hfind, hup, ← Table.update_const hn hr]
  rfl

theorem claimLocked_ok (hn : db.UniqueIds) (hr : db.record r.recordId = some r) {leaseUntil stale : Instant}
    (h : exec (claimLocked faults r owner leaseUntil stale now) db = (.ok r', db')) :
    claimReconciliationRecordLocked r owner leaseUntil stale now = .ok r' ∧
      db' = { db with records := Table.update (·.recordId == r.recordId) (fun _ => r') db.records } := by
  unfold claimLocked at h
  unfold claimReconciliationRecordLocked
  split at h
  · cases h
  rename_i hstatus
  split at h
  · cases h
  rename_i hstale
  split at h
  · cases h
  rename_i hfree
  obtain ⟨row, db₁, hupdate, h⟩ := bind_eq_ok.mp h
  obtain ⟨-, hupdate⟩ := statement_eq_ok.mp hupdate
  rw [updateReturning_eq hn hr _ (fun _ => true) (by simp) rfl, Prod.mk.injEq] at hupdate
  obtain ⟨rfl, rfl⟩ := hupdate
  cases h
  rw [if_neg hstatus, if_neg hstale, if_neg hfree]
  exact ⟨rfl, rfl⟩

theorem releaseLocked_ok (hn : db.UniqueIds) (hr : db.record r.recordId = some r)
    (h : exec (releaseLocked faults r owner now) db = (.ok r', db')) :
    releaseReconciliationRecordLocked r owner now = .ok r' ∧
      db' = { db with records := Table.update (·.recordId == r.recordId) (fun _ => r') db.records } := by
  unfold releaseLocked at h
  unfold releaseReconciliationRecordLocked
  split at h
  · cases h
  rename_i howner
  rw [not_not] at howner
  obtain ⟨row, db₁, hupdate, h⟩ := bind_eq_ok.mp h
  obtain ⟨-, hupdate⟩ := statement_eq_ok.mp hupdate
  rw [updateReturning_eq hn hr (releasable r.recordId owner) (fun x => x.reconciliationOwner == some owner) rfl
    (by simp [howner]), Prod.mk.injEq] at hupdate
  obtain ⟨rfl, rfl⟩ := hupdate
  cases h
  rw [if_pos howner]
  exact ⟨rfl, rfl⟩

theorem manualReviewLocked_ok (hn : db.UniqueIds) (hr : db.record r.recordId = some r)
    (h : exec (manualReviewLocked faults r owner now) db = (.ok r', db')) :
    manualReviewReconciliationRecordLocked r owner now = .ok r' ∧
      db' = { db with records := Table.update (·.recordId == r.recordId) (fun _ => r') db.records
        }.finishStartedAttempts r.recordId .manualReview now r.transaction (some "manual_review_operator_requested") := by
  unfold manualReviewLocked at h
  unfold manualReviewReconciliationRecordLocked
  split at h
  · cases h
  rename_i hstatus
  split at h
  · cases h
  rename_i howner
  split at h
  · cases h
  rename_i hlease
  rw [not_not] at hstatus howner
  obtain ⟨row, db₁, hupdate, h⟩ := bind_eq_ok.mp h
  obtain ⟨-, hupdate⟩ := statement_eq_ok.mp hupdate
  obtain ⟨lease, hl, hlive⟩ := not_leaseFree (Bool.eq_false_iff.mpr hlease)
  rw [updateReturning_eq hn hr _ (fun x => x.status == .unknown && x.reconciliationOwner == some owner &&
      x.reconciliationLeaseUntil == r.reconciliationLeaseUntil && x.reconciliationLeaseUntil.any (now < ·))
      (by funext x; simp [reviewable, Bool.and_assoc]) (by simp [hstatus, howner, hl, hlive]), Prod.mk.injEq] at hupdate
  obtain ⟨rfl, rfl⟩ := hupdate
  obtain ⟨_, db₂, hfinish, h⟩ := bind_eq_ok.mp h
  obtain ⟨-, hfinish⟩ := statement_eq_ok.mp hfinish
  cases hfinish
  cases h
  simp only [hstatus, howner, hlease, ne_eq, not_true_eq_false, if_false, decide_false, Bool.or_self,
    Bool.false_eq_true]
  exact ⟨rfl, trivial⟩

/-- A body that returns has done what the action does. -/
theorem controlBody_ok (hn : db.UniqueIds) (hne : c.owner ≠ "") {result : SettlementRecord × ReconciliationAuditEvent}
    (h : exec (controlBody faults c now) db = (.ok result, db')) :
    db.applyReconciliationControlAction c now = .ok (result, db') := by
  unfold controlBody at h
  obtain ⟨locked, db₁, hselect, h⟩ := bind_eq_ok.mp h
  obtain ⟨-, hselect⟩ := statement_eq_ok.mp hselect
  cases hselect
  cases hrow : db.record c.recordId with
  | none =>
    rw [hrow] at h
    cases h
  | some row =>
    have hid : row.recordId = c.recordId := Table.row_key hrow
    have hrow' : db.record row.recordId = some row := hid ▸ hrow
    simp only [hrow] at h
    obtain ⟨updated, db₂, haction, h⟩ := bind_eq_ok.mp h
    obtain ⟨event, db₃, haudit, h⟩ := bind_eq_ok.mp h
    obtain ⟨-, haudit⟩ := statement_eq_ok.mp haudit
    cases haudit
    obtain ⟨_, db₄, hcommit, h⟩ := bind_eq_ok.mp h
    obtain ⟨-, hcommit⟩ := statement_eq_ok.mp hcommit
    cases hcommit
    cases h
    simp only [applyReconciliationControlAction, hne, if_false, hrow, controlledRow]
    unfold actionLocked at haction
    cases hact : c.action with
    | claim =>
      simp only [hact] at haction
      obtain ⟨hlocked, rfl⟩ := claimLocked_ok hn hrow' haction
      rw [hid, hlocked]
      rfl
    | release =>
      simp only [hact] at haction
      obtain ⟨hlocked, rfl⟩ := releaseLocked_ok hn hrow' haction
      rw [hid, hlocked]
      rfl
    | manualReview =>
      simp only [hact] at haction
      obtain ⟨hlocked, rfl⟩ := manualReviewLocked_ok hn hrow' haction
      rw [hid, hlocked]
      rfl

/-- A call returns what the action returns, or raises and leaves the tables as they were. -/
theorem controlAction_cases (hn : db.UniqueIds) (u : Unicode) (sha256 : String → String) (fresh : Uuid) (faults : Faults)
    (call : OperatorCall) (now : Instant) :
    (∃ c result db', call.prepare u sha256 fresh = .ok c ∧ db.applyReconciliationControlAction c now = .ok (result, db') ∧
        controlAction u sha256 fresh faults call now db = (.ok result, db')) ∨
      ∃ e n, controlAction u sha256 fresh faults call now db = (.error e, { db with nextEventId := n }) := by
  unfold controlAction
  cases hprepare : call.prepare u sha256 fresh with
  | error e => exact Or.inr ⟨e, db.nextEventId, rfl⟩
  | ok c =>
    by_cases howner : c.owner = ""
    · simp only [howner, if_true]
      exact Or.inr ⟨_, db.nextEventId, rfl⟩
    · by_cases hneg : call.recordId < 0
      · simp only [howner, hneg, if_true, if_false]
        exact Or.inr ⟨_, db.nextEventId, rfl⟩
      · simp only [howner, hneg, if_false]
        rcases atomically_cases undo (controlBody faults c now) db with ⟨result, db', hbody, hdone⟩ | ⟨e, db', hdone⟩
        · exact Or.inl ⟨c, result, db', rfl, controlBody_ok hn howner hbody, hdone⟩
        · exact Or.inr ⟨e, db'.nextEventId, hdone⟩

end Body

/-- What an action asks for, on the row it is about. -/
def ControlAction.applied (c : ControlAction) (now : Instant) (row : SettlementRecord) : SettlementRecord :=
  match c.action with
  | .claim => operatorLease c.owner c.leaseUntil now row
  | .release => dropLease now row
  | .manualReview => reviewRow now row

/-- The lease is the claimant's or nobody's, a claim is counted, a manual review has its status and its reason, and
everything else is as it was. -/
structure ControlAction.Effect (c : ControlAction) (now : Instant) (row record : SettlementRecord) : Prop where
  owner : record.reconciliationOwner = if c.action = .claim then some c.owner else none
  leaseUntil : record.reconciliationLeaseUntil = if c.action = .claim then some c.leaseUntil else none
  counted : record.reconciliationAttempts = row.reconciliationAttempts + if c.action = .claim then 1 else 0
  status : record.status = if c.action = .manualReview then .manualReview else row.status
  errorReason : record.errorReason =
    if c.action = .manualReview then some "manual_review_operator_requested" else row.errorReason
  stamped : record.updatedAt = now
  rest : { record with
    reconciliationOwner := row.reconciliationOwner
    reconciliationLeaseUntil := row.reconciliationLeaseUntil
    reconciliationAttempts := row.reconciliationAttempts
    status := row.status
    errorReason := row.errorReason
    updatedAt := row.updatedAt } = row

theorem ControlAction.applied_effect (c : ControlAction) (now : Instant) (row : SettlementRecord) :
    c.Effect now row (c.applied now row) := by
  unfold applied
  cases hact : c.action <;> constructor <;>
    simp [hact, operatorLease, takeLease, dropLease, reviewRow, transition]

/-- The attempts after an action: a manual review ends the started ones of the record. -/
def ControlAction.attempts (c : ControlAction) (now : Instant) (row : SettlementRecord) (db : Db) :
    List SettlementAttemptRecord :=
  match c.action with
  | .claim | .release => db.attempts
  | .manualReview => (db.finishStartedAttempts c.recordId .manualReview now row.transaction
      (some "manual_review_operator_requested")).attempts

/-- The action was done, on the one record it is about, and audited once. -/
structure Performed (db : Db) (c : ControlAction) (now : Instant) (record : SettlementRecord)
    (event : ReconciliationAuditEvent) (db' : Db) : Prop where
  row : ∃ row, db.record c.recordId = some row ∧ record = c.applied now row ∧ db'.attempts = c.attempts now row db ∧
    event = { eventId := db.nextEventId, action := c.action, target := c.recordId,
              before := truthyStr row.reconciliationOwner, after := afterActive c.action, reason := c.reason,
              actor := c.actor, correlationId := c.correlationId, createdAt := now }
  records : db'.records = Table.update (·.recordId == c.recordId) (fun _ => record) db.records
  audit : db'.auditEvents = db.auditEvents ++ [event]

/-- What an action has done to its record. -/
theorem Performed.effect {db db' : Db} {c : ControlAction} {now : Instant} {record : SettlementRecord}
    {event : ReconciliationAuditEvent} (h : Performed db c now record event db') :
    ∃ row, db.record c.recordId = some row ∧ c.Effect now row record := by
  obtain ⟨row, hrow, rfl, -⟩ := h.row
  exact ⟨row, hrow, c.applied_effect now row⟩

theorem Performed.of_ok {db db' : Db} {c : ControlAction} {now : Instant} {record : SettlementRecord}
    {event : ReconciliationAuditEvent} (h : db.applyReconciliationControlAction c now = .ok ((record, event), db')) :
    Performed db c now record event db' := by
  unfold applyReconciliationControlAction at h
  split at h
  · cases h
  split at h
  · cases h
  rename_i row hrow
  split at h
  · cases h
  rename_i r' active hr'
  unfold controlledRow at hr'
  cases hact : c.action with
  | claim =>
    simp only [hact, claimReconciliationRecordLocked] at hr' h
    split at hr'
    · cases hr'
    split at hr'
    · cases hr'
    split at hr'
    · cases hr'
    cases hr'
    cases h
    exact ⟨⟨row, hrow, by rw [ControlAction.applied, hact]; rfl, by rw [ControlAction.attempts, hact], by rw [hact]; rfl⟩,
      rfl, rfl⟩
  | release =>
    simp only [hact, releaseReconciliationRecordLocked] at hr' h
    split at hr'
    · cases hr'
      cases h
      exact ⟨⟨row, hrow, by rw [ControlAction.applied, hact], by rw [ControlAction.attempts, hact], by rw [hact]; rfl⟩,
        rfl, rfl⟩
    · cases hr'
  | manualReview =>
    simp only [hact, manualReviewReconciliationRecordLocked] at hr' h
    split at hr'
    · cases hr'
    split at hr'
    · cases hr'
    cases hr'
    cases h
    exact ⟨⟨row, hrow, by rw [ControlAction.applied, hact]; rfl, by rw [ControlAction.attempts, hact]; rfl,
      by rw [hact]; rfl⟩, rfl, rfl⟩

end Db

/-! ## Actions among the other events -/

namespace Operator

/-- An event of the engine or a reconciler, or a call of an operator. -/
inductive Event where
  | other (e : Postgres.Event)
  | action (call : OperatorCall) (fresh : Uuid) (faults : Db.Faults) (reading : Instant)

/-- The lease event of a call that returns. -/
def actionLease (c : Except PyErr Db.ControlAction) (reading : Instant) (db : Db) : List LeaseEvent :=
  match c with
  | .ok c => controlLease c reading (db.record c.recordId)
  | .error _ => []

variable (hash : String → Int) (u : Unicode) (sha256 : String → String)

/-- One event. Operator actions run statement by statement, so the undivided one of `System.next` is left out. -/
def next (s : System) : Event → Option System
  | .other (.control ..) => none
  | .other e => System.next hash s e
  | .action call fresh faults reading =>
    if reading ≤ s.clock then
      match Db.controlAction u sha256 fresh faults call reading s.db with
      | (.ok _, db') =>
        some { s with db := db', leases := s.leases ++ actionLease (call.prepare u sha256 fresh) reading s.db }
      | (.error _, db') => some { s with db := db' }
    else none

def machine : Transition.Machine System Event where
  start := {}
  next := next hash u sha256

/-- The records with their counters. -/
def attemptColumns (rows : List SettlementRecord) : List (Nat × Nat) :=
  Table.columns SettlementRecord.recordId SettlementRecord.reconciliationAttempts rows

/-- The records that reconcilers have claimed. -/
def workerClaims (leases : List LeaseEvent) : List Nat :=
  leases.filterMap fun
    | .claimed (.worker _) recordId _ _ _ => some recordId
    | _ => none

/-- The records whose claims have been audited. -/
def auditedClaims (events : List ReconciliationAuditEvent) : List Nat :=
  events.filterMap fun event => if event.action = .claim then some event.target else none

/-- Every record's counter is the number of its claims. -/
def CountsClaims (s : System) : Prop :=
  Table.Tally (attemptColumns s.db.records) ((workerClaims s.leases ++ auditedClaims s.db.auditEvents).map (·, true))

variable {hash u sha256} {s s' : System} {e : Event}

/-- An event is one of the engine or a reconciler, an action that returns, or an action that raises. -/
theorem next_cases (hn : s.db.UniqueIds) (h : next hash u sha256 s e = some s') :
    (∃ e₀, (∀ c reading, e₀ ≠ .control c reading) ∧ System.next hash s e₀ = some s') ∨
      (∃ c reading record event db', reading ≤ s.clock ∧
        s.db.applyReconciliationControlAction c reading = .ok ((record, event), db') ∧
        s' = { s with db := db', leases := s.leases ++ controlLease c reading (s.db.record c.recordId) }) ∨
      ∃ n, s' = { s with db := { s.db with nextEventId := n } } := by
  cases e with
  | other e =>
    cases e with
    | control => cases h
    | tick | arrive | engine | spawn | reconcilerClaim | reconcilerReply | reconcilerStops | release =>
      simp only [next] at h
      refine Or.inl ⟨_, ?_, h⟩
      simp
  | action call fresh faults reading =>
    simp only [next] at h
    split at h
    · rename_i ht
      rcases Db.controlAction_cases hn u sha256 fresh faults call reading with
        ⟨c, ⟨record, event⟩, db', hprepare, hok, hdone⟩ | ⟨err, n, hdone⟩
      · simp only [hdone, hprepare, Option.some.injEq] at h
        exact Or.inr (Or.inl ⟨c, reading, record, event, db', ht, hok, h.symm⟩)
      · simp only [hdone, Option.some.injEq] at h
        exact Or.inr (Or.inr ⟨n, h.symm⟩)
    · cases h

/-- Every reachable state has the invariant of the claim protocol. -/
theorem reachable_claims (h : (machine hash u sha256).Reachable s) : s.Claims hash := by
  refine h.invariant (I := System.Claims hash) claims_start ?_
  intro s e t _ hs hn
  rcases next_cases hs.uniqueIds hn with ⟨e₀, -, hn⟩ | ⟨c, reading, record, event, db', ht, hok, rfl⟩ | ⟨n, rfl⟩
  · exact (next_step hs.uniqueIds hn).claims hs
  · have hn₀ : System.next hash s (.control c reading) =
        some { s with db := db', leases := s.leases ++ controlLease c reading (s.db.record c.recordId) } := by
      simp only [System.next, ht, if_true, hok]
    exact (next_step hs.uniqueIds hn₀).claims hs
  · exact hs

/-! ## Counting claims -/

@[simp] theorem workerClaims_append (a b : List LeaseEvent) : workerClaims (a ++ b) = workerClaims a ++ workerClaims b :=
  List.filterMap_append

@[simp] theorem auditedClaims_append (a b : List ReconciliationAuditEvent) :
    auditedClaims (a ++ b) = auditedClaims a ++ auditedClaims b :=
  List.filterMap_append

/-- A step of a call leaves the counters alone, or adds a row. -/
theorem EngineStep.attemptColumns (hc : s.Claims hash) {i : Nat} {p : Process} {input : EngineInput} {db' : Db}
    {phase' : Phase} (hp : s.processes[i]? = some p)
    (h : EngineStep hash s.db s.processes p.call p.phase input db' phase') :
    db'.auditEvents = s.db.auditEvents ∧
      (attemptColumns db'.records = attemptColumns s.db.records ∨
        ∃ n, n ∉ (attemptColumns s.db.records).map Prod.fst ∧
          attemptColumns db'.records = attemptColumns s.db.records ++ [(n, 0)]) := by
  obtain ⟨call, phase⟩ := p
  simp only at h
  cases h with
  | leave | lock | miss | search | insert | start | invoke | reply | refuse | abort => exact ⟨rfl, Or.inl rfl⟩
  | @commit _ r =>
    obtain ⟨⟨now, hfresh⟩, hid⟩ := hc.pending (r := r) hp rfl
    refine ⟨rfl, Or.inr ⟨r.recordId, fun hmem => ?_, ?_⟩⟩
    · rw [Operator.attemptColumns, Table.columns_keys] at hmem
      obtain ⟨x, hx, hxr⟩ := List.mem_map.mp hmem
      exact hid x hx hxr
    · have hzero : r.reconciliationAttempts = 0 := by rw [hfresh]; rfl
      rw [Db.addClaim, Operator.attemptColumns, Table.columns, List.map_append, List.map_singleton, hzero]
      rfl
  | @count now =>
    exact ⟨rfl, Or.inl (Table.columns_update (f := SettlementRecord.recordDuplicateClaim now) (fun _ => rfl) fun _ => rfl)⟩
  | finalize hok =>
    obtain ⟨_, _, _, _, _, rfl⟩ := (Db.finalize_ok hc.uniqueIds).mp hok
    exact ⟨rfl, Or.inl (Table.columns_update (f := Db.transition _ _ _ _ _) (fun _ => rfl) fun _ => rfl)⟩

theorem mem_attemptColumns {db : Db} {recordId : Nat} {row : SettlementRecord} (h : db.record recordId = some row) :
    recordId ∈ (attemptColumns db.records).map Prod.fst := by
  rw [attemptColumns, Table.columns_keys]
  exact List.mem_map.mpr ⟨row, Table.row_mem h, Table.row_key h⟩

/-- An update that takes a lease. -/
theorem attemptColumns_bump {f : SettlementRecord → SettlementRecord} {rows : List SettlementRecord} {recordId : Nat}
    (hid : ∀ r, (f r).recordId = r.recordId)
    (hcount : ∀ r, (f r).reconciliationAttempts = r.reconciliationAttempts + 1) :
    attemptColumns (Table.update (fun r => r.recordId == recordId) f rows) =
      (attemptColumns rows).map fun c => if c.1 = recordId then (c.1, c.2 + 1) else c :=
  Table.columns_bump hid hcount

/-- Any other update. -/
theorem attemptColumns_update {f : SettlementRecord → SettlementRecord} {rows : List SettlementRecord}
    {hit : SettlementRecord → Bool} (hid : ∀ r, (f r).recordId = r.recordId)
    (hcount : ∀ r, (f r).reconciliationAttempts = r.reconciliationAttempts) :
    attemptColumns (Table.update hit f rows) = attemptColumns rows :=
  Table.columns_update hid hcount

theorem workerClaims_engineLease (phase phase' : Phase) : workerClaims (engineLease phase phase') = [] := by
  unfold engineLease
  split <;> rfl

/-- An event of the engine or a reconciler counts every claim that it makes. -/
theorem countsClaims_step (hc : s.Claims hash) {e : Postgres.Event} (he : ∀ c reading, e ≠ .control c reading)
    (hs : Step hash s e s') (h : CountsClaims s) : CountsClaims s' := by
  unfold CountsClaims at h ⊢
  cases hs with
  | tick | arrive | rest => exact h
  | operatorClaims | operatorReleases | operatorReviews => exact absurd rfl (he _ _)
  | engine hp hstep =>
    obtain ⟨haudit, hcols⟩ := EngineStep.attemptColumns hc hp hstep
    simp only [workerClaims_append, workerClaims_engineLease, List.append_nil, haudit]
    rcases hcols with hsame | ⟨n, hfresh, hadd⟩
    · rw [hsame]
      exact h
    · rw [hadd]
      exact h.add hfresh
  | @workerMarks w _ _ reading lease config snapshot row m =>
    have hcols : attemptColumns (s.db.applyMark snapshot.recordId m reading).records =
        attemptColumns s.db.records := by
      rw [Db.applyMark, Db.finishStartedAttempts_records]
      exact Table.columns_update (f := Db.transition _ _ _ _ _) (fun _ => rfl) fun _ => rfl
    have haudit : (s.db.applyMark snapshot.recordId m reading).auditEvents = s.db.auditEvents := by
      rw [Db.applyMark, Db.finishStartedAttempts]
      split <;> rfl
    have hlog : workerClaims [.marked (.worker w) snapshot.recordId config.owner lease reading row.status m.status] =
        [] := rfl
    simp only [hcols, haudit, workerClaims_append, hlog, List.append_nil]
    exact h
  | @released recordId _ reading =>
    have hcols : attemptColumns (s.db.write recordId (Db.dropLease reading)).records = attemptColumns s.db.records :=
      Table.columns_update (f := Db.dropLease reading) (fun _ => rfl) fun _ => rfl
    have hlog : workerClaims [.cleared recordId] = [] := rfl
    simp only [hcols, workerClaims_append, hlog, List.append_nil]
    exact h
  | @workerClaims w recordId _ now reading config row _ _ hrow =>
    have hlog : workerClaims [.claimed (.worker w) recordId config.owner (config.leaseUntil now) reading] = [recordId] :=
      rfl
    rw [Db.write, attemptColumns_bump (f := Db.takeLease config.owner (config.leaseUntil now)) (fun _ => rfl)
      fun _ => rfl]
    refine (h.bump (mem_attemptColumns hrow)).perm ?_
    simp only [workerClaims_append, hlog, List.map_append, List.append_assoc]
    exact List.perm_append_comm.append_left _

/-- An action that returns is counted in its record exactly when it is an audited claim. -/
theorem countsClaims_action {c : Db.ControlAction} {reading : Instant} {record : SettlementRecord}
    {event : ReconciliationAuditEvent} {db' : Db} (hn : s.db.UniqueIds)
    (hok : Db.Performed s.db c reading record event db') (h : CountsClaims s) :
    CountsClaims { s with db := db', leases := s.leases ++ controlLease c reading (s.db.record c.recordId) } := by
  obtain ⟨row, hrow, hrecord, -, hevent⟩ := hok.row
  have hlog : workerClaims (controlLease c reading (s.db.record c.recordId)) = [] := by
    unfold controlLease
    split
    · rfl
    · rfl
    · rw [hrow]
      rfl
  unfold CountsClaims at h ⊢
  simp only [workerClaims_append, hlog, List.append_nil, hok.audit]
  have hcols (f : SettlementRecord → SettlementRecord) (hf : c.applied reading row = f row) :
      db'.records = Table.update (·.recordId == c.recordId) f s.db.records := by
    rw [hok.records, hrecord, hf]
    exact Table.update_const (f := f) hn hrow
  rw [auditedClaims_append]
  cases hact : c.action with
  | claim =>
    have hevent' : auditedClaims [event] = [c.recordId] := by
      rw [hevent]
      simp [auditedClaims, hact]
    rw [hevent', hcols (Db.operatorLease c.owner c.leaseUntil reading) (by rw [Db.ControlAction.applied, hact]),
      attemptColumns_bump (f := Db.operatorLease c.owner c.leaseUntil reading) (fun _ => rfl) fun _ => rfl,
      ← List.append_assoc, List.map_append]
    exact h.bump (mem_attemptColumns hrow)
  | release =>
    have hevent' : auditedClaims [event] = [] := by
      rw [hevent]
      simp [auditedClaims, hact]
    rw [hevent', hcols (Db.dropLease reading) (by rw [Db.ControlAction.applied, hact]), List.append_nil,
      attemptColumns_update (f := Db.dropLease reading) (fun _ => rfl) fun _ => rfl]
    exact h
  | manualReview =>
    have hevent' : auditedClaims [event] = [] := by
      rw [hevent]
      simp [auditedClaims, hact]
    rw [hevent', hcols (Db.reviewRow reading) (by rw [Db.ControlAction.applied, hact]), List.append_nil,
      attemptColumns_update (f := Db.reviewRow reading) (fun _ => rfl) fun _ => rfl]
    exact h

/-- Every reachable state counts its claims. -/
theorem reachable_countsClaims (h : (machine hash u sha256).Reachable s) : CountsClaims s := by
  have hstart : CountsClaims {} := Table.Tally.start
  refine h.invariant (I := CountsClaims) hstart ?_
  intro s e t hr hs hn
  have hc : s.Claims hash := reachable_claims hr
  rcases next_cases hc.uniqueIds hn with ⟨e₀, he, hn⟩ | ⟨c, reading, record, event, db', -, hok, rfl⟩ | ⟨n, rfl⟩
  · exact countsClaims_step hc he (next_step hc.uniqueIds hn) hs
  · exact countsClaims_action hc.uniqueIds (Db.Performed.of_ok hok) hs
  · exact hs

/-- A record's counter is the number of the claims of reconcilers and of the audited claims. -/
theorem CountsClaims.attempts (h : CountsClaims s) {row : SettlementRecord} (hrow : row ∈ s.db.records) :
    row.reconciliationAttempts =
      (workerClaims s.leases).count row.recordId + (auditedClaims s.db.auditEvents).count row.recordId := by
  have hcol : (row.recordId, row.reconciliationAttempts) ∈ attemptColumns s.db.records :=
    List.mem_map.mpr ⟨row, hrow, rfl⟩
  have hall := (Table.Tally.counts_all_iff h).mpr (by simp) _ hcol
  have hkeys : ((workerClaims s.leases ++ auditedClaims s.db.auditEvents).map (·, true)).map Prod.fst =
      workerClaims s.leases ++ auditedClaims s.db.auditEvents := by
    rw [List.map_map]
    exact List.map_id _
  rw [hkeys, List.count_append] at hall
  exact hall

/-- An operator's call is all or nothing, in every state that the engine, the reconcilers and the operators reach: it
returns, has done exactly what it was asked for to its record and has added one audit row, or it raises and the three
tables are as they were. Hence every claim is counted once. -/
theorem operator_action_atomic (hash : String → Int) (u : Unicode) (sha256 : String → String) (s : System)
    (h : (machine hash u sha256).Reachable s) :
    (∀ call fresh faults reading,
      (∃ c record event db', call.prepare u sha256 fresh = .ok c ∧
        Db.controlAction u sha256 fresh faults call reading s.db = (.ok (record, event), db') ∧
        Db.Performed s.db c reading record event db' ∧
        ∃ row, s.db.record c.recordId = some row ∧ c.Effect reading row record) ∨
      ∃ e db', Db.controlAction u sha256 fresh faults call reading s.db = (.error e, db') ∧
        db'.records = s.db.records ∧ db'.attempts = s.db.attempts ∧ db'.auditEvents = s.db.auditEvents) ∧
    ∀ row ∈ s.db.records, row.reconciliationAttempts =
      (workerClaims s.leases).count row.recordId + (auditedClaims s.db.auditEvents).count row.recordId := by
  refine ⟨fun call fresh faults reading => ?_, fun row hrow => (reachable_countsClaims h).attempts hrow⟩
  rcases Db.controlAction_cases (reachable_claims h).uniqueIds u sha256 fresh faults call reading with
    ⟨c, ⟨record, event⟩, db', hprepare, hok, hdone⟩ | ⟨e, n, hdone⟩
  · exact Or.inl ⟨c, record, event, db', hprepare, hdone, .of_ok hok, Db.Performed.effect (.of_ok hok)⟩
  · exact Or.inr ⟨e, _, hdone, rfl, rfl, rfl⟩

/-- An operator claims a record that a reconciler has marked `unknown`, gives it back, claims it again and asks for a
manual review; the audit row of a last claim is refused. -/
def sampleAction (action : String) : OperatorCall where
  action := action
  recordId := 1
  owner := "ops.0123456789abcdef01234567"
  leaseUntil := 300000000
  activeStaleBefore := 80000000
  reason := "stuck"
  actor := "ops"
  correlationId := "req-1"

def auditRefused : Db.Faults
  | .audit => some (.runtime "audit insert failed")
  | _ => none

def operatorEvents : List Event :=
  [.other (.arrive (sampleCall "default") false),
    .other (.engine 0 (.proceed 0)), .other (.engine 0 (.proceed 0)), .other (.engine 0 (.proceed 0)),
    .other (.engine 0 (.proceed 0)), .other (.engine 0 (.proceed 0)), .other (.engine 0 (.proceed 0)),
    .other (.engine 0 (.proceed 0)), .other (.engine 0 .crash), .other (.spawn sampleReconciler),
    .other (.tick 121000000), .other (.reconcilerClaim 0 1 .settleInProgress 121000000 121000000),
    .other (.reconcilerReply 0 (.returned { status := .pending }) 121000000), .other (.tick 200000000),
    .action (sampleAction "reconciliation_claim") .sample (fun _ => none) 200000000,
    .action (sampleAction "reconciliation_release") .sample (fun _ => none) 200000000,
    .action (sampleAction "reconciliation_claim") .sample (fun _ => none) 200000000,
    .action (sampleAction "reconciliation_manual_review") .sample (fun _ => none) 200000000,
    .other (.tick 400000000), .action (sampleAction "reconciliation_claim") .sample auditRefused 400000000]

theorem operator_action_atomic_two_claims :
    ∃ s, (machine (fun _ => 0) .ascii fun _ => "").Reaches operatorEvents s ∧ workerClaims s.leases = [1] ∧
      s.db.auditEvents.map (·.action) = [.claim, .release, .claim, .manualReview] ∧
      auditedClaims s.db.auditEvents = [1, 1] ∧
      (∃ e db', Db.controlAction .ascii (fun _ => "") .sample auditRefused (sampleAction "reconciliation_claim")
          400000000 s.db = (.error e, db') ∧
        db'.records = s.db.records ∧ db'.attempts = s.db.attempts ∧ db'.auditEvents = s.db.auditEvents) ∧
      ∀ row ∈ s.db.records, row.reconciliationAttempts =
        (workerClaims s.leases).count row.recordId + (auditedClaims s.db.auditEvents).count row.recordId := by
  have hrun : ((machine (fun _ => 0) .ascii fun _ => "").run {} operatorEvents).map (fun s =>
      (workerClaims s.leases, s.db.auditEvents.map (·.action), auditedClaims s.db.auditEvents,
        (Db.controlAction .ascii (fun _ => "") .sample auditRefused (sampleAction "reconciliation_claim") 400000000
          s.db).1.isOk)) =
      some ([1], [.claim, .release, .claim, .manualReview], [1, 1], false) := by decide +kernel
  obtain ⟨s, hs, hview⟩ := Option.map_eq_some_iff.mp hrun
  simp only [Prod.mk.injEq] at hview
  obtain ⟨hworker, hactions, haudited, hraised⟩ := hview
  obtain ⟨hcalls, hcount⟩ := operator_action_atomic _ .ascii _ s ⟨operatorEvents, hs⟩
  refine ⟨s, hs, hworker, hactions, haudited, ?_, hcount⟩
  rcases hcalls (sampleAction "reconciliation_claim") .sample auditRefused 400000000 with
    ⟨_, _, _, _, -, hdone, -⟩ | hraise
  · rw [hdone] at hraised
    cases hraised
  · exact hraise

end Operator

end Postgres

end HostedFacilitator
