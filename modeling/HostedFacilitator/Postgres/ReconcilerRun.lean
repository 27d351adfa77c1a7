import Mathlib.Data.List.Sort
import HostedFacilitator.Postgres.StatusMachine
import HostedFacilitator.Reconciliation.Run

/-!
# Runs of the reconciler on Postgres

`run_once` on the tables of `Db`. Between two statements of a run time passes and others write (`Interlude`), the
providers answer whatever they like. A run reads its clock once: all its leases end at the same time
(`claim_result`), while the store compares them with the time of the mark.

* `leases_fresh_iff`: the leases of a run have their full length exactly when every claim is made at the time of the run's
  clock reading;
* `request_accepted_iff`: in any series of runs, what the reconciler asks of the store for an untouched record under a live
  lease is refused exactly when a submitted record is to be marked as failed.
-/

namespace HostedFacilitator.Postgres

open Reconciler Transaction

/-! ## The store around a run -/

/-- What happens between two statements of a run: others change the tables, and time passes. -/
structure Interlude where
  change : Db → Db := id
  delay : Nat := 0

instance (db : Db) : Decidable db.UniqueIds := inferInstanceAs (Decidable (List.Nodup _))

/-- The tables with their primary key, the time, and what is still to come. -/
structure Around where
  db : Db
  unique : db.UniqueIds
  clock : Instant
  interludes : List Interlude := []
  replies : List (Except PyErr ReconciliationOutcome) := []

namespace Around

/-- A write; one that breaks the primary key does not happen. -/
def put (s : Around) (db : Db) : Around := if h : db.UniqueIds then { s with db := db, unique := h } else s

/-- The next interlude. -/
def pass (s : Around) : Around :=
  match s.interludes with
  | [] => s
  | i :: rest => { s.put (i.change s.db) with clock := s.clock + i.delay, interludes := rest }

end Around

/-- A statement or short transaction of the store, with its reading of the clock. -/
def statement {α : Type} (f : Db → Instant → Except PyErr (α × Db)) : Body Around PyErr α := do
  let s ← get
  match f s.db s.clock with
  | .ok (a, db') => do
    set (s.put db').pass
    pure a
  | .error e => do
    set s.pass
    throw e

/-- `list_reconciliation_candidates`: `ORDER BY updated_at ASC, id ASC LIMIT ..`. -/
def Db.listReconciliationCandidates (db : Db) (statuses : List SettlementStatus) (staleBefore : Instant) (limit : Nat)
    (now : Instant) : List SettlementRecord :=
  let candidates := db.records.filter fun r =>
    statuses.contains r.status && decide (r.updatedAt ≤ staleBefore) && leaseFree now r
  (candidates.insertionSort fun r r' =>
    r.updatedAt < r'.updatedAt ∨ r.updatedAt = r'.updatedAt ∧ r.recordId ≤ r'.recordId).take limit

/-- The next provider answers. -/
def nextReply : Body Around PyErr ReconciliationOutcome := do
  let s ← get
  match s.replies with
  | [] => do
    set s.pass
    throw (.other "TimeoutError" "provider_timeout")
  | reply :: rest => do
    set { s with replies := rest }.pass
    attempt reply

/-- The Postgres store, with some providers registered. -/
def surroundings (registered : String → Bool) : Surroundings Around where
  clock := Around.clock
  listCandidates := fun status staleBefore limit => statement fun db now =>
    .ok ((db.listReconciliationCandidates [status] staleBefore limit now).map fun r => ⟨some r.recordId, r.status⟩, db)
  claimRecord := fun recordId owner leaseUntil eligible staleBefore => statement fun db now =>
    db.claimReconciliationRecord recordId owner leaseUntil eligible (some staleBefore) now
  registered := registered
  reconcile := fun _ => nextReply
  mark := fun record m owner => statement fun db now =>
    (db.updateReconciliationRecord record m owner now).map fun db' => (⟨⟩, db')

section Statements

variable {registered : String → Bool} {s : Around} {rec : HostedSettlementReconciler}

theorem statement_result {α : Type} (f : Db → Instant → Except PyErr (α × Db)) (s : Around) :
    (exec (statement f) s).1 = (f s.db s.clock).map Prod.fst := by
  rw [statement, exec_bind, exec_get]
  simp only
  cases f s.db s.clock with
  | ok result => rfl
  | error e => rfl

/-- The scan lists records of the status it asks for. -/
theorem listed_status {status : SettlementStatus} {staleBefore : Instant} {limit : Nat} {listed : List Candidate}
    (h : (exec ((surroundings registered).listCandidates status staleBefore limit) s).1 = .ok listed) {c : Candidate}
    (hc : c ∈ listed) : c.status = status := by
  simp only [surroundings, statement_result, Except.map, Except.ok.injEq] at h
  subst h
  obtain ⟨r, hr, rfl⟩ := List.mem_map.mp hc
  have hr' := (List.mem_insertionSort _).mp (List.mem_of_mem_take hr)
  have hguard := (List.mem_filter.mp hr').2
  simp only [Bool.and_eq_true, List.contains_iff_mem, List.mem_singleton] at hguard
  exact hguard.1.1

/-- What a claim returns: the row with its lease. -/
theorem claim_result {recordId : Nat} {owner : String} {leaseUntil staleBefore : Instant} {status : SettlementStatus}
    {r : SettlementRecord}
    (h : (exec ((surroundings registered).claimRecord recordId owner leaseUntil [status] staleBefore) s).1 =
      .ok (some r)) :
    r.recordId = recordId ∧ r.status = status ∧ r.reconciliationOwner = some owner ∧
      r.reconciliationLeaseUntil = some leaseUntil := by
  simp only [surroundings, statement_result] at h
  cases hc : s.db.claimReconciliationRecord recordId owner leaseUntil [status] (some staleBefore) s.clock with
  | error e => rw [hc] at h; cases h
  | ok result =>
    obtain ⟨claimed, db'⟩ := result
    rw [hc] at h
    cases h
    rcases Db.claim_ok s.unique hc with ⟨hnone, -⟩ | ⟨row, hrow, hst, -, hr, -⟩
    · cases hnone
    · cases hr
      have hid : row.recordId = recordId := Table.row_key hrow
      exact ⟨hid, hst, rfl, rfl⟩

/-- A mark commits exactly when the row that carries the lease is in an expected status and the lease is live. -/
theorem update_ok_iff {db : Db} (hn : db.UniqueIds) {r : SettlementRecord} (m : Db.Mark) {owner : String}
    {lease : Instant} (now : Instant) (hne : owner ≠ "") (hrow : db.record r.recordId = some r)
    (howner : r.reconciliationOwner = some owner) (hlease : r.reconciliationLeaseUntil = some lease) :
    (∃ db', db.updateReconciliationRecord r m owner now = .ok db') ↔ r.status ∈ m.expected ∧ now < lease := by
  constructor
  · rintro ⟨db', h⟩
    obtain ⟨lease', row, hl, hr, hs, -, -, ht, -⟩ := Db.update_ok hn h
    rw [hrow] at hr
    cases hr
    rw [hlease] at hl
    cases hl
    exact ⟨hs, ht⟩
  · rintro ⟨hs, ht⟩
    have hany : db.records.any (Db.leasedTo r.recordId m.expected owner lease now) = true := by
      rw [List.any_eq_true]
      refine ⟨r, Table.row_mem hrow, ?_⟩
      simp [Db.leasedTo, hs, howner, hlease, ht]
    simp only [Db.updateReconciliationRecord, hne, if_false, hlease, hany, if_true]
    exact ⟨_, rfl⟩

/-- The row after a mark that commits. -/
theorem update_record {db db' : Db} (hn : db.UniqueIds) {r : SettlementRecord} {m : Db.Mark} {owner : String}
    {now : Instant} (hrow : db.record r.recordId = some r)
    (h : db.updateReconciliationRecord r m owner now = .ok db') :
    db'.record r.recordId = some (Db.transition m.status m.transaction m.payer m.errorReason now r) := by
  obtain ⟨lease, row, -, -, -, -, -, -, rfl⟩ := Db.update_ok hn h
  rw [Db.record_applyMark]
  exact Db.record_write_self (fun _ => rfl) hrow

variable (registered rec) in
/-- The scan of the Postgres store returns. -/
theorem scan_returns (limit : Int) (now : Instant) (run : Run Around) : ∃ candidates scanned,
    exec (scanCandidates (surroundings registered) rec limit now) run = (.ok candidates, scanned) := by
  have hlist : ∀ (status : SettlementStatus) (staleBefore : Instant) (n : Nat) (run : Run Around), ∃ listed run',
      exec (call ((surroundings registered).listCandidates status staleBefore n) fun _ _ => []) run =
        (.ok listed, run') := by
    intro status staleBefore n run
    rw [exec_listing]
    simp only [surroundings, statement_result]
    exact ⟨_, _, rfl⟩
  unfold scanCandidates
  split
  · exact ⟨_, _, rfl⟩
  · obtain ⟨inProgress, run₁, h₁⟩ := hlist .settleInProgress (now - rec.staleInProgressAfter) limit.toNat run
    obtain ⟨submitted, run₂, h₂⟩ := hlist .submitted (now - rec.staleSubmittedAfter) limit.toNat run₁
    obtain ⟨unknown, run₃, h₃⟩ := hlist .unknown (now - rec.staleUnknownAfter) limit.toNat run₂
    refine ⟨_, run₃, bind_eq_ok.mpr ⟨_, _, h₁, bind_eq_ok.mpr ⟨_, _, h₂, bind_eq_ok.mpr ⟨_, _, h₃, rfl⟩⟩⟩⟩

/-- What a run claims carries a lease that ends `lease_seconds` after the run's clock reading. -/
theorem claimed_in_run {limit : Int} {c : Candidate} {before : Around} {r : SettlementRecord}
    (h : Call.claim c before (.ok (some r)) ∈
      (exec (runOnce (surroundings registered) rec limit) { around := s }).2.history) :
    r.reconciliationOwner = some rec.owner ∧ r.reconciliationLeaseUntil = some (rec.leaseUntil s.clock) := by
  obtain ⟨candidates, scanned, hscan⟩ := scan_returns registered rec limit s.clock { around := s }
  generalize hresult : (Except.ok (some r) : Except PyErr (Option SettlementRecord)) = result at h
  cases genuine_run hscan h with
  | claim hc hid before =>
    obtain ⟨-, -, howner, hlease⟩ := claim_result hresult.symm
    exact ⟨howner, hlease⟩

end Statements

/-! ## Leases of full length -/

/-- A lease taken at `t` lasts for `lease_seconds`, and until then the store accepts what its holder asks for, as long as
nobody has touched the record and the status is an expected one. -/
structure FreshLease (rec : HostedSettlementReconciler) (t : Instant) (r : SettlementRecord) : Prop where
  lasts : ∃ lease, r.reconciliationLeaseUntil = some lease ∧ t + rec.leaseSeconds * 1000000 ≤ lease
  accepted : ∀ (db : Db) (m : Db.Mark) (u : Instant), db.UniqueIds → t ≤ u → u < t + rec.leaseSeconds * 1000000 →
    db.record r.recordId = some r → r.status ∈ m.expected →
    ∃ db', db.updateReconciliationRecord r m rec.owner u = .ok db'

theorem freshLease_iff {rec : HostedSettlementReconciler} {t now : Instant} {r : SettlementRecord}
    (howner : r.reconciliationOwner = some rec.owner) (hlease : r.reconciliationLeaseUntil = some (rec.leaseUntil now)) :
    FreshLease rec t r ↔ t ≤ now := by
  constructor
  · rintro ⟨⟨lease, hl, hle⟩, -⟩
    rw [hlease] at hl
    cases hl
    exact Int.le_of_add_le_add_right hle
  · intro ht
    have hle : t + rec.leaseSeconds * 1000000 ≤ rec.leaseUntil now := Int.add_le_add_right ht _
    refine ⟨⟨_, hlease, hle⟩, fun db m u hn _ hu hrow hs => ?_⟩
    exact (update_ok_iff hn m u rec.owner_ne hrow howner hlease).mpr ⟨hs, hu.trans_le hle⟩

/-- **Lease freshness.** The claims of a run give leases of full length exactly when each of them is made before time
passes on the clock that the run has read. -/
theorem leases_fresh_iff (registered : String → Bool) (rec : HostedSettlementReconciler) (limit : Int) (s : Around) :
    (∀ c before r, Call.claim c before (.ok (some r)) ∈
        (exec (runOnce (surroundings registered) rec limit) { around := s }).2.history → FreshLease rec before.clock r) ↔
      ∀ c before r, Call.claim c before (.ok (some r)) ∈
        (exec (runOnce (surroundings registered) rec limit) { around := s }).2.history → before.clock ≤ s.clock := by
  refine forall_congr' fun c => forall_congr' fun before => forall_congr' fun r => ?_
  constructor
  · intro h hcall
    obtain ⟨howner, hlease⟩ := claimed_in_run hcall
    exact (freshLease_iff howner hlease).mp (h hcall)
  · intro h hcall
    obtain ⟨howner, hlease⟩ := claimed_in_run hcall
    exact (freshLease_iff howner hlease).mpr (h hcall)

/-- A record that nobody has touched since time 0. -/
def staleRecord (recordId : Nat) (status : SettlementStatus) : SettlementRecord where
  recordId := recordId
  sellerAccountId := "seller"
  fingerprint := toString recordId
  provider := "circle_gateway"
  scheme := some "exact"
  network := some "eip155:5042002"
  status := status
  transaction := some "transfer"
  createdAt := 0
  updatedAt := 0

/-- Two stale records at ten minutes; the provider takes 61 seconds over the first and no time over the second. -/
def slowProvider : Around where
  db := { records := [staleRecord 1 .unknown, staleRecord 2 .unknown] }
  unique := by decide
  clock := 600000000
  interludes := [{}, {}, {}, {}, { delay := 61000000 }]
  replies := [.ok { status := .pending }, .ok { status := .settled }]

/-- The time of a claim, and the owner and the end of the lease it gave. -/
def leaseView : Call Around → Option (Instant × Option String × Option Instant)
  | .claim _ before (.ok (some r)) => some (before.clock, r.reconciliationOwner, r.reconciliationLeaseUntil)
  | _ => none

theorem of_leaseView {calls : List (Call Around)} {t : Instant} {owner : Option String} {lease : Option Instant}
    (h : (t, owner, lease) ∈ calls.filterMap leaseView) :
    ∃ c before r, Call.claim c before (.ok (some r)) ∈ calls ∧ before.clock = t ∧ r.reconciliationLeaseUntil = lease := by
  obtain ⟨call, hcall, hview⟩ := List.mem_filterMap.mp h
  unfold leaseView at hview
  split at hview
  · rename_i c before r
    cases hview
    exact ⟨c, before, r, hcall, rfl, rfl⟩
  · cases hview

/-- The second claim of the run is made a second after its lease has run out, and the outcome that is there at once is
refused. -/
theorem second_lease_expired :
    (∃ c before r, Call.claim c before (.ok (some r)) ∈
        (exec (runOnce (surroundings fun _ => true) nightly 2) { around := slowProvider }).2.history ∧
      before.clock = 661000000 ∧ r.reconciliationLeaseUntil = some 660000000 ∧ ¬ FreshLease nightly before.clock r) ∧
    (exec (runOnce (surroundings fun _ => true) nightly 2) { around := slowProvider }).2.stats =
      { scanned := 2, claimed := 2, pending := 1, errors := 1 } := by
  refine ⟨?_, by decide +kernel⟩
  have hview : (661000000, some "nightly", some 660000000) ∈ ((exec (runOnce (surroundings fun _ => true) nightly 2)
      { around := slowProvider }).2.history.filterMap leaseView) := by decide +kernel
  obtain ⟨c, before, r, hcall, hclock, hlease⟩ := of_leaseView hview
  refine ⟨c, before, r, hcall, hclock, hlease, fun hfresh => ?_⟩
  obtain ⟨lease, hl, hle⟩ := hfresh.lasts
  rw [hlease] at hl
  cases hl
  rw [hclock] at hle
  exact absurd hle (by decide)

/-! ## Guards of the reconciler and of the store -/

section Guards

variable {registered : String → Bool}

/-- Runs of reconcilers, one after the other; their calls, oldest first. -/
def runs (registered : String → Bool) : List (HostedSettlementReconciler × Int) → Around → List (Call Around)
  | [], _ => []
  | (rec, limit) :: series, s =>
    let run := (exec (runOnce (surroundings registered) rec limit) { around := s }).2
    run.history ++ runs registered series run.around

/-- The outcome that the store has no transition for. -/
def FailsSubmitted (record : SettlementRecord) (reply : ProviderReply) : Prop :=
  record.status = .submitted ∧ ∃ outcome, reply = .returned outcome ∧ outcome.status = .failedFinal

/-- The reconciler's branches and the store's expected statuses: they disagree about a submitted record that is to be
failed, and about nothing else. -/
theorem expected_iff {rec : HostedSettlementReconciler} {record : SettlementRecord} {now : Instant}
    {reply : ProviderReply} {m : Db.Mark}
    (hs : record.status ∈ [SettlementStatus.settleInProgress, .submitted, .unknown])
    (h : rec.handleClaimed record now reply = .mark m) :
    record.status ∈ m.expected ↔ ¬ FailsSubmitted record reply := by
  -- neither of the two helpers marks a submitted record
  have hmanual : ∀ {t : Instant} {e : Option String}, rec.markManualOrPending record t e = .mark m →
      record.status ∈ m.expected ∧ record.status ≠ .submitted := by
    intro t e hm
    simp only [HostedSettlementReconciler.markManualOrPending, HostedSettlementReconciler.markUnknown] at hm
    split at hm
    · rename_i hp
      cases hm
      simp [hp, Db.markReconciledUnknown]
    · split at hm
      · rename_i hu
        cases hm
        simp [hu.1, Db.markManualReview]
      · cases hm
  have hhelper : ∀ {t : Instant} {e : Option String}, rec.markManualOrPending record t e = .mark m →
      (record.status ∈ m.expected ↔ ¬ FailsSubmitted record reply) :=
    fun hm => iff_of_true (hmanual hm).1 fun hf => (hmanual hm).2 hf.1
  have hunknown : ∀ {e : Option String}, record.status = .settleInProgress →
      HostedSettlementReconciler.markUnknown record e = .mark m →
      (record.status ∈ m.expected ↔ ¬ FailsSubmitted record reply) := by
    intro e hp hm
    cases hm
    refine iff_of_true (by simp [hp, Db.markReconciledUnknown]) fun hf => ?_
    cases hp.symm.trans hf.1
  cases reply with
  | notRegistered => exact hhelper h
  | raised =>
    simp only [HostedSettlementReconciler.handleClaimed] at h
    split at h
    · rename_i hp
      exact hunknown hp h
    · cases h
  | returned outcome =>
    simp only [HostedSettlementReconciler.handleClaimed, HostedSettlementReconciler.applyOutcome] at h
    split at h
    · rename_i ho
      split at h
      · cases h
        refine iff_of_true (by simpa [Db.markReconciledSettled, or_comm, or_left_comm] using hs) ?_
        rintro ⟨-, o, ⟨⟩, ho'⟩
        rw [ho] at ho'
        cases ho'
      · cases h
    · rename_i ho
      split at h
      · rename_i hp
        exact hunknown hp h
      · rename_i hp
        cases h
        simp only [List.mem_cons, List.not_mem_nil, or_false] at hs
        rcases hs with hs | hs | hs
        · exact absurd hs hp
        · exact iff_of_false (by simp [hs, Db.markReconciledFailed]) (not_not.mpr ⟨hs, outcome, rfl, ho⟩)
        · refine iff_of_true (by simp [hs, Db.markReconciledFailed]) fun hf => ?_
          cases hs.symm.trans hf.1
    · rename_i ho
      split at h
      · rename_i hp
        cases h
        refine iff_of_true (by simpa [Db.markReconciledUnknown] using hp) ?_
        rintro ⟨-, o, ⟨⟩, ho'⟩
        rw [ho] at ho'
        cases ho'
      · exact hhelper h
    · exact hhelper h
    · exact hhelper h

/-- The store does what it was asked for: the record moves on and is no longer claimed. -/
def Accepted (record : SettlementRecord) (m : Db.Mark) (before : Around) (result : Except PyErr PUnit) : Prop :=
  result = .ok ⟨⟩ ∧ ∃ owner db', record.reconciliationOwner = some owner ∧
    before.db.updateReconciliationRecord record m owner before.clock = .ok db' ∧
    db'.record record.recordId =
      some (Db.transition m.status m.transaction m.payer m.errorReason before.clock record)

/-- The marks of one run. -/
theorem accepted_in_run_iff {rec : HostedSettlementReconciler} {limit : Int} {s before : Around} {reply : ProviderReply}
    {record : SettlementRecord} {m : Db.Mark} {result : Except PyErr PUnit}
    (hcall : Call.mark reply record m before result ∈
      (exec (runOnce (surroundings registered) rec limit) { around := s }).2.history)
    (untouched : before.db.record record.recordId = some record)
    (live : ∃ lease, record.reconciliationLeaseUntil = some lease ∧ before.clock < lease) :
    Accepted record m before result ↔ ¬ FailsSubmitted record reply := by
  obtain ⟨candidates, scanned, hscan⟩ := scan_returns registered rec limit s.clock { around := s }
  obtain ⟨lease, hlease, hlive⟩ := live
  cases genuine_run hscan hcall with
  | mark hc hid hclaimed hm before =>
    obtain ⟨-, hstatus, howner, -⟩ := claim_result hclaimed
    obtain ⟨status, staleBefore, s', listed, hscanned, hlisted, hmem⟩ := listed_of_scanned hscan hc
    rw [← expected_iff (by rw [hstatus, listed_status hlisted hmem]; exact hscanned) hm]
    have hiff := update_ok_iff before.unique m before.clock rec.owner_ne untouched howner hlease
    have hresult : (exec ((surroundings registered).mark record m rec.owner) before).1 =
        (before.db.updateReconciliationRecord record m rec.owner before.clock).map fun _ => PUnit.unit := by
      simp only [surroundings, statement_result]
      cases before.db.updateReconciliationRecord record m rec.owner before.clock <;> rfl
    rw [Accepted, hresult]
    constructor
    · rintro ⟨-, owner, db', ho, hup, -⟩
      rw [howner] at ho
      cases ho
      exact (hiff.mp ⟨db', hup⟩).1
    · intro hs
      obtain ⟨db', hup⟩ := hiff.mpr ⟨hs, hlive⟩
      exact ⟨by rw [hup]; rfl, rec.owner, db', howner, hup, update_record before.unique untouched hup⟩

/-- **The guards agree but for one pair.** In every series of runs, what the reconciler asks the store for under a live
lease, for a record that nobody has touched, is done exactly when it does not ask to fail a submitted record. -/
theorem request_accepted_iff {series : List (HostedSettlementReconciler × Int)} {s before : Around}
    {reply : ProviderReply} {record : SettlementRecord} {m : Db.Mark} {result : Except PyErr PUnit}
    (hcall : Call.mark reply record m before result ∈ runs registered series s)
    (untouched : before.db.record record.recordId = some record)
    (live : ∃ lease, record.reconciliationLeaseUntil = some lease ∧ before.clock < lease) :
    Accepted record m before result ↔ ¬ FailsSubmitted record reply := by
  induction series generalizing s with
  | nil => cases hcall
  | cons head series ih =>
    obtain ⟨rec, limit⟩ := head
    rcases List.mem_append.mp hcall with hrun | hrest
    · exact accepted_in_run_iff hrun untouched live
    · exact ih hrest

/-- Equality of two rows without stored requirements. -/
def sameRow (a b : SettlementRecord) : Bool :=
  decide (a.recordId = b.recordId ∧ a.sellerAccountId = b.sellerAccountId ∧ a.fingerprint = b.fingerprint ∧
    a.provider = b.provider ∧ a.scheme = b.scheme ∧ a.network = b.network ∧ a.status = b.status ∧
    a.traceId = b.traceId ∧ a.transaction = b.transaction ∧ a.payer = b.payer ∧ a.errorReason = b.errorReason ∧
    a.createdAt = b.createdAt ∧ a.updatedAt = b.updatedAt ∧ a.reconciliationOwner = b.reconciliationOwner ∧
    a.reconciliationLeaseUntil = b.reconciliationLeaseUntil ∧ a.reconciliationAttempts = b.reconciliationAttempts ∧
    a.paymentProfileId = b.paymentProfileId ∧ a.duplicateClaims = b.duplicateClaims ∧
    a.lastDuplicateAt = b.lastDuplicateAt) && a.rawRequirements.isEmpty && b.rawRequirements.isEmpty

theorem eq_of_sameRow {a b : SettlementRecord} (h : sameRow a b = true) : a = b := by
  cases a
  cases b
  simp only [sameRow, Bool.and_eq_true, decide_eq_true_eq, List.isEmpty_iff] at h
  simp [h]

/-- What a mark of a sample run is about: the record's status, the outcome, whether the row is untouched and its lease
live, and whether the store did it. -/
def markView : Call Around → Option (SettlementStatus × ReconciliationStatus × Bool × Bool × Bool)
  | .mark (.returned o) record _ before result =>
    some (record.status, o.status, (before.db.record record.recordId).any (sameRow record),
      record.reconciliationLeaseUntil.any (before.clock < ·), result.isOk)
  | _ => none

theorem of_markView {calls : List (Call Around)} {status : SettlementStatus} {outcome : ReconciliationStatus} {ok : Bool}
    (h : (status, outcome, true, true, ok) ∈ calls.filterMap markView) :
    ∃ o record m before result, Call.mark (.returned o) record m before result ∈ calls ∧ record.status = status ∧
      o.status = outcome ∧ before.db.record record.recordId = some record ∧
      (∃ lease, record.reconciliationLeaseUntil = some lease ∧ before.clock < lease) ∧ result.isOk = ok := by
  obtain ⟨call, hcall, hview⟩ := List.mem_filterMap.mp h
  unfold markView at hview
  split at hview
  · rename_i o record m before result
    simp only [Option.some.injEq, Prod.mk.injEq] at hview
    obtain ⟨hs, ho, hrow, hlive, hok⟩ := hview
    refine ⟨o, record, m, before, result, hcall, hs, ho, ?_, ?_, hok⟩
    · obtain ⟨row, hr, hsame⟩ := (Option.any_eq_true _ _).mp hrow
      rw [hr, eq_of_sameRow hsame]
    · obtain ⟨lease, hl, hlt⟩ := (Option.any_eq_true _ _).mp hlive
      exact ⟨lease, hl, of_decide_eq_true hlt⟩
  · cases hview

/-- A submitted record whose provider answers these outcomes, run after run; a minute and a second passes after each. -/
def answers (outcomes : List ReconciliationStatus) : Around where
  db := { records := [staleRecord 1 .submitted] }
  unique := by decide
  clock := 600000000
  interludes := (outcomes.map fun _ => [{}, {}, {}, {}, {}, { delay := 61000000 }]).flatten
  replies := outcomes.map fun status => .ok { status := status }

theorem unknown_outcome_accepted : ∃ o record m before result,
    Call.mark (.returned o) record m before result ∈ runs (fun _ => true) [(nightly, 1)] (answers [.unknown]) ∧
      Accepted record m before result := by
  have hview : (.submitted, ReconciliationStatus.unknown, true, true, true) ∈
      (runs (fun _ => true) [(nightly, 1)] (answers [.unknown])).filterMap markView := by decide +kernel
  obtain ⟨o, record, m, before, result, hcall, -, ho, hrow, hlive, -⟩ := of_markView hview
  refine ⟨o, record, m, before, result, hcall, (request_accepted_iff hcall hrow hlive).mpr ?_⟩
  rintro ⟨-, o', ⟨⟩, ho'⟩
  rw [ho] at ho'
  cases ho'

/-- The provider keeps answering that a submitted transfer has failed: every run claims the record and is refused. -/
theorem submitted_failure_refused :
    (∃ o record m before result,
      Call.mark (.returned o) record m before result ∈
        runs (fun _ => true) [(nightly, 1), (nightly, 1)] (answers [.failedFinal, .failedFinal]) ∧
      before.db.record record.recordId = some record ∧
      (∃ lease, record.reconciliationLeaseUntil = some lease ∧ before.clock < lease) ∧
      ¬ Accepted record m before result) ∧
    (runs (fun _ => true) [(nightly, 1), (nightly, 1)] (answers [.failedFinal, .failedFinal])).filterMap markView =
      [(.submitted, ReconciliationStatus.failedFinal, true, true, false),
        (.submitted, ReconciliationStatus.failedFinal, true, true, false)] := by
  have hview : (runs (fun _ => true) [(nightly, 1), (nightly, 1)] (answers [.failedFinal, .failedFinal])).filterMap
      markView =
      [(.submitted, ReconciliationStatus.failedFinal, true, true, false),
        (.submitted, ReconciliationStatus.failedFinal, true, true, false)] := by
    decide +kernel
  refine ⟨?_, hview⟩
  obtain ⟨o, record, m, before, result, hcall, -, -, hrow, hlive, hok⟩ := of_markView (hview ▸ List.mem_cons_self)
  refine ⟨o, record, m, before, result, hcall, hrow, hlive, fun hacc => ?_⟩
  rw [hacc.1] at hok
  cases hok

end Guards

end HostedFacilitator.Postgres
