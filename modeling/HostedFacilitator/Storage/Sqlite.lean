import HostedFacilitator.Storage.Lawful

/-!
# `SqliteSettlementStore`

The two tables with their `AUTOINCREMENT` sequences, and the operations the engine uses. A claim is one
`BEGIN IMMEDIATE` transaction, every other operation is one statement. Updates go by the record's id and check
nothing else.
-/

namespace HostedFacilitator.Sqlite

structure Db where
  records : List SettlementRecord := []
  attempts : List SettlementAttemptRecord := []
  nextRecordId : Nat := 1
  nextAttemptId : Nat := 1

namespace Db

variable (db : Db)

/-- `_select_record`, which is also `get`. -/
def selectRecord (k : ProfileKey) : Option SettlementRecord := Table.row SettlementRecord.profileKey k db.records

/-- `_select_provider_fingerprint_record`, which is also `get_by_provider_fingerprint`. -/
def selectProviderFingerprintRecord (k : ReplayKey) : Option SettlementRecord :=
  (db.records.filter fun r => r.replayKey.coalesce == k.coalesce).head?

/-- `get_record_by_id`. -/
def getRecordById (recordId : Nat) : Option SettlementRecord :=
  Table.row SettlementRecord.recordId recordId db.records

/-- `_increment_duplicate_claim`. -/
def incrementDuplicateClaim (recordId : Nat) (now : Instant) : Db :=
  { db with
    records := Table.update (fun r => r.recordId == recordId) (SettlementRecord.recordDuplicateClaim now) db.records }

/-- A claim that has found a row: it is counted and read again. -/
def claimExisting (r : SettlementRecord) (now : Instant) :
    Except PyErr ((SettlementRecord × SettlementClaim) × Db) :=
  let db' := db.incrementDuplicateClaim r.recordId now
  match db'.getRecordById r.recordId with
  | none => .error (.runtime "SQLite duplicate settlement record disappeared")
  | some record => .ok ((record, claimForStatus record.status), db')

/-- `claim_for_settlement`. -/
def claimForSettlement (c : ClaimRequest) (now : Instant) : Except PyErr ((SettlementRecord × SettlementClaim) × Db) :=
  match db.selectRecord c.profileKey with
  | some existing => db.claimExisting existing now
  | none =>
    match db.selectProviderFingerprintRecord c.replayKey with
    | some replay => db.claimExisting replay now
    | none =>
      let record := c.freshRecord db.nextRecordId now
      .ok ((record, .claimed), { db with records := db.records ++ [record], nextRecordId := db.nextRecordId + 1 })

/-- `start_settle_attempt`. -/
def startSettleAttempt (r : SettlementRecord) (traceId : String) (now : Instant) : Nat × Db :=
  (db.nextAttemptId,
    { db with
      attempts := db.attempts ++ [SettlementAttemptRecord.started db.nextAttemptId r.recordId traceId now]
      nextAttemptId := db.nextAttemptId + 1 })

/-- `finish_settle_attempt`. -/
def finishSettleAttempt (attemptId : Nat) (status : SettlementAttemptStatus) (transaction errorReason : Option String)
    (now : Instant) : Db :=
  { db with
    attempts := Table.update (fun a => a.attemptId == attemptId)
      (SettlementAttemptRecord.finished status transaction errorReason now) db.attempts }

/-- `_update_record`. -/
def updateRecord (r : SettlementRecord) (status : SettlementStatus) (transaction payer errorReason : Option String)
    (now : Instant) : Db :=
  { db with
    records := Table.update (fun x => x.recordId == r.recordId)
      (fun x => { x with
        status := status
        transaction := transaction
        payer := payer
        errorReason := errorReason
        updatedAt := now }) db.records }

/-- `mark_settled`. -/
def markSettled (r : SettlementRecord) (transaction payer : Option String) (now : Instant) : Db :=
  db.updateRecord r .settled transaction payer none now

/-- `mark_submitted`. -/
def markSubmitted (r : SettlementRecord) (transaction payer : Option String) (now : Instant) : Db :=
  db.updateRecord r .submitted transaction payer none now

/-- `mark_settle_failed`: transaction and payer are those of the record the engine holds. -/
def markSettleFailed (r : SettlementRecord) (errorReason : Option String) (now : Instant) : Db :=
  db.updateRecord r .settleFailed r.transaction r.payer errorReason now

/-- `mark_unknown`. -/
def markUnknown (r : SettlementRecord) (errorReason : Option String) (now : Instant) : Db :=
  db.updateRecord r .unknown r.transaction r.payer errorReason now

end Db

def steps : SeparateSteps Db where
  claimForSettlement := Db.claimForSettlement
  markSettled := Db.markSettled
  markSubmitted := Db.markSubmitted
  markSettleFailed := Db.markSettleFailed
  markUnknown := Db.markUnknown
  finishSettleAttempt := Db.finishSettleAttempt

/-- The store as the engine uses it; it hands out copies of its rows. -/
def store : SettlementStore Db where
  init := {}
  get := Db.selectRecord
  getByProviderFingerprint := Db.selectProviderFingerprintRecord
  startSettleAttempt := Db.startSettleAttempt
  held := fun _ r => r
  steps := .separate steps

/-! ## The laws -/

/-- The primary keys, and that the sequences are ahead of them. -/
structure Db.Wf (db : Db) : Prop where
  ids : (db.records.map SettlementRecord.recordId).Nodup
  bound : ∀ r ∈ db.records, r.recordId < db.nextRecordId
  attemptIds : (db.attempts.map SettlementAttemptRecord.attemptId).Nodup
  attemptBound : ∀ a ∈ db.attempts, a.attemptId < db.nextAttemptId

namespace Db

variable {db : Db}

/-- Changing rows in place keeps the keys. -/
theorem Wf.update (h : db.Wf) {p : SettlementRecord → Bool} {f : SettlementRecord → SettlementRecord}
    (hf : ∀ r, (f r).recordId = r.recordId) : Wf { db with records := Table.update p f db.records } := by
  refine ⟨?_, ?_, h.attemptIds, h.attemptBound⟩
  · show ((Table.update p f db.records).map SettlementRecord.recordId).Nodup
    rw [Table.map_update hf]
    exact h.ids
  · intro r hr
    obtain ⟨x, hx, rfl⟩ := Table.mem_update.mp hr
    have hid : (if p x then f x else x).recordId = x.recordId := by split <;> simp [hf]
    rw [hid]
    exact h.bound x hx

/-- A claim that has found a row returns the counted row. -/
theorem Wf.claimExisting (h : db.Wf) {r : SettlementRecord} (hr : r ∈ db.records) (now : Instant) :
    db.claimExisting r now =
      .ok ((r.recordDuplicateClaim now, claimForStatus r.status), db.incrementDuplicateClaim r.recordId now) := by
  have hrow : (db.incrementDuplicateClaim r.recordId now).getRecordById r.recordId =
      some (r.recordDuplicateClaim now) := by
    rw [getRecordById, incrementDuplicateClaim,
      Table.row_update (f := SettlementRecord.recordDuplicateClaim now) fun _ => rfl, Table.row_of_mem h.ids hr]
    simp
  simp only [Db.claimExisting, hrow, SettlementRecord.recordDuplicateClaim_status]

theorem selectProviderFingerprintRecord_some {k : ReplayKey} {r : SettlementRecord}
    (h : db.selectProviderFingerprintRecord k = some r) : r ∈ db.records ∧ r.replayKey.coalesce = k.coalesce := by
  have hmem := List.mem_filter.mp (List.mem_of_head? h)
  exact ⟨hmem.1, by simpa using hmem.2⟩

theorem existing_mem {c : ClaimRequest} {r : SettlementRecord} (h : store.existing db c = some r) :
    r ∈ db.records := by
  rw [SettlementStore.existing] at h
  split at h
  · rename_i r' hr'
    cases h
    exact Table.row_mem hr'
  · exact (selectProviderFingerprintRecord_some h).1

/-- A claim that finds a row. -/
theorem claim_some {c : ClaimRequest} {r : SettlementRecord} (now : Instant) (h : store.existing db c = some r) :
    db.claimForSettlement c now = db.claimExisting r now := by
  rw [SettlementStore.existing] at h
  unfold claimForSettlement
  split at h
  · rename_i r' hr'
    cases h
    change db.selectRecord c.profileKey = some r at hr'
    rw [hr']
  · rename_i hnone
    change db.selectRecord c.profileKey = none at hnone
    change db.selectProviderFingerprintRecord c.replayKey = some r at h
    rw [hnone, h]

theorem claim_none {c : ClaimRequest} (now : Instant) (h : store.existing db c = none) :
    db.claimForSettlement c now = .ok ((c.freshRecord db.nextRecordId now, .claimed),
      { db with records := db.records ++ [c.freshRecord db.nextRecordId now], nextRecordId := db.nextRecordId + 1 }) := by
  rw [SettlementStore.existing] at h
  unfold claimForSettlement
  split at h
  · cases h
  · rename_i hnone
    change db.selectRecord c.profileKey = none at hnone
    change db.selectProviderFingerprintRecord c.replayKey = none at h
    rw [hnone, h]

/-- On a fresh record every update of the engine writes the whole finalisation. -/
theorem markRecord_eq {r : SettlementRecord} {f : Finalization} (hr : r.Fresh) (hf : f.Clean) (now : Instant) :
    steps.markRecord db r f now =
      { db with
        records := Table.update (fun x => x.recordId == r.recordId) (SettlementRecord.finalized f now)
          db.records } := by
  cases hf with
  | settled | submitted => rfl
  | settleFailed a e =>
    show db.markSettleFailed r e now = _
    rw [markSettleFailed, hr.transaction, hr.payer]
    rfl
  | unknown a e =>
    show db.markUnknown r e now = _
    rw [markUnknown, hr.transaction, hr.payer]
    rfl

end Db

/-- The SQLite store keeps the laws. -/
def lawful : LawfulStore Db where
  store := store
  ops := steps
  steps_eq := rfl
  records := Db.records
  attempts := Db.attempts
  Inv := Db.Wf
  init := ⟨⟨List.nodup_nil, by simp [store], List.nodup_nil, by simp [store]⟩, rfl, rfl⟩
  ids := fun h => h.ids
  attemptIds := fun h => h.attemptIds
  get_eq := fun _ _ => rfl
  lookup_sound := fun _ h => Db.selectProviderFingerprintRecord_some h
  lookup_complete := by
    intro db r _ hr
    have hmem : r ∈ db.records.filter fun x => x.replayKey.coalesce == r.replayKey.coalesce :=
      List.mem_filter.mpr ⟨hr, by simp⟩
    exact Option.ne_none_iff_exists'.mp (mt List.head?_eq_none_iff.mp (List.ne_nil_of_mem hmem))
  held_eq := fun _ _ => Or.inr rfl
  claim_duplicate := by
    intro db c r now h hex
    refine ⟨_, (Db.claim_some now hex).trans (h.claimExisting (Db.existing_mem hex) now), ?_, rfl, rfl⟩
    exact h.update fun _ => rfl
  claim_fresh := by
    intro db c now h hex
    have hfresh : ∀ x ∈ db.records, x.recordId ≠ db.nextRecordId := fun x hx => Nat.ne_of_lt (h.bound x hx)
    refine ⟨db.nextRecordId, _, Db.claim_none now hex, hfresh, ⟨?_, ?_, h.attemptIds, h.attemptBound⟩, rfl, rfl⟩
    · exact Table.nodup_append_fresh h.ids hfresh
    · intro r hr
      rcases List.mem_append.mp hr with hr | hr
      · exact Nat.lt_succ_of_lt (h.bound r hr)
      · rw [List.mem_singleton.mp hr]
        exact Nat.lt_succ_self _
  start_eq := by
    intro db r traceId now h
    have hfresh : ∀ x ∈ db.attempts, x.attemptId ≠ db.nextAttemptId :=
      fun x hx => Nat.ne_of_lt (h.attemptBound x hx)
    refine ⟨db.nextAttemptId, _, rfl, hfresh, ⟨h.ids, h.bound, ?_, ?_⟩, rfl, rfl⟩
    · exact Table.nodup_append_fresh h.attemptIds hfresh
    · intro a ha
      rcases List.mem_append.mp ha with ha | ha
      · exact Nat.lt_succ_of_lt (h.attemptBound a ha)
      · rw [List.mem_singleton.mp ha]
        exact Nat.lt_succ_self _
  mark_eq := by
    intro db r row f now h hr _ hf _
    rw [Db.markRecord_eq hr hf]
    exact ⟨h.update fun _ => rfl, rfl, rfl⟩
  finish_eq := by
    intro db n status t e now h
    refine ⟨⟨h.ids, h.bound, ?_, ?_⟩, rfl, rfl⟩
    · show ((Table.update _ _ db.attempts).map SettlementAttemptRecord.attemptId).Nodup
      rw [Table.map_update (f := SettlementAttemptRecord.finished status t e now) fun _ => rfl]
      exact h.attemptIds
    · intro a ha
      obtain ⟨x, hx, rfl⟩ := Table.mem_update.mp ha
      have hid : (if x.attemptId == n then x.finished status t e now else x).attemptId = x.attemptId := by
        split <;> rfl
      rw [hid]
      exact h.attemptBound x hx

end HostedFacilitator.Sqlite
