import HostedFacilitator.ControlPlane.Queue
import HostedFacilitator.Python.IsoFormat

/-!
# The timestamps of SQLite

`SqliteSettlementStore` has no type for points in time: its columns hold the texts that `_serialize_datetime` writes and
`_parse_datetime` reads, and the statements compare and order these texts. A text has a fraction only where there are
microseconds, yet the order of the texts is the order of the times, and every statement on `updated_at` selects by time
(`timestamps_chronological`). So the table of times in `Sqlite.Db` stands for the table of texts
(`Sqlite.listReconciliationQueue_record`).
-/

namespace HostedFacilitator

/-- The year of a point in time, in UTC. -/
def utcYear (i : Instant) : Nat := yearsBefore (i / 86400000000 + 719162).toNat + 1

theorem isDatetime_of_utcYear {i : Instant} (hmin : 1000 ≤ utcYear i) (hmax : utcYear i ≤ 9999) : IsDatetime i := by
  rw [utcYear] at hmin hmax
  obtain ⟨hle, hlt⟩ := daysBefore_yearsBefore (i / 86400000000 + 719162).toNat
  have hfirst : daysBefore 999 ≤ daysBefore (yearsBefore (i / 86400000000 + 719162).toNat) := daysBefore_mono (by omega)
  have hlast : daysBefore (yearsBefore (i / 86400000000 + 719162).toNat + 1) ≤ daysBefore 9999 :=
    daysBefore_mono (by omega)
  have hdays : daysBefore 999 = 364877 ∧ daysBefore 9999 = 3652059 := by decide
  constructor <;> omega

/-- An aware `datetime` whose year in UTC has four digits. -/
structure UtcDatetime extends AwareDatetime where
  years : 1000 ≤ utcYear toAwareDatetime.instant ∧ utcYear toAwareDatetime.instant ≤ 9999

theorem UtcDatetime.isDatetime (value : UtcDatetime) : IsDatetime value.instant :=
  isDatetime_of_utcYear value.years.1 value.years.2

/-- `_serialize_datetime`; outside of the years 1 to 9999 it raises `OverflowError`. -/
def AwareDatetime.serialize (value : AwareDatetime) : Option String :=
  value.astimezoneUtc.map fun utc => isoformat utc.fields

/-- `_parse_datetime`; `none` where it raises `ValueError`. -/
def parseDatetime (value : String) : Option PyDatetime := fromisoformat value

theorem UtcDatetime.serialize_eq (value : UtcDatetime) :
    value.serialize = some (serializeDatetime value.instant) := by
  rw [AwareDatetime.serialize, AwareDatetime.astimezoneUtc, dif_pos value.isDatetime]
  rfl

/-- The same point in time with the offset zero. -/
def UtcDatetime.inUtc (value : UtcDatetime) : PyDatetime := .aware ⟨value.instant, 0, value.isDatetime, utc_range⟩

@[simp] theorem UtcDatetime.instant_inUtc (value : UtcDatetime) : value.inUtc.instant = some value.instant :=
  congrArg some (Int.sub_zero value.instant)

theorem UtcDatetime.parse_serialize (value : UtcDatetime) :
    parseDatetime (serializeDatetime value.instant) = some value.inUtc := fromisoformat_isoformat value.isDatetime

/-! ## Rows -/

/-- The columns of `settlement_records`, with `σ` for a status and `τ` for a point in time. The column
`raw_requirements_json` is given by its value. -/
structure SettlementColumns (σ τ : Type) where
  id : Nat
  sellerAccountId : String
  paymentProfileId : String
  fingerprint : String
  provider : String
  scheme : Option String
  network : Option String
  status : σ
  traceId : Option String
  transactionHash : Option String
  payer : Option String
  errorReason : Option String
  rawRequirements : PyDict
  createdAt : τ
  updatedAt : τ
  duplicateClaims : Nat
  lastDuplicateAt : Option τ

namespace SettlementColumns

variable {σ σ' τ τ' : Type}

def map (f : σ → σ') (g : τ → τ') (c : SettlementColumns σ τ) : SettlementColumns σ' τ' where
  id := c.id
  sellerAccountId := c.sellerAccountId
  paymentProfileId := c.paymentProfileId
  fingerprint := c.fingerprint
  provider := c.provider
  scheme := c.scheme
  network := c.network
  status := f c.status
  traceId := c.traceId
  transactionHash := c.transactionHash
  payer := c.payer
  errorReason := c.errorReason
  rawRequirements := c.rawRequirements
  createdAt := g c.createdAt
  updatedAt := g c.updatedAt
  duplicateClaims := c.duplicateClaims
  lastDuplicateAt := c.lastDuplicateAt.map g

/-- The statuses and the times are converted, if each of them can be. -/
def convert (f : σ → Option σ') (g : τ → Option τ') (c : SettlementColumns σ τ) : Option (SettlementColumns σ' τ') := do
  let status ← f c.status
  let createdAt ← g c.createdAt
  let updatedAt ← g c.updatedAt
  let lastDuplicateAt ← match c.lastDuplicateAt with
    | none => some none
    | some t => (g t).map some
  return {
    id := c.id, sellerAccountId := c.sellerAccountId, paymentProfileId := c.paymentProfileId
    fingerprint := c.fingerprint, provider := c.provider, scheme := c.scheme, network := c.network, status := status
    traceId := c.traceId, transactionHash := c.transactionHash, payer := c.payer, errorReason := c.errorReason
    rawRequirements := c.rawRequirements, createdAt := createdAt, updatedAt := updatedAt
    duplicateClaims := c.duplicateClaims, lastDuplicateAt := lastDuplicateAt }

theorem convert_eq {f : σ → Option σ'} {g : τ → Option τ'} {f' : σ → σ'} {g' : τ → τ'} (hf : ∀ s, f s = some (f' s))
    (hg : ∀ t, g t = some (g' t)) (c : SettlementColumns σ τ) : c.convert f g = some (c.map f' g') := by
  simp only [convert, hf, hg, Option.bind_eq_bind, Option.bind_some, map]
  cases c.lastDuplicateAt <;> rfl

theorem convert_map {σ'' τ'' : Type} (f : σ' → Option σ'') (g : τ' → Option τ'') (p : σ → σ') (q : τ → τ')
    (c : SettlementColumns σ τ) : (c.map p q).convert f g = c.convert (fun s => f (p s)) fun t => g (q t) := by
  simp only [convert, map]
  cases c.lastDuplicateAt <;> rfl

end SettlementColumns

/-- A row of the table: statuses and times are texts. -/
abbrev SettlementRow := SettlementColumns String String

/-- A record that was read from a row. -/
abbrev ReadRecord := SettlementColumns SettlementStatus PyDatetime

/-- What has been stored in a row. -/
abbrev StoredRecord := SettlementColumns SettlementStatus UtcDatetime

/-- `_record_from_row`; `none` where it raises `ValueError`. -/
def recordFromRow (row : SettlementRow) : Option ReadRecord := row.convert SettlementStatus.ofValue parseDatetime

namespace StoredRecord

/-- The row, with the parameters that the statements of the store bind. -/
def toRow (r : StoredRecord) : Option SettlementRow :=
  r.convert (fun status => some status.value) fun t => t.serialize

/-- The texts of the row. -/
def texts (r : StoredRecord) : SettlementRow := r.map SettlementStatus.value fun t => serializeDatetime t.instant

/-- The record with its times in UTC. -/
def inUtc (r : StoredRecord) : ReadRecord := r.map (fun status => status) UtcDatetime.inUtc

theorem toRow_eq (r : StoredRecord) : r.toRow = some r.texts :=
  SettlementColumns.convert_eq (fun _ => rfl) UtcDatetime.serialize_eq r

/-- The statuses are read back, and the times as the same points in time. -/
theorem recordFromRow_texts (r : StoredRecord) : recordFromRow r.texts = some r.inUtc := by
  rw [recordFromRow, texts, SettlementColumns.convert_map]
  exact SettlementColumns.convert_eq SettlementStatus.ofValue_value UtcDatetime.parse_serialize r

theorem mapM_toRow (stored : List StoredRecord) : stored.mapM toRow = some (stored.map texts) := by
  rw [funext toRow_eq]
  exact List.mapM_pure

theorem mapM_recordFromRow (stored : List StoredRecord) :
    (stored.map texts).mapM recordFromRow = some (stored.map inUtc) := by
  induction stored with
  | nil => rfl
  | cons r stored ih =>
    rw [List.map_cons, List.mapM_cons, recordFromRow_texts, ih]
    rfl

end StoredRecord

/-! ## Statements -/

/-- The keyword arguments of the two methods on the queue, with `τ` for a point in time. -/
structure QueueRowArgs (τ : Type) where
  statuses : List SettlementStatus
  staleBefore : Option τ := none
  sellerAccountId : Option String := none
  provider : Option String := none
  network : Option String := none

namespace Sqlite

section Statements

variable (rows : List SettlementRow)

/-- `updated_at <= ?`, where a time is given. -/
def staleClause : Option AwareDatetime → Option (List (SettlementRow → Bool))
  | none => some []
  | some staleBefore => staleBefore.serialize.map fun text => [fun row => decide (row.updatedAt ≤ text)]

/-- The clauses behind `WHERE` in the statements on the queue. -/
def queueClauses (q : QueueRowArgs AwareDatetime) : Option (List (SettlementRow → Bool)) := do
  let stale ← staleClause q.staleBefore
  return [fun row => (q.statuses.map SettlementStatus.value).contains row.status] ++ stale ++
    (q.sellerAccountId.map fun id row => row.sellerAccountId == id).toList ++
    (q.provider.map fun provider row => row.provider == provider).toList ++
    (q.network.map fun network row => row.network == some network).toList

/-- `list_reconciliation_queue`. -/
def listReconciliationQueue (q : QueueRowArgs AwareDatetime) (limit : Int) : Option (List ReadRecord) :=
  if q.statuses.isEmpty then some []
  else do
    let clauses ← queueClauses q
    let selected := rows.filter fun row => clauses.all fun clause => clause row
    ((Select.orderBy (fun row => toLex (row.updatedAt, row.id)) selected).take (boundedLimit limit)).mapM recordFromRow

/-- `reconciliation_queue_status_counts`. -/
def reconciliationQueueStatusCounts (q : QueueRowArgs AwareDatetime) : Option (List (String × Nat)) :=
  if q.statuses.isEmpty then some []
  else do
    let clauses ← queueClauses q
    let counted := Select.groupCount (fun row => row.status) (rows.filter fun row => clauses.all fun clause => clause row)
    return Select.ofEntries (counted.filterMap fun row =>
      (SettlementStatus.ofValue row.1).map fun status => (status.value, row.2))

/-- `list_recent_records`: both columns are ordered `DESC`. -/
def listRecentRecords (limit : Int) : Option (List ReadRecord) :=
  ((Select.orderBy (fun row => OrderDual.toDual (toLex (row.updatedAt, row.id))) rows).take
    (boundedLimit limit)).mapM recordFromRow

/-- `list_recent_records_for_seller`. -/
def listRecentRecordsForSeller (sellerAccountId : String) (limit : Int) : Option (List ReadRecord) :=
  listRecentRecords (rows.filter fun row => row.sellerAccountId == sellerAccountId) limit

end Statements

end Sqlite

/-! ## Selecting by time -/

namespace StoredRecord

/-- The time of the last update, then the id. -/
def chronological (r : StoredRecord) : Int ×ₗ Nat := toLex (r.updatedAt.instant, r.id)

theorem chronological_le_iff (a b : StoredRecord) : a.chronological ≤ b.chronological ↔
    toLex (a.texts.updatedAt, a.texts.id) ≤ toLex (b.texts.updatedAt, b.texts.id) :=
  text_order_iff a.updatedAt.isDatetime b.updatedAt.isDatetime a.id b.id

end StoredRecord

namespace QueueRowArgs

variable (q : QueueRowArgs UtcDatetime)

/-- The arguments as the methods take them. -/
def aware : QueueRowArgs AwareDatetime where
  statuses := q.statuses
  staleBefore := q.staleBefore.map UtcDatetime.toAwareDatetime
  sellerAccountId := q.sellerAccountId
  provider := q.provider
  network := q.network

/-- The record passes every filter; its last update is compared as a point in time. -/
def selects (r : StoredRecord) : Bool :=
  q.statuses.contains r.status &&
  q.staleBefore.all (fun t => r.updatedAt.instant ≤ t.instant) &&
  q.sellerAccountId.all (fun id => r.sellerAccountId == id) &&
  q.provider.all (fun provider => r.provider == provider) &&
  q.network.all (fun network => r.network == some network)

theorem filter_selects_nil (h : q.statuses.isEmpty = true) (stored : List StoredRecord) :
    stored.filter q.selects = [] := by
  rw [List.filter_eq_nil_iff]
  intro r _ hr
  simp only [selects, List.isEmpty_iff.mp h, List.contains_nil, Bool.false_and, Bool.false_eq_true] at hr

theorem staleClause_eq (staleBefore : Option UtcDatetime) :
    ∃ clause, Sqlite.staleClause (staleBefore.map UtcDatetime.toAwareDatetime) = some clause ∧
      ∀ r : StoredRecord, (clause.all fun clause => clause r.texts) =
        staleBefore.all fun t => decide (r.updatedAt.instant ≤ t.instant) := by
  cases staleBefore with
  | none => exact ⟨[], rfl, fun _ => rfl⟩
  | some t =>
    refine ⟨_, by rw [Option.map_some, Sqlite.staleClause, UtcDatetime.serialize_eq, Option.map_some], fun r => ?_⟩
    rw [List.all_cons, List.all_nil, Bool.and_true, Option.all_some, decide_eq_decide]
    exact serializeDatetime_le r.updatedAt.isDatetime t.isDatetime

/-- The clauses of the statements, on the row of a record. -/
theorem queueClauses_eq : ∃ clauses, Sqlite.queueClauses q.aware = some clauses ∧
    ∀ r : StoredRecord, (clauses.all fun clause => clause r.texts) = q.selects r := by
  obtain ⟨stale, hstale, hall⟩ := staleClause_eq q.staleBefore
  refine ⟨_, by rw [Sqlite.queueClauses, aware, hstale, Option.bind_eq_bind, Option.bind_some]; rfl, fun r => ?_⟩
  simp only [List.all_append, hall, QueueArgs.all_given, List.all_cons, List.all_nil, Bool.and_true, selects]
  simp only [StoredRecord.texts, SettlementColumns.map, QueueArgs.contains_value]

end QueueRowArgs

namespace Sqlite

variable (stored : List StoredRecord) (q : QueueRowArgs UtcDatetime) (limit : Int)

theorem filter_texts {p : SettlementRow → Bool} {p' : StoredRecord → Bool} (h : ∀ r : StoredRecord, p r.texts = p' r) :
    (stored.map StoredRecord.texts).filter p = (stored.filter p').map StoredRecord.texts := by
  rw [List.filter_map]
  exact congrArg _ (List.filter_congr fun r _ => h r)

theorem listReconciliationQueue_texts :
    listReconciliationQueue (stored.map StoredRecord.texts) q.aware limit =
      some (((Select.orderBy StoredRecord.chronological (stored.filter q.selects)).take (boundedLimit limit)).map
        StoredRecord.inUtc) := by
  rw [listReconciliationQueue]
  split
  · rename_i hempty
    rw [q.filter_selects_nil hempty]
    simp [Select.orderBy]
  · obtain ⟨clauses, hclauses, hall⟩ := q.queueClauses_eq
    simp only [hclauses, Option.bind_eq_bind, Option.bind_some]
    rw [filter_texts stored hall, ← Select.orderBy_map StoredRecord.chronological _ StoredRecord.texts
      fun a _ b _ => a.chronological_le_iff b, ← List.map_take, StoredRecord.mapM_recordFromRow]

theorem reconciliationQueueStatusCounts_texts :
    reconciliationQueueStatusCounts (stored.map StoredRecord.texts) q.aware =
      some (Select.groupCount (fun r => r.status.value) (stored.filter q.selects)) := by
  rw [reconciliationQueueStatusCounts]
  split
  · rename_i hempty
    rw [q.filter_selects_nil hempty]
    rfl
  · obtain ⟨clauses, hclauses, hall⟩ := q.queueClauses_eq
    have hgroup : Select.groupCount (fun row : SettlementRow => row.status)
        ((stored.filter q.selects).map StoredRecord.texts) =
          Select.groupCount (fun r : StoredRecord => r.status.value) (stored.filter q.selects) := by
      rw [Select.groupCount, List.map_map]
      rfl
    simp only [hclauses, Option.bind_eq_bind, Option.bind_some]
    rw [filter_texts stored hall, hgroup, ofEntries_group SettlementColumns.status]
    rfl

theorem listRecentRecords_texts :
    listRecentRecords (stored.map StoredRecord.texts) limit =
      some (((Select.orderBy (fun r => OrderDual.toDual (StoredRecord.chronological r)) stored).take
        (boundedLimit limit)).map StoredRecord.inUtc) := by
  have horder := @Select.orderBy_map _ _ _ _ _ stored _ (fun r => OrderDual.toDual (StoredRecord.chronological r))
    (fun row : SettlementRow => OrderDual.toDual (toLex (row.updatedAt, row.id))) StoredRecord.texts
    fun a _ b _ => b.chronological_le_iff a
  rw [listRecentRecords, ← horder, ← List.map_take, StoredRecord.mapM_recordFromRow]

end Sqlite

section Pages

variable {stored : List StoredRecord}

/-- The records of a page are in the order of their last updates. -/
def OldestFirst (page : List StoredRecord) : Prop := page.Pairwise fun a b => a.updatedAt.instant ≤ b.updatedAt.instant

/-- The records of a page are in the opposite order. -/
def NewestFirst (page : List StoredRecord) : Prop := page.Pairwise fun a b => b.updatedAt.instant ≤ a.updatedAt.instant

theorem StoredRecord.instant_le {a b : StoredRecord} (h : a.chronological ≤ b.chronological) :
    a.updatedAt.instant ≤ b.updatedAt.instant := by
  rcases (Prod.Lex.le_iff ..).mp h with hlt | ⟨heq, -⟩
  · exact hlt.le
  · exact heq.le

theorem oldestFirst_orderBy (n : Nat) : OldestFirst ((Select.orderBy StoredRecord.chronological stored).take n) := by
  have hordered : (Select.orderBy StoredRecord.chronological stored).Pairwise
      fun a b => a.chronological ≤ b.chronological := Select.orderBy_pairwise
  exact (hordered.imp StoredRecord.instant_le).sublist (List.take_sublist _ _)

theorem newestFirst_orderBy (n : Nat) :
    NewestFirst ((Select.orderBy (fun r => OrderDual.toDual (StoredRecord.chronological r)) stored).take n) := by
  have hordered : (Select.orderBy (fun r => OrderDual.toDual (StoredRecord.chronological r)) stored).Pairwise
      fun a b => b.chronological ≤ a.chronological :=
    @Select.orderBy_pairwise _ _ _ (fun r => OrderDual.toDual (StoredRecord.chronological r)) stored
  exact (hordered.imp StoredRecord.instant_le).sublist (List.take_sublist _ _)

end Pages

/-- A time is read back as the point in time that was written, the texts are in the order of the times, and the statements
that compare or order `updated_at` select and order by time. -/
theorem timestamps_chronological :
    (∀ a : UtcDatetime, ∃ text, a.serialize = some text ∧
      (parseDatetime text).bind PyDatetime.instant = some a.instant) ∧
    (∀ a b : UtcDatetime, ∃ s t, a.serialize = some s ∧ b.serialize = some t ∧ (s ≤ t ↔ a.instant ≤ b.instant)) ∧
    ∀ stored : List StoredRecord, ∃ rows, stored.mapM StoredRecord.toRow = some rows ∧
      (∀ (q : QueueRowArgs UtcDatetime) (limit : Int), ∃ page,
        page = (Select.orderBy StoredRecord.chronological (stored.filter q.selects)).take (boundedLimit limit) ∧
        Sqlite.listReconciliationQueue rows q.aware limit = some (page.map StoredRecord.inUtc) ∧ OldestFirst page) ∧
      (∀ q : QueueRowArgs UtcDatetime, Sqlite.reconciliationQueueStatusCounts rows q.aware =
        some (Select.groupCount (fun r => r.status.value) (stored.filter q.selects))) ∧
      (∀ limit : Int, ∃ page,
        page = (Select.orderBy (fun r => OrderDual.toDual (StoredRecord.chronological r)) stored).take
          (boundedLimit limit) ∧
        Sqlite.listRecentRecords rows limit = some (page.map StoredRecord.inUtc) ∧ NewestFirst page) ∧
      ∀ (id : String) (limit : Int), ∃ page,
        page = (Select.orderBy (fun r => OrderDual.toDual (StoredRecord.chronological r))
          (stored.filter fun r => r.sellerAccountId == id)).take (boundedLimit limit) ∧
        Sqlite.listRecentRecordsForSeller rows id limit = some (page.map StoredRecord.inUtc) ∧ NewestFirst page := by
  refine ⟨fun a => ?_, fun a b => ?_, fun stored => ?_⟩
  · refine ⟨_, a.serialize_eq, ?_⟩
    rw [a.parse_serialize, Option.bind_some, a.instant_inUtc]
  · exact ⟨_, _, a.serialize_eq, b.serialize_eq, serializeDatetime_le a.isDatetime b.isDatetime⟩
  · refine ⟨_, StoredRecord.mapM_toRow stored,
      fun q limit => ⟨_, rfl, Sqlite.listReconciliationQueue_texts stored q limit, oldestFirst_orderBy _⟩,
      Sqlite.reconciliationQueueStatusCounts_texts stored,
      fun limit => ⟨_, rfl, Sqlite.listRecentRecords_texts stored limit, newestFirst_orderBy _⟩,
      fun id limit => ⟨_, rfl, ?_, newestFirst_orderBy _⟩⟩
    rw [Sqlite.listRecentRecordsForSeller, Sqlite.filter_texts stored fun _ => rfl, Sqlite.listRecentRecords_texts]
    rfl

/-! ## The table of times -/

/-- The record in `Sqlite.Db`, which holds points in time. -/
def StoredRecord.record (r : StoredRecord) : SettlementRecord where
  recordId := r.id
  sellerAccountId := r.sellerAccountId
  fingerprint := r.fingerprint
  provider := r.provider
  scheme := r.scheme
  network := r.network
  status := r.status
  traceId := r.traceId
  transaction := r.transactionHash
  payer := r.payer
  errorReason := r.errorReason
  createdAt := r.createdAt.instant
  updatedAt := r.updatedAt.instant
  rawRequirements := r.rawRequirements
  paymentProfileId := r.paymentProfileId
  duplicateClaims := r.duplicateClaims
  lastDuplicateAt := r.lastDuplicateAt.map fun t => t.instant

/-- The arguments with points in time. -/
def QueueRowArgs.args (q : QueueRowArgs UtcDatetime) : QueueArgs where
  statuses := q.statuses
  staleBefore := q.staleBefore.map fun t => t.instant
  sellerAccountId := q.sellerAccountId
  provider := q.provider
  network := q.network

theorem QueueRowArgs.args_selects (q : QueueRowArgs UtcDatetime) (r : StoredRecord) :
    q.args.selects r.record = q.selects r := by
  rw [QueueArgs.selects, QueueRowArgs.selects, args]
  cases q.staleBefore <;> rfl

/-- The table of times answers as the table of texts does. -/
theorem Sqlite.listReconciliationQueue_record (stored : List StoredRecord) (q : QueueRowArgs UtcDatetime) (limit : Int) :
    ∃ page : List StoredRecord,
      listReconciliationQueue (stored.map StoredRecord.texts) q.aware limit = some (page.map StoredRecord.inUtc) ∧
      Db.listReconciliationQueue { records := stored.map StoredRecord.record } q.args limit =
        page.map StoredRecord.record := by
  refine ⟨_, listReconciliationQueue_texts stored q limit, ?_⟩
  have hdated : ∀ r ∈ stored.map StoredRecord.record, IsDatetime r.updatedAt := by
    intro r hr
    obtain ⟨r', -, rfl⟩ := List.mem_map.mp hr
    exact r'.updatedAt.isDatetime
  have hstale : ∀ t ∈ q.args.staleBefore, IsDatetime t := by
    intro t ht
    obtain ⟨t', -, rfl⟩ := Option.map_eq_some_iff.mp ht
    exact t'.isDatetime
  have hfilter : (stored.map StoredRecord.record).filter q.args.selects =
      (stored.filter q.selects).map StoredRecord.record := by
    rw [List.filter_map]
    exact congrArg _ (List.filter_congr fun r _ => q.args_selects r)
  rw [Db.listReconciliationQueue_eq _ _ _ hdated hstale, hfilter, List.map_take,
    Select.orderBy_map StoredRecord.chronological queueOrder StoredRecord.record fun _ _ _ _ => Iff.rfl]

end HostedFacilitator
