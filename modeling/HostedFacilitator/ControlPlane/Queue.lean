import HostedFacilitator.ControlPlane.RecordJson
import HostedFacilitator.Lib.Select
import HostedFacilitator.Postgres.Db
import HostedFacilitator.Storage.InMemory
import HostedFacilitator.Storage.Sqlite
import Mathlib.Data.Prod.Lex

/-!
# The reconciliation queue

Operators look at the payments whose outcome is open through `_reconciliation_queue`: the oldest matching records, the
number of matching records for each status, and whether there are more than are shown. Every store selects twice, for the
page and for the counts, and in its own way: the in-memory store in Python, SQLite on texts, Postgres with clauses that
depend on the filters. All of them select the same records (`Snapshot`), so the three stores give one answer, and it is the
right one, unless a record of the page cannot be shown: then there is no answer at all
(`reconciliation_queue_right_iff`).
-/

namespace HostedFacilitator

/-- `_RECONCILIATION_QUEUE_STATUSES`. -/
def reconciliationQueueStatuses : List SettlementStatus := [.unknown, .submitted, .settleInProgress, .manualReview]

def SettlementStatus.all : List SettlementStatus :=
  [.received, .settleInProgress, .submitted, .settled, .settleFailed, .unknown, .reconciled, .manualReview]

/-- `SettlementStatus(value)`. -/
def SettlementStatus.ofValue (value : String) : Option SettlementStatus :=
  SettlementStatus.all.find? fun status => status.value == value

theorem SettlementStatus.mem_all (s : SettlementStatus) : s ∈ SettlementStatus.all := by
  cases s <;> decide

theorem SettlementStatus.ofValue_value (s : SettlementStatus) : SettlementStatus.ofValue s.value = some s := by
  cases s <;> decide

theorem SettlementStatus.value_inj {s s' : SettlementStatus} : s.value = s'.value ↔ s = s' := by
  constructor
  · intro h
    have := SettlementStatus.ofValue_value s
    rw [h, SettlementStatus.ofValue_value] at this
    exact (Option.some.inj this).symm
  · exact congrArg SettlementStatus.value

/-! ## Filters -/

/-- What `_reconciliation_queue_filters` returns: it lets through the statuses of the queue only, and a limit from 1 to
100. -/
structure QueueFilters where
  statuses : List SettlementStatus
  minAgeSeconds : Int
  staleBefore : Option Instant
  sellerRef : Option String
  provider : Option String
  network : Option String
  limit : Int
  statuses_mem : ∀ s ∈ statuses, s ∈ reconciliationQueueStatuses
  staleBefore_dated : ∀ t ∈ staleBefore, IsDatetime t
  limit_bounds : 1 ≤ limit ∧ limit ≤ 100

/-- The query parameters of `GET /ops/api/reconciliation`. -/
structure QueueQuery where
  status : List String := []
  minAgeSeconds : Option String := none
  limit : Option String := none
  sellerRef : Option String := none
  provider : Option String := none
  network : Option String := none

section Filters

variable (env : Rendering)

/-- `_parse_reconciliation_status`. -/
def parseReconciliationStatus (value : String) : Except PyErr {s // s ∈ reconciliationQueueStatuses} :=
  match SettlementStatus.ofValue value with
  | none => .error (.value ("unsupported settlement status: " ++ value))
  | some status =>
    if h : status ∈ reconciliationQueueStatuses then .ok ⟨status, h⟩
    else .error (.value ("unsupported reconciliation status: " ++ value))

/-- The parts of the `status` parameters, which commas separate. -/
def rawStatusValues (values : List String) : List String :=
  values.flatMap fun value =>
    ((value.toList.splitOnP (· = ',')).map fun part => strip (String.ofList part)).filter (· ≠ "")

def queueStatuses (values : List String) :
    Except PyErr {statuses : List SettlementStatus // ∀ s ∈ statuses, s ∈ reconciliationQueueStatuses} :=
  let raw := rawStatusValues values
  if raw = [] ∨ raw = ["all"] then .ok ⟨reconciliationQueueStatuses, fun _ h => h⟩
  else do
    let statuses ← raw.mapM parseReconciliationStatus
    return ⟨statuses.map Subtype.val, fun s hs => by
      obtain ⟨status, -, rfl⟩ := List.mem_map.mp hs
      exact status.2⟩

/-- `_safe_query_int`. -/
def safeQueryInt (value : Option String) (name : String) (default minimum maximum : Int)
    (h : minimum ≤ default ∧ default ≤ maximum) : Except PyErr {n : Int // minimum ≤ n ∧ n ≤ maximum} :=
  match value with
  | none | some "" => .ok ⟨default, h⟩
  | some value =>
    match env.decimals.ofText 10 value with
    | none => .error (.value (name ++ " must be an integer"))
    | some parsed =>
      if h : parsed < minimum ∨ maximum < parsed then
        .error (.value (name ++ " must be between " ++ toString minimum ++ " and " ++ toString maximum))
      else .ok ⟨parsed, by omega⟩

/-- `datetime.now(timezone.utc) - timedelta(seconds=min_age_seconds)`, where an age is asked for. -/
def staleBeforeAge (now : Instant) (minAgeSeconds : Int) :
    Except PyErr {staleBefore : Option Instant // ∀ t ∈ staleBefore, IsDatetime t} :=
  if 0 < minAgeSeconds then
    if h : IsDatetime (now - minAgeSeconds * 1000000) then
      .ok ⟨some (now - minAgeSeconds * 1000000), fun _ ht => Option.some.inj ht ▸ h⟩
    else .error (.other "OverflowError" "date value out of range")
  else .ok ⟨none, fun _ ht => nomatch ht⟩

/-- `f(value) if value else None`. -/
def ifGiven (value : Option String) (f : String → Except PyErr String) : Except PyErr (Option String) :=
  match value with
  | none | some "" => .ok none
  | some value => (f value).map some

/-- `_reconciliation_queue_filters`. -/
def reconciliationQueueFilters (query : QueueQuery) (now : Instant) : Except PyErr QueueFilters := do
  let statuses ← queueStatuses query.status
  let minAgeSeconds ← safeQueryInt env query.minAgeSeconds "minAgeSeconds" 0 0 604800 (by decide)
  let limit ← safeQueryInt env query.limit "limit" 50 1 100 (by decide)
  let staleBefore ← staleBeforeAge now minAgeSeconds.1
  let sellerRef ← ifGiven query.sellerRef (safeSellerRef env.unicode)
  let provider ← ifGiven query.provider fun value => .ok (safeProviderName env.unicode value)
  let network ← ifGiven query.network (safeNetwork env.unicode)
  return {
    statuses := statuses.1, minAgeSeconds := minAgeSeconds.1, staleBefore := staleBefore.1, sellerRef := sellerRef
    provider := provider, network := network, limit := limit.1
    statuses_mem := statuses.2, staleBefore_dated := staleBefore.2, limit_bounds := limit.2 }

end Filters

/-! ## The stores -/

/-- The keyword arguments that both methods of a store have. -/
structure QueueArgs where
  statuses : List SettlementStatus
  staleBefore : Option Instant := none
  sellerAccountId : Option String := none
  provider : Option String := none
  network : Option String := none

/-- What `_reconciliation_queue` finds on a store. -/
structure QueueStore where
  listReconciliationQueue : Option (QueueArgs → Int → List SettlementRecord)
  reconciliationQueueStatusCounts : Option (QueueArgs → List (String × Nat))

/-- `max(0, min(int(limit), 100))`. -/
def boundedLimit (limit : Int) : Nat := (max 0 (min limit 100)).toNat

namespace InMemory.State

variable (s : State)

/-- `list_reconciliation_queue`. -/
def listReconciliationQueue (q : QueueArgs) (limit : Int) : List SettlementRecord :=
  if q.statuses.isEmpty then []
  else
    let records := s.recordList.filter fun record =>
      q.statuses.contains record.status &&
      q.staleBefore.all (fun staleBefore => record.updatedAt ≤ staleBefore) &&
      q.sellerAccountId.all (fun id => record.sellerAccountId == id) &&
      q.provider.all (fun provider => record.provider == provider) &&
      q.network.all (fun network => record.network == some network)
    (Select.orderBy (fun record => toLex (record.updatedAt, record.recordId)) records).take (boundedLimit limit)

/-- `reconciliation_queue_status_counts`. -/
def reconciliationQueueStatusCounts (q : QueueArgs) : List (String × Nat) :=
  if q.statuses.isEmpty then []
  else
    let records := s.recordList.filter fun record =>
      q.statuses.contains record.status &&
      q.staleBefore.all (fun staleBefore => record.updatedAt ≤ staleBefore) &&
      q.sellerAccountId.all (fun id => record.sellerAccountId == id) &&
      q.provider.all (fun provider => record.provider == provider) &&
      q.network.all (fun network => record.network == some network)
    Select.countBy (fun record => record.status.value) records

def queueStore : QueueStore := ⟨some s.listReconciliationQueue, some s.reconciliationQueueStatusCounts⟩

end InMemory.State

namespace Sqlite.Db

variable (db : Db)

/-- `list_reconciliation_queue`: the column `updated_at` holds texts. -/
def listReconciliationQueue (q : QueueArgs) (limit : Int) : List SettlementRecord :=
  if q.statuses.isEmpty then []
  else
    let clauses : List (SettlementRecord → Bool) :=
      [fun row => (q.statuses.map SettlementStatus.value).contains row.status.value] ++
      (q.staleBefore.map fun staleBefore row =>
        decide (serializeDatetime row.updatedAt ≤ serializeDatetime staleBefore)).toList ++
      (q.sellerAccountId.map fun id row => row.sellerAccountId == id).toList ++
      (q.provider.map fun provider row => row.provider == provider).toList ++
      (q.network.map fun network row => row.network == some network).toList
    let rows := db.records.filter fun row => clauses.all fun clause => clause row
    (Select.orderBy (fun row => toLex (serializeDatetime row.updatedAt, row.recordId)) rows).take (boundedLimit limit)

/-- `reconciliation_queue_status_counts`. -/
def reconciliationQueueStatusCounts (q : QueueArgs) : List (String × Nat) :=
  if q.statuses.isEmpty then []
  else
    let clauses : List (SettlementRecord → Bool) :=
      [fun row => (q.statuses.map SettlementStatus.value).contains row.status.value] ++
      (q.staleBefore.map fun staleBefore row =>
        decide (serializeDatetime row.updatedAt ≤ serializeDatetime staleBefore)).toList ++
      (q.sellerAccountId.map fun id row => row.sellerAccountId == id).toList ++
      (q.provider.map fun provider row => row.provider == provider).toList ++
      (q.network.map fun network row => row.network == some network).toList
    let rows := Select.groupCount (fun row => row.status.value)
      (db.records.filter fun row => clauses.all fun clause => clause row)
    Select.ofEntries (rows.filterMap fun row => (SettlementStatus.ofValue row.1).map fun status => (status.value, row.2))

def queueStore : QueueStore := ⟨some db.listReconciliationQueue, some db.reconciliationQueueStatusCounts⟩

end Sqlite.Db

namespace Postgres.Db

variable (db : Db)

/-- `list_reconciliation_queue`. -/
def listReconciliationQueue (q : QueueArgs) (limit : Int) : List SettlementRecord :=
  if q.statuses.isEmpty then []
  else
    let clauses : List (SettlementRecord → Bool) :=
      [fun row => (q.statuses.map SettlementStatus.value).contains row.status.value] ++
      (q.staleBefore.map fun staleBefore row => decide (row.updatedAt ≤ staleBefore)).toList ++
      (q.sellerAccountId.map fun id row => row.sellerAccountId == id).toList ++
      (q.provider.map fun provider row => row.provider == provider).toList ++
      (q.network.map fun network row => row.network == some network).toList
    let rows := db.records.filter fun row => clauses.all fun clause => clause row
    (Select.orderBy (fun row => toLex (row.updatedAt, row.recordId)) rows).take (boundedLimit limit)

/-- `reconciliation_queue_status_counts`. -/
def reconciliationQueueStatusCounts (q : QueueArgs) : List (String × Nat) :=
  if q.statuses.isEmpty then []
  else
    let clauses : List (SettlementRecord → Bool) :=
      [fun row => (q.statuses.map SettlementStatus.value).contains row.status.value] ++
      (q.staleBefore.map fun staleBefore row => decide (row.updatedAt ≤ staleBefore)).toList ++
      (q.sellerAccountId.map fun id row => row.sellerAccountId == id).toList ++
      (q.provider.map fun provider row => row.provider == provider).toList ++
      (q.network.map fun network row => row.network == some network).toList
    let rows := Select.groupCount (fun row => row.status.value)
      (db.records.filter fun row => clauses.all fun clause => clause row)
    let allowed := SettlementStatus.all.map SettlementStatus.value
    Select.ofEntries (rows.filter fun row => allowed.contains row.1)

def queueStore : QueueStore := ⟨some db.listReconciliationQueue, some db.reconciliationQueueStatusCounts⟩

end Postgres.Db

/-! ## The answer -/

/-- The `filters` object of an answer. -/
structure QueueFiltersJson where
  statuses : List String
  minAgeSeconds : Int
  sellerRef : String
  provider : String
  network : String
  limit : Int

/-- What `_reconciliation_queue` returns. -/
structure QueueAnswer where
  generatedAt : String
  filters : QueueFiltersJson
  counts : List (String × Nat)
  items : List QueueRecordJson
  truncated : Bool

namespace QueueFilters

variable (filters : QueueFilters)

/-- The arguments of the two calls on the store. -/
def args : QueueArgs where
  statuses := filters.statuses
  staleBefore := filters.staleBefore
  sellerAccountId := filters.sellerRef
  provider := filters.provider
  network := filters.network

def json : QueueFiltersJson where
  statuses := filters.statuses.map SettlementStatus.value
  minAgeSeconds := filters.minAgeSeconds
  sellerRef := filters.sellerRef.getD ""
  provider := filters.provider.getD ""
  network := filters.network.getD ""
  limit := filters.limit

end QueueFilters

/-- `_safe_reconciliation_queue_counts`. -/
def safeReconciliationQueueCounts (countQueue : QueueArgs → List (String × Nat)) (filters : QueueFilters) :
    List (String × Nat) :=
  let allowed := reconciliationQueueStatuses.map SettlementStatus.value
  (countQueue filters.args).foldl
    (fun counts e => if allowed.contains e.1 then Dict.set counts e.1 e.2 else counts) []

/-- `_status_counts_from_queue_items`. -/
def statusCountsFromQueueItems (items : List QueueRecordJson) : List (String × Nat) :=
  Select.countBy (fun item => item.status) items

/-- `_reconciliation_queue`. -/
def reconciliationQueue (env : Rendering) (now : Instant) (store : QueueStore) (filters : QueueFilters) :
    Except PyErr QueueAnswer :=
  match store.listReconciliationQueue with
  | none => .error (.runtime "settlement store does not expose reconciliation queue")
  | some listQueue => do
    let records := listQueue filters.args filters.limit
    let items ← (records.take filters.limit.toNat).mapM (queueRecordJson env now)
    let counts := match store.reconciliationQueueStatusCounts with
      | some countQueue => safeReconciliationQueueCounts countQueue filters
      | none => statusCountsFromQueueItems items
    return {
      generatedAt := isoformat now
      filters := filters.json
      counts := counts
      items := items
      truncated := decide (items.length < (counts.map Prod.snd).sum) }

/-- `get_reconciliation_queue`, after the authorization: the parameters are read at `asked`, the answer is made at
`now`. -/
def getReconciliationQueue (env : Rendering) (asked now : Instant) (store : QueueStore) (query : QueueQuery) :
    Except PyErr QueueAnswer := do
  let filters ← reconciliationQueueFilters env query asked
  reconciliationQueue env now store filters

/-! ## What the stores select -/

namespace QueueArgs

/-- The record passes every filter. -/
def selects (q : QueueArgs) (r : SettlementRecord) : Bool :=
  q.statuses.contains r.status &&
  q.staleBefore.all (fun t => r.updatedAt ≤ t) &&
  q.sellerAccountId.all (fun id => r.sellerAccountId == id) &&
  q.provider.all (fun provider => r.provider == provider) &&
  q.network.all (fun network => r.network == some network)

theorem selects_status {q : QueueArgs} {r : SettlementRecord} (h : q.selects r = true) : r.status ∈ q.statuses := by
  simp only [selects, Bool.and_eq_true, List.contains_iff_mem] at h
  exact h.1.1.1.1

/-- Without statuses there is nothing to select. -/
theorem filter_selects_nil {q : QueueArgs} (h : q.statuses.isEmpty = true) (records : List SettlementRecord) :
    records.filter q.selects = [] := by
  rw [List.filter_eq_nil_iff]
  intro r _ hr
  have hmem := selects_status hr
  rw [List.isEmpty_iff.mp h] at hmem
  cases hmem

theorem contains_value (statuses : List SettlementStatus) (s : SettlementStatus) :
    (statuses.map SettlementStatus.value).contains s.value = statuses.contains s := by
  rw [Bool.eq_iff_iff, List.contains_iff_mem, List.contains_iff_mem]
  exact List.mem_map_of_injective fun _ _ => SettlementStatus.value_inj.mp

/-- A clause that a statement has where an argument is given. -/
theorem all_given {α β : Type} (o : Option α) (clause : α → β → Bool) (row : β) :
    ((o.map clause).toList.all fun clause => clause row) = o.all fun a => clause a row := by
  cases o <;> simp

/-- The clauses of a statement, where `stale` is the clause about the age. -/
theorem clauses_eq (q : QueueArgs) (r : SettlementRecord) (stale : Instant → SettlementRecord → Bool)
    (h : ∀ t ∈ q.staleBefore, stale t r = decide (r.updatedAt ≤ t)) :
    ([fun row : SettlementRecord => (q.statuses.map SettlementStatus.value).contains row.status.value] ++
      (q.staleBefore.map stale).toList ++
      (q.sellerAccountId.map fun id (row : SettlementRecord) => row.sellerAccountId == id).toList ++
      (q.provider.map fun provider (row : SettlementRecord) => row.provider == provider).toList ++
      (q.network.map fun network (row : SettlementRecord) => row.network == some network).toList).all
        (fun clause => clause r) = q.selects r := by
  have hstale : (q.staleBefore.map stale).toList.all (fun clause => clause r) =
      q.staleBefore.all fun t => decide (r.updatedAt ≤ t) := by
    cases ht : q.staleBefore with
    | none => rfl
    | some t => simp [h t ht]
  simp only [List.all_append, hstale, all_given, List.all_cons, List.all_nil, Bool.and_true, contains_value, selects]

end QueueArgs

/-- The order of the queue. -/
def queueOrder (r : SettlementRecord) : Int ×ₗ Nat := toLex (r.updatedAt, r.recordId)

/-- The records of the page. -/
def QueueFilters.page (filters : QueueFilters) (records : List SettlementRecord) : List SettlementRecord :=
  (Select.orderBy queueOrder (records.filter filters.args.selects)).take filters.limit.toNat

/-- The statuses of all matching records. -/
def QueueFilters.statusKeys (filters : QueueFilters) (records : List SettlementRecord) : List String :=
  (records.filter filters.args.selects).map fun r => r.status.value

section Selected

variable {records rows : List SettlementRecord} {q : QueueArgs} {limit : Int}

theorem queueOrder_nodup (hids : (records.map SettlementRecord.recordId).Nodup) (p : SettlementRecord → Bool) :
    ((records.filter p).map queueOrder).Nodup := by
  have hsub : ((records.filter p).map SettlementRecord.recordId).Nodup :=
    hids.sublist (List.filter_sublist.map SettlementRecord.recordId)
  refine List.Nodup.of_map (fun k => (ofLex k).2) ?_
  rw [List.map_map]
  exact hsub

/-- The page of a store that orders by the time itself. -/
theorem page_eq (hp : rows.Perm records) (hids : (records.map SettlementRecord.recordId).Nodup) :
    Select.orderBy (fun r : SettlementRecord => toLex (r.updatedAt, r.recordId)) (rows.filter q.selects) =
      Select.orderBy queueOrder (records.filter q.selects) :=
  Select.orderBy_congr (hp.filter _) (queueOrder_nodup hids _) fun _ _ _ _ => Iff.rfl

/-- The rows by the texts of the times. -/
theorem text_order_iff {i j : Instant} (hi : IsDatetime i) (hj : IsDatetime j) (m n : Nat) :
    toLex (i, m) ≤ toLex (j, n) ↔ toLex (serializeDatetime i, m) ≤ toLex (serializeDatetime j, n) := by
  have heq := serializeDatetime_inj hi hj
  rw [Prod.Lex.toLex_le_toLex, Prod.Lex.toLex_le_toLex]
  simp only
  rw [lt_iff_le_and_ne, lt_iff_le_and_ne, serializeDatetime_le hi hj, ne_eq, ne_eq, heq]

end Selected

/-- What the two methods of a store give for a set of records. -/
structure QueueStore.Reads (store : QueueStore) (filters : QueueFilters) (records : List SettlementRecord) : Prop where
  list : ∃ f, store.listReconciliationQueue = some f ∧ f filters.args filters.limit = filters.page records
  counts : ∃ f, store.reconciliationQueueStatusCounts = some f ∧
    Select.Counts (filters.statusKeys records) (f filters.args)

section Stores

variable {records : List SettlementRecord} {filters : QueueFilters}

theorem boundedLimit_eq (filters : QueueFilters) : boundedLimit filters.limit = filters.limit.toNat := by
  have hbounds := filters.limit_bounds
  rw [boundedLimit]
  omega

/-- Without statuses the page is empty. -/
theorem page_nil (h : filters.args.statuses.isEmpty = true) : filters.page records = [] := by
  rw [QueueFilters.page, QueueArgs.filter_selects_nil h]
  simp [Select.orderBy]

theorem counts_nil (h : filters.args.statuses.isEmpty = true) : Select.Counts (filters.statusKeys records) [] := by
  rw [QueueFilters.statusKeys, QueueArgs.filter_selects_nil h]
  exact ⟨List.nodup_nil, fun k n => by simp⟩

theorem counts_perm {rows : List SettlementRecord} (hp : rows.Perm records) {d : List (String × Nat)}
    (h : Select.Counts ((rows.filter filters.args.selects).map fun r => r.status.value) d) :
    Select.Counts (filters.statusKeys records) d :=
  h.of_perm ((hp.filter _).map _)

theorem InMemory.State.reads (s : InMemory.State) (hp : s.recordList.Perm records)
    (hids : (records.map SettlementRecord.recordId).Nodup) : s.queueStore.Reads filters records := by
  refine ⟨⟨_, rfl, ?_⟩, ⟨_, rfl, ?_⟩⟩
  · rw [listReconciliationQueue]
    split
    · rename_i hempty
      exact (page_nil hempty).symm
    · rw [boundedLimit_eq, QueueFilters.page, ← page_eq hp hids]
      rfl
  · rw [reconciliationQueueStatusCounts]
    split
    · rename_i hempty
      exact counts_nil hempty
    · exact counts_perm hp (Select.countBy_counts _ _)

/-- The rows of a grouping by status have the values of statuses as keys. -/
theorem group_keys {α : Type} {status : α → SettlementStatus} {rows : List α} {e : String × Nat}
    (he : e ∈ Select.groupCount (fun row => (status row).value) rows) : ∃ s : SettlementStatus, s.value = e.1 := by
  obtain ⟨r, -, hr⟩ := List.mem_map.mp ((Select.groupCount_counts _ rows).mem_keys he)
  exact ⟨status r, hr⟩

/-- Every row of a grouping by status is kept. -/
theorem ofEntries_group {α : Type} (status : α → SettlementStatus) (rows : List α) :
    Select.ofEntries ((Select.groupCount (fun row => (status row).value) rows).filterMap fun row =>
        (SettlementStatus.ofValue row.1).map fun status => (status.value, row.2)) =
      Select.groupCount (fun row => (status row).value) rows := by
  have hsame : (Select.groupCount (fun row => (status row).value) rows).filterMap (fun row =>
      (SettlementStatus.ofValue row.1).map fun status => (status.value, row.2)) =
        Select.groupCount (fun row => (status row).value) rows := by
    refine (List.filterMap_congr fun e he => ?_).trans List.filterMap_some
    obtain ⟨s, hs⟩ := group_keys he
    rw [← hs, SettlementStatus.ofValue_value]
    simp [hs]
  rw [hsame, Select.ofEntries_eq (Select.groupCount_counts _ rows).nodup]

/-- The clauses on the texts select by time. -/
theorem Sqlite.Db.filter_clauses (db : Sqlite.Db) (q : QueueArgs) (hdated : ∀ r ∈ db.records, IsDatetime r.updatedAt)
    (hstale : ∀ t ∈ q.staleBefore, IsDatetime t) :
    (db.records.filter fun row =>
      ([fun row : SettlementRecord => (q.statuses.map SettlementStatus.value).contains row.status.value] ++
        (q.staleBefore.map fun staleBefore (row : SettlementRecord) =>
          decide (serializeDatetime row.updatedAt ≤ serializeDatetime staleBefore)).toList ++
        (q.sellerAccountId.map fun id (row : SettlementRecord) => row.sellerAccountId == id).toList ++
        (q.provider.map fun provider (row : SettlementRecord) => row.provider == provider).toList ++
        (q.network.map fun network (row : SettlementRecord) => row.network == some network).toList).all
          fun clause => clause row) = db.records.filter q.selects := by
  refine List.filter_congr fun r hr => q.clauses_eq r
    (fun t row => decide (serializeDatetime row.updatedAt ≤ serializeDatetime t)) fun t ht => ?_
  rw [decide_eq_decide]
  exact serializeDatetime_le (hdated r hr) (hstale t ht)

/-- The statement on the texts is the one on the times. -/
theorem Sqlite.Db.listReconciliationQueue_eq (db : Sqlite.Db) (q : QueueArgs) (limit : Int)
    (hdated : ∀ r ∈ db.records, IsDatetime r.updatedAt) (hstale : ∀ t ∈ q.staleBefore, IsDatetime t) :
    db.listReconciliationQueue q limit =
      (Select.orderBy queueOrder (db.records.filter q.selects)).take (boundedLimit limit) := by
  rw [listReconciliationQueue]
  split
  · rename_i hempty
    rw [QueueArgs.filter_selects_nil hempty]
    simp [Select.orderBy]
  · have horder : Select.orderBy (fun row : SettlementRecord => toLex (serializeDatetime row.updatedAt, row.recordId))
        (db.records.filter q.selects) = Select.orderBy queueOrder (db.records.filter q.selects) := by
      have hdate : ∀ r ∈ db.records.filter q.selects, IsDatetime r.updatedAt :=
        fun r hr => hdated r (List.mem_filter.mp hr).1
      have hmap := Select.orderBy_map queueOrder
        (fun row : SettlementRecord => toLex (serializeDatetime row.updatedAt, row.recordId)) id
        fun a ha b hb => text_order_iff (hdate a ha) (hdate b hb) a.recordId b.recordId
      rw [List.map_id, List.map_id] at hmap
      exact hmap.symm
    simp only [filter_clauses db q hdated hstale, horder]

theorem Sqlite.Db.reads (db : Sqlite.Db) (hp : db.records.Perm records)
    (hids : (records.map SettlementRecord.recordId).Nodup) (hdated : ∀ r ∈ records, IsDatetime r.updatedAt) :
    db.queueStore.Reads filters records := by
  have hrows : ∀ r ∈ db.records, IsDatetime r.updatedAt := fun r hr => hdated r (hp.mem_iff.mp hr)
  refine ⟨⟨_, rfl, ?_⟩, ⟨_, rfl, ?_⟩⟩
  · rw [listReconciliationQueue_eq db _ _ hrows filters.staleBefore_dated, boundedLimit_eq, QueueFilters.page,
      ← page_eq hp hids]
    rfl
  · rw [reconciliationQueueStatusCounts]
    split
    · rename_i hempty
      exact counts_nil hempty
    · simp only [filter_clauses db filters.args hrows filters.staleBefore_dated]
      rw [ofEntries_group SettlementRecord.status]
      exact counts_perm hp (Select.groupCount_counts _ _)

theorem Postgres.Db.reads (db : Postgres.Db) (hp : db.records.Perm records)
    (hids : (records.map SettlementRecord.recordId).Nodup) : db.queueStore.Reads filters records := by
  have hfilter := List.filter_congr (l := db.records) fun r _ => filters.args.clauses_eq r
    (fun t row => decide (row.updatedAt ≤ t)) fun _ _ => rfl
  refine ⟨⟨_, rfl, ?_⟩, ⟨_, rfl, ?_⟩⟩
  · rw [listReconciliationQueue]
    split
    · rename_i hempty
      exact (page_nil hempty).symm
    · rw [boundedLimit_eq, QueueFilters.page, ← page_eq hp hids, ← hfilter]
  · rw [reconciliationQueueStatusCounts]
    split
    · rename_i hempty
      exact counts_nil hempty
    · simp only [hfilter]
      have hgroup := Select.groupCount_counts (fun row : SettlementRecord => row.status.value)
        (db.records.filter filters.args.selects)
      have hall : ∀ e ∈ Select.groupCount (fun row : SettlementRecord => row.status.value)
          (db.records.filter filters.args.selects),
          (SettlementStatus.all.map SettlementStatus.value).contains e.1 = true := by
        intro e he
        obtain ⟨s, hs⟩ := group_keys he
        rw [← hs, QueueArgs.contains_value, List.contains_iff_mem]
        exact s.mem_all
      rw [List.filter_eq_self.mpr hall, Select.ofEntries_eq hgroup.nodup]
      exact counts_perm hp hgroup

end Stores

/-! ## The answer of a store -/

theorem mapM_ok_iff {α β : Type} {f : α → Except PyErr β} {xs : List α} {ys : List β} :
    xs.mapM f = .ok ys ↔ List.Forall₂ (fun x y => f x = .ok y) xs ys := by
  induction xs generalizing ys with
  | nil =>
    rw [List.mapM_nil, List.forall₂_nil_left_iff]
    exact ⟨fun h => (Except.ok.inj h).symm, fun h => h ▸ rfl⟩
  | cons x xs ih =>
    rw [List.mapM_cons, bind_ok, List.forall₂_cons_left_iff]
    constructor
    · rintro ⟨y, hy, h⟩
      obtain ⟨rest, hrest, h⟩ := bind_ok.mp h
      exact ⟨y, rest, hy, ih.mp hrest, (Except.ok.inj h).symm⟩
    · rintro ⟨y, rest, hy, hrest, rfl⟩
      exact ⟨y, hy, bind_ok.mpr ⟨rest, ih.mpr hrest, rfl⟩⟩

/-- A loop over a list returns exactly when every element has a result. -/
theorem mapM_returns_iff {α β : Type} {f : α → Except PyErr β} {xs : List α} :
    (∃ ys, xs.mapM f = .ok ys) ↔ ∀ x ∈ xs, ∃ y, f x = .ok y := by
  induction xs with
  | nil => simp [pure, Except.pure]
  | cons x xs ih =>
    rw [List.forall_mem_cons, ← ih, List.mapM_cons]
    constructor
    · rintro ⟨ys, h⟩
      obtain ⟨y, hy, h⟩ := bind_ok.mp h
      obtain ⟨rest, hrest, -⟩ := bind_ok.mp h
      exact ⟨⟨y, hy⟩, ⟨rest, hrest⟩⟩
    · rintro ⟨⟨y, hy⟩, ⟨rest, hrest⟩⟩
      exact ⟨y :: rest, bind_ok.mpr ⟨y, hy, bind_ok.mpr ⟨rest, hrest, rfl⟩⟩⟩

section Answers

variable {env : Rendering} {now : Instant} {store : QueueStore} {filters : QueueFilters} {records : List SettlementRecord}

/-- The counts of a store have statuses of the queue only, so none is left out. -/
theorem safeReconciliationQueueCounts_eq {f : QueueArgs → List (String × Nat)}
    (h : Select.Counts (filters.statusKeys records) (f filters.args)) :
    safeReconciliationQueueCounts f filters = f filters.args := by
  have hall : ∀ e ∈ f filters.args,
      (reconciliationQueueStatuses.map SettlementStatus.value).contains e.1 = true := by
    intro e he
    obtain ⟨r, hr, hvalue⟩ := List.mem_map.mp (h.mem_keys he)
    have hstatus := QueueArgs.selects_status (List.mem_filter.mp hr).2
    rw [← hvalue, QueueArgs.contains_value, List.contains_iff_mem]
    exact filters.statuses_mem _ hstatus
  rw [safeReconciliationQueueCounts, ← List.foldl_filter, List.filter_eq_self.mpr hall]
  exact Select.ofEntries_eq h.nodup

/-- The answer with these items and counts. -/
def QueueFilters.answer (filters : QueueFilters) (now : Instant) (items : List QueueRecordJson)
    (counts : List (String × Nat)) : QueueAnswer where
  generatedAt := isoformat now
  filters := filters.json
  counts := counts
  items := items
  truncated := decide (items.length < (counts.map Prod.snd).sum)

theorem page_length (filters : QueueFilters) (records : List SettlementRecord) :
    (filters.page records).length = min filters.limit.toNat (records.filter filters.args.selects).length := by
  rw [QueueFilters.page, List.length_take, (Select.orderBy_perm _ _).length_eq]

variable (env now) in
/-- A store answers with the items of the page and its counts, when the page can be shown. -/
theorem reconciliationQueue_eq (h : store.Reads filters records) : ∃ counts,
    Select.Counts (filters.statusKeys records) counts ∧
      reconciliationQueue env now store filters =
        ((filters.page records).mapM (queueRecordJson env now)).map fun items => filters.answer now items counts := by
  obtain ⟨⟨list, hlist, hpage⟩, ⟨count, hcount, hcounts⟩⟩ := h
  have htake : (filters.page records).take filters.limit.toNat = filters.page records := by
    refine List.take_of_length_le ?_
    rw [page_length]
    exact Nat.min_le_left _ _
  refine ⟨_, hcounts, ?_⟩
  rw [reconciliationQueue, hlist, hcount]
  simp only [hpage, htake, safeReconciliationQueueCounts_eq hcounts]
  cases (filters.page records).mapM (queueRecordJson env now) <;> rfl

end Answers

/-! ## The right answer -/

/-- The first `limit` matching records in `(updated_at, id)` order. -/
structure FirstMatching (filters : QueueFilters) (records page : List SettlementRecord) : Prop where
  ordered : ∃ rest, (page ++ rest).Perm (records.filter filters.args.selects) ∧ (page ++ rest).Pairwise fun r r' =>
    r.updatedAt < r'.updatedAt ∨ r.updatedAt = r'.updatedAt ∧ r.recordId < r'.recordId
  length : page.length = min filters.limit.toNat (records.filter filters.args.selects).length

structure RightAnswer (env : Rendering) (now : Instant) (filters : QueueFilters) (records : List SettlementRecord)
    (answer : QueueAnswer) : Prop where
  items : ∃ page, FirstMatching filters records page ∧
    List.Forall₂ (fun r item => queueRecordJson env now r = .ok item) page answer.items
  counts : ∀ s : SettlementStatus, (Dict.get answer.counts s.value).getD 0 =
    (records.filter fun r => filters.args.selects r && r.status == s).length
  truncated : answer.truncated = true ↔ ∃ r ∈ records, filters.args.selects r = true ∧
    ∀ item ∈ answer.items, item.recordId ≠ r.recordId

/-- The same answer; the order of the entries of `counts` does not count. -/
structure QueueAnswer.Same (a b : QueueAnswer) : Prop where
  generatedAt : a.generatedAt = b.generatedAt
  filters : a.filters = b.filters
  counts : a.counts.Perm b.counts
  items : a.items = b.items
  truncated : a.truncated = b.truncated

/-- Records with distinct ids and times of the calendar, as each of the three stores holds them. -/
structure Snapshot where
  records : List SettlementRecord
  ids : (records.map SettlementRecord.recordId).Nodup
  dated : ∀ r ∈ records, IsDatetime r.updatedAt
  memory : InMemory.State
  sqlite : Sqlite.Db
  postgres : Postgres.Db
  memory_holds : memory.recordList.Perm records
  sqlite_holds : sqlite.records.Perm records
  postgres_holds : postgres.records.Perm records

namespace Snapshot

variable (snapshot : Snapshot)

def stores : List QueueStore :=
  [snapshot.memory.queueStore, snapshot.sqlite.queueStore, snapshot.postgres.queueStore]

theorem reads {store : QueueStore} (h : store ∈ snapshot.stores) (filters : QueueFilters) :
    store.Reads filters snapshot.records := by
  simp only [stores, List.mem_cons, List.not_mem_nil, or_false] at h
  rcases h with rfl | rfl | rfl
  · exact snapshot.memory.reads snapshot.memory_holds snapshot.ids
  · exact snapshot.sqlite.reads snapshot.sqlite_holds snapshot.ids snapshot.dated
  · exact snapshot.postgres.reads snapshot.postgres_holds snapshot.ids

end Snapshot

section Right

variable {env : Rendering} {now : Instant} {filters : QueueFilters} {records : List SettlementRecord}

theorem page_firstMatching (hids : (records.map SettlementRecord.recordId).Nodup) :
    FirstMatching filters records (filters.page records) := by
  refine ⟨⟨(Select.orderBy queueOrder (records.filter filters.args.selects)).drop filters.limit.toNat, ?_, ?_⟩,
    page_length filters records⟩
  · rw [QueueFilters.page, List.take_append_drop]
    exact Select.orderBy_perm _ _
  · rw [QueueFilters.page, List.take_append_drop]
    refine (Select.orderBy_strict (queueOrder_nodup hids _)).imp fun {r r'} h => ?_
    exact Prod.Lex.toLex_lt_toLex.mp h

/-- A record of the page has an item, and no other record has. -/
theorem item_iff {page : List SettlementRecord} {items : List QueueRecordJson}
    (h : List.Forall₂ (fun r item => queueRecordJson env now r = .ok item) page items) (n : Nat) :
    (∃ item ∈ items, item.recordId = n) ↔ ∃ r ∈ page, r.recordId = n := by
  induction h with
  | nil => simp
  | cons hitem _ ih =>
    simp only [List.mem_cons, exists_eq_or_imp, ih, queueRecordJson_recordId hitem]

/-- The number of matching records of one status. -/
theorem count_status (s : SettlementStatus) : (filters.statusKeys records).count s.value =
    (records.filter fun r => filters.args.selects r && r.status == s).length := by
  rw [QueueFilters.statusKeys, List.count, List.countP_map, List.countP_eq_length_filter, List.filter_filter]
  congr 1
  refine List.filter_congr fun r _ => ?_
  rw [Bool.and_comm]
  congr 1
  rw [Function.comp_apply, Bool.eq_iff_iff, beq_iff_eq, beq_iff_eq]
  exact SettlementStatus.value_inj

theorem answer_right (hids : (records.map SettlementRecord.recordId).Nodup) {items : List QueueRecordJson}
    (hitems : (filters.page records).mapM (queueRecordJson env now) = .ok items) {counts : List (String × Nat)}
    (hcounts : Select.Counts (filters.statusKeys records) counts) :
    RightAnswer env now filters records (filters.answer now items counts) := by
  have hshown := mapM_ok_iff.mp hitems
  refine ⟨⟨filters.page records, page_firstMatching hids, hshown⟩, fun s => ?_, ?_⟩
  · show (Dict.get counts s.value).getD 0 = _
    rw [hcounts.get, count_status]
  · show decide (items.length < (counts.map Prod.snd).sum) = true ↔
      ∃ r ∈ records, filters.args.selects r = true ∧ ∀ item ∈ items, item.recordId ≠ r.recordId
    have hordered : (Select.orderBy queueOrder (records.filter filters.args.selects)).Nodup :=
      (queueOrder_nodup hids _).of_map.perm (Select.orderBy_perm queueOrder _).symm
    have hleft : filters.limit.toNat < (records.filter filters.args.selects).length ↔
        ∃ r ∈ records.filter filters.args.selects, r ∉ filters.page records := by
      rw [← (Select.orderBy_perm queueOrder (records.filter filters.args.selects)).length_eq,
        ← Select.exists_not_mem_take hordered]
      simp only [Select.mem_orderBy, QueueFilters.page]
    have hitem : ∀ r ∈ records, (∀ item ∈ items, item.recordId ≠ r.recordId) ↔ r ∉ filters.page records := by
      intro r hr
      have hiff := item_iff hshown r.recordId
      constructor
      · intro hnone hmem
        obtain ⟨item, hin, heq⟩ := hiff.mpr ⟨r, hmem, rfl⟩
        exact hnone item hin heq
      · intro hnot item hin heq
        obtain ⟨r', hr', hid⟩ := hiff.mp ⟨item, hin, heq⟩
        have hmem : r' ∈ records := (List.mem_filter.mp (Select.mem_orderBy.mp (List.mem_of_mem_take hr'))).1
        exact hnot (List.inj_on_of_nodup_map hids hmem hr hid ▸ hr')
    rw [decide_eq_true_eq, hcounts.sum, QueueFilters.statusKeys, List.length_map, ← hshown.length_eq, page_length,
      min_lt_iff, or_iff_left (lt_irrefl _), hleft]
    simp only [List.mem_filter, and_assoc]
    exact exists_congr fun r => and_congr_right fun hr => and_congr_right fun _ => (hitem r hr).symm

variable {snapshot : Snapshot}

theorem renderable_of_answered {answer : QueueAnswer} {store : QueueStore} (hstore : store ∈ snapshot.stores)
    (h : reconciliationQueue env now store filters = .ok answer) :
    ∀ r ∈ filters.page snapshot.records, Renderable env r := by
  obtain ⟨counts, -, heq⟩ := reconciliationQueue_eq env now (snapshot.reads hstore filters)
  obtain ⟨items, hitems, -⟩ := map_ok.mp (heq ▸ h)
  intro r hr
  exact queueRecordJson_ok_iff.mp (mapM_returns_iff.mp ⟨items, hitems⟩ r hr)

theorem answered_of_renderable (h : ∀ r ∈ filters.page snapshot.records, Renderable env r) :
    ∃ answer, RightAnswer env now filters snapshot.records answer ∧ ∀ store ∈ snapshot.stores, ∃ answer',
      reconciliationQueue env now store filters = .ok answer' ∧ answer'.Same answer := by
  obtain ⟨items, hitems⟩ : ∃ items, (filters.page snapshot.records).mapM (queueRecordJson env now) = .ok items :=
    mapM_returns_iff.mpr fun r hr => queueRecordJson_ok_iff.mpr (h r hr)
  have hcounts := Select.groupCount_counts id (filters.statusKeys snapshot.records)
  rw [List.map_id] at hcounts
  refine ⟨_, answer_right snapshot.ids hitems hcounts, fun store hstore => ?_⟩
  obtain ⟨counts', hcounts', heq⟩ := reconciliationQueue_eq env now (snapshot.reads hstore filters)
  refine ⟨filters.answer now items counts', heq.trans (by rw [hitems]; rfl), rfl, rfl, hcounts'.perm hcounts, rfl, ?_⟩
  show decide (items.length < (counts'.map Prod.snd).sum) = decide (items.length < _)
  rw [hcounts'.sum, hcounts.sum]

end Right

/-- The three stores give one answer, and it is the right one, exactly when every record of the page can be shown. -/
theorem reconciliation_queue_right_iff (env : Rendering) (now : Instant) (snapshot : Snapshot) (filters : QueueFilters) :
    (∃ answer, RightAnswer env now filters snapshot.records answer ∧ ∀ store ∈ snapshot.stores, ∃ answer',
      reconciliationQueue env now store filters = .ok answer' ∧ answer'.Same answer) ↔
    ∀ r ∈ filters.page snapshot.records, Renderable env r := by
  constructor
  · rintro ⟨answer, _, hstores⟩
    have hmem : snapshot.memory.queueStore ∈ snapshot.stores := List.mem_cons_self
    obtain ⟨answer', hanswer, -⟩ := hstores _ hmem
    exact renderable_of_answered hmem hanswer
  · exact answered_of_renderable

/-- A request is refused for its parameters whatever the store, or it is answered by all three stores alike, and rightly,
exactly when every record of its page can be shown. -/
theorem getReconciliationQueue_right (env : Rendering) (asked now : Instant) (snapshot : Snapshot) (query : QueueQuery) :
    (∃ e, ∀ store, getReconciliationQueue env asked now store query = .error e) ∨
      ∃ filters, reconciliationQueueFilters env query asked = .ok filters ∧
        ((∃ answer, RightAnswer env now filters snapshot.records answer ∧ ∀ store ∈ snapshot.stores, ∃ answer',
          getReconciliationQueue env asked now store query = .ok answer' ∧ answer'.Same answer) ↔
        ∀ r ∈ filters.page snapshot.records, Renderable env r) := by
  cases hfilters : reconciliationQueueFilters env query asked with
  | error e => exact .inl ⟨e, fun store => by rw [getReconciliationQueue, hfilters]; rfl⟩
  | ok filters =>
    have hsame : ∀ store, getReconciliationQueue env asked now store query = reconciliationQueue env now store filters :=
      fun store => by rw [getReconciliationQueue, hfilters]; rfl
    refine .inr ⟨filters, rfl, ?_⟩
    simp only [hsame]
    constructor
    · rintro ⟨answer, _, hstores⟩
      obtain ⟨answer', hanswer, -⟩ := hstores snapshot.memory.queueStore List.mem_cons_self
      exact renderable_of_answered List.mem_cons_self hanswer
    · exact answered_of_renderable

/-! ## A failing claim -/

/-- ASCII tables, and text functions for ASCII. -/
def Rendering.ascii : Rendering where
  text :=
    { containerStr := fun _ => "{}", repr := fun _ => "", lower := fun s => String.ofList (s.toList.map Char.toLower)
      decimal := fun _ => .invalid, jsonDumps := fun _ => "{}", sha256 := id }
  unicode := .ascii
  decimals := .ascii

/-- Two payments with an unknown outcome; the seller of the older one has an id of two letters. -/
def shortSeller : List SettlementRecord :=
  [{ recordId := 1, sellerAccountId := "ab", fingerprint := "f1", provider := "exact_evm", scheme := some "exact"
     network := some "eip155:5042002", status := .unknown, createdAt := 0, updatedAt := 0 },
   { recordId := 2, sellerAccountId := "alpha", fingerprint := "f2", provider := "exact_evm", scheme := some "exact"
     network := some "eip155:5042002", status := .unknown, createdAt := 1000000, updatedAt := 1000000 }]

def shortSellerStores : Snapshot where
  records := shortSeller
  ids := by decide
  dated := by decide
  memory := { records := shortSeller.map fun r => (r.profileKey, r) }
  sqlite := { records := shortSeller }
  postgres := { records := shortSeller }
  memory_holds := List.Perm.refl _
  sqlite_holds := List.Perm.refl _
  postgres_holds := List.Perm.refl _

/-- No filter but the statuses of the queue. -/
def wholeQueue : QueueFilters where
  statuses := reconciliationQueueStatuses
  minAgeSeconds := 0
  staleBefore := none
  sellerRef := none
  provider := none
  network := none
  limit := 50
  statuses_mem := fun _ h => h
  staleBefore_dated := fun _ h => nomatch h
  limit_bounds := by decide

/-- The older payment cannot be shown, and hides the other one. -/
theorem short_seller_hides_queue :
    (∀ store ∈ shortSellerStores.stores, reconciliationQueue Rendering.ascii 2000000 store wholeQueue =
      .error (.value "seller reference must be 3 to 64 characters")) ∧
    ¬ ∃ answer, RightAnswer Rendering.ascii 2000000 wholeQueue shortSellerStores.records answer ∧
      ∀ store ∈ shortSellerStores.stores, ∃ answer',
        reconciliationQueue Rendering.ascii 2000000 store wholeQueue = .ok answer' ∧ answer'.Same answer := by
  have hmemory : reconciliationQueue Rendering.ascii 2000000 shortSellerStores.memory.queueStore wholeQueue =
      .error (.value "seller reference must be 3 to 64 characters") := rfl
  have hsqlite : reconciliationQueue Rendering.ascii 2000000 shortSellerStores.sqlite.queueStore wholeQueue =
      .error (.value "seller reference must be 3 to 64 characters") := rfl
  have hpostgres : reconciliationQueue Rendering.ascii 2000000 shortSellerStores.postgres.queueStore wholeQueue =
      .error (.value "seller reference must be 3 to 64 characters") := rfl
  refine ⟨fun store hstore => ?_, ?_⟩
  · simp only [Snapshot.stores, List.mem_cons, List.not_mem_nil, or_false] at hstore
    rcases hstore with rfl | rfl | rfl
    · exact hmemory
    · exact hsqlite
    · exact hpostgres
  · rintro ⟨answer, _, hstores⟩
    obtain ⟨answer', hanswer, -⟩ := hstores _ List.mem_cons_self
    rw [hmemory] at hanswer
    cases hanswer

end HostedFacilitator
