import HostedFacilitator.Engine.Fingerprint
import HostedFacilitator.ExactEvm.Receipt
import HostedFacilitator.Local.Invariant
import HostedFacilitator.Postgres.StatusMachine
import HostedFacilitator.Python.Chars
import HostedFacilitator.Python.Literals
import HostedFacilitator.Storage.InMemory
import HostedFacilitator.Storage.Sqlite

/-!
# The amounts of settled payments

The amount of a requirement is read in three ways: the validator takes it apart with `Decimal()`, the totals of the three
stores ask `isdigit()` first and count zero otherwise, and the check of a receipt calls `int()`. A total is the sum of the
numbers that the validator saw, and a receipt is compared with that number, where the text of the amount is an integer
literal and, unless the number is zero, has digits only (`amounts_read_alike_iff`).
-/

namespace HostedFacilitator

/-- `_USDC_ASSET`. -/
def usdcAsset : String := "0x3600000000000000000000000000000000000000"

section Readers

variable (text : Text) (u : Decimals) (w : Unicode)

/-- `_asset_from_requirements`. -/
def assetFromRequirements (requirements : PyDict) : String :=
  text.lower (((requirements.get "asset").orElse (.str "")).toStr text)

/-- `_amount_atomic_from_requirements`. -/
def amountAtomicFromRequirements (requirements : PyDict) : Except PyErr Int :=
  let amount := ((requirements.get "amount").orElse (.str "")).toStr text
  if w.isDigits amount.toList then orBadLiteral (u.ofText 10 amount) else .ok 0

/-- The records that a total looks at. -/
def countsFor (seller : String) (record : SettlementRecord) : Bool :=
  record.sellerAccountId == seller && (record.status == .settled || record.status == .reconciled)

/-- `InMemorySettlementStore.settlement_amount_atomic_for_seller`. -/
def InMemory.State.settlementAmountAtomicForSeller (s : InMemory.State) (seller : String) : Except PyErr Int :=
  (s.recordList.filter fun r =>
    countsFor seller r && assetFromRequirements text r.rawRequirements == usdcAsset).foldlM
      (fun total r => do
        let amount ← amountAtomicFromRequirements text u w r.rawRequirements
        .ok (total + amount)) 0

/-- `SqliteSettlementStore.settlement_amount_atomic_for_seller`: a record that raises is skipped. -/
def Sqlite.Db.settlementAmountAtomicForSeller (db : Sqlite.Db) (seller : String) : Int :=
  (db.records.filter (countsFor seller)).foldl
    (fun total r =>
      if assetFromRequirements text r.rawRequirements = usdcAsset then
        match amountAtomicFromRequirements text u w r.rawRequirements with
        | .ok amount => total + amount
        | .error _ => total
      else total) 0

/-- The end of the loop of `PostgresSettlementStore.settlement_amount_atomic_for_seller`, on a row of the asset. -/
def Postgres.addAmount (requirements : PyDict) (total : Int) : Except PyErr Int :=
  let amount := ((requirements.get "amount").orElse (.str "")).toStr text
  if w.isDigits amount.toList then do
    let amount ← orBadLiteral (u.ofText 10 amount)
    .ok (total + amount)
  else .ok total

/-- `PostgresSettlementStore.settlement_amount_atomic_for_seller`. -/
def Postgres.Db.settlementAmountAtomicForSeller (db : Postgres.Db) (seller : String) : Except PyErr Int :=
  (db.records.filter (countsFor seller)).foldlM
    (fun total r =>
      if text.lower (((r.rawRequirements.get "asset").orElse (.str "")).toStr text) ≠ usdcAsset then .ok total
      else Postgres.addAmount text u w r.rawRequirements total) 0

/-- The amount with which `_receipt_contains_exact_transfer` compares the value of a transfer. -/
def ExactEvm.expectedAmount (requirements : PyDict) : Option Int :=
  u.ofText 10 ((requirements.get "amount").toStr text)

end Readers

section Receipt

variable {r : ExactEvm.Reading} {record : SettlementRecord} {receipt : ExactEvm.ChainVal}

/-- One of the receipt's logs is the record's transfer, of the amount `n`. -/
def ExactEvm.ShowsTransfer (r : ExactEvm.Reading) (receipt : ExactEvm.ChainVal) (record : SettlementRecord) (n : Int) :
    Prop :=
  ∃ e log, ExactEvm.expectedTransfer r record = some e ∧ e.amount = n ∧ log ∈ ExactEvm.receiptLogs receipt ∧
    ExactEvm.Transfer r e log

/-- What the check does with a record whose amount is the text `s`, for the number `n`: it compares with `n` where the
text is an integer literal, and accepts no receipt where it is none. -/
structure ExactEvm.ChecksAmount (r : ExactEvm.Reading) (record : SettlementRecord) (s : String) (n : Int) : Prop where
  shows : IntLiteral r.decimals s → ∀ receipt, ExactEvm.receiptContainsExactTransfer r receipt record = .ok true →
    ExactEvm.ShowsTransfer r receipt record n
  refuses : ¬ IntLiteral r.decimals s → ∀ receipt, ExactEvm.receiptContainsExactTransfer r receipt record = .ok false

/-- The amount that a receipt is compared with. -/
theorem ExactEvm.expectedTransfer_amount {e : ExactEvm.Expected} (h : ExactEvm.expectedTransfer r record = some e) :
    ExactEvm.expectedAmount r.text r.decimals record.rawRequirements = some e.amount :=
  (ExactEvm.expectedTransfer_of h).amount

/-- A record whose amount `int()` does not read is proved by no receipt. -/
theorem ExactEvm.receiptContainsExactTransfer_none
    (h : ExactEvm.expectedAmount r.text r.decimals record.rawRequirements = none) (receipt : ExactEvm.ChainVal) :
    ExactEvm.receiptContainsExactTransfer r receipt record = .ok false := by
  have hnone : ExactEvm.expectedTransfer r record = none := by
    cases he : ExactEvm.expectedTransfer r record with
    | none => rfl
    | some e =>
      rw [ExactEvm.expectedTransfer_amount he] at h
      cases h
  rw [ExactEvm.receiptContainsExactTransfer, ExactEvm.provingLog, hnone]
  rfl

/-- A receipt that proves a record shows a transfer of what `int()` reads. -/
theorem ExactEvm.receiptContainsExactTransfer_amount {n : Int}
    (h : ExactEvm.expectedAmount r.text r.decimals record.rawRequirements = some n)
    (hproved : ExactEvm.receiptContainsExactTransfer r receipt record = .ok true) :
    ExactEvm.ShowsTransfer r receipt record n := by
  obtain ⟨log, hlog⟩ := ExactEvm.receiptContainsExactTransfer_true hproved
  obtain ⟨e, he, hmem, htransfer, -⟩ := ExactEvm.provingLog_transfer hlog
  rw [ExactEvm.expectedTransfer_amount he] at h
  exact ⟨e, log, he, Option.some.inj h, hmem, htransfer⟩

end Receipt

/-! ## One amount -/

section Amount

variable (text : Text) (u : Decimals) (w : Unicode)

/-- The totals and the check of a receipt read `n`. -/
structure ReadAlike (requirements : PyDict) (n : Nat) : Prop where
  total : amountAtomicFromRequirements text u w requirements = .ok (n : Int)
  postgresTotal : ∀ total, Postgres.addAmount text u w requirements total = .ok (total + n)
  receipt : ExactEvm.expectedAmount text u requirements = some (n : Int)

/-- The text of the amount is an integer literal, and unless the number is zero it has digits only. -/
structure PlainAmount (v : PyVal) (n : Nat) : Prop where
  literal : IntLiteral u (v.toStr text)
  digits : n ≠ 0 → v.truthy = true ∧ w.isDigits (v.toStr text).toList = true

variable {text u w} {v : PyVal} {n : Nat} {requirements : PyDict}

/-- A literal is read as the number that the validator saw. -/
theorem ofText_of_number (hn : numberIn text u v = some (.rational n)) (h : IntLiteral u (v.toStr text)) :
    u.ofText 10 (v.toStr text) = some (n : Int) := by
  obtain ⟨m, hm⟩ := Option.isSome_iff_exists.mp (ofText_isSome.mpr h)
  obtain ⟨negative, c, hdecimal, rfl⟩ := decimal_of_ofText hm
  have hv : v ≠ .null := by
    rintro rfl
    cases hn
  rw [numberIn_of_ne_null hv, hdecimal] at hn
  have hq := Number.rational.inj (Option.some.inj hn)
  rw [zpow_zero, mul_one] at hq
  rw [hm, Option.some.injEq]
  cases negative with
  | false =>
    rw [if_neg (by decide), one_mul] at hq
    rw [if_neg (by decide)]
    exact_mod_cast hq
  | true =>
    rw [if_pos rfl] at hq ⊢
    have hcast : ((-(c : Int) : Int) : ℚ) = ((n : Int) : ℚ) := by
      push_cast
      linarith
    exact_mod_cast hcast

/-- What the totals read: the text of a true amount, or nothing. -/
theorem amountText (v : PyVal) :
    (v.orElse (.str "")).toStr text = if v.truthy = true then v.toStr text else "" := by
  unfold PyVal.orElse
  split <;> rfl

theorem isDigits_empty : w.isDigits "".toList = false := rfl

/-- **The readers agree on an amount exactly when** it is plain. -/
theorem readAlike_iff (hn : numberIn text u (requirements.get "amount") = some (.rational n)) :
    ReadAlike text u w requirements n ↔ PlainAmount text u w (requirements.get "amount") n := by
  generalize hv : requirements.get "amount" = v at hn
  constructor
  · intro h
    have hreceipt := h.receipt
    rw [ExactEvm.expectedAmount, hv] at hreceipt
    refine ⟨ofText_isSome.mp (by rw [hreceipt]; rfl), fun hne => ?_⟩
    have htotal := h.total
    rw [amountAtomicFromRequirements, hv, amountText] at htotal
    by_cases ht : v.truthy = true
    · refine ⟨ht, ?_⟩
      by_contra hdigits
      rw [if_pos ht, if_neg hdigits] at htotal
      exact hne (by exact_mod_cast (Except.ok.inj htotal).symm)
    · rw [if_neg ht, isDigits_empty] at htotal
      exact absurd (by exact_mod_cast (Except.ok.inj htotal).symm) hne
  · intro h
    have hread := ofText_of_number hn h.literal
    -- both totals read the text, or it does not count and the number is zero
    have htext : (w.isDigits ((v.orElse (.str "")).toStr text).toList = true ∧
          u.ofText 10 ((v.orElse (.str "")).toStr text) = some (n : Int)) ∨
        (w.isDigits ((v.orElse (.str "")).toStr text).toList = false ∧ n = 0) := by
      rw [amountText]
      by_cases ht : v.truthy = true
      · rw [if_pos ht]
        cases hd : w.isDigits (v.toStr text).toList with
        | true => exact .inl ⟨rfl, hread⟩
        | false =>
          refine .inr ⟨rfl, ?_⟩
          by_contra hne
          rw [(h.digits hne).2] at hd
          cases hd
      · rw [if_neg ht]
        refine .inr ⟨isDigits_empty, ?_⟩
        by_contra hne
        exact ht (h.digits hne).1
    refine ⟨?_, fun total => ?_, by rw [ExactEvm.expectedAmount, hv, hread]⟩
    · rw [amountAtomicFromRequirements, hv]
      rcases htext with ⟨hd, ho⟩ | ⟨hd, rfl⟩
      · rw [if_pos hd, ho]
        rfl
      · rw [if_neg (by simp [hd])]
        rfl
    · rw [Postgres.addAmount, hv]
      rcases htext with ⟨hd, ho⟩ | ⟨hd, rfl⟩
      · rw [if_pos hd, ho]
        rfl
      · rw [if_neg (by simp [hd]), Nat.cast_zero, add_zero]

end Amount

/-! ## No operation writes `RECONCILED` -/

section Statuses

variable {σ : Type} {L : LawfulStore σ}

theorem ProviderResult.finalization_not_reconciled (result : ProviderResult) (call : SettleCall)
    (record : SettlementRecord) : (result.finalization call record).recordStatus ≠ .reconciled := by
  intro h
  cases result with
  | raised => cases h
  | returned o =>
    simp only [ProviderResult.finalization, HostedFacilitator.finalization, providerStatus_completeOutcome] at h
    cases hs : providerStatus o <;> rw [hs] at h <;> cases h

/-- The rows after a step of a call. -/
theorem Local.RowsChange.not_reconciled {s : σ} {call : SettleCall} {phase : Local.Phase}
    {rows : List SettlementRecord} (h : Local.RowsChange L s call phase rows)
    (hrows : ∀ row ∈ L.records s, row.status ≠ .reconciled) : ∀ row ∈ rows, row.status ≠ .reconciled := by
  intro row hrow
  cases h with
  | same => exact hrows row hrow
  | counted n now =>
    obtain ⟨x, hx, rfl⟩ := Table.mem_update.mp hrow
    split
    · exact hrows x hx
    · exact hrows x hx
  | added n now =>
    rcases List.mem_append.mp hrow with hrow | hrow
    · exact hrows row hrow
    · rw [List.mem_singleton.mp hrow]
      simp
  | @finalized r a result now =>
    obtain ⟨x, hx, rfl⟩ := Table.mem_update.mp hrow
    split
    · exact result.finalization_not_reconciled call r
    · exact hrows x hx

/-- No record of the in-memory or the SQLite store is ever reconciled. -/
theorem Local.reachable_not_reconciled {s : Local.System σ} (h : (Local.machine L).Reachable s) :
    ∀ row ∈ L.records s.store, row.status ≠ .reconciled := by
  refine h.invariant (I := fun s => ∀ row ∈ L.records s.store, row.status ≠ .reconciled) ?_ ?_
  · have hnil : L.records (Local.machine L).start.store = [] := L.init.records_eq
    rw [hnil]
    simp
  · intro s e t hs hrows hn
    cases e with
    | arrive call limited =>
      cases hn
      exact hrows
    | engine i input =>
      obtain ⟨p, store', phase', hp, hstep, rfl⟩ := Local.System.next_engine hn
      have hinv := Local.reachable_inv hs
      exact (hinv.rowsChange hp (Local.engineNext_step hinv.store hstep)).not_reconciled hrows

/-- A write keeps the rows from `RECONCILED` when it keeps each of them. -/
theorem Postgres.Db.write_not_reconciled {db : Postgres.Db} {id : Nat} {f : SettlementRecord → SettlementRecord}
    (h : ∀ row ∈ db.records, row.status ≠ .reconciled)
    (hf : ∀ row : SettlementRecord, row.status ≠ .reconciled → (f row).status ≠ .reconciled) :
    ∀ row ∈ (db.write id f).records, row.status ≠ .reconciled := by
  intro row hrow
  obtain ⟨x, hx, rfl⟩ := Table.mem_update.mp hrow
  split
  · exact hf x (h x hx)
  · exact h x hx

/-- The four marks write other statuses. -/
theorem Postgres.Db.applyMark_not_reconciled {db : Postgres.Db} {id : Nat} {snapshot : SettlementRecord}
    {m : Postgres.Db.Mark} {now : Instant} (h : ∀ row ∈ db.records, row.status ≠ .reconciled)
    (hm : HostedSettlementReconciler.Mark.Ok snapshot m) :
    ∀ row ∈ (db.applyMark id m now).records, row.status ≠ .reconciled := by
  rw [Postgres.Db.applyMark, Postgres.Db.finishStartedAttempts_records]
  refine Postgres.Db.write_not_reconciled h fun row _ hr => ?_
  cases hm <;> cases hr

theorem Postgres.EngineStep.not_reconciled {hash : String → Int} {s : Postgres.System} (hc : s.Claims hash)
    (h : ∀ row ∈ s.db.records, row.status ≠ .reconciled) {i : Nat} {p : Postgres.Process}
    {input : Postgres.EngineInput} {db' : Postgres.Db} {phase' : Postgres.Phase} (hp : s.processes[i]? = some p)
    (hs : Postgres.EngineStep hash s.db s.processes p.call p.phase input db' phase') :
    ∀ row ∈ db'.records, row.status ≠ .reconciled := by
  obtain ⟨call, phase⟩ := p
  simp only at hs
  cases hs with
  | leave | lock | miss | search | insert | start | invoke | reply | refuse | abort => exact h
  | @commit _ r a =>
    intro row hrow
    rcases List.mem_append.mp hrow with hrow | hrow
    · exact h row hrow
    · obtain ⟨⟨now, hfresh⟩, -⟩ := hc.pending hp (r := r) rfl
      rw [List.mem_singleton.mp hrow, hfresh]
      simp
  | count => exact Postgres.Db.write_not_reconciled h fun row hrow => hrow
  | @finalize now r a result db' hok =>
    obtain ⟨-, -, -, -, -, rfl⟩ := (Postgres.Db.finalize_ok hc.uniqueIds).mp hok
    exact Postgres.Db.write_not_reconciled h fun row _ => result.finalization_not_reconciled call r

theorem Postgres.Step.not_reconciled {hash : String → Int} {s s' : Postgres.System} {e : Postgres.Event}
    (hc : s.Claims hash) (hs : Postgres.Step hash s e s') (h : ∀ row ∈ s.db.records, row.status ≠ .reconciled) :
    ∀ row ∈ s'.db.records, row.status ≠ .reconciled := by
  cases hs with
  | tick | rest | arrive => exact h
  | engine hp hstep => exact hstep.not_reconciled hc h hp
  | workerClaims | released | operatorClaims | operatorReleases =>
    exact Postgres.Db.write_not_reconciled h fun row hrow => hrow
  | workerMarks _ _ hdec =>
    exact Postgres.Db.applyMark_not_reconciled h (HostedSettlementReconciler.handleClaimed_ok hdec)
  | @operatorReviews _ _ _ row => exact Postgres.Db.applyMark_not_reconciled h (.manualReview (r := row) _)

/-- No record of the Postgres store is ever reconciled. -/
theorem Postgres.reachable_not_reconciled {hash : String → Int} {s : Postgres.System}
    (h : (Postgres.machine hash).Reachable s) : ∀ row ∈ s.db.records, row.status ≠ .reconciled := by
  refine h.invariant (I := fun s => ∀ row ∈ s.db.records, row.status ≠ .reconciled) (by simp [Postgres.machine]) ?_
  intro s e t hs hrows hn
  exact (Postgres.reachable_step hs hn).not_reconciled (Postgres.reachable_claims hs) hrows

end Statuses

/-! ## The totals -/

section Totals

variable {α : Type} {l : List α}

/-- A loop that adds a number for every element. -/
theorem foldlM_add {f : Int → α → Except PyErr Int} (value : α → Nat)
    (h : ∀ a ∈ l, ∀ total, f total a = .ok (total + value a)) (init : Int) :
    l.foldlM f init = .ok (init + ((l.map value).sum : Nat)) := by
  induction l generalizing init with
  | nil => simp [pure, Except.pure]
  | cons a l ih =>
    rw [List.foldlM_cons, h a List.mem_cons_self]
    show l.foldlM f (init + value a) = _
    rw [ih (fun b hb => h b (List.mem_cons_of_mem a hb)), List.map_cons, List.sum_cons]
    push_cast
    rw [add_assoc]

theorem foldl_add {f : Int → α → Int} (value : α → Nat) (h : ∀ a ∈ l, ∀ total, f total a = total + value a)
    (init : Int) : l.foldl f init = init + ((l.map value).sum : Nat) := by
  induction l generalizing init with
  | nil => simp
  | cons a l ih =>
    rw [List.foldl_cons, h a List.mem_cons_self, ih (fun b hb => h b (List.mem_cons_of_mem a hb)), List.map_cons,
      List.sum_cons]
    push_cast
    rw [add_assoc]

/-- What does not count weighs nothing. -/
theorem sum_filter (p : α → Bool) (value : α → Nat) (l : List α) :
    (l.map fun a => if p a then value a else 0).sum = ((l.filter p).map value).sum := by
  induction l with
  | nil => rfl
  | cons a l ih =>
    rw [List.map_cons, List.sum_cons, ih]
    by_cases hp : p a = true
    · rw [if_pos hp, List.filter_cons_of_pos hp, List.map_cons, List.sum_cons]
    · rw [if_neg hp, List.filter_cons_of_neg hp, Nat.zero_add]

variable {text : Text} {u : Decimals} {w : Unicode} {records : List SettlementRecord} {seller : String}
  {value : SettlementRecord → Nat}

/-- A settled payment of the seller in the asset. -/
def settledUsdc (text : Text) (seller : String) (record : SettlementRecord) : Bool :=
  record.sellerAccountId == seller && record.status == .settled &&
    assetFromRequirements text record.rawRequirements == usdcAsset

/-- The amount of the record is a number that all readers see. -/
def PlainRecord (text : Text) (u : Decimals) (w : Unicode) (record : SettlementRecord) (n : Nat) : Prop :=
  numberIn text u (record.rawRequirements.get "amount") = some (.rational n) ∧
    PlainAmount text u w (record.rawRequirements.get "amount") n

/-- The records that a total counts are the settled ones. -/
theorem filter_settledUsdc (h : ∀ row ∈ records, row.status ≠ .reconciled) :
    (records.filter (countsFor seller)).filter
        (fun r => assetFromRequirements text r.rawRequirements == usdcAsset) =
      records.filter (settledUsdc text seller) := by
  rw [List.filter_filter]
  refine List.filter_congr fun r hr => ?_
  have hstatus : (r.status == .reconciled) = false := by simpa using h r hr
  rw [countsFor, settledUsdc, hstatus, Bool.or_false, Bool.and_comm]

/-- The in-memory total. -/
theorem InMemory.State.settlementAmountAtomicForSeller_eq {s : InMemory.State}
    (hstatus : ∀ row ∈ s.recordList, row.status ≠ .reconciled)
    (hplain : ∀ row ∈ s.recordList.filter (settledUsdc text seller), PlainRecord text u w row (value row)) :
    s.settlementAmountAtomicForSeller text u w seller =
      .ok (((s.recordList.filter (settledUsdc text seller)).map value).sum : Nat) := by
  have hrecords : (s.recordList.filter fun r =>
      countsFor seller r && assetFromRequirements text r.rawRequirements == usdcAsset) =
        s.recordList.filter (settledUsdc text seller) := by
    rw [← filter_settledUsdc hstatus, List.filter_filter]
    exact List.filter_congr fun r _ => Bool.and_comm _ _
  rw [settlementAmountAtomicForSeller, hrecords, foldlM_add value ?_ 0, zero_add]
  intro r hr total
  obtain ⟨hn, hp⟩ := hplain r hr
  rw [((readAlike_iff hn).mpr hp).total]
  rfl

/-- The SQLite total. -/
theorem Sqlite.Db.settlementAmountAtomicForSeller_eq {db : Sqlite.Db}
    (hstatus : ∀ row ∈ db.records, row.status ≠ .reconciled)
    (hplain : ∀ row ∈ db.records.filter (settledUsdc text seller), PlainRecord text u w row (value row)) :
    db.settlementAmountAtomicForSeller text u w seller =
      (((db.records.filter (settledUsdc text seller)).map value).sum : Nat) := by
  rw [← filter_settledUsdc hstatus] at hplain ⊢
  rw [settlementAmountAtomicForSeller, foldl_add (fun r =>
    if assetFromRequirements text r.rawRequirements == usdcAsset then value r else 0) ?_ 0, zero_add, sum_filter]
  intro r hr total
  by_cases hasset : assetFromRequirements text r.rawRequirements = usdcAsset
  · have hbeq : (assetFromRequirements text r.rawRequirements == usdcAsset) = true := by simpa using hasset
    obtain ⟨hn, hp⟩ := hplain r (List.mem_filter.mpr ⟨hr, hbeq⟩)
    rw [if_pos hasset, if_pos hbeq, ((readAlike_iff hn).mpr hp).total]
  · rw [if_neg hasset, if_neg (by simpa using hasset), Nat.cast_zero, add_zero]

/-- The Postgres total. -/
theorem Postgres.Db.settlementAmountAtomicForSeller_eq {db : Postgres.Db}
    (hstatus : ∀ row ∈ db.records, row.status ≠ .reconciled)
    (hplain : ∀ row ∈ db.records.filter (settledUsdc text seller), PlainRecord text u w row (value row)) :
    db.settlementAmountAtomicForSeller text u w seller =
      .ok (((db.records.filter (settledUsdc text seller)).map value).sum : Nat) := by
  rw [← filter_settledUsdc hstatus] at hplain ⊢
  rw [settlementAmountAtomicForSeller, foldlM_add (fun r =>
    if assetFromRequirements text r.rawRequirements == usdcAsset then value r else 0) ?_ 0, zero_add, sum_filter]
  intro r hr total
  show (if assetFromRequirements text r.rawRequirements ≠ usdcAsset then _ else _) = _
  by_cases hasset : assetFromRequirements text r.rawRequirements = usdcAsset
  · have hbeq : (assetFromRequirements text r.rawRequirements == usdcAsset) = true := by simpa using hasset
    obtain ⟨hn, hp⟩ := hplain r (List.mem_filter.mpr ⟨hr, hbeq⟩)
    rw [if_neg (not_not.mpr hasset), if_pos hbeq, ((readAlike_iff hn).mpr hp).postgresTotal]
  · rw [if_pos hasset, if_neg (by simpa using hasset), Nat.cast_zero, add_zero]

end Totals

/-! ## All readers -/

/-- The entries that are copied. -/
theorem lookup_copied (d : PyDict) {key : String} {keys : List String} (h : key ∈ keys) :
    (keys.filterMap fun k => (d.lookup k).map fun v => (k, v)).lookup key = d.lookup key := by
  have hnone : ∀ keys : List String, d.lookup key = none →
      (keys.filterMap fun k => (d.lookup k).map fun v => (k, v)).lookup key = none := by
    intro keys hd
    rw [List.lookup_eq_none_iff]
    intro e he
    obtain ⟨k, -, hk⟩ := List.mem_filterMap.mp he
    obtain ⟨v, hv, rfl⟩ := Option.map_eq_some_iff.mp hk
    rw [bne_iff_ne]
    rintro rfl
    rw [hd] at hv
    cases hv
  induction keys with
  | nil => cases h
  | cons k keys ih =>
    by_cases hk : k = key
    · subst hk
      cases hv : d.lookup k with
      | none => exact hnone _ hv
      | some v => simp [hv]
    · have hmem : key ∈ keys := (List.mem_cons.mp h).resolve_left (Ne.symm hk)
      cases hv : d.lookup k with
      | none => simp [hv, ih hmem]
      | some v => simp [hv, List.lookup_cons, ih hmem, beq_eq_false_iff_ne.mpr (Ne.symm hk)]

/-- The store keeps the amount as it is. -/
theorem safeRequirements_amount (text : Text) (requirements : PyDict) :
    (safeRequirements text requirements).get "amount" = requirements.get "amount" := by
  have hamount : "amount" ∈ ["scheme", "network", "asset", "amount", "payTo", "maxTimeoutSeconds"] := by simp
  have hcopied := lookup_copied requirements hamount
  have hor : ∀ {a b : Option PyVal}, b = none → a.or b = a := by
    rintro a _ rfl
    exact Option.or_none
  rw [PyDict.get, PyDict.get, safeRequirements, List.lookup_append, List.lookup_append, List.lookup_append, hcopied]
  refine congrArg (Option.getD · .null) ((hor rfl).trans ((hor ?_).trans (hor ?_)))
  · -- the entry for the name of the asset
    cases requirements.get "extra" with
    | dict e => simp only; split <;> rfl
    | _ => rfl
  · -- the entry for the hash of the resource
    cases requirements.get "resource" <;> rfl

/-- The check of a receipt reads the amount that the store keeps. -/
theorem checksAmount {requirements : PyDict} {n : Nat} {r : ExactEvm.Reading} {record : SettlementRecord}
    (hn : numberIn r.text r.decimals (requirements.get "amount") = some (.rational n))
    (hrecord : record.rawRequirements = safeRequirements r.text requirements) :
    ExactEvm.ChecksAmount r record ((requirements.get "amount").toStr r.text) n := by
  have hexpected : ExactEvm.expectedAmount r.text r.decimals record.rawRequirements =
      r.decimals.ofText 10 ((requirements.get "amount").toStr r.text) := by
    rw [ExactEvm.expectedAmount, hrecord, safeRequirements_amount]
  constructor
  · intro hliteral receipt
    rw [ofText_of_number hn hliteral] at hexpected
    exact ExactEvm.receiptContainsExactTransfer_amount hexpected
  · intro hliteral
    rw [← ofText_isSome, Bool.not_eq_true, Option.isSome_eq_false_iff, Option.isNone_iff_eq_none] at hliteral
    exact ExactEvm.receiptContainsExactTransfer_none (hexpected.trans hliteral)

/-- **The readers of an amount agree exactly on plain amounts**: a receipt then proves the record by a transfer of that
amount, and where the text is no integer literal, no receipt proves it. Where the settled records of a seller have plain
amounts, its total in each of the stores is their sum. -/
theorem amounts_read_alike_iff (text : Text) (u : Decimals) (w : Unicode) :
    (∀ envelope accepted (n : Nat),
        validateSettlementEnvelope (text.withDecimals u) envelope = .ok accepted →
        numberIn text u (envelope.paymentRequirements.get "amount") = some (.rational n) →
        (ReadAlike text u w (safeRequirements text envelope.paymentRequirements) n ↔
          PlainAmount text u w (envelope.paymentRequirements.get "amount") n) ∧
        ∀ (containerStr : ExactEvm.ChainVal → String) (record : SettlementRecord),
          record.rawRequirements = safeRequirements text envelope.paymentRequirements →
          ExactEvm.ChecksAmount ⟨text, u, containerStr⟩ record
            ((envelope.paymentRequirements.get "amount").toStr text) n) ∧
      ∀ (seller : String) (value : SettlementRecord → Nat),
        (∀ s, (Local.machine InMemory.lawful).Reachable s →
          (∀ row ∈ s.store.recordList.filter (settledUsdc text seller), PlainRecord text u w row (value row)) →
          s.store.settlementAmountAtomicForSeller text u w seller =
            .ok (((s.store.recordList.filter (settledUsdc text seller)).map value).sum : Nat)) ∧
        (∀ s, (Local.machine Sqlite.lawful).Reachable s →
          (∀ row ∈ s.store.records.filter (settledUsdc text seller), PlainRecord text u w row (value row)) →
          s.store.settlementAmountAtomicForSeller text u w seller =
            (((s.store.records.filter (settledUsdc text seller)).map value).sum : Nat)) ∧
        ∀ hash s, (Postgres.machine hash).Reachable s →
          (∀ row ∈ s.db.records.filter (settledUsdc text seller), PlainRecord text u w row (value row)) →
          s.db.settlementAmountAtomicForSeller text u w seller =
            .ok (((s.db.records.filter (settledUsdc text seller)).map value).sum : Nat) := by
  refine ⟨fun envelope accepted n _ hn => ⟨?_, fun _ record hrecord => checksAmount hn hrecord⟩,
    fun seller value => ⟨fun s hs hplain => ?_, fun s hs hplain => ?_, fun hash s hs hplain => ?_⟩⟩
  · rw [← safeRequirements_amount text] at hn ⊢
    exact readAlike_iff hn
  · exact InMemory.State.settlementAmountAtomicForSeller_eq (Local.reachable_not_reconciled hs) hplain
  · exact Sqlite.Db.settlementAmountAtomicForSeller_eq (Local.reachable_not_reconciled hs) hplain
  · exact Postgres.Db.settlementAmountAtomicForSeller_eq (Postgres.reachable_not_reconciled hs) hplain

/-- The language on texts in small letters. -/
def usdcText : Text := { Payment.paymentText with lower := id }

/-- A requirement of USDC, and the envelope that asks for it. -/
def usdcRequirements (amount : PyVal) : PyDict :=
  [("scheme", .str "exact"), ("network", .str "eip155:5042002"), ("asset", .str usdcAsset), ("amount", amount),
    ("payTo", .str "0x00000000000000000000000000000000000000b0")]

def usdcEnvelope (amount : PyVal) : FacilitatorEnvelope where
  x402Version := 2
  paymentPayload :=
    [("x402Version", .int 2), ("accepted", .dict (usdcRequirements amount)),
      ("payload", .dict [("authorization", .dict Payment.sampleAuthorization)])]
  paymentRequirements := usdcRequirements amount

theorem usdcEnvelope_valid {amount : PyVal} {c : String}
    (h : canonicalAmount (usdcText.withDecimals .ascii) amount = .ok c) :
    validateSettlementEnvelope (usdcText.withDecimals .ascii) (usdcEnvelope amount) = .ok (usdcRequirements amount) :=
  bind_ok.mpr ⟨(), checkField_self rfl rfl, bind_ok.mpr ⟨(), checkField_self rfl rfl,
    bind_ok.mpr ⟨(), checkField_self rfl rfl, bind_ok.mpr ⟨(), checkField_self rfl h,
      bind_ok.mpr ⟨(), checkField_self rfl rfl, rfl⟩⟩⟩⟩⟩

/-- The validator writes the amount as the integer that it denotes. -/
theorem canonicalAmount_usdc {s : String} {d : PyDecimal} {n : Int} (h : Decimals.ascii.decimal s = some d)
    (hread : d.reading = .integral n) :
    canonicalAmount (usdcText.withDecimals .ascii) (.str s) = .ok (toString n) := by
  have hn : Decimals.ascii.read s = .integral n := by
    rw [Decimals.read, h]
    exact hread
  rw [canonicalAmount_withDecimals, PyVal.toStr, hn]

/-- Its record, and the receipt of a transfer of a thousand units that pays it. -/
def usdcRecord (amount : PyVal) : SettlementRecord where
  recordId := 1
  sellerAccountId := "seller"
  fingerprint := "f"
  provider := "exact_evm"
  scheme := some "exact"
  network := some "eip155:5042002"
  status := .unknown
  transaction := some "0xab01"
  payer := some "0x00000000000000000000000000000000000000a1"
  createdAt := 0
  updatedAt := 0
  rawRequirements := safeRequirements usdcText (usdcRequirements amount)

def usdcReading : ExactEvm.Reading where
  text := usdcText
  decimals := .ascii
  containerStr := fun _ => ""

def usdcReceipt : ExactEvm.ChainVal :=
  .dict
    [("logs", .list
      [.dict
        [("address", .str usdcAsset),
          ("topics", .list
            [.str ExactEvm.topicTransfer,
              .str "0x00000000000000000000000000000000000000000000000000000000000000a1",
              .str "0x00000000000000000000000000000000000000000000000000000000000000b0"]),
          ("data", .bytes [0x03, 0xe8] false)]])]

theorem usdcReceipt_proves :
    ExactEvm.receiptContainsExactTransfer usdcReading usdcReceipt (usdcRecord (.str "1000")) = .ok true := by
  decide +kernel

/-- The readers agree on the text of an integer, and the receipt shows a transfer of it. -/
theorem thousand_read_alike :
    ReadAlike usdcText .ascii .ascii (safeRequirements usdcText (usdcRequirements (.str "1000"))) 1000 ∧
      ExactEvm.ShowsTransfer usdcReading usdcReceipt (usdcRecord (.str "1000")) 1000 := by
  have hdecimal : Decimals.ascii.decimal "1000" = some (.finite false 1000 0) := by decide +kernel
  have hamount : (usdcEnvelope (.str "1000")).paymentRequirements.get "amount" = .str "1000" := rfl
  have hliteral : IntLiteral .ascii "1000" := ⟨by decide +kernel, by decide +kernel⟩
  have hnumber : numberIn usdcText .ascii ((usdcEnvelope (.str "1000")).paymentRequirements.get "amount") =
      some (.rational (1000 : Nat)) := by
    rw [hamount, numberIn_of_ne_null (by simp), PyVal.toStr, hdecimal]
    simp [PyDecimal.number]
  obtain ⟨hread, hreceipt⟩ := (amounts_read_alike_iff usdcText .ascii .ascii).1 (usdcEnvelope (.str "1000")) _ 1000
    (usdcEnvelope_valid (canonicalAmount_usdc hdecimal rfl)) hnumber
  refine ⟨hread.mpr ?_, ?_⟩
  · rw [hamount]
    exact ⟨hliteral, fun _ => ⟨rfl, by decide +kernel⟩⟩
  · exact (hreceipt (fun _ => "") (usdcRecord (.str "1000")) rfl).shows hliteral usdcReceipt usdcReceipt_proves

/-- With a decimal point behind it the same number counts as nothing, and no receipt proves it. -/
theorem thousand_with_point :
    validateSettlementEnvelope (usdcText.withDecimals .ascii) (usdcEnvelope (.str "1000.0")) =
        .ok (usdcRequirements (.str "1000.0")) ∧
      numberIn usdcText .ascii ((usdcRequirements (.str "1000.0")).get "amount") = some (.rational 1000) ∧
      amountAtomicFromRequirements usdcText .ascii .ascii
          (safeRequirements usdcText (usdcRequirements (.str "1000.0"))) = .ok 0 ∧
      ExactEvm.expectedAmount usdcText .ascii (safeRequirements usdcText (usdcRequirements (.str "1000.0"))) = none ∧
      ∀ receipt, ExactEvm.receiptContainsExactTransfer usdcReading receipt (usdcRecord (.str "1000.0")) = .ok false := by
  have hdecimal : Decimals.ascii.decimal "1000.0" = some (.finite false 10000 (-1)) := by decide +kernel
  have hamount : (usdcRequirements (.str "1000.0")).get "amount" = .str "1000.0" := rfl
  have hnone : ExactEvm.expectedAmount usdcText .ascii
      (safeRequirements usdcText (usdcRequirements (.str "1000.0"))) = none := by
    rw [ExactEvm.expectedAmount, safeRequirements_amount, hamount, PyVal.toStr]
    decide +kernel
  refine ⟨usdcEnvelope_valid (canonicalAmount_usdc hdecimal rfl), ?_, ?_, hnone,
    ExactEvm.receiptContainsExactTransfer_none hnone⟩
  · rw [hamount, numberIn_of_ne_null (by simp), PyVal.toStr, hdecimal]
    norm_num [PyDecimal.number]
  · rw [amountAtomicFromRequirements, safeRequirements_amount, hamount, amountText,
      if_pos (show (PyVal.str "1000.0").truthy = true by decide), PyVal.toStr, if_neg (by decide +kernel)]

end HostedFacilitator
