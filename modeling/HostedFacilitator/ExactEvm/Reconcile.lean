import Mathlib.Data.List.Infix
import HostedFacilitator.ExactEvm.Receipt
import HostedFacilitator.Reconciliation

/-!
# Reconciliation by receipt

`HostedExactProvider.reconcile_settlement`. A facilitator object may bring its own `reconcile_settlement`; what that
hook reports as settled is still checked against a receipt, while anything else it reports is returned as it is.
Without a hook the receipt of the record's own transaction decides.
-/

namespace HostedFacilitator
namespace ExactEvm

/-! ## The facilitator objects -/

/-- A receipt lookup of a client: a value, or an exception with the name of its class and its message. -/
inductive LookupReply where
  | value (v : ChainVal)
  | raised (className message : String)

/-- A signer, through its `_w3.eth.get_transaction_receipt` where it has one. -/
structure Signer where
  getTransactionReceipt : Option (String → LookupReply) := none

/-- An entry of a facilitator's `_schemes`. -/
structure SchemeData where
  scheme : Option String
  networks : List String := []
  signer : Option Signer := none

/-- A `ReconciliationOutcome` as a hook fills it in: the texts are not checked. -/
structure Finding where
  status : ReconciliationStatus
  transaction : PyVal := .null
  payer : PyVal := .null
  errorReason : PyVal := .null

/-- What a hook returns. -/
inductive HookValue where
  | outcome (o : Finding)
  | dict (d : PyDict)
  | other

/-- How the call of a hook ends. -/
inductive HookReply where
  | timedOut
  | raised (e : PyErr)
  | returned (v : HookValue)

/-- A facilitator object, through the attributes the provider looks for. `signer` is `none` where the object has no
`_signer`. -/
structure ExactFacilitator where
  reconcileSettlement : Option (SettlementRecord → HookReply) := none
  getTransactionReceipt : Option (String → LookupReply) := none
  signer : Option (Option Signer) := none
  findFacilitator : Option (String → String → Except PyErr (Option Signer)) := none
  schemes : List SchemeData := []

structure HostedExactProvider where
  facilitators : List (String × ExactFacilitator)
  receiptChecker : Option (String → SettlementRecord → Except PyErr ChainVal) := none

namespace HostedExactProvider

variable (r : Reading) (provider : HostedExactProvider)

/-- `_facilitator_for_network`. -/
def facilitatorForNetwork (network : Option String) : Except PyErr ExactFacilitator :=
  let unknown := PyErr.lookup ("No exact EVM facilitator configured for " ++ (orStr network (some "unknown")).getD "")
  match network with
  | some network =>
    if network = "" then .error unknown
    else match provider.facilitators.lookup network with
      | some facilitator => .ok facilitator
      | none => .error unknown
  | none =>
    match provider.facilitators with
    | [(_, facilitator)] => .ok facilitator
    | _ => .error unknown

/-! ## The lookup -/

/-- `_is_transaction_not_found`. -/
def isTransactionNotFound (className message : String) : Bool :=
  let mentions (word said : String) : Bool := decide (word.toList <:+: (r.text.lower said).toList)
  mentions "transactionnotfound" className || (mentions "transaction" message && mentions "not found" message)

/-- A client's reply: a transaction that is not found has no receipt. -/
def received : LookupReply → Except PyErr ChainVal
  | .value v => .ok v
  | .raised className message =>
    if isTransactionNotFound r className message then .ok .none else .error (.other className message)

/-- The entries of `_schemes` that fit a record. -/
def schemeFits (record : SettlementRecord) (data : SchemeData) : Bool :=
  data.scheme == orStr record.scheme (some "exact") &&
    (!truthyStr record.network || data.networks.contains (record.network.getD ""))

/-- `_find_exact_signer`. -/
def findExactSigner (facilitator : ExactFacilitator) (record : SettlementRecord) : Except PyErr (Option Signer) :=
  match facilitator.signer with
  | some signer => .ok signer
  | none => do
    let found ← match facilitator.findFacilitator with
      | some find =>
        if truthyStr record.network then
          find ((orStr record.scheme (some "exact")).getD "") (record.network.getD "")
        else .ok none
      | none => .ok none
    .ok (found.or ((facilitator.schemes.filter (schemeFits record)).findSome? (·.signer)))

/-- `_lookup_receipt`. -/
def lookupReceipt (transaction : String) (record : SettlementRecord) : Except PyErr ChainVal :=
  match provider.receiptChecker with
  | some check => check transaction record
  | none => do
    let facilitator ← provider.facilitatorForNetwork record.network
    match facilitator.getTransactionReceipt with
    | some direct => received r (direct transaction)
    | none =>
      match ← findExactSigner facilitator record with
      | some ⟨some get⟩ => received r (get transaction)
      | _ => .ok .none

/-! ## The decision -/

/-- A finding about a transaction of the record. -/
def about (record : SettlementRecord) (status : ReconciliationStatus) (transaction errorReason : Option String) :
    Finding where
  status := status
  transaction := .ofOption transaction
  payer := .ofOption record.payer
  errorReason := .ofOption errorReason

/-- `_reconcile_transaction`. -/
def reconcileTransaction (record : SettlementRecord) : Option String → Except PyErr Finding
  | none => .ok { status := .pending, errorReason := .str "exact_evm_transaction_unavailable" }
  | some transaction => do
    let receipt ← provider.lookupReceipt r transaction record
    if receipt.isNone then
      .ok (about record .pending transaction (some "exact_evm_receipt_not_found"))
    else
      let «matches» ← receiptTransactionMatches r receipt transaction
      if !«matches» then
        .ok (about record .pending transaction (some "exact_evm_receipt_transaction_mismatch"))
      else
        let status ← receiptStatus r receipt
        if status = some 1 then
          let proved ← receiptContainsExactTransfer r receipt record
          if !proved then
            .ok (about record .pending transaction (some "exact_evm_receipt_proof_unavailable"))
          else .ok (about record .settled transaction none)
        else if status = some 0 then
          if record.status = .submitted then
            .ok (about record .unknown transaction (some "exact_evm_transaction_failed"))
          else .ok (about record .failedFinal transaction (some "exact_evm_transaction_failed"))
        else .ok (about record .pending transaction (some "exact_evm_receipt_status_unknown"))

/-- `ReconciliationStatus(value)`. -/
def reconciliationStatus : PyVal → Except PyErr ReconciliationStatus
  | .str "settled" => .ok .settled
  | .str "failed_final" => .ok .failedFinal
  | .str "unknown" => .ok .unknown
  | .str "manual_review" => .ok .manualReview
  | .str "pending" => .ok .pending
  | v => .error (.value (r.text.repr v ++ " is not a valid ReconciliationStatus"))

/-- `_coerce_reconciliation_outcome`. -/
def coerceReconciliationOutcome : HookValue → Except PyErr Finding
  | .outcome o => .ok o
  | .dict d => do
    if !d.has "status" then .error (.key "'status'")
    else
      let status ← reconciliationStatus r (d.get "status")
      .ok
        { status := status
          transaction := d.get "transaction"
          payer := d.get "payer"
          errorReason := (d.get "errorReason").orElse (d.get "error_reason") }
  | .other => .error (.type "Exact EVM reconciliation hook returned an unsupported outcome")

/-- `_normalize_optional_tx_hash`, of a value that a hook filled in. -/
def normalizeReported : PyVal → Except PyErr (Option String)
  | .null => .ok none
  | .str s => .ok (normalizeOptionalTxHash r (some s))
  | _ => .error (.other "AttributeError" "object has no attribute 'strip'")

/-- `_validate_reconciliation_outcome`. -/
def validateReconciliationOutcome (outcome : Finding) (record : SettlementRecord) : Except PyErr Finding := do
  if outcome.status ≠ .settled then .ok outcome
  else
    let transaction ← normalizeReported r (outcome.transaction.orElse (.ofOption record.transaction))
    let proof ← provider.reconcileTransaction r record transaction
    if proof.status ≠ .settled then .ok proof
    else
      .ok
        { status := .settled
          transaction := .ofOption transaction
          payer := outcome.payer.orElse (.ofOption record.payer) }

/-- `reconcile_settlement`. -/
def reconcileSettlement (record : SettlementRecord) : Except PyErr Finding := do
  let facilitator ← provider.facilitatorForNetwork record.network
  match facilitator.reconcileSettlement with
  | some delegated =>
    match delegated record with
    | .timedOut =>
      .ok (about record .pending record.transaction (some "exact_evm_reconciliation_timeout"))
    | .raised e => .error e
    | .returned v => do
      let outcome ← coerceReconciliationOutcome r v
      provider.validateReconciliationOutcome r outcome record
  | none => provider.reconcileTransaction r record (normalizeOptionalTxHash r record.transaction)

/-! ## What a receipt has to show -/

/-- A receipt was looked up for the transaction; it does not name another transaction, and its status is `n`. -/
structure Checked (record : SettlementRecord) (transaction : String) (receipt : ChainVal) (n : Int) : Prop where
  lookup : provider.lookupReceipt r transaction record = .ok receipt
  present : receipt.isNone = false
  notContradicting : NotContradicting r receipt transaction
  status : Converts r (receipt.getField "status") n

/-- The receipt passes the checks of `_reconcile_transaction` with status `n`. -/
structure Passes (record : SettlementRecord) (transaction : String) (receipt : ChainVal) (n : Int) : Prop where
  lookup : provider.lookupReceipt r transaction record = .ok receipt
  present : receipt.isNone = false
  hash : receiptTransactionMatches r receipt transaction = .ok true
  status : receiptStatus r receipt = .ok (some n)

/-- The facilitator of a network has no hook of its own. -/
def NoHook (network : Option String) : Prop :=
  ∀ facilitator, provider.facilitatorForNetwork network = .ok facilitator → facilitator.reconcileSettlement = none

variable {r provider} {record : SettlementRecord} {transaction : Option String} {o : Finding}

theorem Passes.checked {t : String} {receipt : ChainVal} {n : Int} (h : provider.Passes r record t receipt n) :
    provider.Checked r record t receipt n :=
  ⟨h.lookup, h.present, receiptTransactionMatches_true h.hash, receiptStatus_some h.status⟩

/-- Three ways in which the receipt decides: it does not, it proves the transfer, or it shows a failure. -/
theorem reconcileTransaction_cases (h : provider.reconcileTransaction r record transaction = .ok o) :
    (o.status = .pending ∨ o.status = .unknown) ∨
    (∃ t receipt, transaction = some t ∧ provider.Passes r record t receipt 1 ∧
      receiptContainsExactTransfer r receipt record = .ok true ∧ o = about record .settled t none) ∨
    (∃ t receipt, transaction = some t ∧ provider.Passes r record t receipt 0 ∧ record.status ≠ .submitted ∧
      o = about record .failedFinal t (some "exact_evm_transaction_failed")) := by
  cases transaction with
  | none =>
    cases h
    exact .inl (.inl rfl)
  | some t =>
    obtain ⟨receipt, hlookup, h⟩ := bind_ok.mp h
    split at h
    · cases h
      exact .inl (.inl rfl)
    rename_i hpresent
    obtain ⟨agrees, hagrees, h⟩ := bind_ok.mp h
    split at h
    · cases h
      exact .inl (.inl rfl)
    rename_i hmatch
    have hmatches : agrees = true := by simpa using hmatch
    obtain ⟨status, hstatus, h⟩ := bind_ok.mp h
    have hpasses : ∀ n, status = some n → provider.Passes r record t receipt n := by
      rintro n rfl
      exact ⟨hlookup, by simpa using hpresent, hmatches ▸ hagrees, hstatus⟩
    split at h
    · rename_i hone
      obtain ⟨proved, hproved, h⟩ := bind_ok.mp h
      split at h
      · cases h
        exact .inl (.inl rfl)
      · rename_i htrue
        cases h
        have hproof : proved = true := by simpa using htrue
        exact .inr (.inl ⟨t, receipt, rfl, hpasses 1 hone, hproof ▸ hproved, rfl⟩)
    split at h
    · rename_i hzero
      split at h
      · cases h
        exact .inl (.inr rfl)
      · rename_i hsubmitted
        cases h
        exact .inr (.inr ⟨t, receipt, rfl, hpasses 0 hzero, hsubmitted, rfl⟩)
    · cases h
      exact .inl (.inl rfl)

/-- A settled transaction is one whose receipt proves the transfer. -/
theorem reconcileTransaction_settled (h : provider.reconcileTransaction r record transaction = .ok o)
    (hs : o.status = .settled) :
    ∃ t receipt, transaction = some t ∧ provider.Passes r record t receipt 1 ∧
      receiptContainsExactTransfer r receipt record = .ok true ∧ o = about record .settled t none := by
  rcases reconcileTransaction_cases h with (hp | hu) | hsettled | ⟨t, receipt, -, -, -, rfl⟩
  · rw [hp] at hs
    cases hs
  · rw [hu] at hs
    cases hs
  · exact hsettled
  · cases hs

/-- A receipt that passes the checks and proves the transfer settles. -/
theorem reconcileTransaction_of_passes {t : String} {receipt : ChainVal} (h : provider.Passes r record t receipt 1)
    (hproved : receiptContainsExactTransfer r receipt record = .ok true) :
    provider.reconcileTransaction r record (some t) = .ok (about record .settled t none) := by
  refine bind_ok.mpr ⟨receipt, h.lookup, ?_⟩
  rw [h.present]
  refine bind_ok.mpr ⟨true, h.hash, bind_ok.mpr ⟨some 1, h.status, ?_⟩⟩
  rw [if_pos rfl]
  exact bind_ok.mpr ⟨true, hproved, rfl⟩

/-- The record's facilitator has a hook, and this is what it reports. -/
def Reports (r : Reading) (provider : HostedExactProvider) (record : SettlementRecord) (outcome : Finding) : Prop :=
  ∃ facilitator delegated v, provider.facilitatorForNetwork record.network = .ok facilitator ∧
    facilitator.reconcileSettlement = some delegated ∧ delegated record = .returned v ∧
    coerceReconciliationOutcome r v = .ok outcome

/-- A settled finding comes from the receipt of a transaction. The payer is the record's, or the one that a hook
reports with a settlement. -/
theorem reconcileSettlement_settled (h : provider.reconcileSettlement r record = .ok o) (hs : o.status = .settled) :
    ∃ t receipt, provider.Passes r record t receipt 1 ∧ receiptContainsExactTransfer r receipt record = .ok true ∧
      o.transaction = .str t ∧
      ((normalizeOptionalTxHash r record.transaction = some t ∧ o.payer = .ofOption record.payer) ∨
        ∃ outcome, provider.Reports r record outcome ∧ outcome.status = .settled ∧
          normalizeReported r (outcome.transaction.orElse (.ofOption record.transaction)) = .ok (some t) ∧
          o.payer = outcome.payer.orElse (.ofOption record.payer)) := by
  obtain ⟨facilitator, hfacilitator, h⟩ := bind_ok.mp h
  split at h
  · rename_i delegated hdelegated
    split at h
    · cases h
      cases hs
    · cases h
    · rename_i v hv
      obtain ⟨outcome, hcoerce, h⟩ := bind_ok.mp h
      have hreports : provider.Reports r record outcome :=
        ⟨facilitator, delegated, v, hfacilitator, hdelegated, hv, hcoerce⟩
      unfold validateReconciliationOutcome at h
      split at h
      · rename_i hne
        cases h
        exact absurd hs hne
      rename_i hreported
      obtain ⟨transaction, ht, h⟩ := bind_ok.mp h
      obtain ⟨proof, hproof, h⟩ := bind_ok.mp h
      split at h
      · rename_i hne
        cases h
        exact absurd hs hne
      · rename_i hsettled
        cases h
        obtain ⟨t, receipt, rfl, hpasses, hproved, -⟩ := reconcileTransaction_settled hproof (not_not.mp hsettled)
        exact ⟨t, receipt, hpasses, hproved, rfl, .inr ⟨outcome, hreports, not_not.mp hreported, ht, rfl⟩⟩
  · obtain ⟨t, receipt, ht, hpasses, hproved, rfl⟩ := reconcileTransaction_settled h hs
    exact ⟨t, receipt, hpasses, hproved, rfl, .inl ⟨ht, rfl⟩⟩

/-- **Receipt proofs.** A settled finding has a receipt of status 1 that was looked up for the transaction it names,
does not contradict it, and holds a log of the transfer that the record expects. Without a hook, a final failure has
such a receipt of status 0, and the record was not submitted. -/
theorem reconcileSettlement_proved (h : provider.reconcileSettlement r record = .ok o) :
    (o.status = .settled →
      ∃ t receipt log e, o.transaction = .str t ∧ provider.Checked r record t receipt 1 ∧
        e.Of r record ∧ log ∈ receiptLogs receipt ∧ Transfer r e log) ∧
    (provider.NoHook record.network → o.status = .failedFinal →
      ∃ t receipt, o.transaction = .str t ∧ provider.Checked r record t receipt 0 ∧ record.status ≠ .submitted) := by
  constructor
  · intro hs
    obtain ⟨t, receipt, hpasses, hproved, ht, -⟩ := reconcileSettlement_settled h hs
    obtain ⟨log, hlog⟩ := receiptContainsExactTransfer_true hproved
    obtain ⟨e, he, hmem, htransfer, -⟩ := provingLog_transfer hlog
    exact ⟨t, receipt, log, e, ht, hpasses.checked, expectedTransfer_of he, hmem, htransfer⟩
  · intro hhook hs
    obtain ⟨facilitator, hfacilitator, h⟩ := bind_ok.mp h
    rw [hhook facilitator hfacilitator] at h
    rcases reconcileTransaction_cases h with (hp | hu) | ⟨t, receipt, -, -, -, rfl⟩ |
        ⟨t, receipt, -, hpasses, hsubmitted, rfl⟩
    · rw [hp] at hs
      cases hs
    · rw [hu] at hs
      cases hs
    · cases hs
    · exact ⟨t, receipt, rfl, hpasses.checked, hsubmitted⟩

/-! ## A sample settlement -/

section Sample

/-- The language on ASCII texts in lower case. -/
def asciiReading : Reading where
  text :=
    { containerStr := fun _ => ""
      repr := fun _ => ""
      lower := id
      decimal := fun _ => .invalid
      jsonDumps := fun _ => ""
      sha256 := id }
  decimals := .ascii
  containerStr := fun _ => ""

def sampleRecord : SettlementRecord where
  recordId := 1
  sellerAccountId := "seller"
  fingerprint := "f"
  provider := "exact_evm"
  scheme := some "exact"
  network := some "eip155:5042002"
  status := .unknown
  transaction := some "0xab01"
  payer := some "0x00000000000000000000000000000000000000a1"
  createdAt := 0
  updatedAt := 0
  rawRequirements :=
    [("asset", .str "0x0000000000000000000000000000000000000036"), ("amount", .str "1000"),
      ("payTo", .str "0x00000000000000000000000000000000000000b0")]

/-- Its receipt, with a hash and data in bytes and topics in texts. -/
def sampleReceipt : ChainVal :=
  .dict
    [("status", .str "0x1"), ("transactionHash", .bytes [0xab, 0x01] false),
      ("logs", .list
        [.dict
          [("address", .str "0x0000000000000000000000000000000000000036"),
            ("topics", .list
              [.str topicTransfer,
                .str "0x00000000000000000000000000000000000000000000000000000000000000a1",
                .str "0x00000000000000000000000000000000000000000000000000000000000000b0"]),
            ("data", .bytes [0x03, 0xe8] false)]])]

/-- A provider whose facilitator knows that receipt; `hook` is what its own reconciliation reports, if it has one. -/
def sampleProvider (hook : Option Finding) : HostedExactProvider where
  facilitators := [("eip155:5042002",
    { reconcileSettlement := hook.map fun o _ => .returned (.outcome o)
      getTransactionReceipt := some fun t =>
        if t = "0xab01" then .value sampleReceipt else .raised "TransactionNotFound" "" })]

theorem sample_passes (hook : Option Finding) :
    (sampleProvider hook).Passes asciiReading sampleRecord "0xab01" sampleReceipt 1 where
  lookup := rfl
  present := rfl
  hash := by decide +kernel
  status := by decide +kernel

theorem sample_proved : receiptContainsExactTransfer asciiReading sampleReceipt sampleRecord = .ok true := by
  decide +kernel

/-- The sample record is settled by its receipt. -/
theorem reconcileSettlement_sample :
    ∃ o, (sampleProvider none).reconcileSettlement asciiReading sampleRecord = .ok o ∧ o.status = .settled ∧
      ∃ t receipt log e, o.transaction = .str t ∧ (sampleProvider none).Checked asciiReading sampleRecord t receipt 1 ∧
        e.Of asciiReading sampleRecord ∧ log ∈ receiptLogs receipt ∧ Transfer asciiReading e log := by
  have hreconcile : (sampleProvider none).reconcileSettlement asciiReading sampleRecord =
      .ok (about sampleRecord .settled (some "0xab01") none) := by
    refine bind_ok.mpr ⟨_, rfl, ?_⟩
    exact reconcileTransaction_of_passes (sample_passes none) sample_proved
  exact ⟨_, hreconcile, rfl, (reconcileSettlement_proved hreconcile).1 rfl⟩

end Sample

/-! ## What is written -/

section Written

/-- `_apply_outcome` on a settled finding: the transaction and the payer that the store is asked to write. -/
def settledMark (record : SettlementRecord) (o : Finding) : Except PyErr (PyVal × PyVal) :=
  let transaction := o.transaction.orElse (.ofOption record.transaction)
  if transaction.truthy then .ok (transaction, o.payer.orElse (.ofOption record.payer))
  else .error (.value "settled reconciliation outcome requires transaction proof")

theorem ofOption_truthy (s : Option String) : (PyVal.ofOption s).truthy = truthyStr s := by
  cases s <;> rfl

theorem ofOption_orElse (a b : Option String) :
    (PyVal.ofOption a).orElse (.ofOption b) = .ofOption (orStr a b) := by
  unfold PyVal.orElse orStr
  rw [ofOption_truthy]
  split <;> rfl

/-- On an outcome with texts this is the mark that the reconciler asks the store for. -/
theorem applyOutcome_settledMark {rec : HostedSettlementReconciler} {record : SettlementRecord}
    {o : ReconciliationOutcome} {now : Instant} {m : Postgres.Db.Mark} (hs : o.status = .settled)
    (h : rec.applyOutcome record o now = .mark m) :
    settledMark record ⟨.settled, .ofOption o.transaction, .ofOption o.payer, .ofOption o.errorReason⟩ =
      .ok (.ofOption m.transaction, .ofOption m.payer) := by
  unfold HostedSettlementReconciler.applyOutcome at h
  rw [hs] at h
  simp only at h
  split at h
  · rename_i ht
    cases h
    simp only [settledMark, ofOption_orElse, ofOption_truthy]
    rw [if_pos ht]
    rfl
  · cases h

variable (r : Reading) (provider : HostedExactProvider) (record : SettlementRecord)

/-- The store is asked to write what was proved: the transaction whose receipt was looked up, and the sender of the log
that proves the transfer. -/
def WritesProved : Prop :=
  ∀ o t p, provider.reconcileSettlement r record = .ok o → o.status = .settled → settledMark record o = .ok (t, p) →
    ∃ transaction receipt log sender payer, t = .str transaction ∧
      provider.Checked r record transaction receipt 1 ∧ provingLog r receipt record = .ok (some log) ∧
      senderOf r log = .ok (some sender) ∧ p = .str payer ∧ r.text.lower payer = sender

/-- The receipt of the transaction that the hook names, or else of the record's, passes every check. -/
def ReceiptProves (outcome : Finding) : Prop :=
  ∃ t receipt, normalizeReported r (outcome.transaction.orElse (.ofOption record.transaction)) = .ok (some t) ∧
    provider.Passes r record t receipt 1 ∧ receiptContainsExactTransfer r receipt record = .ok true

/-- The hook names a payer, and it is not the record's. -/
def NamesOtherPayer (outcome : Finding) : Prop :=
  outcome.payer.truthy = true ∧ ∀ p q, outcome.payer = .str p → record.payer = some q → r.text.lower p ≠ r.text.lower q

variable {r provider record} {outcome o : Finding} {t p : PyVal}

/-- What a hook reports as settled is settled when the receipt passes the checks. -/
theorem reconcileSettlement_of_reports (hreports : provider.Reports r record outcome)
    (hs : outcome.status = .settled) (hproves : provider.ReceiptProves r record outcome) :
    ∃ t, normalizeReported r (outcome.transaction.orElse (.ofOption record.transaction)) = .ok (some t) ∧
      provider.reconcileSettlement r record =
        .ok { status := .settled, transaction := .str t, payer := outcome.payer.orElse (.ofOption record.payer) } := by
  obtain ⟨facilitator, delegated, v, hfacilitator, hdelegated, hv, hcoerce⟩ := hreports
  obtain ⟨t, receipt, ht, hpasses, hproved⟩ := hproves
  refine ⟨t, ht, bind_ok.mpr ⟨facilitator, hfacilitator, ?_⟩⟩
  rw [hdelegated]
  simp only [hv]
  refine bind_ok.mpr ⟨outcome, hcoerce, ?_⟩
  unfold validateReconciliationOutcome
  rw [if_neg (not_not.mpr hs)]
  exact bind_ok.mpr ⟨some t, ht, bind_ok.mpr ⟨_, reconcileTransaction_of_passes hpasses hproved, rfl⟩⟩

/-- A normalised transaction is not empty. -/
theorem normalizeOptionalTxHash_ne_empty (hlower : ∀ s, r.text.lower s = "" → s = "") {s : Option String} {t : String}
    (h : normalizeOptionalTxHash r s = some t) : t ≠ "" := by
  cases s with
  | none => cases h
  | some s =>
    simp only [normalizeOptionalTxHash] at h
    split at h
    · cases h
    · rename_i hne
      obtain rfl := Option.some.inj h
      intro hempty
      have hvalue := hlower _ hempty
      split at hvalue
      · exact hne hvalue
      · exact absurd (congrArg String.toList hvalue) (by simp)

theorem normalizeReported_ne_empty (hlower : ∀ s, r.text.lower s = "" → s = "") {v : PyVal} {t : String}
    (h : normalizeReported r v = .ok (some t)) : t ≠ "" := by
  unfold normalizeReported at h
  split at h
  · cases h
  · exact normalizeOptionalTxHash_ne_empty hlower (Except.ok.inj h)
  · cases h

theorem settledMark_str {t : String} (ht : t ≠ "") (h : o.transaction = .str t) :
    settledMark record o = .ok (.str t, o.payer.orElse (.ofOption record.payer)) := by
  have htruthy : (PyVal.str t).truthy = true := by simpa [PyVal.truthy] using ht
  simp only [settledMark, h, PyVal.orElse, htruthy, if_true]

theorem orElse_orElse (a b : PyVal) : (a.orElse b).orElse b = a.orElse b := by
  unfold PyVal.orElse
  by_cases ha : a.truthy = true
  · simp [ha]
  · simp [ha]

/-- The log that proves a transfer was sent by the record's payer. -/
theorem sender_of_provingLog {receipt log : ChainVal} (h : provingLog r receipt record = .ok (some log)) :
    ∃ q, record.payer = some q ∧ senderOf r log = .ok (some (r.text.lower q)) := by
  obtain ⟨e, he, -, -, hsender⟩ := provingLog_transfer h
  obtain ⟨q, hq, hpayer⟩ := (expectedTransfer_of he).payer
  exact ⟨q, hq, hpayer ▸ hsender⟩

/-- A payer that the hook names and that is not the record's is written in the place of the log's sender. -/
theorem not_writesProved (hlower : ∀ s, r.text.lower s = "" → s = "") (hreports : provider.Reports r record outcome)
    (hs : outcome.status = .settled) (hother : NamesOtherPayer r record outcome)
    (hproves : provider.ReceiptProves r record outcome) : ¬ provider.WritesProved r record := by
  intro hwrites
  obtain ⟨t, ht, hreconcile⟩ := reconcileSettlement_of_reports hreports hs hproves
  obtain ⟨-, receipt, log, sender, payer, -, -, hlog, hsender, hpayer, hlowered⟩ :=
    hwrites _ _ _ hreconcile rfl (settledMark_str (normalizeReported_ne_empty hlower ht) rfl)
  obtain ⟨q, hq, hsender'⟩ := sender_of_provingLog hlog
  rw [hsender'] at hsender
  simp only [PyVal.orElse, hother.1, if_true] at hpayer
  exact hother.2 payer q hpayer hq (hlowered.trans (Option.some.inj (Except.ok.inj hsender)).symm)

/-- **What is written is what was proved**, unless a hook reports a settlement with a payer that is not the record's
and the receipt proves the record's transfer. -/
theorem writesProved_iff (hlower : ∀ s, r.text.lower s = "" → s = "") :
    provider.WritesProved r record ↔
      ¬ ∃ outcome, provider.Reports r record outcome ∧ outcome.status = .settled ∧
        NamesOtherPayer r record outcome ∧ provider.ReceiptProves r record outcome := by
  constructor
  · rintro hwrites ⟨outcome, hreports, hs, hother, hproves⟩
    exact not_writesProved hlower hreports hs hother hproves hwrites
  · intro hno o t p hreconcile hs hmark
    obtain ⟨tx, receipt, hpasses, hproved, htx, hroute⟩ := reconcileSettlement_settled hreconcile hs
    obtain ⟨log, hlog⟩ := receiptContainsExactTransfer_true hproved
    obtain ⟨q, hq, hsender⟩ := sender_of_provingLog hlog
    have hne : tx ≠ "" := by
      rcases hroute with ⟨ht, -⟩ | ⟨outcome, -, -, ht, -⟩
      · exact normalizeOptionalTxHash_ne_empty hlower ht
      · exact normalizeReported_ne_empty hlower ht
    rw [settledMark_str hne htx, Except.ok.injEq, Prod.mk.injEq] at hmark
    obtain ⟨rfl, rfl⟩ := hmark
    have hpayer : ∃ payer, o.payer.orElse (.ofOption record.payer) = .str payer ∧
        r.text.lower payer = r.text.lower q := by
      rcases hroute with ⟨-, hown⟩ | ⟨outcome, hreports, hsettled, ht, hhook⟩
      · exact ⟨q, by rw [hown, ofOption_orElse, hq]; unfold orStr; split <;> rfl, rfl⟩
      · rw [hhook, orElse_orElse]
        unfold PyVal.orElse
        split
        · rename_i htruthy
          -- the hook names a payer: it is a text of the record's, or the hook is one that is excluded
          by_contra hnot
          refine hno ⟨outcome, hreports, hsettled, ⟨htruthy, fun p q' hp hq' hpq => hnot ⟨p, hp, ?_⟩⟩,
            tx, receipt, ht, hpasses, hproved⟩
          rw [hq] at hq'
          exact Option.some.inj hq' ▸ hpq
        · exact ⟨q, by rw [hq]; rfl, rfl⟩
    obtain ⟨payer, hp, hlowered⟩ := hpayer
    exact ⟨tx, receipt, log, r.text.lower q, payer, rfl, hpasses.checked, hlog, hsender, hp, hlowered⟩

/-- What a hook of the sample facilitator reports of the sample record. -/
def sampleReport (payer : PyVal) : Finding where
  status := .settled
  payer := payer

theorem sample_reports (o : Finding) : (sampleProvider (some o)).Reports asciiReading sampleRecord o :=
  ⟨_, _, _, rfl, rfl, rfl, rfl⟩

/-- A hook that names no payer. -/
theorem writesProved_sample : (sampleProvider (some (sampleReport .null))).WritesProved asciiReading sampleRecord := by
  refine (writesProved_iff fun s hs => hs).mpr ?_
  rintro ⟨outcome, ⟨facilitator, delegated, v, hf, hd, hv, hc⟩, -, hother, -⟩
  cases hf
  cases hd
  cases hv
  cases hc
  exact absurd hother.1 (by simp [sampleReport, PyVal.truthy])

/-- A hook that names a payer who sent nothing. -/
theorem foreign_payer_written :
    ¬ (sampleProvider (some (sampleReport (.str "0x00000000000000000000000000000000000000ee")))).WritesProved
      asciiReading sampleRecord := by
  refine not_writesProved (fun s hs => hs) (sample_reports _) rfl ⟨by decide +kernel, ?_⟩
    ⟨"0xab01", sampleReceipt, by decide +kernel, sample_passes _, sample_proved⟩
  intro p q hp hq
  cases hp
  cases hq
  decide +kernel

end Written

end HostedExactProvider
end ExactEvm
end HostedFacilitator
