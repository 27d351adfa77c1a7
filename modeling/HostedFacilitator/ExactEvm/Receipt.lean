import HostedFacilitator.Python.Numbers
import HostedFacilitator.Storage.Types

/-!
# Receipts

`exact_evm.py` reads a transaction receipt that an untyped client returned: a dict or an object, hashes and numbers as
`bytes`, as objects with a `hex()` method or as texts. The helpers here coerce each field they need; a receipt proves
a settlement when one of its logs is a `Transfer` of the record's amount from the record's payer to the record's
recipient in the record's asset.

`Transfer` says what such a log is, field by field, and the log at which the loop stops is one (`provingLog_transfer`).
-/

namespace HostedFacilitator
namespace ExactEvm

/-- What Python's protocols say of an object of an unknown class: its truth value, its `hex()` where it has the
method, `str()` of it and `int()` of it. -/
structure View where
  truthy : Bool := true
  hex : Option (Except PyErr String) := none
  text : Except PyErr String := .ok ""
  int : Except PyErr Int := .error (.type "int() argument must be a string, a bytes-like object or a real number")

/-- A value of chain data. `bytes` also stands for a subclass; `marked` says that its `hex()` writes the `0x` itself.
A float carries its `float.hex()`. An object has attributes and, where it can be indexed, items. -/
inductive ChainVal where
  | none
  | bool (b : Bool)
  | int (n : Int)
  | float (f : PyFloat) (hex : String)
  | str (s : String)
  | bytes (data : List UInt8) (marked : Bool)
  | list (xs : List ChainVal)
  | tuple (xs : List ChainVal)
  | dict (entries : List (String × ChainVal))
  | object (attributes items : List (String × ChainVal)) (view : View)

/-- What the reading of chain data takes from the language: the text functions, the Unicode digits, and `str()` of a
list, a tuple or a dict. -/
structure Reading where
  text : Text
  decimals : Decimals
  containerStr : ChainVal → String

namespace ChainVal

def isNone : ChainVal → Bool
  | .none => true
  | _ => false

/-- The truth value of `bool(v)`. -/
def truthy : ChainVal → Bool
  | .none => false
  | .bool b => b
  | .int n => n != 0
  | .float (.finite _ q) _ => q != 0
  | .float _ _ => true
  | .str s => s != ""
  | .bytes data _ => !data.isEmpty
  | .list xs | .tuple xs => !xs.isEmpty
  | .dict d => !d.isEmpty
  | .object _ _ view => view.truthy

/-- `a or b`. -/
def orElse (a b : ChainVal) : ChainVal := if a.truthy then a else b

/-- The elements of a list or a tuple. -/
def asSequence : ChainVal → Option (List ChainVal)
  | .list xs | .tuple xs => some xs
  | _ => Option.none

/-- `_get_field`; an item that cannot be read counts as missing. -/
def getField (target : ChainVal) (name : String) : ChainVal :=
  match target with
  | .dict entries => (entries.lookup name).getD .none
  | .object attributes items _ => ((attributes.lookup name).or (items.lookup name)).getD .none
  | _ => .none

end ChainVal

def topicTransfer : String := "0xddf252ad1be2c89b69c2b068fc378daa952ba7f163c4a11628f55a4df523b3ef"

section Helpers

variable (r : Reading)

/-- `_hex_value`. -/
def hexValue : ChainVal → Except PyErr String
  | .bytes data marked => .ok (String.ofList ('0' :: 'x' :: ((if marked then ['0', 'x'] else []) ++ hexDigits data)))
  | .float _ hex => .ok (if startsHex hex then hex else "0x" ++ hex)
  | .object _ _ view =>
    match view.hex with
    | some hex => hex.map fun hex => if startsHex hex then hex else "0x" ++ hex
    | none => view.text
  | .none => .ok "None"
  | .bool b => .ok (if b then "True" else "False")
  | .int n => strInt n
  | .str s => .ok s
  | v => .ok (r.containerStr v)

/-- `int(v)`. -/
def toInt : ChainVal → Except PyErr Int
  | .bool b => .ok (if b then 1 else 0)
  | .int n => .ok n
  | .float f _ => f.truncate
  | .str s => orBadLiteral (r.decimals.ofText 10 s)
  | .bytes data _ => orBadLiteral (readInt 10 (data.map fun b => Char.ofNat b.toNat))
  | .object _ _ view => view.int
  | _ => .error (.type "int() argument must be a string, a bytes-like object or a real number")

/-- `_receipt_status`. -/
def receiptStatus (receipt : ChainVal) : Except PyErr (Option Int) :=
  match receipt.getField "status" with
  | .bool b => .ok (some (if b then 1 else 0))
  | .str s =>
    if startsHex (r.text.lower s) then .ok (r.decimals.ofText 16 s)
    else noneOnBadValue (toInt r (.str s))
  | status => noneOnBadValue (toInt r status)

/-- `_normalize_optional_tx_hash`. -/
def normalizeOptionalTxHash : Option String → Option String
  | none => none
  | some transaction =>
    let value := strip transaction
    if value = "" then none
    else some (r.text.lower (if startsHex value then value else "0x" ++ value))

/-- The receipt's own transaction hash. -/
def receiptHash (receipt : ChainVal) : ChainVal :=
  (receipt.getField "transactionHash").orElse (receipt.getField "transaction_hash")

/-- `_receipt_transaction_matches`. -/
def receiptTransactionMatches (receipt : ChainVal) (transaction : String) : Except PyErr Bool :=
  if (receiptHash receipt).isNone then .ok true
  else (hexValue r (receiptHash receipt)).map fun hash =>
    normalizeOptionalTxHash r (some hash) == some (r.text.lower transaction)

/-- The part of `_normalize_address` after the type check. -/
def normalizeAddressText (s : String) : Option String :=
  if startsHex (r.text.lower s) && (r.text.lower s).length == 42 then some (r.text.lower s) else none

/-- `_normalize_address`, of a field of a log. -/
def normalizeAddress : ChainVal → Option String
  | .str s => normalizeAddressText r s
  | _ => none

/-- `_topic_address`. -/
def topicAddress (topic : ChainVal) : Except PyErr (Option String) :=
  (hexValue r topic).map fun text =>
    let lowered := (r.text.lower text).toList
    let raw := if startsHex (r.text.lower text) then lowered.drop 2 else lowered
    if raw.length = 64 then some (String.ofList ('0' :: 'x' :: raw.drop 24)) else none

/-- `_log_data_int`. -/
def logDataInt (data : ChainVal) : Except PyErr (Option Int) :=
  (hexValue r data).map fun raw => r.decimals.ofText (if startsHex raw then 16 else 10) raw

/-- What the receipt has to show. -/
structure Expected where
  asset : String
  payer : String
  payTo : String
  amount : Int
  deriving DecidableEq

/-- The head of `_receipt_contains_exact_transfer`: what the record says was to be paid. -/
def expectedTransfer (record : SettlementRecord) : Option Expected := do
  let requirements := record.rawRequirements
  let amount ← r.decimals.ofText 10 ((requirements.get "amount").toStr r.text)
  let asset ← (requirements.get "asset").asStr.bind (normalizeAddressText r)
  let payer ← record.payer.bind (normalizeAddressText r)
  let payTo ← (requirements.get "payTo").asStr.bind (normalizeAddressText r)
  some ⟨asset, payer, payTo, amount⟩

/-- One round of the loop: `true` where none of the conditions skips the log. -/
def provesTransfer (expected : Expected) (log : ChainVal) : Except PyErr Bool :=
  if normalizeAddress r (log.getField "address") ≠ some expected.asset then .ok false
  else match (log.getField "topics").asSequence with
    | some (signature :: sender :: recipient :: _) => do
      let signature ← hexValue r signature
      if r.text.lower signature ≠ topicTransfer then .ok false
      else
        let sender ← topicAddress r sender
        if sender ≠ some expected.payer then .ok false
        else
          let recipient ← topicAddress r recipient
          if recipient ≠ some expected.payTo then .ok false
          else
            let amount ← logDataInt r (log.getField "data")
            .ok (amount == some expected.amount)
    | _ => .ok false

/-- The loop: the log at which it returns `True`, if there is one. -/
def findTransfer (expected : Expected) : List ChainVal → Except PyErr (Option ChainVal)
  | [] => .ok none
  | log :: logs => do
    if ← provesTransfer r expected log then .ok (some log) else findTransfer expected logs

/-- `_receipt_logs`. -/
def receiptLogs (receipt : ChainVal) : List ChainVal :=
  match receipt.getField "logs" with
  | .list logs => logs
  | _ => []

/-- The log that proves the record's transfer. -/
def provingLog (receipt : ChainVal) (record : SettlementRecord) : Except PyErr (Option ChainVal) :=
  match expectedTransfer r record with
  | none => .ok none
  | some expected => findTransfer r expected (receiptLogs receipt)

/-- `_receipt_contains_exact_transfer`. -/
def receiptContainsExactTransfer (receipt : ChainVal) (record : SettlementRecord) : Except PyErr Bool :=
  (provingLog r receipt record).map Option.isSome

end Helpers

/-! ## What a proof is -/

section Meaning

variable (r : Reading)

/-- What the record says was to be paid. -/
structure Expected.Of (record : SettlementRecord) (e : Expected) : Prop where
  asset : ∃ s, record.rawRequirements.get "asset" = .str s ∧ e.asset = r.text.lower s
  payer : ∃ s, record.payer = some s ∧ e.payer = r.text.lower s
  payTo : ∃ s, record.rawRequirements.get "payTo" = .str s ∧ e.payTo = r.text.lower s
  amount : r.decimals.ofText 10 ((record.rawRequirements.get "amount").toStr r.text) = some e.amount

/-- A topic is a word of 64 characters whose last 40 are the address without its `0x`. -/
def EndsIn (topic : ChainVal) (address : String) : Prop :=
  ∃ text word, hexValue r topic = .ok text ∧
    ((r.text.lower text).toList = word ∨ (r.text.lower text).toList = '0' :: 'x' :: word) ∧
    word.length = 64 ∧ ∃ padding, word = padding ++ address.toList.drop 2

/-- The number that a log's data stands for. Bytes spell it in big-endian order; the text of another value is a
numeral, hexadecimal after `0x` and decimal without. -/
def Denotes (data : ChainVal) (n : Int) : Prop :=
  match data with
  | .bytes data false => data ≠ [] ∧ n = bigEndian 0 data
  | data => ∃ text, hexValue r data = .ok text ∧
      r.decimals.ofText (if startsHex text then 16 else 10) text = some n

/-- A log of the expected transfer. -/
structure Transfer (e : Expected) (log : ChainVal) : Prop where
  address : ∃ s, log.getField "address" = .str s ∧ r.text.lower s = e.asset
  topics : ∃ signature sender recipient rest text,
    (log.getField "topics").asSequence = some (signature :: sender :: recipient :: rest) ∧
      hexValue r signature = .ok text ∧ r.text.lower text = topicTransfer ∧
      EndsIn r sender e.payer ∧ EndsIn r recipient e.payTo
  data : Denotes r (log.getField "data") e.amount

/-- The address that the second topic of a log encodes. -/
def senderOf (log : ChainVal) : Except PyErr (Option String) :=
  match (log.getField "topics").asSequence with
  | some (_ :: sender :: _) => topicAddress r sender
  | _ => .ok none

/-- The status value is a boolean, or the text of a hexadecimal number, or `int()` converts it. -/
inductive Converts : ChainVal → Int → Prop
  | bool (b : Bool) : Converts (.bool b) (if b then 1 else 0)
  | hex {s : String} {n : Int} (h : r.decimals.ofText 16 s = some n) : Converts (.str s) n
  | int {v : ChainVal} {n : Int} (h : toInt r v = .ok n) : Converts v n

/-- The receipt does not name another transaction: its hash is missing or false, or it is the transaction's. -/
def NotContradicting (receipt : ChainVal) (transaction : String) : Prop :=
  (receiptHash receipt).truthy = false ∨
    ∃ hash, hexValue r (receiptHash receipt) = .ok hash ∧
      normalizeOptionalTxHash r (some hash) = some (r.text.lower transaction)

end Meaning

section Facts

variable {r : Reading} {record : SettlementRecord} {receipt log v : ChainVal} {e : Expected}

theorem normalizeAddressText_some {s a : String} (h : normalizeAddressText r s = some a) :
    a = r.text.lower s ∧ startsHex a = true ∧ a.length = 42 := by
  unfold normalizeAddressText at h
  split at h
  · rename_i hc
    obtain rfl := Option.some.inj h
    simp only [Bool.and_eq_true, beq_iff_eq] at hc
    exact ⟨rfl, hc⟩
  · cases h

theorem expectedTransfer_of (h : expectedTransfer r record = some e) : e.Of r record := by
  simp only [expectedTransfer, Option.bind_eq_bind, Option.bind_eq_some_iff, Option.some.injEq] at h
  obtain ⟨amount, hamount, asset, ⟨s, hs, hasset⟩, payer, ⟨p, hp, hpayer⟩, payTo, ⟨t, ht, hpayTo⟩, rfl⟩ := h
  exact ⟨⟨s, PyVal.asStr_eq_some hs, (normalizeAddressText_some hasset).1⟩, ⟨p, hp, (normalizeAddressText_some hpayer).1⟩,
    ⟨t, PyVal.asStr_eq_some ht, (normalizeAddressText_some hpayTo).1⟩, hamount⟩

theorem topicAddress_some {a : String} (h : topicAddress r v = .ok (some a)) : EndsIn r v a := by
  obtain ⟨text, htext, h⟩ := map_ok.mp h
  have hword : (r.text.lower text).toList =
        (if startsHex (r.text.lower text) then (r.text.lower text).toList.drop 2 else (r.text.lower text).toList) ∨
      (r.text.lower text).toList = '0' :: 'x' ::
        (if startsHex (r.text.lower text) then (r.text.lower text).toList.drop 2 else (r.text.lower text).toList) := by
    by_cases hx : startsHex (r.text.lower text) = true
    · right
      have htake : (r.text.lower text).toList.take 2 = ['0', 'x'] := by simpa [startsHex] using hx
      have hsplit := List.take_append_drop 2 (r.text.lower text).toList
      rw [htake] at hsplit
      rw [if_pos hx]
      exact hsplit.symm
    · left
      rw [if_neg hx]
  simp only at h
  generalize (if startsHex (r.text.lower text) then (r.text.lower text).toList.drop 2
    else (r.text.lower text).toList) = word at h hword
  split at h
  · rename_i hlength
    obtain rfl := Option.some.inj h
    exact ⟨text, word, htext, hword, hlength, word.take 24, by simp⟩
  · cases h

/-- `_log_data_int` reads the number that the data stands for. -/
theorem logDataInt_some {n : Int} (h : logDataInt r v = .ok (some n)) : Denotes r v n := by
  obtain ⟨text, htext, h⟩ := map_ok.mp h
  unfold Denotes
  split
  · rename_i data
    obtain rfl := Except.ok.inj htext
    have hx : startsHex (String.ofList ('0' :: 'x' :: hexDigits data)) = true := by simp [startsHex]
    simp only [Bool.false_eq_true, if_false, List.nil_append, hx, if_true] at h
    rw [r.decimals.ofText_hexBytes] at h
    split at h
    · cases h
    · rename_i hne
      exact ⟨hne, (Option.some.inj h).symm⟩
  · exact ⟨text, htext, h⟩

/-- A round that stops the loop is at a log of the expected transfer, sent by the expected payer. -/
theorem provesTransfer_true (h : provesTransfer r e log = .ok true) :
    Transfer r e log ∧ senderOf r log = .ok (some e.payer) := by
  unfold provesTransfer at h
  split at h
  · cases h
  rename_i haddress
  rw [not_not] at haddress
  split at h
  · rename_i signature sender recipient rest htopics
    obtain ⟨text, hsignature, h⟩ := bind_ok.mp h
    split at h
    · cases h
    rename_i htopic
    obtain ⟨from', hsender, h⟩ := bind_ok.mp h
    split at h
    · cases h
    rename_i hfrom
    obtain ⟨to', hrecipient, h⟩ := bind_ok.mp h
    split at h
    · cases h
    rename_i hto
    obtain ⟨amount, hdata, h⟩ := bind_ok.mp h
    rw [not_not] at htopic hfrom hto
    have hamount : amount = some e.amount := by simpa using Except.ok.inj h
    rw [hfrom] at hsender
    rw [hto] at hrecipient
    rw [hamount] at hdata
    refine ⟨⟨?_, ⟨signature, sender, recipient, rest, text, htopics, hsignature, htopic, topicAddress_some hsender,
      topicAddress_some hrecipient⟩, logDataInt_some hdata⟩, by rw [senderOf, htopics]; exact hsender⟩
    revert haddress
    cases log.getField "address" with
    | str s => exact fun haddress => ⟨s, rfl, (normalizeAddressText_some haddress).1.symm⟩
    | _ => intro haddress; cases haddress
  · cases h

theorem findTransfer_some {logs : List ChainVal} (h : findTransfer r e logs = .ok (some log)) :
    log ∈ logs ∧ provesTransfer r e log = .ok true := by
  induction logs with
  | nil => cases h
  | cons l logs ih =>
    obtain ⟨found, hfound, h⟩ := bind_ok.mp h
    cases found with
    | true =>
      obtain rfl := Option.some.inj (Except.ok.inj h)
      exact ⟨List.mem_cons_self, hfound⟩
    | false =>
      obtain ⟨hmem, hlog⟩ := ih h
      exact ⟨List.mem_cons_of_mem _ hmem, hlog⟩

/-- The log at which the loop stops is a log of the receipt, of the transfer that the record expects. -/
theorem provingLog_transfer (h : provingLog r receipt record = .ok (some log)) :
    ∃ e, expectedTransfer r record = some e ∧ log ∈ receiptLogs receipt ∧ Transfer r e log ∧
      senderOf r log = .ok (some e.payer) := by
  unfold provingLog at h
  split at h
  · cases h
  · rename_i e he
    obtain ⟨hmem, hlog⟩ := findTransfer_some h
    obtain ⟨htransfer, hsender⟩ := provesTransfer_true hlog
    exact ⟨e, he, hmem, htransfer, hsender⟩

theorem receiptContainsExactTransfer_true (h : receiptContainsExactTransfer r receipt record = .ok true) :
    ∃ log, provingLog r receipt record = .ok (some log) := by
  obtain ⟨found, hfound, h⟩ := map_ok.mp h
  obtain ⟨log, rfl⟩ := Option.isSome_iff_exists.mp h
  exact ⟨log, hfound⟩

/-- The status is one that the field converts to. -/
theorem receiptStatus_some {n : Int} (h : receiptStatus r receipt = .ok (some n)) :
    Converts r (receipt.getField "status") n := by
  unfold receiptStatus at h
  split at h
  · rename_i b hb
    obtain rfl := Option.some.inj (Except.ok.inj h)
    rw [hb]
    exact .bool b
  · rename_i s hs
    rw [hs]
    split at h
    · exact .hex (Except.ok.inj h)
    · exact .int (noneOnBadValue_some h)
  · exact .int (noneOnBadValue_some h)

theorem receiptTransactionMatches_true {transaction : String}
    (h : receiptTransactionMatches r receipt transaction = .ok true) : NotContradicting r receipt transaction := by
  unfold receiptTransactionMatches at h
  split at h
  · rename_i hnone
    left
    revert hnone
    cases receiptHash receipt with
    | none => exact fun _ => rfl
    | _ => intro hnone; cases hnone
  · obtain ⟨hash, hhash, h⟩ := map_ok.mp h
    exact .inr ⟨hash, hhash, by simpa using h⟩

end Facts

end ExactEvm
end HostedFacilitator
