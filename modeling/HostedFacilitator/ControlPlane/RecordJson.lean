import HostedFacilitator.ControlPlane.Sanitize
import HostedFacilitator.Python.Datetime
import HostedFacilitator.Python.Decimal
import HostedFacilitator.Storage.Types
import Mathlib.Data.List.Infix

/-!
# Settlement records as the control plane shows them

`_settlement_record_json` and `_reconciliation_queue_record_json`. Every text of a record goes through a function that
drops what is not safe. Most of these functions return something for every text; the one for the seller's id raises, and
so do the amount in USDC when it is too large for a `Decimal` and an `extra` that is no dict (`Renderable`,
`queueRecordJson_ok_iff`).
-/

namespace HostedFacilitator

/-- What is outside: the text functions and the Unicode tables. -/
structure Rendering where
  text : Text
  unicode : Unicode
  decimals : Decimals

section Sanitize

variable (env : Rendering)

/-- `_safe_scheme`. -/
def safeScheme (value : String) : String := orDefault (env.unicode.keepOnly ['_', '-'] 24 value) "unknown"

/-- `_safe_optional_id`. -/
def safeOptionalId (value : String) : String := env.unicode.keepOnly ['_', '-', '.'] 96 value

/-- `_safe_profile_id`. -/
def safeProfileId (value : String) : String := orDefault (env.unicode.keepOnly ['_', '-', '.'] 64 value) "default"

/-- `_safe_transaction`. -/
def safeTransaction (value : String) : String := env.unicode.keepOnly ['_', '-', '.'] 128 value

/-- `f"{safe[:6]}...{safe[-4:]}"`. -/
def shorten (safe : String) : String :=
  String.ofList (safe.toList.take 6 ++ ['.', '.', '.'] ++ safe.toList.drop (safe.toList.length - 4))

/-- `_redacted_transaction`. -/
def redactedTransaction (value : String) : String :=
  let safe := safeTransaction env value
  if safe = "" then "" else if safe.toList.length ≤ 12 then "redacted" else shorten safe

/-- `_safe_evm_address`. -/
def safeEvmAddress (value : String) : Except PyErr String :=
  let text := env.text.lower (strip value)
  if text.toList.length ≠ 42 ∨ text.toList.take 2 ≠ ['0', 'x'] then .error (.value "expected EVM address")
  else if ¬(text.toList.drop 2).all fun ch => "0123456789abcdef".toList.contains ch then
    .error (.value "expected EVM address")
  else .ok text

/-- `_redacted_evm_address`. -/
def redactedEvmAddress (value : String) : String :=
  match safeEvmAddress env value with
  | .ok safe => shorten safe
  | .error _ => ""

/-- How a character is read by a pattern of ASCII characters under `re.IGNORECASE`. -/
def foldCase (c : Char) : Char :=
  if c.isUpper then c.toLower
  else if c.toNat = 0x130 ∨ c.toNat = 0x131 then 'i'
  else if c.toNat = 0x17F then 's'
  else if c.toNat = 0x212A then 'k'
  else c

/-- `[_-]?` in front of the rest. -/
def skipDash : List Char → List Char
  | [] => []
  | c :: rest => if c = '_' ∨ c = '-' then rest else c :: rest

/-- A match of `_SECRET_SHAPED_REASON_RE` at the beginning of a folded text. -/
def secretAt (s : List Char) : Bool :=
  let token := (s.drop 5).take 8
  let hash := (s.drop 2).take 64
  let afterCircle := skipDash (s.drop 6)
  ("omck_".toList.isPrefixOf s || "omcr_".toList.isPrefixOf s) && token.length == 8 &&
      token.all (fun c => c.isLower || c.isDigit || c == '_' || c == '-') ||
    "0x".toList.isPrefixOf s && hash.length == 64 && hash.all ("0123456789abcdef".toList.contains ·) ||
    "circle".toList.isPrefixOf s && "api".toList.isPrefixOf afterCircle &&
      "key".toList.isPrefixOf (skipDash (afterCircle.drop 3))

/-- `_SECRET_SHAPED_REASON_RE.search(value)`. -/
def secretShaped (value : String) : Bool := (value.toList.map foldCase).tails.any secretAt

/-- `_safe_error_reason`. -/
def safeErrorReason (value : String) : String :=
  if secretShaped value then "redacted" else env.unicode.keepOnly ['_', '-', '.', ':'] 160 value

/-- `_safe_settlement_status`. -/
def safeSettlementStatus (value : String) : String :=
  if value ∈ ["received", "settle_in_progress", "submitted", "settled", "settle_failed", "unknown", "reconciled",
      "manual_review"] then value
  else "unknown"

/-- `_safe_amount_atomic`. -/
def safeAmountAtomic : PyVal → String
  | .null => ""
  | value =>
    let text := strip (value.toStr env.text)
    if env.unicode.isDigits text.toList then text else ""

/-- `_format_usdc_amount`: the quotient is rounded to the 28 digits of the default context. -/
def formatUsdcAmount (amountAtomic : String) : Except PyErr String :=
  if amountAtomic = "" then .ok ""
  else
    match env.decimals.decimal amountAtomic with
    | none | some (.nan _ true _) => .ok ""
    | some (.nan negative false payload) => .ok (nanText negative (payload % 10 ^ 28))
    | some (.infinity negative) => .ok (if negative then "-Infinity" else "Infinity")
    | some (.finite negative c e) =>
      let amount := (Decimal.reduce c (e - 6)).round 28 leastExponent
      if largestExponent < amount.exponent + Decimal.digitCount amount.coefficient - 1 then
        .error (.other "Overflow" "[<class 'decimal.Overflow'>]")
      else .ok (Decimal.plain negative amount)

/-- `(raw_requirements.get("extra") or {}).get("name") or ""`, as a text. -/
def extraName (rawRequirements : PyDict) : Except PyErr String :=
  match (rawRequirements.get "extra").orElse (.dict []) with
  | .dict extra => .ok (((PyDict.get extra "name").orElse (.str "")).toStr env.text)
  | _ => .error (.other "AttributeError" "object has no attribute 'get'")

end Sanitize

/-- `_safe_datetime_iso`. -/
def safeDatetimeIso (value : Option Instant) : String := (value.map isoformat).getD ""

/-- What `_settlement_record_json` returns. -/
structure SettlementRecordJson where
  recordId : Nat
  sellerRef : String
  paymentProfileId : String
  provider : String
  scheme : String
  network : String
  status : String
  traceId : String
  transaction : String
  payer : String
  errorReason : String
  amountAtomic : String
  amountUsdc : String
  asset : String
  payTo : String
  rail : String
  createdAt : String
  updatedAt : String
  reconciliationAttempts : Nat

/-- The `reconciliation` object of an item. -/
structure ReconciliationJson where
  owner : String
  leaseUntil : String
  attempts : Nat
  duplicateClaims : Nat
  lastDuplicateAt : String

/-- What `_reconciliation_queue_record_json` returns. -/
structure QueueRecordJson extends SettlementRecordJson where
  ageSeconds : Int
  reconciliation : ReconciliationJson

section Json

variable (env : Rendering)

/-- `_settlement_record_json`. -/
def settlementRecordJson (r : SettlementRecord) : Except PyErr SettlementRecordJson := do
  let amountAtomic := safeAmountAtomic env (r.rawRequirements.get "amount")
  let sellerRef ← safeSellerRef env.unicode r.sellerAccountId
  let amountUsdc ← formatUsdcAmount env amountAtomic
  let rail ← extraName env r.rawRequirements
  return {
    recordId := r.recordId
    sellerRef := sellerRef
    paymentProfileId := safeProfileId env r.paymentProfileId
    provider := safeProviderName env.unicode r.provider
    scheme := safeScheme env (r.scheme.getD "")
    network := (safeNetworkOrNone env.unicode (some (r.network.getD ""))).getD ""
    status := safeSettlementStatus r.status.value
    traceId := safeOptionalId env (r.traceId.getD "")
    transaction := redactedTransaction env (r.transaction.getD "")
    payer := redactedEvmAddress env (r.payer.getD "")
    errorReason := safeErrorReason env (r.errorReason.getD "")
    amountAtomic := amountAtomic
    amountUsdc := amountUsdc
    asset := redactedEvmAddress env (((r.rawRequirements.get "asset").orElse (.str "")).toStr env.text)
    payTo := redactedEvmAddress env (((r.rawRequirements.get "payTo").orElse (.str "")).toStr env.text)
    rail := safeProviderName env.unicode rail
    createdAt := safeDatetimeIso (some r.createdAt)
    updatedAt := safeDatetimeIso (some r.updatedAt)
    reconciliationAttempts := r.reconciliationAttempts }

/-- `_reconciliation_queue_record_json`. -/
def queueRecordJson (now : Instant) (r : SettlementRecord) : Except PyErr QueueRecordJson := do
  let item ← settlementRecordJson env r
  return { item with
    ageSeconds := max 0 ((now - r.updatedAt) / 1000000)
    reconciliation := {
      owner := safeOptionalId env (r.reconciliationOwner.getD "")
      leaseUntil := safeDatetimeIso r.reconciliationLeaseUntil
      attempts := r.reconciliationAttempts
      duplicateClaims := r.duplicateClaims
      lastDuplicateAt := safeDatetimeIso r.lastDuplicateAt } }

/-- The three parts of a record that the functions above may refuse. -/
structure Renderable (r : SettlementRecord) : Prop where
  sellerRef : ∃ ref, safeSellerRef env.unicode r.sellerAccountId = .ok ref
  amount : ∃ amount, formatUsdcAmount env (safeAmountAtomic env (r.rawRequirements.get "amount")) = .ok amount
  extra : ∃ name, extraName env r.rawRequirements = .ok name

variable {env}

/-- A record is shown exactly when none of its parts is refused. -/
theorem queueRecordJson_ok_iff {now : Instant} {r : SettlementRecord} :
    (∃ item, queueRecordJson env now r = .ok item) ↔ Renderable env r := by
  constructor
  · rintro ⟨item, h⟩
    obtain ⟨json, hjson, -⟩ := bind_ok.mp h
    obtain ⟨ref, href, hjson⟩ := bind_ok.mp hjson
    obtain ⟨amount, hamount, hjson⟩ := bind_ok.mp hjson
    obtain ⟨name, hname, -⟩ := bind_ok.mp hjson
    exact ⟨⟨ref, href⟩, ⟨amount, hamount⟩, ⟨name, hname⟩⟩
  · rintro ⟨⟨ref, href⟩, ⟨amount, hamount⟩, ⟨name, hname⟩⟩
    exact ⟨_, bind_ok.mpr ⟨_, bind_ok.mpr
      ⟨ref, href, bind_ok.mpr ⟨amount, hamount, bind_ok.mpr ⟨name, hname, rfl⟩⟩⟩, rfl⟩⟩

/-- An item names its record. -/
theorem queueRecordJson_recordId {now : Instant} {r : SettlementRecord} {item : QueueRecordJson}
    (h : queueRecordJson env now r = .ok item) : item.recordId = r.recordId := by
  obtain ⟨json, hjson, h⟩ := bind_ok.mp h
  obtain ⟨ref, -, hjson⟩ := bind_ok.mp hjson
  obtain ⟨amount, -, hjson⟩ := bind_ok.mp hjson
  obtain ⟨name, -, hjson⟩ := bind_ok.mp hjson
  rw [← Except.ok.inj h, ← Except.ok.inj hjson]

end Json

end HostedFacilitator
