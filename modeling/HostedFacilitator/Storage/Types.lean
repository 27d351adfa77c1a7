import HostedFacilitator.Python.Value

/-!
# Settlement records and attempts

The data of `storage.py`: the statuses, the record and attempt rows, the arguments of a claim, and the table from a
record's status to the answer a duplicate claim gets.
-/

namespace HostedFacilitator

/-- Microseconds since the epoch, in UTC. -/
abbrev Instant := Int

inductive SettlementStatus where
  | received
  | settleInProgress
  | submitted
  | settled
  | settleFailed
  | unknown
  | reconciled
  | manualReview
  deriving DecidableEq, Repr

/-- The value stored in the `status` column. -/
def SettlementStatus.value : SettlementStatus → String
  | .received => "received"
  | .settleInProgress => "settle_in_progress"
  | .submitted => "submitted"
  | .settled => "settled"
  | .settleFailed => "settle_failed"
  | .unknown => "unknown"
  | .reconciled => "reconciled"
  | .manualReview => "manual_review"

inductive SettlementClaim where
  | claimed
  | duplicateInFlight
  | duplicateFinal
  | duplicateUnknown
  | duplicateManualReview
  deriving DecidableEq, Repr

inductive SettlementAttemptStatus where
  | started
  | submitted
  | settled
  | failed
  | unknown
  deriving DecidableEq, Repr

structure SettlementRecord where
  recordId : Nat
  sellerAccountId : String
  fingerprint : String
  provider : String
  scheme : Option String
  network : Option String
  status : SettlementStatus
  traceId : Option String := none
  transaction : Option String := none
  payer : Option String := none
  errorReason : Option String := none
  createdAt : Instant
  updatedAt : Instant
  rawRequirements : PyDict := []
  reconciliationOwner : Option String := none
  reconciliationLeaseUntil : Option Instant := none
  reconciliationAttempts : Nat := 0
  paymentProfileId : String := "default"
  duplicateClaims : Nat := 0
  lastDuplicateAt : Option Instant := none

structure SettlementAttemptRecord where
  attemptId : Nat
  settlementRecordId : Nat
  traceId : Option String
  status : SettlementAttemptStatus
  startedAt : Instant
  finishedAt : Option Instant := none
  transaction : Option String := none
  errorReason : Option String := none
  deriving DecidableEq

/-- The arguments of a settlement claim. Every store keeps `_safe_requirements(raw_requirements)`, not the raw
object, so the request carries the safe one. -/
structure ClaimRequest where
  sellerAccountId : String
  paymentProfileId : String
  fingerprint : String
  provider : String
  scheme : Option String
  network : Option String
  traceId : String
  safeRequirements : PyDict := []

/-- What a replay is recognised by across payment profiles. -/
structure ReplayKey where
  sellerAccountId : String
  provider : String
  scheme : Option String
  network : Option String
  fingerprint : String
  deriving DecidableEq

/-- `COALESCE(scheme, '')` and `COALESCE(network, '')`. -/
def ReplayKey.coalesce (k : ReplayKey) : ReplayKey :=
  { k with scheme := some (k.scheme.getD ""), network := some (k.network.getD "") }

/-- What the unique constraint is on. -/
structure ProfileKey where
  sellerAccountId : String
  paymentProfileId : String
  fingerprint : String
  deriving DecidableEq

/-- One payment of one seller, whatever the payment profile. -/
structure PaymentKey where
  sellerAccountId : String
  fingerprint : String
  deriving DecidableEq

def ReplayKey.paymentKey (k : ReplayKey) : PaymentKey := ⟨k.sellerAccountId, k.fingerprint⟩

def ProfileKey.paymentKey (k : ProfileKey) : PaymentKey := ⟨k.sellerAccountId, k.fingerprint⟩

theorem ReplayKey.paymentKey_of_coalesce {k k' : ReplayKey} (h : k.coalesce = k'.coalesce) :
    k.paymentKey = k'.paymentKey := by
  simp only [coalesce, ReplayKey.mk.injEq] at h
  simp only [paymentKey, h.1, h.2.2.2.2]

namespace SettlementRecord

def replayKey (r : SettlementRecord) : ReplayKey :=
  ⟨r.sellerAccountId, r.provider, r.scheme, r.network, r.fingerprint⟩

def profileKey (r : SettlementRecord) : ProfileKey :=
  ⟨r.sellerAccountId, r.paymentProfileId, r.fingerprint⟩

def paymentKey (r : SettlementRecord) : PaymentKey := ⟨r.sellerAccountId, r.fingerprint⟩

@[simp] theorem replayKey_paymentKey (r : SettlementRecord) : r.replayKey.paymentKey = r.paymentKey := rfl

@[simp] theorem profileKey_paymentKey (r : SettlementRecord) : r.profileKey.paymentKey = r.paymentKey := rfl

/-- `_record_duplicate_claim`. -/
def recordDuplicateClaim (now : Instant) (r : SettlementRecord) : SettlementRecord :=
  { r with duplicateClaims := r.duplicateClaims + 1, lastDuplicateAt := some now }

@[simp] theorem recordDuplicateClaim_recordId (now : Instant) (r : SettlementRecord) :
    (r.recordDuplicateClaim now).recordId = r.recordId := rfl

@[simp] theorem recordDuplicateClaim_replayKey (now : Instant) (r : SettlementRecord) :
    (r.recordDuplicateClaim now).replayKey = r.replayKey := rfl

@[simp] theorem recordDuplicateClaim_profileKey (now : Instant) (r : SettlementRecord) :
    (r.recordDuplicateClaim now).profileKey = r.profileKey := rfl

@[simp] theorem recordDuplicateClaim_status (now : Instant) (r : SettlementRecord) :
    (r.recordDuplicateClaim now).status = r.status := rfl

end SettlementRecord

namespace ClaimRequest

def replayKey (c : ClaimRequest) : ReplayKey :=
  ⟨c.sellerAccountId, c.provider, c.scheme, c.network, c.fingerprint⟩

def profileKey (c : ClaimRequest) : ProfileKey :=
  ⟨c.sellerAccountId, c.paymentProfileId, c.fingerprint⟩

def paymentKey (c : ClaimRequest) : PaymentKey := ⟨c.sellerAccountId, c.fingerprint⟩

@[simp] theorem replayKey_paymentKey (c : ClaimRequest) : c.replayKey.paymentKey = c.paymentKey := rfl

@[simp] theorem profileKey_paymentKey (c : ClaimRequest) : c.profileKey.paymentKey = c.paymentKey := rfl

/-- The record a fresh claim creates. -/
def freshRecord (c : ClaimRequest) (recordId : Nat) (now : Instant) : SettlementRecord where
  recordId := recordId
  sellerAccountId := c.sellerAccountId
  fingerprint := c.fingerprint
  provider := c.provider
  scheme := c.scheme
  network := c.network
  status := .settleInProgress
  traceId := some c.traceId
  createdAt := now
  updatedAt := now
  rawRequirements := c.safeRequirements
  paymentProfileId := c.paymentProfileId

/-- The attempt row that goes with it. -/
def startedAttempt (c : ClaimRequest) (attemptId recordId : Nat) (now : Instant) : SettlementAttemptRecord where
  attemptId := attemptId
  settlementRecordId := recordId
  traceId := some c.traceId
  status := .started
  startedAt := now

@[simp] theorem freshRecord_recordId (c : ClaimRequest) (n : Nat) (now : Instant) :
    (c.freshRecord n now).recordId = n := rfl

@[simp] theorem freshRecord_replayKey (c : ClaimRequest) (n : Nat) (now : Instant) :
    (c.freshRecord n now).replayKey = c.replayKey := rfl

@[simp] theorem freshRecord_profileKey (c : ClaimRequest) (n : Nat) (now : Instant) :
    (c.freshRecord n now).profileKey = c.profileKey := rfl

@[simp] theorem freshRecord_status (c : ClaimRequest) (n : Nat) (now : Instant) :
    (c.freshRecord n now).status = .settleInProgress := rfl

end ClaimRequest

/-- The record of a claim: it carries the keys of the request. -/
structure SettlementRecord.Of (c : ClaimRequest) (r : SettlementRecord) : Prop where
  replayKey : r.replayKey = c.replayKey
  profileKey : r.profileKey = c.profileKey

theorem SettlementRecord.Of.paymentKey {c : ClaimRequest} {r : SettlementRecord} (h : r.Of c) :
    r.paymentKey = c.paymentKey := by
  rw [← r.replayKey_paymentKey, h.replayKey, c.replayKey_paymentKey]

theorem ClaimRequest.freshRecord_of (c : ClaimRequest) (n : Nat) (now : Instant) : (c.freshRecord n now).Of c :=
  ⟨rfl, rfl⟩

/-- `_claim_for_status`. -/
def claimForStatus : SettlementStatus → SettlementClaim
  | .settled | .settleFailed => .duplicateFinal
  | .unknown | .submitted | .reconciled => .duplicateUnknown
  | .manualReview => .duplicateManualReview
  | .received | .settleInProgress => .duplicateInFlight

theorem claimForStatus_ne_claimed (s : SettlementStatus) : claimForStatus s ≠ .claimed := by
  cases s <;> simp [claimForStatus]

/-- `_safe_requirements`. -/
def safeRequirements (text : Text) (requirements : PyDict) : PyDict :=
  let kept := ["scheme", "network", "asset", "amount", "payTo", "maxTimeoutSeconds"].filterMap fun key =>
    (requirements.lookup key).map fun v => (key, v)
  let resource := match requirements.get "resource" with
    | .str s => [("resourceHash", PyVal.str (text.sha256 s))]
    | _ => []
  let extra := match requirements.get "extra" with
    | .dict e => match PyDict.get e "name" with
      | .str name => [("extra", PyVal.dict [("name", .str name)])]
      | _ => []
    | _ => []
  kept ++ resource ++ extra ++ [("metadataRedacted", .bool true)]

end HostedFacilitator
