import HostedFacilitator.Storage.Types

/-!
# The engine's answers

The pure part of `engine.py`: how a provider's outcome is completed and turned into the writes that finalise a
record (`completeOutcome`, `finalization`), and how an existing record is turned back into an answer
(`cachedSettlement`). `replay_of_finalized` relates the two: the answer rebuilt from a finalised record has the
success and the status of the answer that finalised it, and for a settled or submitted record also the transaction
and the payer.
-/

namespace HostedFacilitator

inductive ProviderSettlementStatus where
  | settled
  | submitted
  | failedFinal
  | unknown
  deriving DecidableEq, Repr

structure SettleOutcome where
  success : Bool
  transaction : Option String := none
  network : Option String := none
  payer : Option String := none
  errorReason : Option String := none
  settlementStatus : Option ProviderSettlementStatus := none
  traceId : Option String := none
  provider : Option String := none
  duplicate : Option Bool := none
  deriving DecidableEq

/-- A settle request after validation, routing, preflight and fingerprinting: the claim it will make, and the
`from` field of its authorization, when that is a non-empty string (`_payer_from_payment_payload`). -/
structure SettleCall where
  request : ClaimRequest
  authorizationFrom : Option String := none

/-- The writes that finalise a record and its attempt. -/
structure Finalization where
  recordStatus : SettlementStatus
  attemptStatus : SettlementAttemptStatus
  transaction : Option String
  payer : Option String
  errorReason : Option String
  deriving DecidableEq

/-- `_provider_status`. -/
def providerStatus (o : SettleOutcome) : ProviderSettlementStatus :=
  match o.settlementStatus with
  | some s => s
  | none => if o.success then .settled else .unknown

/-- What `settle` sets on the provider's outcome before it writes anything. -/
def completeOutcome (call : SettleCall) (o : SettleOutcome) : SettleOutcome :=
  { o with
    traceId := some call.request.traceId
    provider := some call.request.provider
    duplicate := some false
    payer := if truthyStr o.payer then o.payer else call.authorizationFrom
    settlementStatus := some (providerStatus o)
    success := providerStatus o == .settled }

/-- The writes for a completed outcome. A failed or unknown outcome keeps the record's transaction and payer. -/
def finalization (record : SettlementRecord) (o : SettleOutcome) : Finalization :=
  match providerStatus o with
  | .settled => ⟨.settled, .settled, o.transaction, o.payer, none⟩
  | .submitted => ⟨.submitted, .submitted, o.transaction, o.payer, none⟩
  | .failedFinal => ⟨.settleFailed, .failed, record.transaction, record.payer, o.errorReason⟩
  | .unknown => ⟨.unknown, .unknown, record.transaction, record.payer, o.errorReason⟩

/-- The writes when `provider.settle` raises. -/
def exceptionFinalization (record : SettlementRecord) : Finalization :=
  ⟨.unknown, .unknown, record.transaction, record.payer, some "provider_settlement_exception"⟩

/-- The answer when `provider.settle` raises. -/
def exceptionOutcome (call : SettleCall) (record : SettlementRecord) : SettleOutcome where
  success := false
  network := record.network
  errorReason := some "settlement_outcome_unknown"
  settlementStatus := some .unknown
  traceId := some call.request.traceId
  provider := some call.request.provider
  duplicate := some false

/-- The record says what the finalisation wrote. -/
structure Finalization.StoredIn (f : Finalization) (r : SettlementRecord) : Prop where
  status : r.status = f.recordStatus
  transaction : r.transaction = f.transaction
  payer : r.payer = f.payer
  errorReason : r.errorReason = f.errorReason

/-- What `provider.settle` does: it returns an outcome, or raises. -/
inductive ProviderResult where
  | returned (outcome : SettleOutcome)
  | raised
  deriving DecidableEq

namespace ProviderResult

def finalization (call : SettleCall) (record : SettlementRecord) : ProviderResult → Finalization
  | .returned o => HostedFacilitator.finalization record (completeOutcome call o)
  | .raised => exceptionFinalization record

def answer (call : SettleCall) (record : SettlementRecord) : ProviderResult → SettleOutcome
  | .returned o => completeOutcome call o
  | .raised => exceptionOutcome call record

end ProviderResult

/-- `_claim_for_existing_status`: the engine's own copy of the store's table. -/
def claimForExistingStatus : SettlementStatus → SettlementClaim
  | .settled | .settleFailed => .duplicateFinal
  | .unknown | .submitted | .reconciled => .duplicateUnknown
  | .manualReview => .duplicateManualReview
  | .received | .settleInProgress => .duplicateInFlight

/-- `_cached_settlement`. -/
def cachedSettlement (record : SettlementRecord) (claim : SettlementClaim) : Option SettleOutcome :=
  if claim = .claimed then none
  else match record.status with
    | .settled => some
        { success := true, transaction := record.transaction, network := record.network, payer := record.payer,
          settlementStatus := some .settled }
    | .settleFailed => some
        { success := false, network := record.network, payer := record.payer, errorReason := record.errorReason,
          settlementStatus := some .failedFinal }
    | .submitted => some
        { success := false, transaction := record.transaction, network := record.network, payer := record.payer,
          errorReason := some "settlement_submitted", settlementStatus := some .submitted }
    | _ => some
        { success := false, network := record.network, payer := record.payer,
          errorReason := some (match claim with
            | .duplicateInFlight => "settlement_in_progress"
            | .duplicateUnknown => "settlement_outcome_unknown"
            | .duplicateManualReview => "settlement_manual_review"
            | _ => "duplicate_settlement")
          settlementStatus := some .unknown }

/-- The fields the engine sets on a cached answer. -/
def markDuplicate (call : SettleCall) (o : SettleOutcome) : SettleOutcome :=
  { o with traceId := some call.request.traceId, provider := some call.request.provider, duplicate := some true }

/-- The answer a duplicate request gets from an existing record. -/
def duplicateAnswer (call : SettleCall) (record : SettlementRecord) : Option SettleOutcome :=
  (cachedSettlement record (claimForStatus record.status)).map (markDuplicate call)

/-- The answer of `_cached_existing_settlement` for an existing record. -/
def existingAnswer (call : SettleCall) (r : SettlementRecord) : Option SettleOutcome :=
  (cachedSettlement r (claimForExistingStatus r.status)).map (markDuplicate call)

/-- Completing an outcome does not change its status. -/
@[simp] theorem providerStatus_completeOutcome (call : SettleCall) (o : SettleOutcome) :
    providerStatus (completeOutcome call o) = providerStatus o := rfl

/-- The writes for a settled outcome carry its transaction. -/
theorem finalization_settled {o : SettleOutcome} (h : providerStatus o = .settled) (call : SettleCall)
    (record : SettlementRecord) : (ProviderResult.returned o).finalization call record =
      ⟨.settled, .settled, o.transaction, (completeOutcome call o).payer, none⟩ := by
  rw [ProviderResult.finalization, finalization, providerStatus_completeOutcome, h]
  rfl

/-- Every finalisation takes the record out of `settle_in_progress` and the attempt out of `started`. -/
theorem finalization_closes (result : ProviderResult) (call : SettleCall) (record : SettlementRecord) :
    (result.finalization call record).recordStatus ≠ .settleInProgress ∧
      (result.finalization call record).attemptStatus ≠ .started := by
  cases result with
  | raised => exact ⟨nofun, nofun⟩
  | returned o =>
    simp only [ProviderResult.finalization, finalization, providerStatus_completeOutcome]
    cases providerStatus o <;> exact ⟨nofun, nofun⟩

/-- The engine's table and the store's table are the same table. -/
theorem claimForExistingStatus_eq (s : SettlementStatus) : claimForExistingStatus s = claimForStatus s := by
  cases s <;> rfl

/-- Only a fresh claim has no cached answer. -/
theorem cachedSettlement_isSome (record : SettlementRecord) {claim : SettlementClaim} (h : claim ≠ .claimed) :
    ∃ o, cachedSettlement record claim = some o := by
  unfold cachedSettlement
  rw [if_neg h]
  split <;> exact ⟨_, rfl⟩

theorem duplicateAnswer_isSome (call : SettleCall) (record : SettlementRecord) :
    ∃ o, duplicateAnswer call record = some o := by
  obtain ⟨o, ho⟩ := cachedSettlement_isSome record (claimForStatus_ne_claimed record.status)
  exact ⟨markDuplicate call o, by rw [duplicateAnswer, ho, Option.map_some]⟩

theorem duplicateAnswer_duplicate {call : SettleCall} {record : SettlementRecord} {o : SettleOutcome}
    (h : duplicateAnswer call record = some o) : o.duplicate = some true := by
  obtain ⟨o', -, rfl⟩ := Option.map_eq_some_iff.mp h
  rfl

/-! ## Replays -/

/-- A duplicate's answer that repeats the first one. -/
structure SettleOutcome.ReplayOf (answer o : SettleOutcome) : Prop where
  duplicate : o.duplicate = some true
  success : o.success = answer.success
  settlementStatus : o.settlementStatus = answer.settlementStatus
  evidence : answer.settlementStatus = some .settled ∨ answer.settlementStatus = some .submitted →
    o.transaction = answer.transaction ∧ o.payer = answer.payer

/-- A record that says what a call wrote repeats the answer of that call. -/
theorem replay_of_finalized {call call' : SettleCall} {r row : SettlementRecord} {result : ProviderResult}
    {o : SettleOutcome} (hs : (result.finalization call r).StoredIn row) (ho : duplicateAnswer call' row = some o) :
    (result.answer call r).ReplayOf o := by
  obtain ⟨o', hcached, rfl⟩ := Option.map_eq_some_iff.mp ho
  have hst := hs.status
  have ht := hs.transaction
  have hp := hs.payer
  cases result with
  | raised =>
    simp only [ProviderResult.finalization, exceptionFinalization] at hst
    simp only [cachedSettlement, hst, claimForStatus, reduceCtorEq, if_false, Option.some.injEq] at hcached
    subst hcached
    exact ⟨rfl, rfl, rfl, by simp [ProviderResult.answer, exceptionOutcome]⟩
  | returned out =>
    simp only [ProviderResult.finalization, finalization, providerStatus_completeOutcome] at hst ht hp
    -- the record's status is that of the outcome, so the same branch answers
    cases hout : providerStatus out <;> rw [hout] at hst ht hp <;>
      simp only [cachedSettlement, hst, claimForStatus, reduceCtorEq, if_false, Option.some.injEq] at hcached <;>
      subst hcached
    case settled | submitted =>
      exact ⟨rfl, by simp [markDuplicate, ProviderResult.answer, completeOutcome, hout],
        by simp [markDuplicate, ProviderResult.answer, completeOutcome, hout], fun _ => ⟨ht, hp⟩⟩
    case failedFinal | unknown =>
      exact ⟨rfl, by simp [markDuplicate, ProviderResult.answer, completeOutcome, hout],
        by simp [markDuplicate, ProviderResult.answer, completeOutcome, hout],
        by simp [ProviderResult.answer, completeOutcome, hout]⟩

end HostedFacilitator
