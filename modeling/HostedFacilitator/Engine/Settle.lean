import HostedFacilitator.Engine.Router

/-!
# `engine.settle` over a store

`SettlementStore` is what the engine uses of a store. A store either has the two atomic operations that the engine
asks for with `getattr`, or the engine works with the separate ones. `settle` is one call, run alone: it takes the
limiter's decision, what `provider.settle` does if it is called, and the clock readings of the store's operations, and
says what the call answers, what it leaves in the store, and whether it went to the limiter and to the provider.
-/

namespace HostedFacilitator

/-- Claiming and finalising with one operation at a time. -/
structure SeparateSteps (σ : Type) where
  claimForSettlement : σ → ClaimRequest → Instant → Except PyErr ((SettlementRecord × SettlementClaim) × σ)
  markSettled : σ → SettlementRecord → Option String → Option String → Instant → σ
  markSubmitted : σ → SettlementRecord → Option String → Option String → Instant → σ
  markSettleFailed : σ → SettlementRecord → Option String → Instant → σ
  markUnknown : σ → SettlementRecord → Option String → Instant → σ
  finishSettleAttempt : σ → Nat → SettlementAttemptStatus → Option String → Option String → Instant → σ

/-- Claiming and finalising in one transaction each. -/
structure AtomicSteps (σ : Type) where
  claimAndStartSettleAttempt : σ → ClaimRequest → Instant →
    Except PyErr ((SettlementRecord × SettlementClaim × Option Nat) × σ)
  markRecordAndFinishSettleAttempt : σ → SettlementRecord → Nat → Finalization → Instant → Except PyErr σ

inductive SettleSteps (σ : Type) where
  | separate (ops : SeparateSteps σ)
  | atomic (ops : AtomicSteps σ)

/-- A store, as the engine uses it. `held s r` is what the engine's variable `record` denotes: a store that hands out
its own object shows every later write to it, a store that hands out a copy does not. -/
structure SettlementStore (σ : Type) where
  init : σ
  get : σ → ProfileKey → Option SettlementRecord
  getByProviderFingerprint : σ → ReplayKey → Option SettlementRecord
  startSettleAttempt : σ → SettlementRecord → String → Instant → Nat × σ
  held : σ → SettlementRecord → SettlementRecord
  steps : SettleSteps σ

/-- The clock readings that the operations of one call take. -/
structure Readings where
  claim : Instant
  start : Instant
  mark : Instant
  finish : Instant

/-- One finished call: the answer, the store after it, and whether it asked the limiter and the provider. -/
structure Settlement (σ : Type) where
  answer : Except PyErr SettleOutcome
  store : σ
  limiterChecked : Bool := false
  providerCalled : Bool := false

/-- The branches of `_mark_record_and_finish_attempt` without the atomic operation. -/
def SeparateSteps.markRecord {σ : Type} (ops : SeparateSteps σ) (s : σ) (r : SettlementRecord) (f : Finalization)
    (now : Instant) : σ :=
  match f.recordStatus with
  | .settled => ops.markSettled s r f.transaction f.payer now
  | .submitted => ops.markSubmitted s r f.transaction f.payer now
  | .settleFailed => ops.markSettleFailed s r f.errorReason now
  | _ => ops.markUnknown s r f.errorReason now

namespace SettlementStore

variable {σ : Type} (S : SettlementStore σ)

/-- The record that `_cached_existing_settlement` looks at. -/
def existing (s : σ) (c : ClaimRequest) : Option SettlementRecord :=
  match S.get s c.profileKey with
  | some r => some r
  | none => S.getByProviderFingerprint s c.replayKey

/-- `_cached_existing_settlement`. -/
def cachedExistingSettlement (s : σ) (call : SettleCall) : Option SettleOutcome :=
  (S.existing s call.request).bind (existingAnswer call)

/-- `_claim_settlement_record`. -/
def claimSettlementRecord (s : σ) (c : ClaimRequest) (now : Instant) :
    Except PyErr ((SettlementRecord × SettlementClaim × Option Nat) × σ) :=
  match S.steps with
  | .atomic ops => ops.claimAndStartSettleAttempt s c now
  | .separate ops => (ops.claimForSettlement s c now).map fun ((r, claim), s') => ((r, claim, none), s')

/-- `_mark_record_and_finish_attempt`. -/
def markRecordAndFinishAttempt (s : σ) (r : SettlementRecord) (attemptId : Nat) (f : Finalization)
    (times : Readings) : Except PyErr σ :=
  match S.steps with
  | .atomic ops => ops.markRecordAndFinishSettleAttempt s r attemptId f times.mark
  | .separate ops =>
    .ok (ops.finishSettleAttempt (ops.markRecord s r f times.mark) attemptId f.attemptStatus f.transaction
      f.errorReason times.finish)

/-- The call has its record and its attempt: it calls the provider and writes down what came of it. -/
def settleClaimed (s : σ) (call : SettleCall) (r : SettlementRecord) (attemptId : Nat) (result : ProviderResult)
    (times : Readings) : Settlement σ :=
  match S.markRecordAndFinishAttempt s r attemptId (result.finalization call (S.held s r)) times with
  | .ok s' => { answer := .ok (result.answer call r), store := s', providerCalled := true }
  | .error e => { answer := .error e, store := s, providerCalled := true }

/-- `settle`, from the claim on. -/
def claimAndSettle (s : σ) (call : SettleCall) (result : ProviderResult) (times : Readings) : Settlement σ :=
  match S.claimSettlementRecord s call.request times.claim with
  | .error e => { answer := .error e, store := s }
  | .ok ((r, claim, attempt), s') =>
    match cachedSettlement r claim with
    | some o => { answer := .ok (markDuplicate call o), store := s' }
    | none =>
      match attempt with
      | some attemptId => S.settleClaimed s' call r attemptId result times
      | none =>
        let started := S.startSettleAttempt s' r call.request.traceId times.start
        S.settleClaimed started.2 call r started.1 result times

/-- `settle`, after the fingerprint. `limiter` is `none` without a rate limiter, otherwise its decision. -/
def settleCall (limiter : Option Bool) (s : σ) (call : SettleCall) (result : ProviderResult) (times : Readings) :
    Settlement σ :=
  match limiter with
  | none => S.claimAndSettle s call result times
  | some allowed =>
    match S.cachedExistingSettlement s call with
    | some o => { answer := .ok o, store := s }
    | none =>
      if allowed then { S.claimAndSettle s call result times with limiterChecked := true }
      else
        -- the limiter has answered meanwhile: the store is asked once more
        match S.cachedExistingSettlement s call with
        | some o => { answer := .ok o, store := s, limiterChecked := true }
        | none => { answer := .error .rateLimitExceeded, store := s, limiterChecked := true }

/-- `settle`. -/
def settle (text : Text) (router : ProviderRouter) (limiter : Option Bool) (s : σ) (envelope : TextEnvelope)
    (context : RequestContext) (result : ProviderResult) (times : Readings) : Settlement σ :=
  match prepare text router envelope context with
  | .error e => { answer := .error e, store := s }
  | .ok call => S.settleCall limiter s call result times

end SettlementStore

/-! ## Answers of existing records -/

/-- Both tables of the engine and the store give an existing record the same answer. -/
theorem existingAnswer_eq (call : SettleCall) (r : SettlementRecord) : existingAnswer call r = duplicateAnswer call r := by
  rw [existingAnswer, claimForExistingStatus_eq, duplicateAnswer]

namespace SettlementStore

variable {σ : Type} {S : SettlementStore σ} {s : σ} {call : SettleCall}

theorem cachedExistingSettlement_of_some {r : SettlementRecord} (h : S.existing s call.request = some r) :
    S.cachedExistingSettlement s call = duplicateAnswer call r := by
  rw [cachedExistingSettlement, h, Option.bind_some, existingAnswer_eq]

theorem cachedExistingSettlement_of_none (h : S.existing s call.request = none) :
    S.cachedExistingSettlement s call = none := by
  rw [cachedExistingSettlement, h, Option.bind_none]

end SettlementStore

end HostedFacilitator
