import HostedFacilitator.ControlPlane.State
import HostedFacilitator.Engine.Settle

/-!
# `/verify` and `/settle`

The two handlers of `app.py`, from the version check to the answer. What they wait for is given by what comes of it:
`context_factory` returns a context or refuses, a limiter allows or refuses, the store is checked out or not, the
provider answers or raises. A handler says what leaves it and whether the provider was called.
-/

namespace HostedFacilitator

/-- The state behind `allows`, of either kind. -/
inductive ControlPlaneState where
  | memory (state : ControlPlane.Memory)
  | postgres (state : ControlPlane.Tables)

/-- `allows`. -/
def ControlPlaneState.allows (u : Unicode) (provider : String) (network : Option String) : ControlPlaneState → Bool
  | .memory m => m.allows u provider network
  | .postgres t => t.allows u provider network

structure VerifyOutcome where
  isValid : Bool
  payer : Option String := none
  invalidReason : Option String := none
  traceId : Option String := none
  provider : Option String := none
  deriving DecidableEq

/-- What leaves a handler in the place of an outcome: an `HTTPException`, or another exception. -/
inductive HttpError where
  | http (statusCode : Nat) (detail : String)
  | raised (e : PyErr)
  deriving DecidableEq

structure Handled (α : Type) where
  answer : Except HttpError α
  providerCalled : Bool := false

/-- A request, and what is decided about it outside of the handler. -/
structure Arrival where
  envelope : FacilitatorEnvelope
  /-- What `context_factory` does. -/
  context : Except HttpError RequestContext
  /-- The decision of `_enforce_rate_limit`. -/
  limiterAllows : Bool := true
  /-- The decision of `_penalize_invalid_request`. -/
  penaltyAllows : Bool := true

def rateLimitDetail : String := "Hosted facilitator rate limit exceeded"

namespace Arrival

variable (a : Arrival)

/-- A refusal after `_penalize_invalid_request`. -/
def penalized (refusal : HttpError) : HttpError :=
  if a.penaltyAllows then refusal else .http 429 rateLimitDetail

/-- The `except` clauses that both handlers have. -/
def refusalFor : PyErr → HttpError
  | .protocolValidation message => a.penalized (.http 400 message)
  | .permission _ => a.penalized (.http 403 "Seller policy denied route")
  | .lookup _ | .key _ => a.penalized (.http 400 "Unsupported payment route")
  | .other name message =>
    if name = "ValidationError" then a.penalized (.http 400 "Invalid x402 payload")
    else if name = "HostedProviderUnavailableError" then .http 503 "Provider unavailable"
    else .raised (.other name message)
  | e => .raised e

/-- The clause that only `settle` has comes before them. -/
def settleRefusalFor : PyErr → HttpError
  | .rateLimitExceeded => .http 429 rateLimitDetail
  | e => a.refusalFor e

end Arrival

/-- `engine.verify`, and whether it has called the provider; `outcome` is what `provider.verify` does. -/
def engineVerify (text : Text) (router : ProviderRouter) (envelope : FacilitatorEnvelope) (context : RequestContext)
    (outcome : Except PyErr VerifyOutcome) : Except PyErr VerifyOutcome × Bool :=
  let checked : Except PyErr Provider := do
    let _ ← validateSettlementEnvelope text envelope
    let provider ← router.route text envelope context.activePaymentProfile
    provider.validateEnvelope envelope
    return provider
  match checked with
  | .error e => (.error e, false)
  | .ok provider =>
    (outcome.map fun o => { o with traceId := some context.traceId, provider := some provider.name }, true)

section Handlers

variable (u : Unicode) (router : ProviderRouter) (state : ControlPlaneState) (a : Arrival)

/-- `_enforce_control_plane_route`. -/
def enforceControlPlaneRoute (envelope : FacilitatorEnvelope) : Except HttpError Unit :=
  let provider := router.providerNameForEnvelope envelope
  let network := (envelope.paymentRequirements.get "network").asStr
  if !state.allows u provider network then .error (.http 423 "Hosted facilitator route is paused") else .ok ()

/-- The version check and `context_factory`. -/
def Arrival.open : Except HttpError RequestContext :=
  if a.envelope.x402Version ≠ 2 then .error (a.penalized (.http 400 "Only x402Version=2 is supported")) else a.context

/-- `verify`. -/
def handleVerify (text : Text) (outcome : Except PyErr VerifyOutcome) : Handled VerifyOutcome :=
  match a.open with
  | .error refusal => { answer := .error refusal }
  | .ok context =>
    if !a.limiterAllows then { answer := .error (.http 429 rateLimitDetail) }
    else
      match enforceControlPlaneRoute u router state a.envelope with
      | .error refusal => { answer := .error refusal }
      | .ok _ =>
        let result := engineVerify text router a.envelope context outcome
        { answer := result.1.mapError a.refusalFor, providerCalled := result.2 }

/-- `settle`, and the store after it. `store` is what the checkout gives, `engine` is `request_engine.settle`. -/
def handleSettle {σ : Type} (store : Except PyErr σ) (engine : RequestContext → σ → Settlement σ) :
    Handled SettleOutcome × Except PyErr σ :=
  match a.open with
  | .error refusal => ({ answer := .error refusal }, store)
  | .ok context =>
    match store with
    | .error e => ({ answer := .error (.raised e) }, store)
    | .ok s =>
      match enforceControlPlaneRoute u router state a.envelope with
      | .error refusal => ({ answer := .error refusal }, .ok s)
      | .ok _ =>
        let settlement := engine context s
        ({ answer := settlement.answer.mapError a.settleRefusalFor, providerCalled := settlement.providerCalled },
          .ok settlement.store)

end Handlers

/-! ## Refusals by the engine -/

theorem Arrival.penalized_ne {a : Arrival} {refusal : HttpError} {detail : String} (h : refusal ≠ .http 423 detail) :
    a.penalized refusal ≠ .http 423 detail := by
  unfold Arrival.penalized
  split
  · exact h
  · simp

/-- No exception of the engine is answered with 423. -/
theorem Arrival.refusalFor_ne {a : Arrival} (e : PyErr) (detail : String) : a.refusalFor e ≠ .http 423 detail := by
  cases e with
  | protocolValidation | permission | lookup | key => exact Arrival.penalized_ne (by simp)
  | value | runtime | type | rateLimitExceeded => simp [Arrival.refusalFor]
  | other name message =>
    simp only [Arrival.refusalFor]
    split
    · exact Arrival.penalized_ne (by simp)
    · split <;> simp

theorem Arrival.settleRefusalFor_ne {a : Arrival} (e : PyErr) (detail : String) :
    a.settleRefusalFor e ≠ .http 423 detail := by
  unfold Arrival.settleRefusalFor
  split
  · simp
  · exact Arrival.refusalFor_ne e detail

end HostedFacilitator
