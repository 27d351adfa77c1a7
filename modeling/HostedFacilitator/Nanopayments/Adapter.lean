import HostedFacilitator.Lib.History
import HostedFacilitator.Lib.Transition
import HostedFacilitator.Python.Value
import Mathlib.Algebra.Order.Field.Rat
import Mathlib.Data.List.Infix
import Mathlib.Tactic.Linarith
import Mathlib.Tactic.NormNum

/-!
# The circuit breaker of the nanopayment adapter

`NanopaymentAdapter._settle_with_retry` submits a payment up to `retry_attempts + 1` times and records every result in
the circuit breaker, which all calls of the adapter share. A call gives up control where it awaits `client.settle` or
sleeps before a retry; `step` runs it from one of these points to the next, so the calls interleave in every way. The
readings of the clock come with the events.

* The breaker is looked at once, before the first submission. A retry goes out whatever its state is by then
  (`fails_fast_iff`).
* A failure may be recorded twice or not at all, so the counter and the failures are apart by the difference
  (`counted_iff`).
-/

namespace HostedFacilitator
namespace Nanopayments

/-! ## The circuit breaker -/

/-- The values of `_state`. -/
inductive CircuitState where
  | closed
  | opened
  | halfOpen
  deriving DecidableEq

structure NanopaymentCircuitBreaker where
  consecutiveFailures : Nat := 0
  lastFailureTime : Option ℚ := none
  state : CircuitState := .closed

/-- The settings of the breaker and of the retries, with their defaults. -/
structure NanopaymentAdapter where
  failureThreshold : Int := 5
  recoverySeconds : ℚ := 60
  retryAttempts : Int := 3
  retryBaseDelay : ℚ := 1 / 2

namespace NanopaymentCircuitBreaker

variable (a : NanopaymentAdapter) (b : NanopaymentCircuitBreaker) (now : ℚ)

/-- Reading the property `state`, which is where an open breaker becomes half open. -/
def readState : NanopaymentCircuitBreaker :=
  match b.state, b.lastFailureTime with
  | .opened, some last => if a.recoverySeconds ≤ now - last + 1 / 10 ^ 9 then { b with state := .halfOpen } else b
  | _, _ => b

/-- `is_available`. -/
def isAvailable : Bool := (b.readState a now).state != .opened

/-- What `record_failure` and `record_error` do; they differ in what they log. -/
def recordOne : NanopaymentCircuitBreaker where
  consecutiveFailures := b.consecutiveFailures + 1
  lastFailureTime := some now
  state := if a.failureThreshold ≤ (b.consecutiveFailures + 1 : Nat) then .opened else b.state

def recordFailure : NanopaymentCircuitBreaker := b.recordOne a now

def recordError : NanopaymentCircuitBreaker := b.recordOne a now

/-- `record_success` sets every attribute. -/
def recordSuccess : NanopaymentCircuitBreaker where
  consecutiveFailures := 0
  state := .closed
  lastFailureTime := none

/-- `reset` does the same. -/
def reset : NanopaymentCircuitBreaker where
  consecutiveFailures := 0
  lastFailureTime := none
  state := .closed

variable {a b now}

@[simp] theorem readState_failures : (b.readState a now).consecutiveFailures = b.consecutiveFailures := by
  unfold readState
  split
  · split <;> rfl
  · rfl

@[simp] theorem readState_time : (b.readState a now).lastFailureTime = b.lastFailureTime := by
  unfold readState
  split
  · split <;> rfl
  · rfl

theorem readState_of_closed (h : b.state = .closed) : b.readState a now = b := by
  simp [readState, h]

theorem readState_closed : (b.readState a now).state = .closed ↔ b.state = .closed := by
  unfold readState
  split
  · rename_i hs _
    split <;> simp [hs]
  · rfl

/-- Only an open breaker reads as open. -/
theorem readState_opened (h : (b.readState a now).state = .opened) : b.state = .opened := by
  unfold readState at h
  split at h
  · assumption
  · exact h

/-- With nothing to wait for, a breaker does not read as open. -/
theorem readState_ne_opened (hr : a.recoverySeconds ≤ 1 / 10 ^ 9) (hlast : ∀ last ∈ b.lastFailureTime, last ≤ now)
    (hsome : b.state ≠ .closed → b.lastFailureTime.isSome) : (b.readState a now).state ≠ .opened := by
  intro ho
  have hs : b.state = .opened := readState_opened ho
  obtain ⟨last, hl⟩ := Option.isSome_iff_exists.mp (hsome (by simp [hs]))
  have hle : a.recoverySeconds ≤ now - last + 1 / 10 ^ 9 := by linarith [hlast last hl]
  simp only [readState, hs, hl, if_pos hle] at ho
  cases ho

theorem isAvailable_iff : b.isAvailable a now = true ↔ (b.readState a now).state ≠ .opened := by
  simp [isAvailable]

/-- A breaker that is not closed has reached its threshold, and knows when. -/
structure Tripped (a : NanopaymentAdapter) (b : NanopaymentCircuitBreaker) : Prop where
  threshold : b.state ≠ .closed → a.failureThreshold ≤ b.consecutiveFailures
  time : b.state ≠ .closed → b.lastFailureTime.isSome

theorem tripped_reset : Tripped a reset := ⟨fun h => absurd rfl h, fun h => absurd rfl h⟩

theorem tripped_readState (h : Tripped a b) : Tripped a (b.readState a now) := by
  refine ⟨fun hs => ?_, fun hs => ?_⟩
  · rw [readState_failures]
    exact h.threshold (mt readState_closed.mpr hs)
  · rw [readState_time]
    exact h.time (mt readState_closed.mpr hs)

theorem tripped_recordOne (h : Tripped a b) : Tripped a (b.recordOne a now) := by
  refine ⟨fun hs => ?_, fun _ => rfl⟩
  by_cases ht : a.failureThreshold ≤ (b.consecutiveFailures + 1 : Nat)
  · exact ht
  · have hkept : (b.recordOne a now).state = b.state := if_neg ht
    have := h.threshold (hkept ▸ hs)
    have hcount : (b.recordOne a now).consecutiveFailures = b.consecutiveFailures + 1 := rfl
    omega

end NanopaymentCircuitBreaker

/-! ## One call -/

structure SettleResponse where
  success : Bool
  transaction : Option String
  payer : Option String
  errorReason : Option String

/-- The exceptions that `_settle_with_retry` tells apart; `other` leaves it as it came. -/
inductive SettleError where
  | gatewayTimeout (endpoint : String)
  | gatewayConnection (reason : String)
  | nonceReused (reason : String)
  | insufficientBalance (reason : String)
  | settlement (reason : String)
  | other (text : String)

/-- What `await client.settle(..)` ends with. -/
inductive SettleResult where
  | returned (response : SettleResponse)
  | raised (error : SettleError)

/-- How a call of `_settle_with_retry` ends. -/
inductive CallOutcome where
  | returned (response : SettleResponse)
  | returnedNone
  | raised (error : SettleError)
  | circuitOpen (recoverySeconds : ℚ)
  | cancelled

/-- Where a call waits: for `client.settle`, for the end of a sleep, or no more. -/
inductive CallPhase where
  | settling (attempt : Nat)
  | sleeping (attempt : Nat) (due : ℚ) (lastError : SettleError)
  | finished (outcome : CallOutcome)

/-- `"timeout" in str(exc).lower() or "connection" in str(exc).lower()`, for a `SettlementError`. -/
def isTransient (text : Text) (reason : String) : Prop :=
  let lower := (text.lower ("Payment settlement failed: " ++ reason)).toList
  "timeout".toList <:+: lower ∨ "connection".toList <:+: lower

instance decidableIsTransient (text : Text) (reason : String) : Decidable (isTransient text reason) := by
  unfold isTransient
  infer_instance

namespace NanopaymentAdapter

open NanopaymentCircuitBreaker

variable (text : Text) (a : NanopaymentAdapter) (b : NanopaymentCircuitBreaker)

/-- The head of the loop: `attempt` is in `range(retry_attempts + 1)`, or all retries are exhausted. -/
def beginAttempt (attempt : Nat) (lastError : Option SettleError) : CallPhase :=
  if (attempt : Int) < a.retryAttempts + 1 then .settling attempt
  else .finished (lastError.elim .returnedNone .raised)

/-- The sleep before the next attempt. -/
def backOff (attempt : Nat) (error : SettleError) (now : ℚ) : CallPhase :=
  .sleeping attempt (now + a.retryBaseDelay * 2 ^ attempt) error

/-- A `GatewayTimeoutError` or a `GatewayConnectionError`. -/
def onGatewayError (attempt : Nat) (error : SettleError) (now later : ℚ) : NanopaymentCircuitBreaker × CallPhase :=
  (b.recordError a now,
    if (attempt : Int) < a.retryAttempts then a.backOff attempt error later
    else a.beginAttempt (attempt + 1) (some error))

/-- The `except` branches. The clock is read at `now`, and at `later` for a second record or a sleep. -/
def onError (attempt : Nat) (now later : ℚ) : SettleError → NanopaymentCircuitBreaker × CallPhase
  | .gatewayTimeout endpoint => a.onGatewayError b attempt (.gatewayTimeout endpoint) now later
  | .gatewayConnection reason => a.onGatewayError b attempt (.gatewayConnection reason) now later
  | .nonceReused reason => (b.recordFailure a now, .finished (.raised (.nonceReused reason)))
  | .insufficientBalance reason => (b.recordFailure a now, .finished (.raised (.insufficientBalance reason)))
  | .settlement reason =>
    if isTransient text reason then
      if (attempt : Int) < a.retryAttempts then (b.recordError a now, a.backOff attempt (.settlement reason) later)
      -- the last attempt: recorded as an error above, and once more
      else ((b.recordError a now).recordFailure a later, .finished (.raised (.settlement reason)))
    else (b.recordFailure a now, .finished (.raised (.settlement reason)))
  | .other t => (b, .finished (.raised (.other t)))

def onResult (attempt : Nat) (now later : ℚ) : SettleResult → NanopaymentCircuitBreaker × CallPhase
  | .returned response => (.recordSuccess, .finished (.returned response))
  | .raised error => a.onError text b attempt now later error

end NanopaymentAdapter

/-! ## All calls of an adapter -/

/-- The breaker and the calls in the order of their start. -/
structure AdapterState where
  breaker : NanopaymentCircuitBreaker
  calls : List CallPhase

/-- What happens next, with the readings of the clock; `issued` is when a submission goes out. A task that is cancelled
while it awaits `client.settle` gets there an exception that no branch handles. -/
inductive AdapterEvent where
  | call (checked issued : ℚ)
  | result (i : Nat) (r : SettleResult) (now later : ℚ)
  | wake (i : Nat) (issued : ℚ)
  | cancel (i : Nat)
  | reset
  | look (now : ℚ)

namespace NanopaymentAdapter

variable (text : Text) (a : NanopaymentAdapter)

/-- From the start of `_settle_with_retry` to its first wait. -/
def begin (b : NanopaymentCircuitBreaker) (checked : ℚ) : CallPhase :=
  if b.isAvailable a checked then a.beginAttempt 0 none else .finished (.circuitOpen a.recoverySeconds)

def step (s : AdapterState) : AdapterEvent → Option AdapterState
  | .call checked _ => some ⟨s.breaker.readState a checked, s.calls ++ [a.begin s.breaker checked]⟩
  | .result i r now later =>
    match s.calls[i]? with
    | some (.settling attempt) =>
      let (breaker, phase) := a.onResult text s.breaker attempt now later r
      some ⟨breaker, s.calls.set i phase⟩
    | _ => none
  | .wake i _ =>
    match s.calls[i]? with
    | some (.sleeping attempt _ error) => some ⟨s.breaker, s.calls.set i (a.beginAttempt (attempt + 1) (some error))⟩
    | _ => none
  | .cancel i =>
    match s.calls[i]? with
    | some (.sleeping ..) => some ⟨s.breaker, s.calls.set i (.finished .cancelled)⟩
    | _ => none
  | .reset => some ⟨.reset, s.calls⟩
  | .look now => some ⟨s.breaker.readState a now, s.calls⟩

/-- The adapter with all its calls; there are none at the start. -/
def machine : Transition.Machine AdapterState AdapterEvent := ⟨⟨{}, []⟩, a.step text⟩

end NanopaymentAdapter

/-! ## Submissions and the breaker -/

/-- A call that waits for `client.settle`. -/
def CallPhase.isSettling : CallPhase → Bool
  | .settling _ => true
  | _ => false

namespace NanopaymentAdapter

variable (a : NanopaymentAdapter)

/-- The state of the breaker, as it reads when a submission goes out. -/
def issuedState (s : AdapterState) : AdapterEvent → Option CircuitState
  | .call checked issued =>
    if (a.begin s.breaker checked).isSettling then some (((s.breaker.readState a checked).readState a issued).state)
    else none
  | .wake i issued =>
    match s.calls[i]? with
    | some (.sleeping attempt _ error) =>
      if (a.beginAttempt (attempt + 1) (some error)).isSettling then some (s.breaker.readState a issued).state
      else none
    | _ => none
  | _ => none

/-- A sleep before a retry ends only while the breaker is available. -/
def RetryAvailable (s : AdapterState) : AdapterEvent → Prop
  | .wake _ issued => s.breaker.isAvailable a issued = true
  | _ => True

end NanopaymentAdapter

namespace NanopaymentAdapter

open NanopaymentCircuitBreaker

variable {text : Text} {a : NanopaymentAdapter} {b : NanopaymentCircuitBreaker} {s t : AdapterState}
  {e : AdapterEvent} {es : List AdapterEvent} {attempt : Nat}

/-! ### What a step can do -/

theorem step_result {i : Nat} {r : SettleResult} {now later : ℚ} (h : a.step text s (.result i r now later) = some t) :
    ∃ attempt, s.calls[i]? = some (.settling attempt) ∧
      t = ⟨(a.onResult text s.breaker attempt now later r).1,
        s.calls.set i (a.onResult text s.breaker attempt now later r).2⟩ := by
  simp only [step] at h
  split at h
  · exact ⟨_, ‹_›, (Option.some.inj h).symm⟩
  · cases h

theorem step_wake {i : Nat} {issued : ℚ} (h : a.step text s (.wake i issued) = some t) :
    ∃ attempt due error, s.calls[i]? = some (.sleeping attempt due error) ∧
      t = ⟨s.breaker, s.calls.set i (a.beginAttempt (attempt + 1) (some error))⟩ := by
  simp only [step] at h
  split at h
  · exact ⟨_, _, _, ‹_›, (Option.some.inj h).symm⟩
  · cases h

theorem step_cancel {i : Nat} (h : a.step text s (.cancel i) = some t) :
    t = ⟨s.breaker, s.calls.set i (.finished .cancelled)⟩ := by
  simp only [step] at h
  split at h
  · exact (Option.some.inj h).symm
  · cases h

/-! ### What every step keeps -/

/-- A sleep is followed by an attempt. -/
def Retries (a : NanopaymentAdapter) (p : CallPhase) : Prop :=
  ∀ attempt due error, p = .sleeping attempt due error → (attempt : Int) < a.retryAttempts

theorem retries_beginAttempt (lastError : Option SettleError) : Retries a (a.beginAttempt attempt lastError) := by
  intro k due error h
  unfold beginAttempt at h
  split at h <;> cases h

theorem retries_begin (checked : ℚ) : Retries a (a.begin b checked) := by
  unfold begin
  split
  · exact retries_beginAttempt none
  · intro _ _ _ h
    cases h

theorem retries_finished (outcome : CallOutcome) : Retries a (.finished outcome) := by
  intro _ _ _ h
  cases h

theorem retries_backOff {error : SettleError} {now : ℚ} (h : (attempt : Int) < a.retryAttempts) :
    Retries a (a.backOff attempt error now) := by
  intro k due error' hk
  cases hk
  exact h

theorem onResult_gatewayTimeout (now later : ℚ) (endpoint : String) :
    a.onResult text b attempt now later (.raised (.gatewayTimeout endpoint)) =
      a.onGatewayError b attempt (.gatewayTimeout endpoint) now later := rfl

theorem onResult_settlement (now later : ℚ) (reason : String) :
    a.onResult text b attempt now later (.raised (.settlement reason)) =
      if isTransient text reason then
        if (attempt : Int) < a.retryAttempts then (b.recordError a now, a.backOff attempt (.settlement reason) later)
        else ((b.recordError a now).recordFailure a later, .finished (.raised (.settlement reason)))
      else (b.recordFailure a now, .finished (.raised (.settlement reason))) := rfl

/-- What recording a result makes of the breaker and of the call. -/
theorem onResult_kept {now later : ℚ} (hb : Tripped a b) (r : SettleResult) :
    Tripped a (a.onResult text b attempt now later r).1 ∧ Retries a (a.onResult text b attempt now later r).2 := by
  have hgateway : ∀ error, Tripped a (a.onGatewayError b attempt error now later).1 ∧
      Retries a (a.onGatewayError b attempt error now later).2 := by
    intro error
    refine ⟨tripped_recordOne hb, ?_⟩
    unfold onGatewayError
    dsimp only
    split
    · exact retries_backOff ‹_›
    · exact retries_beginAttempt _
  cases r with
  | returned response => exact ⟨tripped_reset, retries_finished _⟩
  | raised error =>
    cases error with
    | gatewayTimeout endpoint => exact hgateway _
    | gatewayConnection reason => exact hgateway _
    | nonceReused reason => exact ⟨tripped_recordOne hb, retries_finished _⟩
    | insufficientBalance reason => exact ⟨tripped_recordOne hb, retries_finished _⟩
    | settlement reason =>
      rw [onResult_settlement]
      split
      · split
        · exact ⟨tripped_recordOne hb, retries_backOff ‹_›⟩
        · exact ⟨tripped_recordOne (tripped_recordOne hb), retries_finished _⟩
      · exact ⟨tripped_recordOne hb, retries_finished _⟩
    | other t => exact ⟨hb, retries_finished _⟩

/-- What holds in every state. -/
structure Sound (a : NanopaymentAdapter) (s : AdapterState) : Prop where
  tripped : Tripped a s.breaker
  retries : ∀ p ∈ s.calls, Retries a p

theorem sound_step (hs : Sound a s) (h : a.step text s e = some t) : Sound a t := by
  have hset : ∀ {i p}, Retries a p → ∀ q ∈ s.calls.set i p, Retries a q := by
    intro i p hp q hq
    rcases List.mem_or_eq_of_mem_set hq with hq | rfl
    · exact hs.retries q hq
    · exact hp
  cases e with
  | call checked issued =>
    obtain rfl := Option.some.inj h
    refine ⟨tripped_readState hs.tripped, fun p hp => ?_⟩
    rcases List.mem_append.mp hp with hp | hp
    · exact hs.retries p hp
    · rw [List.mem_singleton.mp hp]
      exact retries_begin checked
  | result i r now later =>
    obtain ⟨attempt, -, rfl⟩ := step_result h
    obtain ⟨htripped, hretries⟩ := onResult_kept hs.tripped r
    exact ⟨htripped, hset hretries⟩
  | wake i issued =>
    obtain ⟨attempt, due, error, -, rfl⟩ := step_wake h
    exact ⟨hs.tripped, hset (retries_beginAttempt _)⟩
  | cancel i =>
    obtain rfl := step_cancel h
    exact ⟨hs.tripped, hset (retries_finished _)⟩
  | reset =>
    obtain rfl := Option.some.inj h
    exact ⟨tripped_reset, hs.retries⟩
  | look now =>
    obtain rfl := Option.some.inj h
    exact ⟨tripped_readState hs.tripped, hs.retries⟩

theorem sound_reachable (h : (a.machine text).Reachable s) : Sound a s := by
  refine h.invariant ⟨tripped_reset, fun p hp => ?_⟩ fun s e t _ hs hn => sound_step hs hn
  cases hp

/-! ### Submissions -/

theorem beginAttempt_settling {lastError : Option SettleError} (h : (attempt : Int) < a.retryAttempts) :
    (a.beginAttempt (attempt + 1) lastError).isSettling = true := by
  have hlt : ((attempt + 1 : Nat) : Int) < a.retryAttempts + 1 := by omega
  rw [beginAttempt, if_pos hlt]
  rfl

/-- The first submission of a call is guarded, a retry is not. -/
theorem retryAvailable_iff (hs : Sound a s) (h : a.step text s e = some t) :
    RetryAvailable a s e ↔ ∀ st, issuedState a s e = some st → st ≠ .opened := by
  cases e with
  | call checked issued =>
    refine iff_of_true trivial fun st hst => ?_
    simp only [issuedState, Option.ite_none_right_eq_some, Option.some.injEq] at hst
    obtain ⟨hsettling, rfl⟩ := hst
    have havailable : s.breaker.isAvailable a checked = true := by
      by_contra hn
      rw [begin, if_neg hn] at hsettling
      cases hsettling
    exact mt readState_opened (isAvailable_iff.mp havailable)
  | wake i issued =>
    obtain ⟨attempt, due, error, hi, -⟩ := step_wake h
    have hretry := hs.retries _ (List.mem_of_getElem? hi) attempt due error rfl
    simp only [RetryAvailable, issuedState, hi, beginAttempt_settling hretry, if_true, Option.some.injEq, forall_eq',
      isAvailable_iff]
  | result | cancel | reset | look => exact iff_of_true trivial fun st hst => by cases hst

/-! ### Runs on a clock -/

/-- The readings of the clock, in their order. -/
def readings : AdapterEvent → List ℚ
  | .call checked issued => [checked, issued]
  | .result _ _ now later => [now, later]
  | .wake _ issued => [issued]
  | .look now => [now]
  | .cancel _ | .reset => []

/-- A sleep lasts as long as it should. -/
def SleepsOut (s : AdapterState) : AdapterEvent → Prop
  | .wake i issued => ∀ attempt due error, s.calls[i]? = some (.sleeping attempt due error) → due ≤ issued
  | _ => True

/-- A run on `time.monotonic()`: the clock never goes back, and no sleep ends early. -/
structure Timely (text : Text) (a : NanopaymentAdapter) (es : List AdapterEvent) : Prop where
  monotonic : (es.flatMap readings).Pairwise (· ≤ ·)
  sleepsOut : (a.machine text).Along SleepsOut (a.machine text).start es

theorem onResult_time {now later last : ℚ} {r : SettleResult}
    (h : last ∈ (a.onResult text b attempt now later r).1.lastFailureTime) :
    last ∈ b.lastFailureTime ∨ last = now ∨ last = later := by
  have hone : ∀ {b' : NanopaymentCircuitBreaker} {k}, last ∈ (b'.recordOne a k).lastFailureTime → last = k :=
    fun hl => (Option.some.inj hl).symm
  cases r with
  | returned response => cases h
  | raised error =>
    cases error with
    | gatewayTimeout | gatewayConnection | nonceReused | insufficientBalance => exact .inr (.inl (hone h))
    | settlement reason =>
      rw [onResult_settlement] at h
      split at h
      · split at h
        · exact .inr (.inl (hone h))
        · exact .inr (.inr (hone h))
      · exact .inr (.inl (hone h))
    | other t => exact .inl h

/-- The last failure was recorded at one of the readings. -/
theorem lastFailureTime_mem (h : (a.machine text).Reaches es s) :
    ∀ last ∈ s.breaker.lastFailureTime, last ∈ es.flatMap readings := by
  refine h.history (H := fun es s => ∀ last ∈ s.breaker.lastFailureTime, last ∈ es.flatMap readings)
    (fun _ hl => by cases hl) ?_
  intro es s e t _ ih (hn : a.step text s e = some t) last hl
  rw [List.flatMap_append, List.mem_append]
  cases e with
  | call checked issued =>
    obtain rfl := Option.some.inj hn
    exact .inl (ih last (readState_time ▸ hl))
  | result i r now later =>
    obtain ⟨attempt, -, rfl⟩ := step_result hn
    rcases onResult_time hl with hl | hl | hl
    · exact .inl (ih last hl)
    · exact .inr (by simp [readings, hl])
    · exact .inr (by simp [readings, hl])
  | wake i issued =>
    obtain ⟨attempt, due, error, -, rfl⟩ := step_wake hn
    exact .inl (ih last hl)
  | cancel i =>
    obtain rfl := step_cancel hn
    exact .inl (ih last hl)
  | reset =>
    obtain rfl := Option.some.inj hn
    cases hl
  | look now =>
    obtain rfl := Option.some.inj hn
    exact .inl (ih last (readState_time ▸ hl))

/-- On a clock that does not go back, the breaker never reads as open where there is nothing to wait for. -/
theorem available_of_short (hr : a.recoverySeconds ≤ 1 / 10 ^ 9) (h : (a.machine text).Reaches es s)
    (ht : Timely text a es) : (a.machine text).Along (RetryAvailable a) (a.machine text).start es := by
  induction es using List.reverseRecOn generalizing s with
  | nil => trivial
  | append_singleton es e ih =>
    obtain ⟨u, hu, hn⟩ := Transition.Machine.leads_snoc.mp h
    obtain ⟨hmono, hsleeps⟩ := ht
    rw [List.flatMap_append, List.pairwise_append] at hmono
    have hpre := ih hu ⟨hmono.1, (Transition.Machine.along_append hsleeps hu).1⟩
    refine hpre.append hu ⟨?_, fun _ _ => trivial⟩
    cases e with
    | wake i issued =>
      refine isAvailable_iff.mpr (readState_ne_opened hr (fun last hl => ?_) (sound_reachable ⟨es, hu⟩).tripped.time)
      exact hmono.2.2 last (lastFailureTime_mem hu last hl) issued (by simp [readings])
    | call | result | cancel | reset | look => trivial

/-! ### A retry that goes out while the breaker is open -/

variable (text b) in
/-- Calls that start at the same time. -/
theorem leads_calls (hr : 0 ≤ a.retryAttempts) (hb : b.state = .closed) (n : Nat) (calls : List CallPhase) :
    (a.machine text).Leads ⟨b, calls⟩ (List.replicate n (.call 0 0)) ⟨b, calls ++ List.replicate n (.settling 0)⟩ := by
  induction n generalizing calls with
  | zero => simp
  | succ n ih =>
    have havailable : b.isAvailable a 0 = true := by
      rw [isAvailable_iff, readState_of_closed hb, hb]
      decide
    have hbegin : a.begin b 0 = .settling 0 := by
      have hlt : ((0 : Nat) : Int) < a.retryAttempts + 1 := by omega
      rw [begin, if_pos havailable, beginAttempt, if_pos hlt]
    rw [List.replicate_succ, Transition.Machine.leads_cons]
    refine ⟨⟨b, calls ++ [.settling 0]⟩, ?_, ?_⟩
    · rw [← hbegin]
      exact congrArg (fun b' => some (AdapterState.mk b' _)) (readState_of_closed hb)
    · have hrest := ih (calls ++ [.settling 0])
      rw [List.append_assoc] at hrest
      exact hrest

/-- The calls after the first fail at one moment, in their order. -/
def failures (n : Nat) (now : ℚ) : List AdapterEvent :=
  (List.range n).map fun i => .result (i + 1) (.raised (.nonceReused "nonce_already_used")) now now

variable (text a) in
theorem leads_failures (now : ℚ) {n : Nat} (hs : ∀ i < n, s.calls[i + 1]? = some (.settling 0)) :
    ∃ t, (a.machine text).Leads s (failures n now) t ∧ t.calls[0]? = s.calls[0]? ∧
      (∀ i, n ≤ i → t.calls[i + 1]? = s.calls[i + 1]?) ∧
      t.breaker.consecutiveFailures = s.breaker.consecutiveFailures + n ∧
      (0 < n → t.breaker.lastFailureTime = some now ∧
        (a.failureThreshold ≤ (s.breaker.consecutiveFailures + n : Nat) → t.breaker.state = .opened)) := by
  induction n with
  | zero => exact ⟨s, Transition.Machine.leads_nil.mpr rfl, rfl, fun _ _ => rfl, rfl, fun h => by omega⟩
  | succ n ih =>
    obtain ⟨t, ht, hfirst, hrest, hcount, -⟩ := ih fun i hi => hs i (by omega)
    have hcall : t.calls[n + 1]? = some (.settling 0) := (hrest n (Nat.le_refl n)).trans (hs n (by omega))
    refine ⟨⟨t.breaker.recordFailure a now,
        t.calls.set (n + 1) (.finished (.raised (.nonceReused "nonce_already_used")))⟩,
      ?_, ?_, fun i hi => ?_, ?_, fun _ => ⟨rfl, fun hthreshold => ?_⟩⟩
    · rw [failures, List.range_succ, List.map_append, List.map_singleton, Transition.Machine.leads_snoc]
      refine ⟨t, ht, ?_⟩
      simp only [machine, step, hcall]
      rfl
    · rw [List.getElem?_set_ne (by omega)]
      exact hfirst
    · rw [List.getElem?_set_ne (by omega)]
      exact hrest i (by omega)
    · exact congrArg (· + 1) hcount
    · refine if_pos ?_
      rw [hcount]
      exact hthreshold

/-- The first of several calls times out. -/
def firstTimeout (n : Nat) : List AdapterEvent :=
  List.replicate (n + 1) (.call 0 0) ++ [.result 0 (.raised (.gatewayTimeout "/settle")) 0 0]

/-- The others fail when its sleep is over. -/
def timeoutThenFailures (n : Nat) (now : ℚ) : List AdapterEvent := firstTimeout n ++ failures n now

variable (text) in
/-- They leave the breaker open, and the first call asleep. -/
theorem leads_timeoutThenFailures (hr : 0 < a.retryAttempts) {n : Nat} (hn : a.failureThreshold ≤ n) (hpos : 0 < n)
    (now : ℚ) :
    ∃ s, (a.machine text).Reaches (timeoutThenFailures n now) s ∧
      s.calls[0]? = some (.sleeping 0 a.retryBaseDelay (.gatewayTimeout "/settle")) ∧
      s.breaker.lastFailureTime = some now ∧ s.breaker.state = .opened := by
  have hcalls := leads_calls text {} (by omega : 0 ≤ a.retryAttempts) rfl (n + 1) []
  let asleep : CallPhase := .sleeping 0 a.retryBaseDelay (.gatewayTimeout "/settle")
  let s₁ : AdapterState := ⟨{}, List.replicate (n + 1) (.settling 0)⟩
  let s₂ : AdapterState := ⟨recordError a {} 0, s₁.calls.set 0 asleep⟩
  have htimeout : a.step text s₁ (.result 0 (.raised (.gatewayTimeout "/settle")) 0 0) = some s₂ := by
    have hzero : ((0 : Nat) : Int) < a.retryAttempts := hr
    have hsleep : a.backOff 0 (.gatewayTimeout "/settle") 0 = asleep := by simp [backOff, asleep]
    have hfirst : s₁.calls[0]? = some (.settling 0) := rfl
    simp only [step, hfirst, onResult_gatewayTimeout, onGatewayError, if_pos hzero, hsleep]
    rfl
  have hasleep : (a.machine text).Leads s₁ [.result 0 (.raised (.gatewayTimeout "/settle")) 0 0] s₂ :=
    Transition.Machine.leads_cons.mpr ⟨s₂, htimeout, rfl⟩
  have hothers : ∀ i < n, s₂.calls[i + 1]? = some (.settling 0) := by
    intro i hi
    rw [List.getElem?_set_ne (by omega), List.getElem?_replicate, if_pos (by omega)]
  obtain ⟨s, hs, hfirst, -, -, htripped⟩ := leads_failures text a now hothers
  obtain ⟨htime, hopened⟩ := htripped hpos
  refine ⟨s, (hcalls.trans hasleep).trans hs, hfirst, htime, hopened ?_⟩
  have hone : s₂.breaker.consecutiveFailures = 1 := rfl
  omega

/-- The first call then wakes up and goes on. -/
def retryWhileOpen (n : Nat) (now : ℚ) : List AdapterEvent := timeoutThenFailures n now ++ [.wake 0 now]

variable (text) in
theorem timely_retryWhileOpen (hr : 0 < a.retryAttempts) {n : Nat} (hn : a.failureThreshold ≤ n) (hpos : 0 < n)
    {now : ℚ} (hdue : a.retryBaseDelay ≤ now) (hnow : 0 ≤ now) : Timely text a (retryWhileOpen n now) := by
  obtain ⟨s, hs, hasleep, -, -⟩ := leads_timeoutThenFailures text hr hn hpos now
  constructor
  · have hearly : ∀ r ∈ (firstTimeout n).flatMap readings, r = 0 := by
      simp [firstTimeout, readings]
    have hlate : ∀ r ∈ (failures n now ++ [AdapterEvent.wake 0 now]).flatMap readings, r = now := by
      intro r hmem
      obtain ⟨e, he, hr⟩ := List.mem_flatMap.mp hmem
      simp only [failures, List.mem_append, List.mem_map, List.mem_singleton] at he
      rcases he with ⟨i, -, rfl⟩ | rfl <;> simpa [readings] using hr
    rw [retryWhileOpen, timeoutThenFailures, List.append_assoc, List.flatMap_append, List.pairwise_append]
    refine ⟨List.pairwise_of_forall_mem_list fun x hx y hy => ?_,
      List.pairwise_of_forall_mem_list fun x hx y hy => ?_, fun x hx y hy => ?_⟩
    · rw [hearly x hx, hearly y hy]
    · rw [hlate x hx, hlate y hy]
    · rw [hearly x hx, hlate y hy]
      exact hnow
  · refine Transition.Machine.Along.append (Transition.Machine.along_of_forall fun e he s => ?_) hs
      ⟨fun attempt due error hi => ?_, fun _ _ => trivial⟩
    · simp only [timeoutThenFailures, firstTimeout, failures, List.mem_append, List.mem_replicate, List.mem_singleton,
        List.mem_map] at he
      rcases he with (⟨-, rfl⟩ | rfl) | ⟨i, -, rfl⟩ <;> trivial
    · obtain ⟨-, rfl, -⟩ := CallPhase.sleeping.inj (Option.some.inj (hasleep.symm.trans hi))
      exact hdue

variable (text) in
/-- The retry goes out while the breaker is open. -/
theorem opened_retryWhileOpen (hr : 0 < a.retryAttempts) (hrec : 1 / 10 ^ 9 < a.recoverySeconds) {n : Nat}
    (hn : a.failureThreshold ≤ n) (hpos : 0 < n) (now : ℚ) :
    ∃ s, (a.machine text).Reaches (retryWhileOpen n now) s ∧
      .opened ∈ (a.machine text).observed (issuedState a) (a.machine text).start (retryWhileOpen n now) := by
  obtain ⟨s, hs, hasleep, htime, hopened⟩ := leads_timeoutThenFailures text hr hn hpos now
  obtain ⟨t, ht⟩ : ∃ t, a.step text s (.wake 0 now) = some t := by
    simp only [step, hasleep]
    exact ⟨_, rfl⟩
  have hreads : (s.breaker.readState a now).state = .opened := by
    have hlt : ¬a.recoverySeconds ≤ now - now + 1 / 10 ^ 9 := by linarith
    simp only [readState, hopened, htime, if_neg hlt]
  have hissued : issuedState a s (.wake 0 now) = some .opened := by
    have hsettling : ∀ lastError, (a.beginAttempt (0 + 1) lastError).isSettling = true :=
      fun _ => beginAttempt_settling hr
    simp only [issuedState, hasleep, hsettling, if_true, hreads]
  refine ⟨t, Transition.Machine.leads_snoc.mpr ⟨s, hs, ht⟩, ?_⟩
  rw [retryWhileOpen, Transition.Machine.observed_snoc hs, hissued]
  simp

/-- Without retries nothing wakes up. -/
theorem available_of_no_retry (hr : a.retryAttempts ≤ 0) (h : (a.machine text).Reaches es s) :
    (a.machine text).Along (RetryAvailable a) (a.machine text).start es := by
  refine h.along (fun s e t hs (hn : a.step text s e = some t) => ?_) .start
  cases e with
  | wake i issued =>
    obtain ⟨attempt, due, error, hi, -⟩ := step_wake hn
    have hretry := (sound_reachable hs).retries _ (List.mem_of_getElem? hi) attempt due error rfl
    omega
  | call | result | cancel | reset | look => trivial

theorem issued_iff (h : (a.machine text).Reaches es s) :
    (∀ st ∈ (a.machine text).observed (issuedState a) (a.machine text).start es, st ≠ .opened) ↔
      (a.machine text).Along (RetryAvailable a) (a.machine text).start es :=
  (Transition.Machine.along_iff_observed (fun _ _ _ hs hn => retryAvailable_iff (sound_reachable hs) hn) .start h).symm

/-- **Nothing is submitted while the breaker is open** in the runs in which no sleep before a retry ends while it is;
and in all runs of an adapter that does not retry, or whose breaker recovers at once. -/
theorem fails_fast_iff (text : Text) (a : NanopaymentAdapter) :
    (∀ es s, (a.machine text).Reaches es s →
      ((∀ st ∈ (a.machine text).observed (issuedState a) (a.machine text).start es, st ≠ .opened) ↔
        (a.machine text).Along (RetryAvailable a) (a.machine text).start es)) ∧
    ((∀ es s, (a.machine text).Reaches es s → Timely text a es →
        ∀ st ∈ (a.machine text).observed (issuedState a) (a.machine text).start es, st ≠ .opened) ↔
      a.retryAttempts ≤ 0 ∨ a.recoverySeconds ≤ 1 / 10 ^ 9) := by
  refine ⟨fun es s h => issued_iff h, fun hall => ?_, fun hsettings es s h ht => (issued_iff h).mpr ?_⟩
  · by_contra hsettings
    rw [not_or, not_le, not_le] at hsettings
    obtain ⟨hr, hrec⟩ := hsettings
    have hn : a.failureThreshold ≤ ((a.failureThreshold.toNat + 1 : Nat) : Int) := by omega
    have hpos : 0 < a.failureThreshold.toNat + 1 := Nat.succ_pos _
    obtain ⟨s, hs, ho⟩ := opened_retryWhileOpen text hr hrec hn hpos (max a.retryBaseDelay 0)
    have htimely := timely_retryWhileOpen text hr hn hpos (le_max_left a.retryBaseDelay 0) (le_max_right _ _)
    exact hall _ s hs htimely _ ho rfl
  · rcases hsettings with hr | hr
    · exact available_of_no_retry hr h
    · exact available_of_short hr h ht

/-- The language on ASCII texts. -/
def asciiText : Text where
  containerStr := fun _ => ""
  repr := fun _ => ""
  lower := fun s => String.ofList (s.toList.map Char.toLower)
  decimal := fun _ => .invalid
  jsonDumps := fun _ => ""
  sha256 := id

/-- With the defaults: a payment times out four times, and a second one once, which opens the breaker. -/
def fiveTimeouts : List AdapterEvent :=
  let timeout (i : Nat) (now : ℚ) : AdapterEvent := .result i (.raised (.gatewayTimeout "/settle")) now now
  [.call 0 0, timeout 0 1, .wake 0 (3 / 2), timeout 0 2, .wake 0 3, timeout 0 4, .wake 0 6, timeout 0 7, .call 8 8,
    timeout 1 9, .wake 1 (19 / 2)]

/-- The second payment is submitted again half a second later. -/
theorem settled_while_open :
    ¬∀ (a : NanopaymentAdapter) (es : List AdapterEvent) (s : AdapterState), (a.machine asciiText).Reaches es s →
      ∀ st ∈ (a.machine asciiText).observed (issuedState a) (a.machine asciiText).start es, st ≠ .opened := by
  intro hall
  have hruns : ((machine asciiText {}).run (machine asciiText {}).start fiveTimeouts).isSome = true := by
    decide +kernel
  obtain ⟨s, hs⟩ := Option.isSome_iff_exists.mp hruns
  exact absurd (hall {} fiveTimeouts s hs) (by decide +kernel)

/-! ### The counter -/

/-- What a step does to the counter: a failed submission is recorded not at all, once or twice. -/
inductive Mark where
  | unrecorded
  | once
  | twice
  | cleared
  deriving DecidableEq

def Mark.after (count : Nat) : Mark → Nat
  | .unrecorded => count
  | .once => count + 1
  | .twice => count + 2
  | .cleared => 0

/-- A `SettlementError` is recorded twice where it is transient and no attempt is left. -/
def errorMark (text : Text) (a : NanopaymentAdapter) (attempt : Nat) : SettleError → Mark
  | .settlement reason => if isTransient text reason ∧ a.retryAttempts ≤ attempt then .twice else .once
  | .other _ => .unrecorded
  | _ => .once

def resultMark (text : Text) (a : NanopaymentAdapter) (attempt : Nat) : SettleResult → Mark
  | .returned _ => .cleared
  | .raised error => errorMark text a attempt error

def mark (text : Text) (a : NanopaymentAdapter) (s : AdapterState) : AdapterEvent → Option Mark
  | .result i r _ _ =>
    match s.calls[i]? with
    | some (.settling attempt) => some (resultMark text a attempt r)
    | _ => none
  | .reset => some .cleared
  | _ => none

/-- The failed submissions since the last success or reset. -/
def failedSince (text : Text) (a : NanopaymentAdapter) (es : List AdapterEvent) : List Mark :=
  History.since (· == .cleared) ((a.machine text).observed (mark text a) (a.machine text).start es)

theorem resultMark_settlement (reason : String) : resultMark text a attempt (.raised (.settlement reason)) =
    if isTransient text reason ∧ a.retryAttempts ≤ attempt then .twice else .once := rfl

theorem onResult_mark {now later : ℚ} (r : SettleResult) :
    (a.onResult text b attempt now later r).1.consecutiveFailures =
      (resultMark text a attempt r).after b.consecutiveFailures := by
  cases r with
  | returned response => rfl
  | raised error =>
    cases error with
    | gatewayTimeout | gatewayConnection | nonceReused | insufficientBalance | other => rfl
    | settlement reason =>
      rw [onResult_settlement, resultMark_settlement]
      by_cases ht : isTransient text reason
      · by_cases hr : (attempt : Int) < a.retryAttempts
        · rw [if_pos ht, if_pos hr, if_neg fun h => absurd h.2 (by omega)]
          rfl
        · rw [if_pos ht, if_neg hr, if_pos ⟨ht, by omega⟩]
          rfl
      · rw [if_neg ht, if_neg fun h => ht h.1]
        rfl

theorem step_mark (h : a.step text s e = some t) :
    t.breaker.consecutiveFailures = (mark text a s e).elim s.breaker.consecutiveFailures
      (·.after s.breaker.consecutiveFailures) := by
  cases e with
  | call checked issued =>
    obtain rfl := Option.some.inj h
    exact readState_failures
  | result i r now later =>
    obtain ⟨attempt, hi, rfl⟩ := step_result h
    simp only [mark, hi]
    exact onResult_mark r
  | wake i issued =>
    obtain ⟨attempt, due, error, -, rfl⟩ := step_wake h
    rfl
  | cancel i =>
    obtain rfl := step_cancel h
    rfl
  | reset =>
    obtain rfl := Option.some.inj h
    rfl
  | look now =>
    obtain rfl := Option.some.inj h
    exact readState_failures

/-- The counter is off by what was recorded twice and by what was not recorded. -/
theorem counter_eq (h : (a.machine text).Reaches es s) :
    s.breaker.consecutiveFailures + (failedSince text a es).count .unrecorded =
      (failedSince text a es).length + (failedSince text a es).count .twice := by
  refine h.history (H := fun es s => s.breaker.consecutiveFailures + (failedSince text a es).count .unrecorded =
    (failedSince text a es).length + (failedSince text a es).count .twice) rfl ?_
  intro es s e t hr ih hn
  have hcount := step_mark hn
  have hsnoc : failedSince text a (es ++ [e]) = History.since (· == .cleared)
      ((a.machine text).observed (mark text a) (a.machine text).start es ++ (mark text a s e).toList) := by
    rw [failedSince, Transition.Machine.observed_snoc hr]
  rw [hsnoc, hcount]
  cases hm : mark text a s e with
  | none =>
    rw [Option.toList_none, List.append_nil]
    exact ih
  | some m =>
    rw [Option.toList_some]
    cases m with
    | cleared =>
      rw [History.since_snoc rfl]
      rfl
    | unrecorded | once | twice =>
      rw [History.since_snoc_of_not rfl]
      simp only [failedSince] at ih
      simp [Mark.after]
      omega

/-- **A failure is counted once**: the counter is at most the number of failed submissions as long as no more of them
were recorded twice than not at all, and then a breaker that is not closed has seen its threshold of failures. -/
theorem counted_iff (h : (a.machine text).Reaches es s) :
    (s.breaker.consecutiveFailures ≤ (failedSince text a es).length ↔
      (failedSince text a es).count .twice ≤ (failedSince text a es).count .unrecorded) ∧
    ((failedSince text a es).count .twice ≤ (failedSince text a es).count .unrecorded → s.breaker.state ≠ .closed →
      a.failureThreshold ≤ (failedSince text a es).length) := by
  have hcounter := counter_eq h
  refine ⟨by omega, fun hmarks hstate => ?_⟩
  have hthreshold := (sound_reachable ⟨es, h⟩).tripped.threshold hstate
  omega

/-- Five timeouts, each counted once. -/
theorem counted_fiveTimeouts :
    ∃ s, (machine asciiText {}).Reaches fiveTimeouts s ∧
      s.breaker.consecutiveFailures ≤ (failedSince asciiText {} fiveTimeouts).length := by
  have hruns : ((machine asciiText {}).run (machine asciiText {}).start fiveTimeouts).isSome = true := by
    decide +kernel
  obtain ⟨s, hs⟩ := Option.isSome_iff_exists.mp hruns
  exact ⟨s, hs, (counted_iff hs).1.mpr (by decide +kernel)⟩

/-- With the defaults: a payment fails on a lost connection in all of its four submissions. -/
def fourFailures : List AdapterEvent :=
  let lost (now : ℚ) : AdapterEvent := .result 0 (.raised (.settlement "Connection lost")) now now
  [.call 0 0, lost 1, .wake 0 (3 / 2), lost 2, .wake 0 3, lost 4, .wake 0 6, lost 7]

/-- The counter is at five, and the breaker is open. -/
theorem counted_five :
    ¬∀ (a : NanopaymentAdapter) (es : List AdapterEvent) (s : AdapterState), (a.machine asciiText).Reaches es s →
      s.breaker.consecutiveFailures ≤ (failedSince asciiText a es).length := by
  intro hall
  have hruns : ((machine asciiText {}).run (machine asciiText {}).start fourFailures).isSome = true := by
    decide +kernel
  obtain ⟨s, hs⟩ := Option.isSome_iff_exists.mp hruns
  have hcount := hall {} fourFailures s hs
  have hfive : ((machine asciiText {}).run (machine asciiText {}).start fourFailures).map
      (·.breaker.consecutiveFailures) = some 5 := by
    decide +kernel
  rw [hs, Option.map_some, Option.some.injEq] at hfive
  rw [hfive] at hcount
  exact absurd hcount (by decide +kernel)

end NanopaymentAdapter

end Nanopayments
end HostedFacilitator
