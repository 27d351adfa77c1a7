import HostedFacilitator.Lib.Transition
import HostedFacilitator.Storage.Lawful

/-!
# Engines on one local store

Any number of `engine.settle` calls on one in-memory or SQLite store. Every operation of these stores runs under the
store's lock, so one event is one operation of the store, or one thing that happens outside (`provider.settle`
returns, the limiter decides, an operation raises, a process dies). Reconcilers and operators do not appear: the two
stores lack the operations they need.
-/

namespace HostedFacilitator.Local

/-- Where an `engine.settle` call stands. -/
inductive Phase where
  | cachedGet
  | cachedLookup
  | rateLimit
  | rejectedGet
  | rejectedLookup
  | claimEnter
  | claimed (record : SettlementRecord)
  | started (record : SettlementRecord) (attemptId : Nat)
  | settling (record : SettlementRecord) (attemptId : Nat)
  | marking (record : SettlementRecord) (attemptId : Nat) (result : ProviderResult)
  | finishing (record : SettlementRecord) (attemptId : Nat) (result : ProviderResult) (f : Finalization)
  | finished (answer : Except PyErr SettleOutcome) (settled : Option (SettlementRecord × ProviderResult))
  | crashed

/-- What the next step of a call may need from outside. -/
inductive Input where
  | proceed (now : Instant)
  | limiter (allowed : Bool)
  | provider (result : ProviderResult)
  | fail (error : PyErr)
  | crash

structure Process where
  call : SettleCall
  phase : Phase

inductive Event where
  | arrive (call : SettleCall) (limited : Bool)
  | engine (i : Nat) (input : Input)

structure System (σ : Type) where
  store : σ
  processes : List Process := []

/-- The claims that the calls make, oldest call first. -/
def System.claims {σ : Type} (s : System σ) : List ClaimRequest := s.processes.map fun p => p.call.request

namespace Phase

/-- The claimed record, before it is finalised. -/
def ticket : Phase → Option SettlementRecord
  | .claimed r | .started r _ | .settling r _ | .marking r _ _ => some r
  | _ => none

/-- The record, once the finalising write is done and while the call has not raised. -/
def outcome : Phase → Option (SettlementRecord × ProviderResult)
  | .finishing r _ result _ => some (r, result)
  | .finished (.ok _) settled => settled
  | _ => none

/-- The call has returned, raised or died. -/
def ended : Phase → Bool
  | .finished .. | .crashed => true
  | _ => false

end Phase

/-- The two reads of `_cached_existing_settlement`: an existing record answers the call, otherwise it goes on. -/
def answerExisting (call : SettleCall) (existing : Option SettlementRecord) (otherwise : Phase) : Phase :=
  match existing.bind (existingAnswer call) with
  | some o => .finished (.ok o) none
  | none => otherwise

section Engine

variable {σ : Type} (L : LawfulStore σ)

/-- One step of a call: the store and the phase after it. -/
def engineNext (s : σ) (call : SettleCall) : Phase → Input → Option (σ × Phase)
  | .cachedGet, .proceed _ => some (s, answerExisting call (L.store.get s call.request.profileKey) .cachedLookup)
  | .cachedLookup, .proceed _ =>
    some (s, answerExisting call (L.store.getByProviderFingerprint s call.request.replayKey) .rateLimit)
  | .rateLimit, .limiter true => some (s, .claimEnter)
  | .rateLimit, .limiter false => some (s, .rejectedGet)
  | .rejectedGet, .proceed _ => some (s, answerExisting call (L.store.get s call.request.profileKey) .rejectedLookup)
  | .rejectedLookup, .proceed _ =>
    some (s, answerExisting call (L.store.getByProviderFingerprint s call.request.replayKey)
      (.finished (.error .rateLimitExceeded) none))
  | .claimEnter, .proceed now =>
    match L.ops.claimForSettlement s call.request now with
    | .error e => some (s, .finished (.error e) none)
    | .ok ((r, claim), s') =>
      match cachedSettlement r claim with
      | some o => some (s', .finished (.ok (markDuplicate call o)) none)
      | none => some (s', .claimed r)
  | .claimed r, .proceed now =>
    let started := L.store.startSettleAttempt s r call.request.traceId now
    some (started.2, .started r started.1)
  | .started r a, .proceed _ => some (s, .settling r a)
  | .settling r a, .provider result => some (s, .marking r a result)
  | .marking r a result, .proceed now =>
    let f := result.finalization call (L.store.held s r)
    some (L.ops.markRecord s r f now, .finishing r a result f)
  | .finishing r a result f, .proceed now =>
    some (L.ops.finishSettleAttempt s a f.attemptStatus f.transaction f.errorReason now,
      .finished (.ok (result.answer call r)) (some (r, result)))
  | .marking r _ result, .fail e | .finishing r _ result _, .fail e =>
    some (s, .finished (.error e) (some (r, result)))
  | .started .., .fail _ | .settling .., .fail _ => none
  | phase, .fail e => if phase.ended then none else some (s, .finished (.error e) none)
  | phase, .crash => if phase.ended then none else some (s, .crashed)
  | _, _ => none

/-- One event. -/
def System.next (s : System σ) : Event → Option (System σ)
  | .arrive call limited =>
    some { s with processes := s.processes ++ [⟨call, if limited then .cachedGet else .claimEnter⟩] }
  | .engine i input =>
    match s.processes[i]? with
    | none => none
    | some p =>
      (engineNext L s.store p.call p.phase input).map fun (store', phase') =>
        { s with store := store', processes := s.processes.set i ⟨p.call, phase'⟩ }

/-- The system, from an empty store. -/
def machine : Transition.Machine (System σ) Event where
  start := { store := L.store.init }
  next := System.next L

variable {L} {s s' : System σ}

/-- An event of a call is a step of it. -/
theorem System.next_engine {i : Nat} {input : Input} (h : (machine L).next s (.engine i input) = some s') :
    ∃ p store' phase', s.processes[i]? = some p ∧ engineNext L s.store p.call p.phase input = some (store', phase') ∧
      s' = { s with store := store', processes := s.processes.set i ⟨p.call, phase'⟩ } := by
  simp only [machine, System.next] at h
  split at h
  · cases h
  · rename_i p hp
    obtain ⟨⟨store', phase'⟩, hstep, rfl⟩ := Option.map_eq_some_iff.mp h
    exact ⟨p, store', phase', hp, hstep, rfl⟩

end Engine

/-! ## What one event can do -/

/-- What one step of a call does to the store and to the call. -/
inductive EngineStep {σ : Type} (L : LawfulStore σ) (s : σ) (call : SettleCall) : Phase → Input → σ → Phase → Prop
  /-- The call reads, asks the limiter, raises or dies, and has no record afterwards. -/
  | leave {phase phase' : Phase} {input : Input} (open_ : phase.ended = false) (ticket : phase'.ticket = none)
      (outcome : phase'.outcome = none) : EngineStep L s call phase input s phase'
  | count {now : Instant} {r : SettlementRecord} {s' : σ} {o : SettleOutcome}
      (existing : L.store.existing s call.request = some r)
      (after : After L.Inv L.records L.attempts s' (Table.update (fun x => x.recordId == r.recordId)
        (SettlementRecord.recordDuplicateClaim now) (L.records s)) (L.attempts s)) :
      EngineStep L s call .claimEnter (.proceed now) s' (.finished (.ok o) none)
  | claim {now : Instant} {n : Nat} {s' : σ} (none : L.store.existing s call.request = none)
      (fresh : ∀ x ∈ L.records s, x.recordId ≠ n)
      (after : After L.Inv L.records L.attempts s' (L.records s ++ [call.request.freshRecord n now]) (L.attempts s)) :
      EngineStep L s call .claimEnter (.proceed now) s' (.claimed (call.request.freshRecord n now))
  /-- The call goes on with its claimed record. -/
  | keep {phase phase' : Phase} {input : Input} {r : SettlementRecord} {s' : σ} (ticket : phase.ticket = some r)
      (ticket' : phase'.ticket = some r) (inv : L.Inv s') (records : L.records s' = L.records s)
      (result : ∀ a result, phase' = .marking r a result → input = .provider result) :
      EngineStep L s call phase input s' phase'
  | mark {now : Instant} {r : SettlementRecord} {a : Nat} {result : ProviderResult} :
      EngineStep L s call (.marking r a result) (.proceed now)
        (L.ops.markRecord s r (result.finalization call (L.store.held s r)) now)
        (.finishing r a result (result.finalization call (L.store.held s r)))
  | finish {now : Instant} {r : SettlementRecord} {a : Nat} {result : ProviderResult} {f : Finalization} {s' : σ}
      (inv : L.Inv s') (records : L.records s' = L.records s) :
      EngineStep L s call (.finishing r a result f) (.proceed now) s'
        (.finished (.ok (result.answer call r)) (some (r, result)))

section EngineStep

variable {σ : Type} {L : LawfulStore σ} {s s' : σ} {call : SettleCall} {phase phase' : Phase} {input : Input}

theorem answerExisting_ticket (existing : Option SettlementRecord) {otherwise : Phase} (h : otherwise.ticket = none) :
    (answerExisting call existing otherwise).ticket = none := by
  unfold answerExisting
  split
  · rfl
  · exact h

theorem answerExisting_outcome (existing : Option SettlementRecord) {otherwise : Phase}
    (h : otherwise.outcome = none) : (answerExisting call existing otherwise).outcome = none := by
  unfold answerExisting
  split
  · rfl
  · exact h

/-- Nothing else happens in a step of a call. -/
theorem engineNext_step (hinv : L.Inv s) (h : engineNext L s call phase input = some (s', phase')) :
    EngineStep L s call phase input s' phase' := by
  cases input with
  | crash =>
    cases phase <;> simp only [engineNext, Phase.ended, Bool.false_eq_true, if_false, if_true, reduceCtorEq,
      Option.some.injEq, Prod.mk.injEq] at h <;> obtain ⟨rfl, rfl⟩ := h
    all_goals exact .leave rfl rfl rfl
  | fail e =>
    cases phase <;> simp only [engineNext, Phase.ended, Bool.false_eq_true, if_false, if_true, reduceCtorEq,
      Option.some.injEq, Prod.mk.injEq] at h <;> obtain ⟨rfl, rfl⟩ := h
    all_goals exact .leave rfl rfl rfl
  | limiter allowed =>
    cases phase <;> cases allowed <;> simp only [engineNext, reduceCtorEq, Option.some.injEq, Prod.mk.injEq] at h
    all_goals
      obtain ⟨rfl, rfl⟩ := h
      exact .leave rfl rfl rfl
  | provider result =>
    cases phase <;> simp only [engineNext, reduceCtorEq, Option.some.injEq, Prod.mk.injEq] at h
    obtain ⟨rfl, rfl⟩ := h
    refine .keep rfl rfl hinv rfl ?_
    intro a result' he
    cases he
    rfl
  | proceed now =>
    cases phase with
    | cachedGet | cachedLookup | rejectedGet | rejectedLookup =>
      simp only [engineNext, Option.some.injEq, Prod.mk.injEq] at h
      obtain ⟨rfl, rfl⟩ := h
      exact .leave rfl (answerExisting_ticket _ rfl) (answerExisting_outcome _ rfl)
    | rateLimit | settling | finished | crashed => simp [engineNext] at h
    | claimEnter =>
      cases hex : L.store.existing s call.request with
      | some r =>
        obtain ⟨s₁, hc, hafter⟩ := L.claim_duplicate now hinv hex
        obtain ⟨o, ho⟩ := cachedSettlement_isSome (r.recordDuplicateClaim now) (claimForStatus_ne_claimed r.status)
        simp only [engineNext, hc, ho, Option.some.injEq, Prod.mk.injEq] at h
        obtain ⟨rfl, rfl⟩ := h
        exact .count hex hafter
      | none =>
        obtain ⟨n, s₁, hc, hfresh, hafter⟩ := L.claim_fresh now hinv hex
        have hnone : cachedSettlement (call.request.freshRecord n now) .claimed = none := rfl
        simp only [engineNext, hc, hnone, Option.some.injEq, Prod.mk.injEq] at h
        obtain ⟨rfl, rfl⟩ := h
        exact .claim hex hfresh hafter
    | claimed r =>
      obtain ⟨n, s₁, hs, -, hafter⟩ := L.start_eq r call.request.traceId now hinv
      simp only [engineNext, hs, Option.some.injEq, Prod.mk.injEq] at h
      obtain ⟨rfl, rfl⟩ := h
      exact .keep rfl rfl hafter.inv hafter.records_eq (by simp)
    | started r a =>
      simp only [engineNext, Option.some.injEq, Prod.mk.injEq] at h
      obtain ⟨rfl, rfl⟩ := h
      exact .keep rfl rfl hinv rfl (by simp)
    | marking r a result =>
      simp only [engineNext, Option.some.injEq, Prod.mk.injEq] at h
      obtain ⟨rfl, rfl⟩ := h
      exact .mark
    | finishing r a result f =>
      simp only [engineNext, Option.some.injEq, Prod.mk.injEq] at h
      obtain ⟨rfl, rfl⟩ := h
      have hafter := L.finish_eq a f.attemptStatus f.transaction f.errorReason now hinv
      exact .finish hafter.inv hafter.records_eq

end EngineStep

end HostedFacilitator.Local
