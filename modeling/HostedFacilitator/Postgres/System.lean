import HostedFacilitator.Lib.Transition
import HostedFacilitator.Reconciliation

/-!
# Engines, reconcilers and operators on one Postgres store

A state is the committed tables, a clock, every `engine.settle` call so far with the point it has reached, and every
reconciler with the record it holds. One event is one statement, one short transaction, or one thing the outside
world does (`provider.settle` returns, the limiter decides, a process dies); any process may take the next one.

The claim runs statement by statement. Between `pg_advisory_xact_lock` and its commit a call holds the lock of its
key (`Phase.holdsLock`), and what it has inserted is visible to nobody else (`Phase.pendingRecord`); a conflicting
insert waits (`noPendingConflict`). A statement reads what is committed when it runs. Any database step may fail:
its transaction is rolled back and the call raises (`EngineInput.fail`); a process may also just stop (`crash`).

Every clock reading is at most the shared clock at the time it is used, since a statement may wait after its
reading was taken.
-/

namespace HostedFacilitator.Postgres

/-- Where an `engine.settle` call stands. `tries` counts the rounds of the visibility retry loop, `now` is the clock
reading that `claim_and_start_settle_attempt` starts with. -/
inductive Phase where
  | cachedGet
  | cachedLookup
  | rateLimit
  | rejectedGet
  | rejectedLookup
  | claimEnter
  | claimBegin (now : Instant) (tries : Nat)
  | claimLocked (now : Instant) (tries : Nat)
  | claimInsert (now : Instant) (tries : Nat)
  | claimSelectProfile (now : Instant) (tries : Nat)
  | claimSelectReplay (now : Instant) (tries : Nat)
  | claimDuplicate (now : Instant) (record : SettlementRecord)
  | claimInserted (now : Instant) (record : SettlementRecord)
  | claimStarted (record : SettlementRecord) (attempt : SettlementAttemptRecord)
  | claimed (record : SettlementRecord) (attemptId : Nat)
  | settling (record : SettlementRecord) (attemptId : Nat)
  | finalizing (record : SettlementRecord) (attemptId : Nat) (result : ProviderResult)
  | finished (answer : Except PyErr SettleOutcome) (settled : Option (SettlementRecord × ProviderResult))
  | crashed

/-- What the next step of a call may need from outside. -/
inductive EngineInput where
  | proceed (now : Instant)
  | blind
  | limiter (allowed : Bool)
  | provider (result : ProviderResult)
  | fail (error : PyErr)
  | crash

structure Process where
  call : SettleCall
  phase : Phase

/-- A reconciler and the record it has claimed in its current run, with the run's `now`. -/
structure Worker where
  config : HostedSettlementReconciler
  held : Option (SettlementRecord × Instant) := none

inductive Event where
  | tick (time : Instant)
  | arrive (call : SettleCall) (limited : Bool)
  | engine (i : Nat) (input : EngineInput)
  | spawn (config : HostedSettlementReconciler)
  | reconcilerClaim (w : Nat) (recordId : Nat) (status : SettlementStatus) (now reading : Instant)
  | reconcilerReply (w : Nat) (reply : ProviderReply) (reading : Instant)
  | reconcilerStops (w : Nat)
  | release (recordId : Nat) (owner : String) (reading : Instant)
  | control (c : Db.ControlAction) (reading : Instant)

/-- Who takes a lease: a reconciler, or an operator, who works without keeping a snapshot. -/
inductive Claimant where
  | worker (w : Nat)
  | operator
  deriving DecidableEq

/-- What happens to reconciliation leases: one is taken, one is dropped by a release or a finalisation, or its holder
changes the record's status with it. -/
inductive LeaseEvent where
  | claimed (claimant : Claimant) (recordId : Nat) (owner : String) (lease reading : Instant)
  | cleared (recordId : Nat)
  | marked (claimant : Claimant) (recordId : Nat) (owner : String) (lease reading : Instant)
      (source target : SettlementStatus)
  deriving DecidableEq

/-- The state. The last two fields are histories, oldest first: the keys `provider.settle` was invoked for, and what
happened to the leases. -/
structure System where
  db : Db := {}
  clock : Instant := 0
  processes : List Process := []
  workers : List Worker := []
  providerCalls : List ReplayKey := []
  leases : List LeaseEvent := []

/-- `_CLAIM_VISIBILITY_RETRIES`. -/
def claimVisibilityRetries : Nat := 3

/-- The text that is hashed into the advisory lock. -/
def lockText (k : ReplayKey) : String :=
  k.sellerAccountId ++ ":" ++ k.provider ++ ":" ++ k.scheme.getD "" ++ ":" ++ k.network.getD "" ++ ":" ++ k.fingerprint

namespace Phase

/-- The call is between its advisory lock and the end of that transaction. -/
def holdsLock : Phase → Bool
  | .claimLocked .. | .claimInsert .. | .claimSelectProfile .. | .claimSelectReplay .. | .claimDuplicate ..
  | .claimInserted .. | .claimStarted .. => true
  | _ => false

/-- The record the call has inserted and not yet committed. -/
def pendingRecord : Phase → Option SettlementRecord
  | .claimInserted _ r | .claimStarted r _ => some r
  | _ => none

/-- The record and attempt the call has claimed and not yet finalised. -/
def ticket : Phase → Option (SettlementRecord × Nat)
  | .claimed r a | .settling r a | .finalizing r a _ => some (r, a)
  | _ => none

/-- The call has returned, raised or died. -/
def ended : Phase → Bool
  | .finished .. | .crashed => true
  | _ => false

end Phase

/-- The two reads of `_cached_existing_settlement`: an existing record answers the call, otherwise it goes on. -/
def answerExisting (call : SettleCall) (existing : Option SettlementRecord) (otherwise : Phase) : Phase :=
  match existing.bind (existingAnswer call) with
  | some o => .finished (.ok o) none
  | none => otherwise

section Engine

variable (hash : String → Int)

/-- Nobody holds the advisory lock of `k`; the lock is on the hash of the text. -/
def lockFree (processes : List Process) (k : ReplayKey) : Bool :=
  processes.all fun p => !(p.phase.holdsLock && hash (lockText p.call.request.replayKey) == hash (lockText k))

/-- No uncommitted row is in the way of the unique constraint; otherwise the insert waits. -/
def noPendingConflict (processes : List Process) (k : ProfileKey) : Bool :=
  processes.all fun p => p.phase.pendingRecord.all fun r => r.profileKey != k

/-- One step of a call: the tables and the phase after it. -/
def engineNext (db : Db) (processes : List Process) (call : SettleCall) : Phase → EngineInput → Option (Db × Phase)
  | .cachedGet, .proceed _ =>
    some (db, answerExisting call (db.get call.request.profileKey) .cachedLookup)
  | .cachedLookup, .proceed _ =>
    some (db, answerExisting call (db.getByProviderFingerprint call.request.replayKey) .rateLimit)
  | .rateLimit, .limiter true => some (db, .claimEnter)
  | .rateLimit, .limiter false => some (db, .rejectedGet)
  | .rejectedGet, .proceed _ =>
    some (db, answerExisting call (db.get call.request.profileKey) .rejectedLookup)
  | .rejectedLookup, .proceed _ =>
    some (db, answerExisting call (db.getByProviderFingerprint call.request.replayKey)
      (.finished (.error .rateLimitExceeded) none))
  | .claimEnter, .proceed now => some (db, .claimBegin now 0)
  | .claimBegin now tries, .proceed _ =>
    if lockFree hash processes call.request.replayKey then some (db, .claimLocked now tries) else none
  | .claimLocked now tries, .proceed _ =>
    match db.selectReplay call.request.replayKey with
    | some r => some (db, .claimDuplicate now r)
    | none => some (db, .claimInsert now tries)
  | .claimInsert now _, .proceed _ =>
    -- the sequence moves on even when the insert does nothing
    if noPendingConflict processes call.request.profileKey then
      let db' := { db with nextRecordId := db.nextRecordId + 1 }
      match db.get call.request.profileKey with
      | some r => some (db', .claimDuplicate now r)
      | none => some (db', .claimInserted now (call.request.freshRecord db.nextRecordId now))
    else none
  | .claimInsert now tries, .blind =>
    -- the conflicting row was committed after this statement's snapshot: no row comes back
    if noPendingConflict processes call.request.profileKey && (db.get call.request.profileKey).isSome then
      some ({ db with nextRecordId := db.nextRecordId + 1 }, .claimSelectProfile now tries)
    else none
  | .claimSelectProfile now tries, .proceed _ =>
    match db.get call.request.profileKey with
    | some r => some (db, .claimDuplicate now r)
    | none => some (db, .claimSelectReplay now tries)
  | .claimSelectReplay now tries, .proceed _ =>
    match db.getByProviderFingerprint call.request.replayKey with
    | some r => some (db, .claimDuplicate now r)
    | none =>
      if tries + 1 < claimVisibilityRetries then some (db, .claimBegin now (tries + 1))
      else some (db, .finished (.error (.runtime "Postgres settlement claim did not return a record")) none)
  | .claimDuplicate now r, .proceed _ =>
    (duplicateAnswer call r).map fun o => (db.countDuplicate r.recordId now, .finished (.ok o) none)
  | .claimInserted now r, .proceed _ =>
    some ({ db with nextAttemptId := db.nextAttemptId + 1 },
      .claimStarted r (call.request.startedAttempt db.nextAttemptId r.recordId now))
  | .claimStarted r a, .proceed _ => some (db.addClaim r a, .claimed r a.attemptId)
  | .claimed r a, .proceed _ => some (db, .settling r a)
  | .settling r a, .provider result => some (db, .finalizing r a result)
  | .finalizing r a result, .proceed now =>
    match db.markRecordAndFinishSettleAttempt r.recordId a (result.finalization call r) now with
    | .ok db' => some (db', .finished (.ok (result.answer call r)) (some (r, result)))
    | .error e => some (db, .finished (.error e) (some (r, result)))
  | .finalizing r _ result, .fail e => some (db, .finished (.error e) (some (r, result)))
  | .claimed .., .fail _ | .settling .., .fail _ => none
  | phase, .fail e => if phase.ended then none else some (db, .finished (.error e) none)
  | phase, .crash => if phase.ended then none else some (db, .crashed)
  | _, _ => none

/-- The clock reading an engine step takes, when it takes one. -/
def EngineInput.reading : EngineInput → Option Instant
  | .proceed now => some now
  | _ => none

/-- The call leaves `claimed` by invoking `provider.settle`. -/
def Phase.invokes : Phase → Bool
  | .settling .. => true
  | _ => false

/-- The log of provider calls after a step from `before` to `after`. -/
def logCall (calls : List ReplayKey) (k : ReplayKey) (after : Phase) : List ReplayKey :=
  if after.invokes then calls ++ [k] else calls

/-- A finalisation that commits drops the record's lease. -/
def engineLease : Phase → Phase → List LeaseEvent
  | .finalizing r _ _, .finished (.ok _) _ => [.cleared r.recordId]
  | _, _ => []

/-- The lease event of a claim by a reconciler. -/
def claimLease (w : Nat) (owner : String) (lease reading : Instant) : Option SettlementRecord → List LeaseEvent
  | some r => [.claimed (.worker w) r.recordId owner lease reading]
  | none => []

/-- The lease event of a mark that commits; `row` is the row it changed. -/
def markLease (claimant : Claimant) (owner : String) (reading : Instant) (target : SettlementStatus) :
    Option SettlementRecord → List LeaseEvent
  | some row => [.marked claimant row.recordId owner (row.reconciliationLeaseUntil.getD 0) reading row.status target]
  | none => []

/-- The lease event of an operator action. -/
def controlLease (c : Db.ControlAction) (reading : Instant) (row : Option SettlementRecord) : List LeaseEvent :=
  match c.action with
  | .claim => [.claimed .operator c.recordId c.owner c.leaseUntil reading]
  | .release => [.cleared c.recordId]
  | .manualReview => markLease .operator c.owner reading .manualReview row

/-- One event. -/
def System.next (s : System) : Event → Option System
  | .tick t => if s.clock ≤ t then some { s with clock := t } else none
  | .arrive call limited =>
    some { s with processes := s.processes ++ [⟨call, if limited then .cachedGet else .claimEnter⟩] }
  | .engine i input =>
    match s.processes[i]? with
    | none => none
    | some p =>
      if input.reading.all (· ≤ s.clock) then
        (engineNext hash s.db s.processes p.call p.phase input).map fun (db', phase') =>
          { s with
            db := db'
            processes := s.processes.set i ⟨p.call, phase'⟩
            providerCalls := logCall s.providerCalls p.call.request.replayKey phase'
            leases := s.leases ++ engineLease p.phase phase' }
      else none
  | .spawn config => some { s with workers := s.workers ++ [⟨config, none⟩] }
  | .reconcilerClaim w recordId status now reading =>
    match s.workers[w]? with
    | some ⟨config, none⟩ =>
      if now ≤ s.clock ∧ reading ≤ s.clock then
        match config.claim s.db recordId status now reading with
        | .ok (claimed, db') =>
          some { s with
            db := db'
            workers := s.workers.set w ⟨config, claimed.map (·, now)⟩
            leases := s.leases ++ claimLease w config.owner (config.leaseUntil now) reading claimed }
        | .error _ => none
      else none
    | _ => none
  | .reconcilerReply w reply reading =>
    match s.workers[w]? with
    | some ⟨config, some (record, now)⟩ =>
      if reading ≤ s.clock then
        let workers := s.workers.set w ⟨config, none⟩
        match config.handleClaimed record now reply with
        | .mark m =>
          match s.db.updateReconciliationRecord record m config.owner reading with
          | .ok db' =>
            some { s with
              db := db'
              workers := workers
              leases := s.leases ++
                markLease (.worker w) config.owner reading m.status (s.db.record record.recordId) }
          | .error _ => some { s with workers := workers }
        | _ => some { s with workers := workers }
      else none
    | _ => none
  | .reconcilerStops w =>
    match s.workers[w]? with
    | some ⟨config, _⟩ => some { s with workers := s.workers.set w ⟨config, none⟩ }
    | none => none
  | .release recordId owner reading =>
    if reading ≤ s.clock then
      match s.db.releaseReconciliationRecord recordId owner reading with
      | .ok (released, db') =>
        some { s with db := db', leases := s.leases ++ (released.map fun r => .cleared r.recordId).toList }
      | .error _ => some s
    else none
  | .control c reading =>
    if reading ≤ s.clock then
      match s.db.applyReconciliationControlAction c reading with
      | .ok (_, db') => some { s with db := db', leases := s.leases ++ controlLease c reading (s.db.record c.recordId) }
      | .error _ => some s
    else none

/-- The system, from empty tables. -/
def machine : Transition.Machine System Event where
  start := {}
  next := System.next hash

variable {hash} {s s' : System}

/-- An event of a call is a step of it. -/
theorem System.next_engine {i : Nat} {input : EngineInput} (h : (machine hash).next s (.engine i input) = some s') :
    ∃ p db' phase', s.processes[i]? = some p ∧
      engineNext hash s.db s.processes p.call p.phase input = some (db', phase') ∧
      s' = { s with
        db := db'
        processes := s.processes.set i ⟨p.call, phase'⟩
        providerCalls := logCall s.providerCalls p.call.request.replayKey phase'
        leases := s.leases ++ engineLease p.phase phase' } := by
  simp only [machine, System.next] at h
  split at h
  · cases h
  rename_i p hp
  split at h
  · obtain ⟨⟨db', phase'⟩, hstep, rfl⟩ := Option.map_eq_some_iff.mp h
    exact ⟨p, db', phase', hp, hstep, rfl⟩
  · cases h

end Engine

end HostedFacilitator.Postgres
