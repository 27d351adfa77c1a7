import HostedFacilitator.Lib.Transaction
import HostedFacilitator.Reconciliation
import HostedFacilitator.Reconciliation.Scan
import Mathlib.Algebra.Order.Ring.Nat

/-!
# A run of the reconciler

`run_once` over any store, router and providers (`Surroundings`): the scan of three buckets, the turn of every candidate
and the statistics. Of a turn, the provider call and the mark that follows from its answer stand inside a `try`; the claim
and the mark of a record without a provider do not.

* `turn_returns_iff`: a turn raises exactly when its claim does, or the mark of a record without a provider (`Escapes`);
* `turned_turn`, `turned_turns`: what a turn that returns, and what a row of them, does to the statistics;
* `run_accounted_iff`: a run visits every candidate and returns statistics that add up exactly when no turn raises.
-/

namespace HostedFacilitator.Reconciler

open Postgres (Db)
open Transaction

/-- What a run reads of a listed record. -/
structure Candidate where
  recordId : Option Nat
  status : SettlementStatus
  deriving DecidableEq

/-- The calls of `run_once` to the clock, the store, the router and the providers. They work on `σ`, the state of
everything around the reconciler: tables, clocks, what other processes do meanwhile. `reconcile` is
`_reconcile_with_provider`. -/
structure Surroundings (σ : Type) where
  clock : σ → Instant
  listCandidates : (status : SettlementStatus) → (staleBefore : Instant) → (limit : Nat) → Body σ PyErr (List Candidate)
  claimRecord : (recordId : Nat) → (owner : String) → (leaseUntil : Instant) → (eligible : List SettlementStatus) →
    (staleBefore : Instant) → Body σ PyErr (Option SettlementRecord)
  registered : (provider : String) → Bool
  reconcile : SettlementRecord → Body σ PyErr ReconciliationOutcome
  mark : SettlementRecord → Db.Mark → (owner : String) → Body σ PyErr PUnit

structure ReconciliationRunStats where
  scanned : Nat := 0
  claimed : Nat := 0
  settled : Nat := 0
  failed : Nat := 0
  markedUnknown : Nat := 0
  manualReview : Nat := 0
  pending : Nat := 0
  skipped : Nat := 0
  errors : Nat := 0
  deriving DecidableEq

namespace ReconciliationRunStats

/-- The counter that goes up after a mark to `status`. -/
def marked (status : SettlementStatus) (stats : ReconciliationRunStats) : ReconciliationRunStats :=
  match status with
  | .settled => { stats with settled := stats.settled + 1 }
  | .settleFailed => { stats with failed := stats.failed + 1 }
  | .unknown => { stats with markedUnknown := stats.markedUnknown + 1 }
  | .manualReview => { stats with manualReview := stats.manualReview + 1 }
  | _ => stats

end ReconciliationRunStats

/-- What a run does, oldest first: it turns to a candidate, it asks for a lease, it asks for a mark. `before` is what was
around at the call. -/
inductive Call (σ : Type) where
  | visit (candidate : Candidate)
  | claim (candidate : Candidate) (before : σ) (result : Except PyErr (Option SettlementRecord))
  | mark (reply : ProviderReply) (record : SettlementRecord) (m : Db.Mark) (before : σ) (result : Except PyErr PUnit)

namespace Call

variable {σ : Type}

def visited : Call σ → Option Candidate
  | .visit c => some c
  | _ => none

/-- The status that the call moved a record to. -/
def committed : Call σ → Option SettlementStatus
  | .mark _ _ m _ (.ok _) => some m.status
  | _ => none

end Call

/-- A run under way. -/
structure Run (σ : Type) where
  around : σ
  stats : ReconciliationRunStats := {}
  history : List (Call σ) := []

abbrev RunM (σ : Type) := Body (Run σ) PyErr

namespace Run

variable {σ : Type} (run : Run σ)

/-- The candidates that had their turn. -/
def visited : List Candidate := run.history.filterMap Call.visited

/-- The transitions that the run committed. -/
def committed : List SettlementStatus := run.history.filterMap Call.committed

end Run

/-! ## `run_once` -/

section RunOnce

variable {σ : Type}

/-- A call to the surroundings. -/
def call {α : Type} (f : Body σ PyErr α) (log : σ → Except PyErr α → List (Call σ)) : RunM σ α := do
  let run ← get
  set { run with around := (exec f run.around).2, history := run.history ++ log run.around (exec f run.around).1 }
  attempt (exec f run.around).1

/-- `stats.counter += 1`. -/
def tally (f : ReconciliationRunStats → ReconciliationRunStats) : RunM σ PUnit :=
  modify fun run => { run with stats := f run.stats }

variable (env : Surroundings σ) (rec : HostedSettlementReconciler)

/-- `_scan_candidates`. -/
def scanCandidates (limit : Int) (now : Instant) : RunM σ (List Candidate) :=
  if limit ≤ 0 then pure []
  else do
    let inProgress ← call (env.listCandidates .settleInProgress (now - rec.staleInProgressAfter) limit.toNat) fun _ _ => []
    let submitted ← call (env.listCandidates .submitted (now - rec.staleSubmittedAfter) limit.toNat) fun _ _ => []
    let unknown ← call (env.listCandidates .unknown (now - rec.staleUnknownAfter) limit.toNat) fun _ _ => []
    pure (scanRounds limit.toNat [inProgress, submitted, unknown] (List.range limit.toNat) [])

/-- `_claim`. -/
def claim (candidate : Candidate) (now : Instant) : RunM σ (Option SettlementRecord) :=
  match candidate.recordId with
  | none => pure none
  | some recordId =>
    call (env.claimRecord recordId rec.owner (rec.leaseUntil now) [candidate.status]
      (rec.staleBeforeForStatus candidate.status now)) fun before result => [.claim candidate before result]

/-- A mark and its counter, or what stands in its place. -/
def carryOut (reply : ProviderReply) (record : SettlementRecord) : Decision → RunM σ PUnit
  | .mark m => do
    call (env.mark record m rec.owner) fun before result => [.mark reply record m before result]
    tally (ReconciliationRunStats.marked m.status)
  | .pending => tally fun stats => { stats with pending := stats.pending + 1 }
  | .raises e => throw e

/-- `stats.errors += 1`. -/
def countError : RunM σ PUnit := tally fun stats => { stats with errors := stats.errors + 1 }

/-- `except Exception: stats.errors += 1`. -/
def guarded (body : RunM σ PUnit) : RunM σ PUnit := tryCatch body fun _ => countError

/-- The provider is asked, and its answer carried out. -/
def ask (record : SettlementRecord) (now : Instant) : RunM σ PUnit := do
  let answer ← call (caught (env.reconcile record)) fun _ _ => []
  match answer with
  | .error _ => do
    countError
    if record.status = .settleInProgress then
      guarded (carryOut env rec .raised record
        (HostedSettlementReconciler.markUnknown record (some "provider_reconciliation_exception")))
  | .ok outcome => guarded (carryOut env rec (.returned outcome) record (rec.applyOutcome record outcome now))

/-- What becomes of a claimed record. -/
def handle (record : SettlementRecord) (now : Instant) : RunM σ PUnit := do
  tally fun stats => { stats with claimed := stats.claimed + 1 }
  if env.registered record.provider then ask env rec record now
  else
    carryOut env rec .notRegistered record
      (rec.markManualOrPending record now (some "reconciliation_provider_not_registered"))

/-- One round of the loop. -/
def turn (now : Instant) (candidate : Candidate) : RunM σ PUnit := do
  modify fun run => { run with history := run.history ++ [.visit candidate] }
  match ← claim env rec candidate now with
  | none => tally fun stats => { stats with skipped := stats.skipped + 1 }
  | some record => handle env rec record now

/-- `run_once`, from its clock reading on. -/
def runOnce (limit : Int) : RunM σ ReconciliationRunStats := do
  let start ← get
  let now := env.clock start.around
  set { start with stats := {} }
  let candidates ← scanCandidates env rec limit now
  tally fun stats => { stats with scanned := candidates.length }
  candidates.forM (turn env rec now)
  return (← get).stats

end RunOnce

/-! ## What a turn does -/

section Turn

variable {σ : Type} {env : Surroundings σ} {rec : HostedSettlementReconciler} {run : Run σ} {now : Instant}
  {candidate : Candidate} {record : SettlementRecord}

@[simp] theorem exec_call {α : Type} (f : Body σ PyErr α) (log : σ → Except PyErr α → List (Call σ)) (run : Run σ) :
    exec (call f log) run = ((exec f run.around).1,
      { run with around := (exec f run.around).2, history := run.history ++ log run.around (exec f run.around).1 }) := by
  simp only [call, exec_bind, exec_get, exec_set, exec_attempt]

@[simp] theorem exec_tally (f : ReconciliationRunStats → ReconciliationRunStats) (run : Run σ) :
    exec (tally f) run = (.ok ⟨⟩, { run with stats := f run.stats }) := rfl

/-- What stands inside a `try` does not raise. -/
theorem guarded_returns (body : RunM σ PUnit) (run : Run σ) : (exec (guarded body) run).1 = .ok ⟨⟩ := by
  rw [guarded, exec_tryCatch]
  split
  · rfl
  · rfl

theorem ask_returns : (exec (ask env rec record now) run).1 = .ok ⟨⟩ := by
  rw [ask, exec_bind, exec_call, exec_caught]
  simp only
  split
  · rw [exec_bind, countError, exec_tally]
    simp only
    split
    · exact guarded_returns _ _
    · rfl
  · exact guarded_returns _ _

theorem markManualOrPending_ne_raises {reason : Option String} {e : PyErr} :
    rec.markManualOrPending record now reason ≠ .raises e := by
  unfold HostedSettlementReconciler.markManualOrPending HostedSettlementReconciler.markUnknown
  split
  · simp
  · split
    · simp
    · simp

variable (env rec) in
/-- The turn raises: its claim does, or the mark of a claimed record whose provider is not registered. -/
def Escapes (now : Instant) (candidate : Candidate) (s : σ) : Prop :=
  ∃ recordId, candidate.recordId = some recordId ∧
    let claimed := exec (env.claimRecord recordId rec.owner (rec.leaseUntil now) [candidate.status]
      (rec.staleBeforeForStatus candidate.status now)) s
    (∃ e, claimed.1 = .error e) ∨
      ∃ record m e, claimed.1 = .ok (some record) ∧ env.registered record.provider = false ∧
        rec.markManualOrPending record now (some "reconciliation_provider_not_registered") = .mark m ∧
        (exec (env.mark record m rec.owner) claimed.2).1 = .error e

/-- The mark of a decision, and its counter when it returns. -/
theorem exec_carryOut_mark (reply : ProviderReply) (m : Db.Mark) :
    exec (carryOut env rec reply record (.mark m)) run =
      let result := exec (env.mark record m rec.owner) run.around
      (result.1, { around := result.2, history := run.history ++ [.mark reply record m run.around result.1],
                   stats := if result.1.isOk then run.stats.marked m.status else run.stats }) := by
  rw [carryOut, exec_bind, exec_call]
  cases h : (exec (env.mark record m rec.owner) run.around).1 with
  | ok u => simp only [h]; rfl
  | error e => simp only [h]; rfl

theorem handle_returns_iff : (exec (handle env rec record now) run).1 = .ok ⟨⟩ ↔
    ¬ ∃ m e, env.registered record.provider = false ∧
      rec.markManualOrPending record now (some "reconciliation_provider_not_registered") = .mark m ∧
      (exec (env.mark record m rec.owner) run.around).1 = .error e := by
  rw [handle, exec_bind, exec_tally]
  simp only
  cases hreg : env.registered record.provider with
  | true => simp [ask_returns]
  | false =>
    simp only [Bool.false_eq_true, if_false, true_and]
    cases hd : rec.markManualOrPending record now (some "reconciliation_provider_not_registered") with
    | raises e => exact absurd hd markManualOrPending_ne_raises
    | pending => simp [carryOut]
    | mark m =>
      rw [exec_carryOut_mark]
      cases hm : (exec (env.mark record m rec.owner) run.around).1 with
      | ok u => simp [hm]
      | error e => simp [hm]

/-- The run after the claim of a candidate. -/
def Run.afterClaim (run : Run σ) (candidate : Candidate) (claimed : Except PyErr (Option SettlementRecord) × σ) : Run σ :=
  { run with
    around := claimed.2
    history := run.history ++ [.visit candidate] ++ [.claim candidate run.around claimed.1] }

variable (env rec run now candidate) in
/-- A turn: the candidate has no id, the claim raises, it comes back empty, or there is a record to handle. -/
theorem turn_cases :
    (candidate.recordId = none ∧ exec (turn env rec now candidate) run =
      (.ok ⟨⟩, { run with history := run.history ++ [.visit candidate]
                          stats := { run.stats with skipped := run.stats.skipped + 1 } })) ∨
    ∃ recordId, candidate.recordId = some recordId ∧
      let claimed := exec (env.claimRecord recordId rec.owner (rec.leaseUntil now) [candidate.status]
        (rec.staleBeforeForStatus candidate.status now)) run.around
      (∃ e, claimed.1 = .error e ∧ exec (turn env rec now candidate) run = (.error e, run.afterClaim candidate claimed)) ∨
      (claimed.1 = .ok none ∧ exec (turn env rec now candidate) run =
        (.ok ⟨⟩, { run.afterClaim candidate claimed with
          stats := { run.stats with skipped := run.stats.skipped + 1 } })) ∨
      ∃ record, claimed.1 = .ok (some record) ∧ exec (turn env rec now candidate) run =
        exec (handle env rec record now) (run.afterClaim candidate claimed) := by
  rw [turn, exec_bind, exec_modify]
  simp only
  rw [exec_bind, claim]
  cases hid : candidate.recordId with
  | none => exact Or.inl ⟨rfl, rfl⟩
  | some recordId =>
    refine Or.inr ⟨recordId, rfl, ?_⟩
    simp only [exec_call, Run.afterClaim]
    cases hc : (exec (env.claimRecord recordId rec.owner (rec.leaseUntil now) [candidate.status]
        (rec.staleBeforeForStatus candidate.status now)) run.around).1 with
    | error e => exact Or.inl ⟨e, rfl, rfl⟩
    | ok claimed =>
      cases claimed with
      | none => exact Or.inr (Or.inl ⟨rfl, rfl⟩)
      | some record => exact Or.inr (Or.inr ⟨record, rfl, rfl⟩)

/-- A turn raises exactly when it escapes. -/
theorem turn_returns_iff :
    (exec (turn env rec now candidate) run).1 = .ok ⟨⟩ ↔ ¬ Escapes env rec now candidate run.around := by
  rcases turn_cases env rec run now candidate with ⟨hid, hturn⟩ | ⟨recordId, hid, hcases⟩
  · rw [hturn]
    simp [Escapes, hid]
  · rcases hcases with ⟨e, hc, hturn⟩ | ⟨hc, hturn⟩ | ⟨record, hc, hturn⟩
    · rw [hturn]
      simp [Escapes, hid, hc]
    · rw [hturn]
      simp [Escapes, hid, hc]
    · rw [hturn, handle_returns_iff]
      simp [Escapes, hid, hc, Run.afterClaim]

end Turn

/-! ## Statistics -/

/-- The counters of the four marks are the numbers of transitions committed. -/
structure ReconciliationRunStats.Balances (stats : ReconciliationRunStats) (committed : List SettlementStatus) :
    Prop where
  settled : stats.settled = committed.count .settled
  failed : stats.failed = committed.count .settleFailed
  markedUnknown : stats.markedUnknown = committed.count .unknown
  manualReview : stats.manualReview = committed.count .manualReview

/-- A transition is counted once, under its status. -/
theorem ReconciliationRunStats.Balances.marked {stats : ReconciliationRunStats} {committed : List SettlementStatus}
    (h : stats.Balances committed) (status : SettlementStatus) :
    (stats.marked status).Balances (committed ++ [status]) := by
  constructor
  · cases status <;> simp [ReconciliationRunStats.marked, h.settled]
  · cases status <;> simp [ReconciliationRunStats.marked, h.failed]
  · cases status <;> simp [ReconciliationRunStats.marked, h.markedUnknown]
  · cases status <;> simp [ReconciliationRunStats.marked, h.manualReview]

/-- What the handling of a claimed record does to the statistics: the counters of the marks stay right, those of the
turns do not move. -/
structure Run.Follows {σ : Type} (run run' : Run σ) : Prop where
  balances : run.stats.Balances run.committed → run'.stats.Balances run'.committed
  scanned : run'.stats.scanned = run.stats.scanned
  claimed : run'.stats.claimed = run.stats.claimed
  skipped : run'.stats.skipped = run.stats.skipped
  visited : run'.visited = run.visited

namespace Run.Follows

variable {σ : Type}

theorem refl (run : Run σ) : Run.Follows run run := ⟨id, rfl, rfl, rfl, rfl⟩

theorem trans (run run' run'' : Run σ) (h : Run.Follows run run') (h' : Run.Follows run' run'') :
    Run.Follows run run'' where
  balances := h'.balances ∘ h.balances
  scanned := h'.scanned.trans h.scanned
  claimed := h'.claimed.trans h.claimed
  skipped := h'.skipped.trans h.skipped
  visited := h'.visited.trans h.visited

end Run.Follows

section Statistics

variable {σ : Type} {env : Surroundings σ} {rec : HostedSettlementReconciler} {run : Run σ} {now : Instant}
  {candidate : Candidate} {record : SettlementRecord}

/-- A counter that belongs to no mark and no turn. -/
theorem follows_tally {f : ReconciliationRunStats → ReconciliationRunStats}
    (hf : ∀ stats, ∃ pending errors, f stats = { stats with pending := pending, errors := errors }) :
    Always Run.Follows (tally f : RunM σ PUnit) := by
  intro run
  obtain ⟨pending, errors, hstats⟩ := hf run.stats
  rw [exec_tally, hstats]
  exact ⟨fun h => ⟨h.settled, h.failed, h.markedUnknown, h.manualReview⟩, rfl, rfl, rfl, rfl⟩

theorem follows_countError : Always Run.Follows (countError : RunM σ PUnit) :=
  follows_tally fun stats => ⟨stats.pending, stats.errors + 1, rfl⟩

theorem follows_carryOut (reply : ProviderReply) (decision : Decision) :
    Always Run.Follows (carryOut env rec reply record decision) := by
  cases decision with
  | mark m =>
    intro run
    rw [exec_carryOut_mark]
    refine ⟨fun h => ?_, ?_, ?_, ?_, ?_⟩
    · cases hm : (exec (env.mark record m rec.owner) run.around).1 with
      | ok u =>
        simp only [hm, Run.committed, List.filterMap_append]
        exact h.marked m.status
      | error e =>
        simp only [hm, Run.committed, List.filterMap_append]
        exact (List.append_nil run.committed).symm ▸ h
    · simp only
      split
      · cases m.status <;> rfl
      · rfl
    · simp only
      split
      · cases m.status <;> rfl
      · rfl
    · simp only
      split
      · cases m.status <;> rfl
      · rfl
    · simp only [Run.visited, List.filterMap_append]
      exact List.append_nil _
  | pending => exact follows_tally fun stats => ⟨stats.pending + 1, stats.errors, rfl⟩
  | raises e => exact Always.throw Run.Follows.refl e

theorem follows_guarded {body : RunM σ PUnit} (h : Always Run.Follows body) : Always Run.Follows (guarded body) :=
  Always.tryCatch Run.Follows.trans h fun _ => follows_countError

theorem follows_ask : Always Run.Follows (ask env rec record now) := by
  refine Always.bind Run.Follows.trans (fun run => ?_) fun answer => ?_
  · rw [exec_call]
    refine ⟨fun h => ?_, rfl, rfl, rfl, ?_⟩
    · rw [Run.committed, List.append_nil]
      exact h
    · rw [Run.visited, List.append_nil]
      rfl
  · cases answer with
    | error e =>
      refine Always.bind Run.Follows.trans follows_countError fun _ => ?_
      split
      · exact follows_guarded (follows_carryOut _ _)
      · exact Always.pure Run.Follows.refl _
    | ok outcome => exact follows_guarded (follows_carryOut _ _)

variable (env rec record now) in
/-- A claimed record is counted before it is handled. -/
theorem follows_handle (run : Run σ) :
    Run.Follows { run with stats := { run.stats with claimed := run.stats.claimed + 1 } }
      (exec (handle env rec record now) run).2 := by
  rw [handle, exec_bind, exec_tally]
  simp only
  split
  · exact follows_ask _
  · exact follows_carryOut _ _ _

/-- What a turn that returns does to the statistics. -/
structure Run.Turned (candidates : List Candidate) (run run' : Run σ) : Prop where
  balances : run.stats.Balances run.committed → run'.stats.Balances run'.committed
  scanned : run'.stats.scanned = run.stats.scanned
  counted : run'.stats.claimed + run'.stats.skipped = run.stats.claimed + run.stats.skipped + candidates.length
  visited : run'.visited = run.visited ++ candidates

theorem turned_turn (h : (exec (turn env rec now candidate) run).1 = .ok ⟨⟩) :
    Run.Turned [candidate] run (exec (turn env rec now candidate) run).2 := by
  rcases turn_cases env rec run now candidate with ⟨hid, hturn⟩ | ⟨recordId, hid, hcases⟩
  · rw [hturn]
    refine ⟨fun hb => ?_, rfl, by simp only [List.length_singleton]; omega, ?_⟩
    · simp only [Run.committed, List.filterMap_append]
      exact (List.append_nil run.committed).symm ▸ ⟨hb.settled, hb.failed, hb.markedUnknown, hb.manualReview⟩
    · simp only [Run.visited, List.filterMap_append]
      rfl
  · -- what the claim leaves in the history commits nothing
    have hcommitted : ∀ claimed, (run.afterClaim candidate claimed).committed = run.committed := fun claimed => by
      simp [Run.afterClaim, Run.committed, Call.committed]
    have hvisited : ∀ claimed, (run.afterClaim candidate claimed).visited = run.visited ++ [candidate] := fun claimed => by
      simp [Run.afterClaim, Run.visited, Call.visited]
    rcases hcases with ⟨e, hc, hturn⟩ | ⟨hc, hturn⟩ | ⟨record, hc, hturn⟩
    · rw [hturn] at h
      cases h
    · rw [hturn]
      refine ⟨fun hb => ?_, rfl, by simp only [List.length_singleton]; omega, hvisited _⟩
      exact hcommitted _ ▸ ⟨hb.settled, hb.failed, hb.markedUnknown, hb.manualReview⟩
    · rw [hturn]
      have hf := follows_handle env rec now record (run.afterClaim candidate
        (exec (env.claimRecord recordId rec.owner (rec.leaseUntil now) [candidate.status]
          (rec.staleBeforeForStatus candidate.status now)) run.around))
      refine ⟨fun hb => hf.balances ?_, hf.scanned, ?_, hf.visited.trans (hvisited _)⟩
      · exact hcommitted _ ▸ ⟨hb.settled, hb.failed, hb.markedUnknown, hb.manualReview⟩
      · rw [hf.claimed, hf.skipped, List.length_singleton]
        simp only [Run.afterClaim]
        omega

end Statistics

/-! ## The run -/

section WholeRun

variable {σ : Type} {env : Surroundings σ} {rec : HostedSettlementReconciler} {run : Run σ} {now : Instant}
  {candidates : List Candidate}

variable (env rec now) in
/-- No turn of the run raises. -/
def Contained : List Candidate → Run σ → Prop
  | [], _ => True
  | candidate :: candidates, run =>
    ¬ Escapes env rec now candidate run.around ∧ Contained candidates (exec (turn env rec now candidate) run).2

/-- The loop runs to its end exactly when no turn raises. -/
theorem turns_return_iff : (exec (candidates.forM (turn env rec now)) run).1 = .ok ⟨⟩ ↔
    Contained env rec now candidates run := by
  induction candidates generalizing run with
  | nil => exact iff_of_true rfl trivial
  | cons candidate candidates ih =>
    rw [exec_forM_cons, Contained, ← turn_returns_iff]
    cases hturn : exec (turn env rec now candidate) run with
    | mk result run' =>
      cases result with
      | error e => simp
      | ok u => simpa using ih

theorem turned_turns (h : (exec (candidates.forM (turn env rec now)) run).1 = .ok ⟨⟩) :
    Run.Turned candidates run (exec (candidates.forM (turn env rec now)) run).2 := by
  induction candidates generalizing run with
  | nil => exact ⟨id, rfl, rfl, (List.append_nil _).symm⟩
  | cons candidate candidates ih =>
    rw [exec_forM_cons] at h ⊢
    have hfirst : (exec (turn env rec now candidate) run).1 = .ok ⟨⟩ →
        Run.Turned [candidate] run (exec (turn env rec now candidate) run).2 := turned_turn
    cases hturn : exec (turn env rec now candidate) run with
    | mk result run' =>
      rw [hturn] at h hfirst
      cases result with
      | error e => cases h
      | ok u =>
        have hf := hfirst rfl
        have hr := ih h
        refine ⟨hr.balances ∘ hf.balances, hr.scanned.trans hf.scanned, ?_, ?_⟩
        · rw [hr.counted, hf.counted]
          simp only [List.length_cons, List.length_nil]
          omega
        · rw [hr.visited, hf.visited, List.append_assoc]
          rfl

/-- The run gave every candidate its turn and returned statistics that say what it did. -/
structure Accounted (candidates : List Candidate) (stats : ReconciliationRunStats) (run : Run σ) : Prop where
  visited : run.visited = candidates
  scanned : stats.scanned = stats.claimed + stats.skipped
  balances : stats.Balances run.committed

theorem exec_listing {α : Type} (f : Body σ PyErr α) (run : Run σ) :
    exec (call f fun _ _ => []) run = ((exec f run.around).1, { run with around := (exec f run.around).2 }) := by
  rw [exec_call, List.append_nil]

variable (env rec now) in
/-- The scan touches neither the statistics nor the history. -/
theorem scanCandidates_keeps (limit : Int) :
    Always (fun run run' : Run σ => run'.stats = run.stats ∧ run'.history = run.history)
      (scanCandidates env rec limit now) := by
  have htrans : ∀ s t u : Run σ, (t.stats = s.stats ∧ t.history = s.history) →
      (u.stats = t.stats ∧ u.history = t.history) → u.stats = s.stats ∧ u.history = s.history :=
    fun s t u h h' => ⟨h'.1.trans h.1, h'.2.trans h.2⟩
  have hcall : ∀ f : Body σ PyErr (List Candidate),
      Always (fun run run' : Run σ => run'.stats = run.stats ∧ run'.history = run.history) (call f fun _ _ => []) := by
    intro f run
    rw [exec_listing]
    exact ⟨rfl, rfl⟩
  unfold scanCandidates
  split
  · exact Always.pure (fun _ => ⟨rfl, rfl⟩) _
  · exact Always.bind htrans (hcall _) fun _ => Always.bind htrans (hcall _) fun _ =>
      Always.bind htrans (hcall _) fun _ => Always.pure (fun _ => ⟨rfl, rfl⟩) _

/-- A run whose scan found `candidates`: the loop over them, from the state that the scan left. -/
theorem exec_runOnce {limit : Int} {s : σ} {scanned : Run σ}
    (hscan : exec (scanCandidates env rec limit (env.clock s)) { around := s } = (.ok candidates, scanned)) :
    exec (runOnce env rec limit) { around := s } =
      let result := exec (candidates.forM (turn env rec (env.clock s)))
        { scanned with stats := { scanned.stats with scanned := candidates.length } }
      (result.1.map fun _ => result.2.stats, result.2) := by
  rw [runOnce, exec_bind, exec_get]
  simp only [exec_bind, exec_set, hscan, exec_tally]
  cases h : exec (candidates.forM (turn env rec (env.clock s)))
      { scanned with stats := { scanned.stats with scanned := candidates.length } } with
  | mk result run' =>
    cases result with
    | error e => rfl
    | ok u => rfl

/-- **Fault isolation.** A run returns after a turn for every candidate, with statistics that add up, exactly when no
claim raises and no mark of a record without a provider does. -/
theorem run_accounted_iff {limit : Int} {s : σ} {scanned : Run σ}
    (hscan : exec (scanCandidates env rec limit (env.clock s)) { around := s } = (.ok candidates, scanned)) :
    (∃ stats, (exec (runOnce env rec limit) { around := s }).1 = .ok stats ∧
      Accounted candidates stats (exec (runOnce env rec limit) { around := s }).2) ↔
    Contained env rec (env.clock s) candidates
      { scanned with stats := { scanned.stats with scanned := candidates.length } } := by
  rw [exec_runOnce hscan, ← turns_return_iff]
  simp only
  constructor
  · rintro ⟨stats, hstats, -⟩
    cases hr : (exec (candidates.forM (turn env rec (env.clock s)))
        { scanned with stats := { scanned.stats with scanned := candidates.length } }).1 with
    | error e => rw [hr] at hstats; cases hstats
    | ok u => rfl
  · intro hr
    have ht := turned_turns hr
    have hkeeps := scanCandidates_keeps env rec (env.clock s) limit { around := s }
    rw [hscan] at hkeeps
    have hstats : scanned.stats = {} := hkeeps.1
    have hhistory : scanned.history = [] := hkeeps.2
    refine ⟨_, by rw [hr]; rfl, ?_, ?_, ht.balances ?_⟩
    · rw [ht.visited, Run.visited, hhistory]
      rfl
    · rw [ht.counted, ht.scanned]
      simp [hstats]
    · rw [Run.committed, hhistory, hstats]
      exact ⟨rfl, rfl, rfl, rfl⟩

/-! ## The calls of a run -/

variable (env rec now) in
/-- The calls that a run makes: a turn, a claim of its candidate, and the mark that the reconciler decides on for a record
that it has claimed. The result is that of the call. -/
inductive Genuine (candidates : List Candidate) : Call σ → Prop
  | visit {c : Candidate} (hc : c ∈ candidates) : Genuine candidates (.visit c)
  | claim {c : Candidate} {recordId : Nat} (hc : c ∈ candidates) (hid : c.recordId = some recordId) (before : σ) :
      Genuine candidates (.claim c before (exec (env.claimRecord recordId rec.owner (rec.leaseUntil now) [c.status]
        (rec.staleBeforeForStatus c.status now)) before).1)
  | mark {c : Candidate} {recordId : Nat} {earlier : σ} {record : SettlementRecord} {reply : ProviderReply} {m : Db.Mark}
      (hc : c ∈ candidates) (hid : c.recordId = some recordId)
      (hclaimed : (exec (env.claimRecord recordId rec.owner (rec.leaseUntil now) [c.status]
        (rec.staleBeforeForStatus c.status now)) earlier).1 = .ok (some record))
      (hm : rec.handleClaimed record now reply = .mark m) (before : σ) :
      Genuine candidates (.mark reply record m before (exec (env.mark record m rec.owner) before).1)

/-- The history grows by calls that satisfy `P`. -/
def Run.Grows (P : Call σ → Prop) (run run' : Run σ) : Prop :=
  ∃ calls, run'.history = run.history ++ calls ∧ ∀ call ∈ calls, P call

theorem Run.Grows.refl {P : Call σ → Prop} (run : Run σ) : Run.Grows P run run :=
  ⟨[], (List.append_nil _).symm, fun _ h => absurd h List.not_mem_nil⟩

theorem Run.Grows.trans {P : Call σ → Prop} (run run' run'' : Run σ) (h : Run.Grows P run run')
    (h' : Run.Grows P run' run'') : Run.Grows P run run'' := by
  obtain ⟨calls, hcalls, hP⟩ := h
  obtain ⟨calls', hcalls', hP'⟩ := h'
  refine ⟨calls ++ calls', by rw [hcalls', hcalls, List.append_assoc], fun call hcall => ?_⟩
  exact (List.mem_append.mp hcall).elim (hP call) (hP' call)

theorem grows_call {P : Call σ → Prop} {α : Type} {f : Body σ PyErr α} {log : σ → Except PyErr α → List (Call σ)}
    (h : ∀ s, ∀ call ∈ log s (exec f s).1, P call) : Always (Run.Grows P) (call f log) := by
  intro run
  rw [exec_call]
  exact ⟨_, rfl, h run.around⟩

theorem grows_tally {P : Call σ → Prop} (f : ReconciliationRunStats → ReconciliationRunStats) :
    Always (Run.Grows P) (tally f : RunM σ PUnit) := by
  intro run
  rw [exec_tally]
  exact ⟨[], (List.append_nil _).symm, fun _ h => absurd h List.not_mem_nil⟩

theorem grows_guarded {P : Call σ → Prop} {body : RunM σ PUnit} (h : Always (Run.Grows P) body) :
    Always (Run.Grows P) (guarded body) :=
  Always.tryCatch Run.Grows.trans h fun _ => grows_tally _

section Grows

variable {P : Call σ → Prop} {record : SettlementRecord}
  (hP : ∀ reply m before, rec.handleClaimed record now reply = .mark m →
    P (.mark reply record m before (exec (env.mark record m rec.owner) before).1))

include hP

theorem grows_carryOut {reply : ProviderReply} {decision : Decision}
    (hd : ∀ m, decision = .mark m → rec.handleClaimed record now reply = .mark m) :
    Always (Run.Grows P) (carryOut env rec reply record decision) := by
  cases decision with
  | mark m =>
    refine Always.bind Run.Grows.trans (grows_call fun s call hcall => ?_) fun _ => grows_tally _
    rw [List.mem_singleton.mp hcall]
    exact hP reply m s (hd m rfl)
  | pending => exact grows_tally _
  | raises e => exact Always.throw Run.Grows.refl e

theorem grows_handle : Always (Run.Grows P) (handle env rec record now) := by
  refine Always.bind Run.Grows.trans (grows_tally _) fun _ => ?_
  split
  · refine Always.bind Run.Grows.trans (grows_call fun s call hcall => absurd hcall List.not_mem_nil) fun answer => ?_
    cases answer with
    | error e =>
      refine Always.bind Run.Grows.trans (grows_tally _) fun _ => ?_
      split
      · rename_i hst
        refine grows_guarded (grows_carryOut hP fun m hm => ?_)
        simpa [HostedSettlementReconciler.handleClaimed, hst] using hm
      · exact Always.pure Run.Grows.refl _
    | ok outcome => exact grows_guarded (grows_carryOut hP fun m hm => hm)
  · exact grows_carryOut hP fun m hm => hm

end Grows

/-- Every call of a turn is genuine. -/
theorem genuine_turn {candidate : Candidate} (hc : candidate ∈ candidates) :
    Always (Run.Grows (Genuine env rec now candidates)) (turn env rec now candidate) := by
  intro run
  have hvisit : Genuine env rec now candidates (.visit candidate) := .visit hc
  rcases turn_cases env rec run now candidate with ⟨hid, hturn⟩ | ⟨recordId, hid, hcases⟩
  · rw [hturn]
    exact ⟨[.visit candidate], rfl, fun call hcall => List.mem_singleton.mp hcall ▸ hvisit⟩
  · have hafter : Run.Grows (Genuine env rec now candidates) run (run.afterClaim candidate
        (exec (env.claimRecord recordId rec.owner (rec.leaseUntil now) [candidate.status]
          (rec.staleBeforeForStatus candidate.status now)) run.around)) := by
      refine ⟨_, List.append_assoc _ _ _, fun call hcall => ?_⟩
      rcases List.mem_append.mp hcall with hcall | hcall
      · exact List.mem_singleton.mp hcall ▸ hvisit
      · exact List.mem_singleton.mp hcall ▸ .claim hc hid run.around
    rcases hcases with ⟨e, hcl, hturn⟩ | ⟨hcl, hturn⟩ | ⟨record, hcl, hturn⟩
    · rw [hturn]
      exact hafter
    · rw [hturn]
      exact hafter
    · rw [hturn]
      exact hafter.trans _ _ _ (grows_handle (fun reply m before hm => .mark hc hid hcl hm before) _)

/-- Every call of a run is genuine. -/
theorem genuine_run {limit : Int} {s : σ} {scanned : Run σ}
    (hscan : exec (scanCandidates env rec limit (env.clock s)) { around := s } = (.ok candidates, scanned))
    {call : Call σ} (hcall : call ∈ (exec (runOnce env rec limit) { around := s }).2.history) :
    Genuine env rec (env.clock s) candidates call := by
  have hkeeps := scanCandidates_keeps env rec (env.clock s) limit { around := s }
  rw [hscan] at hkeeps
  have hhistory : scanned.history = [] := hkeeps.2
  have hgrows : Always (Run.Grows (Genuine env rec (env.clock s) candidates))
      (candidates.forM (turn env rec (env.clock s))) :=
    Always.forM Run.Grows.refl Run.Grows.trans fun c hc => genuine_turn hc
  rw [exec_runOnce hscan] at hcall
  obtain ⟨calls, hcalls, hgenuine⟩ := hgrows
    { scanned with stats := { scanned.stats with scanned := candidates.length } }
  rw [hcalls, hhistory, List.nil_append] at hcall
  exact hgenuine call hcall

/-! ## Where the candidates come from -/

/-- A candidate was listed by the store under one of the three statuses that are scanned. -/
theorem listed_of_scanned {limit : Int} {run scanned : Run σ}
    (hscan : exec (scanCandidates env rec limit now) run = (.ok candidates, scanned)) {c : Candidate}
    (hc : c ∈ candidates) : ∃ status staleBefore s listed,
      status ∈ [SettlementStatus.settleInProgress, .submitted, .unknown] ∧
      (exec (env.listCandidates status staleBefore limit.toNat) s).1 = .ok listed ∧ c ∈ listed := by
  unfold scanCandidates at hscan
  split at hscan
  · cases hscan
    cases hc
  obtain ⟨inProgress, s₁, h₁, hscan⟩ := bind_eq_ok.mp hscan
  obtain ⟨submitted, s₂, h₂, hscan⟩ := bind_eq_ok.mp hscan
  obtain ⟨unknown, s₃, h₃, hscan⟩ := bind_eq_ok.mp hscan
  rw [exec_call] at h₁ h₂ h₃
  cases hscan
  obtain ⟨bucket, hbucket, hmem⟩ := mem_scanRounds (by omega) hc
  simp only [List.mem_cons, List.not_mem_nil, or_false] at hbucket
  rcases hbucket with rfl | rfl | rfl
  · exact ⟨.settleInProgress, _, _, _, by simp, congrArg Prod.fst h₁, hmem⟩
  · exact ⟨.submitted, _, _, _, by simp, congrArg Prod.fst h₂, hmem⟩
  · exact ⟨.unknown, _, _, _, by simp, congrArg Prod.fst h₃, hmem⟩

/-! ## The scan is fair -/

/-- The statuses that are scanned, in the order of the buckets. -/
def scannedStatuses : List SettlementStatus := [.settleInProgress, .submitted, .unknown]

/-- The scan takes as many as it may, the first of every list, and from none of them two more than from one that has more
to give. -/
structure FairScan (limit : Int) (lists : SettlementStatus → List Candidate) (candidates : List Candidate) : Prop where
  nodup : candidates.Nodup
  length : (candidates.length : Int) = min (max limit 0) ((scannedStatuses.map fun s => (lists s).length).sum : Nat)
  first : ∀ s ∈ scannedStatuses, candidates.filter (·.status = s) <+: lists s
  balanced : ∀ s ∈ scannedStatuses, ∀ t ∈ scannedStatuses,
    (candidates.filter (·.status = s)).length < (lists s).length →
      (candidates.filter (·.status = t)).length ≤ (candidates.filter (·.status = s)).length + 1

variable (env rec now) in
/-- The store answers the three listings of a scan with these lists. -/
def Lists (limit : Int) (s : σ) (lists : SettlementStatus → List Candidate) : Prop := ∃ s₁ s₂ s₃,
  exec (env.listCandidates .settleInProgress (now - rec.staleInProgressAfter) limit.toNat) s =
      (.ok (lists .settleInProgress), s₁) ∧
    exec (env.listCandidates .submitted (now - rec.staleSubmittedAfter) limit.toNat) s₁ =
      (.ok (lists .submitted), s₂) ∧
    exec (env.listCandidates .unknown (now - rec.staleUnknownAfter) limit.toNat) s₂ = (.ok (lists .unknown), s₃)

theorem exec_scanCandidates {limit : Int} {run : Run σ} {lists : SettlementStatus → List Candidate} (hlimit : 0 < limit)
    (h : Lists env rec now limit run.around lists) : (exec (scanCandidates env rec limit now) run).1 =
      .ok (scanRounds limit.toNat (scannedStatuses.map lists) (List.range limit.toNat) []) := by
  obtain ⟨s₁, s₂, s₃, h₁, h₂, h₃⟩ := h
  rw [scanCandidates, if_neg (by omega)]
  simp only [exec_bind, exec_listing, h₁, h₂, h₃]
  rfl

/-- A status tells the records of its list from the others. -/
theorem picks_status {lists : SettlementStatus → List Candidate}
    (hstatus : ∀ s ∈ scannedStatuses, ∀ c ∈ lists s, c.status = s) {s : SettlementStatus} (hs : s ∈ scannedStatuses) :
    RoundRobin.Picks (fun c : Candidate => decide (c.status = s)) (lists s) (scannedStatuses.map lists) := by
  refine ⟨?_, fun c hc => decide_eq_true (hstatus s hs c hc)⟩
  have hothers : ∀ t ∈ scannedStatuses, t ≠ s → ∀ c ∈ lists t, decide (c.status = s) = false := by
    intro t ht hne c hc
    rw [hstatus t ht c hc]
    exact decide_eq_false hne
  simp only [scannedStatuses, List.mem_cons, List.not_mem_nil, or_false] at hs
  rcases hs with rfl | rfl | rfl
  · refine ⟨[], [lists .submitted, lists .unknown], rfl, fun l hl => ?_⟩
    simp only [List.nil_append, List.mem_cons, List.not_mem_nil, or_false] at hl
    rcases hl with rfl | rfl
    · exact hothers .submitted (by decide) (by decide)
    · exact hothers .unknown (by decide) (by decide)
  · refine ⟨[lists .settleInProgress], [lists .unknown], rfl, fun l hl => ?_⟩
    simp only [List.cons_append, List.nil_append, List.mem_cons, List.not_mem_nil, or_false] at hl
    rcases hl with rfl | rfl
    · exact hothers .settleInProgress (by decide) (by decide)
    · exact hothers .unknown (by decide) (by decide)
  · refine ⟨[lists .settleInProgress, lists .submitted], [], rfl, fun l hl => ?_⟩
    simp only [List.cons_append, List.nil_append, List.mem_cons, List.not_mem_nil, or_false] at hl
    rcases hl with rfl | rfl
    · exact hothers .settleInProgress (by decide) (by decide)
    · exact hothers .submitted (by decide) (by decide)

/-- The lists have no record in common. -/
theorem flatten_nodup {lists : SettlementStatus → List Candidate}
    (hstatus : ∀ s ∈ scannedStatuses, ∀ c ∈ lists s, c.status = s) (hnodup : ∀ s ∈ scannedStatuses, (lists s).Nodup) :
    (scannedStatuses.map lists).flatten.Nodup := by
  rw [List.nodup_flatten]
  refine ⟨fun l hl => ?_, ?_⟩
  · obtain ⟨s, hs, rfl⟩ := List.mem_map.mp hl
    exact hnodup s hs
  · rw [List.pairwise_map]
    have hne : scannedStatuses.Pairwise (· ≠ ·) := by decide
    refine hne.imp_of_mem fun hs ht hst c hc hc' => ?_
    exact hst ((hstatus _ hs c hc).symm.trans (hstatus _ ht c hc'))

/-- A scan of three lists that the store returns, each of records of its status and no longer than the limit, is fair. -/
theorem fair_scan (env : Surroundings σ) (rec : HostedSettlementReconciler) (limit : Int) (now : Instant) (run : Run σ)
    (lists : SettlementStatus → List Candidate) (hlists : 0 < limit → Lists env rec now limit run.around lists)
    (hlength : ∀ s ∈ scannedStatuses, ((lists s).length : Int) ≤ max limit 0)
    (hstatus : ∀ s ∈ scannedStatuses, ∀ c ∈ lists s, c.status = s) (hnodup : ∀ s ∈ scannedStatuses, (lists s).Nodup) :
    ∃ candidates, (exec (scanCandidates env rec limit now) run).1 = .ok candidates ∧
      FairScan limit lists candidates := by
  by_cases hlimit : limit ≤ 0
  · refine ⟨[], ?_, List.nodup_nil, ?_, fun _ _ => List.nil_prefix, fun _ _ _ _ _ => Nat.zero_le _⟩
    · rw [scanCandidates, if_pos hlimit]
      rfl
    · simp only [List.length_nil]
      omega
  · have hpos : 0 < limit := by omega
    have hlong : ∀ s ∈ scannedStatuses, (lists s).length ≤ limit.toNat := by
      intro s hs
      have := hlength s hs
      omega
    have hperm : (RoundRobin.rounds (scannedStatuses.map lists) limit.toNat).Perm
        (scannedStatuses.map lists).flatten := by
      refine RoundRobin.rounds_perm_flatten fun l hl => ?_
      obtain ⟨s, hs, rfl⟩ := List.mem_map.mp hl
      exact hlong s hs
    refine ⟨_, exec_scanCandidates hpos (hlists hpos), ?_⟩
    rw [scanRounds_eq (by omega)]
    refine ⟨?_, ?_, fun s hs => RoundRobin.filter_take_prefix (picks_status hstatus hs) _ _, fun s hs t ht hmore => ?_⟩
    · exact (hperm.nodup_iff.mpr (flatten_nodup hstatus hnodup)).sublist (List.take_sublist _ _)
    · rw [List.length_take, hperm.length_eq, List.length_flatten, List.map_map]
      have hsum : (scannedStatuses.map (List.length ∘ lists)).sum =
          (scannedStatuses.map fun s => (lists s).length).sum := rfl
      rw [hsum]
      omega
    · exact RoundRobin.balanced (picks_status hstatus hs) (picks_status hstatus ht) (hlong s hs) hmore

/-! ## A failing claim -/

/-- A store that lists these records as unknown and loses its connection when the first one is claimed; every other
record is claimed, its provider has settled it, and the mark returns. -/
def flakyStore (listed : List Nat) : Surroundings Unit where
  clock := fun _ => 0
  listCandidates := fun status _ _ => pure (if status = .unknown then listed.map fun i => ⟨some i, .unknown⟩ else [])
  claimRecord := fun recordId owner leaseUntil _ _ =>
    if recordId = 1 then throw (.other "OperationalError" "server closed the connection unexpectedly")
    else pure (some
      { recordId := recordId, sellerAccountId := "seller", fingerprint := "f", provider := "exact_evm",
        scheme := some "exact", network := some "eip155:5042002", status := .unknown, createdAt := 0, updatedAt := 0,
        reconciliationOwner := some owner, reconciliationLeaseUntil := some leaseUntil })
  registered := fun _ => true
  reconcile := fun _ => pure { status := .settled, transaction := some "0xpaid" }
  mark := fun _ _ _ => pure ⟨⟩

/-- A reconciler with the default thresholds. -/
def nightly : HostedSettlementReconciler where
  owner := "nightly"
  owner_ne := by decide

theorem run_accounted_two : ∃ stats, (exec (runOnce (flakyStore [2, 3]) nightly 2) { around := () }).1 = .ok stats ∧
    Accounted [⟨some 2, .unknown⟩, ⟨some 3, .unknown⟩] stats
      (exec (runOnce (flakyStore [2, 3]) nightly 2) { around := () }).2 := by
  have hscan : exec (scanCandidates (flakyStore [2, 3]) nightly 2 0) { around := () } =
      (.ok [⟨some 2, .unknown⟩, ⟨some 3, .unknown⟩], { around := () }) := rfl
  exact (run_accounted_iff hscan).mpr (turns_return_iff.mp rfl)

/-- The claim of the first record raises: the run ends there, the second record is never turned to, and there are no
statistics. -/
theorem run_stops_at_failed_claim :
    exec (scanCandidates (flakyStore [1, 2]) nightly 2 0) { around := () } =
        (.ok [⟨some 1, .unknown⟩, ⟨some 2, .unknown⟩], { around := () }) ∧
      (exec (runOnce (flakyStore [1, 2]) nightly 2) { around := () }).2.visited = [⟨some 1, .unknown⟩] ∧
      ¬ ∃ stats, (exec (runOnce (flakyStore [1, 2]) nightly 2) { around := () }).1 = .ok stats ∧
        Accounted [⟨some 1, .unknown⟩, ⟨some 2, .unknown⟩] stats
          (exec (runOnce (flakyStore [1, 2]) nightly 2) { around := () }).2 := by
  refine ⟨rfl, rfl, ?_⟩
  rintro ⟨stats, hstats, -⟩
  cases hstats

/-- A store with one record in progress and with submitted ones. -/
def busyLists : SettlementStatus → List Candidate
  | .settleInProgress => [⟨some 1, .settleInProgress⟩]
  | .submitted => [⟨some 10, .submitted⟩, ⟨some 11, .submitted⟩]
  | _ => []

/-- The one in progress is among two candidates. -/
theorem fair_scan_busy : ∃ candidates,
    (exec (scanCandidates { flakyStore [] with listCandidates := fun status _ _ => pure (busyLists status) } nightly 2 0)
      { around := () }).1 = .ok candidates ∧ FairScan 2 busyLists candidates := by
  refine fair_scan _ nightly 2 0 { around := () } busyLists (fun _ => ⟨(), (), (), rfl, rfl, rfl⟩) (by decide) (by decide)
    (by decide)

end WholeRun

end HostedFacilitator.Reconciler
