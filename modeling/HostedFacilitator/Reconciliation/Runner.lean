import HostedFacilitator.Lib.History
import HostedFacilitator.Lib.Transition
import HostedFacilitator.Reconciliation.Run

/-!
# The loop of the reconciliation runner

`HostedReconciliationRunner.run` calls `run_once` until `stop()` is called or the budget of runs is used up, and sleeps in
between. The loop is cut into phases at every check of the stop event and at everything that it awaits, because `stop()`
may be called at any moment: in another task, in the callback, or in a signal handler between two statements. What
`run_once` and the sleeps do is up to the environment (`Event`), and the log keeps what the loop itself does (`Action`).

When the loop returns, the log and the statistics fit together (`runner_accounted`): the calls are counted, they stay
within the budget, the aggregate is the sum over the successful runs, nothing is called once the stop event was seen set,
and there is no sleep after the last permitted run.
-/

namespace HostedFacilitator.Reconciler

/-- `_add_stats`. -/
def ReconciliationRunStats.add (target source : ReconciliationRunStats) : ReconciliationRunStats where
  scanned := target.scanned + source.scanned
  claimed := target.claimed + source.claimed
  settled := target.settled + source.settled
  failed := target.failed + source.failed
  markedUnknown := target.markedUnknown + source.markedUnknown
  manualReview := target.manualReview + source.manualReview
  pending := target.pending + source.pending
  skipped := target.skipped + source.skipped
  errors := target.errors + source.errors

structure ReconciliationLoopStats where
  runs : Nat := 0
  failedRuns : Nat := 0
  aggregate : ReconciliationRunStats := {}
  lastRun : Option ReconciliationRunStats := none
  lastError : Option String := none
  startedAt : Option Instant := none
  stoppedAt : Option Instant := none
  deriving DecidableEq

/-- The arguments of the constructor that decide anything; it refuses negative intervals and an empty budget. -/
structure HostedReconciliationRunner where
  intervalSeconds : Rat
  errorIntervalSeconds : Rat
  maxRuns : Option Nat
  onIteration : Bool
  interval_nonneg : 0 ≤ intervalSeconds
  errorInterval_nonneg : 0 ≤ errorIntervalSeconds
  maxRuns_pos : ∀ n ∈ maxRuns, 0 < n

/-- `__init__`. -/
def HostedReconciliationRunner.init (intervalSeconds errorIntervalSeconds : Rat) (maxRuns : Option Int)
    (onIteration : Bool) : Except PyErr HostedReconciliationRunner :=
  if hi : intervalSeconds < 0 then .error (.value "interval_seconds must be non-negative")
  else if he : errorIntervalSeconds < 0 then .error (.value "error_interval_seconds must be non-negative")
  else if hm : ∃ n ∈ maxRuns, n ≤ 0 then .error (.value "max_runs must be positive")
  else .ok {
    intervalSeconds := intervalSeconds, errorIntervalSeconds := errorIntervalSeconds
    maxRuns := maxRuns.map Int.toNat, onIteration := onIteration
    interval_nonneg := Rat.not_lt.mp hi, errorInterval_nonneg := Rat.not_lt.mp he
    maxRuns_pos := by
      intro n hn
      obtain ⟨m, hm', rfl⟩ := Option.map_eq_some_iff.mp hn
      have : ¬m ≤ 0 := fun hle => hm ⟨m, hm', hle⟩
      omega }

namespace Runner

/-- Where `run` stands. -/
inductive Phase where
  -- `while not self._stop_event.is_set()`, and the first look at the budget
  | condition
  | budget
  | running
  -- the two other looks at the budget, after a failure and after a success
  | failed
  | callback
  | counted
  -- `_sleep_or_stop`
  | entering (seconds : Rat)
  | sleeping (seconds : Rat)
  | woken
  -- `finally`, on the way to `return` or with an exception
  | leaving
  | raising
  | returned
  | raised
  deriving DecidableEq

/-- What the loop does, for others to see. -/
inductive Action where
  | runOnce
  | observedStop
  | sleep (seconds : Rat)
  deriving DecidableEq

structure State where
  phase : Phase := .condition
  stopEvent : Bool := false
  stats : ReconciliationLoopStats := {}
  log : List Action := []

/-- What happens to the loop: `stop()` is called, `run_once` or a sleep ends, the callback returns, something that is
awaited raises what the loop does not catch; otherwise the loop goes on by itself. -/
inductive Event where
  | stop
  | goOn
  | succeeds (stats : ReconciliationRunStats)
  | fails (text : String)
  | callbackReturns
  | slept
  | escapes
  | leave (now : Instant)

variable (runner : HostedReconciliationRunner)

/-- `self._max_runs is not None and stats.runs + stats.failed_runs >= self._max_runs`. -/
def exhausted (stats : ReconciliationLoopStats) : Bool :=
  runner.maxRuns.any fun maxRuns => maxRuns ≤ stats.runs + stats.failedRuns

/-- A look at the stop event. -/
def State.look (s : State) (otherwise : State) : State :=
  if s.stopEvent then { s with phase := .leaving, log := s.log ++ [.observedStop] } else otherwise

/-- `run_once` returns. -/
def State.succeed (s : State) (result : ReconciliationRunStats) : State :=
  { s with
    phase := if runner.onIteration then .callback else .counted
    stats := { s.stats with
      runs := s.stats.runs + 1
      lastRun := some result
      lastError := none
      aggregate := s.stats.aggregate.add result } }

/-- `run_once` raises an exception. -/
def State.fail (s : State) (text : String) : State :=
  { s with
    phase := .failed
    stats := { s.stats with failedRuns := s.stats.failedRuns + 1, lastError := some text } }

/-- One step of `run`. -/
def advance (s : State) : Phase → Event → Option State
  | .condition, .goOn => some (s.look { s with phase := .budget })
  | .budget, .goOn =>
    if exhausted runner s.stats then some { s with phase := .leaving }
    else some { s with phase := .running, log := s.log ++ [.runOnce] }
  | .running, .succeeds result => some (s.succeed runner result)
  | .running, .fails text => some (s.fail text)
  | .callback, .callbackReturns => some { s with phase := .counted }
  | .failed, .goOn =>
    if exhausted runner s.stats then some { s with phase := .leaving }
    else some { s with phase := .entering runner.errorIntervalSeconds }
  | .counted, .goOn =>
    if exhausted runner s.stats then some { s with phase := .leaving }
    else some { s with phase := .entering runner.intervalSeconds }
  | .entering seconds, .goOn => some (s.look
      { s with
        phase := .sleeping seconds
        log := s.log ++ [.sleep (if seconds ≤ 0 then 0 else seconds)] })
  | .sleeping _, .slept => some { s with phase := .woken }
  -- the task that waits for the stop event is done first
  | .sleeping seconds, .goOn => if 0 < seconds ∧ s.stopEvent = true then some { s with phase := .woken } else none
  | .woken, .goOn => some (s.look { s with phase := .condition })
  | .running, .escapes | .callback, .escapes | .sleeping _, .escapes => some { s with phase := .raising }
  | .leaving, .leave now => some { s with phase := .returned, stats := { s.stats with stoppedAt := some now } }
  | .raising, .leave now => some { s with phase := .raised, stats := { s.stats with stoppedAt := some now } }
  | _, _ => none

def next (s : State) : Event → Option State
  | .stop => some { s with stopEvent := true }
  | e => advance runner s s.phase e

/-- `run` is called at `now`; `stop()` may have been called already. -/
def machine (now : Instant) : Transition.Machine State Event where
  start := { stats := { startedAt := some now } }
  next := next runner

/-! ## What the events say -/

/-- The statistics of the successful runs, in order. -/
def successes (es : List Event) : List ReconciliationRunStats :=
  es.filterMap fun
    | .succeeds result => some result
    | _ => none

/-- The texts of the failures. -/
def failures (es : List Event) : List String :=
  es.filterMap fun
    | .fails text => some text
    | _ => none

/-- Every field of `total` is the sum of that field. -/
structure FieldwiseSum (total : ReconciliationRunStats) (all : List ReconciliationRunStats) : Prop where
  scanned : total.scanned = (all.map ReconciliationRunStats.scanned).sum
  claimed : total.claimed = (all.map ReconciliationRunStats.claimed).sum
  settled : total.settled = (all.map ReconciliationRunStats.settled).sum
  failed : total.failed = (all.map ReconciliationRunStats.failed).sum
  markedUnknown : total.markedUnknown = (all.map ReconciliationRunStats.markedUnknown).sum
  manualReview : total.manualReview = (all.map ReconciliationRunStats.manualReview).sum
  pending : total.pending = (all.map ReconciliationRunStats.pending).sum
  skipped : total.skipped = (all.map ReconciliationRunStats.skipped).sum
  errors : total.errors = (all.map ReconciliationRunStats.errors).sum

theorem FieldwiseSum.nil : FieldwiseSum {} [] := ⟨rfl, rfl, rfl, rfl, rfl, rfl, rfl, rfl, rfl⟩

theorem FieldwiseSum.snoc {total result : ReconciliationRunStats} {all : List ReconciliationRunStats}
    (h : FieldwiseSum total all) : FieldwiseSum (total.add result) (all ++ [result]) := by
  have hsum : ∀ f : ReconciliationRunStats → Nat, ((all ++ [result]).map f).sum = (all.map f).sum + f result := by
    intro f
    simp
  constructor <;> rw [hsum]
  · rw [← h.scanned]; rfl
  · rw [← h.claimed]; rfl
  · rw [← h.settled]; rfl
  · rw [← h.failed]; rfl
  · rw [← h.markedUnknown]; rfl
  · rw [← h.manualReview]; rfl
  · rw [← h.pending]; rfl
  · rw [← h.skipped]; rfl
  · rw [← h.errors]; rfl

/-! ## The invariant -/

/-- A call of `run_once` that has not ended. -/
def Phase.inFlight : Phase → Nat
  | .running => 1
  | _ => 0

/-- An exception is on its way out, or is out. -/
def Phase.raises : Phase → Bool
  | .raising | .raised => true
  | _ => false

/-- Another call may follow without a further look at the budget but the first one. -/
def Phase.mayCall : Phase → Bool
  | .condition | .budget | .entering _ | .sleeping _ | .woken => true
  | _ => false

/-- The loop is over. -/
def Phase.over : Phase → Bool
  | .leaving | .returned => true
  | _ => false

/-- The number of calls of `run_once` so far. -/
def calls (log : List Action) : Nat := log.count .runOnce

/-- A call that no look at the stop event stands before any more. -/
def Phase.decided : Phase → Nat
  | .budget => 1
  | _ => 0

/-- An action that the log allows: nothing is called once the stop event was seen set, and there is neither a call nor a
sleep after the last permitted run. -/
def Permits (log : List Action) : Action → Prop
  | .runOnce => .observedStop ∉ log ∧ ∀ n ∈ runner.maxRuns, calls log < n
  | .sleep _ => ∀ n ∈ runner.maxRuns, calls log < n
  | .observedStop => True

structure Inv (es : List Event) (s : State) : Prop where
  permitted : History.Each (Permits runner) s.log
  runs : s.stats.runs = (successes es).length
  failedRuns : s.stats.failedRuns = (failures es).length
  aggregate : FieldwiseSum s.stats.aggregate (successes es)
  counted : s.phase.raises = false → calls s.log = s.stats.runs + s.stats.failedRuns + s.phase.inFlight
  budget : ∀ n ∈ runner.maxRuns, calls s.log ≤ n
  more : s.phase.mayCall = true → ∀ n ∈ runner.maxRuns, calls s.log < n
  stopped : .observedStop ∈ s.log → s.phase.over = true

section Steps

variable {runner} {es : List Event} {s t : State} {e : Event}

theorem exhausted_false (h : exhausted runner s.stats = false) :
    ∀ n ∈ runner.maxRuns, s.stats.runs + s.stats.failedRuns < n := by
  intro n hn
  rw [exhausted, Option.mem_def.mp hn] at h
  simpa using h

/-- An event that is no result of a run. -/
def Event.quiet : Event → Bool
  | .succeeds _ | .fails _ => false
  | _ => true

theorem successes_quiet (h : e.quiet = true) : successes (es ++ [e]) = successes es := by
  cases e <;> simp_all [successes, Event.quiet]

theorem failures_quiet (h : e.quiet = true) : failures (es ++ [e]) = failures es := by
  cases e <;> simp_all [failures, Event.quiet]

/-- The loop goes from one phase to another and does nothing. -/
theorem Inv.move (hi : Inv runner es s) (he : e.quiet = true) (hlog : t.log = s.log)
    (hruns : t.stats.runs = s.stats.runs) (hfailed : t.stats.failedRuns = s.stats.failedRuns)
    (haggregate : t.stats.aggregate = s.stats.aggregate)
    (hflight : t.phase.raises = false → s.phase.raises = false ∧ t.phase.inFlight = s.phase.inFlight)
    (hmore : t.phase.mayCall = true → ∀ n ∈ runner.maxRuns, calls s.log < n)
    (hover : s.phase.over = true → t.phase.over = true) : Inv runner (es ++ [e]) t := by
  refine ⟨hlog ▸ hi.permitted, ?_, ?_, ?_, fun hr => ?_, hlog ▸ hi.budget, hlog ▸ hmore, fun hmem => ?_⟩
  · rw [hruns, successes_quiet he]
    exact hi.runs
  · rw [hfailed, failures_quiet he]
    exact hi.failedRuns
  · rw [haggregate, successes_quiet he]
    exact hi.aggregate
  · obtain ⟨hs, hin⟩ := hflight hr
    rw [hlog, hruns, hfailed, hin]
    exact hi.counted hs
  · rw [hlog] at hmem
    exact hover (hi.stopped hmem)

/-- A look at the stop event that finds it set ends the loop. -/
theorem Inv.observe (hi : Inv runner es s) (he : e.quiet = true) (hphase : s.phase.raises = false ∧ s.phase.inFlight = 0) :
    Inv runner (es ++ [e]) { s with phase := .leaving, log := s.log ++ [.observedStop] } := by
  have hcalls : calls (s.log ++ [.observedStop]) = calls s.log := by simp [calls]
  refine ⟨History.each_snoc hi.permitted trivial, ?_, ?_, ?_, fun _ => ?_, ?_, ?_, fun _ => rfl⟩
  · rw [successes_quiet he]
    exact hi.runs
  · rw [failures_quiet he]
    exact hi.failedRuns
  · rw [successes_quiet he]
    exact hi.aggregate
  · have := hi.counted hphase.1
    rw [hphase.2] at this
    exact hcalls.trans this
  · simp only [hcalls]
    exact hi.budget
  · intro hmay
    cases hmay

/-- `run_once` is called. -/
theorem Inv.call (hi : Inv runner es s) (he : e.quiet = true) (hphase : s.phase = .budget)
    (hbudget : exhausted runner s.stats = false) :
    Inv runner (es ++ [e]) { s with phase := .running, log := s.log ++ [.runOnce] } := by
  have hcounted := hi.counted (by rw [hphase]; rfl)
  rw [hphase] at hcounted
  have hless : ∀ n ∈ runner.maxRuns, calls s.log < n := by
    intro n hn
    have := exhausted_false hbudget n hn
    have hzero : Phase.budget.inFlight = 0 := rfl
    omega
  have hcalls : calls (s.log ++ [.runOnce]) = calls s.log + 1 := by simp [calls]
  have hunseen : .observedStop ∉ s.log := by
    intro hmem
    have := hi.stopped hmem
    rw [hphase] at this
    cases this
  refine ⟨History.each_snoc hi.permitted ⟨hunseen, hless⟩, ?_, ?_, ?_, fun _ => ?_, fun n hn => ?_, ?_, fun hmem => ?_⟩
  · rw [successes_quiet he]
    exact hi.runs
  · rw [failures_quiet he]
    exact hi.failedRuns
  · rw [successes_quiet he]
    exact hi.aggregate
  · show calls (s.log ++ [.runOnce]) = s.stats.runs + s.stats.failedRuns + 1
    have hzero : Phase.budget.inFlight = 0 := rfl
    omega
  · have := hless n hn
    show calls (s.log ++ [.runOnce]) ≤ n
    omega
  · intro hmay
    cases hmay
  · simp [hunseen] at hmem

/-- A sleep begins. -/
theorem Inv.sleep (hi : Inv runner es s) (he : e.quiet = true) {seconds : Rat} (hphase : s.phase = .entering seconds)
    (slept : Rat) : Inv runner (es ++ [e]) { s with phase := .sleeping seconds, log := s.log ++ [.sleep slept] } := by
  have hless := hi.more (by rw [hphase]; rfl)
  have hcalls : calls (s.log ++ [.sleep slept]) = calls s.log := by simp [calls]
  refine ⟨History.each_snoc hi.permitted hless, ?_, ?_, ?_, fun _ => ?_, ?_, fun _ => ?_, fun hmem => ?_⟩
  · rw [successes_quiet he]
    exact hi.runs
  · rw [failures_quiet he]
    exact hi.failedRuns
  · rw [successes_quiet he]
    exact hi.aggregate
  · have hcounted := hi.counted (by rw [hphase]; rfl)
    rw [hphase] at hcounted
    exact hcalls.trans hcounted
  · simp only [hcalls]
    exact hi.budget
  · simp only [hcalls]
    exact hless
  · have hold : .observedStop ∈ s.log := by simpa using hmem
    have := hi.stopped hold
    rw [hphase] at this
    cases this

/-- `run_once` returns: its statistics are added. -/
theorem Inv.succeed (hi : Inv runner es s) (hphase : s.phase = .running) (result : ReconciliationRunStats) :
    Inv runner (es ++ [.succeeds result]) (s.succeed runner result) := by
  have hsuccesses : successes (es ++ [.succeeds result]) = successes es ++ [result] := by simp [successes]
  have hfailures : failures (es ++ [.succeeds result]) = failures es := by simp [failures]
  have hcounted := hi.counted (by rw [hphase]; rfl)
  rw [hphase] at hcounted
  have hone : Phase.running.inFlight = 1 := rfl
  have hzero : (s.succeed runner result).phase.inFlight = 0 ∧ (s.succeed runner result).phase.mayCall = false := by
    simp only [State.succeed]
    split <;> exact ⟨rfl, rfl⟩
  refine ⟨hi.permitted, ?_, ?_, ?_, fun _ => ?_, hi.budget, fun hmay => ?_, fun hmem => ?_⟩
  · rw [hsuccesses, List.length_append, ← hi.runs]
    rfl
  · rw [hfailures]
    exact hi.failedRuns
  · rw [hsuccesses]
    exact hi.aggregate.snoc
  · show calls s.log = s.stats.runs + 1 + s.stats.failedRuns + (s.succeed runner result).phase.inFlight
    rw [hzero.1]
    omega
  · rw [hzero.2] at hmay
    cases hmay
  · have := hi.stopped hmem
    rw [hphase] at this
    cases this

/-- `run_once` raises: the failure is counted. -/
theorem Inv.fail (hi : Inv runner es s) (hphase : s.phase = .running) (text : String) :
    Inv runner (es ++ [.fails text]) (s.fail text) := by
  have hsuccesses : successes (es ++ [.fails text]) = successes es := by simp [successes]
  have hfailures : failures (es ++ [.fails text]) = failures es ++ [text] := by simp [failures]
  have hcounted := hi.counted (by rw [hphase]; rfl)
  rw [hphase] at hcounted
  have hone : Phase.running.inFlight = 1 := rfl
  refine ⟨hi.permitted, ?_, ?_, ?_, fun _ => ?_, hi.budget, fun hmay => ?_, fun hmem => ?_⟩
  · rw [hsuccesses]
    exact hi.runs
  · rw [hfailures, List.length_append, ← hi.failedRuns]
    rfl
  · rw [hsuccesses]
    exact hi.aggregate
  · show calls s.log = s.stats.runs + (s.stats.failedRuns + 1) + 0
    omega
  · cases hmay
  · have := hi.stopped hmem
    rw [hphase] at this
    cases this

/-- After a run whose result is counted, the loop may go on where the budget is not used up. -/
theorem Inv.left (hi : Inv runner es s) (hphase : s.phase.raises = false ∧ s.phase.inFlight = 0)
    (hbudget : exhausted runner s.stats = false) : ∀ n ∈ runner.maxRuns, calls s.log < n := by
  intro n hn
  have hless := exhausted_false hbudget n hn
  have hcounted := hi.counted hphase.1
  omega

/-- The loop takes its next step on its own. -/
theorem Inv.goOn (hi : Inv runner es s) (h : next runner s .goOn = some t) : Inv runner (es ++ [.goOn]) t := by
  simp only [next] at h
  generalize hphase : s.phase = phase at h
  cases phase with
  | condition | woken =>
    cases h
    rw [State.look]
    split
    · exact hi.observe rfl (by rw [hphase]; exact ⟨rfl, rfl⟩)
    · exact hi.move rfl rfl rfl rfl rfl (fun _ => by rw [hphase]; exact ⟨rfl, rfl⟩)
        (fun _ => hi.more (by rw [hphase]; rfl)) (by rw [hphase]; exact nofun)
  | budget =>
    rw [advance] at h
    split at h
    · cases h
      exact hi.move rfl rfl rfl rfl rfl (fun _ => by rw [hphase]; exact ⟨rfl, rfl⟩) nofun (fun _ => rfl)
    · rename_i hbudget
      cases h
      exact hi.call rfl hphase (Bool.eq_false_iff.mpr hbudget)
  | failed | counted =>
    rw [advance] at h
    split at h
    · cases h
      exact hi.move rfl rfl rfl rfl rfl (fun _ => by rw [hphase]; exact ⟨rfl, rfl⟩) nofun (fun _ => rfl)
    · rename_i hbudget
      cases h
      have hleft := hi.left (by rw [hphase]; exact ⟨rfl, rfl⟩) (Bool.eq_false_iff.mpr hbudget)
      exact hi.move rfl rfl rfl rfl rfl (fun _ => by rw [hphase]; exact ⟨rfl, rfl⟩) (fun _ => hleft)
        (by rw [hphase]; exact nofun)
  | entering seconds =>
    cases h
    rw [State.look]
    split
    · exact hi.observe rfl (by rw [hphase]; exact ⟨rfl, rfl⟩)
    · exact hi.sleep rfl hphase _
  | sleeping seconds =>
    rw [advance] at h
    split at h
    · cases h
      exact hi.move rfl rfl rfl rfl rfl (fun _ => by rw [hphase]; exact ⟨rfl, rfl⟩)
        (fun _ => hi.more (by rw [hphase]; rfl)) (by rw [hphase]; exact nofun)
    · cases h
  | running | callback | leaving | raising | returned | raised => cases h

/-- Every step keeps the invariant. -/
theorem Inv.step (hi : Inv runner es s) (h : next runner s e = some t) : Inv runner (es ++ [e]) t := by
  cases e with
  | stop =>
    cases h
    exact hi.move rfl rfl rfl rfl rfl (fun hr => ⟨hr, rfl⟩) hi.more id
  | goOn => exact hi.goOn h
  | succeeds result =>
    simp only [next] at h
    generalize hphase : s.phase = phase at h
    cases phase <;> cases h
    exact hi.succeed hphase result
  | fails text =>
    simp only [next] at h
    generalize hphase : s.phase = phase at h
    cases phase <;> cases h
    exact hi.fail hphase text
  | callbackReturns =>
    simp only [next] at h
    generalize hphase : s.phase = phase at h
    cases phase <;> cases h
    exact hi.move rfl rfl rfl rfl rfl (fun _ => by rw [hphase]; exact ⟨rfl, rfl⟩) nofun (by rw [hphase]; exact nofun)
  | slept =>
    simp only [next] at h
    generalize hphase : s.phase = phase at h
    cases phase <;> cases h
    exact hi.move rfl rfl rfl rfl rfl (fun _ => by rw [hphase]; exact ⟨rfl, rfl⟩)
      (fun _ => hi.more (by rw [hphase]; rfl)) (by rw [hphase]; exact nofun)
  | escapes =>
    simp only [next] at h
    generalize hphase : s.phase = phase at h
    have hgo : phase.over = false → Inv runner (es ++ [.escapes]) { s with phase := .raising } := fun hover =>
      hi.move rfl rfl rfl rfl rfl nofun nofun (by rw [hphase, hover]; exact nofun)
    cases phase <;> cases h <;> exact hgo rfl
  | leave now =>
    simp only [next] at h
    generalize hphase : s.phase = phase at h
    cases phase <;> cases h
    · exact hi.move rfl rfl rfl rfl rfl (fun _ => by rw [hphase]; exact ⟨rfl, rfl⟩) nofun (fun _ => rfl)
    · exact hi.move rfl rfl rfl rfl rfl nofun nofun (by rw [hphase]; exact nofun)

theorem Inv.reaches {now : Instant} (h : (machine runner now).Reaches es s) : Inv runner es s := by
  refine h.history (H := Inv runner) ?_ fun es s e t _ hi hn => hi.step hn
  exact ⟨History.each_nil, rfl, rfl, FieldwiseSum.nil, fun _ => rfl, fun _ _ => Nat.zero_le _,
    fun _ n hn => runner.maxRuns_pos n hn, fun hmem => nomatch hmem⟩

/-- A look at the stop event that finds it set is logged, and the loop ends. -/
theorem look_stopped (h : s.stopEvent = true) (otherwise : State) :
    s.look otherwise = { s with phase := .leaving, log := s.log ++ [.observedStop] } := if_pos h

/-- After `stop()` no step decides on a call. -/
theorem stopped_step (hstop : s.stopEvent = true) (h : next runner s e = some t) :
    t.stopEvent = true ∧ calls t.log + t.phase.decided ≤ calls s.log + s.phase.decided := by
  cases e with
  | stop =>
    cases h
    exact ⟨rfl, le_rfl⟩
  | goOn =>
    simp only [next] at h
    generalize hphase : s.phase = phase at h
    cases phase with
    | condition | entering | woken =>
      rw [advance, look_stopped hstop] at h
      cases h
      exact ⟨hstop, by simp [calls, Phase.decided]⟩
    | budget =>
      rw [advance] at h
      split at h <;> cases h
      · exact ⟨hstop, by simp [Phase.decided]⟩
      · exact ⟨hstop, by simp [calls, Phase.decided]⟩
    | failed | counted | sleeping =>
      rw [advance] at h
      split at h <;> cases h <;> exact ⟨hstop, le_rfl⟩
    | running | callback | leaving | raising | returned | raised => cases h
  | succeeds =>
    simp only [next] at h
    generalize hphase : s.phase = phase at h
    cases phase <;> cases h
    rw [State.succeed]
    cases runner.onIteration <;> exact ⟨hstop, le_rfl⟩
  | fails | callbackReturns | slept | escapes | leave =>
    simp only [next] at h
    generalize hphase : s.phase = phase at h
    cases phase <;> cases h <;> exact ⟨hstop, by simp [State.fail, Phase.decided]⟩

/-- After `stop()` nothing is called but what was decided on. -/
theorem stopped_leads {now : Instant} (h : (machine runner now).Leads s es t) (hs : (machine runner now).Reachable s)
    (hstop : s.stopEvent = true) : calls t.log ≤ calls s.log + s.phase.decided := by
  have hkept : t.stopEvent = true ∧ calls t.log + t.phase.decided ≤ calls s.log + s.phase.decided := by
    refine h.invariant
      (I := fun t => t.stopEvent = true ∧ calls t.log + t.phase.decided ≤ calls s.log + s.phase.decided)
      ⟨hstop, le_rfl⟩ (fun t e u _ ht hn => ?_) hs
    obtain ⟨hu, hle⟩ := stopped_step ht.1 hn
    exact ⟨hu, hle.trans ht.2⟩
  omega

end Steps

/-- When `run` returns: the calls of `run_once` are the successes and the failures, and are within the budget; the
aggregate is the field-wise sum of the statistics of the successful runs; no call was made after the stop event was seen
set, nor after `stop()` but for one that was decided on; and no sleep after the last permitted run. -/
structure Accounted (now : Instant) (es : List Event) (s : State) : Prop where
  runs : s.stats.runs = (successes es).length
  failedRuns : s.stats.failedRuns = (failures es).length
  calls_eq : calls s.log = s.stats.runs + s.stats.failedRuns
  calls_le : ∀ n ∈ runner.maxRuns, calls s.log ≤ n
  aggregate : FieldwiseSum s.stats.aggregate (successes es)
  stops : ∀ pre post, s.log = pre ++ .observedStop :: post → .runOnce ∉ post
  stopped : ∀ pre post t, es = pre ++ .stop :: post → (machine runner now).Reaches pre t →
    calls s.log ≤ calls t.log + t.phase.decided
  sleeps : ∀ n ∈ runner.maxRuns, ∀ pre seconds post, s.log = pre ++ .sleep seconds :: post → calls pre < n

theorem runner_accounted {now : Instant} {es : List Event} {s : State} (h : (machine runner now).Reaches es s)
    (hreturned : s.phase = .returned) : Accounted runner now es s := by
  have hi := Inv.reaches h
  have hcounted := hi.counted (by rw [hreturned]; rfl)
  rw [hreturned] at hcounted
  refine ⟨hi.runs, hi.failedRuns, hcounted, hi.budget, hi.aggregate, fun pre post hlog hmem => ?_,
    fun pre post t hes hpre => ?_, ?_⟩
  · obtain ⟨mid, rest, rfl⟩ := List.append_of_mem hmem
    have hcall : Permits runner (pre ++ .observedStop :: mid) .runOnce := by
      refine hi.permitted _ _ rest ?_
      rw [hlog, List.append_assoc, List.cons_append]
    exact hcall.1 (List.mem_append_right _ List.mem_cons_self)
  · rw [hes] at h
    obtain ⟨t', u, hpre', hu, hpost⟩ := Transition.Machine.Reaches.split h
    obtain rfl := Option.some.inj (hpre.symm.trans hpre')
    have hreach : (machine runner now).Reachable u := Transition.Machine.Reachable.step ⟨pre, hpre⟩ hu
    cases hu
    have hcalls := stopped_leads hpost hreach rfl
    exact hcalls
  · intro n hn pre seconds post hlog
    exact hi.permitted pre (.sleep seconds) post hlog n hn

/-- Two attempts at most, and no pause after a failed one. -/
def twoAttempts : HostedReconciliationRunner where
  intervalSeconds := 5
  errorIntervalSeconds := 0
  maxRuns := some 2
  onIteration := false
  interval_nonneg := by decide
  errorInterval_nonneg := by decide
  maxRuns_pos := by decide

/-- An outage, a pause of no length, and a run that settles a payment. -/
def outageThenSettled : List Event :=
  [.goOn, .goOn, .fails "temporary outage", .goOn, .goOn, .slept, .goOn, .goOn, .goOn,
    .succeeds { settled := 1 }, .goOn, .leave 7]

/-- `stop()` is called during the first run of two. -/
def stoppedInRun : List Event :=
  [.goOn, .goOn, .stop, .succeeds { settled := 1 }, .goOn, .goOn, .leave 7]

theorem runner_accounted_mixed :
    (∃ s, (machine twoAttempts 0).Reaches outageThenSettled s ∧ s.log = [.runOnce, .sleep 0, .runOnce] ∧
        Accounted twoAttempts 0 outageThenSettled s) ∧
      ∃ s, (machine twoAttempts 0).Reaches stoppedInRun s ∧ s.log = [.runOnce, .observedStop] ∧
        Accounted twoAttempts 0 stoppedInRun s :=
  ⟨⟨_, rfl, rfl, runner_accounted twoAttempts (show (machine twoAttempts 0).Reaches outageThenSettled _ from rfl) rfl⟩,
    _, rfl, rfl, runner_accounted twoAttempts (show (machine twoAttempts 0).Reaches stoppedInRun _ from rfl) rfl⟩

end Runner

end HostedFacilitator.Reconciler
