import HostedFacilitator.Postgres.StatusMachine

/-!
# Settlements that get lost

The engine's finalising update accepts `settle_in_progress` and `submitted`. A reconciler may move a stale
`settle_in_progress` record to `unknown` while the provider call that will settle it is still running; the update is
then refused, `settle` raises, and the transaction is stored nowhere.

* `settlement_lost`: a run in which this happens;
* `settlement_kept`: it is the only way, apart from a database failure in the finalising transaction itself.
-/

namespace HostedFacilitator.Postgres

/-- The record of a finished call and the outcome its provider returned. -/
def Phase.settlement : Phase → Option (Nat × SettleOutcome)
  | .finished _ (some (r, .returned o)) => some (r.recordId, o)
  | _ => none

/-- Every finished call whose provider settled has its record settled, with the provider's transaction. -/
def System.Persisted (s : System) : Prop :=
  ∀ (i : Nat) (p : Process) (id : Nat) (o : SettleOutcome), s.processes[i]? = some p →
    p.phase.settlement = some (id, o) → providerStatus o = .settled →
    ∃ row, s.db.record id = some row ∧ row.status = .settled ∧ row.transaction = o.transaction

/-- No reconciler's mark commits on a record whose call is still running, and the finalising transaction of a call
does not fail. -/
def Undisturbed (s : System) : Event → Prop
  | .engine i (.fail _) => ∀ p r a result, s.processes[i]? = some p → p.phase ≠ .finalizing r a result
  | .reconcilerReply w reply reading =>
    ∀ config record now m db', s.workers[w]? = some ⟨config, some (record, now)⟩ →
      config.handleClaimed record now reply = .mark m →
      s.db.updateReconciliationRecord record m config.owner reading = .ok db' →
      ∀ p ∈ s.processes, p.phase.owned ≠ some record.recordId
  | _ => True

theorem settlement_eq {phase : Phase} {id : Nat} {o : SettleOutcome} (h : phase.settlement = some (id, o)) :
    ∃ answer r, phase = .finished answer (some (r, .returned o)) ∧ r.recordId = id := by
  unfold Phase.settlement at h
  split at h
  · rename_i answer r o'
    simp only [Option.some.injEq, Prod.mk.injEq] at h
    exact ⟨answer, r, by rw [h.2], h.1⟩
  · cases h

/-! ## The lost settlement -/

/-- The provider call takes two minutes and a second; in between a reconciler finds the record stale, learns nothing
about it and marks it `unknown`. -/
def lostEvents : List Event :=
  [.arrive (sampleCall "default") false,
    .engine 0 (.proceed 0), .engine 0 (.proceed 0), .engine 0 (.proceed 0), .engine 0 (.proceed 0),
    .engine 0 (.proceed 0), .engine 0 (.proceed 0), .engine 0 (.proceed 0),
    .tick 121000000, .spawn sampleReconciler,
    .reconcilerClaim 0 1 .settleInProgress 121000000 121000000,
    .reconcilerReply 0 (.returned { status := .pending }) 121000000,
    .engine 0 (.provider (.returned { success := true, transaction := some "0xpaid" })),
    .engine 0 (.proceed 121000000)]

/-- What a run leaves of the first call and of the first record. -/
def firstSettlement (s : System) :
    Option (Nat × SettleOutcome) × Option (SettlementStatus × Option String) :=
  ((s.processes[0]?).bind (·.phase.settlement), (s.db.record 1).map fun r => (r.status, r.transaction))

theorem settlement_lost : ∃ s, (machine fun _ => 0).Reaches lostEvents s ∧ ¬ s.Persisted := by
  have hrun : ((machine fun _ => 0).run {} lostEvents).map firstSettlement =
      some (some (1, { success := true, transaction := some "0xpaid" }), some (.unknown, none)) := by decide
  obtain ⟨s, hs, hfirst⟩ := Option.map_eq_some_iff.mp hrun
  simp only [firstSettlement, Prod.mk.injEq] at hfirst
  obtain ⟨p, hp, hset⟩ := Option.bind_eq_some_iff.mp hfirst.1
  obtain ⟨row, hrow, hstored⟩ := Option.map_eq_some_iff.mp hfirst.2
  refine ⟨s, hs, fun hper => ?_⟩
  obtain ⟨row', hrow', hstatus, -⟩ := hper 0 p 1 _ hp hset rfl
  cases hrow.symm.trans hrow'
  rw [Prod.mk.injEq, hstatus] at hstored
  cases hstored.1

/-! ## Undisturbed runs -/

/-- The invariant of undisturbed runs: the record of a running call is `settle_in_progress`. -/
structure System.InFlight (s : System) : Prop where
  active : ∀ (i : Nat) (p : Process) (r : SettlementRecord) (a : Nat), s.processes[i]? = some p →
    p.phase.ticket = some (r, a) → ∃ row, s.db.record r.recordId = some row ∧ row.status = .settleInProgress
  done : s.Persisted

section Undisturbed

variable {hash : String → Int} {s s' : System} {e : Event}

/-- A settled record stays as it is. -/
theorem settled_kept {db db' : Db} {id : Nat} {t : Option String}
    (hrow : ∀ r, db.record id = some r → ∃ r', db'.record id = some r' ∧ RowChange r r')
    (h : ∃ row, db.record id = some row ∧ row.status = .settled ∧ row.transaction = t) :
    ∃ row, db'.record id = some row ∧ row.status = .settled ∧ row.transaction = t := by
  obtain ⟨row, hr, hs, ht⟩ := h
  obtain ⟨row', hr', hchange⟩ := hrow row hr
  have hsame := hchange.of_terminal (by rw [hs]; rfl)
  exact ⟨row', hr', hsame.status.trans hs, hsame.transaction.trans ht⟩

/-- A step of a call, from a state in which the records of running calls are in progress. -/
theorem EngineStep.inFlight (hc : s.Claims hash) (hf : s.InFlight) {i : Nat} {p : Process} {input : EngineInput}
    {db' : Db} {phase' : Phase} (hok : Undisturbed s (.engine i input)) (hp : s.processes[i]? = some p)
    (hs : EngineStep hash s.db s.processes p.call p.phase input db' phase') {s' : System} (hdb : s'.db = db')
    (hps : s'.processes = s.processes.set i ⟨p.call, phase'⟩) : s'.InFlight := by
  subst hdb
  have hn := hc.uniqueIds
  constructor
  · intro j q r a hq hr
    rw [hps] at hq
    rcases Table.set_cases hq with ⟨-, rfl⟩ | ⟨hj, hq⟩
    · rcases hs.ticket_cases hr with ⟨hold, hdb⟩ | ⟨attempt, hphase, -, hdb⟩
      · rw [hdb]
        exact hf.active i p r a hp hold
      · obtain ⟨⟨now, hfresh⟩, hid⟩ := hc.pending hp (r := r) (by rw [hphase]; rfl)
        exact ⟨r, by rw [hdb]; exact Db.record_addClaim_self attempt hid, by rw [hfresh]; rfl⟩
    · obtain ⟨row, hrow, hstatus⟩ := hf.active j q r a hq hr
      have hown : p.phase.owned ≠ some r.recordId :=
        fun ho => hj (hc.owners j i q p _ hq hp (Phase.owned_of_ticket hr) ho)
      obtain ⟨row', hrow', hsame⟩ := hs.frame hn hrow hown
      exact ⟨row', hrow', hsame.status.trans hstatus⟩
  · intro j q id o hq hset hsettled
    rw [hps] at hq
    rcases Table.set_cases hq with ⟨-, rfl⟩ | ⟨-, hq⟩
    · obtain ⟨answer, r, hphase, rfl⟩ := settlement_eq hset
      obtain ⟨a, hold, hcase⟩ := hs.result_cases hphase
      obtain ⟨row, hrow, hstatus⟩ := hf.active i p r a hp (by rw [hold]; rfl)
      have hfin := finalization_settled hsettled p.call r
      -- the record is still in progress, so the update goes through
      have hmark : ∀ now, s.db.markRecordAndFinishSettleAttempt r.recordId a
          ((ProviderResult.returned o).finalization p.call r) now = .ok (s.db.finalize r.recordId a
            ((ProviderResult.returned o).finalization p.call r) now) := by
        intro now
        refine (Db.finalize_ok hn).mpr ⟨[.settleInProgress, .submitted], row, ?_, hrow, ?_, rfl⟩
        · rw [hfin]; rfl
        · rw [hstatus]; simp
      rcases hcase with ⟨now, hok', -⟩ | ⟨now, e, herr, -⟩ | ⟨e, rfl, -⟩
      · rw [hmark now] at hok'
        rw [← Except.ok.inj hok']
        refine ⟨_, Db.record_write_self (fun _ => rfl) hrow, ?_, ?_⟩ <;> rw [hfin] <;> rfl
      · rw [hmark now] at herr
        cases herr
      · exact absurd hold (hok p r a _ hp)
    · exact settled_kept (fun r hr => hs.row hn hr) (hf.done j q id o hq hset hsettled)

/-- An event that is no step of a call, with what it does to the rows of running calls. -/
theorem System.InFlight.of_rows (hf : s.InFlight) (hps : ∀ (i : Nat) (p : Process), s'.processes[i]? = some p →
      s.processes[i]? = some p ∨ p.phase.idle = true)
    (hrow : ∀ id r, s.db.record id = some r → ∃ r', s'.db.record id = some r' ∧ RowChange r r')
    (hkeep : ∀ (i : Nat) (p : Process) id r, s.processes[i]? = some p → p.phase.owned = some id →
      s.db.record id = some r → r.status = .settleInProgress →
      ∃ r', s'.db.record id = some r' ∧ r'.status = .settleInProgress) : s'.InFlight := by
  have hidle : ∀ {phase : Phase}, phase.idle = true → phase.ticket = none ∧ phase.settlement = none := by
    intro phase h
    cases phase with
    | finished answer settled => cases settled <;> first | exact ⟨rfl, rfl⟩ | cases h
    | _ => first | exact ⟨rfl, rfl⟩ | cases h
  constructor
  · intro i p r a hp hr
    rcases hps i p hp with hp | hi
    · obtain ⟨row, hrow', hstatus⟩ := hf.active i p r a hp hr
      exact hkeep i p r.recordId row hp (Phase.owned_of_ticket hr) hrow' hstatus
    · rw [(hidle hi).1] at hr; cases hr
  · intro i p id o hp hset hsettled
    rcases hps i p hp with hp | hi
    · exact settled_kept (hrow id) (hf.done i p id o hp hset hsettled)
    · rw [(hidle hi).2] at hset; cases hset

/-- An undisturbed event keeps the records of running calls in progress. -/
theorem Step.inFlight (hc : s.Claims hash) (hf : s.InFlight) (hok : Undisturbed s e) (hs : Step hash s e s') :
    s'.InFlight := by
  have hn := hc.uniqueIds
  have hrow : ∀ id r, s.db.record id = some r → ∃ r', s'.db.record id = some r' ∧ RowChange r r' :=
    fun id r hr => hs.row hn hr
  have hlease : ∀ {f : SettlementRecord → SettlementRecord} {rid id : Nat} {r : SettlementRecord},
      (∀ r, (f r).recordId = r.recordId) → (∀ r, (f r).status = r.status) → s.db.record id = some r →
      r.status = .settleInProgress →
      ∃ r', (s.db.write rid f).record id = some r' ∧ r'.status = .settleInProgress := by
    intro f rid id r hid hst hr hs
    rw [Db.record_write_some hid hr]
    refine ⟨_, rfl, ?_⟩
    split
    · rw [hst, hs]
    · exact hs
  cases hs with
  | engine hp hstep => exact hstep.inFlight hc hf hok hp rfl rfl
  | tick | rest => exact hf.of_rows (fun _ _ h => Or.inl h) hrow fun i p id r _ _ hr hs => ⟨r, hr, hs⟩
  | arrive call limited =>
    refine hf.of_rows (fun i p hp => ?_) hrow fun i p id r _ _ hr hs => ⟨r, hr, hs⟩
    rcases Table.append_cases hp with hp | ⟨-, rfl⟩
    · exact Or.inl hp
    · exact Or.inr (by cases limited <;> rfl)
  | workerClaims | released | operatorClaims | operatorReleases =>
    exact hf.of_rows (fun _ _ h => Or.inl h) hrow fun i p id r _ _ hr hs =>
      hlease (fun _ => rfl) (fun _ => rfl) hr hs
  | @workerMarks w reply now reading lease config snapshot row m hw _ hdec hup _ hrow' =>
    refine hf.of_rows (fun _ _ h => Or.inl h) hrow fun i p id r hp hown hr hs => ?_
    have hne : id ≠ snapshot.recordId := by
      rintro rfl
      exact hok config snapshot now m _ hw hdec hup p (List.mem_of_getElem? hp) hown
    rw [Db.record_applyMark]
    exact ⟨r, Db.record_write_other (fun _ => rfl) hne hr, hs⟩
  | @operatorReviews c reading lease row _ _ _ hrow' hunknown =>
    refine hf.of_rows (fun _ _ h => Or.inl h) hrow fun i p id r hp hown hr hs => ?_
    have hne : id ≠ c.recordId := by
      rintro rfl
      cases hr.symm.trans hrow'
      rw [hs] at hunknown
      cases hunknown
    rw [Db.record_withAudit, Db.record_applyMark]
    exact ⟨r, Db.record_write_other (fun _ => rfl) hne hr, hs⟩

theorem inFlight_start : System.InFlight {} := by
  constructor <;> simp [System.Persisted]

/-- In every undisturbed run, a call whose provider settled leaves its record settled with the provider's
transaction. -/
theorem settlement_kept {es : List Event} (h : (machine hash).Reaches es s)
    (hok : (machine hash).Along Undisturbed {} es) : s.Persisted := by
  have hinv : s.InFlight := by
    refine h.invariant_of inFlight_start ?_ hok
    intro s e t hs hf hok hn
    exact (reachable_step hs hn).inFlight (reachable_claims hs) hf hok
  exact hinv.done

/-- What shows in the state that a step is undisturbed: a call that fails is not finalizing, and the record that an
answering reconciler holds has no running call. -/
def clear (s : System) : Event → Bool
  | .engine i (.fail _) =>
    match s.processes[i]? with
    | some ⟨_, .finalizing ..⟩ => false
    | _ => true
  | .reconcilerReply w _ _ =>
    match s.workers[w]? with
    | some ⟨_, some (record, _)⟩ => s.processes.all fun p => p.phase.owned ≠ some record.recordId
    | _ => true
  | _ => true

theorem undisturbed_of_clear (h : clear s e = true) : Undisturbed s e := by
  cases e with
  | engine i input =>
    cases input with
    | fail error =>
      rintro p r a result hp hphase
      have hprocess : s.processes[i]? = some ⟨p.call, .finalizing r a result⟩ := hphase ▸ hp
      rw [clear, hprocess] at h
      cases h
    | proceed | blind | limiter | provider | crash => trivial
  | reconcilerReply w reply reading =>
    intro config record now m db' hw _ _ p hp
    rw [clear, hw] at h
    exact of_decide_eq_true (List.all_eq_true.mp h p hp)
  | tick | arrive | spawn | reconcilerClaim | reconcilerStops | release | control => trivial

/-- Two payments and a call that fails at once. The provider leaves the first payment open; while it settles the second
one, a reconciler takes the record of the first one and marks it settled. -/
def besideEvents : List Event :=
  [.arrive (sampleCall "default") false,
    .engine 0 (.proceed 0), .engine 0 (.proceed 0), .engine 0 (.proceed 0), .engine 0 (.proceed 0),
    .engine 0 (.proceed 0), .engine 0 (.proceed 0), .engine 0 (.proceed 0),
    .engine 0 (.provider (.returned { success := false, settlementStatus := some .unknown })), .engine 0 (.proceed 0),
    .tick 301000000, .spawn sampleReconciler, .reconcilerClaim 0 1 .unknown 301000000 301000000,
    .arrive { sampleCall "default" with request := { (sampleCall "default").request with fingerprint := "f2" } } false,
    .engine 1 (.proceed 301000000), .engine 1 (.proceed 301000000), .engine 1 (.proceed 301000000),
    .engine 1 (.proceed 301000000), .engine 1 (.proceed 301000000), .engine 1 (.proceed 301000000),
    .engine 1 (.proceed 301000000),
    .arrive (sampleCall "default") false, .engine 2 (.fail (.runtime "connection is closed")),
    .reconcilerReply 0 (.returned { status := .settled, transaction := some "0xlate" }) 301000000,
    .engine 1 (.provider (.returned { success := true, transaction := some "0xpaid" })),
    .engine 1 (.proceed 301000000)]

theorem settlement_kept_race :
    ∃ s p, (machine fun _ => 0).Reaches besideEvents s ∧ s.processes[1]? = some p ∧
      p.phase.settlement = some (2, { success := true, transaction := some "0xpaid" }) ∧
      (s.db.record 1).map (·.transaction) = some (some "0xlate") ∧ s.Persisted := by
  have hrun : ((machine fun _ => 0).run {} besideEvents).map (fun s =>
      ((s.processes[1]?).bind (·.phase.settlement), (s.db.record 1).map (·.transaction))) =
      some (some (2, { success := true, transaction := some "0xpaid" }), some (some "0xlate")) := by decide
  obtain ⟨s, hs, hfacts⟩ := Option.map_eq_some_iff.mp hrun
  obtain ⟨hsecond, hfirst⟩ := Prod.mk.inj hfacts
  obtain ⟨p, hp, hset⟩ := Option.bind_eq_some_iff.mp hsecond
  have hclear : (machine fun _ => 0).Along (fun s e => clear s e = true) {} besideEvents := by decide
  exact ⟨s, p, hs, hp, hset, hfirst, settlement_kept hs (hclear.mono fun _ _ => undisturbed_of_clear)⟩

end Undisturbed

end HostedFacilitator.Postgres
