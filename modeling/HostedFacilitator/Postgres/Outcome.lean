import HostedFacilitator.Postgres.StatusMachine
import HostedFacilitator.Engine.Router

/-!
# What a finished call leaves in the tables

Every row comes from a claim of a call (`Traced.rows`), a call works on a fresh copy of its own row (`Traced.kept`), and
no two calls have had one record (`Traced.unique`).

* `reachable_stored`: once a call has returned, its record says what the call wrote, until a reconciler or an operator
  marks it;
* `unmarked_of_returned`: nobody has marked it before;
* `reachable_unique`: when the requests of the run are coherent, a payment has at most one record.
-/

namespace HostedFacilitator.Postgres

/-- The claims that the calls make, oldest call first. -/
def System.claims (s : System) : List ClaimRequest := s.processes.map fun p => p.call.request

/-- The record of a call: claimed, and until it is finalised and afterwards. -/
def Phase.kept : Phase → Option SettlementRecord
  | .claimed r _ | .settling r _ | .finalizing r _ _ | .finished _ (some (r, _)) => some r
  | _ => none

/-- The event is a change of this record's status by a lease holder. -/
def LeaseEvent.marks (id : Nat) : LeaseEvent → Bool
  | .marked _ recordId _ _ _ _ _ => recordId == id
  | _ => false

/-- The keys of the rows. -/
def Db.keys (db : Db) : List (ReplayKey × ProfileKey) := db.records.map fun r => (r.replayKey, r.profileKey)

namespace Phase

theorem kept_of_ticket {phase : Phase} {r : SettlementRecord} {a : Nat} (h : phase.ticket = some (r, a)) :
    phase.kept = some r := by
  cases phase <;> first | (cases h; done) | (cases h; rfl)

theorem kept_cases {phase : Phase} {r : SettlementRecord} (h : phase.kept = some r) :
    (∃ a, phase.ticket = some (r, a)) ∨ ∃ answer result, phase = .finished answer (some (r, result)) := by
  unfold kept at h
  split at h <;> cases h
  · exact Or.inl ⟨_, rfl⟩
  · exact Or.inl ⟨_, rfl⟩
  · exact Or.inl ⟨_, rfl⟩
  · exact Or.inr ⟨_, _, rfl⟩

end Phase

/-! ## The keys under an event -/

namespace Db

variable {db : Db} {recordId : Nat} {f : SettlementRecord → SettlementRecord}

theorem write_keys (hr : ∀ r, (f r).replayKey = r.replayKey) (hp : ∀ r, (f r).profileKey = r.profileKey) :
    (db.write recordId f).keys = db.keys :=
  Table.map_update fun r => by rw [hr, hp]

theorem finalize_keys (attemptId : Nat) (fin : Finalization) (now : Instant) :
    (db.finalize recordId attemptId fin now).keys = db.keys :=
  write_keys (fun _ => rfl) fun _ => rfl

theorem applyMark_keys (m : Mark) (now : Instant) : (db.applyMark recordId m now).keys = db.keys := by
  rw [keys, applyMark, finishStartedAttempts_records]
  exact write_keys (fun _ => rfl) fun _ => rfl

end Db

section Step

variable {hash : String → Int} {s s' : System} {e : Event}

theorem RowChange.of {r r' : SettlementRecord} (h : RowChange r r') {c : ClaimRequest} (hof : r.Of c) : r'.Of c := by
  cases h <;> exact ⟨hof.replayKey, hof.profileKey⟩

/-- A step of a call adds at most one row, and that one has the keys of the call. -/
theorem EngineStep.keys (hc : s.Claims hash) {i : Nat} {p : Process} {input : EngineInput} {db' : Db} {phase' : Phase}
    (hp : s.processes[i]? = some p) (hs : EngineStep hash s.db s.processes p.call p.phase input db' phase') :
    db'.keys = s.db.keys ∨ db'.keys = s.db.keys ++ [(p.call.request.replayKey, p.call.request.profileKey)] := by
  obtain ⟨call, phase⟩ := p
  simp only at hs ⊢
  cases hs with
  | leave | lock | miss | search | insert | start | invoke | reply | refuse | abort => exact Or.inl rfl
  | @commit _ r a =>
    right
    obtain ⟨⟨now, hfresh⟩, -⟩ := hc.pending hp (r := r) rfl
    have hk : (r.replayKey, r.profileKey) = (call.request.replayKey, call.request.profileKey) := by
      rw [hfresh]
      rfl
    rw [← hk]
    exact List.map_append
  | @count now _ r _ =>
    left
    exact Db.write_keys (f := SettlementRecord.recordDuplicateClaim now) (fun _ => rfl) fun _ => rfl
  | finalize hok =>
    left
    obtain ⟨-, -, -, -, -, rfl⟩ := (Db.finalize_ok hc.uniqueIds).mp hok
    exact Db.finalize_keys _ _ _

/-- Only calls add rows. -/
theorem Step.keys (hs : Step hash s e s') (he : ∀ i input, e ≠ .engine i input) : s'.db.keys = s.db.keys := by
  cases hs with
  | tick | arrive | rest => rfl
  | engine => exact absurd rfl (he _ _)
  | workerClaims | released | operatorClaims | operatorReleases => exact Db.write_keys (fun _ => rfl) fun _ => rfl
  | workerMarks => exact Db.applyMark_keys _ _
  | operatorReviews => exact Db.applyMark_keys _ _

/-! ## Where records come from -/

/-- Every row comes from a call, and every call keeps a fresh copy of its own row. -/
structure System.Traced (s : System) : Prop where
  rows : ∀ k ∈ s.db.keys, ∃ c ∈ s.claims, k = (c.replayKey, c.profileKey)
  kept : ∀ (i : Nat) (p : Process) (r : SettlementRecord), s.processes[i]? = some p → p.phase.kept = some r →
    (∃ now, r = p.call.request.freshRecord r.recordId now) ∧
      ∃ row, s.db.record r.recordId = some row ∧ row.Of p.call.request
  unique : ∀ (i j : Nat) (p q : Process) (r r' : SettlementRecord), s.processes[i]? = some p →
    s.processes[j]? = some q → p.phase.kept = some r → q.phase.kept = some r' → r.recordId = r'.recordId → i = j
  answer : ∀ (i : Nat) (p : Process) (o : SettleOutcome) (r : SettlementRecord) (result : ProviderResult),
    s.processes[i]? = some p → p.phase = .finished (.ok o) (some (r, result)) → o = result.answer p.call r

theorem claims_set {i : Nat} {p : Process} {phase' : Phase} (hp : s.processes[i]? = some p) :
    ((s.processes.set i ⟨p.call, phase'⟩).map fun p => p.call.request) = s.claims :=
  Table.map_set_of_eq hp rfl

/-- The record of a call after its step: it was its record before, or it has just been committed. -/
theorem EngineStep.kept_cases {db db' : Db} {processes : List Process} {call : SettleCall} {phase phase' : Phase}
    {input : EngineInput} (hs : EngineStep hash db processes call phase input db' phase') {r : SettlementRecord}
    (h : phase'.kept = some r) :
    (∃ a, phase.ticket = some (r, a)) ∨
      ∃ attempt, phase = .claimStarted r attempt ∧ db' = db.addClaim r attempt := by
  rcases Phase.kept_cases h with ⟨a, ha⟩ | ⟨answer, result, hphase⟩
  · rcases hs.ticket_cases ha with ⟨hold, -⟩ | ⟨attempt, hold, -, hdb⟩
    · exact Or.inl ⟨a, hold⟩
    · exact Or.inr ⟨attempt, hold, hdb⟩
  · obtain ⟨a, hold, -⟩ := hs.result_cases hphase
    exact Or.inl ⟨a, by rw [hold]; rfl⟩

theorem EngineStep.traced (hc : s.Claims hash) (ht : s.Traced) {i : Nat} {p : Process} {input : EngineInput}
    {db' : Db} {phase' : Phase} (hp : s.processes[i]? = some p)
    (hs : EngineStep hash s.db s.processes p.call p.phase input db' phase') {s' : System} (hdb : s'.db = db')
    (hps : s'.processes = s.processes.set i ⟨p.call, phase'⟩) : s'.Traced := by
  subst hdb
  have hclaims : s'.claims = s.claims := by
    rw [System.claims, hps]
    exact claims_set hp
  have hrow : ∀ {id : Nat} {c : ClaimRequest}, (∃ row, s.db.record id = some row ∧ row.Of c) →
      ∃ row, s'.db.record id = some row ∧ row.Of c := by
    rintro id c ⟨row, hr, hof⟩
    obtain ⟨row', hr', hchange⟩ := hs.row hc.uniqueIds hr
    exact ⟨row', hr', hchange.of hof⟩
  -- a record that is new for this call is new for every call
  have hnew : ∀ {j : Nat} {q : Process} {r r' : SettlementRecord}, j ≠ i → s.processes[j]? = some q →
      q.phase.kept = some r' → phase'.kept = some r → r.recordId ≠ r'.recordId := by
    intro j q r r' hj hq hr' hr he
    rcases hs.kept_cases hr with ⟨a, hold⟩ | ⟨attempt, hold, -⟩
    · exact hj (ht.unique j i q p r' r hq hp hr' (Phase.kept_of_ticket hold) he.symm)
    · obtain ⟨-, hid⟩ := hc.pending hp (r := r) (by rw [hold]; rfl)
      obtain ⟨-, row, hrow', -⟩ := ht.kept j q r' hq hr'
      exact hid row (Table.row_mem hrow') ((Table.row_key hrow').trans he.symm)
  refine ⟨?_, ?_, ?_, ?_⟩
  · intro k hk
    rw [hclaims]
    rcases hs.keys hc hp with hkeys | hkeys <;> rw [hkeys] at hk
    · exact ht.rows k hk
    · rcases List.mem_append.mp hk with hk | hk
      · exact ht.rows k hk
      · exact ⟨_, List.mem_map.mpr ⟨p, List.mem_of_getElem? hp, rfl⟩, List.mem_singleton.mp hk⟩
  · intro j q r hq hr
    rw [hps] at hq
    rcases Table.set_cases hq with ⟨-, rfl⟩ | ⟨-, hq⟩
    · rcases hs.kept_cases hr with ⟨a, hold⟩ | ⟨attempt, hold, hdb⟩
      · obtain ⟨hfresh, hold'⟩ := ht.kept i p r hp (Phase.kept_of_ticket hold)
        exact ⟨hfresh, hrow hold'⟩
      · obtain ⟨⟨now, hfresh⟩, hid⟩ := hc.pending hp (r := r) (by rw [hold]; rfl)
        refine ⟨⟨now, hfresh⟩, r, ?_, ?_⟩
        · rw [hdb]
          exact Db.record_addClaim_self attempt hid
        · rw [hfresh]
          exact p.call.request.freshRecord_of _ _
    · obtain ⟨hfresh, hold⟩ := ht.kept j q r hq hr
      exact ⟨hfresh, hrow hold⟩
  · intro j k q q' r r' hq hq' hr hr' he
    rw [hps] at hq hq'
    rcases Table.set_cases hq with ⟨rfl, rfl⟩ | ⟨hj, hq₁⟩ <;>
      rcases Table.set_cases hq' with ⟨rfl, rfl⟩ | ⟨hk, hq₂⟩
    · rfl
    · exact absurd he (hnew hk hq₂ hr' hr)
    · exact absurd he.symm (hnew hj hq₁ hr hr')
    · exact ht.unique j k q q' r r' hq₁ hq₂ hr hr' he
  · intro j q o r result hq hphase
    rw [hps] at hq
    rcases Table.set_cases hq with ⟨-, rfl⟩ | ⟨-, hq⟩
    · obtain ⟨a, -, ⟨now, -, hans⟩ | ⟨now, e, -, -, hans⟩ | ⟨e, -, -, hans⟩⟩ := hs.result_cases hphase
      · exact Except.ok.inj hans
      · cases hans
      · cases hans
    · exact ht.answer j q o r result hq hphase

/-- An event that is no step of a call. -/
theorem System.Traced.of_rows (ht : s.Traced) (hkeys : s'.db.keys = s.db.keys)
    (hps : ∀ (i : Nat) (p : Process), s'.processes[i]? = some p →
      s.processes[i]? = some p ∨ p.phase.kept = none)
    (hclaims : ∀ c ∈ s.claims, c ∈ s'.claims)
    (hrow : ∀ id r, s.db.record id = some r → ∃ r', s'.db.record id = some r' ∧ RowChange r r') : s'.Traced := by
  have hold : ∀ {i : Nat} {p : Process} {r : SettlementRecord}, s'.processes[i]? = some p → p.phase.kept = some r →
      s.processes[i]? = some p := by
    intro i p r hp hr
    rcases hps i p hp with hp | hnone
    · exact hp
    · rw [hnone] at hr
      cases hr
  refine ⟨?_, ?_, ?_, ?_⟩
  · intro k hk
    rw [hkeys] at hk
    obtain ⟨c, hc, he⟩ := ht.rows k hk
    exact ⟨c, hclaims c hc, he⟩
  · intro i p r hp hr
    obtain ⟨hfresh, row, hrow', hof⟩ := ht.kept i p r (hold hp hr) hr
    obtain ⟨row', hr', hchange⟩ := hrow _ row hrow'
    exact ⟨hfresh, row', hr', hchange.of hof⟩
  · intro i j p q r r' hp hq hr hr'
    exact ht.unique i j p q r r' (hold hp hr) (hold hq hr') hr hr'
  · intro i p o r result hp hphase
    exact ht.answer i p o r result (hold (r := r) hp (by rw [hphase]; rfl)) hphase

theorem Step.traced (hc : s.Claims hash) (ht : s.Traced) (hs : Step hash s e s') : s'.Traced := by
  have hrow : ∀ id r, s.db.record id = some r → ∃ r', s'.db.record id = some r' ∧ RowChange r r' :=
    fun id r hr => hs.row hc.uniqueIds hr
  have hkeys := hs.keys
  cases hs with
  | engine hp hstep => exact hstep.traced hc ht hp rfl rfl
  | arrive call limited =>
    refine ht.of_rows (hkeys (by simp)) (fun i p hp => ?_) (fun c hc => ?_) hrow
    · rcases Table.append_cases hp with hp | ⟨-, rfl⟩
      · exact Or.inl hp
      · exact Or.inr (by cases limited <;> rfl)
    · rw [System.claims, List.map_append]
      exact List.mem_append_left _ hc
  | rest => exact ht.of_rows rfl (fun _ _ h => Or.inl h) (fun _ h => h) hrow
  | tick | workerClaims | workerMarks | released | operatorClaims | operatorReleases | operatorReviews =>
    exact ht.of_rows (hkeys (by simp)) (fun _ _ h => Or.inl h) (fun _ h => h) hrow

theorem traced_start : System.Traced {} := by
  constructor <;> simp [Db.keys]

theorem reachable_traced (h : (machine hash).Reachable s) : s.Traced := by
  refine h.invariant traced_start ?_
  intro s e t hs ht hn
  exact (reachable_step hs hn).traced (reachable_claims hs) ht

/-! ## Marks -/

/-- The statuses from which the engine finalises a record. -/
def awaitsEngine : SettlementStatus → Bool
  | .settleInProgress | .submitted => true
  | _ => false

theorem RowChange.awaitsEngine {r r' : SettlementRecord} (h : RowChange r r')
    (hr' : Postgres.awaitsEngine r'.status = true) : Postgres.awaitsEngine r.status = true := by
  rcases h.outcome with hsame | hmove
  · rw [← hsame.status]
    exact hr'
  · revert hmove hr'
    cases r.status <;> cases r'.status <;> simp [allowedMove, Postgres.awaitsEngine]

theorem awaitsEngine_of_mark {snapshot : SettlementRecord} {m : Db.Mark}
    (h : HostedSettlementReconciler.Mark.Ok snapshot m) : awaitsEngine m.status = false := by
  cases h <;> rfl

theorem awaitsEngine_of_expected {st : SettlementStatus} {expected : List SettlementStatus}
    (h : Db.expectedStatuses st = some expected) {a : SettlementStatus} (ha : a ∈ expected) : awaitsEngine a = true := by
  cases st <;> simp only [Db.expectedStatuses, Option.some.injEq, reduceCtorEq] at h <;> subst h <;>
    simp only [List.mem_cons, List.not_mem_nil, or_false] at ha
  case submitted | settleFailed => rw [ha]; rfl
  all_goals rcases ha with rfl | rfl <;> rfl

/-- Nobody has marked the record. -/
def System.Unmarked (s : System) (id : Nat) : Prop := ∀ ev ∈ s.leases, ev.marks id = false

/-- A call does not mark. -/
theorem engineLease_marks {phase phase' : Phase} {ev : LeaseEvent} (h : ev ∈ engineLease phase phase') {id : Nat} :
    ev.marks id = false := by
  unfold engineLease at h
  split at h
  · rw [List.mem_singleton.mp h]
    rfl
  · cases h

/-- A mark that has just committed: the row it leaves is out of the engine's reach. -/
theorem Step.marked (hs : Step hash s e s') {ev : LeaseEvent} {id : Nat} (hev : ev ∈ s'.leases)
    (hid : ev.marks id = true) :
    ev ∈ s.leases ∨ ∃ row, s'.db.record id = some row ∧ awaitsEngine row.status = false := by
  cases hs with
  | tick | arrive | rest => exact Or.inl hev
  | @engine i input p db' phase' hp hstep =>
    rcases List.mem_append.mp hev with hev | hev
    · exact Or.inl hev
    · rw [engineLease_marks hev] at hid
      cases hid
  | workerClaims | released | operatorClaims | operatorReleases =>
    rcases List.mem_append.mp hev with hev | hev
    · exact Or.inl hev
    · rw [List.mem_singleton.mp hev] at hid
      cases hid
  | workerMarks _ _ hdec _ _ hrow =>
    rcases List.mem_append.mp hev with hev | hev
    · exact Or.inl hev
    · right
      rw [List.mem_singleton.mp hev, LeaseEvent.marks, beq_iff_eq] at hid
      subst hid
      rw [Db.record_applyMark]
      exact ⟨_, Db.record_write_self (fun _ => rfl) hrow,
        awaitsEngine_of_mark (HostedSettlementReconciler.handleClaimed_ok hdec)⟩
  | operatorReviews _ hrow =>
    rcases List.mem_append.mp hev with hev | hev
    · exact Or.inl hev
    · right
      rw [List.mem_singleton.mp hev, LeaseEvent.marks, beq_iff_eq] at hid
      subst hid
      rw [Db.record_withAudit, Db.record_applyMark]
      exact ⟨_, Db.record_write_self (fun _ => rfl) hrow, rfl⟩

/-- A record that was marked is out of the engine's reach. -/
theorem reachable_marked (h : (machine hash).Reachable s) {ev : LeaseEvent} {id : Nat} (hev : ev ∈ s.leases)
    (hid : ev.marks id = true) : ∃ row, s.db.record id = some row ∧ awaitsEngine row.status = false := by
  refine h.invariant (I := fun s => ∀ ev ∈ s.leases, ev.marks id = true →
    ∃ row, s.db.record id = some row ∧ awaitsEngine row.status = false) (by simp [machine]) ?_ ev hev hid
  intro s e t hs ih hn ev hev hid
  have hstep := reachable_step hs hn
  rcases hstep.marked hev hid with hold | hnew
  · obtain ⟨row, hrow, hst⟩ := ih ev hold hid
    obtain ⟨row', hrow', hchange⟩ := hstep.row (reachable_claims hs).uniqueIds hrow
    refine ⟨row', hrow', ?_⟩
    cases hst' : awaitsEngine row'.status with
    | false => rfl
    | true =>
      rw [hchange.awaitsEngine hst'] at hst
      cases hst
  · exact hnew

/-- When the engine's finalising update goes through, nobody has marked the record. -/
theorem unmarked_of_finalize (h : (machine hash).Reachable s) {r : SettlementRecord} {a : Nat} {f : Finalization}
    {now : Instant} {db' : Db} (hok : s.db.markRecordAndFinishSettleAttempt r.recordId a f now = .ok db') :
    s.Unmarked r.recordId := by
  intro ev hev
  cases hm : ev.marks r.recordId with
  | false => rfl
  | true =>
    obtain ⟨row, hrow, hst⟩ := reachable_marked h hev hm
    obtain ⟨expected, row', hexp, hrow', hstatus, -⟩ := (Db.finalize_ok (reachable_claims h).uniqueIds).mp hok
    cases hrow.symm.trans hrow'
    rw [awaitsEngine_of_expected hexp hstatus] at hst
    cases hst

/-- When a call returns with its provider's result, nobody has marked its record. -/
theorem unmarked_of_returned (h : (machine hash).Reachable s) {i : Nat} {input : EngineInput}
    (hn : (machine hash).next s (.engine i input) = some s') {p : Process} (hp : s'.processes[i]? = some p)
    {o : SettleOutcome} {r : SettlementRecord} {result : ProviderResult}
    (hphase : p.phase = .finished (.ok o) (some (r, result))) : s'.Unmarked r.recordId := by
  obtain ⟨q, db', phase', hq, hstep, rfl⟩ := System.next_engine hn
  have hp' : p = ⟨q.call, phase'⟩ := by
    rcases Table.set_cases hp with ⟨-, he⟩ | ⟨hne, -⟩
    · exact he
    · exact absurd rfl hne
  subst hp'
  obtain ⟨a, -, ⟨now, hok, -⟩ | ⟨now, e, -, -, hans⟩ | ⟨e, -, -, hans⟩⟩ := (engineNext_step hstep).result_cases hphase
  · intro ev hev
    rcases List.mem_append.mp hev with hev | hev
    · exact unmarked_of_finalize h hok ev hev
    · exact engineLease_marks hev
  · cases hans
  · cases hans

/-! ## Stored outcomes -/

/-- Every call that has returned an outcome has it stored, unless the record was marked. -/
def System.Stored (s : System) : Prop :=
  ∀ (i : Nat) (p : Process) (o : SettleOutcome) (r : SettlementRecord) (result : ProviderResult),
    s.processes[i]? = some p → p.phase = .finished (.ok o) (some (r, result)) → s.Unmarked r.recordId →
    ∃ row, s.db.record r.recordId = some row ∧ (result.finalization p.call r).StoredIn row

theorem storedIn_of_sameOutcome {f : Finalization} {r r' : SettlementRecord} (h : f.StoredIn r)
    (hs : SameOutcome r r') : f.StoredIn r' :=
  ⟨hs.status.trans h.status, hs.transaction.trans h.transaction, hs.payer.trans h.payer,
    hs.errorReason.trans h.errorReason⟩

/-- An event that is no step of a call and does not mark the record leaves its outcome alone. -/
theorem Step.unmarked_row (hs : Step hash s e s') (he : ∀ i input, e ≠ .engine i input) {id : Nat}
    {r : SettlementRecord} (h : s.db.record id = some r) (hun : s'.Unmarked id) :
    ∃ r', s'.db.record id = some r' ∧ SameOutcome r r' := by
  have hlease : ∀ {f : SettlementRecord → SettlementRecord} {rid : Nat}, (∀ r, (f r).recordId = r.recordId) →
      (∀ r, SameOutcome r (f r)) → ∃ r', (s.db.write rid f).record id = some r' ∧ SameOutcome r r' := by
    intro f rid hid hsame
    rw [Db.record_write_some hid h]
    refine ⟨_, rfl, ?_⟩
    split
    · exact hsame r
    · exact .refl r
  cases hs with
  | tick | arrive | rest => exact ⟨r, h, .refl r⟩
  | engine => exact absurd rfl (he _ _)
  | workerClaims | released | operatorClaims | operatorReleases =>
    exact hlease (fun _ => rfl) fun _ => ⟨rfl, rfl, rfl, rfl⟩
  | @workerMarks w reply now reading lease config snapshot row m =>
    have hne : id ≠ snapshot.recordId := by
      rintro rfl
      have := hun _ (List.mem_append_right _ (List.mem_singleton.mpr rfl))
      simp [LeaseEvent.marks] at this
    rw [Db.record_applyMark]
    exact ⟨r, Db.record_write_other (fun _ => rfl) hne h, .refl r⟩
  | @operatorReviews c =>
    have hne : id ≠ c.recordId := by
      rintro rfl
      have := hun _ (List.mem_append_right _ (List.mem_singleton.mpr rfl))
      simp [LeaseEvent.marks] at this
    rw [Db.record_withAudit, Db.record_applyMark]
    exact ⟨r, Db.record_write_other (fun _ => rfl) hne h, .refl r⟩

/-- A step of a call stores its own outcome and leaves those of the finished calls alone. -/
theorem EngineStep.stored (hc : s.Claims hash) (ht : s.Traced) (hst : s.Stored) {i : Nat} {p : Process}
    {input : EngineInput} {db' : Db} {phase' : Phase} (hp : s.processes[i]? = some p)
    (hs : EngineStep hash s.db s.processes p.call p.phase input db' phase') {s' : System} (hdb : s'.db = db')
    (hps : s'.processes = s.processes.set i ⟨p.call, phase'⟩) (hleases : ∀ ev ∈ s.leases, ev ∈ s'.leases) :
    s'.Stored := by
  subst hdb
  intro j q o r result hq hphase hun
  rw [hps] at hq
  rcases Table.set_cases hq with ⟨-, rfl⟩ | ⟨hj, hq⟩
  · obtain ⟨a, -, ⟨now, hok, -⟩ | ⟨now, e, -, -, hans⟩ | ⟨e, -, -, hans⟩⟩ := hs.result_cases hphase
    · obtain ⟨expected, row, -, hrow, -, hdb⟩ := (Db.finalize_ok hc.uniqueIds).mp hok
      rw [hdb]
      exact ⟨_, Db.record_write_self (fun _ => rfl) hrow, ⟨rfl, rfl, rfl, rfl⟩⟩
    · cases hans
    · cases hans
  · obtain ⟨row, hrow, hstored⟩ := hst j q o r result hq hphase fun ev hev => hun ev (hleases ev hev)
    have hkept : q.phase.kept = some r := by rw [hphase]; rfl
    have hown : p.phase.owned ≠ some r.recordId := by
      intro ho
      rcases Phase.owned_cases ho with ⟨r', hr', hid⟩ | ⟨r', a, hr', hid⟩
      · exact (hc.pending hp hr').2 row (Table.row_mem hrow) ((Table.row_key hrow).trans hid.symm)
      · exact hj (ht.unique j i q p r r' hq hp hkept (Phase.kept_of_ticket hr') hid.symm)
    obtain ⟨row', hrow', hsame⟩ := hs.frame hc.uniqueIds hrow hown
    exact ⟨row', hrow', storedIn_of_sameOutcome hstored hsame⟩

theorem Step.stored (hc : s.Claims hash) (ht : s.Traced) (hst : s.Stored) (hs : Step hash s e s') : s'.Stored := by
  have hkeep : (∀ i input, e ≠ .engine i input) → (∀ ev ∈ s.leases, ev ∈ s'.leases) →
      (∀ (i : Nat) (p : Process), s'.processes[i]? = some p → s.processes[i]? = some p ∨ p.phase.kept = none) →
      s'.Stored := by
    intro he hleases hps i p o r result hp hphase hun
    rcases hps i p hp with hp | hnone
    · obtain ⟨row, hrow, hstored⟩ := hst i p o r result hp hphase fun ev hev => hun ev (hleases ev hev)
      obtain ⟨row', hrow', hsame⟩ := hs.unmarked_row he hrow hun
      exact ⟨row', hrow', storedIn_of_sameOutcome hstored hsame⟩
    · rw [hphase] at hnone
      cases hnone
  cases hs with
  | engine hp hstep => exact hstep.stored hc ht hst hp rfl rfl fun ev hev => List.mem_append_left _ hev
  | @rest e' _ _ =>
    intro i p o r result hp hphase hun
    exact hst i p o r result hp hphase hun
  | arrive call limited =>
    refine hkeep (by simp) (fun _ h => h) fun i p hp => ?_
    rcases Table.append_cases hp with hp | ⟨-, rfl⟩
    · exact Or.inl hp
    · exact Or.inr (by cases limited <;> rfl)
  | tick => exact hkeep (by simp) (fun _ h => h) fun _ _ h => Or.inl h
  | workerClaims | workerMarks | released | operatorClaims | operatorReleases | operatorReviews =>
    exact hkeep (by simp) (fun _ h => List.mem_append_left _ h) fun _ _ h => Or.inl h

/-- In every reachable state a call that has returned has its outcome stored, unless the record was marked since. -/
theorem reachable_stored (h : (machine hash).Reachable s) : s.Stored := by
  refine h.invariant (by simp [System.Stored, machine]) ?_
  intro s e t hs hst hn
  exact (reachable_step hs hn).stored (reachable_claims hs) (reachable_traced hs) hst

/-! ## One record for a payment -/

/-- Two rows of a payment with coherent requests have one replay key, hence are one row. -/
theorem reachable_unique (h : (machine hash).Reachable s) {payment : PaymentKey} (hc : Coherent payment s.claims)
    {r r' : SettlementRecord} (hr : r ∈ s.db.records) (hk : r.paymentKey = payment) (hr' : r' ∈ s.db.records)
    (hk' : r'.paymentKey = payment) : r = r' := by
  have hkeys : (s.db.records.map fun r => r.replayKey.coalesce).Nodup := by
    have hrows := (reachable_claims h).keys
    rw [Db.rows, List.map_map] at hrows
    exact hrows
  have hof : ∀ r ∈ s.db.records, ∃ c ∈ s.claims, r.Of c := by
    intro r hr
    obtain ⟨c, hc, he⟩ := (reachable_traced h).rows _ (List.mem_map_of_mem hr)
    rw [Prod.mk.injEq] at he
    exact ⟨c, hc, he.1, he.2⟩
  obtain ⟨c, hcm, hrc⟩ := hof r hr
  obtain ⟨c', hcm', hrc'⟩ := hof r' hr'
  have hreplay : r.replayKey = r'.replayKey := by
    rw [hrc.replayKey, hrc'.replayKey]
    exact hc c hcm (hrc.paymentKey.symm.trans hk) c' hcm' (hrc'.paymentKey.symm.trans hk')
  exact List.inj_on_of_nodup_map hkeys hr hr' (by rw [hreplay])

/-- A row of the payment carries the replay key of every coherent request for it. -/
theorem replayKey_of_paymentKey (h : (machine hash).Reachable s) {c : ClaimRequest}
    (hc : Coherent c.paymentKey (c :: s.claims)) {r : SettlementRecord} (hr : r ∈ s.db.records) (hk : r.paymentKey = c.paymentKey) : r.replayKey = c.replayKey := by
  obtain ⟨c', hc', he⟩ := (reachable_traced h).rows _ (List.mem_map_of_mem hr)
  rw [Prod.mk.injEq] at he
  have hof : r.Of c' := ⟨he.1, he.2⟩
  rw [hof.replayKey]
  exact hc c' (List.mem_cons_of_mem _ hc') (hof.paymentKey.symm.trans hk) c List.mem_cons_self rfl

end Step

end HostedFacilitator.Postgres
