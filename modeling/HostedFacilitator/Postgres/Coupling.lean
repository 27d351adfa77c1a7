import HostedFacilitator.Postgres.StatusMachine

/-!
# Records and attempts

A claim commits one record and one attempt together, so the two tables stay in step: read as lists of record ids with
a flag for "open", they are equal (`Coupling.paired`). The engine closes its attempt by id and without a guard on the
attempt's status; the guard on the record's status does for both, since the record of a running call is never
`submitted` (`Coupling.tickets`).

* `reachable_coupling`: every reachable state has the invariant;
* `record_attempt_coupling`: every record has exactly one attempt, which is `started` exactly while the record is
  `settle_in_progress`, and an attempt that has left `started` never changes again.
-/

namespace HostedFacilitator.Postgres

/-! ## The two tables side by side -/

namespace Db

/-- The ids and statuses of the records. -/
def statuses (db : Db) : List (Nat × SettlementStatus) := db.records.map fun r => (r.recordId, r.status)

/-- For each record, whether it is in progress. -/
def openRecords (db : Db) : List (Nat × Bool) := db.statuses.map fun v => (v.1, v.2 == .settleInProgress)

/-- For each attempt, its record and whether it is still `started`. -/
def openAttempts (db : Db) : List (Nat × Bool) :=
  db.attempts.map fun a => (a.settlementRecordId, a.status == .started)

/-- The ids of the attempts and of their records. -/
def attemptIds (db : Db) : List (Nat × Nat) := db.attempts.map fun a => (a.attemptId, a.settlementRecordId)

/-- The attempt with this id. -/
def attempt (db : Db) (attemptId : Nat) : Option SettlementAttemptRecord :=
  Table.row SettlementAttemptRecord.attemptId attemptId db.attempts

/-- The flag of `id` goes down. -/
def close (id : Nat) (flags : List (Nat × Bool)) : List (Nat × Bool) :=
  flags.map fun v => if v.1 = id then (v.1, false) else v

variable {db : Db} {id : Nat}

theorem write_statuses {f : SettlementRecord → SettlementRecord} (hid : ∀ r, (f r).recordId = r.recordId)
    (hs : ∀ r, (f r).status = r.status) :
    (db.write id f).statuses = db.statuses :=
  Table.map_update fun r => by rw [hid, hs]

/-- A transition out of `settle_in_progress` closes the record. -/
theorem transition_openRecords {st : SettlementStatus} (hs : st ≠ .settleInProgress) (t p e : Option String)
    (now : Instant) : (db.write id (transition st t p e now)).openRecords = close id db.openRecords := by
  simp only [openRecords, statuses, write, Table.update, close, List.map_map]
  apply List.map_congr_left
  intro r _
  by_cases he : r.recordId = id
  · simp [he, hs]
  · simp [he]

theorem mem_statuses {row : SettlementRecord} (h : db.record id = some row) : (id, row.status) ∈ db.statuses := by
  have hid : row.recordId = id := Table.row_key h
  rw [← hid]
  exact List.mem_map_of_mem (Table.row_mem h)

theorem finalize_statuses (attemptId : Nat) (fin : Finalization) (now : Instant) :
    (db.finalize id attemptId fin now).statuses =
      (db.write id (transition fin.recordStatus fin.transaction fin.payer fin.errorReason now)).statuses := rfl

theorem applyMark_statuses (m : Mark) (now : Instant) :
    (db.applyMark id m now).statuses =
      (db.write id (transition m.status m.transaction m.payer m.errorReason now)).statuses := by
  simp [statuses, applyMark]

@[simp] theorem statuses_withAudit (events : List ReconciliationAuditEvent) (n : Nat) :
    (db.withAudit events n).statuses = db.statuses := rfl

/-- A status that was not there before comes from the transition. -/
theorem mem_transition_statuses {i : Nat} {st st' : SettlementStatus} {t p e : Option String} {now : Instant}
    (h : (i, st) ∈ (db.write id (transition st' t p e now)).statuses) :
    (i, st) ∈ db.statuses ∨ i = id ∧ st = st' := by
  obtain ⟨r', hr', he⟩ := List.mem_map.mp h
  obtain ⟨r, hr, rfl⟩ := Table.mem_update.mp hr'
  rw [Prod.mk.injEq] at he
  by_cases hk : r.recordId = id
  · simp only [hk, beq_self_eq_true, if_true] at he
    exact Or.inr ⟨he.1.symm.trans hk, he.2.symm⟩
  · simp only [beq_eq_false_iff_ne.mpr hk, Bool.false_eq_true, if_false] at he
    exact Or.inl (List.mem_map.mpr ⟨r, hr, by rw [he.1, he.2]⟩)

/-! ## Closing attempts -/

/-- The reconciliation's update closes the attempt of the record, if it is open. -/
theorem finishStartedAttempts_openAttempts {st : SettlementStatus} (now : Instant) (t e : Option String)
    (hst : attemptStatusForReconciledStatus st ≠ none) :
    (db.finishStartedAttempts id st now t e).openAttempts = close id db.openAttempts := by
  unfold finishStartedAttempts
  split
  · exact absurd ‹_› hst
  · rename_i status hstatus
    have hne : status ≠ .started := by
      rintro rfl
      cases st <;> cases hstatus
    simp only [openAttempts, Table.update, close, List.map_map]
    apply List.map_congr_left
    intro a _
    by_cases he : a.settlementRecordId = id
    · by_cases hs : a.status = .started <;> simp [he, hs, hne]
    · simp [he]

/-- It leaves closed attempts alone. -/
theorem finishStartedAttempts_kept {a : SettlementAttemptRecord} (st : SettlementStatus) (now : Instant)
    (t e : Option String) (ha : a ∈ db.attempts) (hs : a.status ≠ .started) :
    a ∈ (db.finishStartedAttempts id st now t e).attempts := by
  unfold finishStartedAttempts
  split
  · exact ha
  · exact Table.mem_update_of_not ha (by simp [hs])

theorem finishStartedAttempts_attemptIds (st : SettlementStatus) (now : Instant) (t e : Option String) :
    (db.finishStartedAttempts id st now t e).attemptIds = db.attemptIds := by
  unfold finishStartedAttempts
  split
  · rfl
  · exact Table.map_update fun _ => rfl

theorem finishStartedAttempts_nextAttemptId (st : SettlementStatus) (now : Instant) (t e : Option String) :
    (db.finishStartedAttempts id st now t e).nextAttemptId = db.nextAttemptId := by
  unfold finishStartedAttempts
  split <;> rfl

/-- The engine finalises a record that is in progress or submitted. -/
theorem expectedStatuses_cases {st st' : SettlementStatus} {expected : List SettlementStatus}
    (h : expectedStatuses st = some expected) (hm : st' ∈ expected) : st' = .settleInProgress ∨ st' = .submitted := by
  cases st <;> simp only [expectedStatuses, Option.some.injEq, reduceCtorEq] at h <;> subst h <;> simp_all

/-- Every mark is to a status that closes attempts, and not to `submitted`. -/
theorem mark_closes {snapshot : SettlementRecord} {m : Mark} (h : HostedSettlementReconciler.Mark.Ok snapshot m) :
    attemptStatusForReconciledStatus m.status ≠ none ∧ m.status ≠ .settleInProgress ∧ m.status ≠ .submitted := by
  cases h <;> exact ⟨nofun, nofun, nofun⟩

end Db

/-! ## The invariant -/

/-- The tables are in step, and every running call has its own attempt. -/
structure Coupling (db : Db) (processes : List Process) : Prop where
  paired : db.openAttempts = db.openRecords
  ids : (db.attempts.map SettlementAttemptRecord.attemptId).Nodup
  bound : ∀ a ∈ db.attempts, a.attemptId < db.nextAttemptId
  pending : ∀ (i : Nat) (p : Process) (r : SettlementRecord) (a : SettlementAttemptRecord),
    processes[i]? = some p → p.phase = .claimStarted r a →
    a.settlementRecordId = r.recordId ∧ a.status = .started ∧ a.attemptId < db.nextAttemptId ∧
      ∀ a' ∈ db.attempts, a'.attemptId ≠ a.attemptId
  apart : ∀ (i j : Nat) (p q : Process) (r r' : SettlementRecord) (a a' : SettlementAttemptRecord),
    processes[i]? = some p → processes[j]? = some q → p.phase = .claimStarted r a → q.phase = .claimStarted r' a' →
    a.attemptId = a'.attemptId → i = j
  tickets : ∀ (i : Nat) (p : Process) (r : SettlementRecord) (a : Nat), processes[i]? = some p →
    p.phase.ticket = some (r, a) → (a, r.recordId) ∈ db.attemptIds ∧ (r.recordId, .submitted) ∉ db.statuses

/-- Every claim and every uncommitted attempt after a step was there before it. -/
def Fewer (processes processes' : List Process) : Prop :=
  ∀ (i : Nat) (q : Process), processes'[i]? = some q →
    (∀ r a, q.phase = .claimStarted r a → ∃ p, processes[i]? = some p ∧ p.phase = .claimStarted r a) ∧
    ∀ t, q.phase.ticket = some t → ∃ p, processes[i]? = some p ∧ p.phase.ticket = some t

theorem Fewer.refl (processes : List Process) : Fewer processes processes :=
  fun _ q hq => ⟨fun _ _ h => ⟨q, hq, h⟩, fun _ h => ⟨q, hq, h⟩⟩

section Fewer

variable {processes : List Process} {i : Nat} {p : Process} {phase' : Phase}

theorem Fewer.set (hp : processes[i]? = some p)
    (hstarted : ∀ r a, phase' = .claimStarted r a → p.phase = .claimStarted r a)
    (hticket : ∀ t, phase'.ticket = some t → p.phase.ticket = some t) :
    Fewer processes (processes.set i ⟨p.call, phase'⟩) := by
  intro j q hq
  rcases Table.set_cases hq with ⟨rfl, rfl⟩ | ⟨-, hq⟩
  · exact ⟨fun r a h => ⟨p, hp, hstarted r a h⟩, fun t h => ⟨p, hp, hticket t h⟩⟩
  · exact Fewer.refl processes j q hq

theorem Fewer.drop (hp : processes[i]? = some p) (hown : phase'.owned = none) :
    Fewer processes (processes.set i ⟨p.call, phase'⟩) := by
  refine Fewer.set hp ?_ ?_
  · rintro r a rfl
    cases hown
  · intro t ht
    rw [Phase.owned_of_ticket ht] at hown
    cases hown

theorem Fewer.arrive (hi : p.phase.idle = true) : Fewer processes (processes ++ [p]) := by
  intro j q hq
  rcases Table.append_cases hq with hq | ⟨-, rfl⟩
  · exact Fewer.refl processes j q hq
  · constructor
    · intro r a h
      rw [h] at hi
      cases hi
    · intro t h
      have hown := Phase.owned_of_bare (Phase.bare_of_idle hi)
      rw [Phase.owned_of_ticket h] at hown
      cases hown

end Fewer

namespace Coupling

variable {db db' : Db} {processes processes' : List Process} {i : Nat} {p : Process}

theorem map_attemptId (db : Db) : db.attempts.map SettlementAttemptRecord.attemptId = db.attemptIds.map Prod.fst := by
  simp [Db.attemptIds]

/-- Attempts are identified by their record. -/
theorem recordIds (h : Coupling db processes) (hn : db.UniqueIds) :
    (db.attempts.map SettlementAttemptRecord.settlementRecordId).Nodup := by
  have hfst := congrArg (List.map Prod.fst) h.paired
  simp only [Db.openAttempts, Db.openRecords, Db.statuses, List.map_map] at hfst
  have hrec : (db.records.map SettlementRecord.recordId).Nodup := hn
  exact hfst ▸ hrec

/-- The tables change, the ids of the attempts do not. -/
theorem of_tables (h : Coupling db processes) (hfew : Fewer processes processes')
    (hpair : db'.openAttempts = db'.openRecords) (hids : db'.attemptIds = db.attemptIds)
    (hn : db'.nextAttemptId = db.nextAttemptId)
    (hsub : ∀ (i : Nat) (p : Process) r a, processes'[i]? = some p → p.phase.ticket = some (r, a) →
      (r.recordId, .submitted) ∈ db'.statuses → (r.recordId, .submitted) ∈ db.statuses) :
    Coupling db' processes' := by
  have hattempt : ∀ {a' : SettlementAttemptRecord}, a' ∈ db'.attempts →
      ∃ a ∈ db.attempts, a.attemptId = a'.attemptId := by
    intro a' ha'
    have hm : (a'.attemptId, a'.settlementRecordId) ∈ db.attemptIds := by
      rw [← hids]
      exact List.mem_map_of_mem ha'
    obtain ⟨a, ha, he⟩ := List.mem_map.mp hm
    exact ⟨a, ha, (Prod.mk.inj he).1⟩
  refine ⟨hpair, ?_, ?_, ?_, ?_, ?_⟩
  · rw [map_attemptId, hids, ← map_attemptId]
    exact h.ids
  · intro a' ha'
    obtain ⟨a, ha, he⟩ := hattempt ha'
    rw [← he, hn]
    exact h.bound a ha
  · intro i q r a hq hphase
    obtain ⟨p, hp, hold⟩ := (hfew i q hq).1 r a hphase
    obtain ⟨hrec, hst, hlt, hne⟩ := h.pending i p r a hp hold
    refine ⟨hrec, hst, by rw [hn]; exact hlt, fun a' ha' => ?_⟩
    obtain ⟨a'', ha'', he⟩ := hattempt ha'
    rw [← he]
    exact hne a'' ha''
  · intro i j q q' r r' a a' hq hq' hphase hphase' he
    obtain ⟨p, hp, hold⟩ := (hfew i q hq).1 r a hphase
    obtain ⟨p', hp', hold'⟩ := (hfew j q' hq').1 r' a' hphase'
    exact h.apart i j p p' r r' a a' hp hp' hold hold' he
  · intro i q r a hq ht
    obtain ⟨p, hp, hold⟩ := (hfew i q hq).2 (r, a) ht
    obtain ⟨hm, hs⟩ := h.tickets i p r a hp hold
    exact ⟨by rw [hids]; exact hm, fun hmem => hs (hsub i q r a hq ht hmem)⟩

/-- No status and no attempt changes. -/
theorem frame (h : Coupling db processes) (hfew : Fewer processes processes') (hst : db'.statuses = db.statuses)
    (hat : db'.attempts = db.attempts) (hn : db'.nextAttemptId = db.nextAttemptId) : Coupling db' processes' := by
  refine h.of_tables hfew ?_ ?_ hn fun i p r a _ _ hm => by rw [← hst]; exact hm
  · rw [Db.openAttempts, hat, Db.openRecords, hst]
    exact h.paired
  · rw [Db.attemptIds, hat, Db.attemptIds]

/-- An attempt is inserted and not yet committed. -/
theorem start (h : Coupling db processes) {r : SettlementRecord} {now : Instant} (hp : processes[i]? = some p) :
    Coupling { db with nextAttemptId := db.nextAttemptId + 1 } (processes.set i
      ⟨p.call, .claimStarted r (p.call.request.startedAttempt db.nextAttemptId r.recordId now)⟩) := by
  refine ⟨h.paired, h.ids, fun a ha => Nat.lt_succ_of_lt (h.bound a ha), ?_, ?_, ?_⟩
  · intro j q r' a hq hphase
    rcases Table.set_cases hq with ⟨-, rfl⟩ | ⟨-, hq⟩
    · cases hphase
      exact ⟨rfl, rfl, Nat.lt_succ_self _, fun a ha => Nat.ne_of_lt (h.bound a ha)⟩
    · obtain ⟨hrec, hst, hlt, hne⟩ := h.pending j q r' a hq hphase
      exact ⟨hrec, hst, Nat.lt_succ_of_lt hlt, hne⟩
  · intro j k q q' r₁ r₂ a a' hq hq' hphase hphase' he
    rcases Table.set_cases hq with ⟨rfl, rfl⟩ | ⟨-, hq⟩ <;> rcases Table.set_cases hq' with ⟨rfl, rfl⟩ | ⟨-, hq₂⟩
    · rfl
    · cases hphase
      obtain ⟨-, -, hlt, -⟩ := h.pending k q' r₂ a' hq₂ hphase'
      exact absurd he (Nat.ne_of_gt hlt)
    · cases hphase'
      obtain ⟨-, -, hlt, -⟩ := h.pending j q r₁ a (by assumption) hphase
      exact absurd he (Nat.ne_of_lt hlt)
    · exact h.apart j k q q' r₁ r₂ a a' hq hq₂ hphase hphase' he
  · intro j q r' a hq ht
    rcases Table.set_cases hq with ⟨-, rfl⟩ | ⟨-, hq⟩
    · cases ht
    · exact h.tickets j q r' a hq ht

/-- A record and its attempt are committed together. -/
theorem commit (h : Coupling db processes) {r : SettlementRecord} {a : SettlementAttemptRecord}
    (hp : processes[i]? = some p) (hphase : p.phase = .claimStarted r a) (hst : r.status = .settleInProgress)
    (hid : ∀ r' ∈ db.records, r'.recordId ≠ r.recordId) :
    Coupling (db.addClaim r a) (processes.set i ⟨p.call, .claimed r a.attemptId⟩) := by
  obtain ⟨hrec, hstarted, hlt, hne⟩ := h.pending i p r a hp hphase
  have hstatuses : (db.addClaim r a).statuses = db.statuses ++ [(r.recordId, .settleInProgress)] := by
    simp [Db.statuses, Db.addClaim, hst]
  have hids : (db.addClaim r a).attemptIds = db.attemptIds ++ [(a.attemptId, r.recordId)] := by
    simp [Db.attemptIds, Db.addClaim, hrec]
  have hsub : ∀ {id : Nat}, (id, .submitted) ∈ (db.addClaim r a).statuses → (id, .submitted) ∈ db.statuses := by
    intro id hm
    rw [hstatuses] at hm
    simpa using hm
  refine ⟨?_, ?_, ?_, ?_, ?_, ?_⟩
  · have hpair := h.paired
    simp only [Db.openAttempts, Db.openRecords, Db.statuses, Db.addClaim, List.map_append, List.map_singleton,
      List.map_map] at hpair ⊢
    rw [hpair, hrec, hstarted, hst]
    rfl
  · exact Table.nodup_append_fresh h.ids hne
  · intro a' ha'
    rcases List.mem_append.mp ha' with ha' | ha'
    · exact h.bound a' ha'
    · rw [List.mem_singleton.mp ha']
      exact hlt
  · intro j q r' a' hq hphase'
    rcases Table.set_cases hq with ⟨-, rfl⟩ | ⟨hj, hq⟩
    · cases hphase'
    · obtain ⟨hrec', hst', hlt', hne'⟩ := h.pending j q r' a' hq hphase'
      refine ⟨hrec', hst', hlt', fun b hb => ?_⟩
      rcases List.mem_append.mp hb with hb | hb
      · exact hne' b hb
      · rw [List.mem_singleton.mp hb]
        exact fun he => hj (h.apart j i q p r' r a' a hq hp hphase' hphase he.symm)
  · intro j k q q' r₁ r₂ a₁ a₂ hq hq' h₁ h₂ he
    rcases Table.set_cases hq with ⟨-, rfl⟩ | ⟨-, hq⟩
    · cases h₁
    · rcases Table.set_cases hq' with ⟨-, rfl⟩ | ⟨-, hq'⟩
      · cases h₂
      · exact h.apart j k q q' r₁ r₂ a₁ a₂ hq hq' h₁ h₂ he
  · intro j q r' a' hq ht
    rcases Table.set_cases hq with ⟨-, rfl⟩ | ⟨-, hq⟩
    · cases ht
      refine ⟨by rw [hids]; simp, fun hm => ?_⟩
      obtain ⟨r', hr', he⟩ := List.mem_map.mp (hsub hm)
      exact hid r' hr' (Prod.mk.inj he).1
    · obtain ⟨hm, hs⟩ := h.tickets j q r' a' hq ht
      exact ⟨by rw [hids]; exact List.mem_append_left _ hm, fun hm' => hs (hsub hm')⟩

/-- The attempt of a running call is the one attempt of its record. -/
theorem own_attempt (h : Coupling db processes) (hn : db.UniqueIds) {r : SettlementRecord} {aid : Nat}
    (hp : processes[i]? = some p) (ht : p.phase.ticket = some (r, aid)) {a : SettlementAttemptRecord}
    (ha : a ∈ db.attempts) : a.attemptId = aid ↔ a.settlementRecordId = r.recordId := by
  obtain ⟨own, hown, he⟩ := List.mem_map.mp (h.tickets i p r aid hp ht).1
  rw [Prod.mk.injEq] at he
  constructor
  · intro hid
    rw [List.inj_on_of_nodup_map h.ids ha hown (hid.trans he.1.symm), he.2]
  · intro hid
    rw [List.inj_on_of_nodup_map (h.recordIds hn) ha hown (hid.trans he.2.symm), he.1]

/-- A record that a running call can finalise is in progress, so its attempt is `started`. -/
theorem finalizable_started (h : Coupling db processes) (hn : db.UniqueIds) {r row : SettlementRecord} {aid : Nat}
    {st : SettlementStatus} {expected : List SettlementStatus} (hp : processes[i]? = some p)
    (ht : p.phase.ticket = some (r, aid)) (hexp : Db.expectedStatuses st = some expected)
    (hrow : db.record r.recordId = some row) (hst : row.status ∈ expected) {a : SettlementAttemptRecord}
    (ha : a ∈ db.attempts) (hid : a.attemptId = aid) : a.status = .started := by
  have hmem := Db.mem_statuses hrow
  have hprog : row.status = .settleInProgress := by
    rcases Db.expectedStatuses_cases hexp hst with hs | hs
    · exact hs
    · rw [hs] at hmem
      exact absurd hmem (h.tickets i p r aid hp ht).2
  have hopen : (r.recordId, true) ∈ db.openAttempts := by
    rw [h.paired]
    exact List.mem_map.mpr ⟨_, hmem, by rw [hprog]; rfl⟩
  obtain ⟨a', ha', he⟩ := List.mem_map.mp hopen
  rw [Prod.mk.injEq, beq_iff_eq] at he
  have hrec := (h.own_attempt hn hp ht ha).mp hid
  rw [List.inj_on_of_nodup_map (h.recordIds hn) ha ha' (hrec.trans he.1.symm)]
  exact he.2

/-- A call finalises its record and its attempt. -/
theorem finalize (h : Coupling db processes) (hn : db.UniqueIds) {r : SettlementRecord} {aid : Nat}
    {f : Finalization} {now : Instant} {answer : Except PyErr SettleOutcome}
    {settled : Option (SettlementRecord × ProviderResult)} (hp : processes[i]? = some p)
    (ht : p.phase.ticket = some (r, aid))
    (hother : ∀ (j : Nat) (q : Process) r' a', j ≠ i → processes[j]? = some q → q.phase.ticket = some (r', a') →
      r'.recordId ≠ r.recordId)
    (hf : f.recordStatus ≠ .settleInProgress) (hfa : f.attemptStatus ≠ .started) :
    Coupling (db.finalize r.recordId aid f now) (processes.set i ⟨p.call, .finished answer settled⟩) := by
  refine h.of_tables (Fewer.drop hp rfl) ?_ ?_ rfl ?_
  · have hrecords : (db.finalize r.recordId aid f now).openRecords = Db.close r.recordId db.openRecords := by
      rw [Db.openRecords, Db.finalize_statuses]
      exact Db.transition_openRecords hf _ _ _ _
    rw [hrecords, ← h.paired]
    simp only [Db.openAttempts, Db.finalize, Table.update, Db.close, List.map_map]
    apply List.map_congr_left
    intro a ha
    have hown := h.own_attempt hn hp ht ha
    by_cases hid : a.attemptId = aid
    · simp [hid, hown.mp hid, Db.finishAttempt, hfa]
    · simp [hid, mt hown.mpr hid]
  · exact Table.map_update fun _ => rfl
  · intro j q r' a' hq ht' hm
    rcases Table.set_cases hq with ⟨-, rfl⟩ | ⟨hj, hq⟩
    · cases ht'
    · rw [Db.finalize_statuses] at hm
      rcases Db.mem_transition_statuses hm with hold | ⟨he, -⟩
      · exact hold
      · exact absurd he (hother j q r' a' hj hq ht')

/-- A lease holder marks a record and closes its attempt. -/
theorem mark (h : Coupling db processes) {m : Db.Mark} {snapshot : SettlementRecord}
    (hm : HostedSettlementReconciler.Mark.Ok snapshot m) (id : Nat) (now : Instant) :
    Coupling (db.applyMark id m now) processes := by
  obtain ⟨hclose, hopen, hsub⟩ := Db.mark_closes hm
  refine h.of_tables (Fewer.refl processes) ?_ ?_ ?_ ?_
  · have hattempts : (db.applyMark id m now).openAttempts = Db.close id db.openAttempts :=
      Db.finishStartedAttempts_openAttempts now _ _ hclose
    rw [hattempts, Db.openRecords, Db.applyMark_statuses, h.paired]
    exact (Db.transition_openRecords hopen _ _ _ _).symm
  · exact Db.finishStartedAttempts_attemptIds _ _ _ _
  · exact Db.finishStartedAttempts_nextAttemptId _ _ _ _
  · intro i p r a _ _ hmem
    rw [Db.applyMark_statuses] at hmem
    rcases Db.mem_transition_statuses hmem with hold | ⟨-, hs⟩
    · exact hold
    · exact absurd hs.symm hsub

end Coupling

/-! ## Every reachable state -/

section Reachable

variable {hash : String → Int} {s s' : System} {e : Event}

/-- The claims of other calls are on other records. -/
theorem System.Claims.other_record (hc : s.Claims hash) {i j : Nat} {p q : Process} {r r' : SettlementRecord}
    {a a' : Nat} (hp : s.processes[i]? = some p) (hq : s.processes[j]? = some q) (hj : j ≠ i)
    (ht : p.phase.ticket = some (r, a)) (ht' : q.phase.ticket = some (r', a')) : r'.recordId ≠ r.recordId := by
  intro he
  have howned := Phase.owned_of_ticket ht'
  rw [he] at howned
  exact hj (hc.owners j i q p _ hq hp howned (Phase.owned_of_ticket ht))

/-- One step of a call keeps the tables in step. -/
theorem EngineStep.coupling (hc : s.Claims hash) (h : Coupling s.db s.processes) {i : Nat} {p : Process}
    {input : EngineInput} {db' : Db} {phase' : Phase} (hp : s.processes[i]? = some p)
    (hs : EngineStep hash s.db s.processes p.call p.phase input db' phase') :
    Coupling db' (s.processes.set i ⟨p.call, phase'⟩) := by
  have hn := hc.uniqueIds
  obtain ⟨call, phase⟩ := p
  simp only at hs ⊢
  cases hs with
  | leave _ hidle =>
    exact h.frame (Fewer.drop hp (Phase.owned_of_bare (Phase.bare_of_idle hidle))) rfl rfl rfl
  | search _ _ hsearch =>
    have hown : phase'.owned = none := by cases phase' <;> first | rfl | cases hsearch
    exact h.frame (Fewer.drop hp hown) rfl rfl rfl
  | lock | miss | refuse | abort => exact h.frame (Fewer.drop hp rfl) rfl rfl rfl
  | insert => exact h.frame (Fewer.set hp (by simp) (by simp [Phase.ticket])) rfl rfl rfl
  | invoke | reply => exact h.frame (Fewer.set hp (by simp) fun _ ht => ht) rfl rfl rfl
  | count =>
    refine h.frame (Fewer.drop hp rfl) ?_ rfl rfl
    exact Db.write_statuses (fun _ => rfl) fun _ => rfl
  | start => exact h.start hp
  | commit =>
    obtain ⟨⟨now, hfresh⟩, hid⟩ := hc.pending hp rfl
    exact h.commit hp rfl (by rw [hfresh]; rfl) hid
  | finalize hok =>
    obtain ⟨-, -, -, -, -, rfl⟩ := (Db.finalize_ok hn).mp hok
    obtain ⟨hrecord, hattempt⟩ := finalization_closes _ call _
    exact h.finalize hn hp rfl (fun j q r' a' hj hq ht => hc.other_record hp hq hj rfl ht) hrecord hattempt

/-- One event keeps the tables in step. -/
theorem Step.coupling (hc : s.Claims hash) (h : Coupling s.db s.processes) (hs : Step hash s e s') :
    Coupling s'.db s'.processes := by
  cases hs with
  | tick | rest => exact h
  | arrive call limited => exact h.frame (Fewer.arrive (by cases limited <;> rfl)) rfl rfl rfl
  | engine hp hstep => exact hstep.coupling hc h hp
  | workerClaims | released | operatorClaims | operatorReleases =>
    refine h.frame (Fewer.refl _) ?_ rfl rfl
    exact Db.write_statuses (fun _ => rfl) fun _ => rfl
  | workerMarks _ _ hdec => exact h.mark (HostedSettlementReconciler.handleClaimed_ok hdec) _ _
  | operatorReviews => exact (h.mark (.manualReview _) _ _).frame (Fewer.refl _) rfl rfl rfl

theorem coupling_start : Coupling {} [] := by
  constructor <;> simp [Db.openAttempts, Db.openRecords, Db.statuses]

/-- In every reachable state the tables are in step. -/
theorem reachable_coupling (h : (machine hash).Reachable s) : Coupling s.db s.processes := by
  refine h.invariant (I := fun s => Coupling s.db s.processes) coupling_start ?_
  intro s e t hs hcoupled hn
  exact (reachable_step hs hn).coupling (reachable_claims hs) hcoupled

/-- A closed attempt is not touched. -/
theorem Step.attempt_kept (hc : s.Claims hash) (h : Coupling s.db s.processes) (hs : Step hash s e s')
    {a : SettlementAttemptRecord} (ha : a ∈ s.db.attempts) (hclosed : a.status ≠ .started) : a ∈ s'.db.attempts := by
  have hn := hc.uniqueIds
  cases hs with
  | tick | rest | arrive => exact ha
  | workerClaims | released | operatorClaims | operatorReleases => exact ha
  | workerMarks => exact Db.finishStartedAttempts_kept _ _ _ _ ha hclosed
  | operatorReviews => exact Db.finishStartedAttempts_kept _ _ _ _ ha hclosed
  | @engine i input p db' phase' hp hstep =>
    obtain ⟨call, phase⟩ := p
    simp only at hstep ⊢
    cases hstep with
    | leave | search | lock | miss | insert | refuse | abort | invoke | reply | count | start => exact ha
    | commit => exact List.mem_append_left _ ha
    | finalize hok =>
      obtain ⟨expected, row, hexp, hrow, hst, rfl⟩ := (Db.finalize_ok hn).mp hok
      refine Table.mem_update_of_not ha ?_
      have hne := mt (h.finalizable_started hn hp rfl hexp hrow hst ha) hclosed
      simpa using hne

/-- The attempt of a record: exactly one, open exactly while the record is in progress. -/
theorem Coupling.attempt_of_record {db : Db} {processes : List Process} (h : Coupling db processes)
    (hn : db.UniqueIds) {r : SettlementRecord} (hr : r ∈ db.records) :
    ∃ a, db.attempts.filter (fun a => a.settlementRecordId == r.recordId) = [a] ∧
      (a.status = .started ↔ r.status = .settleInProgress) := by
  have hmem : (r.recordId, r.status == .settleInProgress) ∈ db.openAttempts := by
    rw [h.paired]
    exact List.mem_map.mpr ⟨(r.recordId, r.status), List.mem_map_of_mem hr, rfl⟩
  obtain ⟨a, ha, he⟩ := List.mem_map.mp hmem
  rw [Prod.mk.injEq] at he
  have hin : a ∈ db.attempts.filter (fun a => a.settlementRecordId == r.recordId) :=
    List.mem_filter.mpr ⟨ha, beq_iff_eq.mpr he.1⟩
  have hlen := Table.length_filter_le_one (h.recordIds hn) r.recordId
  refine ⟨a, ?_, ?_⟩
  · obtain ⟨b, hb⟩ := List.length_eq_one_iff.mp (Nat.le_antisymm hlen (List.length_pos_of_mem hin))
    rw [hb, List.mem_singleton] at hin
    rw [hb, hin]
  · rw [← beq_iff_eq (a := a.status), he.2, beq_iff_eq]

/-- In every reachable state every record has exactly one attempt, `started` exactly while the record is in progress,
and an attempt that has left `started` never changes again. -/
theorem record_attempt_coupling (h : (machine hash).Reachable s) :
    (∀ r ∈ s.db.records, ∃ a, s.db.attempts.filter (fun a => a.settlementRecordId == r.recordId) = [a] ∧
      (a.status = .started ↔ r.status = .settleInProgress)) ∧
    ∀ es t, (machine hash).Leads s es t → ∀ id a, s.db.attempt id = some a → a.status ≠ .started →
      t.db.attempt id = some a := by
  refine ⟨fun r hr => (reachable_coupling h).attempt_of_record (reachable_claims h).uniqueIds hr, ?_⟩
  intro es t hl id a ha hclosed
  unfold Db.attempt at ha ⊢
  have hkept : a ∈ t.db.attempts := by
    refine hl.keeps (R := fun s t => ∀ a ∈ s.db.attempts, a.status ≠ .started → a ∈ t.db.attempts) ?_ ?_ ?_ h a
      (Table.row_mem ha) hclosed
    · exact fun _ _ ha _ => ha
    · exact fun s t u hst htu a ha hs => htu a (hst a ha hs) hs
    · intro s e t hs hn a ha hst
      exact (reachable_step hs hn).attempt_kept (reachable_claims hs) (reachable_coupling hs) ha hst
  have hid : a.attemptId = id := Table.row_key ha
  exact (Table.row_eq_some (reachable_coupling (h.leads hl)).ids).mpr ⟨hkept, hid⟩

/-- After the race the only attempt is closed, so it stays as it is. -/
theorem record_attempt_coupling_race :
    ∃ s a, (machine fun _ => 0).Reaches raceEvents s ∧ s.db.attempt 1 = some a ∧ a.status = .settled ∧
      ∀ es t, (machine fun _ => 0).Leads s es t → t.db.attempt 1 = some a := by
  have hrun : ((machine fun _ => 0).run {} raceEvents).map (fun s => (s.db.attempt 1).map (·.status)) =
      some (some .settled) := by decide
  obtain ⟨s, hs, hfirst⟩ := Option.map_eq_some_iff.mp hrun
  obtain ⟨a, ha, hstatus⟩ := Option.map_eq_some_iff.mp hfirst
  refine ⟨s, a, hs, ha, hstatus, fun es t hl => ?_⟩
  exact (record_attempt_coupling ⟨raceEvents, hs⟩).2 es t hl 1 a ha (by rw [hstatus]; decide)

end Reachable

end HostedFacilitator.Postgres
