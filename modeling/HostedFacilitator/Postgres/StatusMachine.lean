import HostedFacilitator.Postgres.AtMostOnce

/-!
# The status machine of a record

`RowChange` lists what one event can do to a row that exists before it: about ten guarded updates of the engine,
the reconcilers and the operators come down to seven shapes, of which two write the status.

* `Step.row`: an event never removes a row and changes it in one of these ways;
* `status_machine`: the status only moves along `allowedMove`, and a terminal record keeps its status, transaction,
  payer and error reason for the rest of every run.
-/

namespace HostedFacilitator.Postgres

/-- The moves of the status machine. -/
def allowedMove : SettlementStatus → SettlementStatus → Bool
  | .settleInProgress, .submitted | .settleInProgress, .settled | .settleInProgress, .settleFailed
  | .settleInProgress, .unknown => true
  | .submitted, .settled | .submitted, .unknown => true
  | .unknown, .settled | .unknown, .settleFailed | .unknown, .manualReview => true
  | _, _ => false

/-- The statuses nothing leaves. -/
def terminal : SettlementStatus → Bool
  | .settled | .settleFailed | .manualReview => true
  | _ => false

theorem allowedMove_of_terminal {a b : SettlementStatus} (h : terminal a = true) : allowedMove a b = false := by
  cases a <;> cases b <;> first | rfl | cases h

/-- What a record says about its outcome. -/
structure SameOutcome (r r' : SettlementRecord) : Prop where
  status : r'.status = r.status
  transaction : r'.transaction = r.transaction
  payer : r'.payer = r.payer
  errorReason : r'.errorReason = r.errorReason

theorem SameOutcome.refl (r : SettlementRecord) : SameOutcome r r := ⟨rfl, rfl, rfl, rfl⟩

theorem SameOutcome.trans {r r' r'' : SettlementRecord} (h : SameOutcome r r') (h' : SameOutcome r' r'') :
    SameOutcome r r'' :=
  ⟨h'.status.trans h.status, h'.transaction.trans h.transaction, h'.payer.trans h.payer,
    h'.errorReason.trans h.errorReason⟩

/-! ## Changes of one row -/

/-- What one event does to a row. -/
inductive RowChange (r : SettlementRecord) : SettlementRecord → Prop
  | kept : RowChange r r
  | counted (now : Instant) : RowChange r (r.recordDuplicateClaim now)
  | leased (owner : String) (lease : Instant) : RowChange r (Db.takeLease owner lease r)
  | stamped (owner : String) (lease now : Instant) : RowChange r (Db.operatorLease owner lease now r)
  | dropped (now : Instant) : RowChange r (Db.dropLease now r)
  | finalized {f : Finalization} {expected : List SettlementStatus} (now : Instant)
      (guard : Db.expectedStatuses f.recordStatus = some expected) (status : r.status ∈ expected) :
      RowChange r (Db.transition f.recordStatus f.transaction f.payer f.errorReason now r)
  | marked {snapshot : SettlementRecord} {m : Db.Mark} (now : Instant)
      (mark : HostedSettlementReconciler.Mark.Ok snapshot m) (status : r.status ∈ m.expected) :
      RowChange r (Db.transition m.status m.transaction m.payer m.errorReason now r)

/-- The engine's guards are moves of the machine. -/
theorem allowedMove_of_expected {a b : SettlementStatus} {expected : List SettlementStatus}
    (h : Db.expectedStatuses b = some expected) (ha : a ∈ expected) : allowedMove a b = true := by
  cases b <;> simp only [Db.expectedStatuses, Option.some.injEq, reduceCtorEq] at h <;> subst h <;>
    simp only [List.mem_cons, List.not_mem_nil, or_false] at ha
  case submitted | settleFailed => rw [ha]; rfl
  all_goals rcases ha with rfl | rfl <;> rfl

/-- The guards of the four marks are moves of the machine. -/
theorem allowedMove_of_mark {snapshot : SettlementRecord} {m : Db.Mark} {a : SettlementStatus}
    (h : HostedSettlementReconciler.Mark.Ok snapshot m) (ha : a ∈ m.expected) : allowedMove a m.status = true := by
  cases h with
  | settled =>
    simp only [Db.markReconciledSettled, List.mem_cons, List.not_mem_nil, or_false] at ha
    rcases ha with rfl | rfl | rfl <;> rfl
  | failed =>
    simp only [Db.markReconciledFailed, List.mem_cons, List.not_mem_nil, or_false] at ha
    rcases ha with rfl | rfl <;> rfl
  | unknown =>
    simp only [Db.markReconciledUnknown, List.mem_cons, List.not_mem_nil, or_false] at ha
    rcases ha with rfl | rfl <;> rfl
  | manualReview =>
    simp only [Db.markManualReview, List.mem_cons, List.not_mem_nil, or_false] at ha
    rw [ha]
    rfl

namespace RowChange

variable {r r' : SettlementRecord}

/-- A change of a row keeps what it says about its outcome, or is a move of the machine. -/
theorem outcome (h : RowChange r r') : SameOutcome r r' ∨ allowedMove r.status r'.status = true := by
  cases h with
  | kept | counted | leased | stamped | dropped => exact Or.inl ⟨rfl, rfl, rfl, rfl⟩
  | finalized now guard status => exact Or.inr (allowedMove_of_expected guard status)
  | marked now mark status => exact Or.inr (allowedMove_of_mark mark status)

theorem recordId (h : RowChange r r') : r'.recordId = r.recordId := by cases h <;> rfl

/-- A terminal row keeps what it says. -/
theorem of_terminal (h : RowChange r r') (ht : terminal r.status = true) : SameOutcome r r' := by
  rcases h.outcome with hs | hm
  · exact hs
  · rw [allowedMove_of_terminal ht] at hm
    cases hm

end RowChange

/-! ## Rows under an event -/

namespace Db

variable {db : Db} {id recordId : Nat} {f : SettlementRecord → SettlementRecord} {r : SettlementRecord}

theorem record_write (hid : ∀ r, (f r).recordId = r.recordId) :
    (db.write recordId f).record id = (db.record id).map fun r => if r.recordId == recordId then f r else r :=
  Table.row_update hid

/-- A row after an update of one id: that row is written, every other row is kept. -/
theorem record_write_some (hid : ∀ r, (f r).recordId = r.recordId) (h : db.record id = some r) :
    (db.write recordId f).record id = some (if id = recordId then f r else r) := by
  have hr : r.recordId = id := Table.row_key h
  rw [record_write hid, h, Option.map_some, hr]
  by_cases he : id = recordId <;> simp [he]

theorem record_write_other (hid : ∀ r, (f r).recordId = r.recordId) (hne : id ≠ recordId)
    (h : db.record id = some r) : (db.write recordId f).record id = some r := by
  rw [record_write_some hid h, if_neg hne]

theorem record_write_self (hid : ∀ r, (f r).recordId = r.recordId) (h : db.record recordId = some r) :
    (db.write recordId f).record recordId = some (f r) := by
  rw [record_write_some hid h, if_pos rfl]

@[simp] theorem record_withAudit (events : List ReconciliationAuditEvent) (n : Nat) :
    (db.withAudit events n).record id = db.record id := rfl

theorem record_applyMark (m : Mark) (now : Instant) :
    (db.applyMark recordId m now).record id =
      (db.write recordId (transition m.status m.transaction m.payer m.errorReason now)).record id := by
  simp [record, applyMark]

theorem record_addClaim (a : SettlementAttemptRecord) {r' : SettlementRecord} (h : db.record id = some r) :
    (db.addClaim r' a).record id = some r := by
  unfold record at h ⊢
  rw [addClaim, Table.row_append, h]
  rfl

theorem record_addClaim_self (a : SettlementAttemptRecord) (h : ∀ r' ∈ db.records, r'.recordId ≠ r.recordId) :
    (db.addClaim r a).record r.recordId = some r := by
  unfold record addClaim
  rw [Table.row_append, Table.row_eq_none.mpr h]
  simp [Table.row]

/-- An update of one id is a change of the row with that id. -/
theorem change_write {row : SettlementRecord} (hid : ∀ r, (f r).recordId = r.recordId)
    (hrow : db.record recordId = some row) (hf : RowChange row (f row)) (h : db.record id = some r) :
    ∃ r', (db.write recordId f).record id = some r' ∧ RowChange r r' := by
  rw [record_write_some hid h]
  by_cases he : id = recordId
  · subst he
    cases h.symm.trans hrow
    exact ⟨f r, by rw [if_pos rfl], hf⟩
  · exact ⟨r, by rw [if_neg he], .kept⟩

end Db

section Step

variable {hash : String → Int} {s s' : System} {e : Event} {id : Nat} {r : SettlementRecord}

/-- What one step of a call does to a row. -/
theorem EngineStep.row (hn : s.db.UniqueIds) {p : Process} {input : EngineInput} {db' : Db} {phase' : Phase}
    (hs : EngineStep hash s.db s.processes p.call p.phase input db' phase') (h : s.db.record id = some r) :
    ∃ r', db'.record id = some r' ∧ RowChange r r' := by
  obtain ⟨call, phase⟩ := p
  simp only at hs
  cases hs with
  | leave | lock | miss | search | insert | start | invoke | reply | refuse | abort => exact ⟨r, h, .kept⟩
  | commit => exact ⟨r, Db.record_addClaim _ h, .kept⟩
  | @count now _ row _ =>
    rw [Db.record_write_some (f := SettlementRecord.recordDuplicateClaim now) (fun _ => rfl) h]
    refine ⟨_, rfl, ?_⟩
    split
    · exact .counted now
    · exact .kept
  | finalize hok =>
    obtain ⟨expected, row, hexp, hrow, hstatus, rfl⟩ := (Db.finalize_ok hn).mp hok
    exact Db.change_write (fun _ => rfl) hrow (.finalized _ hexp hstatus) h

/-- A call leaves the outcomes of other calls' records alone. -/
theorem EngineStep.frame (hn : s.db.UniqueIds) {p : Process} {input : EngineInput} {db' : Db} {phase' : Phase}
    (hs : EngineStep hash s.db s.processes p.call p.phase input db' phase') (h : s.db.record id = some r)
    (hown : p.phase.owned ≠ some id) : ∃ r', db'.record id = some r' ∧ SameOutcome r r' := by
  obtain ⟨call, phase⟩ := p
  simp only at hs hown
  cases hs with
  | leave | lock | miss | search | insert | start | invoke | reply | refuse | abort => exact ⟨r, h, .refl r⟩
  | commit => exact ⟨r, Db.record_addClaim _ h, .refl r⟩
  | @count now _ row _ =>
    rw [Db.record_write_some (f := SettlementRecord.recordDuplicateClaim now) (fun _ => rfl) h]
    refine ⟨_, rfl, ?_⟩
    split <;> exact ⟨rfl, rfl, rfl, rfl⟩
  | @finalize now row _ result _ hok =>
    obtain ⟨expected, -, -, -, -, rfl⟩ := (Db.finalize_ok hn).mp hok
    have hne : id ≠ row.recordId := fun he => hown (by rw [he]; rfl)
    exact ⟨r, Db.record_write_other (fun _ => rfl) hne h, .refl r⟩

/-- What one event does to a row. -/
theorem Step.row (hn : s.db.UniqueIds) (hs : Step hash s e s') (h : s.db.record id = some r) :
    ∃ r', s'.db.record id = some r' ∧ RowChange r r' := by
  cases hs with
  | tick | arrive | rest => exact ⟨r, h, .kept⟩
  | engine _ hstep => exact hstep.row hn h
  | workerClaims _ _ hrow _ => exact Db.change_write (fun _ => rfl) hrow (.leased _ _) h
  | released _ hrow => exact Db.change_write (fun _ => rfl) hrow (.dropped _) h
  | operatorClaims _ hrow _ => exact Db.change_write (fun _ => rfl) hrow (.stamped _ _ _) h
  | operatorReleases _ hrow => exact Db.change_write (fun _ => rfl) hrow (.dropped _) h
  | workerMarks _ _ hm _ _ hrow hstatus =>
    rw [Db.record_applyMark]
    exact Db.change_write (fun _ => rfl) hrow
      (.marked _ (HostedSettlementReconciler.handleClaimed_ok hm) hstatus) h
  | operatorReviews _ hrow hstatus =>
    rw [Db.record_withAudit, Db.record_applyMark]
    exact Db.change_write (fun _ => rfl) hrow
      (.marked _ (.manualReview _) (by simp [Db.operatorReview, Db.markManualReview, hstatus])) h

/-- What a terminal record says never changes again. -/
theorem terminal_kept (hs : (machine hash).Reachable s) {es : List Event} (h : (machine hash).Leads s es s')
    (hr : s.db.record id = some r) (ht : terminal r.status = true) :
    ∃ r', s'.db.record id = some r' ∧ SameOutcome r r' := by
  have hkeep : ∀ r, s.db.record id = some r → terminal r.status = true →
      ∃ r', s'.db.record id = some r' ∧ SameOutcome r r' := by
    refine h.keeps (R := fun s s' => ∀ r, s.db.record id = some r → terminal r.status = true →
      ∃ r', s'.db.record id = some r' ∧ SameOutcome r r') ?_ ?_ ?_ hs
    · exact fun s r hr _ => ⟨r, hr, .refl r⟩
    · intro s t u hst htu r hr ht
      obtain ⟨r', hr', hsame⟩ := hst r hr ht
      obtain ⟨r'', hr'', hsame'⟩ := htu r' hr' (by rw [hsame.status]; exact ht)
      exact ⟨r'', hr'', hsame.trans hsame'⟩
    · intro s e t hs hn r hr ht
      obtain ⟨r', hr', hchange⟩ := (reachable_step hs hn).row (reachable_claims hs).uniqueIds hr
      exact ⟨r', hr', hchange.of_terminal ht⟩
  exact hkeep r hr ht

/-- In every run each change of a record's status is a move of the machine, and once a record is terminal its status,
transaction, payer and error reason never change again. -/
theorem status_machine (hs : (machine hash).Reachable s) (hr : s.db.record id = some r) :
    (∀ e t, (machine hash).next s e = some t → ∃ r', t.db.record id = some r' ∧
      (r'.status = r.status ∨ allowedMove r.status r'.status = true)) ∧
    (terminal r.status = true → ∀ es t, (machine hash).Leads s es t → ∃ r', t.db.record id = some r' ∧
      SameOutcome r r') := by
  constructor
  · intro e t hn
    obtain ⟨r', hr', hchange⟩ := (reachable_step hs hn).row (reachable_claims hs).uniqueIds hr
    refine ⟨r', hr', ?_⟩
    rcases hchange.outcome with hsame | hmove
    · exact Or.inl hsame.status
    · exact Or.inr hmove
  · intro ht es t h
    exact terminal_kept hs h hr ht

/-- After the race the record is settled, so nothing that follows touches its outcome. -/
theorem status_machine_race :
    ∃ s r, (machine fun _ => 0).Reaches raceEvents s ∧ s.db.record 1 = some r ∧ terminal r.status = true ∧
      ∀ es t, (machine fun _ => 0).Leads s es t → ∃ r', t.db.record 1 = some r' ∧ SameOutcome r r' := by
  have hrun : ((machine fun _ => 0).run {} raceEvents).map (fun s => (s.db.record 1).map (·.status)) =
      some (some .settled) := by decide
  obtain ⟨s, hs, hrec⟩ := Option.map_eq_some_iff.mp hrun
  obtain ⟨r, hr, hstatus⟩ := Option.map_eq_some_iff.mp hrec
  have ht : terminal r.status = true := by rw [hstatus]; rfl
  exact ⟨s, r, hs, hr, ht, (status_machine ⟨raceEvents, hs⟩ hr).2 ht⟩

end Step

end HostedFacilitator.Postgres
