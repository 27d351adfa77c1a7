import HostedFacilitator.Lib.History
import HostedFacilitator.Postgres.StatusMachine

/-!
# Leases fence reconciliation

Who may change a record's status outside the engine is decided by the pair of owner and lease on its row, which a
claimant compares with the pair it was given. The row carries exactly what the last lease event of the record left
there (`Fence.rows`), so a mark that goes through belongs to the most recent claim.

* `Step.lease`: an event leaves leases alone, or is one lease event on one row;
* `reachable_fence`: every reachable state has the invariant;
* `lease_fencing`: claims take free leases only, every mark belongs to the most recent claim, no claim is used twice,
  and no two marks of a record start from the same status.
-/

namespace HostedFacilitator.Postgres

namespace LeaseEvent

def recordId : LeaseEvent → Nat
  | .claimed _ id _ _ _ | .cleared id | .marked _ id _ _ _ _ _ => id

/-- What identifies a claim: record, owner and lease. -/
def claimKey : LeaseEvent → Option (Nat × String × Instant)
  | .claimed _ id owner lease _ => some (id, owner, lease)
  | _ => none

/-- The claim that a mark uses. -/
def markKey : LeaseEvent → Option (Nat × String × Instant)
  | .marked _ id owner lease _ _ _ => some (id, owner, lease)
  | _ => none

/-- The record and the status that a mark starts from. -/
def markSource : LeaseEvent → Option (Nat × SettlementStatus)
  | .marked _ id _ _ _ source _ => some (id, source)
  | _ => none

/-- The status that a mark leads to. -/
def target : LeaseEvent → Option SettlementStatus
  | .marked _ _ _ _ _ _ target => some target
  | _ => none

/-- The owner and the lease that the event leaves on the row. -/
def leaves : LeaseEvent → Option String × Option Instant
  | .claimed _ _ owner lease _ => (some owner, some lease)
  | _ => (none, none)

end LeaseEvent

/-- The owner and the lease on a row. -/
def rowLease (r : SettlementRecord) : Option String × Option Instant :=
  (r.reconciliationOwner, r.reconciliationLeaseUntil)

/-- The last lease event of a record. -/
def lastLease (id : Nat) (leases : List LeaseEvent) : Option LeaseEvent :=
  History.last (fun ev => ev.recordId == id) leases

/-! ## Lease events -/

/-- No lease changes and no reconciler gets hold of a record. -/
structure Quiet (s s' : System) : Prop where
  log : s'.leases = s.leases
  rows : ∀ id row', s'.db.record id = some row' →
    (∃ row, s.db.record id = some row ∧ rowLease row' = rowLease row) ∨
      s.db.record id = none ∧ rowLease row' = (none, none)
  holders : ∀ (w : Nat) (config : HostedSettlementReconciler) (held : SettlementRecord × Instant),
    s'.workers[w]? = some ⟨config, some held⟩ → s.workers[w]? = some ⟨config, some held⟩

/-- What an event demands of the row it is about. -/
inductive LeaseGuard (s : System) (row : SettlementRecord) : LeaseEvent → Prop
  | claimed {who : Claimant} {owner : String} {lease reading : Instant} (time : reading ≤ s.clock)
      (free : Db.leaseFree reading row = true) : LeaseGuard s row (.claimed who row.recordId owner lease reading)
  | cleared : LeaseGuard s row (.cleared row.recordId)
  | marked {who : Claimant} {owner : String} {lease reading : Instant} {target : SettlementStatus}
      (time : reading ≤ s.clock) (leased : rowLease row = (some owner, some lease)) (live : reading < lease)
      (move : allowedMove row.status target = true)
      (snapshot : ∀ w, who = .worker w → ∃ config snapshot now, s.workers[w]? = some ⟨config, some (snapshot, now)⟩ ∧
        snapshot.recordId = row.recordId ∧ config.owner = owner ∧ snapshot.reconciliationLeaseUntil = some lease) :
      LeaseGuard s row (.marked who row.recordId owner lease reading row.status target)

/-- One lease event, on one row. -/
structure LeaseMove (s s' : System) (ev : LeaseEvent) (row row' : SettlementRecord) : Prop where
  log : s'.leases = s.leases ++ [ev]
  before : s.db.record ev.recordId = some row
  after : s'.db.record ev.recordId = some row'
  others : ∀ id, id ≠ ev.recordId → s'.db.record id = s.db.record id
  effect : rowLease row' = ev.leaves
  status : ∀ t, ev.target = some t → row'.status = t
  guard : LeaseGuard s row ev
  holders : ∀ (w : Nat) (config : HostedSettlementReconciler) (held : SettlementRecord × Instant),
    s'.workers[w]? = some ⟨config, some held⟩ → s.workers[w]? = some ⟨config, some held⟩ ∨
      ∃ lease reading, ev = .claimed (.worker w) held.1.recordId config.owner lease reading ∧
        held.1.reconciliationLeaseUntil = some lease

section Step

variable {hash : String → Int} {s s' : System} {e : Event}

/-- Other rows stay as they are. -/
theorem Db.record_write_ne {db : Db} {id recordId : Nat} {f : SettlementRecord → SettlementRecord}
    (hid : ∀ r, (f r).recordId = r.recordId) (hne : id ≠ recordId) :
    (db.write recordId f).record id = db.record id := by
  rw [Db.record_write hid]
  cases h : db.record id with
  | none => rfl
  | some r =>
    have hr : r.recordId = id := Table.row_key h
    simp [hr, hne]

/-- A row is written whose lease fields the update does not touch. -/
theorem quiet_write {id : Nat} {f : SettlementRecord → SettlementRecord} (hlog : s'.leases = s.leases)
    (hdb : s'.db = s.db.write id f) (hworkers : s'.workers = s.workers) (hid : ∀ r, (f r).recordId = r.recordId)
    (hlease : ∀ r, rowLease (f r) = rowLease r) : Quiet s s' := by
  refine ⟨hlog, fun i row' h => ?_, fun w config held h => by rw [← hworkers]; exact h⟩
  rw [hdb, Db.record_write hid] at h
  obtain ⟨row, hrow, rfl⟩ := Option.map_eq_some_iff.mp h
  refine Or.inl ⟨row, hrow, ?_⟩
  split
  · exact hlease row
  · rfl

/-- A commit adds a row without a lease. -/
theorem quiet_addClaim {r : SettlementRecord} {a : SettlementAttemptRecord} (hlog : s'.leases = s.leases)
    (hdb : s'.db = s.db.addClaim r a) (hworkers : s'.workers = s.workers) (hr : rowLease r = (none, none)) :
    Quiet s s' := by
  refine ⟨hlog, fun i row' h => ?_, fun w config held h => by rw [← hworkers]; exact h⟩
  cases hold : s.db.record i with
  | some row =>
    rw [hdb, Db.record_addClaim _ hold] at h
    cases h
    exact Or.inl ⟨row', rfl, rfl⟩
  | none =>
    rw [hdb] at h
    unfold Db.record at h hold
    unfold Db.addClaim at h
    rw [Table.row_append, hold, Option.none_or] at h
    rw [List.mem_singleton.mp (Table.row_mem h)]
    exact Or.inr ⟨rfl, hr⟩

/-- One row is written, and the event says what it leaves there. -/
theorem move_write (f : SettlementRecord → SettlementRecord) {id : Nat} {ev : LeaseEvent} {row : SettlementRecord}
    (hrow : s.db.record id = some row) (hid : ∀ r, (f r).recordId = r.recordId) (hev : ev.recordId = id)
    (hdb : ∀ i, s'.db.record i = (s.db.write id f).record i) (hlog : s'.leases = s.leases ++ [ev])
    (heffect : rowLease (f row) = ev.leaves) (hstatus : ∀ t, ev.target = some t → (f row).status = t)
    (hguard : LeaseGuard s row ev)
    (hholders : ∀ (w : Nat) (config : HostedSettlementReconciler) (held : SettlementRecord × Instant),
      s'.workers[w]? = some ⟨config, some held⟩ → s.workers[w]? = some ⟨config, some held⟩ ∨
        ∃ lease reading, ev = .claimed (.worker w) held.1.recordId config.owner lease reading ∧
          held.1.reconciliationLeaseUntil = some lease) : ∃ ev row row', LeaseMove s s' ev row row' := by
  subst hev
  refine ⟨ev, row, f row, hlog, hrow, ?_, fun i hi => ?_, heffect, hstatus, hguard, hholders⟩
  · rw [hdb]
    exact Db.record_write_self hid hrow
  · rw [hdb]
    exact Db.record_write_ne hid hi

/-- One step of a call drops the lease of the record it finalises, or leaves leases alone. -/
theorem EngineStep.lease (hc : s.Claims hash) {i : Nat} {p : Process} {input : EngineInput} {db' : Db}
    {phase' : Phase} (hp : s.processes[i]? = some p)
    (hs : EngineStep hash s.db s.processes p.call p.phase input db' phase') {s' : System} (hdb : s'.db = db')
    (hlog : s'.leases = s.leases ++ engineLease p.phase phase') (hworkers : s'.workers = s.workers) :
    Quiet s s' ∨ ∃ ev row row', LeaseMove s s' ev row row' := by
  obtain ⟨call, phase⟩ := p
  simp only at hs hlog
  have hsame : engineLease phase phase' = [] → s'.db.records = s.db.records → Quiet s s' := by
    intro hnil hrec
    refine ⟨by rw [hlog, hnil, List.append_nil], fun id row' h => Or.inl ⟨row', ?_, rfl⟩,
      fun w config held h => by rw [← hworkers]; exact h⟩
    rw [← h, Db.record, Db.record, hrec]
  cases hs with
  | leave _ hidle hends =>
    refine Or.inl (hsame ?_ (by rw [hdb]))
    rcases hends with hends | rfl
    · cases phase <;> first | rfl | cases hends
    · cases phase <;> rfl
  | search hlock _ _ _ =>
    refine Or.inl (hsame ?_ (by rw [hdb]))
    cases phase <;> first | rfl | cases hlock
  | lock | miss | insert | start | invoke | reply | refuse | abort => exact Or.inl (hsame rfl (by rw [hdb]))
  | commit =>
    obtain ⟨⟨now, hfresh⟩, -⟩ := hc.pending hp rfl
    exact Or.inl (quiet_addClaim (by rw [hlog]; exact List.append_nil _) hdb hworkers (by rw [hfresh]; rfl))
  | count =>
    exact Or.inl (quiet_write (by rw [hlog]; exact List.append_nil _) hdb hworkers (fun _ => rfl) fun _ => rfl)
  | @finalize now r a result _ hok =>
    obtain ⟨expected, row, -, hrow, -, rfl⟩ := (Db.finalize_ok hc.uniqueIds).mp hok
    have hid : row.recordId = r.recordId := Table.row_key hrow
    have hguard : LeaseGuard s row (.cleared r.recordId) := by
      rw [← hid]
      exact .cleared
    let f := result.finalization call r
    refine Or.inr (move_write (Db.transition f.recordStatus f.transaction f.payer f.errorReason now) hrow
      (fun _ => rfl) rfl (fun i => ?_) hlog rfl (by simp [LeaseEvent.target]) hguard
      fun w config held h => Or.inl (by rw [← hworkers]; exact h))
    rw [hdb]
    rfl

/-- An event leaves leases alone, or is one lease event on one row. -/
theorem Step.lease (hc : s.Claims hash) (hs : Step hash s e s') :
    Quiet s s' ∨ ∃ ev row row', LeaseMove s s' ev row row' := by
  cases hs with
  | tick | arrive => exact Or.inl ⟨rfl, fun id row' h => Or.inl ⟨row', h, rfl⟩, fun _ _ _ h => h⟩
  | rest hkept => exact Or.inl ⟨rfl, fun id row' h => Or.inl ⟨row', h, rfl⟩, hkept⟩
  | engine hp hstep => exact hstep.lease hc hp rfl rfl rfl
  | @workerClaims w recordId status now reading config row hw htime hrow hfree =>
    have hid : row.recordId = recordId := Table.row_key hrow
    have hguard : LeaseGuard s row (.claimed (.worker w) recordId config.owner (config.leaseUntil now) reading) := by
      rw [← hid]
      exact .claimed htime hfree
    refine Or.inr (move_write (Db.takeLease config.owner (config.leaseUntil now)) hrow (fun _ => rfl) rfl
      (fun _ => rfl) rfl rfl (by simp [LeaseEvent.target]) hguard ?_)
    intro v c held h
    rcases Table.set_cases h with ⟨rfl, he⟩ | ⟨-, h⟩
    · simp only [Worker.mk.injEq, Option.some.injEq] at he
      obtain ⟨rfl, rfl⟩ := he
      exact Or.inr ⟨_, _, by rw [← hid]; rfl, rfl⟩
    · exact Or.inl h
  | @released recordId owner reading row htime hrow =>
    have hid : row.recordId = recordId := Table.row_key hrow
    have hguard : LeaseGuard s row (.cleared recordId) := by
      rw [← hid]
      exact .cleared
    exact Or.inr (move_write (Db.dropLease reading) hrow (fun _ => rfl) rfl (fun _ => rfl) rfl rfl
      (by simp [LeaseEvent.target]) hguard fun _ _ _ h => Or.inl h)
  | @operatorClaims c reading row _ _ htime hrow hfree =>
    have hid : row.recordId = c.recordId := Table.row_key hrow
    have hguard : LeaseGuard s row (.claimed .operator c.recordId c.owner c.leaseUntil reading) := by
      rw [← hid]
      exact .claimed htime hfree
    exact Or.inr (move_write (Db.operatorLease c.owner c.leaseUntil reading) hrow (fun _ => rfl) rfl
      (fun _ => rfl) rfl rfl (by simp [LeaseEvent.target]) hguard fun _ _ _ h => Or.inl h)
  | @operatorReleases c reading row _ _ htime hrow =>
    have hid : row.recordId = c.recordId := Table.row_key hrow
    have hguard : LeaseGuard s row (.cleared c.recordId) := by
      rw [← hid]
      exact .cleared
    exact Or.inr (move_write (Db.dropLease reading) hrow (fun _ => rfl) rfl (fun _ => rfl) rfl rfl
      (by simp [LeaseEvent.target]) hguard fun _ _ _ h => Or.inl h)
  | @workerMarks w reply now reading lease config snapshot row m hw htime hdec _ hlease hrow hstatus howner hrowlease
      hlive =>
    have hid : row.recordId = snapshot.recordId := Table.row_key hrow
    have hguard : LeaseGuard s row (.marked (.worker w) snapshot.recordId config.owner lease reading row.status
        m.status) := by
      rw [← hid]
      refine .marked htime (by rw [rowLease, howner, hrowlease]) hlive
        (allowedMove_of_mark (HostedSettlementReconciler.handleClaimed_ok hdec) hstatus) ?_
      rintro v hv
      cases hv
      exact ⟨config, snapshot, now, hw, hid.symm, rfl, hlease⟩
    exact Or.inr (move_write (Db.transition m.status m.transaction m.payer m.errorReason reading) hrow (fun _ => rfl)
      rfl (fun i => Db.record_applyMark m reading) rfl rfl (fun _ => Option.some.inj) hguard
      fun v c held h => Or.inl (held_of_set h))
  | @operatorReviews c reading lease row _ _ htime hrow hstatus howner hrowlease hlive =>
    have hid : row.recordId = c.recordId := Table.row_key hrow
    have hguard : LeaseGuard s row (.marked .operator c.recordId c.owner lease reading row.status .manualReview) := by
      rw [← hid]
      refine .marked htime (by rw [rowLease, howner, hrowlease]) hlive (by rw [hstatus]; rfl) ?_
      rintro v hv
      cases hv
    let m := Db.operatorReview row
    exact Or.inr (move_write (Db.transition m.status m.transaction m.payer m.errorReason reading) hrow (fun _ => rfl)
      rfl (fun i => Db.record_applyMark m reading) rfl rfl (fun _ => Option.some.inj) hguard fun _ _ _ h => Or.inl h)

end Step

/-! ## The invariant -/

/-- The statuses in the order in which a record can go through them. -/
def statusRank : SettlementStatus → Nat
  | .received | .settleInProgress => 0
  | .submitted => 1
  | .unknown | .reconciled => 2
  | .settled | .settleFailed | .manualReview => 3

theorem statusRank_lt {a b : SettlementStatus} (h : allowedMove a b = true) : statusRank a < statusRank b := by
  cases a <;> cases b <;> first | (cases h; done) | decide

theorem RowChange.statusRank_le {r r' : SettlementRecord} (h : RowChange r r') :
    statusRank r.status ≤ statusRank r'.status := by
  rcases h.outcome with hs | hm
  · rw [hs.status]
  · exact Nat.le_of_lt (statusRank_lt hm)

/-- No two claims of a record have the same owner and lease. -/
def DistinctClaims (leases : List LeaseEvent) : Prop := (leases.filterMap LeaseEvent.claimKey).Nodup

/-- The claim of `id` by `owner` until `lease` is the most recent lease event of the record: nothing has used,
released or cleared it. A reconciler that uses it made it. -/
def MostRecent (leases : List LeaseEvent) (who : Claimant) (id : Nat) (owner : String) (lease : Instant) : Prop :=
  ∃ pre claimant reading post, leases = pre ++ .claimed claimant id owner lease reading :: post ∧
    (∀ ev ∈ post, ev.recordId ≠ id) ∧ ∀ w, who = .worker w → claimant = .worker w

/-- Every mark used the most recent claim, before its lease ran out. -/
def Fenced (leases : List LeaseEvent) : Prop :=
  ∀ pre post who id owner lease reading source target,
    leases = pre ++ .marked who id owner lease reading source target :: post →
    reading < lease ∧ MostRecent pre who id owner lease

/-- The invariant of leases. -/
structure Fence (s : System) : Prop where
  rows : ∀ id row, s.db.record id = some row →
    rowLease row = ((lastLease id s.leases).map LeaseEvent.leaves).getD (none, none)
  known : ∀ ev ∈ s.leases, ∃ row, s.db.record ev.recordId = some row
  held : ∀ (w : Nat) (config : HostedSettlementReconciler) (snapshot : SettlementRecord) (now : Instant),
    s.workers[w]? = some ⟨config, some (snapshot, now)⟩ →
    ∃ lease reading, snapshot.reconciliationLeaseUntil = some lease ∧
      .claimed (.worker w) snapshot.recordId config.owner lease reading ∈ s.leases
  ranks : ∀ ev ∈ s.leases, ∀ id source, ev.markSource = some (id, source) →
    ∃ row, s.db.record id = some row ∧ statusRank source < statusRank row.status
  sources : (s.leases.filterMap LeaseEvent.markSource).Nodup
  used : ∀ k ∈ s.leases.filterMap LeaseEvent.markKey, k ∈ s.leases.filterMap LeaseEvent.claimKey
  unused : DistinctClaims s.leases → ∀ id ev k, lastLease id s.leases = some ev → ev.claimKey = some k →
    k ∉ s.leases.filterMap LeaseEvent.markKey
  once : DistinctClaims s.leases → (s.leases.filterMap LeaseEvent.markKey).Nodup
  fenced : DistinctClaims s.leases → Fenced s.leases

section Log

variable {leases : List LeaseEvent} {ev : LeaseEvent} {id : Nat}

theorem lastLease_split (h : lastLease id leases = some ev) :
    ev.recordId = id ∧ ∃ pre post, leases = pre ++ ev :: post ∧ ∀ ev' ∈ post, ev'.recordId ≠ id := by
  obtain ⟨pre, post, he, hid, hpost⟩ := History.last_split h
  exact ⟨beq_iff_eq.mp hid, pre, post, he, fun ev' h' => by simpa using hpost ev' h'⟩

theorem lastLease_snoc (h : ev.recordId = id) : lastLease id (leases ++ [ev]) = some ev :=
  History.last_snoc (beq_iff_eq.mpr h)

theorem lastLease_snoc_of_ne (h : ev.recordId ≠ id) : lastLease id (leases ++ [ev]) = lastLease id leases :=
  History.last_snoc_of_not (beq_eq_false_iff_ne.mpr h)

theorem mem_of_lastLease (h : lastLease id leases = some ev) : ev ∈ leases := by
  obtain ⟨-, pre, post, rfl, -⟩ := lastLease_split h
  simp

theorem DistinctClaims.of_snoc (h : DistinctClaims (leases ++ [ev])) : DistinctClaims leases := by
  unfold DistinctClaims at h ⊢
  rw [List.filterMap_append] at h
  exact (List.nodup_append.mp h).1

/-- A new claim has a new key. -/
theorem DistinctClaims.fresh {k : Nat × String × Instant} (h : DistinctClaims (leases ++ [ev]))
    (hk : ev.claimKey = some k) : k ∉ leases.filterMap LeaseEvent.claimKey := by
  unfold DistinctClaims at h
  rw [List.filterMap_append, List.nodup_append] at h
  intro hm
  exact h.2.2 k hm k (List.mem_filterMap.mpr ⟨ev, List.mem_singleton_self ev, hk⟩) rfl

theorem mem_filterMap_snoc {κ : Type} {key : LeaseEvent → Option κ} {k : κ} :
    k ∈ (leases ++ [ev]).filterMap key ↔ k ∈ leases.filterMap key ∨ key ev = some k := by
  rw [List.filterMap_append, List.mem_append]
  constructor
  · rintro (h | h)
    · exact Or.inl h
    · obtain ⟨ev', he, hk⟩ := List.mem_filterMap.mp h
      rw [List.mem_singleton.mp he] at hk
      exact Or.inr hk
  · rintro (h | h)
    · exact Or.inl h
    · exact Or.inr (List.mem_filterMap.mpr ⟨ev, List.mem_singleton_self ev, h⟩)

theorem nodup_filterMap_snoc {κ : Type} {key : LeaseEvent → Option κ} (hn : (leases.filterMap key).Nodup)
    (h : ∀ k, key ev = some k → k ∉ leases.filterMap key) : ((leases ++ [ev]).filterMap key).Nodup := by
  rw [List.filterMap_append, List.nodup_append]
  refine ⟨hn, ?_, ?_⟩
  · cases hk : key ev <;> simp [hk]
  · intro a ha b hb hab
    obtain ⟨ev', he, hk⟩ := List.mem_filterMap.mp hb
    rw [List.mem_singleton.mp he] at hk
    exact h b hk (hab ▸ ha)

/-- The log stays fenced when its next mark uses the most recent claim. -/
theorem Fenced.snoc (h : Fenced leases)
    (hev : ∀ who id owner lease reading source target,
      ev = .marked who id owner lease reading source target → reading < lease ∧ MostRecent leases who id owner lease) :
    Fenced (leases ++ [ev]) := by
  intro pre post who id owner lease reading source target he
  rcases List.eq_nil_or_concat post with rfl | ⟨post', x, rfl⟩
  · obtain ⟨rfl, hx⟩ := List.append_inj' he rfl
    exact hev who id owner lease reading source target (List.cons.inj hx).1
  · rw [List.concat_eq_append, ← List.cons_append, ← List.append_assoc] at he
    obtain ⟨hpre, -⟩ := List.append_inj' he rfl
    exact h pre post' who id owner lease reading source target hpre

end Log

section Fence

variable {hash : String → Int} {s s' : System} {e : Event}

/-- What the marks have moved away from stays behind. -/
theorem Fence.ranks_kept (hf : Fence s)
    (hrow : ∀ id r, s.db.record id = some r → ∃ r', s'.db.record id = some r' ∧ RowChange r r') :
    ∀ ev ∈ s.leases, ∀ id source, ev.markSource = some (id, source) →
      ∃ row, s'.db.record id = some row ∧ statusRank source < statusRank row.status := by
  intro ev hev id source hsrc
  obtain ⟨row, hr, hlt⟩ := hf.ranks ev hev id source hsrc
  obtain ⟨row', hr', hchange⟩ := hrow id row hr
  exact ⟨row', hr', Nat.lt_of_lt_of_le hlt hchange.statusRank_le⟩

/-- An event that leaves leases alone. -/
theorem Fence.quiet (hf : Fence s) (hq : Quiet s s')
    (hrow : ∀ id r, s.db.record id = some r → ∃ r', s'.db.record id = some r' ∧ RowChange r r') : Fence s' := by
  refine ⟨?_, ?_, ?_, ?_, ?_, ?_, ?_, ?_, ?_⟩ <;> rw [hq.log]
  · intro id row' hr'
    rcases hq.rows id row' hr' with ⟨row, hr, hsame⟩ | ⟨hnone, hfree⟩
    · rw [hsame]
      exact hf.rows id row hr
    · cases hlast : lastLease id s.leases with
      | none => exact hfree
      | some ev =>
        obtain ⟨row, hr⟩ := hf.known ev (mem_of_lastLease hlast)
        rw [(lastLease_split hlast).1, hnone] at hr
        cases hr
  · intro ev hev
    obtain ⟨row, hr⟩ := hf.known ev hev
    obtain ⟨row', hr', -⟩ := hrow _ row hr
    exact ⟨row', hr'⟩
  · intro w config snapshot now hw
    exact hf.held w config snapshot now (hq.holders w config _ hw)
  · exact hf.ranks_kept hrow
  · exact hf.sources
  · exact hf.used
  · exact hf.unused
  · exact hf.once
  · exact hf.fenced

/-- A row with a lease was claimed last. -/
theorem Fence.last_claim (hf : Fence s) {id : Nat} {row : SettlementRecord} {owner : String} {lease : Instant}
    (hr : s.db.record id = some row) (hl : rowLease row = (some owner, some lease)) :
    ∃ claimant reading, lastLease id s.leases = some (.claimed claimant id owner lease reading) := by
  have hrows := hf.rows id row hr
  rw [hl] at hrows
  cases hlast : lastLease id s.leases with
  | none => rw [hlast] at hrows; cases hrows
  | some ev =>
    rw [hlast] at hrows
    have hid := (lastLease_split hlast).1
    cases ev with
    | claimed claimant id' owner' lease' reading =>
      simp only [Option.map_some, Option.getD_some, LeaseEvent.leaves, Prod.mk.injEq, Option.some.injEq] at hrows
      obtain ⟨rfl, rfl⟩ := hrows
      cases hid
      exact ⟨claimant, reading, rfl⟩
    | cleared => cases hrows
    | marked => cases hrows

/-- A mark that passes its guard uses the most recent claim. -/
theorem Fence.mark_recent (hf : Fence s) (hd : DistinctClaims s.leases) {row : SettlementRecord} {who : Claimant}
    {id : Nat} {owner : String} {lease reading : Instant} {source target : SettlementStatus}
    (hr : s.db.record id = some row)
    (hg : LeaseGuard s row (.marked who id owner lease reading source target)) :
    reading < lease ∧ MostRecent s.leases who id owner lease := by
  cases hg with
  | marked _ hl hlive _ hsnap =>
    refine ⟨hlive, ?_⟩
    obtain ⟨claimant, reading', hlast⟩ := hf.last_claim hr hl
    obtain ⟨-, pre, post, he, hpost⟩ := lastLease_split hlast
    refine ⟨pre, claimant, reading', post, he, hpost, fun w hw => ?_⟩
    obtain ⟨config, snapshot, now, hworker, hid, rfl, hlease⟩ := hsnap w hw
    obtain ⟨lease', reading'', hlease', hmem⟩ := hf.held w config snapshot now hworker
    rw [hlease] at hlease'
    cases hlease'
    have hsame := History.eq_of_key hd hmem (mem_of_lastLease hlast)
      (k := (row.recordId, config.owner, lease)) (by rw [hid]; rfl) rfl
    exact (LeaseEvent.claimed.inj hsame).1.symm

/-- A lease event keeps the invariant. -/
theorem Fence.move (hf : Fence s) {ev : LeaseEvent} {row row' : SettlementRecord} (hm : LeaseMove s s' ev row row')
    (hrow : ∀ id r, s.db.record id = some r → ∃ r', s'.db.record id = some r' ∧ RowChange r r') : Fence s' := by
  have hmark : ∀ k, ev.markKey = some k → ∃ c, lastLease ev.recordId s.leases = some c ∧ c.claimKey = some k := by
    intro k hk
    have hg := hm.guard
    cases hg with
    | claimed => cases hk
    | cleared => cases hk
    | marked _ hl =>
      cases hk
      obtain ⟨claimant, reading, hlast⟩ := hf.last_claim hm.before hl
      exact ⟨_, hlast, rfl⟩
  refine ⟨?_, ?_, ?_, ?_, ?_, ?_, ?_, ?_, ?_⟩ <;> rw [hm.log]
  · intro id r hr
    by_cases hid : ev.recordId = id
    · subst hid
      rw [hm.after] at hr
      cases hr
      rw [lastLease_snoc rfl, hm.effect]
      rfl
    · rw [lastLease_snoc_of_ne hid]
      rw [hm.others id (Ne.symm hid)] at hr
      exact hf.rows id r hr
  · intro ev' hev'
    rcases List.mem_append.mp hev' with hev' | hev'
    · obtain ⟨r, hr⟩ := hf.known ev' hev'
      obtain ⟨r', hr', -⟩ := hrow _ r hr
      exact ⟨r', hr'⟩
    · rw [List.mem_singleton.mp hev']
      exact ⟨row', hm.after⟩
  · intro w config snapshot now hw
    rcases hm.holders w config (snapshot, now) hw with hold | ⟨lease, reading, rfl, hlease⟩
    · obtain ⟨lease, reading, hlease, hmem⟩ := hf.held w config snapshot now hold
      exact ⟨lease, reading, hlease, List.mem_append_left _ hmem⟩
    · exact ⟨lease, reading, hlease, List.mem_append_right _ (List.mem_singleton_self _)⟩
  · intro ev' hev' id source hsrc
    rcases List.mem_append.mp hev' with hev' | hev'
    · exact hf.ranks_kept hrow ev' hev' id source hsrc
    · rw [List.mem_singleton.mp hev'] at hsrc
      have hg := hm.guard
      cases hg with
      | claimed => cases hsrc
      | cleared => cases hsrc
      | marked _ _ _ hmove =>
        cases hsrc
        refine ⟨row', hm.after, ?_⟩
        rw [hm.status _ rfl]
        exact statusRank_lt hmove
  · refine nodup_filterMap_snoc hf.sources fun k hk hmem => ?_
    -- an earlier mark from this status would have left it
    obtain ⟨ev', hev', hsrc⟩ := List.mem_filterMap.mp hmem
    obtain ⟨r, hr, hlt⟩ := hf.ranks ev' hev' k.1 k.2 hsrc
    have hg := hm.guard
    cases hg with
    | claimed => cases hk
    | cleared => cases hk
    | marked =>
      cases hk
      have hb := hm.before
      cases hr.symm.trans hb
      exact absurd hlt (Nat.lt_irrefl _)
  · intro k hk
    rcases mem_filterMap_snoc.mp hk with hold | hnew
    · exact mem_filterMap_snoc.mpr (Or.inl (hf.used k hold))
    · obtain ⟨c, hlast, hck⟩ := hmark k hnew
      exact mem_filterMap_snoc.mpr (Or.inl (List.mem_filterMap.mpr ⟨c, mem_of_lastLease hlast, hck⟩))
  · intro hd id c k hlast hck hmem
    by_cases hid : ev.recordId = id
    · rw [lastLease_snoc hid] at hlast
      cases hlast
      rcases mem_filterMap_snoc.mp hmem with hold | hnew
      · exact hd.fresh hck (hf.used k hold)
      · cases ev <;> first | (cases hck; done) | cases hnew
    · rw [lastLease_snoc_of_ne hid] at hlast
      rcases mem_filterMap_snoc.mp hmem with hold | hnew
      · exact hf.unused hd.of_snoc id c k hlast hck hold
      · obtain ⟨c', hlast', hck'⟩ := hmark k hnew
        have hsame := History.eq_of_key hd.of_snoc (mem_of_lastLease hlast) (mem_of_lastLease hlast') hck hck'
        subst hsame
        exact hid ((lastLease_split hlast').1.symm.trans (lastLease_split hlast).1)
  · intro hd
    refine nodup_filterMap_snoc (hf.once hd.of_snoc) fun k hk => ?_
    obtain ⟨c, hlast, hck⟩ := hmark k hk
    exact hf.unused hd.of_snoc _ c k hlast hck
  · intro hd
    refine (hf.fenced hd.of_snoc).snoc ?_
    rintro who id owner lease reading source target rfl
    exact hf.mark_recent hd.of_snoc hm.before hm.guard

theorem fence_start : Fence {} := by
  constructor <;> simp [Fenced, DistinctClaims, Db.record, Table.row]

/-- Every reachable state has the invariant of leases. -/
theorem reachable_fence (h : (machine hash).Reachable s) : Fence s := by
  refine h.invariant fence_start ?_
  intro s e t hs hf hn
  have hstep := reachable_step hs hn
  have hc := reachable_claims hs
  have hrow : ∀ id r, s.db.record id = some r → ∃ r', t.db.record id = some r' ∧ RowChange r r' :=
    fun id r hr => hstep.row hc.uniqueIds hr
  rcases hstep.lease hc with hq | ⟨ev, row, row', hm⟩
  · exact hf.quiet hq hrow
  · exact hf.move hm hrow

/-! ## Fencing -/

/-- A claim succeeds only when the lease on the row, if any, has run out. -/
theorem claim_takes_free_lease (hs : (machine hash).Reachable s) (hn : (machine hash).next s e = some s')
    {who : Claimant} {id : Nat} {owner : String} {lease reading : Instant}
    (hlog : s'.leases = s.leases ++ [.claimed who id owner lease reading]) :
    ∃ row, s.db.record id = some row ∧ reading ≤ s.clock ∧ Db.leaseFree reading row = true := by
  rcases (reachable_step hs hn).lease (reachable_claims hs) with hq | ⟨ev, row, row', hm⟩
  · rw [hq.log] at hlog
    simpa using congrArg List.length hlog
  · have he := List.append_cancel_left (hm.log.symm.trans hlog)
    obtain rfl := (List.cons.inj he).1
    have hb := hm.before
    have hg := hm.guard
    cases hg with
    | claimed htime hfree => exact ⟨row, hb, htime, hfree⟩

/-- When no two claims of a record have the same owner and lease: a claim succeeds only when no unexpired lease is on
the record; every mark used the most recent claim of its record, before its lease ran out; no claim is used twice; and
no two marks of a record start from the same status. -/
theorem lease_fencing (h : (machine hash).Reachable s) (hd : DistinctClaims s.leases) :
    (∀ e t who id owner lease reading, (machine hash).next s e = some t →
      t.leases = s.leases ++ [.claimed who id owner lease reading] →
      ∃ row, s.db.record id = some row ∧ reading ≤ s.clock ∧ Db.leaseFree reading row = true) ∧
    Fenced s.leases ∧ (s.leases.filterMap LeaseEvent.markKey).Nodup ∧
    (s.leases.filterMap LeaseEvent.markSource).Nodup := by
  have hf := reachable_fence h
  refine ⟨?_, hf.fenced hd, hf.once hd, hf.sources⟩
  intro e t who id owner lease reading hn hlog
  exact claim_takes_free_lease h hn hlog

end Fence

/-- A call dies, a reconciler claims its record and stalls, a second one of the same name takes over when the lease
has run out; the first one's late outcome is refused, the second one's is applied. -/
def handoverEvents : List Event :=
  [.arrive (sampleCall "default") false,
    .engine 0 (.proceed 0), .engine 0 (.proceed 0), .engine 0 (.proceed 0), .engine 0 (.proceed 0),
    .engine 0 (.proceed 0), .engine 0 (.proceed 0), .engine 0 (.proceed 0), .engine 0 .crash,
    .spawn sampleReconciler, .spawn sampleReconciler, .tick 121000000,
    .reconcilerClaim 0 1 .settleInProgress 121000000 121000000, .tick 200000000,
    .reconcilerClaim 1 1 .settleInProgress 200000000 200000000,
    .reconcilerReply 0 (.returned { status := .settled, transaction := some "0xlate" }) 200000000,
    .reconcilerReply 1 (.returned { status := .pending }) 200000000]

theorem lease_fencing_handover :
    ∃ s, (machine fun _ => 0).Reaches handoverEvents s ∧
      s.leases = [.claimed (.worker 0) 1 "reconciler" 181000000 121000000,
        .claimed (.worker 1) 1 "reconciler" 260000000 200000000,
        .marked (.worker 1) 1 "reconciler" 260000000 200000000 .settleInProgress .unknown] ∧
      Fenced s.leases ∧ (s.leases.filterMap LeaseEvent.markKey).Nodup := by
  have hrun : ((machine fun _ => 0).run {} handoverEvents).map (·.leases) =
      some [.claimed (.worker 0) 1 "reconciler" 181000000 121000000,
        .claimed (.worker 1) 1 "reconciler" 260000000 200000000,
        .marked (.worker 1) 1 "reconciler" 260000000 200000000 .settleInProgress .unknown] := by decide
  obtain ⟨s, hs, hlog⟩ := Option.map_eq_some_iff.mp hrun
  have hd : DistinctClaims s.leases := by
    rw [hlog]
    unfold DistinctClaims
    decide
  obtain ⟨-, hfenced, honce, -⟩ := lease_fencing ⟨handoverEvents, hs⟩ hd
  exact ⟨s, hs, hlog, hfenced, honce⟩

end HostedFacilitator.Postgres
