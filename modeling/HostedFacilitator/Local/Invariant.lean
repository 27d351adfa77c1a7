import HostedFacilitator.Local.System

/-!
# The invariant of a local store

A claimed record stays fresh until the call that claimed it finalises it, and what that call wrote stays
(`Process.Ok`), since a record belongs to one call (`Inv.owners`) and a duplicate only counts. `reachable_inv` has this
for every reachable state. When the requests of the run are coherent, a payment has at most one record
(`reachable_unique`).
-/

namespace HostedFacilitator.Local

variable {σ : Type} {L : LawfulStore σ}

/-- The record that belongs to the call. -/
def Phase.owned (phase : Phase) : Option Nat :=
  (phase.ticket.or (phase.outcome.map Prod.fst)).map SettlementRecord.recordId

theorem Phase.owned_of_ticket {phase : Phase} {r : SettlementRecord} (h : phase.ticket = some r) :
    phase.owned = some r.recordId := by
  simp [owned, h]

theorem Phase.outcome_of_ticket {phase : Phase} {r : SettlementRecord} (h : phase.ticket = some r) :
    phase.outcome = none := by
  cases phase <;> first | rfl | cases h

theorem Phase.owned_of_outcome {phase : Phase} {r : SettlementRecord} {result : ProviderResult}
    (h : phase.outcome = some (r, result)) : phase.owned = some r.recordId := by
  have ht : phase.ticket = none := by
    cases phase <;> first | rfl | cases h
  simp [owned, h, ht]

theorem Phase.owned_cases {phase : Phase} {n : Nat} (h : phase.owned = some n) :
    (∃ r, phase.ticket = some r ∧ r.recordId = n) ∨
      ∃ r result, phase.outcome = some (r, result) ∧ r.recordId = n := by
  cases ht : phase.ticket with
  | some r => exact Or.inl ⟨r, rfl, by simpa [owned, ht] using h⟩
  | none =>
    cases ho : phase.outcome with
    | none => simp [owned, ht, ho] at h
    | some x => exact Or.inr ⟨x.1, x.2, rfl, by simpa [owned, ht, ho] using h⟩

/-- The row of a record. -/
def rowOf (n : Nat) (rows : List SettlementRecord) : Option SettlementRecord :=
  Table.row SettlementRecord.recordId n rows

/-- What a call knows about its record. -/
structure Process.Ok (rows : List SettlementRecord) (p : Process) : Prop where
  ticket : ∀ r, p.phase.ticket = some r → (∃ now, r = p.call.request.freshRecord r.recordId now) ∧
    ∃ row, rowOf r.recordId rows = some row ∧ row.Fresh ∧ row.Of p.call.request
  outcome : ∀ r result, p.phase.outcome = some (r, result) →
    (∃ now, r = p.call.request.freshRecord r.recordId now) ∧
      ∃ row, rowOf r.recordId rows = some row ∧ (result.finalization p.call r).StoredIn row ∧ row.Of p.call.request
  answer : ∀ answer r result, p.phase = .finished (.ok answer) (some (r, result)) → answer = result.answer p.call r

structure Inv (L : LawfulStore σ) (s : System σ) : Prop where
  store : L.Inv s.store
  each : ∀ (i : Nat) (p : Process), s.processes[i]? = some p → p.Ok (L.records s.store)
  owners : ∀ (i j : Nat) (p q : Process) (n : Nat), s.processes[i]? = some p → s.processes[j]? = some q →
    p.phase.owned = some n → q.phase.owned = some n → i = j
  rows : ∀ row ∈ L.records s.store, ∃ c ∈ s.claims, row.Of c

theorem Process.Ok.of_bare {rows : List SettlementRecord} {p : Process} (ht : p.phase.ticket = none)
    (ho : p.phase.outcome = none) : p.Ok rows := by
  refine ⟨?_, ?_, ?_⟩
  · intro r hr
    rw [ht] at hr
    cases hr
  · intro r result hr
    rw [ho] at hr
    cases hr
  · intro answer r result he
    rw [he] at ho
    cases ho

/-! ## Rows under an operation -/

/-- What one operation leaves of a row that is not its own. -/
structure Kept (row row' : SettlementRecord) : Prop where
  fresh : row.Fresh → row'.Fresh
  stored : ∀ f : Finalization, f.StoredIn row → f.StoredIn row'
  of : ∀ c : ClaimRequest, row.Of c → row'.Of c

theorem Kept.refl (row : SettlementRecord) : Kept row row := ⟨id, fun _ => id, fun _ => id⟩

theorem Kept.counted (row : SettlementRecord) (now : Instant) : Kept row (row.recordDuplicateClaim now) :=
  ⟨fun h => ⟨h.status, h.transaction, h.payer, h.errorReason⟩,
    fun _ h => ⟨h.status, h.transaction, h.payer, h.errorReason⟩, fun _ h => ⟨h.replayKey, h.profileKey⟩⟩

/-- The row with the id is kept. -/
def KeptAt (rows rows' : List SettlementRecord) (n : Nat) : Prop :=
  ∀ row, rowOf n rows = some row → ∃ row', rowOf n rows' = some row' ∧ Kept row row'

theorem KeptAt.refl (rows : List SettlementRecord) (n : Nat) : KeptAt rows rows n :=
  fun row h => ⟨row, h, .refl row⟩

/-- The row of a record after an update of one record. -/
theorem rowOf_update {f : SettlementRecord → SettlementRecord} (hid : ∀ r, (f r).recordId = r.recordId)
    {rows : List SettlementRecord} {n : Nat} {row : SettlementRecord} (h : rowOf n rows = some row) (m : Nat) :
    rowOf n (Table.update (fun x => x.recordId == m) f rows) = some (if n = m then f row else row) := by
  rw [rowOf] at h ⊢
  rw [Table.row_update hid, h, Option.map_some, Table.row_key h]
  simp

theorem keptAt_counted (rows : List SettlementRecord) (n m : Nat) (now : Instant) :
    KeptAt rows (Table.update (fun x => x.recordId == m) (SettlementRecord.recordDuplicateClaim now) rows) n := by
  intro row hrow
  refine ⟨_, rowOf_update (f := SettlementRecord.recordDuplicateClaim now) (fun _ => rfl) hrow m, ?_⟩
  split
  · exact .counted row now
  · exact .refl row

theorem keptAt_append (rows : List SettlementRecord) (r : SettlementRecord) (n : Nat) : KeptAt rows (rows ++ [r]) n := by
  intro row hrow
  refine ⟨row, ?_, .refl row⟩
  rw [rowOf] at hrow ⊢
  rw [Table.row_append, hrow, Option.some_or]

theorem keptAt_finalized (rows : List SettlementRecord) {n m : Nat} (hne : n ≠ m) (f : Finalization) (now : Instant) :
    KeptAt rows (Table.update (fun x => x.recordId == m) (SettlementRecord.finalized f now) rows) n := by
  intro row hrow
  refine ⟨row, ?_, .refl row⟩
  rw [rowOf_update (f := SettlementRecord.finalized f now) (fun _ => rfl) hrow m, if_neg hne]

/-- A call that does not own what was written still knows its record. -/
theorem Process.Ok.keep {rows rows' : List SettlementRecord} {p : Process} (h : p.Ok rows)
    (hk : ∀ n, p.phase.owned = some n → KeptAt rows rows' n) : p.Ok rows' := by
  refine ⟨?_, ?_, h.answer⟩
  · intro r hr
    obtain ⟨hfresh, row, hrow, hf, hof⟩ := h.ticket r hr
    obtain ⟨row', hrow', hkept⟩ := hk _ (Phase.owned_of_ticket hr) row hrow
    exact ⟨hfresh, row', hrow', hkept.fresh hf, hkept.of _ hof⟩
  · intro r result hr
    obtain ⟨hfresh, row, hrow, hs, hof⟩ := h.outcome r result hr
    obtain ⟨row', hrow', hkept⟩ := hk _ (Phase.owned_of_outcome hr) row hrow
    exact ⟨hfresh, row', hrow', hkept.stored _ hs, hkept.of _ hof⟩

/-- The row of an owned record exists. -/
theorem Process.Ok.owned_row {rows : List SettlementRecord} {p : Process} (h : p.Ok rows) {n : Nat}
    (hn : p.phase.owned = some n) : ∃ row, rowOf n rows = some row := by
  rcases Phase.owned_cases hn with ⟨r, hr, rfl⟩ | ⟨r, result, hr, rfl⟩
  · obtain ⟨-, row, hrow, -⟩ := h.ticket r hr
    exact ⟨row, hrow⟩
  · obtain ⟨-, row, hrow, -⟩ := h.outcome r result hr
    exact ⟨row, hrow⟩

/-! ## One step of a call -/

variable {s s' : System σ}

theorem claims_set {i : Nat} {p : Process} {phase' : Phase} (hp : s.processes[i]? = some p) (store' : σ) :
    System.claims { store := store', processes := s.processes.set i ⟨p.call, phase'⟩ } = s.claims := by
  exact Table.map_set_of_eq hp rfl

/-- One call moves; the rows it writes are its own, and the other rows are kept. -/
theorem Inv.move (h : Inv L s) {i : Nat} {p : Process} {store' : σ} {phase' : Phase} (hp : s.processes[i]? = some p)
    (hinv : L.Inv store') (hok : Process.Ok (L.records store') ⟨p.call, phase'⟩)
    (hkept : ∀ n, p.phase.owned ≠ some n → KeptAt (L.records s.store) (L.records store') n)
    (howned : ∀ n, phase'.owned = some n → p.phase.owned = some n ∨ rowOf n (L.records s.store) = none)
    (hrows : ∀ row ∈ L.records store', ∃ c ∈ s.claims, row.Of c) :
    Inv L { store := store', processes := s.processes.set i ⟨p.call, phase'⟩ } := by
  have hother : ∀ (j : Nat) (q : Process) (n : Nat), j ≠ i → s.processes[j]? = some q → q.phase.owned = some n →
      p.phase.owned ≠ some n ∧ phase'.owned ≠ some n := by
    intro j q n hj hq hn
    have hne : p.phase.owned ≠ some n := fun hpn => hj (h.owners j i q p n hq hp hn hpn)
    refine ⟨hne, fun hn' => ?_⟩
    rcases howned n hn' with hpn | hnone
    · exact hne hpn
    · obtain ⟨row, hrow⟩ := (h.each j q hq).owned_row hn
      exact absurd (hrow.symm.trans hnone) (by simp)
  refine ⟨hinv, ?_, ?_, ?_⟩
  · intro j q hq
    rcases Table.set_cases hq with ⟨-, rfl⟩ | ⟨hj, hq⟩
    · exact hok
    · exact (h.each j q hq).keep fun n hn => hkept n (hother j q n hj hq hn).1
  · intro j k q r n hq hr hqn hrn
    rcases Table.set_cases hq with ⟨rfl, rfl⟩ | ⟨hj, hq'⟩ <;> rcases Table.set_cases hr with ⟨rfl, rfl⟩ | ⟨hk, hr'⟩
    · rfl
    · exact absurd hqn (hother k r n hk hr' hrn).2
    · exact absurd hrn (hother j q n hj hq' hqn).2
    · exact h.owners j k q r n hq' hr' hqn hrn
  · rw [claims_set hp]
    exact hrows

/-- The write that finalises a record finds it fresh. -/
theorem Inv.mark_after (h : Inv L s) {i : Nat} {call : SettleCall} {r : SettlementRecord} {a : Nat}
    {result : ProviderResult} (hp : s.processes[i]? = some ⟨call, .marking r a result⟩) (now : Instant) :
    result.finalization call (L.store.held s.store r) = result.finalization call r ∧
      After L.Inv L.records L.attempts (L.ops.markRecord s.store r (result.finalization call r) now)
        (Table.update (fun x => x.recordId == r.recordId)
          (SettlementRecord.finalized (result.finalization call r) now) (L.records s.store))
        (L.attempts s.store) := by
  obtain ⟨⟨t, hr⟩, row, hrow, hrowFresh, -⟩ := (h.each i _ hp).ticket r rfl
  have hrFresh : r.Fresh := hr ▸ call.request.freshRecord_fresh r.recordId t
  refine ⟨?_, L.mark_eq now h.store hrFresh hrowFresh (result.finalization_clean call hrFresh) hrow⟩
  -- the object the engine holds and the copy it was given are both still fresh
  rcases L.held_eq h.store hrow with he | he <;> rw [he]
  exact result.finalization_fresh call hrowFresh hrFresh

section Calls

variable {i : Nat} {call : SettleCall} {phase phase' : Phase} {store' : σ} {r : SettlementRecord} {a : Nat}
  {result : ProviderResult} {f : Finalization} {now : Instant}

/-- An update that leaves the keys of a record alone leaves every row with its request. -/
theorem Inv.rows_update (h : Inv L s) {f : SettlementRecord → SettlementRecord}
    (hof : ∀ (row : SettlementRecord) (c : ClaimRequest), row.Of c → (f row).Of c) (p : SettlementRecord → Bool) :
    ∀ row ∈ Table.update p f (L.records s.store), ∃ c ∈ s.claims, row.Of c := by
  intro row hrow
  obtain ⟨x, hx, rfl⟩ := Table.mem_update.mp hrow
  obtain ⟨c, hc, hxc⟩ := h.rows x hx
  refine ⟨c, hc, ?_⟩
  split
  · exact hof x c hxc
  · exact hxc

/-- A duplicate is counted. -/
theorem Inv.count (h : Inv L s) (hp : s.processes[i]? = some ⟨call, .claimEnter⟩) {n : Nat} {o : SettleOutcome}
    (hafter : After L.Inv L.records L.attempts store' (Table.update (fun x => x.recordId == n)
      (SettlementRecord.recordDuplicateClaim now) (L.records s.store)) (L.attempts s.store)) :
    Inv L { store := store', processes := s.processes.set i ⟨call, .finished (.ok o) none⟩ } := by
  refine h.move hp hafter.inv (.of_bare rfl rfl) ?_ ?_ ?_
  · intro m _
    rw [hafter.records_eq]
    exact keptAt_counted _ m n now
  · simp [Phase.owned, Phase.ticket, Phase.outcome]
  · rw [hafter.records_eq]
    exact h.rows_update (fun row c hof => (Kept.counted row now).of c hof) _

/-- The record that a claim adds is found fresh. -/
theorem rowOf_claimed {rows : List SettlementRecord} {n : Nat} (hmiss : rowOf n rows = none) (request : ClaimRequest)
    (now : Instant) : rowOf n (rows ++ [request.freshRecord n now]) = some (request.freshRecord n now) := by
  rw [rowOf] at hmiss ⊢
  rw [Table.row_append, hmiss, Option.none_or]
  simp [Table.row]

/-- A record is claimed: the call owns it, and no other call has its id. -/
theorem Inv.claim (h : Inv L s) (hp : s.processes[i]? = some ⟨call, .claimEnter⟩) {n : Nat}
    (hfresh : ∀ x ∈ L.records s.store, x.recordId ≠ n)
    (hafter : After L.Inv L.records L.attempts store' (L.records s.store ++ [call.request.freshRecord n now])
      (L.attempts s.store)) :
    Inv L { store := store', processes := s.processes.set i ⟨call, .claimed (call.request.freshRecord n now)⟩ } := by
  have hmiss : rowOf n (L.records s.store) = none := Table.row_eq_none.mpr hfresh
  refine h.move hp hafter.inv ⟨?_, ?_, ?_⟩ ?_ ?_ ?_
  · intro r hr
    cases hr
    rw [hafter.records_eq]
    exact ⟨⟨now, rfl⟩, _, rowOf_claimed hmiss call.request now, call.request.freshRecord_fresh n now,
      call.request.freshRecord_of n now⟩
  · simp [Phase.outcome]
  · simp
  · intro m _
    rw [hafter.records_eq]
    exact keptAt_append _ _ m
  · intro m hm
    cases hm
    exact Or.inr hmiss
  · intro row hr
    rw [hafter.records_eq] at hr
    rcases List.mem_append.mp hr with hr | hr
    · exact h.rows row hr
    · rw [List.mem_singleton.mp hr]
      have hmem : call.request ∈ s.claims := List.mem_map.mpr ⟨_, List.mem_of_getElem? hp, rfl⟩
      exact ⟨call.request, hmem, call.request.freshRecord_of n now⟩

/-- The call goes on with its claimed record. -/
theorem Inv.keep (h : Inv L s) (hp : s.processes[i]? = some ⟨call, phase⟩) (ht : phase.ticket = some r)
    (ht' : phase'.ticket = some r) (hinv : L.Inv store') (hrec : L.records store' = L.records s.store) :
    Inv L { store := store', processes := s.processes.set i ⟨call, phase'⟩ } := by
  have ho := Phase.outcome_of_ticket ht'
  refine h.move hp hinv ⟨?_, ?_, ?_⟩ ?_ ?_ ?_
  · intro r' hr'
    rw [hrec]
    have hrr : r' = r := Option.some.inj (hr'.symm.trans ht')
    exact (h.each i _ hp).ticket r' (hrr ▸ ht)
  · intro r' result hr'
    exact absurd (hr'.symm.trans ho) (by simp)
  · intro answer r' result he
    subst he
    cases ht'
  · intro n _
    rw [hrec]
    exact .refl _ n
  · intro n hn
    rw [Phase.owned_of_ticket ht'] at hn
    exact Or.inl ((Phase.owned_of_ticket ht).trans hn)
  · rw [hrec]
    exact h.rows

/-- The call's own record is finalised. -/
theorem Inv.mark (h : Inv L s) (hp : s.processes[i]? = some ⟨call, .marking r a result⟩) (now : Instant) :
    Inv L { store := L.ops.markRecord s.store r (result.finalization call r) now,
            processes := s.processes.set i ⟨call, .finishing r a result (result.finalization call r)⟩ } := by
  obtain ⟨hfresh, row, hrow, -, hof⟩ := (h.each i _ hp).ticket r rfl
  obtain ⟨-, hafter⟩ := h.mark_after hp now
  have hup := rowOf_update (f := SettlementRecord.finalized (result.finalization call r) now) (fun _ => rfl) hrow
    r.recordId
  rw [if_pos rfl] at hup
  refine h.move hp hafter.inv ⟨?_, ?_, ?_⟩ ?_ ?_ ?_
  · simp [Phase.ticket]
  · intro r' result' ho
    cases ho
    rw [hafter.records_eq]
    exact ⟨hfresh, _, hup, ⟨rfl, rfl, rfl, rfl⟩, ⟨hof.replayKey, hof.profileKey⟩⟩
  · simp
  · intro n hn
    rw [hafter.records_eq]
    refine keptAt_finalized _ ?_ _ now
    rintro rfl
    exact hn rfl
  · intro n hn
    exact Or.inl hn
  · rw [hafter.records_eq]
    refine h.rows_update (fun row c hof => ?_) _
    exact ⟨hof.replayKey, hof.profileKey⟩

/-- The call answers what it stored. -/
theorem Inv.finish (h : Inv L s) (hp : s.processes[i]? = some ⟨call, .finishing r a result f⟩) (hinv : L.Inv store')
    (hrec : L.records store' = L.records s.store) :
    Inv L { store := store',
            processes := s.processes.set i ⟨call, .finished (.ok (result.answer call r)) (some (r, result))⟩ } := by
  refine h.move hp hinv ⟨?_, ?_, ?_⟩ ?_ ?_ ?_
  · simp [Phase.ticket]
  · intro r' result' ho
    rw [hrec]
    exact (h.each i _ hp).outcome r' result' ho
  · intro answer r' result' he
    cases he
    rfl
  · intro n _
    rw [hrec]
    exact .refl _ n
  · intro n hn
    exact Or.inl hn
  · rw [hrec]
    exact h.rows

end Calls

/-- One step of a call keeps the invariant. -/
theorem Inv.engine (h : Inv L s) {i : Nat} {p : Process} {input : Input} {store' : σ} {phase' : Phase}
    (hp : s.processes[i]? = some p) (hs : EngineStep L s.store p.call p.phase input store' phase') :
    Inv L { store := store', processes := s.processes.set i ⟨p.call, phase'⟩ } := by
  obtain ⟨call, phase⟩ := p
  simp only at hs
  cases hs with
  | leave _ ht ho =>
    refine h.move hp h.store (.of_bare ht ho) (fun n _ => .refl _ n) ?_ h.rows
    simp [Phase.owned, ht, ho]
  | count _ hafter => exact h.count hp hafter
  | claim _ hfresh hafter => exact h.claim hp hfresh hafter
  | keep ht ht' hinv hrec => exact h.keep hp ht ht' hinv hrec
  | @mark now r a result =>
    rw [(h.mark_after hp now).1]
    exact h.mark hp now
  | finish hinv hrec => exact h.finish hp hinv hrec

/-! ## One event -/

/-- One event keeps the invariant. -/
theorem Inv.next (h : Inv L s) {e : Event} (hn : (machine L).next s e = some s') : Inv L s' := by
  cases e with
  | arrive call limited =>
    cases hn
    have hbare : Process.Ok (L.records s.store) ⟨call, if limited then .cachedGet else .claimEnter⟩ := by
      cases limited <;> exact .of_bare rfl rfl
    have howned : (if limited then Phase.cachedGet else Phase.claimEnter).owned = none := by
      cases limited <;> rfl
    refine ⟨h.store, ?_, ?_, ?_⟩
    · intro j q hq
      rcases Table.append_cases hq with hq | ⟨-, rfl⟩
      · exact h.each j q hq
      · exact hbare
    · intro j k q r n hq hr hqn hrn
      rcases Table.append_cases hq with hq | ⟨-, rfl⟩
      · rcases Table.append_cases hr with hr | ⟨-, rfl⟩
        · exact h.owners j k q r n hq hr hqn hrn
        · exact absurd (hrn.symm.trans howned) (by simp)
      · exact absurd (hqn.symm.trans howned) (by simp)
    · intro row hrow
      obtain ⟨c, hc, hof⟩ := h.rows row hrow
      refine ⟨c, ?_, hof⟩
      rw [System.claims, List.map_append]
      exact List.mem_append_left _ hc
  | engine i input =>
    obtain ⟨p, store', phase', hp, hstep, rfl⟩ := System.next_engine hn
    exact h.engine hp (engineNext_step h.store hstep)

/-- Every reachable state has the invariant. -/
theorem reachable_inv (h : (machine L).Reachable s) : Inv L s := by
  refine h.invariant ⟨L.init.inv, by simp [machine], by simp [machine], ?_⟩ fun s e t _ hs hn => hs.next hn
  intro row hrow
  have hnil : L.records (machine L).start.store = [] := L.init.records_eq
  rw [hnil] at hrow
  cases hrow

/-! ## The rows after a step -/

/-- What a step of a call does to the rows. -/
inductive RowsChange (L : LawfulStore σ) (s : σ) (call : SettleCall) (phase : Phase) : List SettlementRecord → Prop
  | same : RowsChange L s call phase (L.records s)
  | counted (n : Nat) (now : Instant) :
      RowsChange L s call phase
        (Table.update (fun x => x.recordId == n) (SettlementRecord.recordDuplicateClaim now) (L.records s))
  | added (n : Nat) (now : Instant) (none : L.store.existing s call.request = none) :
      RowsChange L s call phase (L.records s ++ [call.request.freshRecord n now])
  | finalized {r : SettlementRecord} {a : Nat} {result : ProviderResult} (now : Instant)
      (marking : phase = .marking r a result) :
      RowsChange L s call phase (Table.update (fun x => x.recordId == r.recordId)
        (SettlementRecord.finalized (result.finalization call r) now) (L.records s))

theorem Inv.rowsChange (h : Inv L s) {i : Nat} {p : Process} {input : Input} {store' : σ} {phase' : Phase}
    (hp : s.processes[i]? = some p) (hs : EngineStep L s.store p.call p.phase input store' phase') :
    RowsChange L s.store p.call p.phase (L.records store') := by
  obtain ⟨call, phase⟩ := p
  simp only at hs ⊢
  cases hs with
  | leave => exact .same
  | count _ hafter =>
    rw [hafter.records_eq]
    exact .counted _ _
  | claim hnone _ hafter =>
    rw [hafter.records_eq]
    exact .added _ _ hnone
  | keep _ _ _ hrec | finish _ hrec =>
    rw [hrec]
    exact .same
  | @mark now r a result =>
    obtain ⟨hheld, hafter⟩ := h.mark_after hp now
    rw [hheld, hafter.records_eq]
    exact .finalized now rfl

/-! ## One record for a payment -/

/-- A payment that has a record is found, when the requests are coherent. -/
theorem Inv.existing_of_paymentKey (h : Inv L s) {c : ClaimRequest} (hc : Coherent c.paymentKey (c :: s.claims))
    {row : SettlementRecord} (hrow : row ∈ L.records s.store) (hk : row.paymentKey = c.paymentKey) :
    ∃ r, L.store.existing s.store c = some r := by
  obtain ⟨c', hc', hof⟩ := h.rows row hrow
  have hreplay : c'.replayKey = c.replayKey :=
    hc c' (List.mem_cons_of_mem _ hc') (hof.paymentKey.symm.trans hk) c List.mem_cons_self rfl
  obtain ⟨r, hr⟩ := L.lookup_complete h.store hrow
  rw [hof.replayKey, hreplay] at hr
  rw [SettlementStore.existing]
  split
  · exact ⟨_, rfl⟩
  · exact ⟨r, hr⟩

/-- A payment with coherent requests has at most one record. -/
theorem reachable_count (h : (machine L).Reachable s) {payment : PaymentKey} (hc : Coherent payment s.claims) :
    ((L.records s.store).map SettlementRecord.paymentKey).count payment ≤ 1 := by
  refine h.invariant
    (I := fun s => Coherent payment s.claims → ((L.records s.store).map SettlementRecord.paymentKey).count payment ≤ 1)
    ?_ ?_ hc
  · intro _
    have hnil : L.records (machine L).start.store = [] := L.init.records_eq
    rw [hnil]
    exact Nat.zero_le 1
  intro s e t hreach ih hn hct
  cases e with
  | arrive call limited =>
    cases hn
    refine ih (hct.sublist fun c hc => ?_)
    rw [System.claims, List.map_append]
    exact List.mem_append_left _ hc
  | engine i input =>
    obtain ⟨p, store', phase', hp, hstep, rfl⟩ := System.next_engine hn
    rw [claims_set hp] at hct
    have hinv := reachable_inv hreach
    have hcount := ih hct
    have hrows := hinv.rowsChange hp (engineNext_step hinv.store hstep)
    show ((L.records store').map SettlementRecord.paymentKey).count payment ≤ 1
    generalize L.records store' = rows at hrows ⊢
    cases hrows with
    | same => exact hcount
    | counted n now =>
      rw [Table.map_update (f := SettlementRecord.recordDuplicateClaim now) fun _ => rfl]
      exact hcount
    | added n now hnone =>
      rw [List.map_append, List.count_append, List.map_singleton, List.count_singleton]
      split
      · rename_i hnew
        have hpayment : p.call.request.paymentKey = payment := beq_iff_eq.mp hnew
        have hmem : p.call.request ∈ s.claims := List.mem_map.mpr ⟨p, List.mem_of_getElem? hp, rfl⟩
        have hfresh : payment ∉ (L.records s.store).map SettlementRecord.paymentKey := by
          intro hold
          obtain ⟨row, hrow, hk⟩ := List.mem_map.mp hold
          obtain ⟨r, hr⟩ := hinv.existing_of_paymentKey (hpayment ▸ hct.cons hmem) hrow (hk.trans hpayment.symm)
          exact absurd (hr.symm.trans hnone) (by simp)
        rw [List.count_eq_zero.mpr hfresh]
      · exact hcount
    | @finalized r a result now _ =>
      rw [Table.map_update (f := SettlementRecord.finalized (result.finalization p.call r) now) fun _ => rfl]
      exact hcount

/-- Two records of a payment with coherent requests are one. -/
theorem reachable_unique (h : (machine L).Reachable s) {payment : PaymentKey} (hc : Coherent payment s.claims)
    {r r' : SettlementRecord} (hr : r ∈ L.records s.store) (hk : r.paymentKey = payment)
    (hr' : r' ∈ L.records s.store) (hk' : r'.paymentKey = payment) : r = r' :=
  Table.eq_of_count_le_one (reachable_count h hc) hr hk hr' hk'

end HostedFacilitator.Local
