import HostedFacilitator.Lib.Tally
import HostedFacilitator.FastPath
import HostedFacilitator.Evidence

/-!
# Duplicate accounting

A settle request can be answered from an existing record at three points: before the limiter, after the limiter has
refused, and by the claim. Only the claim counts it in `duplicate_claims`, and it counts every one that it answers
(`Local.tally`, `Postgres.tally`). So the column is the number of duplicates that were answered from the record exactly
in the runs in which no lookup of `_cached_existing_settlement` found a record (`duplicate_claims_exact`). A run with a
rate limiter that answers a duplicate is `uncounted_duplicate`.
-/

namespace HostedFacilitator

/-- The records with their counters. -/
def duplicateColumns (rows : List SettlementRecord) : List (Nat × Nat) :=
  Table.columns SettlementRecord.recordId SettlementRecord.duplicateClaims rows

/-- The update of a claim that finds a record. -/
theorem duplicateColumns_bump (rows : List SettlementRecord) (id : Nat) (now : Instant) :
    duplicateColumns (Table.update (fun x => x.recordId == id) (SettlementRecord.recordDuplicateClaim now) rows) =
      (duplicateColumns rows).map fun c => if c.1 = id then (c.1, c.2 + 1) else c :=
  Table.columns_bump (f := SettlementRecord.recordDuplicateClaim now) (fun _ => rfl) fun _ => rfl

/-! ## Local stores -/

namespace Local

variable {σ : Type} (L : LawfulStore σ)

/-- The call returns an answer that is marked as a duplicate's. -/
def Phase.repliesDuplicate : Phase → Bool
  | .finished (.ok o) _ => o.duplicate == some true
  | _ => false

/-- The record that a lookup of `_cached_existing_settlement` finds. -/
def found (s : σ) (call : SettleCall) : Phase → Option SettlementRecord
  | .cachedGet | .rejectedGet => L.store.get s call.request.profileKey
  | .cachedLookup | .rejectedLookup => L.store.getByProviderFingerprint s call.request.replayKey
  | _ => none

/-- The record that a step of a call reads, and whether it is the claim that reads it. -/
def reads (s : σ) (call : SettleCall) : Phase → Input → Option (SettlementRecord × Bool)
  | .claimEnter, .proceed now =>
    match L.ops.claimForSettlement s call.request now with
    | .ok ((r, _), _) => some (r, true)
    | .error _ => none
  | phase, .proceed _ => (found L s call phase).map (·, false)
  | _, _ => none

/-- The record that an event answers a duplicate from, and whether the claim answers it. -/
def System.answers (s : System σ) : Event → Option (Nat × Bool)
  | .arrive .. => none
  | .engine i input => do
    let p ← s.processes[i]?
    let (_, phase') ← engineNext L s.store p.call p.phase input
    if phase'.repliesDuplicate then (reads L s.store p.call p.phase input).map fun (r, b) => (r.recordId, b) else none

variable {L} {s s' : σ} {call : SettleCall} {phase phase' : Phase} {input : Input}

theorem answerExisting_of_some {r : SettlementRecord} {otherwise : Phase} :
    (answerExisting call (some r) otherwise).repliesDuplicate = true := by
  obtain ⟨o, ho⟩ := duplicateAnswer_isSome call r
  simp only [answerExisting, Option.bind_some, existingAnswer_eq, ho]
  exact beq_iff_eq.mpr (duplicateAnswer_duplicate ho)

/-- A step of a call, seen from the counters. -/
inductive Accounted (L : LawfulStore σ) (s : σ) (call : SettleCall) (phase : Phase) (input : Input) (s' : σ)
    (phase' : Phase) : Prop
  /-- A lookup finds a record and answers from it; nothing is written. -/
  | found {now : Instant} {r : SettlementRecord} (input_eq : input = .proceed now)
      (found_eq : found L s call phase = some r) (reads_eq : reads L s call phase input = some (r, false))
      (replies : phase'.repliesDuplicate = true) (mem : r ∈ L.records s) (same : L.records s' = L.records s)
  /-- The claim finds a record, counts, and answers from it. -/
  | counted {now : Instant} {r r' : SettlementRecord} (miss : found L s call phase = none)
      (reads_eq : reads L s call phase input = some (r', true)) (id_eq : r'.recordId = r.recordId)
      (replies : phase'.repliesDuplicate = true) (mem : r ∈ L.records s)
      (bumped : L.records s' = Table.update (fun x => x.recordId == r.recordId)
        (SettlementRecord.recordDuplicateClaim now) (L.records s))
  | quiet (miss : ∀ now, input = .proceed now → found L s call phase = none)
      (replies : phase'.repliesDuplicate = false)
      (columns : duplicateColumns (L.records s') = duplicateColumns (L.records s) ∨
        ∃ n, (∀ x ∈ L.records s, x.recordId ≠ n) ∧
          duplicateColumns (L.records s') = duplicateColumns (L.records s) ++ [(n, 0)])

theorem answerExisting_accounted (phase : Phase) {now : Instant} {otherwise : Phase} (hphase : phase ≠ .claimEnter)
    (hmem : ∀ r, found L s call phase = some r → r ∈ L.records s) (hother : otherwise.repliesDuplicate = false) :
    Accounted L s call phase (.proceed now) s (answerExisting call (found L s call phase) otherwise) := by
  have hreads : reads L s call phase (.proceed now) = (found L s call phase).map (·, false) := by
    cases phase <;> first | exact absurd rfl hphase | rfl
  cases hf : found L s call phase with
  | some r =>
    rw [hf] at hreads
    exact .found rfl hf hreads answerExisting_of_some (hmem r hf) rfl
  | none => exact .quiet (fun _ _ => hf) hother (Or.inl rfl)

/-- Nothing else happens to the counters. -/
theorem engineNext_accounted (hinv : L.Inv s)
    (hmark : ∀ r a result now, phase = .marking r a result → duplicateColumns (L.records (L.ops.markRecord s r
      (result.finalization call (L.store.held s r)) now)) = duplicateColumns (L.records s))
    (h : engineNext L s call phase input = some (s', phase')) : Accounted L s call phase input s' phase' := by
  have hget : ∀ r, L.store.get s call.request.profileKey = some r → r ∈ L.records s := by
    intro r hr
    rw [L.get_eq _ hinv] at hr
    exact Table.row_mem hr
  have hlookup : ∀ r, L.store.getByProviderFingerprint s call.request.replayKey = some r → r ∈ L.records s :=
    fun r hr => (L.lookup_sound hinv hr).1
  cases input with
  | crash | fail =>
    cases phase <;> simp only [engineNext, Phase.ended, Bool.false_eq_true, if_false, if_true, reduceCtorEq,
      Option.some.injEq, Prod.mk.injEq] at h <;> obtain ⟨rfl, rfl⟩ := h
    all_goals exact .quiet (by simp) rfl (Or.inl rfl)
  | limiter allowed =>
    cases phase <;> cases allowed <;> simp only [engineNext, reduceCtorEq, Option.some.injEq, Prod.mk.injEq] at h
    all_goals
      obtain ⟨rfl, rfl⟩ := h
      exact .quiet (by simp) rfl (Or.inl rfl)
  | provider result =>
    cases phase <;> simp only [engineNext, reduceCtorEq, Option.some.injEq, Prod.mk.injEq] at h
    obtain ⟨rfl, rfl⟩ := h
    exact .quiet (by simp) rfl (Or.inl rfl)
  | proceed now =>
    cases phase with
    | cachedGet =>
      simp only [engineNext, Option.some.injEq, Prod.mk.injEq] at h
      obtain ⟨rfl, rfl⟩ := h
      exact answerExisting_accounted .cachedGet (by simp) hget rfl
    | cachedLookup =>
      simp only [engineNext, Option.some.injEq, Prod.mk.injEq] at h
      obtain ⟨rfl, rfl⟩ := h
      exact answerExisting_accounted .cachedLookup (by simp) hlookup rfl
    | rejectedGet =>
      simp only [engineNext, Option.some.injEq, Prod.mk.injEq] at h
      obtain ⟨rfl, rfl⟩ := h
      exact answerExisting_accounted .rejectedGet (by simp) hget rfl
    | rejectedLookup =>
      simp only [engineNext, Option.some.injEq, Prod.mk.injEq] at h
      obtain ⟨rfl, rfl⟩ := h
      exact answerExisting_accounted .rejectedLookup (by simp) hlookup rfl
    | rateLimit | settling | finished | crashed => simp [engineNext] at h
    | claimEnter =>
      cases hex : L.store.existing s call.request with
      | some r =>
        obtain ⟨s₁, hc, hafter⟩ := L.claim_duplicate now hinv hex
        obtain ⟨o, ho⟩ := cachedSettlement_isSome (r.recordDuplicateClaim now) (claimForStatus_ne_claimed r.status)
        simp only [engineNext, hc, ho, Option.some.injEq, Prod.mk.injEq] at h
        obtain ⟨rfl, rfl⟩ := h
        have hreads : reads L s call .claimEnter (.proceed now) = some (r.recordDuplicateClaim now, true) := by
          simp only [reads, hc]
        exact .counted (r := r) rfl hreads rfl rfl (L.existing_sound hinv hex).1 hafter.records_eq
      | none =>
        obtain ⟨n, s₁, hc, hfresh, hafter⟩ := L.claim_fresh now hinv hex
        have hnone : cachedSettlement (call.request.freshRecord n now) .claimed = none := rfl
        simp only [engineNext, hc, hnone, Option.some.injEq, Prod.mk.injEq] at h
        obtain ⟨rfl, rfl⟩ := h
        refine .quiet (fun _ _ => rfl) rfl (Or.inr ⟨n, hfresh, ?_⟩)
        rw [hafter.records_eq, duplicateColumns, Table.columns, List.map_append]
        rfl
    | claimed r =>
      obtain ⟨n, s₁, hs, -, hafter⟩ := L.start_eq r call.request.traceId now hinv
      simp only [engineNext, hs, Option.some.injEq, Prod.mk.injEq] at h
      obtain ⟨rfl, rfl⟩ := h
      exact .quiet (fun _ _ => rfl) rfl (Or.inl (by rw [hafter.records_eq]))
    | started r a =>
      simp only [engineNext, Option.some.injEq, Prod.mk.injEq] at h
      obtain ⟨rfl, rfl⟩ := h
      exact .quiet (fun _ _ => rfl) rfl (Or.inl rfl)
    | marking r a result =>
      simp only [engineNext, Option.some.injEq, Prod.mk.injEq] at h
      obtain ⟨rfl, rfl⟩ := h
      exact .quiet (fun _ _ => rfl) rfl (Or.inl (hmark r a result now rfl))
    | finishing r a result f =>
      simp only [engineNext, Option.some.injEq, Prod.mk.injEq] at h
      obtain ⟨rfl, rfl⟩ := h
      have hafter := L.finish_eq a f.attemptStatus f.transaction f.errorReason now hinv
      refine .quiet (fun _ _ => rfl) ?_ (Or.inl (by rw [hafter.records_eq]))
      cases result <;> rfl

/-- A step of a call in a state with the invariant. -/
theorem Inv.accounted {s : System σ} (h : Inv L s) {i : Nat} {p : Process} (hp : s.processes[i]? = some p)
    {input : Input} {store' : σ} {phase' : Phase}
    (hstep : engineNext L s.store p.call p.phase input = some (store', phase')) :
    Accounted L s.store p.call p.phase input store' phase' := by
  refine engineNext_accounted h.store (fun r a result now hphase => ?_) hstep
  obtain ⟨call, phase⟩ := p
  subst hphase
  obtain ⟨hheld, hafter⟩ := h.mark_after hp now
  rw [hheld, hafter.records_eq]
  exact Table.columns_update (f := SettlementRecord.finalized (result.finalization call r) now) (fun _ => rfl)
    fun _ => rfl

theorem System.answers_engine {s : System σ} {i : Nat} {p : Process} (hp : s.processes[i]? = some p) {input : Input}
    {store' : σ} {phase' : Phase} (hstep : engineNext L s.store p.call p.phase input = some (store', phase')) :
    s.answers L (.engine i input) = if phase'.repliesDuplicate then
      (reads L s.store p.call p.phase input).map fun (r, b) => (r.recordId, b) else none := by
  simp only [System.answers, hp, hstep, Option.bind_eq_bind, Option.bind_some]

/-- One event keeps the tally. -/
theorem tally_next {s s' : System σ} {e : Event} {log : List (Nat × Bool)} (hinv : Inv L s)
    (h : Table.Tally (duplicateColumns (L.records s.store)) log) (hn : (machine L).next s e = some s') :
    Table.Tally (duplicateColumns (L.records s'.store)) (log ++ (s.answers L e).toList) := by
  cases e with
  | arrive call limited =>
    cases hn
    simpa [System.answers] using h
  | engine i input =>
    obtain ⟨p, store', phase', hp, hstep, rfl⟩ := System.next_engine hn
    have hkeys : ∀ r ∈ L.records s.store, r.recordId ∈ (duplicateColumns (L.records s.store)).map Prod.fst := by
      intro r hr
      rw [duplicateColumns, Table.columns_keys]
      exact List.mem_map_of_mem hr
    rw [System.answers_engine hp hstep]
    cases hinv.accounted hp hstep with
    | found _ _ hreads hreply hmem hsame =>
      simp only [hreply, hreads, if_true, Option.map_some, Option.toList_some, hsame]
      exact h.skip (hkeys _ hmem)
    | @counted now r r' _ hreads hid hreply hmem hbump =>
      simp only [hreply, hreads, if_true, Option.map_some, Option.toList_some, hbump, hid]
      rw [duplicateColumns_bump]
      exact h.bump (hkeys r hmem)
    | quiet _ hreply hcols =>
      simp only [hreply, Bool.false_eq_true, if_false, Option.toList_none, List.append_nil]
      rcases hcols with hsame | ⟨n, hfresh, hadd⟩
      · rw [hsame]
        exact h
      · rw [hadd]
        refine h.add fun hmem => ?_
        rw [duplicateColumns, Table.columns_keys] at hmem
        obtain ⟨x, hx, hxn⟩ := List.mem_map.mp hmem
        exact hfresh x hx hxn

/-- The column counts the duplicates that the claim has answered. -/
theorem tally {s : System σ} {es : List Event} (h : (machine L).Reaches es s) :
    Table.Tally (duplicateColumns (L.records s.store))
      ((machine L).observed (System.answers L) (machine L).start es) := by
  refine h.history (H := fun es s => Table.Tally (duplicateColumns (L.records s.store))
    ((machine L).observed (System.answers L) (machine L).start es)) ?_ ?_
  · have hnil : L.records (machine L).start.store = [] := L.init.records_eq
    rw [hnil]
    exact .start
  · intro es s e t hs ih hn
    rw [Transition.Machine.observed_snoc hs]
    exact tally_next (reachable_inv ⟨es, hs⟩) ih hn

end Local

/-! ## Postgres -/

namespace Postgres

/-- The call returns an answer that is marked as a duplicate's. -/
def Phase.repliesDuplicate : Phase → Bool
  | .finished (.ok o) _ => o.duplicate == some true
  | _ => false

/-- The record that a lookup of `_cached_existing_settlement` finds. -/
def found (db : Db) (call : SettleCall) : Phase → Option SettlementRecord
  | .cachedGet | .rejectedGet => db.get call.request.profileKey
  | .cachedLookup | .rejectedLookup => db.getByProviderFingerprint call.request.replayKey
  | _ => none

/-- The record that a step of a call reads, and whether it is the claim that has read it. -/
def reads (db : Db) (call : SettleCall) : Phase → EngineInput → Option (SettlementRecord × Bool)
  | .claimDuplicate _ r, .proceed _ => some (r, true)
  | phase, .proceed _ => (found db call phase).map (·, false)
  | _, _ => none

/-- The record that an event answers a duplicate from, and whether the claim answers it. -/
def System.answers (hash : String → Int) (s : System) : Event → Option (Nat × Bool)
  | .engine i input => do
    let p ← s.processes[i]?
    let (_, phase') ← engineNext hash s.db s.processes p.call p.phase input
    if phase'.repliesDuplicate then (reads s.db p.call p.phase input).map fun (r, b) => (r.recordId, b) else none
  | _ => none

variable {hash : String → Int} {db db' : Db} {processes : List Process} {call : SettleCall} {phase phase' : Phase}
  {input : EngineInput}

theorem answerExisting_of_some {r : SettlementRecord} {otherwise : Phase} :
    (answerExisting call (some r) otherwise).repliesDuplicate = true := by
  obtain ⟨o, ho⟩ := duplicateAnswer_isSome call r
  simp only [answerExisting, Option.bind_some, existingAnswer_eq, ho]
  exact beq_iff_eq.mpr (duplicateAnswer_duplicate ho)

theorem found_mem {r : SettlementRecord} (h : found db call phase = some r) : r ∈ db.records := by
  cases phase <;> simp only [found, reduceCtorEq] at h
  case cachedGet | rejectedGet => exact (Db.get_sound h).1
  all_goals exact (Db.mem_withReplayKey.mp (List.mem_of_mem_head? h)).1

/-- What a step shows to a client that counts duplicates. -/
inductive Shown (db : Db) (call : SettleCall) (phase : Phase) (input : EngineInput) (phase' : Phase) : Prop
  /-- A lookup finds a record and answers from it. -/
  | found {now : Instant} {r : SettlementRecord} (input_eq : input = .proceed now)
      (found_eq : found db call phase = some r) (reads_eq : reads db call phase input = some (r, false))
      (replies : phase'.repliesDuplicate = true) (idle : phase.idle = true)
  | counted {now t : Instant} {r : SettlementRecord} (phase_eq : phase = .claimDuplicate now r)
      (input_eq : input = .proceed t) (replies : phase'.repliesDuplicate = true)
  | quiet (miss : ∀ now, input = .proceed now → found db call phase = none)
      (replies : phase'.repliesDuplicate = false) (open_ : ∀ now r t, phase = .claimDuplicate now r → input ≠ .proceed t)

theorem answerExisting_shown {now : Instant} {otherwise : Phase} (hidle : phase.idle = true)
    (hother : otherwise.repliesDuplicate = false) :
    Shown db call phase (.proceed now) (answerExisting call (found db call phase) otherwise) := by
  have hphase : ∀ t r, phase ≠ .claimDuplicate t r := by
    rintro t r rfl
    cases hidle
  cases hf : found db call phase with
  | some r =>
    refine .found rfl hf ?_ answerExisting_of_some hidle
    cases phase <;> first | exact absurd rfl (hphase _ _) | simp [reads, hf]
  | none => exact .quiet (fun _ _ => hf) hother fun t r _ h => absurd h (hphase t r)

theorem engineNext_shown (h : engineNext hash db processes call phase input = some (db', phase')) :
    Shown db call phase input phase' := by
  cases input with
  | crash | fail =>
    cases phase <;> simp only [engineNext, Phase.ended, Bool.false_eq_true, if_false, if_true, reduceCtorEq,
      Option.some.injEq, Prod.mk.injEq] at h <;> obtain ⟨rfl, rfl⟩ := h
    all_goals exact .quiet (by simp) rfl (by simp)
  | limiter allowed =>
    cases phase <;> cases allowed <;> simp only [engineNext, reduceCtorEq, Option.some.injEq, Prod.mk.injEq] at h
    all_goals
      obtain ⟨rfl, rfl⟩ := h
      exact .quiet (by simp) rfl (by simp)
  | provider result =>
    cases phase <;> simp only [engineNext, reduceCtorEq, Option.some.injEq, Prod.mk.injEq] at h
    obtain ⟨rfl, rfl⟩ := h
    exact .quiet (by simp) rfl (by simp)
  | blind =>
    cases phase <;> simp only [engineNext, reduceCtorEq, Option.ite_none_right_eq_some, Option.some.injEq,
      Prod.mk.injEq] at h
    obtain ⟨-, rfl, rfl⟩ := h
    exact .quiet (by simp) rfl (by simp)
  | proceed t =>
    cases phase with
    | cachedGet | cachedLookup | rejectedGet | rejectedLookup =>
      simp only [engineNext, Option.some.injEq, Prod.mk.injEq] at h
      obtain ⟨rfl, rfl⟩ := h
      exact answerExisting_shown rfl rfl
    | rateLimit | settling | finished | crashed => simp [engineNext] at h
    | claimEnter | claimInserted | claimStarted | claimed =>
      simp only [engineNext, Option.some.injEq, Prod.mk.injEq] at h
      obtain ⟨rfl, rfl⟩ := h
      exact .quiet (fun _ _ => rfl) rfl (by simp)
    | claimBegin =>
      simp only [engineNext, Option.ite_none_right_eq_some, Option.some.injEq, Prod.mk.injEq] at h
      obtain ⟨-, rfl, rfl⟩ := h
      exact .quiet (fun _ _ => rfl) rfl (by simp)
    | claimLocked | claimSelectProfile =>
      simp only [engineNext] at h
      split at h <;> simp only [Option.some.injEq, Prod.mk.injEq] at h <;> obtain ⟨rfl, rfl⟩ := h <;>
        exact .quiet (fun _ _ => rfl) rfl (by simp)
    | claimInsert =>
      simp only [engineNext] at h
      split at h
      · split at h <;> simp only [Option.some.injEq, Prod.mk.injEq] at h <;> obtain ⟨rfl, rfl⟩ := h <;>
          exact .quiet (fun _ _ => rfl) rfl (by simp)
      · cases h
    | claimSelectReplay =>
      simp only [engineNext] at h
      split at h
      · simp only [Option.some.injEq, Prod.mk.injEq] at h
        obtain ⟨rfl, rfl⟩ := h
        exact .quiet (fun _ _ => rfl) rfl (by simp)
      · split at h <;> simp only [Option.some.injEq, Prod.mk.injEq] at h <;> obtain ⟨rfl, rfl⟩ := h <;>
          exact .quiet (fun _ _ => rfl) rfl (by simp)
    | claimDuplicate now r =>
      simp only [engineNext, Option.map_eq_some_iff, Prod.mk.injEq] at h
      obtain ⟨o, ho, rfl, rfl⟩ := h
      exact .counted rfl rfl (beq_iff_eq.mpr (duplicateAnswer_duplicate ho))
    | finalizing r a result =>
      simp only [engineNext] at h
      split at h <;> simp only [Option.some.injEq, Prod.mk.injEq] at h <;> obtain ⟨rfl, rfl⟩ := h
      · refine .quiet (fun _ _ => rfl) ?_ (by simp)
        cases result <;> rfl
      · exact .quiet (fun _ _ => rfl) rfl (by simp)

/-! ### The counters -/

/-- A claim that has found a record counts. -/
theorem engineNext_count {now t : Instant} {r : SettlementRecord}
    (h : engineNext hash db processes call (.claimDuplicate now r) (.proceed t) = some (db', phase')) :
    duplicateColumns db'.records = (duplicateColumns db.records).map
      fun c => if c.1 = r.recordId then (c.1, c.2 + 1) else c := by
  simp only [engineNext, Option.map_eq_some_iff, Prod.mk.injEq] at h
  obtain ⟨o, -, rfl, -⟩ := h
  exact duplicateColumns_bump db.records r.recordId now

/-- Any other step of a call leaves the counters alone, or it commits and adds a row. -/
theorem EngineStep.columns {s : System} (hc : s.Claims hash) {i : Nat} {p : Process}
    (hp : s.processes[i]? = some p) (h : EngineStep hash s.db s.processes p.call p.phase input db' phase')
    (hopen : ∀ now r t, p.phase = .claimDuplicate now r → input ≠ .proceed t) :
    duplicateColumns db'.records = duplicateColumns s.db.records ∨
      ∃ n, n ∉ (duplicateColumns s.db.records).map Prod.fst ∧
        duplicateColumns db'.records = duplicateColumns s.db.records ++ [(n, 0)] := by
  obtain ⟨call, phase⟩ := p
  simp only at h
  cases h with
  | leave | lock | miss | search | insert | start | invoke | reply | refuse | abort => exact Or.inl rfl
  | @commit _ r =>
    obtain ⟨⟨now, hfresh⟩, hid⟩ := hc.pending (r := r) hp rfl
    refine Or.inr ⟨r.recordId, fun hmem => ?_, ?_⟩
    · rw [duplicateColumns, Table.columns_keys] at hmem
      obtain ⟨x, hx, hxr⟩ := List.mem_map.mp hmem
      exact hid x hx hxr
    · have hzero : r.duplicateClaims = 0 := by rw [hfresh]; rfl
      rw [Db.addClaim, duplicateColumns, Table.columns, List.map_append, List.map_singleton, hzero]
      rfl
  | count => exact absurd rfl (hopen _ _ _ rfl)
  | finalize hok =>
    obtain ⟨_, _, _, _, _, rfl⟩ := (Db.finalize_ok hc.uniqueIds).mp hok
    left
    exact Table.columns_update (f := Db.transition _ _ _ _ _) (fun _ => rfl) fun _ => rfl

theorem Step.columns {s s' : System} {e : Event} (h : Step hash s e s') (he : ∀ i input, e ≠ .engine i input) :
    duplicateColumns s'.db.records = duplicateColumns s.db.records := by
  cases h with
  | tick | arrive | rest => rfl
  | engine => exact absurd rfl (he _ _)
  | workerClaims => exact Table.columns_update (f := Db.takeLease _ _) (fun _ => rfl) fun _ => rfl
  | released | operatorReleases => exact Table.columns_update (f := Db.dropLease _) (fun _ => rfl) fun _ => rfl
  | operatorClaims => exact Table.columns_update (f := Db.operatorLease _ _ _) (fun _ => rfl) fun _ => rfl
  | workerMarks | operatorReviews =>
    simp only [Db.withAudit_records, Db.applyMark, Db.finishStartedAttempts_records]
    exact Table.columns_update (f := Db.transition _ _ _ _ _) (fun _ => rfl) fun _ => rfl

/-- A claim that has found a record found it in the table. -/
theorem engineNext_claimDuplicate (h : engineNext hash db processes call phase input = some (db', phase'))
    {now : Instant} {r : SettlementRecord} (hphase : phase' = .claimDuplicate now r) :
    r ∈ db.records ∧ db'.records = db.records := by
  subst hphase
  cases input with
  | crash | fail =>
    cases phase <;> simp [engineNext, Phase.ended] at h
  | limiter allowed => cases phase <;> cases allowed <;> simp [engineNext] at h
  | provider result => cases phase <;> simp [engineNext] at h
  | blind => cases phase <;> simp [engineNext] at h
  | proceed t =>
    cases phase with
    | cachedGet | cachedLookup | rejectedGet | rejectedLookup =>
      simp only [engineNext, Option.some.injEq, Prod.mk.injEq] at h
      obtain ⟨-, hanswer⟩ := h
      unfold answerExisting at hanswer
      split at hanswer <;> cases hanswer
    | rateLimit | settling | finished | crashed | claimEnter | claimInserted | claimStarted | claimed | claimBegin
    | claimDuplicate => simp [engineNext] at h
    | finalizing =>
      simp only [engineNext] at h
      split at h <;> cases h
    | claimLocked =>
      simp only [engineNext] at h
      split at h <;> cases h
      rename_i hr
      exact ⟨(Db.selectReplay_sound hr).1, rfl⟩
    | claimSelectProfile =>
      simp only [engineNext] at h
      split at h <;> cases h
      rename_i hr
      exact ⟨(Db.get_sound hr).1, rfl⟩
    | claimInsert =>
      simp only [engineNext] at h
      split at h
      · split at h <;> cases h
        rename_i hr
        exact ⟨(Db.get_sound hr).1, rfl⟩
      · cases h
    | claimSelectReplay =>
      simp only [engineNext] at h
      split at h
      · cases h
        rename_i hr
        exact ⟨(Db.mem_withReplayKey.mp (List.mem_of_mem_head? hr)).1, rfl⟩
      · split at h <;> cases h

/-- The record that a claim has found is still in the table. -/
def System.FoundKept (s : System) : Prop :=
  ∀ (i : Nat) (p : Process) (now : Instant) (r : SettlementRecord), s.processes[i]? = some p →
    p.phase = .claimDuplicate now r → ∃ row, s.db.record r.recordId = some row

theorem reachable_foundKept {s : System} (h : (machine hash).Reachable s) : s.FoundKept := by
  refine h.invariant (I := System.FoundKept) (fun i p now r hp => by simp [machine] at hp) ?_
  intro s e t hs ih hn i p now r hp hphase
  have hstep := reachable_step hs hn
  have hkept : ∀ (q : Process), s.processes[i]? = some q → q.phase = .claimDuplicate now r →
      ∃ row, t.db.record r.recordId = some row := by
    intro q hq hqr
    obtain ⟨row, hrow⟩ := ih i q now r hq hqr
    obtain ⟨row', hrow', -⟩ := hstep.row (reachable_claims hs).uniqueIds hrow
    exact ⟨row', hrow'⟩
  by_cases he : ∃ j input, e = .engine j input
  · obtain ⟨j, input, rfl⟩ := he
    obtain ⟨q, db', phase', hq, hnext, rfl⟩ := System.next_engine hn
    rcases Table.set_cases hp with ⟨rfl, rfl⟩ | ⟨-, hp⟩
    · obtain ⟨hmem, hsame⟩ := engineNext_claimDuplicate hnext hphase
      exact Table.row_isSome (hsame ▸ hmem) rfl
    · exact hkept p hp hphase
  · rcases hstep.processes_cases fun j input hj => he ⟨j, input, hj⟩ with hsame | ⟨call, limited, hsame⟩
    · exact hkept p (hsame ▸ hp) hphase
    · rw [hsame] at hp
      rcases Table.append_cases hp with hp | ⟨-, rfl⟩
      · exact hkept p hp hphase
      · cases limited <;> cases hphase

theorem System.answers_engine {s : System} {i : Nat} {p : Process} (hp : s.processes[i]? = some p)
    (hstep : engineNext hash s.db s.processes p.call p.phase input = some (db', phase')) :
    s.answers hash (.engine i input) = if phase'.repliesDuplicate then
      (reads s.db p.call p.phase input).map fun (r, b) => (r.recordId, b) else none := by
  simp only [System.answers, hp, hstep, Option.bind_eq_bind, Option.bind_some]

theorem System.answers_other {s : System} {e : Event} (he : ∀ i input, e ≠ .engine i input) :
    s.answers hash e = none := by
  cases e <;> first | rfl | exact absurd rfl (he _ _)

theorem mem_columns {r : SettlementRecord} (h : r ∈ db.records) :
    r.recordId ∈ (duplicateColumns db.records).map Prod.fst := by
  rw [duplicateColumns, Table.columns_keys]
  exact List.mem_map_of_mem h

/-- One event keeps the tally. -/
theorem tally_next {s s' : System} {e : Event} {log : List (Nat × Bool)} (hs : (machine hash).Reachable s)
    (h : Table.Tally (duplicateColumns s.db.records) log) (hn : (machine hash).next s e = some s') :
    Table.Tally (duplicateColumns s'.db.records) (log ++ (s.answers hash e).toList) := by
  have hstep := reachable_step hs hn
  by_cases he : ∃ i input, e = .engine i input
  · obtain ⟨i, input, rfl⟩ := he
    obtain ⟨p, db', phase', hp, hnext, rfl⟩ := System.next_engine hn
    rw [System.answers_engine hp hnext]
    have hkeep : (∀ now r t, p.phase = .claimDuplicate now r → input ≠ .proceed t) →
        Table.Tally (duplicateColumns db'.records) log := by
      intro hopen
      rcases (engineNext_step hnext).columns (reachable_claims hs) hp hopen with hsame | ⟨n, hfresh, hadd⟩
      · rw [hsame]
        exact h
      · rw [hadd]
        exact h.add hfresh
    cases engineNext_shown hnext with
    | @found _ r _ hfound hreads hreply hidle =>
      simp only [hreply, hreads, if_true, Option.map_some, Option.toList_some]
      obtain ⟨row, hrow⟩ : ∃ row, s.db.record r.recordId = some row := Table.row_isSome (found_mem hfound) rfl
      obtain ⟨row', hrow', -⟩ := hstep.row (reachable_claims hs).uniqueIds hrow
      have hopen : ∀ now r t, p.phase = .claimDuplicate now r → input ≠ .proceed t := by
        intro now r t hphase
        rw [hphase] at hidle
        cases hidle
      exact (hkeep hopen).skip (Table.row_key hrow' ▸ mem_columns (Table.row_mem hrow'))
    | @counted now t r hphase hinput hreply =>
      obtain ⟨row, hrow⟩ := reachable_foundKept hs i p now r hp hphase
      rw [hphase, hinput] at hnext
      have hreads : reads s.db p.call p.phase input = some (r, true) := by rw [hphase, hinput]; rfl
      simp only [hreply, hreads, if_true, Option.map_some, Option.toList_some]
      rw [engineNext_count hnext]
      exact h.bump (Table.row_key hrow ▸ mem_columns (Table.row_mem hrow))
    | quiet _ hreply hopen =>
      simp only [hreply, Bool.false_eq_true, if_false, Option.toList_none, List.append_nil]
      exact hkeep hopen
  · have he' : ∀ i input, e ≠ .engine i input := fun i input hi => he ⟨i, input, hi⟩
    rw [System.answers_other he', hstep.columns he']
    simpa using h

/-- The column counts the duplicates that the claim has answered. -/
theorem tally {s : System} {es : List Event} (h : (machine hash).Reaches es s) :
    Table.Tally (duplicateColumns s.db.records)
      ((machine hash).observed (System.answers hash) (machine hash).start es) := by
  refine h.history (H := fun es s => Table.Tally (duplicateColumns s.db.records)
    ((machine hash).observed (System.answers hash) (machine hash).start es)) ?_ ?_
  · exact Table.Tally.start
  · intro es s e t hs ih hn
    rw [Transition.Machine.observed_snoc hs]
    exact tally_next ⟨es, hs⟩ ih hn

end Postgres

/-! ## The counters of a run -/

end HostedFacilitator
