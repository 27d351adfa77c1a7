import HostedFacilitator.Postgres.Step

/-!
# At most one submission

`ClaimInv` is the invariant of the claim protocol. The advisory lock excludes two calls with one replay key between
their first select and their commit (`locks`), so a key that a call did not find stays absent until it commits
(`Process.Ok.absent`); a record belongs to at most one call (`owners`).

* `reachable_claims`: every reachable state has the invariant;
* `provider_settle_at_most_once`: the provider is called at most once for each replay key, and a replay key has at
  most one row.
-/

namespace HostedFacilitator.Postgres

/-- What the claim protocol reads of the rows. -/
def Db.rows (db : Db) : List (Nat × ReplayKey) := db.records.map fun r => (r.recordId, r.replayKey.coalesce)

/-- The replay key of a call, up to `COALESCE`. -/
def Process.key (p : Process) : ReplayKey := p.call.request.replayKey.coalesce

namespace Phase

/-- The call has seen, under its lock, that its key has no row. -/
def absent : Phase → Bool
  | .claimInsert .. | .claimInserted .. | .claimStarted .. => true
  | _ => false

/-- The record that belongs to the call. -/
def owned : Phase → Option Nat
  | .claimInserted _ r | .claimStarted r _ | .claimed r _ | .settling r _ | .finalizing r _ _ => some r.recordId
  | _ => none

/-- The call has its record and has not called the provider. -/
def uncalled : Phase → Bool
  | .claimed .. => true
  | _ => false

theorem absent_holdsLock {phase : Phase} (h : phase.absent = true) : phase.holdsLock = true := by
  cases phase <;> first | rfl | cases h

theorem owned_of_ticket {phase : Phase} {r : SettlementRecord} {a : Nat} (h : phase.ticket = some (r, a)) :
    phase.owned = some r.recordId := by
  cases phase <;> simp_all [ticket, owned]

theorem owned_of_pending {phase : Phase} {r : SettlementRecord} (h : phase.pendingRecord = some r) :
    phase.owned = some r.recordId := by
  cases phase <;> simp_all [pendingRecord, owned]

theorem owned_cases {phase : Phase} {n : Nat} (h : phase.owned = some n) :
    (∃ r, phase.pendingRecord = some r ∧ r.recordId = n) ∨ ∃ r a, phase.ticket = some (r, a) ∧ r.recordId = n := by
  cases phase <;> simp_all [ticket, owned, pendingRecord]

/-- The call holds no lock, no row and no record. -/
def bare (phase : Phase) : Bool := !phase.holdsLock && phase.owned.isNone

theorem bare_of_idle {phase : Phase} (h : phase.idle = true) : phase.bare = true := by
  cases phase <;> first | rfl | cases h

theorem holdsLock_of_bare {phase : Phase} (h : phase.bare = true) : phase.holdsLock = false := by
  simp only [bare, Bool.and_eq_true, Bool.not_eq_true'] at h
  exact h.1

theorem owned_of_bare {phase : Phase} (h : phase.bare = true) : phase.owned = none := by
  simp only [bare, Bool.and_eq_true, Option.isNone_iff_eq_none] at h
  exact h.2

theorem invokes_of_bare {phase : Phase} (h : phase.bare = true) : phase.invokes = false := by
  cases phase <;> first | rfl | cases h

end Phase

/-! ## The invariant -/

/-- What a call knows about the rows and the provider calls. -/
structure Process.Ok (rows : List (Nat × ReplayKey)) (next : Nat) (calls : List ReplayKey) (p : Process) : Prop where
  absent : p.phase.absent = true → ∀ row ∈ rows, row.2 ≠ p.key
  pending : ∀ r, p.phase.pendingRecord = some r →
    (∃ now, r = p.call.request.freshRecord r.recordId now) ∧ r.recordId < next ∧ ∀ row ∈ rows, row.1 ≠ r.recordId
  ticket : ∀ r a, p.phase.ticket = some (r, a) → (r.recordId, p.key) ∈ rows
  uncalled : p.phase.uncalled = true → ∀ k ∈ calls, k.coalesce ≠ p.key

/-- The invariant of the claim protocol. -/
structure ClaimInv (hash : String → Int) (rows : List (Nat × ReplayKey)) (next : Nat) (processes : List Process)
    (calls : List ReplayKey) : Prop where
  ids : (rows.map Prod.fst).Nodup
  bound : ∀ row ∈ rows, row.1 < next
  keys : (rows.map Prod.snd).Nodup
  calls_nodup : (calls.map ReplayKey.coalesce).Nodup
  calls_rows : ∀ k ∈ calls, ∃ row ∈ rows, row.2 = k.coalesce
  each : ∀ (i : Nat) (p : Process), processes[i]? = some p → p.Ok rows next calls
  locks : ∀ (i j : Nat) (p q : Process), processes[i]? = some p → processes[j]? = some q → p.phase.holdsLock = true →
    q.phase.holdsLock = true →
    hash (lockText p.call.request.replayKey) = hash (lockText q.call.request.replayKey) → i = j
  owners : ∀ (i j : Nat) (p q : Process) (n : Nat), processes[i]? = some p → processes[j]? = some q →
    p.phase.owned = some n → q.phase.owned = some n → i = j

/-- The invariant, read off a state. -/
def System.Claims (hash : String → Int) (s : System) : Prop :=
  ClaimInv hash s.db.rows s.db.nextRecordId s.processes s.providerCalls

/-- A call that holds nothing knows nothing. -/
theorem Process.Ok.of_bare {rows : List (Nat × ReplayKey)} {next : Nat} {calls : List ReplayKey} {p : Process}
    (h : p.phase.bare = true) : p.Ok rows next calls := by
  constructor <;> cases hp : p.phase <;>
    simp_all [Phase.bare, Phase.owned, Phase.holdsLock, Phase.absent, Phase.pendingRecord, Phase.ticket,
      Phase.uncalled]

/-- The lock is on the coalesced key. -/
theorem lockText_coalesce (k : ReplayKey) : lockText k.coalesce = lockText k := rfl

theorem lockText_congr {k k' : ReplayKey} (h : k.coalesce = k'.coalesce) : lockText k = lockText k' := by
  rw [← lockText_coalesce k, h, lockText_coalesce]

namespace ClaimInv

variable {hash : String → Int} {rows : List (Nat × ReplayKey)} {next : Nat} {processes : List Process}
  {calls : List ReplayKey} {i j : Nat} {p q : Process}

theorem row_eq (h : ClaimInv hash rows next processes calls) {row row' : Nat × ReplayKey} (hr : row ∈ rows)
    (hr' : row' ∈ rows) (hk : row.2 = row'.2) : row = row' :=
  List.inj_on_of_nodup_map h.keys hr hr' hk

/-- What a call owns is below the sequence. -/
theorem owned_lt (h : ClaimInv hash rows next processes calls) (hp : processes[i]? = some p) {n : Nat}
    (ho : p.phase.owned = some n) : n < next := by
  rcases Phase.owned_cases ho with ⟨r, hr, rfl⟩ | ⟨r, a, hr, rfl⟩
  · exact ((h.each i p hp).pending r hr).2.1
  · exact h.bound _ ((h.each i p hp).ticket r a hr)

/-- Two calls past the lock have different keys. -/
theorem key_ne (h : ClaimInv hash rows next processes calls) (hp : processes[i]? = some p)
    (hq : processes[j]? = some q) (hij : j ≠ i) (hlp : p.phase.holdsLock = true) (hlq : q.phase.holdsLock = true) :
    q.key ≠ p.key := by
  intro hk
  exact hij (h.locks j i q p hq hp hlq hlp (congrArg hash (lockText_congr hk)))

/-! ## Moves -/

/-- A call that arrives holds nothing. -/
theorem arrive (h : ClaimInv hash rows next processes calls) (hb : p.phase.bare = true) :
    ClaimInv hash rows next (processes ++ [p]) calls := by
  have hlock := Phase.holdsLock_of_bare hb
  have hown := Phase.owned_of_bare hb
  refine ⟨h.ids, h.bound, h.keys, h.calls_nodup, h.calls_rows, ?_, ?_, ?_⟩
  · intro j q hq
    rcases Table.append_cases hq with hq | ⟨-, rfl⟩
    · exact h.each j q hq
    · exact .of_bare hb
  · intro j k q r hq hr hlq hlr he
    rcases Table.append_cases hq with hq | ⟨-, rfl⟩
    · rcases Table.append_cases hr with hr | ⟨-, rfl⟩
      · exact h.locks j k q r hq hr hlq hlr he
      · rw [hlock] at hlr; cases hlr
    · rw [hlock] at hlq; cases hlq
  · intro j k q r n hq hr hoq hor
    rcases Table.append_cases hq with hq | ⟨-, rfl⟩
    · rcases Table.append_cases hr with hr | ⟨-, rfl⟩
      · exact h.owners j k q r n hq hr hoq hor
      · rw [hown] at hor; cases hor
    · rw [hown] at hoq; cases hoq

/-- Locks stay exclusive when one call moves. -/
theorem locks_set (h : ClaimInv hash rows next processes calls) {phase' : Phase} (hp : processes[i]? = some p)
    (hl : phase'.holdsLock = true → p.phase.holdsLock = true ∨
      lockFree hash processes p.call.request.replayKey = true) :
    ∀ (j k : Nat) (q r : Process), (processes.set i ⟨p.call, phase'⟩)[j]? = some q →
      (processes.set i ⟨p.call, phase'⟩)[k]? = some r → q.phase.holdsLock = true → r.phase.holdsLock = true →
      hash (lockText q.call.request.replayKey) = hash (lockText r.call.request.replayKey) → j = k := by
  have hother : ∀ (k : Nat) (r : Process), k ≠ i → processes[k]? = some r → phase'.holdsLock = true →
      r.phase.holdsLock = true → hash (lockText p.call.request.replayKey) ≠ hash (lockText r.call.request.replayKey) := by
    intro k r hk hr hlp hlr he
    rcases hl hlp with hlp | hfree
    · exact hk (h.locks k i r p hr hp hlr hlp he.symm)
    · have := List.all_eq_true.mp hfree r (List.mem_of_getElem? hr)
      simp [hlr, he.symm] at this
  intro j k q r hq hr hlq hlr he
  rcases Table.set_cases hq with ⟨rfl, rfl⟩ | ⟨hj, hq'⟩ <;> rcases Table.set_cases hr with ⟨rfl, rfl⟩ | ⟨hk, hr'⟩
  · rfl
  · exact absurd he (hother k r hk hr' hlq hlr)
  · exact absurd he.symm (hother j q hj hq' hlr hlq)
  · exact h.locks j k q r hq' hr' hlq hlr he

/-- Records stay with one call when one call moves. -/
theorem owners_set (h : ClaimInv hash rows next processes calls) {phase' : Phase} (hp : processes[i]? = some p)
    (ho : ∀ n, phase'.owned = some n → p.phase.owned = some n ∨ next ≤ n) :
    ∀ (j k : Nat) (q r : Process) (n : Nat), (processes.set i ⟨p.call, phase'⟩)[j]? = some q →
      (processes.set i ⟨p.call, phase'⟩)[k]? = some r → q.phase.owned = some n → r.phase.owned = some n → j = k := by
  have hother : ∀ (k : Nat) (r : Process) (n : Nat), k ≠ i → processes[k]? = some r → phase'.owned = some n →
      r.phase.owned ≠ some n := by
    intro k r n hk hr hop hor
    rcases ho n hop with hop | hle
    · exact hk (h.owners k i r p n hr hp hor hop)
    · have := h.owned_lt hr hor
      omega
  intro j k q r n hq hr hoq hor
  rcases Table.set_cases hq with ⟨rfl, rfl⟩ | ⟨hj, hq'⟩ <;> rcases Table.set_cases hr with ⟨rfl, rfl⟩ | ⟨hk, hr'⟩
  · rfl
  · exact absurd hor (hother k r n hk hr' hoq)
  · exact absurd hoq (hother j q n hj hq' hor)
  · exact h.owners j k q r n hq' hr' hoq hor

/-- One call moves and no row and no provider call is added. -/
theorem move (h : ClaimInv hash rows next processes calls) {next' : Nat} {phase' : Phase}
    (hp : processes[i]? = some p) (hn : next ≤ next') (hok : Process.Ok rows next' calls ⟨p.call, phase'⟩)
    (hl : phase'.holdsLock = true → p.phase.holdsLock = true ∨
      lockFree hash processes p.call.request.replayKey = true)
    (ho : ∀ n, phase'.owned = some n → p.phase.owned = some n ∨ next ≤ n) :
    ClaimInv hash rows next' (processes.set i ⟨p.call, phase'⟩) calls := by
  refine ⟨h.ids, fun row hr => Nat.lt_of_lt_of_le (h.bound row hr) hn, h.keys, h.calls_nodup, h.calls_rows, ?_,
    h.locks_set hp hl, h.owners_set hp ho⟩
  intro j q hq
  rcases Table.set_cases hq with ⟨-, rfl⟩ | ⟨-, hq⟩
  · exact hok
  · obtain ⟨ha, hpend, ht, hu⟩ := h.each j q hq
    refine ⟨ha, fun r hr => ?_, ht, hu⟩
    obtain ⟨hk, hlt, hrow⟩ := hpend r hr
    exact ⟨hk, Nat.lt_of_lt_of_le hlt hn, hrow⟩

/-- A call lets go of what it holds. -/
theorem leave (h : ClaimInv hash rows next processes calls) {phase' : Phase} (hp : processes[i]? = some p)
    (hb : phase'.bare = true) : ClaimInv hash rows next (processes.set i ⟨p.call, phase'⟩) calls := by
  apply h.move hp le_rfl (.of_bare hb)
  · rw [Phase.holdsLock_of_bare hb]
    intro hl
    cases hl
  · rw [Phase.owned_of_bare hb]
    intro n hn
    cases hn

/-- A claim commits: its key was absent and its id fresh. -/
theorem commit (h : ClaimInv hash rows next processes calls) {r : SettlementRecord} {a : SettlementAttemptRecord}
    (hp : processes[i]? = some p) (hphase : p.phase = .claimStarted r a) :
    ClaimInv hash (rows ++ [(r.recordId, r.replayKey.coalesce)]) next
      (processes.set i ⟨p.call, .claimed r a.attemptId⟩) calls := by
  obtain ⟨habsent, hpend, -, -⟩ := h.each i p hp
  rw [hphase] at habsent hpend
  obtain ⟨⟨now, hfresh⟩, hlt, hid⟩ := hpend r rfl
  have habs := habsent rfl
  have hk : r.replayKey.coalesce = p.key := by
    rw [hfresh]
    rfl
  have hlock : p.phase.holdsLock = true := by rw [hphase]; rfl
  rw [hk]
  refine ⟨?_, ?_, ?_, h.calls_nodup, ?_, ?_, h.locks_set hp (by simp [Phase.holdsLock]),
    h.owners_set hp fun n hn => Or.inl (by rw [hphase]; exact hn)⟩
  · exact Table.nodup_append_fresh h.ids hid
  · intro row hr
    rcases List.mem_append.mp hr with hr | hr
    · exact h.bound row hr
    · rw [List.mem_singleton.mp hr]; exact hlt
  · exact Table.nodup_append_fresh h.keys habs
  · intro k hc
    obtain ⟨row, hr, he⟩ := h.calls_rows k hc
    exact ⟨row, List.mem_append_left _ hr, he⟩
  · intro j q hq
    rcases Table.set_cases hq with ⟨-, rfl⟩ | ⟨hj, hq⟩
    · refine ⟨by simp [Phase.absent], by simp [Phase.pendingRecord], ?_, ?_⟩
      · intro r' a' he
        simp only [Phase.ticket, Option.some.injEq, Prod.mk.injEq] at he
        rw [← he.1]
        exact List.mem_append_right _ (List.mem_singleton.mpr rfl)
      · intro _ k hc he
        obtain ⟨row, hr, hrow⟩ := h.calls_rows k hc
        exact habs row hr (hrow.trans he)
    · obtain ⟨ha, hpd, ht, hu⟩ := h.each j q hq
      refine ⟨fun hq' row hr => ?_, fun r' hr' => ?_, fun r' a' he => List.mem_append_left _ (ht r' a' he), hu⟩
      · rcases List.mem_append.mp hr with hr | hr
        · exact ha hq' row hr
        · rw [List.mem_singleton.mp hr]
          exact (h.key_ne hp hq hj hlock (Phase.absent_holdsLock hq')).symm
      · obtain ⟨hk', hlt', hid'⟩ := hpd r' hr'
        refine ⟨hk', hlt', fun row hr => ?_⟩
        rcases List.mem_append.mp hr with hr | hr
        · exact hid' row hr
        · rw [List.mem_singleton.mp hr]
          intro he
          have howned : q.phase.owned = some r.recordId := (Phase.owned_of_pending hr').trans (congrArg some he.symm)
          exact hj (h.owners j i q p _ hq hp howned (by rw [hphase]; rfl))

/-- The provider is called for a key that has a row and was not called for. -/
theorem invoke (h : ClaimInv hash rows next processes calls) {r : SettlementRecord} {a : Nat}
    (hp : processes[i]? = some p) (hphase : p.phase = .claimed r a) :
    ClaimInv hash rows next (processes.set i ⟨p.call, .settling r a⟩)
      (calls ++ [p.call.request.replayKey]) := by
  obtain ⟨-, -, htick, huncalled⟩ := h.each i p hp
  rw [hphase] at htick huncalled
  have hrow := htick r a rfl
  refine ⟨h.ids, h.bound, h.keys, ?_, ?_, ?_, h.locks_set hp (by simp [Phase.holdsLock]),
    h.owners_set hp fun n hn => Or.inl (by rw [hphase]; exact hn)⟩
  · exact Table.nodup_append_fresh h.calls_nodup (huncalled rfl)
  · intro k hk
    rcases List.mem_append.mp hk with hk | hk
    · exact h.calls_rows k hk
    · exact ⟨_, hrow, by rw [List.mem_singleton.mp hk]; rfl⟩
  · intro j q hq
    rcases Table.set_cases hq with ⟨-, rfl⟩ | ⟨hj, hq⟩
    · refine ⟨by simp [Phase.absent], by simp [Phase.pendingRecord], ?_, by simp [Phase.uncalled]⟩
      intro r' a' he
      simp only [Phase.ticket, Option.some.injEq, Prod.mk.injEq] at he
      rw [← he.1]
      exact hrow
    · obtain ⟨ha, hpd, ht, hu⟩ := h.each j q hq
      refine ⟨ha, hpd, ht, fun hq' k hk => ?_⟩
      rcases List.mem_append.mp hk with hk | hk
      · exact hu hq' k hk
      · rw [List.mem_singleton.mp hk]
        intro he
        -- two calls with one key have one row, and a row belongs to one call
        obtain ⟨r', a', hq''⟩ : ∃ r' a', q.phase = .claimed r' a' := by
          cases hqp : q.phase <;> simp_all [Phase.uncalled]
        have hrow' := ht r' a' (by rw [hq'']; rfl)
        have hsame := h.row_eq hrow hrow' he
        simp only [Prod.mk.injEq] at hsame
        exact hj (h.owners j i q p r.recordId hq hp (by rw [hq'', hsame.1]; rfl) (by rw [hphase]; rfl))

end ClaimInv

/-! ## Rows under the statements -/

namespace Db

variable {db : Db} {recordId : Nat} {f : SettlementRecord → SettlementRecord}

theorem write_rows (hid : ∀ r, (f r).recordId = r.recordId) (hk : ∀ r, (f r).replayKey = r.replayKey) :
    (db.write recordId f).rows = db.rows :=
  Table.map_update fun r => by rw [hid, hk]

@[simp] theorem finishStartedAttempts_records (status : SettlementStatus) (now : Instant) (t e : Option String) :
    (db.finishStartedAttempts recordId status now t e).records = db.records := by
  unfold finishStartedAttempts
  split <;> rfl

@[simp] theorem finishStartedAttempts_nextRecordId (status : SettlementStatus) (now : Instant)
    (t e : Option String) : (db.finishStartedAttempts recordId status now t e).nextRecordId = db.nextRecordId := by
  unfold finishStartedAttempts
  split <;> rfl

theorem finalize_rows (attemptId : Nat) (fin : Finalization) (now : Instant) :
    (db.finalize recordId attemptId fin now).rows = db.rows :=
  write_rows (fun _ => rfl) fun _ => rfl

theorem applyMark_rows (m : Mark) (now : Instant) : (db.applyMark recordId m now).rows = db.rows := by
  rw [rows, applyMark, finishStartedAttempts_records]
  exact write_rows (fun _ => rfl) fun _ => rfl

/-- The first select of a claim finds nothing exactly when the key has no row. -/
theorem selectReplay_none {k : ReplayKey} (h : db.selectReplay k = none) : ∀ row ∈ db.rows, row.2 ≠ k.coalesce := by
  have hnil := Table.least_eq_none.mp h
  intro row hrow
  obtain ⟨r, hr, rfl⟩ := List.mem_map.mp hrow
  have := List.filter_eq_nil_iff.mp hnil r hr
  simpa using this

theorem uniqueIds_of_rows (h : (db.rows.map Prod.fst).Nodup) : db.UniqueIds := by
  rw [rows, List.map_map] at h
  exact h

end Db

/-! ## Every reachable state -/

section Reachable

variable {hash : String → Int} {s s' : System}

theorem System.Claims.uniqueIds (h : s.Claims hash) : s.db.UniqueIds := Db.uniqueIds_of_rows h.ids

/-- One step of a call keeps the invariant. -/
theorem EngineStep.claims (h : s.Claims hash) {i : Nat} {p : Process} {input : EngineInput} {db' : Db}
    {phase' : Phase} (hp : s.processes[i]? = some p)
    (hs : EngineStep hash s.db s.processes p.call p.phase input db' phase') :
    ClaimInv hash db'.rows db'.nextRecordId (s.processes.set i ⟨p.call, phase'⟩)
      (logCall s.providerCalls p.call.request.replayKey phase') := by
  have hinv : ClaimInv hash s.db.rows s.db.nextRecordId s.processes s.providerCalls := h
  obtain ⟨call, phase⟩ := p
  simp only at hs ⊢
  cases hs with
  | leave _ hidle =>
    have hb := Phase.bare_of_idle hidle
    rw [logCall, Phase.invokes_of_bare hb]
    exact hinv.leave hp hb
  | lock hfree =>
    exact hinv.move hp le_rfl (by constructor <;> simp [Phase.absent, Phase.pendingRecord, Phase.ticket, Phase.uncalled])
      (fun _ => Or.inr hfree) (by simp [Phase.owned])
  | miss hnone =>
    refine hinv.move hp le_rfl ⟨fun _ => Db.selectReplay_none hnone, ?_, ?_, ?_⟩ (fun _ => Or.inl rfl) ?_ <;>
      simp [Phase.pendingRecord, Phase.ticket, Phase.uncalled, Phase.owned]
  | search hlock _ hsearch hn =>
    have hcall : logCall s.providerCalls call.request.replayKey phase' = s.providerCalls := by
      cases phase' <;> first | rfl | cases hsearch
    rw [hcall]
    refine hinv.move hp hn ?_ (fun _ => Or.inl hlock) ?_
    · constructor <;> cases phase' <;>
        simp_all [Phase.searching, Phase.absent, Phase.pendingRecord, Phase.ticket, Phase.uncalled]
    · cases phase' <;> simp_all [Phase.searching, Phase.owned]
  | insert _ _ =>
    refine hinv.move hp (Nat.le_succ _) ⟨fun _ => (hinv.each i _ hp).absent rfl, ?_, ?_, ?_⟩ (fun _ => Or.inl rfl) ?_
    · intro r hr
      cases hr
      exact ⟨⟨_, rfl⟩, Nat.lt_succ_self _, fun row hrow => Nat.ne_of_lt (hinv.bound row hrow)⟩
    · simp [Phase.ticket]
    · simp [Phase.uncalled]
    · intro n hn
      cases hn
      exact Or.inr le_rfl
  | start =>
    have hok := hinv.each i _ hp
    refine hinv.move hp le_rfl ⟨fun _ => hok.absent rfl, fun r hr => ?_, ?_, ?_⟩ (fun _ => Or.inl rfl)
      fun n hn => Or.inl hn
    · cases hr
      exact hok.pending _ rfl
    · simp [Phase.ticket]
    · simp [Phase.uncalled]
  | commit =>
    have hcommit := hinv.commit hp rfl
    simpa [Db.rows, Db.addClaim, logCall, Phase.invokes] using hcommit
  | @count now _ r _ =>
    rw [Db.write_rows (f := SettlementRecord.recordDuplicateClaim now) (fun _ => rfl) fun _ => rfl]
    exact hinv.leave hp rfl
  | invoke => exact hinv.invoke hp rfl
  | reply =>
    have hok := hinv.each i _ hp
    refine hinv.move hp le_rfl ⟨?_, ?_, fun r a hr => hok.ticket r a hr, ?_⟩ ?_ fun n hn => Or.inl hn <;>
      simp [Phase.absent, Phase.pendingRecord, Phase.uncalled, Phase.holdsLock]
  | finalize hok =>
    obtain ⟨-, -, -, -, -, rfl⟩ := (Db.finalize_ok h.uniqueIds).mp hok
    rw [Db.finalize_rows]
    exact hinv.leave hp rfl
  | refuse => exact hinv.leave hp rfl
  | abort => exact hinv.leave hp rfl

/-- One event keeps the invariant. -/
theorem Step.claims {e : Event} (h : s.Claims hash) (hs : Step hash s e s') : s'.Claims hash := by
  have hinv : ClaimInv hash s.db.rows s.db.nextRecordId s.processes s.providerCalls := h
  cases hs with
  | tick => exact hinv
  | arrive call limited => exact hinv.arrive (by cases limited <;> rfl)
  | engine hp hstep => exact hstep.claims h hp
  | rest => exact hinv
  | workerClaims | released | operatorClaims | operatorReleases =>
    refine (congrArg (ClaimInv hash · _ _ _) ?_).mpr hinv
    exact Db.write_rows (fun _ => rfl) fun _ => rfl
  | workerMarks | operatorReviews =>
    unfold System.Claims
    simp only [Db.applyMark, Db.finishStartedAttempts_nextRecordId, Db.withAudit_nextRecordId]
    refine (congrArg (ClaimInv hash · _ _ _) ?_).mpr hinv
    exact Db.applyMark_rows _ _

/-- The uncommitted row of a call is a fresh one, and its id is not in the table. -/
theorem System.Claims.pending (h : s.Claims hash) {i : Nat} {p : Process} {r : SettlementRecord}
    (hp : s.processes[i]? = some p) (hr : p.phase.pendingRecord = some r) :
    (∃ now, r = p.call.request.freshRecord r.recordId now) ∧ ∀ r' ∈ s.db.records, r'.recordId ≠ r.recordId := by
  obtain ⟨hfresh, -, hid⟩ := (ClaimInv.each h i p hp).pending r hr
  exact ⟨hfresh, fun r' hr' => hid (r'.recordId, r'.replayKey.coalesce) (List.mem_map_of_mem hr')⟩

theorem claims_start : System.Claims hash {} := by
  constructor <;> simp [Db.rows]

/-- Every reachable state has the invariant of the claim protocol. -/
theorem reachable_claims (h : (machine hash).Reachable s) : s.Claims hash := by
  refine h.invariant claims_start ?_
  intro s e t _ hs hn
  exact (next_step hs.uniqueIds hn).claims hs

/-- The inversion of an event, in a reachable state. -/
theorem reachable_step {e : Event} (h : (machine hash).Reachable s) (hn : (machine hash).next s e = some s') :
    Step hash s e s' :=
  next_step (reachable_claims h).uniqueIds hn

/-- In every reachable state the provider was called at most once for each replay key, and each replay key has at
most one row. -/
theorem provider_settle_at_most_once (h : (machine hash).Reachable s) :
    (∀ k, s.providerCalls.count k ≤ 1) ∧ ∀ k, (s.db.withReplayKey k).length ≤ 1 := by
  have hinv := reachable_claims h
  constructor
  · intro k
    exact List.nodup_iff_count_le_one.mp (List.Nodup.of_map _ hinv.calls_nodup) k
  · intro k
    have hkeys := hinv.keys
    rw [Db.rows, List.map_map] at hkeys
    exact Table.length_filter_le_one hkeys k.coalesce

end Reachable

/-! ## A race -/

/-- A settle request of one payment, under a payment profile. -/
def sampleCall (profile : String) : SettleCall where
  request :=
    { sellerAccountId := "seller", paymentProfileId := profile, fingerprint := "f1", provider := "exact",
      scheme := some "exact", network := some "eip155:5042", traceId := "trace" }

/-- A reconciler with the default thresholds. -/
def sampleReconciler : HostedSettlementReconciler where
  owner := "reconciler"
  owner_ne := by decide

/-- Both calls are past their first reads when the first one locks; the second one waits and finds its row. -/
def raceEvents : List Event :=
  [.arrive (sampleCall "a") false, .arrive (sampleCall "b") true,
    .engine 1 (.proceed 0), .engine 1 (.proceed 0), .engine 1 (.limiter true),
    .engine 0 (.proceed 0), .engine 1 (.proceed 0), .engine 0 (.proceed 0), .engine 0 (.proceed 0),
    .engine 0 (.proceed 0), .engine 0 (.proceed 0), .engine 0 (.proceed 0), .engine 0 (.proceed 0),
    .engine 1 (.proceed 0), .engine 1 (.proceed 0),
    .engine 0 (.provider (.returned { success := true, transaction := some "0xpaid" })),
    .engine 1 (.proceed 0), .engine 0 (.proceed 0)]

theorem provider_settle_at_most_once_race :
    ∃ s, (machine fun _ => 0).Reaches raceEvents s ∧ s.providerCalls = [(sampleCall "a").request.replayKey] ∧
      (∀ k, s.providerCalls.count k ≤ 1) ∧ ∀ k, (s.db.withReplayKey k).length ≤ 1 := by
  have hcalls : ((machine fun _ => 0).run {} raceEvents).map (·.providerCalls) =
      some [(sampleCall "a").request.replayKey] := by decide
  obtain ⟨s, hs, hc⟩ := Option.map_eq_some_iff.mp hcalls
  exact ⟨s, hs, hc, provider_settle_at_most_once ⟨raceEvents, hs⟩⟩

end HostedFacilitator.Postgres
