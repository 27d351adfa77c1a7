import HostedFacilitator.Engine.Providers
import HostedFacilitator.Local.Invariant
import HostedFacilitator.Storage.InMemory
import HostedFacilitator.Storage.Sqlite
import HostedFacilitator.Postgres.Outcome

/-!
# Evidence in the records

A provider's outcome names a transaction and a payer, and a later reconciliation of the record needs both. Two things
go wrong on the way into the record.

* The engine writes them down only for a settled or submitted outcome. A failed or unknown one loses what it names
  (`evidence_lost`); `evidence_persisted_iff` is the exact condition, on each store.
* The exact provider believes a success without a transaction, and the record becomes settled without one
  (`settled_without_proof`). When every success names a transaction, every settled record has one, in every run on
  every store (`settled_carries_proof`).
-/

namespace HostedFacilitator

/-! ## What a record keeps of an outcome -/

/-- The record says what the answer says about transaction and payer, where the answer says something. -/
structure SettlementRecord.Carries (row : SettlementRecord) (answer : SettleOutcome) : Prop where
  transaction : truthyStr answer.transaction = true → row.transaction = answer.transaction
  payer : truthyStr answer.payer = true → row.payer = answer.payer

/-- The outcome is settled or submitted, or there is nothing to lose. -/
def SettleOutcome.Kept (call : SettleCall) (o : SettleOutcome) : Prop :=
  providerStatus o = .settled ∨ providerStatus o = .submitted ∨
    (truthyStr o.transaction = false ∧ truthyStr o.payer = false ∧ truthyStr call.authorizationFrom = false)

theorem completeOutcome_payer_false {call : SettleCall} {o : SettleOutcome} :
    truthyStr (completeOutcome call o).payer = false ↔
      truthyStr o.payer = false ∧ truthyStr call.authorizationFrom = false := by
  simp only [completeOutcome]
  cases h : truthyStr o.payer with
  | true => simp [h]
  | false => simp

/-- A record without transaction and payer carries only an answer without them. -/
theorem carries_of_none {row : SettlementRecord} {answer : SettleOutcome} (ht : row.transaction = none)
    (hp : row.payer = none) :
    row.Carries answer ↔ truthyStr answer.transaction = false ∧ truthyStr answer.payer = false := by
  constructor
  · intro h
    constructor
    · by_contra hne
      have hnone := h.transaction (by simpa using hne)
      rw [ht] at hnone
      rw [← hnone] at hne
      exact hne rfl
    · by_contra hne
      have hnone := h.payer (by simpa using hne)
      rw [hp] at hnone
      rw [← hnone] at hne
      exact hne rfl
  · rintro ⟨ht', hp'⟩
    constructor
    · intro h
      rw [ht'] at h
      cases h
    · intro h
      rw [hp'] at h
      cases h

/-- What the finalisation of a fresh record keeps. -/
theorem carries_iff {call : SettleCall} {r row : SettlementRecord} {o : SettleOutcome} (hr : r.Fresh)
    (hs : ((ProviderResult.returned o).finalization call r).StoredIn row) :
    row.Carries (completeOutcome call o) ↔ o.Kept call := by
  have hlost : row.transaction = none → row.payer = none → providerStatus o ≠ .settled →
      providerStatus o ≠ .submitted → (row.Carries (completeOutcome call o) ↔ o.Kept call) := by
    intro ht hp hne hne'
    rw [carries_of_none ht hp, completeOutcome_payer_false, SettleOutcome.Kept]
    simp only [hne, hne', false_or]
    rfl
  have ht := hs.transaction
  have hp := hs.payer
  simp only [ProviderResult.finalization, finalization, providerStatus_completeOutcome] at ht hp
  cases hst : providerStatus o with
  | settled =>
    rw [hst] at ht hp
    exact ⟨fun _ => Or.inl hst, fun _ => ⟨fun _ => ht, fun _ => hp⟩⟩
  | submitted =>
    rw [hst] at ht hp
    exact ⟨fun _ => Or.inr (Or.inl hst), fun _ => ⟨fun _ => ht, fun _ => hp⟩⟩
  | failedFinal | unknown =>
    rw [hst] at ht hp
    exact hlost (ht.trans hr.transaction) (hp.trans hr.payer) (by simp [hst]) (by simp [hst])

/-- On a local store: once a call has returned, its record carries the evidence exactly when it is kept. -/
theorem Local.evidence_iff {σ : Type} {L : LawfulStore σ} {s : Local.System σ} (h : (Local.machine L).Reachable s)
    {i : Nat} {p : Local.Process} {answer : SettleOutcome} {r : SettlementRecord} {o : SettleOutcome}
    (hp : s.processes[i]? = some p) (hphase : p.phase = .finished (.ok answer) (some (r, .returned o))) :
    (∃ row, Table.row SettlementRecord.recordId r.recordId (L.records s.store) = some row ∧ row.Carries answer) ↔
      o.Kept p.call := by
  have hok := (Local.reachable_inv h).each i p hp
  obtain ⟨⟨now, hfresh⟩, row, hrow, hstored, -⟩ := hok.outcome r (.returned o) (by rw [hphase]; rfl)
  have hr : r.Fresh := hfresh ▸ p.call.request.freshRecord_fresh _ now
  obtain rfl := hok.answer answer r (.returned o) hphase
  rw [← carries_iff hr hstored]
  constructor
  · rintro ⟨row', hrow', hc⟩
    cases hrow.symm.trans hrow'
    exact hc
  · exact fun hc => ⟨row, hrow, hc⟩

/-- On Postgres: when a call returns, its record carries the evidence exactly when it is kept. -/
theorem Postgres.evidence_iff {hash : String → Int} {s s' : Postgres.System} (h : (Postgres.machine hash).Reachable s)
    {i : Nat} {input : Postgres.EngineInput} (hn : (Postgres.machine hash).next s (.engine i input) = some s')
    {p : Postgres.Process} {answer : SettleOutcome} {r : SettlementRecord} {o : SettleOutcome}
    (hp : s'.processes[i]? = some p) (hphase : p.phase = .finished (.ok answer) (some (r, .returned o))) :
    (∃ row, s'.db.record r.recordId = some row ∧ row.Carries answer) ↔ o.Kept p.call := by
  have hs' : (Postgres.machine hash).Reachable s' := h.step hn
  have htraced := Postgres.reachable_traced hs'
  obtain ⟨⟨now, hfresh⟩, -⟩ := htraced.kept i p r hp (by rw [hphase]; rfl)
  have hr : r.Fresh := hfresh ▸ p.call.request.freshRecord_fresh _ now
  obtain ⟨row, hrow, hstored⟩ := Postgres.reachable_stored hs' i p answer r (.returned o) hp hphase
    (Postgres.unmarked_of_returned h hn hp hphase)
  obtain rfl := htraced.answer i p answer r (.returned o) hp hphase
  rw [← carries_iff hr hstored]
  constructor
  · rintro ⟨row', hrow', hc⟩
    cases hrow.symm.trans hrow'
    exact hc
  · exact fun hc => ⟨row, hrow, hc⟩

/-- **What the records keep.** A call that claimed its record and returned its provider's outcome leaves transaction
and payer in the record exactly when the outcome is settled or submitted or there is nothing to lose. -/
theorem evidence_persisted_iff (i : Nat) (answer : SettleOutcome) (r : SettlementRecord) (o : SettleOutcome) :
    (∀ (s : Local.System InMemory.State) (p : Local.Process), (Local.machine InMemory.lawful).Reachable s →
        s.processes[i]? = some p → p.phase = .finished (.ok answer) (some (r, .returned o)) →
        ((∃ row, Table.row SettlementRecord.recordId r.recordId (InMemory.lawful.records s.store) = some row ∧
          row.Carries answer) ↔ o.Kept p.call)) ∧
      (∀ (s : Local.System Sqlite.Db) (p : Local.Process), (Local.machine Sqlite.lawful).Reachable s →
        s.processes[i]? = some p → p.phase = .finished (.ok answer) (some (r, .returned o)) →
        ((∃ row, Table.row SettlementRecord.recordId r.recordId (Sqlite.lawful.records s.store) = some row ∧
          row.Carries answer) ↔ o.Kept p.call)) ∧
      ∀ (hash : String → Int) (s s' : Postgres.System) (input : Postgres.EngineInput) (p : Postgres.Process),
        (Postgres.machine hash).Reachable s → (Postgres.machine hash).next s (.engine i input) = some s' →
        s'.processes[i]? = some p → p.phase = .finished (.ok answer) (some (r, .returned o)) →
        ((∃ row, s'.db.record r.recordId = some row ∧ row.Carries answer) ↔ o.Kept p.call) := by
  refine ⟨?_, ?_, ?_⟩
  · intro s p h hp hphase
    exact Local.evidence_iff h hp hphase
  · intro s p h hp hphase
    exact Local.evidence_iff h hp hphase
  · intro hash s s' input p h hn hp hphase
    exact Postgres.evidence_iff h hn hp hphase

/-! ## A lost transfer -/

/-- What the provider returned to a call that claimed its record and returned. -/
def Local.Phase.providerOutcome : Local.Phase → Option SettleOutcome
  | .finished (.ok _) (some (_, .returned o)) => some o
  | _ => none

theorem Local.Phase.providerOutcome_eq {phase : Local.Phase} {o : SettleOutcome} (h : phase.providerOutcome = some o) :
    ∃ answer r, phase = .finished (.ok answer) (some (r, .returned o)) := by
  unfold Local.Phase.providerOutcome at h
  split at h
  · cases h
    exact ⟨_, _, rfl⟩
  · cases h

/-- A run whose first call has returned what its provider returned. -/
theorem Local.exists_returned {σ : Type} {L : LawfulStore σ} {es : List Local.Event} {o : SettleOutcome}
    (h : ((Local.machine L).run (Local.machine L).start es).map (fun s => s.processes[0]?.bind (·.phase.providerOutcome)) =
      some (some o)) :
    ∃ s p answer r, (Local.machine L).Reaches es s ∧ s.processes[0]? = some p ∧
      p.phase = .finished (.ok answer) (some (r, .returned o)) := by
  obtain ⟨s, hs, hfirst⟩ := Option.map_eq_some_iff.mp h
  obtain ⟨p, hp, hout⟩ := Option.bind_eq_some_iff.mp hfirst
  obtain ⟨answer, r, hphase⟩ := Local.Phase.providerOutcome_eq hout
  exact ⟨s, p, answer, r, hs, hp, hphase⟩

/-- The sample payment, after its checks. -/
def networkCall (profile traceId : String) : SettleCall where
  request := sampleClaim networkText "29fade826d11cfb0db7b7cc5dab69bfd8f0bb4d63e9345f48762c89faeca5d82" profile traceId
    (some "eip155:5042002")
  authorizationFrom := some "0xa1"

/-- One call from its claim to its end, with what its provider does. -/
def Local.settleEvents (call : SettleCall) (result : ProviderResult) : List Local.Event :=
  [.arrive call false, .engine 0 (.proceed 0), .engine 0 (.proceed 0), .engine 0 (.proceed 0),
    .engine 0 (.provider result), .engine 0 (.proceed 0), .engine 0 (.proceed 0)]

/-- The gateway refuses with an ambiguous reason and names the transfer it had started. -/
def ambiguousResult : ProviderResult :=
  HostedCircleGatewayProvider.settle networkText (.str "eip155:5042002")
    (.settlementError (.str "unexpected_error") .null (.str "transfer-1") (.str "0xa1"))

/-- The transfer that the gateway named is not in the record. -/
theorem evidence_lost :
    ∃ (s : Local.System InMemory.State) (p : Local.Process) (answer : SettleOutcome) (r : SettlementRecord)
      (o : SettleOutcome), (Local.machine InMemory.lawful).Reachable s ∧ s.processes[0]? = some p ∧
      p.phase = .finished (.ok answer) (some (r, .returned o)) ∧ ambiguousResult = .returned o ∧
      answer.transaction = some "transfer-1" ∧
      ¬ ∃ row, Table.row SettlementRecord.recordId r.recordId (InMemory.lawful.records s.store) = some row ∧
        row.Carries answer := by
  have hresult : ambiguousResult = .returned
      { success := false, transaction := some "transfer-1", network := some "eip155:5042002", payer := some "0xa1",
        errorReason := some "circle_gateway_unexpected_error", settlementStatus := some .unknown } := by decide
  have hrun : ((Local.machine InMemory.lawful).run (Local.machine InMemory.lawful).start
      (Local.settleEvents (networkCall "default" "trace") ambiguousResult)).map
        (fun s => s.processes[0]?.bind (·.phase.providerOutcome)) = some (some
      { success := false, transaction := some "transfer-1", network := some "eip155:5042002", payer := some "0xa1",
        errorReason := some "circle_gateway_unexpected_error", settlementStatus := some .unknown }) := by
    rw [hresult]
    decide
  obtain ⟨s, p, answer, r, hs, hp, hphase⟩ := Local.exists_returned hrun
  have hreach : (Local.machine InMemory.lawful).Reachable s := ⟨_, hs⟩
  have hanswer := ((Local.reachable_inv hreach).each 0 p hp).answer answer r _ hphase
  refine ⟨s, p, answer, r, _, hreach, hp, hphase, hresult, by rw [hanswer]; rfl, ?_⟩
  rw [Local.evidence_iff hreach hp hphase]
  rintro (h | h | ⟨h, -⟩)
  · cases h
  · cases h
  · exact absurd h (by decide)

/-- A settled outcome is in the record. -/
theorem evidence_persisted_settled :
    ∃ (s : Local.System InMemory.State) (p : Local.Process) (answer : SettleOutcome) (r : SettlementRecord),
      (Local.machine InMemory.lawful).Reachable s ∧ s.processes[0]? = some p ∧
      p.phase = .finished (.ok answer) (some (r, .returned { success := true, transaction := some "0xpaid" })) ∧
      ∃ row, Table.row SettlementRecord.recordId r.recordId (InMemory.lawful.records s.store) = some row ∧
        row.Carries answer := by
  have hrun : ((Local.machine InMemory.lawful).run (Local.machine InMemory.lawful).start
      (Local.settleEvents (networkCall "default" "trace")
        (.returned { success := true, transaction := some "0xpaid" }))).map
        (fun s => s.processes[0]?.bind (·.phase.providerOutcome)) =
      some (some { success := true, transaction := some "0xpaid" }) := by decide
  obtain ⟨s, p, answer, r, hs, hp, hphase⟩ := Local.exists_returned hrun
  have hreach : (Local.machine InMemory.lawful).Reachable s := ⟨_, hs⟩
  exact ⟨s, p, answer, r, hreach, hp, hphase,
    ((evidence_persisted_iff 0 answer r _).1 s p hreach hp hphase).mpr (Or.inl rfl)⟩

/-! ## Settled records and proof -/

/-- A result of one of the two providers, where the exact one was not told of a success without a transaction. -/
inductive ProviderResult.Given (text : Text) : ProviderResult → Prop
  | exact (network : PyVal) {reply : HostedExactProvider.Reply} (h : reply.Proven) :
      Given text (HostedExactProvider.settle text network reply)
  | circle (network : PyVal) (reply : HostedCircleGatewayProvider.Reply) :
      Given text (HostedCircleGatewayProvider.settle text network reply)

theorem ProviderResult.Given.proven {text : Text} {result : ProviderResult} (h : result.Given text) :
    result.Proven := by
  cases h with
  | exact network h => exact HostedExactProvider.settle_proven h
  | circle network reply => exact HostedCircleGatewayProvider.settle_proven text network reply

/-- A settled record has a transaction. -/
def SettlementRecord.Proven (r : SettlementRecord) : Prop := r.status = .settled → truthyStr r.transaction = true

theorem SettlementRecord.Proven.of_ne {r : SettlementRecord} (h : r.status ≠ .settled) : r.Proven := fun hs => absurd hs h

/-- The writes of a proven result. -/
theorem ProviderResult.Proven.finalization {result : ProviderResult} (h : result.Proven) (call : SettleCall)
    (r : SettlementRecord) (hs : (result.finalization call r).recordStatus = .settled) :
    truthyStr (result.finalization call r).transaction = true := by
  cases result with
  | raised => cases hs
  | returned o =>
    cases hst : providerStatus o with
    | settled =>
      rw [finalization_settled hst]
      exact h o rfl hst
    | submitted | failedFinal | unknown =>
      simp only [ProviderResult.finalization, HostedFacilitator.finalization, providerStatus_completeOutcome, hst] at hs
      cases hs

/-! ### Local stores -/

namespace Local

/-- What the provider says in this event is as `Given` asks. -/
def Event.Given (text : Text) : Event → Prop
  | .engine _ (.provider result) => result.Given text
  | _ => True

/-- Every settled record has a transaction, and so has every settled result on its way into one. -/
structure Proven {σ : Type} (L : LawfulStore σ) (s : System σ) : Prop where
  rows : ∀ row ∈ L.records s.store, row.Proven
  marking : ∀ (i : Nat) (p : Process) (r : SettlementRecord) (a : Nat) (result : ProviderResult),
    s.processes[i]? = some p → p.phase = .marking r a result → result.Proven

section Proven

variable {σ : Type} {L : LawfulStore σ} {text : Text}

/-- A result on its way into a record was just given. -/
theorem EngineStep.marking_input {s s' : σ} {call : SettleCall} {phase phase' : Phase} {input : Input}
    (hs : EngineStep L s call phase input s' phase') {r : SettlementRecord} {a : Nat} {result : ProviderResult}
    (h : phase' = .marking r a result) : input = .provider result := by
  cases hs with
  | leave _ ht => rw [h] at ht; cases ht
  | count | claim | mark | finish => cases h
  | keep _ ht' _ _ hresult =>
    subst h
    cases ht'
    exact hresult a result rfl

/-- The rows after a step of a call. -/
theorem RowsChange.proven {s : σ} {call : SettleCall} {phase : Phase} {rows : List SettlementRecord}
    (h : RowsChange L s call phase rows) (hrows : ∀ row ∈ L.records s, row.Proven)
    (hresult : ∀ r a result, phase = .marking r a result → result.Proven) : ∀ row ∈ rows, row.Proven := by
  intro row hrow
  cases h with
  | same => exact hrows row hrow
  | counted n now =>
    obtain ⟨x, hx, rfl⟩ := Table.mem_update.mp hrow
    split
    · exact hrows x hx
    · exact hrows x hx
  | added n now =>
    rcases List.mem_append.mp hrow with hrow | hrow
    · exact hrows row hrow
    · rw [List.mem_singleton.mp hrow]
      exact .of_ne (by simp)
  | @finalized r a result now hmark =>
    obtain ⟨x, hx, rfl⟩ := Table.mem_update.mp hrow
    split
    · exact (hresult r a result hmark).finalization call r
    · exact hrows x hx

theorem Proven.next {s t : System σ} {e : Event} (hinv : Inv L s) (h : Proven L s) (he : e.Given text)
    (hn : (machine L).next s e = some t) : Proven L t := by
  cases e with
  | arrive call limited =>
    cases hn
    refine ⟨h.rows, ?_⟩
    intro i p r a result hp hphase
    rcases Table.append_cases hp with hp | ⟨-, rfl⟩
    · exact h.marking i p r a result hp hphase
    · cases limited <;> cases hphase
  | engine i input =>
    obtain ⟨p, store', phase', hp, hstep, rfl⟩ := System.next_engine hn
    have hs := engineNext_step hinv.store hstep
    refine ⟨(hinv.rowsChange hp hs).proven h.rows fun r a result => h.marking i p r a result hp, ?_⟩
    intro j q r a result hq hphase
    rcases Table.set_cases hq with ⟨-, rfl⟩ | ⟨-, hq⟩
    · obtain rfl := hs.marking_input hphase
      exact ProviderResult.Given.proven he
    · exact h.marking j q r a result hq hphase

theorem reaches_proven {es : List Event} {s : System σ} (h : (machine L).Reaches es s)
    (hgiven : ∀ e ∈ es, e.Given text) : ∀ row ∈ L.records s.store, row.Proven := by
  have hok : (machine L).Along (fun _ e => e.Given text) (machine L).start es :=
    Transition.Machine.along_of_forall fun e he _ => hgiven e he
  have hinv : Proven L s := by
    refine h.invariant_of ⟨?_, by simp [machine]⟩ ?_ hok
    · have hnil : L.records (machine L).start.store = [] := L.init.records_eq
      rw [hnil]
      simp
    · intro s e t hs hp he hn
      exact hp.next (reachable_inv hs) he hn
  exact hinv.rows

end Proven

end Local

/-! ### Postgres -/

namespace Postgres

/-- What the provider says in this event is as `Given` asks. -/
def Event.Given (text : Text) : Event → Prop
  | .engine _ (.provider result) => result.Given text
  | _ => True

/-- Every settled record has a transaction, and so has every settled result on its way into one. -/
structure Proven (s : System) : Prop where
  rows : ∀ row ∈ s.db.records, row.Proven
  finalizing : ∀ (i : Nat) (p : Process) (r : SettlementRecord) (a : Nat) (result : ProviderResult),
    s.processes[i]? = some p → p.phase = .finalizing r a result → result.Proven

namespace Db

variable {db : Db} {id : Nat}

/-- A write keeps the records proven when it keeps each of them proven. -/
theorem write_proven {f : SettlementRecord → SettlementRecord} (h : ∀ row ∈ db.records, row.Proven)
    (hf : ∀ row : SettlementRecord, row.Proven → (f row).Proven) : ∀ row ∈ (db.write id f).records, row.Proven := by
  intro row hrow
  obtain ⟨x, hx, rfl⟩ := Table.mem_update.mp hrow
  split
  · exact hf x (h x hx)
  · exact h x hx

/-- A mark to settled carries a transaction. -/
theorem applyMark_proven {snapshot : SettlementRecord} {m : Mark} {now : Instant} (h : ∀ row ∈ db.records, row.Proven)
    (hm : HostedSettlementReconciler.Mark.Ok snapshot m) : ∀ row ∈ (db.applyMark id m now).records, row.Proven := by
  rw [applyMark, finishStartedAttempts_records]
  refine write_proven h fun row _ => ?_
  cases hm with
  | settled ht => exact fun _ => ht
  | failed | unknown | manualReview =>
    exact .of_ne (by simp [markReconciledFailed, markReconciledUnknown, markManualReview])

end Db

section Proven

variable {hash : String → Int} {text : Text} {s s' : System}

/-- The rows after a step of a call. -/
theorem EngineStep.proven (hc : s.Claims hash) (h : Proven s) {i : Nat} {p : Process} {input : EngineInput} {db' : Db}
    {phase' : Phase} (hp : s.processes[i]? = some p)
    (hs : EngineStep hash s.db s.processes p.call p.phase input db' phase') : ∀ row ∈ db'.records, row.Proven := by
  obtain ⟨call, phase⟩ := p
  simp only at hs
  cases hs with
  | leave | lock | miss | search | insert | start | invoke | reply | refuse | abort => exact h.rows
  | @commit _ r a =>
    intro row hrow
    rcases List.mem_append.mp hrow with hrow | hrow
    · exact h.rows row hrow
    · obtain ⟨⟨now, hfresh⟩, -⟩ := hc.pending hp (r := r) rfl
      rw [List.mem_singleton.mp hrow, hfresh]
      exact .of_ne (by simp)
  | count => exact Db.write_proven h.rows fun row hrow => hrow
  | @finalize now r a result db' hok =>
    obtain ⟨-, -, -, -, -, rfl⟩ := (Db.finalize_ok hc.uniqueIds).mp hok
    exact Db.write_proven h.rows fun row _ => (h.finalizing i _ r a result hp rfl).finalization call r

/-- A result on its way into a record was just given. -/
theorem EngineStep.finalizing_input {db db' : Db} {processes : List Process} {call : SettleCall} {phase phase' : Phase}
    {input : EngineInput} (hs : EngineStep hash db processes call phase input db' phase') {r : SettlementRecord} {a : Nat}
    {result : ProviderResult} (h : phase' = .finalizing r a result) : input = .provider result := by
  cases hs with
  | leave _ hi => rw [h] at hi; cases hi
  | search _ _ hsearch => rw [h] at hsearch; cases hsearch
  | reply => cases h; rfl
  | lock | miss | insert | start | commit | count | invoke | finalize | refuse | abort => cases h

theorem Step.proven {e : Event} (hc : s.Claims hash) (h : Proven s) (he : e.Given text) (hs : Step hash s e s') :
    Proven s' := by
  cases hs with
  | tick | rest => exact ⟨h.rows, h.finalizing⟩
  | arrive call limited =>
    refine ⟨h.rows, ?_⟩
    intro i p r a result hp hphase
    rcases Table.append_cases hp with hp | ⟨-, rfl⟩
    · exact h.finalizing i p r a result hp hphase
    · cases limited <;> cases hphase
  | @engine i input p db' phase' hp hstep =>
    refine ⟨hstep.proven hc h hp, ?_⟩
    intro j q r a result hq hphase
    rcases Table.set_cases hq with ⟨-, rfl⟩ | ⟨-, hq⟩
    · obtain rfl := hstep.finalizing_input hphase
      exact ProviderResult.Given.proven he
    · exact h.finalizing j q r a result hq hphase
  | workerClaims | released => exact ⟨Db.write_proven h.rows fun row hrow => hrow, h.finalizing⟩
  | operatorClaims | operatorReleases => exact ⟨Db.write_proven h.rows fun row hrow => hrow, h.finalizing⟩
  | workerMarks _ _ hdec =>
    exact ⟨Db.applyMark_proven h.rows (HostedSettlementReconciler.handleClaimed_ok hdec), h.finalizing⟩
  | @operatorReviews _ _ _ row =>
    exact ⟨Db.applyMark_proven h.rows (.manualReview (r := row) _), h.finalizing⟩

theorem reaches_proven {es : List Event} (h : (machine hash).Reaches es s) (hgiven : ∀ e ∈ es, e.Given text) :
    ∀ row ∈ s.db.records, row.Proven := by
  have hok : (machine hash).Along (fun _ e => e.Given text) (machine hash).start es :=
    Transition.Machine.along_of_forall fun e he _ => hgiven e he
  have hinv : Proven s := by
    refine h.invariant_of ⟨by simp [machine], by simp [machine]⟩ ?_ hok
    intro s e t hs hp he hn
    exact (reachable_step hs hn).proven (reachable_claims hs) hp he
  exact hinv.rows

end Proven

end Postgres

/-- **Settled records carry proof.** In every run in which no success without a transaction reaches the exact provider,
every settled record on every store has a transaction. -/
theorem settled_carries_proof (text : Text) (hash : String → Int) :
    (∀ (es : List Local.Event) (s : Local.System InMemory.State), (Local.machine InMemory.lawful).Reaches es s →
        (∀ e ∈ es, e.Given text) → ∀ row ∈ InMemory.lawful.records s.store, row.Proven) ∧
      (∀ (es : List Local.Event) (s : Local.System Sqlite.Db), (Local.machine Sqlite.lawful).Reaches es s →
        (∀ e ∈ es, e.Given text) → ∀ row ∈ Sqlite.lawful.records s.store, row.Proven) ∧
      ∀ (es : List Postgres.Event) (s : Postgres.System), (Postgres.machine hash).Reaches es s →
        (∀ e ∈ es, e.Given text) → ∀ row ∈ s.db.records, row.Proven :=
  ⟨fun _ _ h hgiven => Local.reaches_proven h hgiven, fun _ _ h hgiven => Local.reaches_proven h hgiven,
    fun _ _ h hgiven => Postgres.reaches_proven h hgiven⟩

/-- A payment of the exact provider. -/
def exactCall : SettleCall where
  request :=
    { sellerAccountId := "seller", paymentProfileId := "default", fingerprint := "f1", provider := "exact_evm",
      scheme := some "exact", network := some "eip155:5042002", traceId := "trace" }
  authorizationFrom := some "0xa1"

/-- The facilitator claims success and names no transaction. -/
def unprovenResult : ProviderResult :=
  HostedExactProvider.settle networkText (.str "eip155:5042002")
    (.returned (.dict [("success", .bool true), ("transaction", .str "")]))

/-- What the first record says. -/
def firstProof (rows : List SettlementRecord) : Option (SettlementStatus × Option String) :=
  rows.head?.map fun r => (r.status, r.transaction)

theorem mem_of_firstProof {rows : List SettlementRecord} {st : SettlementStatus} {t : Option String}
    (h : firstProof rows = some (st, t)) : ∃ row ∈ rows, row.status = st ∧ row.transaction = t := by
  obtain ⟨row, hrow, he⟩ := Option.map_eq_some_iff.mp h
  rw [Prod.mk.injEq] at he
  exact ⟨row, List.mem_of_mem_head? hrow, he⟩

/-- The record is settled and has no transaction. -/
theorem settled_without_proof :
    ∃ (s : Local.System InMemory.State),
      (Local.machine InMemory.lawful).Reaches (Local.settleEvents exactCall unprovenResult) s ∧
      ∃ row ∈ InMemory.lawful.records s.store, row.status = .settled ∧ truthyStr row.transaction = false := by
  have hrun : ((Local.machine InMemory.lawful).run (Local.machine InMemory.lawful).start
      (Local.settleEvents exactCall unprovenResult)).map (fun s => firstProof (InMemory.lawful.records s.store)) =
      some (some (.settled, some "")) := by decide
  obtain ⟨s, hs, hfirst⟩ := Option.map_eq_some_iff.mp hrun
  obtain ⟨row, hrow, hst, ht⟩ := mem_of_firstProof hfirst
  exact ⟨s, hs, row, hrow, hst, by rw [ht]; decide⟩

/-- The facilitator claims success and names its transaction. -/
def provenResult : ProviderResult :=
  HostedExactProvider.settle networkText (.str "eip155:5042002")
    (.returned (.dict [("success", .bool true), ("transaction", .str "0xpaid")]))

theorem settled_carries_proof_run :
    ∃ (s : Local.System InMemory.State),
      (Local.machine InMemory.lawful).Reaches (Local.settleEvents exactCall provenResult) s ∧
      ∃ row ∈ InMemory.lawful.records s.store, row.status = .settled ∧ truthyStr row.transaction = true := by
  have hrun : ((Local.machine InMemory.lawful).run (Local.machine InMemory.lawful).start
      (Local.settleEvents exactCall provenResult)).map (fun s => firstProof (InMemory.lawful.records s.store)) =
      some (some (.settled, some "0xpaid")) := by decide
  obtain ⟨s, hs, hfirst⟩ := Option.map_eq_some_iff.mp hrun
  obtain ⟨row, hrow, hst, -⟩ := mem_of_firstProof hfirst
  have hreply : HostedExactProvider.Reply.Proven
      (.returned (.dict [("success", .bool true), ("transaction", .str "0xpaid")])) := by
    intro d hd _
    cases hd
    have ht : PyDict.get [("success", .bool true), ("transaction", .str "0xpaid")] "transaction" = .str "0xpaid" := rfl
    rw [ht]
    simp
  have hgiven : ∀ e ∈ Local.settleEvents exactCall provenResult, e.Given networkText := by
    intro e he
    simp only [Local.settleEvents, List.mem_cons, List.not_mem_nil, or_false] at he
    rcases he with rfl | rfl | rfl | rfl | rfl | rfl | rfl
    case inr.inr.inr.inr.inl => exact .exact _ hreply
    all_goals trivial
  exact ⟨s, hs, row, hrow, hst, (settled_carries_proof networkText fun _ => 0).1 _ s hs hgiven row hrow hst⟩

end HostedFacilitator
