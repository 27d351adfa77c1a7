import HostedFacilitator.Evidence
import HostedFacilitator.FastPath

/-!
# Idempotent replay

Once a call has returned the outcome of its payment, every later call for the payment is answered from its record, as
long as no reconciler or operator has marked it: a call that runs alone (`SequentialStore.settle_replays`), and a call
among any others, at every point it reaches (`Local.replaying`, `Postgres.replaying`). This needs that the record is
found, so the requests of the run have to be coherent (`replay_idempotent`). When the same payment comes with another
required network, it is settled again (`settled_twice`).
-/

namespace HostedFacilitator

/-- Every duplicate that is answered from the record repeats `answer`. -/
def SettlementRecord.Replays (answer : SettleOutcome) (r : SettlementRecord) : Prop :=
  ∀ call o, duplicateAnswer call r = some o → answer.ReplayOf o

/-- The only record of the payment, found under the replay key of the request, repeats `answer`. -/
structure Answered (answer : SettleOutcome) (records : List SettlementRecord) (c : ClaimRequest)
    (row : SettlementRecord) : Prop where
  mem : row ∈ records
  replayKey : row.replayKey = c.replayKey
  only : ∀ r ∈ records, r.paymentKey = c.paymentKey → r = row
  replays : row.Replays answer

theorem Answered.paymentKey {answer : SettleOutcome} {records : List SettlementRecord} {c : ClaimRequest}
    {row : SettlementRecord} (h : Answered answer records c row) : row.paymentKey = c.paymentKey := by
  rw [← row.replayKey_paymentKey, h.replayKey, c.replayKey_paymentKey]

/-! ## A call that runs alone -/

/-- A finished call that repeats `answer` and asked neither the limiter nor the provider. -/
structure Settlement.Replays {σ : Type} (answer : SettleOutcome) (done : Settlement σ) : Prop where
  answered : ∃ o, done.answer = .ok o ∧ answer.ReplayOf o
  limiterChecked : done.limiterChecked = false
  providerCalled : done.providerCalled = false

section Alone

variable {σ : Type} {S : SequentialStore σ} {s : σ} {answer : SettleOutcome} {row : SettlementRecord}

theorem SequentialStore.settleCall_replays (hinv : S.Inv s) {call : SettleCall}
    (h : Answered answer (S.records s) call.request row) (limiter : Option Bool) (result : ProviderResult)
    (times : Readings) : (S.store.settleCall limiter s call result times).Replays answer := by
  cases limiter with
  | none =>
    obtain ⟨o, s', ho, hdone, -⟩ := S.settle_duplicate result times hinv h.mem
      (fun r hr hk => h.only r hr (hk.trans h.paymentKey)) h.replayKey
    simp only [SettlementStore.settleCall, hdone]
    exact ⟨⟨o, rfl, h.replays call o ho⟩, rfl, rfl⟩
  | some allowed =>
    obtain ⟨r, hr⟩ := S.existing_complete hinv h.mem h.replayKey
    obtain ⟨hmem, hpay⟩ := S.existing_sound hinv hr
    obtain rfl := h.only r hmem hpay
    obtain ⟨o, ho⟩ := duplicateAnswer_isSome call r
    have hcached := SettlementStore.cachedExistingSettlement_of_some hr
    rw [ho] at hcached
    simp only [SettlementStore.settleCall, hcached]
    exact ⟨⟨o, rfl, h.replays call o ho⟩, rfl, rfl⟩

/-- A request that passes its checks repeats the answer of its payment. -/
theorem SequentialStore.settle_replays (hinv : S.Inv s) {text : Text} {router : ProviderRouter}
    {envelope : TextEnvelope} {context : RequestContext} {call : SettleCall}
    (hcall : prepare text router envelope context = .ok call) (h : Answered answer (S.records s) call.request row)
    (limiter : Option Bool) (result : ProviderResult) (times : Readings) :
    (S.store.settle text router limiter s envelope context result times).Replays answer := by
  simp only [SettlementStore.settle, hcall]
  exact S.settleCall_replays hinv h limiter result times

end Alone

/-! ## Calls on a local store -/

namespace Local

/-- Where a call for the payment can stand: it looks for the record, has repeated `answer`, or has ended without an
answer. It is neither at the limiter nor past the claim. -/
def Phase.Replaying (answer : SettleOutcome) : Phase → Prop
  | .cachedGet | .cachedLookup | .claimEnter | .crashed | .finished (.error _) none => True
  | .finished (.ok o) none => answer.ReplayOf o
  | _ => False

variable {σ : Type} {L : LawfulStore σ} {answer : SettleOutcome}

theorem answerExisting_replaying {call : SettleCall} {existing : Option SettlementRecord} {otherwise : Phase}
    (hsome : ∀ r, existing = some r → r.Replays answer) (hnone : existing = none → otherwise.Replaying answer) :
    (answerExisting call existing otherwise).Replaying answer := by
  cases existing with
  | none => exact hnone rfl
  | some r =>
    obtain ⟨o, ho⟩ := duplicateAnswer_isSome call r
    simp only [answerExisting, Option.bind_some, existingAnswer_eq, ho]
    exact hsome r rfl call o ho

/-- A call that has ended does nothing more. -/
theorem engineNext_ended {s : σ} {call : SettleCall} {phase : Phase} (h : phase.ended = true) (input : Input) :
    engineNext L s call phase input = none := by
  cases phase with
  | finished | crashed => cases input <;> rfl
  | _ => cases h

/-- A call for the payment stays there. -/
theorem engineNext_replaying {s s' : σ} {call : SettleCall} {row : SettlementRecord} {phase phase' : Phase}
    {input : Input} (hinv : L.Inv s) (h : Answered answer (L.records s) call.request row)
    (hphase : phase.Replaying answer) (hn : engineNext L s call phase input = some (s', phase')) :
    phase'.Replaying answer := by
  have hopen : phase.ended = false := by
    cases he : phase.ended with
    | false => rfl
    | true => exact absurd (hn.symm.trans (engineNext_ended he input)) (by simp)
  have hrow : ∀ r, L.store.existing s call.request = some r → r.Replays answer := by
    intro r hr
    obtain ⟨hmem, hpay⟩ := L.existing_sound hinv hr
    rw [h.only r hmem hpay]
    exact h.replays
  cases phase with
  | finished | crashed => cases hopen
  | cachedGet =>
    cases input <;> simp only [engineNext, Phase.ended, Bool.false_eq_true, if_false, reduceCtorEq, Option.some.injEq,
      Prod.mk.injEq] at hn <;> obtain ⟨rfl, rfl⟩ := hn
    case proceed =>
      refine answerExisting_replaying (fun r hr => hrow r ?_) fun _ => trivial
      rw [SettlementStore.existing, hr]
    all_goals trivial
  | cachedLookup =>
    cases input <;> simp only [engineNext, Phase.ended, Bool.false_eq_true, if_false, reduceCtorEq, Option.some.injEq,
      Prod.mk.injEq] at hn <;> obtain ⟨rfl, rfl⟩ := hn
    case proceed =>
      refine answerExisting_replaying (fun r hr => ?_) fun hnone => ?_
      · obtain ⟨hmem, hk⟩ := L.lookup_sound hinv hr
        rw [h.only r hmem (ReplayKey.paymentKey_of_coalesce hk)]
        exact h.replays
      · obtain ⟨r, hr⟩ := L.lookup_complete hinv h.mem
        rw [h.replayKey, hnone] at hr
        cases hr
    all_goals trivial
  | claimEnter =>
    cases input <;> simp only [engineNext, Phase.ended, Bool.false_eq_true, if_false, reduceCtorEq, Option.some.injEq,
      Prod.mk.injEq] at hn
    case proceed now =>
      obtain ⟨r, hr⟩ := L.existing_complete hinv h.mem h.replayKey
      obtain ⟨s₁, hclaim, -⟩ := L.claim_duplicate now hinv hr
      obtain ⟨o, ho⟩ := duplicateAnswer_isSome call r
      obtain ⟨o', hc, rfl⟩ := cachedSettlement_of_duplicate ho
      have hc' : cachedSettlement (r.recordDuplicateClaim now) (claimForStatus r.status) = some o' := hc
      simp only [hclaim, hc', Option.some.injEq, Prod.mk.injEq] at hn
      obtain ⟨rfl, rfl⟩ := hn
      exact hrow r hr call _ ho
    all_goals
      obtain ⟨rfl, rfl⟩ := hn
      trivial
  | _ => exact hphase.elim

/-- The record of a call that has returned answers every coherent request for its payment. -/
theorem answered {s : System σ} (h : (machine L).Reachable s) {i : Nat} {p : Process} {r : SettlementRecord}
    {result : ProviderResult} (hp : s.processes[i]? = some p)
    (hphase : p.phase = .finished (.ok answer) (some (r, result))) {c : ClaimRequest}
    (hc : Coherent c.paymentKey (c :: s.claims)) (hk : c.paymentKey = p.call.request.paymentKey) :
    ∃ row, Answered answer (L.records s.store) c row := by
  have hok := (reachable_inv h).each i p hp
  have hout : p.phase.outcome = some (r, result) := by
    rw [hphase]
    rfl
  obtain ⟨-, row, hrow, hstored, hof⟩ := hok.outcome r result hout
  have hmem : p.call.request ∈ s.claims := List.mem_map.mpr ⟨p, List.mem_of_getElem? hp, rfl⟩
  have hreplay := hc c List.mem_cons_self rfl _ (List.mem_cons_of_mem _ hmem) hk.symm
  refine ⟨row, Table.row_mem hrow, hof.replayKey.trans hreplay.symm, ?_, ?_⟩
  · intro r' hr' hk'
    exact reachable_unique h hc.tail hr' hk' (Table.row_mem hrow) (hof.paymentKey.trans hk.symm)
  · intro call o ho
    rw [hok.answer answer r result hphase]
    exact replay_of_finalized hstored ho

/-- Every call that arrives later stands where a replay can stand. -/
theorem replaying {s t : System σ} {es : List Event} (hs : (machine L).Reachable s) {i : Nat} {p : Process}
    {r : SettlementRecord} {result : ProviderResult} (hp : s.processes[i]? = some p)
    (hphase : p.phase = .finished (.ok answer) (some (r, result))) (h : (machine L).Leads s es t) :
    t.processes[i]? = some p ∧ (Coherent p.call.request.paymentKey t.claims → ∀ k q, s.processes.length ≤ k →
      t.processes[k]? = some q → q.call.request.paymentKey = p.call.request.paymentKey →
      q.phase.Replaying answer) := by
  refine h.invariant (I := fun t => t.processes[i]? = some p ∧ (Coherent p.call.request.paymentKey t.claims →
    ∀ k q, s.processes.length ≤ k → t.processes[k]? = some q →
      q.call.request.paymentKey = p.call.request.paymentKey → q.phase.Replaying answer)) ⟨hp, ?_⟩ ?_ hs
  · intro _ k q hk hq _
    rw [List.getElem?_eq_none hk] at hq
    cases hq
  intro t e t' ht hi hn
  obtain ⟨hfirst, hlater⟩ := hi
  cases e with
  | arrive call limited =>
    cases hn
    refine ⟨?_, fun hc k q hk hq hpay => ?_⟩
    · rw [List.getElem?_append_left (List.getElem?_eq_some_iff.mp hfirst).1]
      exact hfirst
    · rcases Table.append_cases hq with hq | ⟨-, rfl⟩
      · refine hlater (hc.sublist fun c hc => ?_) k q hk hq hpay
        rw [System.claims, List.map_append]
        exact List.mem_append_left _ hc
      · cases limited <;> trivial
  | engine j input =>
    obtain ⟨q, store', phase', hq, hstep, rfl⟩ := System.next_engine hn
    have hne : i ≠ j := by
      rintro rfl
      cases hfirst.symm.trans hq
      have hended : p.phase.ended = true := by
        rw [hphase]
        rfl
      exact absurd (hstep.symm.trans (engineNext_ended hended input)) (by simp)
    refine ⟨(List.getElem?_set_ne hne.symm).trans hfirst, fun hc k q' hk hq' hpay => ?_⟩
    rw [claims_set hq] at hc
    rcases Table.set_cases hq' with ⟨rfl, rfl⟩ | ⟨-, hq'⟩
    · have hmem : q.call.request ∈ t.claims := List.mem_map.mpr ⟨q, List.mem_of_getElem? hq, rfl⟩
      obtain ⟨row, hrow⟩ := answered ht hfirst hphase (hpay ▸ hc.cons hmem) hpay
      exact engineNext_replaying (reachable_inv ht).store hrow (hlater hc k q hk hq hpay) hstep
    · exact hlater hc k q' hk hq' hpay

end Local

/-! ## Calls on Postgres -/

namespace Postgres

/-- Where a call for the payment can stand. Under its advisory lock it finds the record at once, so it never inserts. -/
def Phase.Replaying (answer : SettleOutcome) : Phase → Prop
  | .cachedGet | .cachedLookup | .claimEnter | .claimBegin .. | .claimLocked .. | .crashed
  | .finished (.error _) none => True
  | .claimDuplicate _ r => r.Replays answer
  | .finished (.ok o) none => answer.ReplayOf o
  | _ => False

variable {hash : String → Int} {answer : SettleOutcome}

theorem answerExisting_replaying {call : SettleCall} {existing : Option SettlementRecord} {otherwise : Phase}
    (hsome : ∀ r, existing = some r → r.Replays answer) (hnone : existing = none → otherwise.Replaying answer) :
    (answerExisting call existing otherwise).Replaying answer := by
  cases existing with
  | none => exact hnone rfl
  | some r =>
    obtain ⟨o, ho⟩ := duplicateAnswer_isSome call r
    simp only [answerExisting, Option.bind_some, existingAnswer_eq, ho]
    exact hsome r rfl call o ho

/-- A call that has ended does nothing more. -/
theorem engineNext_ended {db : Db} {processes : List Process} {call : SettleCall} {phase : Phase}
    (h : phase.ended = true) (input : EngineInput) : engineNext hash db processes call phase input = none := by
  cases phase with
  | finished | crashed => cases input <;> rfl
  | _ => cases h

/-- A call for the payment stays there. -/
theorem engineNext_replaying {db db' : Db} {processes : List Process} {call : SettleCall} {row : SettlementRecord}
    {phase phase' : Phase} {input : EngineInput} (h : Answered answer db.records call.request row)
    (hphase : phase.Replaying answer) (hn : engineNext hash db processes call phase input = some (db', phase')) :
    phase'.Replaying answer := by
  have hopen : phase.ended = false := by
    cases he : phase.ended with
    | false => rfl
    | true => exact absurd (hn.symm.trans (engineNext_ended he input)) (by simp)
  have hrow : ∀ r ∈ db.records, r.paymentKey = call.request.paymentKey → r.Replays answer := by
    intro r hmem hpay
    rw [h.only r hmem hpay]
    exact h.replays
  cases phase with
  | finished | crashed => cases hopen
  | cachedGet =>
    cases input <;> simp only [engineNext, Phase.ended, Bool.false_eq_true, if_false, reduceCtorEq, Option.some.injEq,
      Prod.mk.injEq] at hn <;> obtain ⟨rfl, rfl⟩ := hn
    case proceed =>
      refine answerExisting_replaying (fun r hr => ?_) fun _ => trivial
      obtain ⟨hmem, hpay⟩ := Db.get_sound hr
      exact hrow r hmem hpay
    all_goals trivial
  | cachedLookup =>
    cases input <;> simp only [engineNext, Phase.ended, Bool.false_eq_true, if_false, reduceCtorEq, Option.some.injEq,
      Prod.mk.injEq] at hn <;> obtain ⟨rfl, rfl⟩ := hn
    case proceed =>
      refine answerExisting_replaying (fun r hr => ?_) fun hnone => ?_
      · obtain ⟨hmem, hk⟩ := Db.mem_withReplayKey.mp (List.mem_of_mem_head? hr)
        exact hrow r hmem (ReplayKey.paymentKey_of_coalesce hk)
      · have hmem : row ∈ db.withReplayKey call.request.replayKey :=
          Db.mem_withReplayKey.mpr ⟨h.mem, by rw [h.replayKey]⟩
        rw [List.head?_eq_none_iff.mp hnone] at hmem
        cases hmem
    all_goals trivial
  | claimEnter =>
    cases input <;> simp only [engineNext, Phase.ended, Bool.false_eq_true, if_false, reduceCtorEq, Option.some.injEq,
      Prod.mk.injEq] at hn <;> obtain ⟨rfl, rfl⟩ := hn
    all_goals trivial
  | claimBegin now tries =>
    cases input <;> simp only [engineNext, Phase.ended, Bool.false_eq_true, if_false, reduceCtorEq,
      Option.ite_none_right_eq_some, Option.some.injEq, Prod.mk.injEq] at hn
    case proceed =>
      obtain ⟨-, -, rfl⟩ := hn
      trivial
    all_goals
      obtain ⟨rfl, rfl⟩ := hn
      trivial
  | claimLocked now tries =>
    cases input <;> simp only [engineNext, Phase.ended, Bool.false_eq_true, if_false, reduceCtorEq, Option.some.injEq,
      Prod.mk.injEq] at hn
    case proceed =>
      obtain ⟨r, hr⟩ := Db.selectReplay_complete h.mem h.replayKey
      obtain ⟨hmem, hpay⟩ := Db.selectReplay_sound hr
      simp only [hr, Option.some.injEq, Prod.mk.injEq] at hn
      obtain ⟨rfl, rfl⟩ := hn
      exact hrow r hmem hpay
    all_goals
      obtain ⟨rfl, rfl⟩ := hn
      trivial
  | claimDuplicate now r =>
    cases input <;> simp only [engineNext, Phase.ended, Bool.false_eq_true, if_false, reduceCtorEq, Option.some.injEq,
      Option.map_eq_some_iff, Prod.mk.injEq] at hn
    case proceed =>
      obtain ⟨o, ho, rfl, rfl⟩ := hn
      exact hphase call o ho
    all_goals
      obtain ⟨rfl, rfl⟩ := hn
      trivial
  | _ => exact hphase.elim

/-- The record of a call that has returned answers every coherent request for its payment, until somebody marks it. -/
theorem answered {s : System} (h : (machine hash).Reachable s) {i : Nat} {p : Process} {r : SettlementRecord}
    {result : ProviderResult} (hp : s.processes[i]? = some p)
    (hphase : p.phase = .finished (.ok answer) (some (r, result))) (hun : s.Unmarked r.recordId) {c : ClaimRequest}
    (hc : Coherent c.paymentKey (c :: s.claims)) (hk : c.paymentKey = p.call.request.paymentKey) :
    ∃ row, Answered answer s.db.records c row := by
  have ht := reachable_traced h
  have hkept : p.phase.kept = some r := by
    rw [hphase]
    rfl
  obtain ⟨row, hrow, hstored⟩ := reachable_stored h i p answer r result hp hphase hun
  obtain ⟨-, row', hrow', hof⟩ := ht.kept i p r hp hkept
  cases hrow.symm.trans hrow'
  have hpay : row.paymentKey = c.paymentKey := hof.paymentKey.trans hk.symm
  have hmem : row ∈ s.db.records := Table.row_mem hrow
  refine ⟨row, hmem, replayKey_of_paymentKey h hc hmem hpay, ?_, ?_⟩
  · intro r' hr' hk'
    exact reachable_unique h hc.tail hr' hk' hmem hpay
  · intro call o ho
    rw [ht.answer i p answer r result hp hphase]
    exact replay_of_finalized hstored ho

/-- Every call that arrives later stands where a replay can stand, until somebody marks the record. -/
theorem replaying {s t : System} {es : List Event} (hs : (machine hash).Reachable s) {i : Nat} {p : Process}
    {r : SettlementRecord} {result : ProviderResult} (hp : s.processes[i]? = some p)
    (hphase : p.phase = .finished (.ok answer) (some (r, result))) (h : (machine hash).Leads s es t) :
    t.processes[i]? = some p ∧ (Coherent p.call.request.paymentKey t.claims → t.Unmarked r.recordId →
      ∀ k q, s.processes.length ≤ k → t.processes[k]? = some q →
        q.call.request.paymentKey = p.call.request.paymentKey → q.phase.Replaying answer) := by
  refine h.invariant (I := fun t => t.processes[i]? = some p ∧ (Coherent p.call.request.paymentKey t.claims →
    t.Unmarked r.recordId → ∀ k q, s.processes.length ≤ k → t.processes[k]? = some q →
      q.call.request.paymentKey = p.call.request.paymentKey → q.phase.Replaying answer)) ⟨hp, ?_⟩ ?_ hs
  · intro _ _ k q hk hq _
    rw [List.getElem?_eq_none hk] at hq
    cases hq
  intro t e t' ht hi hn
  obtain ⟨hfirst, hlater⟩ := hi
  have hstep := reachable_step ht hn
  have hunmarked : t'.Unmarked r.recordId → t.Unmarked r.recordId := fun hun ev hev => hun ev (hstep.leases_grow hev)
  by_cases he : ∃ j input, e = .engine j input
  · obtain ⟨j, input, rfl⟩ := he
    obtain ⟨q, db', phase', hq, hnext, rfl⟩ := System.next_engine hn
    have hne : i ≠ j := by
      rintro rfl
      cases hfirst.symm.trans hq
      have hended : p.phase.ended = true := by
        rw [hphase]
        rfl
      exact absurd (hnext.symm.trans (engineNext_ended hended input)) (by simp)
    refine ⟨(List.getElem?_set_ne hne.symm).trans hfirst, fun hc hun k q' hk hq' hpay => ?_⟩
    have hc' : Coherent p.call.request.paymentKey t.claims := claims_set hq ▸ hc
    rcases Table.set_cases hq' with ⟨rfl, rfl⟩ | ⟨-, hq'⟩
    · have hmem : q.call.request ∈ t.claims := List.mem_map.mpr ⟨q, List.mem_of_getElem? hq, rfl⟩
      obtain ⟨row, hrow⟩ := answered ht hfirst hphase (hunmarked hun) (hpay ▸ hc'.cons hmem) hpay
      exact engineNext_replaying hrow (hlater hc' (hunmarked hun) k q hk hq hpay) hnext
    · exact hlater hc' (hunmarked hun) k q' hk hq' hpay
  · rcases hstep.processes_cases (fun j input hj => he ⟨j, input, hj⟩) with hsame | ⟨call, limited, harrive⟩
    · rw [System.claims, hsame]
      exact ⟨hfirst, fun hc hun => hlater hc (hunmarked hun)⟩
    · rw [System.claims, harrive]
      refine ⟨?_, fun hc hun k q hk hq hpay => ?_⟩
      · rw [List.getElem?_append_left (List.getElem?_eq_some_iff.mp hfirst).1]
        exact hfirst
      · rcases Table.append_cases hq with hq | ⟨-, rfl⟩
        · refine hlater (hc.sublist fun c hc => ?_) (hunmarked hun) k q hk hq hpay
          rw [List.map_append]
          exact List.mem_append_left _ hc
        · cases limited <;> trivial

end Postgres

/-! ## Idempotent replay -/

/-- Every later call for the payment replays `answer`, whatever has happened in between: alone, it is answered without the
limiter and the provider; among other calls, it never goes past the record. -/
structure Local.Idempotent {σ : Type} (L : LawfulStore σ) (text : Text) (router : ProviderRouter) (s : Local.System σ)
    (payment : PaymentKey) (answer : SettleOutcome) : Prop where
  alone : ∀ es t, (Local.machine L).Leads s es t →
    ∀ (envelope : TextEnvelope) (context : RequestContext) (call : SettleCall),
    prepare text router envelope context = .ok call → call.request.paymentKey = payment →
    Coherent payment (call.request :: t.claims) → ∀ limiter result times,
    (L.store.settle text router limiter t.store envelope context result times).Replays answer
  among : ∀ es t, (Local.machine L).Leads s es t → Coherent payment t.claims →
    ∀ k q, s.processes.length ≤ k → t.processes[k]? = some q → q.call.request.paymentKey = payment →
    q.phase.Replaying answer

/-- On Postgres the same, until somebody marks the record. -/
structure Postgres.Idempotent (hash : String → Int) (text : Text) (router : ProviderRouter) (s : Postgres.System)
    (payment : PaymentKey) (recordId : Nat) (answer : SettleOutcome) : Prop where
  alone : ∀ es t, (Postgres.machine hash).Leads s es t → t.Unmarked recordId →
    ∀ (envelope : TextEnvelope) (context : RequestContext) (call : SettleCall),
    prepare text router envelope context = .ok call → call.request.paymentKey = payment →
    Coherent payment (call.request :: t.claims) → ∀ limiter result times,
    (Postgres.store.settle text router limiter t.db envelope context result times).Replays answer
  among : ∀ es t, (Postgres.machine hash).Leads s es t → t.Unmarked recordId → Coherent payment t.claims →
    ∀ k q, s.processes.length ≤ k → t.processes[k]? = some q → q.call.request.paymentKey = payment →
    q.phase.Replaying answer

theorem Local.idempotent {σ : Type} {L : LawfulStore σ} (text : Text) (router : ProviderRouter) {s : Local.System σ}
    (hs : (Local.machine L).Reachable s) {i : Nat} {p : Local.Process} {answer : SettleOutcome} {r : SettlementRecord}
    {result : ProviderResult} (hp : s.processes[i]? = some p)
    (hphase : p.phase = .finished (.ok answer) (some (r, result))) :
    Local.Idempotent L text router s p.call.request.paymentKey answer where
  alone := by
    intro es t ht envelope context call hcall hk hc limiter result times
    obtain ⟨row, hrow⟩ := Local.answered (hs.leads ht) (Local.replaying hs hp hphase ht).1 hphase (hk ▸ hc) hk
    exact L.sequential.settle_replays (Local.reachable_inv (hs.leads ht)).store hcall hrow limiter result times
  among := by
    intro es t ht
    exact (Local.replaying hs hp hphase ht).2

theorem Postgres.idempotent {hash : String → Int} (text : Text) (router : ProviderRouter) {s : Postgres.System}
    (hs : (Postgres.machine hash).Reachable s) {i : Nat} {p : Postgres.Process} {answer : SettleOutcome}
    {r : SettlementRecord} {result : ProviderResult} (hp : s.processes[i]? = some p)
    (hphase : p.phase = .finished (.ok answer) (some (r, result))) :
    Postgres.Idempotent hash text router s p.call.request.paymentKey r.recordId answer where
  alone := by
    intro es t ht hun envelope context call hcall hk hc limiter result times
    obtain ⟨row, hrow⟩ := Postgres.answered (hs.leads ht) (Postgres.replaying hs hp hphase ht).1 hphase hun (hk ▸ hc) hk
    exact Postgres.sequential.settle_replays (Postgres.reachable_sound (hs.leads ht)) hcall hrow limiter result times
  among := by
    intro es t ht hun hc
    exact (Postgres.replaying hs hp hphase ht).2 hc hun

/-- **Idempotent replay.** Once a call has returned the outcome of its payment, every later call for the payment repeats
it, on all three stores, as long as the requests are coherent. -/
theorem replay_idempotent (text : Text) (router : ProviderRouter) (hash : String → Int) (i : Nat)
    (answer : SettleOutcome) (r : SettlementRecord) (result : ProviderResult) :
    (∀ (s : Local.System InMemory.State) (p : Local.Process), (Local.machine InMemory.lawful).Reachable s →
        s.processes[i]? = some p → p.phase = .finished (.ok answer) (some (r, result)) →
        Local.Idempotent InMemory.lawful text router s p.call.request.paymentKey answer) ∧
      (∀ (s : Local.System Sqlite.Db) (p : Local.Process), (Local.machine Sqlite.lawful).Reachable s →
        s.processes[i]? = some p → p.phase = .finished (.ok answer) (some (r, result)) →
        Local.Idempotent Sqlite.lawful text router s p.call.request.paymentKey answer) ∧
      ∀ (s : Postgres.System) (p : Postgres.Process), (Postgres.machine hash).Reachable s →
        s.processes[i]? = some p → p.phase = .finished (.ok answer) (some (r, result)) →
        Postgres.Idempotent hash text router s p.call.request.paymentKey r.recordId answer :=
  ⟨fun _ _ hs hp hphase => Local.idempotent text router hs hp hphase,
    fun _ _ hs hp hphase => Local.idempotent text router hs hp hphase,
    fun _ _ hs hp hphase => Postgres.idempotent text router hs hp hphase⟩

/-! ## A payment that is settled twice -/

/-- The provider settles the payment. -/
def paidResult : ProviderResult := .returned { success := true, transaction := some "0x0a" }

/-- The payment is settled under `p` with a null required network. Under `q`, with the required network `None`, it has the
same fingerprint and goes to the provider again. -/
theorem settled_twice :
    ∃ (s : Local.System InMemory.State) (p : Local.Process) (answer : SettleOutcome) (r : SettlementRecord)
      (call : SettleCall),
      (Local.machine InMemory.lawful).Reaches (Local.settleEvents (nullCall "p" "first" none) paidResult) s ∧
      (∃ envelope context, prepare nullText sampleRouter envelope context = .ok (nullCall "p" "first" none)) ∧
      s.processes[0]? = some p ∧ p.phase = .finished (.ok answer) (some (r, paidResult)) ∧
      prepare nullText sampleRouter (sampleEnvelope none (some "None")) (sampleContext "q" "second") = .ok call ∧
      call.request.paymentKey = p.call.request.paymentKey ∧
      (InMemory.store.settle nullText sampleRouter none s.store (sampleEnvelope none (some "None"))
        (sampleContext "q" "second") paidResult ⟨0, 0, 0, 0⟩).providerCalled = true := by
  have hrun : ((Local.machine InMemory.lawful).run (Local.machine InMemory.lawful).start
      (Local.settleEvents (nullCall "p" "first" none) paidResult)).map (fun s =>
        (s.processes[0]?.bind (·.phase.providerOutcome), s.processes[0]?.map (·.call.request.paymentKey),
          (InMemory.store.settleCall none s.store (nullCall "q" "second" (some "None")) paidResult
            ⟨0, 0, 0, 0⟩).providerCalled)) =
      some (some { success := true, transaction := some "0x0a" },
        some (nullCall "q" "second" (some "None")).request.paymentKey, true) := by decide
  obtain ⟨s, hs, hfacts⟩ := Option.map_eq_some_iff.mp hrun
  simp only [Prod.mk.injEq] at hfacts
  obtain ⟨hout, hkey, hcalled⟩ := hfacts
  obtain ⟨p, hp, hout⟩ := Option.bind_eq_some_iff.mp hout
  obtain ⟨answer, r, hphase⟩ := Local.Phase.providerOutcome_eq hout
  have hsecond := prepare_sample nullDigest "q" "second" .none
  refine ⟨s, p, answer, r, _, hs, ⟨_, _, prepare_sample nullDigest "p" "first" .null⟩, hp, hphase, hsecond, ?_, ?_⟩
  · rw [hp, Option.map_some] at hkey
    exact (Option.some.inj hkey).symm
  · simp only [SettlementStore.settle, nullText, hsecond]
    exact hcalled

/-- The record of a call that has returned. -/
def Postgres.Phase.settledId : Postgres.Phase → Option Nat
  | .finished (.ok _) (some (r, _)) => some r.recordId
  | _ => none

theorem Postgres.Phase.settledId_eq {phase : Postgres.Phase} {n : Nat} (h : phase.settledId = some n) :
    ∃ answer r result, phase = .finished (.ok answer) (some (r, result)) ∧ r.recordId = n := by
  unfold Postgres.Phase.settledId at h
  split at h
  · cases h
    exact ⟨_, _, _, rfl, rfl⟩
  · cases h

/-- The payment comes back under another profile, with a limiter that would refuse it, and is answered from its record. -/
theorem replay_idempotent_run :
    ∃ (s : Postgres.System) (p : Postgres.Process) (answer : SettleOutcome) (r : SettlementRecord)
      (result : ProviderResult),
      (Postgres.machine fun _ => 0).Reaches (Postgres.settleEvents 0 (nullCall "p" "first" none) paidResult) s ∧
      s.processes[0]? = some p ∧ p.phase = .finished (.ok answer) (some (r, result)) ∧ s.Unmarked r.recordId ∧
      (∃ call, prepare nullText sampleRouter (sampleEnvelope none none) (sampleContext "q" "second") = .ok call ∧
        call.request.paymentKey = p.call.request.paymentKey ∧ Coherent p.call.request.paymentKey (call.request :: s.claims)) ∧
      (Postgres.store.settle nullText sampleRouter (some false) s.db (sampleEnvelope none none)
        (sampleContext "q" "second") paidResult ⟨0, 0, 0, 0⟩).Replays answer := by
  have hrun : ((Postgres.machine fun _ => 0).run {} (Postgres.settleEvents 0 (nullCall "p" "first" none)
      paidResult)).map (fun s => (s.processes[0]?.bind (·.phase.settledId),
        s.processes[0]?.map (·.call.request.paymentKey), s.claims.map ClaimRequest.replayKey, s.leases)) =
      some (some 1, some (nullCall "q" "second" none).request.paymentKey,
        [(nullCall "q" "second" none).request.replayKey], [.cleared 1]) := by decide
  obtain ⟨s, hs, hfacts⟩ := Option.map_eq_some_iff.mp hrun
  simp only [Prod.mk.injEq] at hfacts
  obtain ⟨hid, hkey, hkeys, hleases⟩ := hfacts
  obtain ⟨p, hp, hid⟩ := Option.bind_eq_some_iff.mp hid
  obtain ⟨answer, r, result, hphase, hrid⟩ := Postgres.Phase.settledId_eq hid
  have hsecond := prepare_sample nullDigest "q" "second" .null
  have hpay : (nullCall "q" "second" none).request.paymentKey = p.call.request.paymentKey := by
    rw [hp, Option.map_some] at hkey
    exact (Option.some.inj hkey).symm
  have hunmarked : s.Unmarked r.recordId := by
    intro ev hev
    rw [hleases] at hev
    rw [List.mem_singleton.mp hev]
    rfl
  have hcoherent : Coherent p.call.request.paymentKey ((nullCall "q" "second" none).request :: s.claims) :=
    hpay ▸ coherent_of_keys hkeys
  refine ⟨s, p, answer, r, result, hs, hp, hphase, hunmarked, ⟨_, hsecond, hpay, hcoherent⟩, ?_⟩
  exact ((replay_idempotent nullText sampleRouter (fun _ => 0) 0 answer r result).2.2 s p ⟨_, hs⟩ hp hphase).alone
    [] s (Transition.Machine.leads_nil.mpr rfl) hunmarked _ _ _ hsecond hpay hcoherent (some false) paidResult
    ⟨0, 0, 0, 0⟩

end HostedFacilitator
