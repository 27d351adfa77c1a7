import HostedFacilitator.Engine.Providers
import HostedFacilitator.Local.Invariant
import HostedFacilitator.Storage.InMemory
import HostedFacilitator.Storage.Sqlite
import HostedFacilitator.Postgres.Outcome
import HostedFacilitator.Postgres.Store

/-!
# The fast path

With a rate limiter, `engine.settle` first asks the store whether it knows the payment, by profile key and then by replay
key, and answers from the record. Without one the claim finds the record and counts the request. The in-memory and the
SQLite store look up a claim in the same order, so the two paths agree in every state. The Postgres claim looks for the
replay key first. When requests with one fingerprint differ in the network they require, a payment has two records there
and the two paths find different ones (`fast_path_differs`); with coherent requests they agree
(`fast_path_agrees`).
-/

namespace HostedFacilitator

/-- A record without its count of duplicates. -/
def SettlementRecord.uncounted (r : SettlementRecord) : SettlementRecord :=
  { r with duplicateClaims := 0, lastDuplicateAt := none }

/-- Two calls answered alike, called the provider alike, and left the same records and attempts, the count of duplicates
apart. -/
structure SequentialStore.PathsAgree {σ : Type} (S : SequentialStore σ) (fast slow : Settlement σ) : Prop where
  answer : fast.answer = slow.answer
  providerCalled : fast.providerCalled = slow.providerCalled
  records : (S.records fast.store).map SettlementRecord.uncounted =
    (S.records slow.store).map SettlementRecord.uncounted
  attempts : S.attempts fast.store = S.attempts slow.store

section Paths

variable {σ : Type} {S : SequentialStore σ} {s : σ} {call : SettleCall} {result : ProviderResult} {times : Readings}

/-- The paths agree as soon as the claim answers from the record that the first lookups find. -/
theorem SequentialStore.pathsAgree
    (h : ∀ r, S.store.existing s call.request = some r → ∃ o s', duplicateAnswer call r = some o ∧
      S.store.claimAndSettle s call result times = { answer := .ok o, store := s' } ∧
      After S.Inv S.records S.attempts s' (Table.update (fun x => x.recordId == r.recordId)
        (SettlementRecord.recordDuplicateClaim times.claim) (S.records s)) (S.attempts s)) :
    S.PathsAgree (S.store.settleCall (some true) s call result times) (S.store.settleCall none s call result times) := by
  cases hex : S.store.existing s call.request with
  | some r =>
    obtain ⟨o, s', ho, hdone, hafter⟩ := h r hex
    have hcached := SettlementStore.cachedExistingSettlement_of_some hex
    rw [ho] at hcached
    simp only [SettlementStore.settleCall, hcached, hdone]
    refine { answer := rfl, providerCalled := rfl, records := ?_, attempts := hafter.attempts_eq.symm }
    rw [hafter.records_eq,
      Table.map_update (g := SettlementRecord.uncounted) (f := SettlementRecord.recordDuplicateClaim times.claim)
        fun _ => rfl]
  | none =>
    have hcached := SettlementStore.cachedExistingSettlement_of_none hex
    simp only [SettlementStore.settleCall, hcached, if_true]
    exact { answer := rfl, providerCalled := rfl, records := rfl, attempts := rfl }

/-- On a store with separate operations both paths look the same way. -/
theorem LawfulStore.pathsAgree {L : LawfulStore σ} (hinv : L.Inv s) :
    L.sequential.PathsAgree (L.store.settleCall (some true) s call result times)
      (L.store.settleCall none s call result times) :=
  SequentialStore.pathsAgree fun _ hex => L.claimAndSettle_duplicate result times hinv hex

end Paths

/-- On Postgres both paths find the one record of the payment. -/
theorem Postgres.pathsAgree {hash : String → Int} {s : Postgres.System} (h : (Postgres.machine hash).Reachable s)
    {call : SettleCall} (hc : Coherent call.request.paymentKey (call.request :: s.claims)) (result : ProviderResult) (times : Readings) :
    Postgres.sequential.PathsAgree (Postgres.store.settleCall (some true) s.db call result times)
      (Postgres.store.settleCall none s.db call result times) := by
  refine SequentialStore.pathsAgree (S := Postgres.sequential) fun r hex => ?_
  obtain ⟨hmem, hpay⟩ := Postgres.Db.existing_sound hex
  exact Postgres.sequential.settle_duplicate result times (Postgres.reachable_sound h) hmem
    (fun r' hr' hk => Postgres.reachable_unique h hc.tail hr' (hk.trans hpay) hmem hpay)
    (Postgres.replayKey_of_paymentKey h hc hmem hpay)

/-- A refused request is refused on both paths. -/
theorem SequentialStore.pathsAgree_settle {σ : Type} {S : SequentialStore σ} {s : σ} {text : Text}
    {router : ProviderRouter} {envelope : TextEnvelope} {context : RequestContext} {result : ProviderResult}
    {times : Readings}
    (h : ∀ call, prepare text router envelope context = .ok call → S.PathsAgree
      (S.store.settleCall (some true) s call result times) (S.store.settleCall none s call result times)) :
    S.PathsAgree (S.store.settle text router (some true) s envelope context result times)
      (S.store.settle text router none s envelope context result times) := by
  unfold SettlementStore.settle
  cases hp : prepare text router envelope context with
  | error e => exact { answer := rfl, providerCalled := rfl, records := rfl, attempts := rfl }
  | ok call => exact h call hp

/-- **The fast path agrees with the claim.** In every reachable state of the in-memory and of the SQLite store; on
Postgres for requests that are coherent with those of the run. -/
theorem fast_path_agrees (text : Text) (router : ProviderRouter) (hash : String → Int) :
    (∀ (s : Local.System InMemory.State), (Local.machine InMemory.lawful).Reachable s →
        ∀ (envelope : TextEnvelope) (context : RequestContext) (result : ProviderResult) (times : Readings),
        InMemory.lawful.sequential.PathsAgree
          (InMemory.store.settle text router (some true) s.store envelope context result times)
          (InMemory.store.settle text router none s.store envelope context result times)) ∧
      (∀ (s : Local.System Sqlite.Db), (Local.machine Sqlite.lawful).Reachable s →
        ∀ (envelope : TextEnvelope) (context : RequestContext) (result : ProviderResult) (times : Readings),
        Sqlite.lawful.sequential.PathsAgree
          (Sqlite.store.settle text router (some true) s.store envelope context result times)
          (Sqlite.store.settle text router none s.store envelope context result times)) ∧
      ∀ (s : Postgres.System), (Postgres.machine hash).Reachable s →
        ∀ (envelope : TextEnvelope) (context : RequestContext) (result : ProviderResult) (times : Readings),
        (∀ call, prepare text router envelope context = .ok call →
          Coherent call.request.paymentKey (call.request :: s.claims)) →
        Postgres.sequential.PathsAgree
          (Postgres.store.settle text router (some true) s.db envelope context result times)
          (Postgres.store.settle text router none s.db envelope context result times) := by
  refine ⟨?_, ?_, ?_⟩
  · intro s h envelope context result times
    refine SequentialStore.pathsAgree_settle (S := InMemory.lawful.sequential) fun call _ => ?_
    exact LawfulStore.pathsAgree (Local.reachable_inv h).store
  · intro s h envelope context result times
    refine SequentialStore.pathsAgree_settle (S := Sqlite.lawful.sequential) fun call _ => ?_
    exact LawfulStore.pathsAgree (Local.reachable_inv h).store
  · intro s h envelope context result times hc
    refine SequentialStore.pathsAgree_settle (S := Postgres.sequential) fun call hcall => ?_
    exact Postgres.pathsAgree h (hc call hcall) result times

/-! ## One payment with two records -/

/-- The digest of the sample payment with a null network. -/
def nullDigest : String := "6a7b69e67dca6b9765603de4e719db23074f4d416782a80bcdec670a581aa39c"

def nullText : Text := sampleText "null" nullDigest

/-- The sample payment with a null accepted network, after its checks. -/
def nullCall (profile traceId : String) (required : Option String) : SettleCall where
  request := sampleClaim nullText nullDigest profile traceId required
  authorizationFrom := some "0xa1"

/-- A call from its claim to its end while nobody else does anything. -/
def Postgres.settleEvents (i : Nat) (call : SettleCall) (result : ProviderResult) : List Postgres.Event :=
  [.arrive call false, .engine i (.proceed 0), .engine i (.proceed 0), .engine i (.proceed 0), .engine i (.proceed 0),
    .engine i (.proceed 0), .engine i (.proceed 0), .engine i (.proceed 0), .engine i (.provider result),
    .engine i (.proceed 0)]

/-- The payment is settled under profile `p` with a null required network, and once more under profile `q` with the
required network `None`. -/
def twiceEvents : List Postgres.Event :=
  Postgres.settleEvents 0 (nullCall "p" "first" none) (.returned { success := true, transaction := some "0x0a" }) ++
    Postgres.settleEvents 1 (nullCall "q" "second" (some "None"))
      (.returned { success := true, transaction := some "0x0b" })

/-- The transactions that the two paths answer with. -/
def pathTransactions (db : Postgres.Db) : Option String × Option String :=
  let transaction (limiter : Option Bool) : Option String :=
    (Postgres.store.settleCall limiter db (nullCall "p" "third" (some "None")) .raised ⟨0, 0, 0, 0⟩).answer.toOption.bind
      (·.transaction)
  (transaction (some true), transaction none)

/-- A third request, under `p` with the required network `None`: the fast path finds the first record, the claim the
second one. -/
theorem fast_path_differs :
    ∃ (s : Postgres.System), (Postgres.machine fun _ => 0).Reaches twiceEvents s ∧
      (∀ call limited, Postgres.Event.arrive call limited ∈ twiceEvents →
        ∃ envelope context, prepare nullText sampleRouter envelope context = .ok call) ∧
      (∃ call, prepare nullText sampleRouter (sampleEnvelope none (some "None")) (sampleContext "p" "third") =
        .ok call) ∧
      (Postgres.store.settle nullText sampleRouter (some true) s.db (sampleEnvelope none (some "None"))
          (sampleContext "p" "third") .raised ⟨0, 0, 0, 0⟩).answer ≠
        (Postgres.store.settle nullText sampleRouter none s.db (sampleEnvelope none (some "None"))
          (sampleContext "p" "third") .raised ⟨0, 0, 0, 0⟩).answer := by
  have hrun : ((Postgres.machine fun _ => 0).run {} twiceEvents).map (fun s => pathTransactions s.db) =
      some (some "0x0a", some "0x0b") := by decide
  obtain ⟨s, hs, hpaths⟩ := Option.map_eq_some_iff.mp hrun
  have hthird := prepare_sample nullDigest "p" "third" .none
  refine ⟨s, hs, ?_, ⟨_, hthird⟩, ?_⟩
  · intro call limited hmem
    simp only [twiceEvents, Postgres.settleEvents, List.cons_append, List.nil_append, List.mem_cons,
      List.not_mem_nil, reduceCtorEq, or_false, false_or, Postgres.Event.arrive.injEq] at hmem
    rcases hmem with ⟨rfl, -⟩ | ⟨rfl, -⟩
    · exact ⟨_, _, prepare_sample nullDigest "p" "first" .null⟩
    · exact ⟨_, _, prepare_sample nullDigest "q" "second" .none⟩
  · intro he
    simp only [SettlementStore.settle, nullText, hthird] at he
    have hsame : (pathTransactions s.db).1 = (pathTransactions s.db).2 := by
      simp only [pathTransactions, nullCall, nullText]
      rw [he]
    rw [hpaths] at hsame
    revert hsame
    decide

/-- A request is coherent with an earlier one of the same replay key. -/
theorem coherent_of_keys {claims : List ClaimRequest} {c : ClaimRequest}
    (h : claims.map ClaimRequest.replayKey = [c.replayKey]) : Coherent c.paymentKey (c :: claims) := by
  have hkey : ∀ c' ∈ c :: claims, c'.replayKey = c.replayKey := by
    intro c' hc'
    rcases List.mem_cons.mp hc' with rfl | hc'
    · rfl
    · have hmem := List.mem_map_of_mem (f := ClaimRequest.replayKey) hc'
      rw [h] at hmem
      exact List.mem_singleton.mp hmem
  exact fun c₁ h₁ _ c₂ h₂ _ => (hkey c₁ h₁).trans (hkey c₂ h₂).symm

/-- The payment comes back under another profile: both paths answer from its record. -/
theorem fast_path_agrees_replay :
    ∃ (s : Postgres.System), (Postgres.machine fun _ => 0).Reaches (Postgres.settleEvents 0 (nullCall "p" "first" none)
        (.returned { success := true, transaction := some "0x0a" })) s ∧
      (∃ call, prepare nullText sampleRouter (sampleEnvelope none none) (sampleContext "q" "second") = .ok call ∧
        Coherent call.request.paymentKey (call.request :: s.claims)) ∧
      Postgres.sequential.PathsAgree
        (Postgres.store.settle nullText sampleRouter (some true) s.db (sampleEnvelope none none)
          (sampleContext "q" "second") .raised ⟨0, 0, 0, 0⟩)
        (Postgres.store.settle nullText sampleRouter none s.db (sampleEnvelope none none)
          (sampleContext "q" "second") .raised ⟨0, 0, 0, 0⟩) := by
  have hrun : ((Postgres.machine fun _ => 0).run {} (Postgres.settleEvents 0 (nullCall "p" "first" none)
      (.returned { success := true, transaction := some "0x0a" }))).map (fun s => s.claims.map ClaimRequest.replayKey) =
      some [(nullCall "q" "second" none).request.replayKey] := by decide
  obtain ⟨s, hs, hkeys⟩ := Option.map_eq_some_iff.mp hrun
  have hsecond := prepare_sample nullDigest "q" "second" .null
  have hcoherent : Coherent _ ((nullCall "q" "second" none).request :: s.claims) := coherent_of_keys hkeys
  refine ⟨s, hs, ⟨_, hsecond, hcoherent⟩, ?_⟩
  refine (fast_path_agrees nullText sampleRouter fun _ => 0).2.2 s ⟨_, hs⟩ _ _ _ _ fun call hcall => ?_
  cases hsecond.symm.trans hcall
  exact hcoherent

end HostedFacilitator
