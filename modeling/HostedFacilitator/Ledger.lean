import HostedFacilitator.Engine.Providers
import HostedFacilitator.Storage.InMemory
import HostedFacilitator.Storage.Sqlite
import HostedFacilitator.Postgres.Store

/-!
# The ledger

What a settlement store is for: one entry for each payment of a seller, made by the first request for it, that answers
every later one. `Ledger.settle` is `engine.settle` on it. A store represents a ledger when its records and attempts
are those of the entries, ids and times apart (`SequentialStore.Represents`); a call keeps this and gives the ledger's
answer (`represents_settleCall`). Hence sequential calls cannot tell the three stores apart (`stores_agree`).
-/

namespace HostedFacilitator

/-! ## Views -/

/-- A record without its id and its times. -/
def SettlementRecord.view (r : SettlementRecord) : SettlementRecord :=
  { r with
    recordId := 0
    createdAt := 0
    updatedAt := 0
    reconciliationLeaseUntil := r.reconciliationLeaseUntil.map fun _ => 0
    lastDuplicateAt := r.lastDuplicateAt.map fun _ => 0 }

/-- An attempt without its ids and its times. -/
def SettlementAttemptRecord.view (a : SettlementAttemptRecord) : SettlementAttemptRecord :=
  { a with attemptId := 0, settlementRecordId := 0, startedAt := 0, finishedAt := a.finishedAt.map fun _ => 0 }

@[simp] theorem SettlementRecord.view_paymentKey (r : SettlementRecord) : r.view.paymentKey = r.paymentKey := rfl

theorem SettlementRecord.view_recordDuplicateClaim (r : SettlementRecord) (now : Instant) :
    (r.recordDuplicateClaim now).view = r.view.recordDuplicateClaim 0 := rfl

theorem duplicateAnswer_view (call : SettleCall) (r : SettlementRecord) :
    duplicateAnswer call r.view = duplicateAnswer call r := rfl

/-- The answer that every record has for a duplicate. -/
def replayAnswer (call : SettleCall) (r : SettlementRecord) : SettleOutcome :=
  (duplicateAnswer call r).get (Option.isSome_iff_exists.mpr (duplicateAnswer_isSome call r))

theorem duplicateAnswer_eq (call : SettleCall) (r : SettlementRecord) :
    duplicateAnswer call r = some (replayAnswer call r) := (Option.some_get _).symm

/-! ## Ledgers -/

/-- One payment: what its record and its only attempt say. -/
structure Entry where
  record : SettlementRecord
  attempt : SettlementAttemptRecord

namespace Entry

def paymentKey (e : Entry) : PaymentKey := e.record.paymentKey

/-- The entry that the first request for a payment leaves. -/
def settled (call : SettleCall) (result : ProviderResult) : Entry :=
  let f := result.finalization call (call.request.freshRecord 0 0)
  { record := (call.request.freshRecord 0 0).finalized f 0
    attempt := .closed 0 0 call.request.traceId f 0 0 }

/-- A later request is counted. -/
def count (e : Entry) : Entry := { e with record := e.record.recordDuplicateClaim 0 }

end Entry

abbrev Ledger := List Entry

namespace Ledger

def find (ledger : Ledger) (k : PaymentKey) : Option Entry := Table.row Entry.paymentKey k ledger

/-- `settle`, after the fingerprint. -/
def settleCall (limiter : Option Bool) (ledger : Ledger) (call : SettleCall) (result : ProviderResult) :
    Settlement Ledger :=
  match ledger.find call.request.paymentKey, limiter with
  | some e, none =>
    { answer := .ok (replayAnswer call e.record)
      store := Table.update (fun x => x.paymentKey == call.request.paymentKey) Entry.count ledger }
  | some e, some _ => { answer := .ok (replayAnswer call e.record), store := ledger }
  | none, some false => { answer := .error .rateLimitExceeded, store := ledger, limiterChecked := true }
  | none, limiter =>
    { answer := .ok (result.answer call (call.request.freshRecord 0 0))
      store := ledger ++ [Entry.settled call result]
      limiterChecked := limiter.isSome
      providerCalled := true }

end Ledger

/-! ## Runs -/

/-- One request: its envelope and context, what the limiter decides if it is asked (`none`: there is no limiter), what
`provider.settle` does if it is called. -/
structure Submission where
  envelope : TextEnvelope
  context : RequestContext
  limiter : Option Bool
  result : ProviderResult

/-- What can be seen of one call and of the store after it; an attempt comes with the position of its record. -/
structure Observed where
  answer : Except PyErr SettleOutcome
  limiterChecked : Bool
  providerCalled : Bool
  records : List SettlementRecord
  attempts : List (SettlementAttemptRecord × Nat)

section Runs

variable (text : Text) (router : ProviderRouter)

/-- `settle` on the ledger. -/
def Ledger.settle (ledger : Ledger) (x : Submission) : Settlement Ledger :=
  match prepare text router x.envelope x.context with
  | .error e => { answer := .error e, store := ledger }
  | .ok call => Ledger.settleCall x.limiter ledger call x.result

def Ledger.observe (done : Settlement Ledger) : Observed where
  answer := done.answer
  limiterChecked := done.limiterChecked
  providerCalled := done.providerCalled
  records := done.store.map Entry.record
  attempts := (done.store.map Entry.attempt).zipIdx

/-- One request after the other. -/
def Ledger.observations : Ledger → List Submission → List Observed
  | _, [] => []
  | ledger, x :: xs =>
    let done := Ledger.settle text router ledger x
    Ledger.observe done :: Ledger.observations done.store xs

variable {σ : Type} (S : SequentialStore σ)

def SequentialStore.observe (done : Settlement σ) : Observed where
  answer := done.answer
  limiterChecked := done.limiterChecked
  providerCalled := done.providerCalled
  records := (S.records done.store).map SettlementRecord.view
  attempts := (S.attempts done.store).map fun a =>
    (a.view, ((S.records done.store).map SettlementRecord.recordId).idxOf a.settlementRecordId)

/-- One request after the other on a store; `clock n` is what call `n` reads from the clock. -/
def SequentialStore.observations (clock : Nat → Readings) : Nat → σ → List Submission → List Observed
  | _, _, [] => []
  | n, s, x :: xs =>
    let done := S.store.settle text router x.limiter s x.envelope x.context x.result (clock n)
    S.observe done :: SequentialStore.observations clock (n + 1) done.store xs

end Runs

/-! ## Representation -/

/-- The store holds what the ledger says; its records come from `claims`. -/
structure SequentialStore.Represents {σ : Type} (S : SequentialStore σ) (claims : List ClaimRequest) (s : σ)
    (ledger : Ledger) : Prop where
  inv : S.Inv s
  records : (S.records s).map SettlementRecord.view = ledger.map Entry.record
  attempts : (S.attempts s).map SettlementAttemptRecord.view = ledger.map Entry.attempt
  owners : (S.attempts s).map SettlementAttemptRecord.settlementRecordId = (S.records s).map SettlementRecord.recordId
  keys : ∀ r ∈ S.records s, ∃ c ∈ claims, r.replayKey = c.replayKey
  unique : (ledger.map Entry.paymentKey).Nodup

namespace SequentialStore

variable {σ : Type} {S : SequentialStore σ} {claims : List ClaimRequest} {s : σ} {ledger : Ledger}

theorem represents_init (S : SequentialStore σ) (claims : List ClaimRequest) : S.Represents claims S.store.init [] := by
  refine ⟨S.init.inv, ?_, ?_, ?_, ?_, List.nodup_nil⟩
  · rw [S.init.records_eq]
    rfl
  · rw [S.init.attempts_eq]
    rfl
  · rw [S.init.attempts_eq, S.init.records_eq]
    rfl
  · rw [S.init.records_eq]
    simp

namespace Represents

theorem paymentKeys (h : S.Represents claims s ledger) :
    (S.records s).map SettlementRecord.paymentKey = ledger.map Entry.paymentKey := by
  have hk := congrArg (List.map SettlementRecord.paymentKey) h.records
  rw [List.map_map, List.map_map] at hk
  exact hk

/-- A payment has one record. -/
theorem record_unique (h : S.Represents claims s ledger) {r r' : SettlementRecord} (hr : r ∈ S.records s)
    (hr' : r' ∈ S.records s) (hk : r'.paymentKey = r.paymentKey) : r' = r := by
  have hn := h.unique
  rw [← h.paymentKeys] at hn
  exact List.inj_on_of_nodup_map hn hr' hr hk

/-- The record of an entry. -/
theorem record_of_find (h : S.Represents claims s ledger) {k : PaymentKey} {e : Entry} (hf : ledger.find k = some e) :
    ∃ r ∈ S.records s, r.view = e.record ∧ r.paymentKey = k := by
  have hmem : e.record ∈ (S.records s).map SettlementRecord.view := by
    rw [h.records]
    exact List.mem_map_of_mem (Table.row_mem hf)
  obtain ⟨r, hr, hv⟩ := List.mem_map.mp hmem
  have hk : e.paymentKey = k := Table.row_key hf
  exact ⟨r, hr, hv, by rw [← r.view_paymentKey, hv]; exact hk⟩

theorem absent_of_find (h : S.Represents claims s ledger) {k : PaymentKey} (hf : ledger.find k = none) :
    ∀ r ∈ S.records s, r.paymentKey ≠ k := by
  intro r hr hk
  have hmem : r.paymentKey ∈ ledger.map Entry.paymentKey := by
    rw [← h.paymentKeys]
    exact List.mem_map_of_mem hr
  obtain ⟨e, he, hek⟩ := List.mem_map.mp hmem
  exact Table.row_eq_none.mp hf e he (hek.trans hk)

/-- The record of a payment carries the replay key of every request for it. -/
theorem replayKey_eq (h : S.Represents claims s ledger) (hc : ∀ payment, Coherent payment claims) {c : ClaimRequest} (hmem : c ∈ claims)
    {r : SettlementRecord} (hr : r ∈ S.records s) (hk : r.paymentKey = c.paymentKey) : r.replayKey = c.replayKey := by
  obtain ⟨c', hc', hrc⟩ := h.keys r hr
  rw [hrc]
  refine hc c.paymentKey c' hc' ?_ c hmem rfl
  rw [← c'.replayKey_paymentKey, ← hrc, r.replayKey_paymentKey, hk]

/-- The positions of the attempts' records. -/
theorem observe_attempts (h : S.Represents claims s ledger) :
    ((S.attempts s).map fun a => (a.view, ((S.records s).map SettlementRecord.recordId).idxOf a.settlementRecordId)) =
      (ledger.map Entry.attempt).zipIdx := by
  rw [← h.attempts, ← h.owners]
  have hn := S.ids h.inv
  rw [← h.owners] at hn
  apply List.ext_getElem
  · simp
  intro i hi hi'
  have hlt : i < (S.attempts s).length := by simpa using hi
  have hidx := hn.idxOf_getElem i (by simpa using hlt)
  simp only [List.getElem_map] at hidx
  simp [hidx]

/-! ## One call -/

/-- The lookups before the claim find the record of the payment. -/
theorem existing_of_record (h : S.Represents claims s ledger) {c : ClaimRequest} {r : SettlementRecord}
    (hr : r ∈ S.records s) (hk : r.replayKey = c.replayKey) : S.store.existing s c = some r := by
  obtain ⟨r', hr'⟩ := S.existing_complete h.inv hr hk
  obtain ⟨hmem, hpay⟩ := S.existing_sound h.inv hr'
  have hpay' : r'.paymentKey = r.paymentKey := by
    rw [hpay, ← c.replayKey_paymentKey, ← hk, r.replayKey_paymentKey]
  rw [hr', h.record_unique hr hmem hpay']

theorem existing_of_absent (h : S.Represents claims s ledger) {c : ClaimRequest}
    (hnone : ∀ r ∈ S.records s, r.paymentKey ≠ c.paymentKey) : S.store.existing s c = none := by
  cases he : S.store.existing s c with
  | none => rfl
  | some r =>
    obtain ⟨hmem, hpay⟩ := S.existing_sound h.inv he
    exact absurd hpay (hnone r hmem)

/-- Counting a duplicate on both sides. -/
theorem count (h : S.Represents claims s ledger) {r : SettlementRecord} (hr : r ∈ S.records s) {now : Instant} {s' : σ}
    (hafter : After S.Inv S.records S.attempts s' (Table.update (fun x => x.recordId == r.recordId)
      (SettlementRecord.recordDuplicateClaim now) (S.records s)) (S.attempts s)) :
    S.Represents claims s' (Table.update (fun x => x.paymentKey == r.paymentKey) Entry.count ledger) := by
  have hids : ∀ x ∈ S.records s, (x.recordId == r.recordId) = (x.paymentKey == r.paymentKey) := by
    intro x hx
    by_cases he : x.paymentKey = r.paymentKey
    · rw [h.record_unique hr hx he]
      simp
    · have hne : x.recordId ≠ r.recordId := fun hid =>
        he (by rw [List.inj_on_of_nodup_map (S.ids h.inv) hx hr hid])
      rw [beq_eq_false_iff_ne.mpr hne, beq_eq_false_iff_ne.mpr he]
  refine ⟨hafter.inv, ?_, ?_, ?_, ?_, ?_⟩
  · rw [hafter.records_eq, Table.map_update_view (q := fun x => x.paymentKey == r.paymentKey)
      (fun x hx => (hids x hx).symm) fun x => x.view_recordDuplicateClaim now, h.records]
    exact (Table.map_update_view (g := Entry.record) (f := Entry.count) (fun _ _ => rfl) fun _ => rfl).symm
  · rw [hafter.attempts_eq, h.attempts]
    exact (Table.map_update (g := Entry.attempt) (f := Entry.count) fun _ => rfl).symm
  · rw [hafter.attempts_eq, hafter.records_eq, h.owners,
      Table.map_update (f := SettlementRecord.recordDuplicateClaim now) fun _ => rfl]
  · intro x hx
    rw [hafter.records_eq] at hx
    obtain ⟨y, hy, rfl⟩ := Table.mem_update.mp hx
    obtain ⟨c, hc, hk⟩ := h.keys y hy
    exact ⟨c, hc, by split <;> exact hk⟩
  · rw [Table.map_update (f := Entry.count) fun _ => rfl]
    exact h.unique

/-- The first request for a payment on both sides. -/
theorem add (h : S.Represents claims s ledger) {call : SettleCall} (hmem : call.request ∈ claims)
    {result : ProviderResult} {n a : Nat} {claim start mark finish : Instant} {done : Settlement σ}
    (hnone : ledger.find call.request.paymentKey = none)
    (hdone : SettledAlone S.Inv S.records S.attempts s call result n a claim start mark finish done) :
    S.Represents claims done.store (ledger ++ [Entry.settled call result]) := by
  have hfin : result.finalization call (call.request.freshRecord n claim) =
      result.finalization call (call.request.freshRecord 0 0) :=
    result.finalization_fresh call (call.request.freshRecord_fresh _ _) (call.request.freshRecord_fresh _ _)
  have hafter := hdone.after
  rw [hfin] at hafter
  refine ⟨hafter.inv, ?_, ?_, ?_, ?_, ?_⟩
  · rw [hafter.records_eq, List.map_append, List.map_append, h.records]
    rfl
  · rw [hafter.attempts_eq, List.map_append, List.map_append, h.attempts]
    rfl
  · rw [hafter.attempts_eq, hafter.records_eq, List.map_append, List.map_append, h.owners]
    rfl
  · intro x hx
    rw [hafter.records_eq] at hx
    rcases List.mem_append.mp hx with hx | hx
    · exact h.keys x hx
    · rw [List.mem_singleton.mp hx]
      exact ⟨call.request, hmem, rfl⟩
  · exact Table.nodup_append_fresh h.unique (Table.row_eq_none.mp hnone)

end Represents

/-- A call ended on a store as it did on the ledger. -/
structure Agrees (S : SequentialStore σ) (claims : List ClaimRequest) (done : Settlement σ)
    (done' : Settlement Ledger) : Prop where
  store : S.Represents claims done.store done'.store
  answer : done.answer = done'.answer
  limiterChecked : done.limiterChecked = done'.limiterChecked
  providerCalled : done.providerCalled = done'.providerCalled

/-- One call does on a store what it does on the ledger. -/
theorem represents_settleCall (h : S.Represents claims s ledger) (hc : ∀ payment, Coherent payment claims) {call : SettleCall}
    (hmem : call.request ∈ claims) (limiter : Option Bool) (result : ProviderResult) (times : Readings) :
    S.Agrees claims (S.store.settleCall limiter s call result times)
      (Ledger.settleCall limiter ledger call result) := by
  cases hf : ledger.find call.request.paymentKey with
  | some e =>
    obtain ⟨r, hr, hv, hk⟩ := h.record_of_find hf
    have hreplay := h.replayKey_eq hc hmem hr hk
    have hanswer : duplicateAnswer call r = some (replayAnswer call e.record) := by
      rw [← duplicateAnswer_eq, ← hv, duplicateAnswer_view]
    cases limiter with
    | none =>
      obtain ⟨o, s', ho, hdone, hafter⟩ := S.settle_duplicate result times h.inv hr
        (fun r' hr' hk' => h.record_unique hr hr' hk') hreplay
      rw [hanswer, Option.some.injEq] at ho
      simp only [SettlementStore.settleCall, hdone, Ledger.settleCall, hf]
      exact { store := hk ▸ h.count hr hafter, answer := by rw [ho], limiterChecked := rfl, providerCalled := rfl }
    | some allowed =>
      have hcached : S.store.cachedExistingSettlement s call = some (replayAnswer call e.record) := by
        rw [SettlementStore.cachedExistingSettlement_of_some (h.existing_of_record hr hreplay), hanswer]
      simp only [SettlementStore.settleCall, hcached, Ledger.settleCall, hf]
      exact { store := h, answer := rfl, limiterChecked := rfl, providerCalled := rfl }
  | none =>
    have habsent := h.absent_of_find hf
    have hcached : S.store.cachedExistingSettlement s call = none :=
      SettlementStore.cachedExistingSettlement_of_none (h.existing_of_absent habsent)
    obtain ⟨n, a, start, finish, hdone⟩ := S.settle_fresh result times h.inv habsent
    have hnext := h.add hmem hf hdone
    have hanswer : result.answer call (call.request.freshRecord n times.claim) =
        result.answer call (call.request.freshRecord 0 0) := by
      cases result <;> rfl
    cases limiter with
    | none =>
      simp only [SettlementStore.settleCall, Ledger.settleCall, hf]
      exact
        { store := hnext, answer := by rw [hdone.answer, hanswer], limiterChecked := hdone.limiterChecked,
          providerCalled := hdone.providerCalled }
    | some allowed =>
      cases allowed with
      | false =>
        simp only [SettlementStore.settleCall, hcached, Ledger.settleCall, hf]
        exact { store := h, answer := rfl, limiterChecked := rfl, providerCalled := rfl }
      | true =>
        simp only [SettlementStore.settleCall, hcached, Ledger.settleCall, hf, if_true]
        exact
          { store := hnext, answer := by rw [hdone.answer, hanswer], limiterChecked := rfl,
            providerCalled := hdone.providerCalled }

/-! ## Runs of calls -/

variable {text : Text} {router : ProviderRouter}

theorem Agrees.observe {done : Settlement σ} {done' : Settlement Ledger} (h : S.Agrees claims done done') :
    S.observe done = Ledger.observe done' := by
  simp only [SequentialStore.observe, Ledger.observe, h.answer, h.limiterChecked, h.providerCalled, h.store.records,
    h.store.observe_attempts]

/-- A submission makes one of the claims, or is refused. -/
theorem represents_settle (h : S.Represents claims s ledger) (hc : ∀ payment, Coherent payment claims) (x : Submission)
    (hx : ∀ call, prepare text router x.envelope x.context = .ok call → call.request ∈ claims) (times : Readings) :
    S.Agrees claims (S.store.settle text router x.limiter s x.envelope x.context x.result times)
      (Ledger.settle text router ledger x) := by
  unfold SettlementStore.settle Ledger.settle
  cases hp : prepare text router x.envelope x.context with
  | error e => exact { store := h, answer := rfl, limiterChecked := rfl, providerCalled := rfl }
  | ok call => exact represents_settleCall h hc (hx call hp) x.limiter x.result times

/-- By induction on the requests: whatever can be seen of a store is what can be seen of the ledger. -/
theorem observations_eq (h : S.Represents claims s ledger) (hc : ∀ payment, Coherent payment claims) (submissions : List Submission)
    (hx : ∀ x ∈ submissions, ∀ call, prepare text router x.envelope x.context = .ok call → call.request ∈ claims)
    (clock : Nat → Readings) (n : Nat) :
    S.observations text router clock n s submissions = Ledger.observations text router ledger submissions := by
  induction submissions generalizing s ledger n with
  | nil => rfl
  | cons x xs ih =>
    have hagrees : S.Agrees claims (S.store.settle text router x.limiter s x.envelope x.context x.result (clock n))
        (Ledger.settle text router ledger x) := represents_settle h hc x (hx x List.mem_cons_self) (clock n)
    rw [observations, Ledger.observations, hagrees.observe,
      ih hagrees.store (fun y hy => hx y (List.mem_cons_of_mem _ hy)) (n + 1)]

end SequentialStore

/-- The requests of a list of submissions. -/
def requestsOf (submissions : List Submission) : List (TextEnvelope × RequestContext) :=
  submissions.map fun x => (x.envelope, x.context)

theorem mem_claimsOf {text : Text} {router : ProviderRouter} {submissions : List Submission} {x : Submission}
    (hx : x ∈ submissions) {call : SettleCall} (h : prepare text router x.envelope x.context = .ok call) :
    call.request ∈ claimsOf text router (requestsOf submissions) := by
  refine List.mem_filterMap.mpr ⟨(x.envelope, x.context), List.mem_map_of_mem hx, ?_⟩
  simp only [h]
  rfl

/-- What can be seen of a store under requests with strings is what can be seen of the ledger. -/
theorem SequentialStore.observations_init {σ : Type} (S : SequentialStore σ) {text : Text} {router : ProviderRouter}
    {submissions : List Submission} (hs : ∀ x ∈ submissions, x.envelope.Strings)
    (hd : text.Distinguishes (paymentsOf text router (requestsOf submissions))) (clock : Nat → Readings) :
    S.observations text router clock 0 S.store.init submissions = Ledger.observations text router [] submissions := by
  have hc : ∀ payment, Coherent payment (claimsOf text router (requestsOf submissions)) := by
    refine coherent_of_text (fun x hx => ?_) hd
    obtain ⟨y, hy, rfl⟩ := List.mem_map.mp hx
    exact hs y hy
  exact observations_eq (S.represents_init _) hc submissions (fun x hx call h => mem_claimsOf hx h) clock 0

/-- **The three stores agree.** Sequential calls with string schemes and networks get the same answers from each of
them, go to the limiter and to the provider at the same times, and find the same records and attempts afterwards, ids
and times apart. -/
theorem stores_agree (text : Text) (router : ProviderRouter) (submissions : List Submission)
    (hs : ∀ x ∈ submissions, x.envelope.Strings)
    (hd : text.Distinguishes (paymentsOf text router (requestsOf submissions)))
    (memoryClock sqliteClock postgresClock : Nat → Readings) :
    InMemory.lawful.sequential.observations text router memoryClock 0 InMemory.store.init submissions =
        Sqlite.lawful.sequential.observations text router sqliteClock 0 Sqlite.store.init submissions ∧
      Sqlite.lawful.sequential.observations text router sqliteClock 0 Sqlite.store.init submissions =
        Postgres.sequential.observations text router postgresClock 0 Postgres.store.init submissions := by
  have hmemory := InMemory.lawful.sequential.observations_init hs hd memoryClock
  have hsqlite := Sqlite.lawful.sequential.observations_init hs hd sqliteClock
  have hpostgres := Postgres.sequential.observations_init hs hd postgresClock
  exact ⟨hmemory.trans hsqlite.symm, hsqlite.trans hpostgres.symm⟩

/-! ## A replay under another profile -/

/-- One payment under two profiles: it is settled, and answered from its record. -/
def replaySubmissions : List Submission :=
  [{ envelope := sampleEnvelope (some "eip155:5042002") (some "eip155:5042002"), context := sampleContext "a" "first"
     limiter := none, result := .returned { success := true, transaction := some "0xpaid" } },
    { envelope := sampleEnvelope (some "eip155:5042002") (some "eip155:5042002"), context := sampleContext "b" "second"
      limiter := some true, result := .raised }]

theorem stores_agree_replay :
    ((Sqlite.lawful.sequential.observations networkText sampleRouter (fun _ => ⟨0, 1, 2, 3⟩) 0 Sqlite.store.init
        replaySubmissions).map Observed.providerCalled = [true, false]) ∧
      InMemory.lawful.sequential.observations networkText sampleRouter (fun _ => ⟨0, 0, 0, 0⟩) 0 InMemory.store.init
          replaySubmissions =
        Sqlite.lawful.sequential.observations networkText sampleRouter (fun _ => ⟨0, 1, 2, 3⟩) 0 Sqlite.store.init
          replaySubmissions ∧
      Sqlite.lawful.sequential.observations networkText sampleRouter (fun _ => ⟨0, 1, 2, 3⟩) 0 Sqlite.store.init
          replaySubmissions =
        Postgres.sequential.observations networkText sampleRouter (fun _ => ⟨5, 5, 6, 6⟩) 0 Postgres.store.init
          replaySubmissions := by
  have hstrings : ∀ x ∈ replaySubmissions, x.envelope.Strings := by
    have hsample : (sampleEnvelope (some "eip155:5042002") (some "eip155:5042002")).Strings := by
      refine ⟨rfl, rfl, ?_, ?_⟩
      · intro d hd
        cases hd
        rfl
      · intro d hd
        cases hd
        rfl
    intro x hx
    simp only [replaySubmissions, List.mem_cons, List.not_mem_nil, or_false] at hx
    rcases hx with rfl | rfl <;> exact hsample
  have hpayments : ∃ d, paymentsOf networkText sampleRouter (requestsOf replaySubmissions) = [d, d] := by
    simp only [paymentsOf, requestsOf, replaySubmissions, List.map_cons, List.map_nil, List.filterMap_cons,
      networkText, prepare_sample _ _ _ .text]
    exact ⟨_, rfl⟩
  have hdistinct : networkText.Distinguishes (paymentsOf networkText sampleRouter (requestsOf replaySubmissions)) := by
    obtain ⟨d, hd⟩ := hpayments
    rw [hd]
    intro e he e' he' _
    simp only [List.mem_cons, List.not_mem_nil, or_false, or_self] at he he'
    rw [he, he']
    exact ⟨rfl, rfl, rfl⟩
  refine ⟨?_, stores_agree networkText sampleRouter replaySubmissions hstrings hdistinct _ _ _⟩
  rw [show Sqlite.store.init = Sqlite.lawful.sequential.store.init from rfl,
    Sqlite.lawful.sequential.observations_init hstrings hdistinct]
  simp only [replaySubmissions, Ledger.observations, Ledger.settle, networkText, prepare_sample _ _ _ .text]
  decide

end HostedFacilitator
