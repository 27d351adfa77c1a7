import HostedFacilitator.Lib.Dict
import HostedFacilitator.Storage.Lawful

/-!
# `InMemorySettlementStore`

Records are kept in a dictionary by seller, payment profile and fingerprint, and a second dictionary leads from the
exact replay key to the first one. The records are objects: a claim hands out the object itself, and every later write to
it shows in the engine's variable (`held`). The updates that finalise a record name only some of its fields.
-/

namespace HostedFacilitator.InMemory

structure State where
  records : List (ProfileKey × SettlementRecord) := []
  providerFingerprintIndex : List (ReplayKey × ProfileKey) := []
  attempts : List (Nat × SettlementAttemptRecord) := []
  nextRecordId : Nat := 1
  nextAttemptId : Nat := 1

namespace State

variable (s : State)

/-- `get`. -/
def get (k : ProfileKey) : Option SettlementRecord := Dict.get s.records k

/-- `get_by_provider_fingerprint`. -/
def getByProviderFingerprint (k : ReplayKey) : Option SettlementRecord :=
  (Dict.get s.providerFingerprintIndex k).bind (Dict.get s.records)

/-- A write to the object with this id. -/
def mutate (recordId : Nat) (f : SettlementRecord → SettlementRecord) : State :=
  { s with records := s.records.map fun e => (e.1, if e.2.recordId == recordId then f e.2 else e.2) }

/-- A claim that has found an object: `_record_duplicate_claim`, and the object itself is returned. -/
def claimExisting (r : SettlementRecord) (now : Instant) : (SettlementRecord × SettlementClaim) × State :=
  ((r.recordDuplicateClaim now, claimForStatus r.status), s.mutate r.recordId (·.recordDuplicateClaim now))

/-- `claim_for_settlement`. -/
def claimForSettlement (c : ClaimRequest) (now : Instant) :
    Except PyErr ((SettlementRecord × SettlementClaim) × State) :=
  match Dict.get s.records c.profileKey with
  | some existing => .ok (s.claimExisting existing now)
  | none =>
    match Dict.get s.providerFingerprintIndex c.replayKey with
    | some k =>
      match Dict.get s.records k with
      | some replay => .ok (s.claimExisting replay now)
      | none => .error (.key (k.sellerAccountId ++ ", " ++ k.paymentProfileId ++ ", " ++ k.fingerprint))
    | none =>
      let record := c.freshRecord s.nextRecordId now
      .ok ((record, .claimed),
        { s with
          records := Dict.set s.records c.profileKey record
          providerFingerprintIndex := Dict.set s.providerFingerprintIndex c.replayKey c.profileKey
          nextRecordId := s.nextRecordId + 1 })

/-- `start_settle_attempt`. -/
def startSettleAttempt (r : SettlementRecord) (traceId : String) (now : Instant) : Nat × State :=
  (s.nextAttemptId,
    { s with
      attempts := Dict.set s.attempts s.nextAttemptId
        (SettlementAttemptRecord.started s.nextAttemptId r.recordId traceId now)
      nextAttemptId := s.nextAttemptId + 1 })

/-- `finish_settle_attempt`. -/
def finishSettleAttempt (attemptId : Nat) (status : SettlementAttemptStatus) (transaction errorReason : Option String)
    (now : Instant) : State :=
  match Dict.get s.attempts attemptId with
  | none => s
  | some a => { s with attempts := Dict.set s.attempts attemptId (a.finished status transaction errorReason now) }

/-- `mark_settled`. -/
def markSettled (r : SettlementRecord) (transaction payer : Option String) (now : Instant) : State :=
  s.mutate r.recordId fun x =>
    { x with status := .settled, transaction := transaction, payer := payer, updatedAt := now }

/-- `mark_submitted`. -/
def markSubmitted (r : SettlementRecord) (transaction payer : Option String) (now : Instant) : State :=
  s.mutate r.recordId fun x =>
    { x with status := .submitted, transaction := transaction, payer := payer, updatedAt := now }

/-- `mark_settle_failed`. -/
def markSettleFailed (r : SettlementRecord) (errorReason : Option String) (now : Instant) : State :=
  s.mutate r.recordId fun x => { x with status := .settleFailed, errorReason := errorReason, updatedAt := now }

/-- `mark_unknown`. -/
def markUnknown (r : SettlementRecord) (errorReason : Option String) (now : Instant) : State :=
  s.mutate r.recordId fun x => { x with status := .unknown, errorReason := errorReason, updatedAt := now }

/-- The values of the dictionary. -/
def recordList : List SettlementRecord := s.records.map Prod.snd

/-- The object that the engine holds, as it is now. -/
def held (r : SettlementRecord) : SettlementRecord :=
  (Table.row SettlementRecord.recordId r.recordId s.recordList).getD r

end State

def steps : SeparateSteps State where
  claimForSettlement := State.claimForSettlement
  markSettled := State.markSettled
  markSubmitted := State.markSubmitted
  markSettleFailed := State.markSettleFailed
  markUnknown := State.markUnknown
  finishSettleAttempt := State.finishSettleAttempt

/-- The store as the engine uses it. -/
def store : SettlementStore State where
  init := {}
  get := State.get
  getByProviderFingerprint := State.getByProviderFingerprint
  startSettleAttempt := State.startSettleAttempt
  held := State.held
  steps := .separate steps

/-! ## The invariant -/

namespace State

/-- The dictionaries fit together: every key is that of its value, and the index leads from the replay key of each
record to that record. -/
structure Wf (s : State) : Prop where
  keys : (s.records.map Prod.fst).Nodup
  key_eq : ∀ e ∈ s.records, e.1 = e.2.profileKey
  ids : (s.recordList.map SettlementRecord.recordId).Nodup
  bound : ∀ e ∈ s.records, e.2.recordId < s.nextRecordId
  index_keys : (s.providerFingerprintIndex.map Prod.fst).Nodup
  index_sound : ∀ e ∈ s.providerFingerprintIndex, ∃ r, (e.2, r) ∈ s.records ∧ r.replayKey = e.1
  index_complete : ∀ e ∈ s.records, (e.2.replayKey, e.1) ∈ s.providerFingerprintIndex
  attemptKeys : (s.attempts.map Prod.fst).Nodup
  attempt_eq : ∀ e ∈ s.attempts, e.1 = e.2.attemptId
  attemptBound : ∀ e ∈ s.attempts, e.1 < s.nextAttemptId

variable {s : State}

theorem recordList_mutate (recordId : Nat) (f : SettlementRecord → SettlementRecord) :
    (s.mutate recordId f).recordList =
      Table.update (fun r => r.recordId == recordId) f s.recordList := by
  simp only [recordList, mutate, Table.update, List.map_map]
  rfl

theorem mem_recordList {r : SettlementRecord} (h : s.Wf) (hr : r ∈ s.recordList) : (r.profileKey, r) ∈ s.records := by
  obtain ⟨e, he, rfl⟩ := List.mem_map.mp hr
  rw [← h.key_eq e he]
  exact he

/-- `get` finds the record with the key. -/
theorem Wf.get_eq (h : s.Wf) (k : ProfileKey) : s.get k = Table.row SettlementRecord.profileKey k s.recordList := by
  have hkeys : (s.recordList.map SettlementRecord.profileKey).Nodup := by
    have : s.recordList.map SettlementRecord.profileKey = s.records.map Prod.fst := by
      rw [recordList, List.map_map]
      exact List.map_congr_left fun e he => (h.key_eq e he).symm
    rw [this]
    exact h.keys
  cases hrow : Table.row SettlementRecord.profileKey k s.recordList with
  | none =>
    rw [get, Dict.get_eq_none]
    intro e he hk
    have hmem : e.2 ∈ s.recordList := List.mem_map_of_mem he
    exact Table.row_eq_none.mp hrow e.2 hmem ((h.key_eq e he).symm.trans hk)
  | some r =>
    obtain ⟨hr, rfl⟩ := (Table.row_eq_some hkeys).mp hrow
    exact (Dict.get_eq_some h.keys).mpr (mem_recordList h hr)

/-- The index leads to a record with the exact key. -/
theorem Wf.index_get (h : s.Wf) {k : ReplayKey} {pk : ProfileKey} (hk : Dict.get s.providerFingerprintIndex k = some pk) :
    ∃ r, Dict.get s.records pk = some r ∧ r ∈ s.recordList ∧ r.replayKey = k := by
  obtain ⟨r, hr, hrk⟩ := h.index_sound _ (Dict.mem_of_get hk)
  exact ⟨r, (Dict.get_eq_some h.keys).mpr hr, List.mem_map_of_mem hr, hrk⟩

theorem Wf.index_get_replayKey (h : s.Wf) {r : SettlementRecord} (hr : r ∈ s.recordList) :
    Dict.get s.providerFingerprintIndex r.replayKey = some r.profileKey :=
  (Dict.get_eq_some h.index_keys).mpr (h.index_complete _ (mem_recordList h hr))

/-- Writing fields that are no keys keeps the invariant. -/
theorem Wf.mutate (h : s.Wf) (recordId : Nat) {f : SettlementRecord → SettlementRecord}
    (hid : ∀ r, (f r).recordId = r.recordId) (hp : ∀ r, (f r).profileKey = r.profileKey)
    (hk : ∀ r, (f r).replayKey = r.replayKey) : (s.mutate recordId f).Wf := by
  have hmem : ∀ e' ∈ (s.mutate recordId f).records, ∃ e ∈ s.records, e'.1 = e.1 ∧
      e'.2.recordId = e.2.recordId ∧ e'.2.profileKey = e.2.profileKey ∧ e'.2.replayKey = e.2.replayKey := by
    intro e' he'
    obtain ⟨e, he, rfl⟩ := List.mem_map.mp he'
    refine ⟨e, he, rfl, ?_⟩
    dsimp only
    split <;> simp [hid, hp, hk]
  refine ⟨?_, ?_, ?_, ?_, h.index_keys, ?_, ?_, h.attemptKeys, h.attempt_eq, h.attemptBound⟩
  · have : (s.mutate recordId f).records.map Prod.fst = s.records.map Prod.fst := by
      rw [State.mutate, List.map_map]
      rfl
    rw [this]
    exact h.keys
  · intro e' he'
    obtain ⟨e, he, h1, -, h3, -⟩ := hmem e' he'
    rw [h1, h3]
    exact h.key_eq e he
  · rw [recordList_mutate, Table.map_update hid]
    exact h.ids
  · intro e' he'
    obtain ⟨e, he, -, h2, -, -⟩ := hmem e' he'
    rw [h2]
    exact h.bound e he
  · intro e he
    obtain ⟨r, hr, hrk⟩ := h.index_sound e he
    refine ⟨if r.recordId == recordId then f r else r, List.mem_map.mpr ⟨_, hr, rfl⟩, ?_⟩
    split
    · exact (hk r).trans hrk
    · exact hrk
  · intro e' he'
    obtain ⟨e, he, h1, -, -, h4⟩ := hmem e' he'
    rw [h1, h4]
    exact h.index_complete e he

/-- A fresh record enters both dictionaries. -/
theorem Wf.insert (h : s.Wf) {r : SettlementRecord} (hid : r.recordId = s.nextRecordId)
    (hget : Dict.get s.records r.profileKey = none)
    (hindex : Dict.get s.providerFingerprintIndex r.replayKey = none) :
    Wf { s with
      records := s.records ++ [(r.profileKey, r)]
      providerFingerprintIndex := s.providerFingerprintIndex ++ [(r.replayKey, r.profileKey)]
      nextRecordId := s.nextRecordId + 1 } := by
  refine ⟨?_, ?_, ?_, ?_, ?_, ?_, ?_, h.attemptKeys, h.attempt_eq, h.attemptBound⟩
  · exact Table.nodup_append_fresh h.keys (Dict.get_eq_none.mp hget)
  · intro e he
    rcases List.mem_append.mp he with he | he
    · exact h.key_eq e he
    · rw [List.mem_singleton.mp he]
  · show ((s.records ++ [(r.profileKey, r)]).map Prod.snd |>.map SettlementRecord.recordId).Nodup
    rw [List.map_append]
    refine Table.nodup_append_fresh h.ids fun x hx => ?_
    obtain ⟨e, he, rfl⟩ := List.mem_map.mp hx
    show e.2.recordId ≠ r.recordId
    have := h.bound e he
    omega
  · intro e he
    show e.2.recordId < s.nextRecordId + 1
    rcases List.mem_append.mp he with he | he
    · exact Nat.lt_succ_of_lt (h.bound e he)
    · rw [List.mem_singleton.mp he, hid]
      exact Nat.lt_succ_self _
  · exact Table.nodup_append_fresh h.index_keys (Dict.get_eq_none.mp hindex)
  · intro e he
    rcases List.mem_append.mp he with he | he
    · obtain ⟨x, hx, hk⟩ := h.index_sound e he
      exact ⟨x, List.mem_append_left _ hx, hk⟩
    · rw [List.mem_singleton.mp he]
      exact ⟨r, List.mem_append_right _ (List.mem_singleton.mpr rfl), rfl⟩
  · intro e he
    rcases List.mem_append.mp he with he | he
    · exact List.mem_append_left _ (h.index_complete e he)
    · rw [List.mem_singleton.mp he]
      exact List.mem_append_right _ (List.mem_singleton.mpr rfl)

/-- The values of the dictionary of attempts. -/
def attemptList (s : State) : List SettlementAttemptRecord := s.attempts.map Prod.snd

theorem Wf.attemptIds (h : s.Wf) : (s.attemptList.map SettlementAttemptRecord.attemptId).Nodup := by
  have heq : s.attemptList.map SettlementAttemptRecord.attemptId = s.attempts.map Prod.fst := by
    rw [attemptList, List.map_map]
    exact List.map_congr_left fun e he => (h.attempt_eq e he).symm
  rw [heq]
  exact h.attemptKeys

/-- The attempts change and keep their keys. -/
theorem Wf.withAttempts (h : s.Wf) {attempts : List (Nat × SettlementAttemptRecord)} {next : Nat}
    (hk : (attempts.map Prod.fst).Nodup) (he : ∀ e ∈ attempts, e.1 = e.2.attemptId) (hb : ∀ e ∈ attempts, e.1 < next) :
    Wf { s with attempts := attempts, nextAttemptId := next } :=
  ⟨h.keys, h.key_eq, h.ids, h.bound, h.index_keys, h.index_sound, h.index_complete, hk, he, hb⟩

/-- Finishing an attempt is an update by its id. -/
theorem Wf.finish (h : s.Wf) (n : Nat) (status : SettlementAttemptStatus) (t e : Option String) (now : Instant) :
    (s.finishSettleAttempt n status t e now).Wf ∧
      (s.finishSettleAttempt n status t e now).recordList = s.recordList ∧
      (s.finishSettleAttempt n status t e now).attemptList =
        Table.update (fun a => a.attemptId == n) (SettlementAttemptRecord.finished status t e now) s.attemptList := by
  unfold finishSettleAttempt
  cases hget : Dict.get s.attempts n with
  | none =>
    refine ⟨h, rfl, (Table.update_of_none fun a ha => ?_).symm⟩
    obtain ⟨x, hx, rfl⟩ := List.mem_map.mp ha
    have hne := Dict.get_eq_none.mp hget x hx
    rw [h.attempt_eq x hx] at hne
    simpa using hne
  | some a =>
    -- the entry that is written is the only one with the key
    have hset : Dict.set s.attempts n (a.finished status t e now) =
        s.attempts.map fun x => (x.1, if x.2.attemptId == n then x.2.finished status t e now else x.2) := by
      rw [Dict.set, hget]
      apply List.map_congr_left
      intro x hx
      by_cases hk : x.1 = n
      · have hxa : Dict.get s.attempts x.1 = some x.2 := (Dict.get_eq_some h.attemptKeys).mpr hx
        rw [hk, hget] at hxa
        have hid : x.2.attemptId = n := (h.attempt_eq x hx).symm.trans hk
        simp [hk, hid, Option.some.inj hxa]
      · have hid : x.2.attemptId ≠ n := fun hid => hk ((h.attempt_eq x hx).trans hid)
        simp [hk, hid]
    simp only [hset]
    refine ⟨h.withAttempts ?_ ?_ ?_, rfl, ?_⟩
    · rw [List.map_map]
      exact h.attemptKeys
    · intro x hx
      obtain ⟨y, hy, rfl⟩ := List.mem_map.mp hx
      have := h.attempt_eq y hy
      dsimp only
      split <;> exact this
    · intro x hx
      obtain ⟨y, hy, rfl⟩ := List.mem_map.mp hx
      exact h.attemptBound y hy
    · simp only [attemptList, Table.update, List.map_map]
      rfl

theorem existing_mem {c : ClaimRequest} {r : SettlementRecord} (hex : store.existing s c = some r) :
    r ∈ s.recordList := by
  rw [SettlementStore.existing] at hex
  split at hex
  · rename_i r' hr'
    cases hex
    exact List.mem_map_of_mem (Dict.mem_of_get hr')
  · obtain ⟨k, hk, hr⟩ := Option.bind_eq_some_iff.mp hex
    exact List.mem_map_of_mem (Dict.mem_of_get hr)

/-- A claim that finds an object. -/
theorem claim_some {c : ClaimRequest} {r : SettlementRecord} (now : Instant)
    (hex : store.existing s c = some r) : s.claimForSettlement c now = .ok (s.claimExisting r now) := by
  rw [SettlementStore.existing] at hex
  unfold claimForSettlement
  split at hex
  · rename_i r' hr'
    cases hex
    change Dict.get s.records c.profileKey = some r at hr'
    rw [hr']
  · rename_i hnone
    change Dict.get s.records c.profileKey = none at hnone
    obtain ⟨k, hk, hr⟩ := Option.bind_eq_some_iff.mp hex
    simp only [hnone, hk, hr]

/-- A claim that finds nothing. -/
theorem Wf.claim_none (h : s.Wf) {c : ClaimRequest} (hex : store.existing s c = none) :
    Dict.get s.records c.profileKey = none ∧ Dict.get s.providerFingerprintIndex c.replayKey = none := by
  rw [SettlementStore.existing] at hex
  split at hex
  · cases hex
  · rename_i hnone
    refine ⟨hnone, ?_⟩
    cases hk : Dict.get s.providerFingerprintIndex c.replayKey with
    | none => rfl
    | some k =>
      obtain ⟨r, hr, -⟩ := h.index_get hk
      have hsome : s.getByProviderFingerprint c.replayKey = some r := by
        rw [getByProviderFingerprint, hk, Option.bind_some, hr]
      exact absurd (hsome.symm.trans hex) (by simp)

/-- On a fresh record the partial writes of a mark come to the whole finalisation. -/
theorem Wf.mark (h : s.Wf) {r row : SettlementRecord} {f : Finalization} (now : Instant)
    {g : SettlementRecord → SettlementRecord} (hid : ∀ x, (g x).recordId = x.recordId)
    (hp : ∀ x, (g x).profileKey = x.profileKey) (hk : ∀ x, (g x).replayKey = x.replayKey)
    (hrow : Table.row SettlementRecord.recordId r.recordId s.recordList = some row)
    (hg : g row = row.finalized f now) :
    After Wf recordList attemptList (s.mutate r.recordId g)
      (Table.update (fun x => x.recordId == r.recordId) (SettlementRecord.finalized f now) s.recordList)
      s.attemptList := by
  refine ⟨h.mutate r.recordId hid hp hk, ?_, rfl⟩
  rw [recordList_mutate, ← Table.update_const h.ids hrow, hg, Table.update_const h.ids hrow]

theorem Wf.markRecord (h : s.Wf) {r row : SettlementRecord} {f : Finalization} (now : Instant) (hfresh : row.Fresh)
    (hf : f.Clean) (hrow : Table.row SettlementRecord.recordId r.recordId s.recordList = some row) :
    After Wf recordList attemptList (steps.markRecord s r f now)
      (Table.update (fun x => x.recordId == r.recordId) (SettlementRecord.finalized f now) s.recordList)
      s.attemptList := by
  cases hf with
  | settled | submitted =>
    simp only [SeparateSteps.markRecord, steps, markSettled, markSubmitted]
    refine h.mark now ?_ ?_ ?_ hrow ?_
    · exact fun _ => rfl
    · exact fun _ => rfl
    · exact fun _ => rfl
    · simp only [SettlementRecord.finalized, hfresh.errorReason]
  | settleFailed | unknown =>
    simp only [SeparateSteps.markRecord, steps, markSettleFailed, markUnknown]
    refine h.mark now ?_ ?_ ?_ hrow ?_
    · exact fun _ => rfl
    · exact fun _ => rfl
    · exact fun _ => rfl
    · simp only [SettlementRecord.finalized, hfresh.transaction, hfresh.payer]

end State

/-- The in-memory store keeps the laws. -/
def lawful : LawfulStore State where
  store := store
  ops := steps
  steps_eq := rfl
  records := State.recordList
  attempts := State.attemptList
  Inv := State.Wf
  init := by
    refine ⟨?_, rfl, rfl⟩
    constructor <;> simp [store, State.recordList]
  ids := fun h => h.ids
  attemptIds := fun h => h.attemptIds
  get_eq := fun k h => h.get_eq k
  lookup_sound := by
    intro s k r h hr
    obtain ⟨pk, hpk, hget⟩ := Option.bind_eq_some_iff.mp hr
    obtain ⟨r', hr', hmem, hk⟩ := h.index_get hpk
    obtain rfl := Option.some.inj (hr'.symm.trans hget)
    exact ⟨hmem, by rw [hk]⟩
  lookup_complete := by
    intro s r h hr
    refine ⟨r, ?_⟩
    show s.getByProviderFingerprint r.replayKey = some r
    rw [State.getByProviderFingerprint, h.index_get_replayKey hr, Option.bind_some]
    exact (Dict.get_eq_some h.keys).mpr (State.mem_recordList h hr)
  held_eq := by
    intro s r row _ hrow
    left
    show (Table.row SettlementRecord.recordId r.recordId s.recordList).getD r = row
    rw [hrow, Option.getD_some]
  claim_duplicate := by
    intro s c r now h hex
    refine ⟨_, State.claim_some now hex, ?_, State.recordList_mutate _ _, rfl⟩
    exact h.mutate (f := SettlementRecord.recordDuplicateClaim now) _ (fun _ => rfl) (fun _ => rfl) fun _ => rfl
  claim_fresh := by
    intro s c now h hex
    obtain ⟨hget, hindex⟩ := h.claim_none hex
    have hclaim : s.claimForSettlement c now = .ok ((c.freshRecord s.nextRecordId now, .claimed),
        { s with
          records := s.records ++ [(c.profileKey, c.freshRecord s.nextRecordId now)]
          providerFingerprintIndex := s.providerFingerprintIndex ++ [(c.replayKey, c.profileKey)]
          nextRecordId := s.nextRecordId + 1 }) := by
      simp only [State.claimForSettlement, hget, hindex, Dict.set_of_none hget, Dict.set_of_none hindex]
    have hwf := h.insert (r := c.freshRecord s.nextRecordId now) rfl hget hindex
    refine ⟨s.nextRecordId, _, hclaim, ?_, hwf, ?_, rfl⟩
    · intro x hx
      obtain ⟨e, he, rfl⟩ := List.mem_map.mp hx
      exact Nat.ne_of_lt (h.bound e he)
    · simp [State.recordList]
  start_eq := by
    intro s r traceId now h
    have hfresh : ∀ x ∈ s.attemptList, x.attemptId ≠ s.nextAttemptId := by
      intro x hx
      obtain ⟨e, he, rfl⟩ := List.mem_map.mp hx
      rw [← h.attempt_eq e he]
      exact Nat.ne_of_lt (h.attemptBound e he)
    have hnone : Dict.get s.attempts s.nextAttemptId = none :=
      Dict.get_eq_none.mpr fun e he => Nat.ne_of_lt (h.attemptBound e he)
    refine ⟨s.nextAttemptId, _, rfl, hfresh, ?_⟩
    simp only [Dict.set_of_none hnone]
    refine ⟨h.withAttempts ?_ ?_ ?_, rfl, by simp [State.attemptList]⟩
    · exact Table.nodup_append_fresh h.attemptKeys (Dict.get_eq_none.mp hnone)
    · intro e he
      rcases List.mem_append.mp he with he | he
      · exact h.attempt_eq e he
      · rw [List.mem_singleton.mp he]
        rfl
    · intro e he
      rcases List.mem_append.mp he with he | he
      · exact Nat.lt_succ_of_lt (h.attemptBound e he)
      · rw [List.mem_singleton.mp he]
        exact Nat.lt_succ_self _
  mark_eq := fun now h _ hrow hf hr => h.markRecord now hrow hf hr
  finish_eq := by
    intro s n status t e now h
    obtain ⟨hwf, hr, ha⟩ := h.finish n status t e now
    exact ⟨hwf, hr, ha⟩

end HostedFacilitator.InMemory
