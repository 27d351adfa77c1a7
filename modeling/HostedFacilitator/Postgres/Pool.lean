import HostedFacilitator.Lib.Holdings
import HostedFacilitator.Lib.Transition
import HostedFacilitator.Python.Value

/-!
# The connection pool

`PostgresSettlementStorePool` under any number of threads. A call is cut where another thread can come in between: at the
blocks under `self._lock`, at the operations of the queue, at `_connect` and `_close_connection`, and at the reading and
the writing of `_released`, which no lock guards. `initialize` and `health_check` are a checkout and a release.

* `pool_safe`: in a run in which no put comes too late and no store is released by two threads at once, at most
  `max_size` connections are open, no connection is in two hands, and a closed pool without users has none open;
* `late_put_leaks`: a release reads that the pool is open, the pool is closed and drained, and the release puts its
  connection into the drained queue;
* `store_closed_twice`: two threads close one store, and its connection is handed out twice.
-/

namespace HostedFacilitator.Postgres.Pool

open Holdings

/-- The arguments of `__init__` that decide anything; it raises unless `max_size` is positive. -/
structure Config where
  maxSize : Nat
  positive : 0 < maxSize

/-- Where a call of a thread stands; connections are numbered in the order in which they were opened. -/
inductive Phase where
  -- `store`
  | checkingOut
  | connecting
  | connectFailed (error : PyErr)
  | waiting
  | handing (connection : Nat)
  | handedOut
  -- `close` of the `k`-th pooled connection, and `_release`
  | closingStore (k : Nat)
  | markingReleased (k : Nat)
  | releasing (connection : Nat)
  | putting (connection : Nat)
  | discarding (connection : Nat)
  | forgetting
  | storeClosed
  -- `close` of the pool
  | closingPool
  | draining
  | shutting (connection : Nat)
  | poolClosed
  | raised (error : PyErr)
  deriving DecidableEq

/-- `_PooledPostgresConnection`. -/
structure PooledConnection where
  connection : Nat
  released : Bool := false

/-- The pool, the connections that are open and how many ever were, the stores handed out and the calls. -/
structure State where
  idle : List Nat := []
  total : Int := 0
  closed : Bool := false
  live : List Nat := []
  opened : Nat := 0
  stores : List PooledConnection := []
  calls : List Phase := []

/-- A thread calls the pool or a store, or a call goes on; `fault` is what a connect raises. -/
inductive Event where
  | store
  | closeStore (k : Nat)
  | close
  | step (i : Nat) (fault : Option PyErr)

variable (config : Config)

/-- A call up to the next point where another thread can come in. -/
def advance (fault : Option PyErr) (s : State) : Phase → Option (State × Phase)
  | .checkingOut =>
    if s.closed then some (s, .raised (.runtime "Postgres settlement store pool is closed"))
    else match s.idle with
      | c :: idle => some ({ s with idle := idle }, .handing c)
      | [] =>
        if s.total < config.maxSize then some ({ s with total := s.total + 1 }, .connecting)
        else some (s, .waiting)
  | .connecting => match fault with
    | none => some ({ s with live := s.opened :: s.live, opened := s.opened + 1 }, .handing s.opened)
    | some e => some (s, .connectFailed e)
  | .connectFailed e => some ({ s with total := s.total - 1 }, .raised e)
  | .waiting => match s.idle with
    | c :: idle => some ({ s with idle := idle }, .handing c)
    -- `queue.Empty` is raised only when the queue is empty at the end of the timeout
    | [] => some (s, .raised (.runtime "Postgres settlement store pool checkout timed out"))
  | .handing c => some ({ s with stores := s.stores ++ [{ connection := c }] }, .handedOut)
  | .closingStore k => s.stores[k]?.map fun store =>
    if store.released then (s, .storeClosed) else (s, .markingReleased k)
  | .markingReleased k => s.stores[k]?.map fun store =>
    ({ s with stores := s.stores.set k { store with released := true } }, .releasing store.connection)
  | .releasing c => if s.closed then some (s, .discarding c) else some (s, .putting c)
  | .putting c =>
    if s.idle.length < config.maxSize then some ({ s with idle := c :: s.idle }, .storeClosed)
    else some (s, .discarding c)
  | .discarding c => some ({ s with live := s.live.erase c }, .forgetting)
  | .forgetting => some ({ s with total := s.total - 1 }, .storeClosed)
  | .closingPool => some ({ s with closed := true }, .draining)
  | .draining => match s.idle with
    | c :: idle => some ({ s with idle := idle }, .shutting c)
    | [] => some (s, .poolClosed)
  | .shutting c => some ({ s with live := s.live.erase c }, .draining)
  | .handedOut | .storeClosed | .poolClosed | .raised _ => none

def begin (s : State) (p : Phase) : State := { s with calls := s.calls ++ [p] }

def next (s : State) : Event → Option State
  | .store => some (begin s .checkingOut)
  | .closeStore k => if k < s.stores.length then some (begin s (.closingStore k)) else none
  | .close => some (begin s .closingPool)
  | .step i fault => s.calls[i]?.bind fun p =>
    (advance config fault s p).map fun (s', p') => { s' with calls := s'.calls.set i p' }

def machine : Transition.Machine State Event where
  start := {}
  next := next config

/-! ## What the pool promises -/

/-- The connection that a call has in hand. -/
def Phase.hand : Phase → List Nat
  | .handing c | .releasing c | .putting c | .discarding c | .shutting c => [c]
  | _ => []

/-- The connection of a store that is in use. -/
def PooledConnection.hand (store : PooledConnection) : List Nat :=
  if store.released then [] else [store.connection]

/-- The connections that stores and calls hold. -/
def State.held (s : State) : List Nat := Holdings.held PooledConnection.hand s.stores ++ Holdings.held Phase.hand s.calls

/-- The call has returned or raised. -/
def Phase.over : Phase → Bool
  | .handedOut | .storeClosed | .poolClosed | .raised _ => true
  | _ => false

/-- No call is under way and every store that was handed out has been closed. -/
def State.Quiet (s : State) : Prop := (∀ p ∈ s.calls, p.over = true) ∧ ∀ store ∈ s.stores, store.released = true

structure Safe (s : State) : Prop where
  bounded : s.live.length ≤ config.maxSize
  exclusive : (s.held ++ s.idle).Nodup
  closes : .poolClosed ∈ s.calls → s.Quiet → s.live = []

/-- A `close` of the pool that is under way. -/
def Phase.closesPool : Phase → Nat
  | .closingPool | .draining | .shutting _ => 1
  | _ => 0

/-- A checkout that waits for an idle connection. -/
def Phase.waits : Phase → Nat
  | .waiting => 1
  | _ => 0

/-- A `close` of the `k`-th store that has read `_released` and not written it yet. -/
def Phase.marks (k : Nat) : Phase → Nat
  | .markingReleased j => if j = k then 1 else 0
  | _ => 0

def State.closers (s : State) : Nat := weight Phase.closesPool s.calls

def State.waiters (s : State) : Nat := weight Phase.waits s.calls

def State.markers (k : Nat) (s : State) : Nat := weight (Phase.marks k) s.calls

/-- A release puts its connection into the queue of an open pool, or somebody is left who takes it from there; and a
store is closed by one thread at a time. -/
def Phase.orderly (s : State) : Phase → Bool
  | .putting _ => !s.closed || 0 < s.closers || s.idle.length < s.waiters
  | .closingStore k => s.markers k == 0
  | _ => true

def Orderly (s : State) : Event → Prop
  | .step i _ => s.calls[i]?.all (Phase.orderly s) = true
  | .store | .closeStore _ | .close => True

instance (s : State) : (e : Event) → Decidable (Orderly s e)
  | .step i _ => inferInstanceAs (Decidable (s.calls[i]?.all (Phase.orderly s) = true))
  | .store | .closeStore _ | .close => inferInstanceAs (Decidable True)

/-! ## The steps of a call -/

/-- What `advance` can do: the state and the phase before and after. -/
inductive Move (s : State) : Phase → State → Phase → Prop
  | refused : s.closed = true → Move s .checkingOut s (.raised (.runtime "Postgres settlement store pool is closed"))
  | reuse {c idle} : s.closed = false → s.idle = c :: idle → Move s .checkingOut { s with idle := idle } (.handing c)
  | reserve : s.idle = [] → s.total < config.maxSize → Move s .checkingOut { s with total := s.total + 1 } .connecting
  | wait : s.closed = false → s.idle = [] → Move s .checkingOut s .waiting
  | connect : Move s .connecting { s with live := s.opened :: s.live, opened := s.opened + 1 } (.handing s.opened)
  | connectRaises {e} : Move s .connecting s (.connectFailed e)
  | unreserve {e} : Move s (.connectFailed e) { s with total := s.total - 1 } (.raised e)
  | served {c idle} : s.idle = c :: idle → Move s .waiting { s with idle := idle } (.handing c)
  | timeout : s.idle = [] →
      Move s .waiting s (.raised (.runtime "Postgres settlement store pool checkout timed out"))
  | hand {c} : Move s (.handing c) { s with stores := s.stores ++ [{ connection := c }] } .handedOut
  | again {k store} : s.stores[k]? = some store → store.released = true → Move s (.closingStore k) s .storeClosed
  | check {k store} : s.stores[k]? = some store → store.released = false →
      Move s (.closingStore k) s (.markingReleased k)
  | mark {k store} : s.stores[k]? = some store → Move s (.markingReleased k)
      { s with stores := s.stores.set k { store with released := true } } (.releasing store.connection)
  | discard {c} : s.closed = true → Move s (.releasing c) s (.discarding c)
  | keep {c} : s.closed = false → Move s (.releasing c) s (.putting c)
  | put {c} : Move s (.putting c) { s with idle := c :: s.idle } .storeClosed
  | full {c} : Move s (.putting c) s (.discarding c)
  | drop {c} : Move s (.discarding c) { s with live := s.live.erase c } .forgetting
  | forget : Move s .forgetting { s with total := s.total - 1 } .storeClosed
  | shut : Move s .closingPool { s with closed := true } .draining
  | drain {c idle} : s.idle = c :: idle → Move s .draining { s with idle := idle } (.shutting c)
  | drained : s.idle = [] → Move s .draining s .poolClosed
  | drop' {c} : Move s (.shutting c) { s with live := s.live.erase c } .draining

variable {config} {s s' t : State} {p p' : Phase} {fault : Option PyErr}

theorem advance_move (h : advance config fault s p = some (s', p')) : Move config s p s' p' := by
  cases p with
  | checkingOut =>
    simp only [advance] at h
    split at h
    · cases h
      exact .refused ‹_›
    rename_i hclosed
    have hopen : s.closed = false := Bool.eq_false_iff.mpr hclosed
    split at h
    · cases h
      exact .reuse hopen ‹_›
    · split at h
      · cases h
        exact .reserve ‹_› ‹_›
      · cases h
        exact .wait hopen ‹_›
  | connecting =>
    simp only [advance] at h
    split at h <;> cases h
    · exact .connect
    · exact .connectRaises
  | waiting =>
    simp only [advance] at h
    split at h <;> cases h
    · exact .served ‹_›
    · exact .timeout ‹_›
  | closingStore k =>
    simp only [advance] at h
    obtain ⟨store, hstore, h⟩ := Option.map_eq_some_iff.mp h
    split at h <;> cases h
    · exact .again hstore ‹_›
    · exact .check hstore (Bool.eq_false_iff.mpr ‹_›)
  | markingReleased k =>
    simp only [advance] at h
    obtain ⟨store, hstore, h⟩ := Option.map_eq_some_iff.mp h
    cases h
    exact .mark hstore
  | releasing c =>
    simp only [advance] at h
    split at h <;> cases h
    · exact .discard ‹_›
    · exact .keep (Bool.eq_false_iff.mpr ‹_›)
  | putting c =>
    simp only [advance] at h
    split at h <;> cases h
    · exact .put
    · exact .full
  | draining =>
    simp only [advance] at h
    split at h <;> cases h
    · exact .drain ‹_›
    · exact .drained ‹_›
  | connectFailed e => cases h; exact .unreserve
  | handing c => cases h; exact .hand
  | discarding c => cases h; exact .drop
  | forgetting => cases h; exact .forget
  | closingPool => cases h; exact .shut
  | shutting c => cases h; exact .drop'
  | handedOut | storeClosed | poolClosed | raised => cases h

/-- An event starts a call, or moves one. -/
theorem next_cases {e : Event} (h : next config s e = some t) :
    (∃ p, (p = .checkingOut ∨ (∃ k, p = .closingStore k) ∨ p = .closingPool) ∧ t = begin s p) ∨
      ∃ i fault p s' p', e = .step i fault ∧ s.calls[i]? = some p ∧ Move config s p s' p' ∧
        t = { s' with calls := s'.calls.set i p' } := by
  cases e with
  | store =>
    cases h
    exact Or.inl ⟨_, Or.inl rfl, rfl⟩
  | closeStore k =>
    simp only [next] at h
    split at h <;> cases h
    exact Or.inl ⟨_, Or.inr (Or.inl ⟨k, rfl⟩), rfl⟩
  | close =>
    cases h
    exact Or.inl ⟨_, Or.inr (Or.inr rfl), rfl⟩
  | step i fault =>
    simp only [next] at h
    obtain ⟨p, hp, h⟩ := Option.bind_eq_some_iff.mp h
    obtain ⟨⟨s', p'⟩, hadvance, rfl⟩ := Option.map_eq_some_iff.mp h
    exact Or.inr ⟨i, fault, p, s', p', rfl, hp, advance_move hadvance, rfl⟩

theorem Move.calls (h : Move config s p s' p') : s'.calls = s.calls := by
  cases h <;> rfl

/-! ## The invariant of orderly runs -/

/-- A place in `_total` that no open connection uses. -/
def Phase.reserves : Phase → Nat
  | .connecting | .connectFailed _ | .forgetting => 1
  | _ => 0

/-- The phases of `close` after it has written the flag. -/
def Phase.closed : Phase → Bool
  | .draining | .shutting _ | .poolClosed => true
  | _ => false

structure Inv (config : Config) (s : State) : Prop where
  /-- Every open connection is in exactly one hand or idle, and no other is. -/
  owned : ∀ c, s.held.count c + s.idle.count c = s.live.count c
  distinct : s.live.Nodup
  known : ∀ c ∈ s.live, c < s.opened
  budget : (s.live.length : Int) + weight Phase.reserves s.calls ≤ s.total
  bounded : s.total ≤ config.maxSize
  /-- One call at most is about to write `_released`, and it is still unwritten. -/
  marking : ∀ k, s.markers k ≤ 1
  unmarked : ∀ k, 0 < s.markers k → ∃ store, s.stores[k]? = some store ∧ store.released = false
  /-- Somebody takes the idle connections of a closed pool. -/
  taken : s.closed = true → 0 < s.closers ∨ s.idle.length ≤ s.waiters
  flagged : ∀ p ∈ s.calls, p.closed = true → s.closed = true

theorem inv_start : Inv config {} := by
  constructor <;> simp [State.held, Holdings.held, State.markers]

/-- A call that begins holds nothing. -/
theorem Inv.begin (h : Inv config s) (hp : p = .checkingOut ∨ (∃ k, p = .closingStore k) ∨ p = .closingPool) :
    Inv config (begin s p) := by
  have hnew : p.hand = [] ∧ p.reserves = 0 ∧ p.closed = false ∧ p.waits = 0 ∧ ∀ k, p.marks k = 0 := by
    rcases hp with rfl | ⟨k, rfl⟩ | rfl <;> exact ⟨rfl, rfl, rfl, rfl, fun _ => rfl⟩
  obtain ⟨hhand, hreserves, hclosed, hwaits, hmarks⟩ := hnew
  have hmarkers (k : Nat) : (Pool.begin s p).markers k = s.markers k := by
    simp [Pool.begin, State.markers, hmarks]
  refine ⟨fun c => ?_, h.distinct, h.known, ?_, h.bounded, fun k => ?_, fun k => ?_, fun hc => ?_, ?_⟩
  · have hc := h.owned c
    simp only [State.held, List.count_append, Pool.begin, count_held_snoc, hhand, List.count_nil] at hc ⊢
    exact hc
  · simpa [Pool.begin, hreserves] using h.budget
  · rw [hmarkers]
    exact h.marking k
  · rw [hmarkers]
    exact h.unmarked k
  · have htaken := h.taken hc
    simp only [State.closers, State.waiters, Pool.begin, weight_snoc, hwaits] at htaken ⊢
    omega
  · intro q hq
    rcases List.mem_append.mp hq with hq | hq
    · exact h.flagged q hq
    · rw [List.mem_singleton.mp hq, hclosed]
      simp

section Step

variable {i : Nat} (h : Inv config s) (hp : s.calls[i]? = some p) (hm : Move config s p s' p')

include h hp

/-- What a call has in hand is open, and nobody else has it. -/
theorem Inv.hand_live {c : Nat} (hc : p.hand = [c]) : c ∈ s.live := by
  have howned := h.owned c
  have hle : (p.hand).count c ≤ (Holdings.held Phase.hand s.calls).count c := by
    rw [count_held]
    exact le_weight (w := fun p => p.hand.count c) hp
  rw [hc, List.count_singleton_self] at hle
  rw [State.held, List.count_append] at howned
  exact List.count_pos_iff.mp (by omega)

include hm

theorem Inv.owned_move (c : Nat) :
    (State.held { s' with calls := s.calls.set i p' }).count c + s'.idle.count c = s'.live.count c := by
  have howned := h.owned c
  have hset := count_held_set Phase.hand c hp p'
  simp only [State.held, List.count_append] at howned ⊢
  cases hm with
  | refused | connectRaises | unreserve | timeout | again | check | discard | keep | full | forget | shut | drained
    | wait | reserve =>
    simp only [Phase.hand, List.count_nil] at hset ⊢
    omega
  | reuse _ hidle | served hidle | drain hidle =>
    simp only [Phase.hand, List.count_nil] at hset ⊢
    rw [hidle, List.count_cons] at howned
    rw [List.count_singleton] at hset
    omega
  | connect =>
    simp only [Phase.hand, List.count_nil] at hset ⊢
    simp only [List.count_cons, List.count_nil] at hset ⊢
    omega
  | hand =>
    simp only [Phase.hand, List.count_nil] at hset ⊢
    simp only [count_held_snoc, PooledConnection.hand, Bool.false_eq_true, if_false]
    omega
  | @mark k store hstore =>
    have hunmarked : store.released = false := by
      have hpos : 0 < s.markers k := weight_pos.mpr ⟨_, List.mem_of_getElem? hp, by simp [Phase.marks]⟩
      obtain ⟨store', hstore', hreleased⟩ := h.unmarked k hpos
      rw [hstore] at hstore'
      cases hstore'
      exact hreleased
    have hstores := count_held_set PooledConnection.hand c hstore { store with released := true }
    simp only [PooledConnection.hand, hunmarked, if_true, Bool.false_eq_true, if_false, List.count_nil] at hstores
    simp only [Phase.hand, List.count_nil] at hset ⊢
    omega
  | put =>
    simp only [Phase.hand, List.count_nil] at hset ⊢
    rw [List.count_cons]
    rw [List.count_singleton] at hset
    omega
  | @drop d | @drop' d =>
    have hlive : d ∈ s.live := h.hand_live hp rfl
    have hpos : 0 < s.live.count d := List.count_pos_iff.mpr hlive
    simp only [Phase.hand, List.count_nil] at hset ⊢
    rw [List.count_singleton] at hset
    rw [List.count_erase]
    by_cases hdc : d = c
    · subst hdc
      simp only [beq_self_eq_true, if_true] at hset ⊢
      omega
    · simp only [beq_iff_eq, hdc, if_false] at hset ⊢
      omega

theorem Inv.budget_move :
    (s'.live.length : Int) + weight Phase.reserves (s.calls.set i p') ≤ s'.total ∧ s'.total ≤ config.maxSize := by
  have hset := weight_set (w := Phase.reserves) hp p'
  have hbudget := h.budget
  have hbounded := h.bounded
  cases hm with
  | drop | drop' =>
    have hlen := List.length_erase_of_mem (h.hand_live hp rfl)
    have hpos := List.length_pos_of_mem (h.hand_live hp rfl)
    simp only [Phase.reserves, Nat.add_zero] at hset
    simp only [hlen]
    omega
  | connect =>
    simp only [Phase.reserves, Nat.add_zero] at hset
    simp only [List.length_cons]
    omega
  | reserve =>
    simp only [Phase.reserves, Nat.add_zero] at hset ⊢
    omega
  | _ =>
    simp only [Phase.reserves, Nat.add_zero] at hset ⊢
    omega

theorem Inv.live_move : s'.live.Nodup ∧ ∀ c ∈ s'.live, c < s'.opened := by
  have hdistinct := h.distinct
  have hknown := h.known
  cases hm with
  | connect =>
    refine ⟨List.nodup_cons.mpr ⟨fun hmem => ?_, hdistinct⟩, fun c hc => ?_⟩
    · exact Nat.lt_irrefl _ (hknown _ hmem)
    · rcases List.mem_cons.mp hc with rfl | hc
      · exact Nat.lt_succ_self _
      · exact Nat.lt_succ_of_lt (hknown c hc)
  | drop | drop' => exact ⟨hdistinct.erase _, fun c hc => hknown c (List.mem_of_mem_erase hc)⟩
  | _ => exact ⟨hdistinct, hknown⟩

/-- Only a call that has just read `_released` counts as marking, and it is alone when the run is orderly. -/
theorem Inv.marking_move (ho : ∀ k, p = .closingStore k → s.markers k = 0) (k : Nat) :
    weight (Phase.marks k) (s.calls.set i p') ≤ 1 ∧
      (0 < weight (Phase.marks k) (s.calls.set i p') →
        ∃ store, s'.stores[k]? = some store ∧ store.released = false) := by
  have hset := weight_set (w := Phase.marks k) hp p'
  have hone := h.marking k
  have hunmarked := h.unmarked k
  unfold State.markers at hone hunmarked ho
  cases hm with
  | @check j store hstore hreleased =>
    have hnone := ho j rfl
    simp only [Phase.marks, Nat.add_zero] at hset
    by_cases hjk : j = k
    · subst hjk
      rw [if_pos rfl] at hset
      exact ⟨by omega, fun _ => ⟨store, hstore, hreleased⟩⟩
    · rw [if_neg hjk] at hset
      rw [hset]
      exact ⟨hone, hunmarked⟩
  | @mark j store hstore =>
    simp only [Phase.marks, Nat.add_zero] at hset ⊢
    by_cases hjk : j = k
    · subst hjk
      rw [if_pos rfl] at hset
      exact ⟨by omega, by omega⟩
    · rw [if_neg hjk, Nat.add_zero] at hset
      rw [hset, List.getElem?_set_ne hjk]
      exact ⟨hone, hunmarked⟩
  | hand =>
    simp only [Phase.marks, Nat.add_zero] at hset ⊢
    rw [hset]
    refine ⟨hone, fun hpos => ?_⟩
    obtain ⟨store, hstore, hreleased⟩ := hunmarked hpos
    exact ⟨store, List.getElem?_append_left (List.getElem?_eq_some_iff.mp hstore).1 ▸ hstore, hreleased⟩
  | _ =>
    simp only [Phase.marks, Nat.add_zero] at hset ⊢
    rw [hset]
    exact ⟨hone, hunmarked⟩

/-- Whoever is left to take the idle connections of a closed pool leaves only when there are none. -/
theorem Inv.taken_move (ho : ∀ c, p = .putting c → s.closed = true → 0 < s.closers ∨ s.idle.length < s.waiters)
    (hclosed : s'.closed = true) :
    0 < weight Phase.closesPool (s.calls.set i p') ∨ s'.idle.length ≤ weight Phase.waits (s.calls.set i p') := by
  have hclosers := weight_set (w := Phase.closesPool) hp p'
  have hwaiters := weight_set (w := Phase.waits) hp p'
  have htaken := h.taken
  unfold State.closers State.waiters at htaken ho
  cases hm with
  | shut =>
    have hself : 1 ≤ weight Phase.closesPool s.calls := le_weight (w := Phase.closesPool) hp
    simp only [Phase.closesPool] at hclosers
    omega
  | reuse hopen | wait hopen | keep hopen =>
    rw [hopen] at hclosed
    cases hclosed
  | reserve hidle | timeout hidle | drained hidle =>
    simp only [hidle, List.length_nil]
    exact Or.inr (Nat.zero_le _)
  | served hidle | drain hidle =>
    have htaken := htaken hclosed
    simp only [Phase.closesPool, Phase.waits, Nat.add_zero] at hclosers hwaiters ⊢
    rw [hidle, List.length_cons] at htaken
    omega
  | @put c =>
    have hput := ho c rfl hclosed
    simp only [Phase.closesPool, Phase.waits, Nat.add_zero, List.length_cons] at hclosers hwaiters ⊢
    omega
  | _ =>
    have htaken := htaken hclosed
    simp only [Phase.closesPool, Phase.waits, Nat.add_zero] at hclosers hwaiters ⊢
    omega

theorem Inv.flagged_move : ∀ q ∈ s.calls.set i p', q.closed = true → s'.closed = true := by
  have hmono : s.closed = true → s'.closed = true := by
    cases hm with
    | shut => exact fun _ => rfl
    | _ => exact id
  intro q hq hqc
  rcases List.mem_or_eq_of_mem_set hq with hq | rfl
  · exact hmono (h.flagged q hq hqc)
  · have hpc := h.flagged p (List.mem_of_getElem? hp)
    cases hm with
    | shut => rfl
    | drain | drained | drop' => exact hpc rfl
    | _ => cases hqc

end Step

/-- An orderly event keeps the invariant. -/
theorem Inv.next {e : Event} (h : Inv config s) (ho : Orderly s e) (hn : next config s e = some t) : Inv config t := by
  rcases next_cases hn with ⟨p, hp, rfl⟩ | ⟨i, fault, p, s', p', rfl, hp, hm, rfl⟩
  · exact h.begin hp
  · rw [hm.calls]
    simp only [Orderly, hp, Option.all_some] at ho
    have hcheck : ∀ k, p = .closingStore k → s.markers k = 0 := by
      rintro k rfl
      simpa [Phase.orderly] using ho
    have hput : ∀ c, p = .putting c → s.closed = true → 0 < s.closers ∨ s.idle.length < s.waiters := by
      rintro c rfl hclosed
      simpa [Phase.orderly, hclosed] using ho
    obtain ⟨hbudget, hbounded⟩ := h.budget_move hp hm
    obtain ⟨hdistinct, hknown⟩ := h.live_move hp hm
    have htaken := h.taken_move hp hm hput
    have hflagged := h.flagged_move hp hm
    exact ⟨h.owned_move hp hm, hdistinct, hknown, hbudget, hbounded, fun k => (h.marking_move hp hm hcheck k).1,
      fun k => (h.marking_move hp hm hcheck k).2, htaken, hflagged⟩

/-- A state with the invariant is safe. -/
theorem Inv.safe (h : Inv config s) : Safe config s := by
  have hperm : (s.held ++ s.idle).Perm s.live := by
    rw [List.perm_iff_count]
    intro c
    rw [List.count_append]
    exact h.owned c
  refine ⟨?_, hperm.nodup_iff.mpr h.distinct, fun hreturned hquiet => ?_⟩
  · have hbudget := h.budget
    have hbounded := h.bounded
    omega
  · have hover {w : Phase → Nat} (hw : ∀ p, p.over = true → w p = 0) : weight w s.calls = 0 := by
      refine Nat.eq_zero_of_not_pos fun hpos => ?_
      obtain ⟨p, hp, hpos⟩ := weight_pos.mp hpos
      rw [hw p (hquiet.1 p hp)] at hpos
      exact Nat.lt_irrefl _ hpos
    have hclosers : s.closers = 0 := hover fun p hp => by cases p <;> first | rfl | cases hp
    have hwaiters : s.waiters = 0 := hover fun p hp => by cases p <;> first | rfl | cases hp
    have hidle : s.idle = [] := by
      have htaken := h.taken (h.flagged _ hreturned rfl)
      exact List.length_eq_zero_iff.mp (by omega)
    have hheld : s.held = [] := by
      refine List.append_eq_nil_iff.mpr ⟨List.flatMap_eq_nil_iff.mpr fun store hs => ?_,
        List.flatMap_eq_nil_iff.mpr fun p hp => ?_⟩
      · rw [PooledConnection.hand, hquiet.2 store hs, if_pos rfl]
      · have hp := hquiet.1 p hp
        cases p <;> first | rfl | cases hp
    rw [hheld, hidle] at hperm
    exact hperm.nil_eq.symm

/-- **Safety of the pool**: in every orderly run at most `max_size` connections are open at any time, no connection is
in two hands or in a hand and idle, and once the pool has been closed and nobody uses it, every connection is closed. -/
theorem pool_safe {es : List Event} (h : (machine config).Reaches es s)
    (ho : (machine config).Along Orderly {} es) : Safe config s := by
  have hinv : Inv config s := by
    refine h.invariant_of inv_start ?_ ho
    intro s e t _ hi ho hn
    exact hi.next ho hn
  exact hinv.safe

def pairConfig : Config := ⟨2, by decide⟩

/-- A run whose state `view` can look at. -/
theorem reaches_view {es : List Event} {α : Type} {view : State → α} {a : α}
    (h : ((machine pairConfig).run {} es).map view = some a) : ∃ s, (machine pairConfig).Reaches es s ∧ view s = a :=
  Option.map_eq_some_iff.mp h

/-- What a thread sees that waits for the pool to be closed: nothing is under way, all stores are closed. -/
theorem quiet_iff : s.Quiet ↔ s.calls.all Phase.over = true ∧ s.stores.all (·.released) = true := by
  simp [State.Quiet]

/-- Two stores; the second one is closed after the pool, and its connection with it. -/
def orderlyEvents : List Event :=
  [.store, .step 0 none, .step 0 none, .step 0 none, .store, .step 1 none, .step 1 none, .step 1 none,
    .closeStore 0, .step 2 none, .step 2 none, .step 2 none, .step 2 none, .close, .step 3 none, .step 3 none,
    .step 3 none, .step 3 none, .closeStore 1, .step 4 none, .step 4 none, .step 4 none, .step 4 none, .step 4 none]

theorem pool_safe_two_stores :
    ∃ s, (machine pairConfig).Reaches orderlyEvents s ∧ s.opened = 2 ∧ s.live = [] ∧ Safe pairConfig s := by
  have hrun : ((machine pairConfig).run {} orderlyEvents).map (fun s =>
      (s.opened, decide (.poolClosed ∈ s.calls), s.calls.all Phase.over, s.stores.all (·.released))) =
      some (2, true, true, true) := by decide
  obtain ⟨s, hs, hview⟩ := reaches_view hrun
  simp only [Prod.mk.injEq, decide_eq_true_eq] at hview
  obtain ⟨hopened, hreturned, hover, hreleased⟩ := hview
  have hsafe : Safe pairConfig s := pool_safe hs (by decide)
  exact ⟨s, hs, hopened, hsafe.closes hreturned (quiet_iff.mpr ⟨hover, hreleased⟩), hsafe⟩

/-- A release has read that the pool is open; the pool is closed and drained; then the release goes on. -/
def latePutEvents : List Event :=
  [.store, .step 0 none, .step 0 none, .step 0 none, .closeStore 0, .step 1 none, .step 1 none, .step 1 none,
    .close, .step 2 none, .step 2 none, .step 1 none]

/-- The connection stays open in a queue that nobody drains any more. -/
theorem late_put_leaks :
    ∃ s, (machine pairConfig).Reaches latePutEvents s ∧ .poolClosed ∈ s.calls ∧ s.Quiet ∧ s.live = [0] ∧
      ¬ Safe pairConfig s := by
  have hrun : ((machine pairConfig).run {} latePutEvents).map (fun s =>
      (s.live, decide (.poolClosed ∈ s.calls), s.calls.all Phase.over, s.stores.all (·.released))) =
      some ([0], true, true, true) := by decide
  obtain ⟨s, hs, hview⟩ := reaches_view hrun
  simp only [Prod.mk.injEq, decide_eq_true_eq] at hview
  obtain ⟨hlive, hreturned, hover, hreleased⟩ := hview
  have hquiet : s.Quiet := quiet_iff.mpr ⟨hover, hreleased⟩
  refine ⟨s, hs, hreturned, hquiet, hlive, fun hsafe => ?_⟩
  have hnone := hsafe.closes hreturned hquiet
  rw [hlive] at hnone
  cases hnone

/-- Two threads close one store: both have read `_released` before either writes it. -/
def closedTwiceEvents : List Event :=
  [.store, .step 0 none, .step 0 none, .step 0 none, .closeStore 0, .closeStore 0, .step 1 none, .step 2 none,
    .step 1 none, .step 2 none, .step 1 none, .step 2 none, .step 1 none, .step 2 none,
    .store, .step 3 none, .step 3 none, .store, .step 4 none, .step 4 none]

/-- The connection is put back twice, and the next two stores share it. -/
theorem store_closed_twice :
    ∃ s, (machine pairConfig).Reaches closedTwiceEvents s ∧ s.held = [0, 0] ∧ ¬ Safe pairConfig s := by
  have hrun : ((machine pairConfig).run {} closedTwiceEvents).map State.held = some [0, 0] := by decide
  obtain ⟨s, hs, hheld⟩ := reaches_view hrun
  refine ⟨s, hs, hheld, fun hsafe => ?_⟩
  have hnodup := hsafe.exclusive
  rw [hheld] at hnodup
  exact absurd hnodup (by simp)

end HostedFacilitator.Postgres.Pool
