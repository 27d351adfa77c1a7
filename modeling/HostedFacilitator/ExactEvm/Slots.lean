import HostedFacilitator.Engine.Providers
import HostedFacilitator.Lib.Dict
import HostedFacilitator.Lib.Gate
import HostedFacilitator.Lib.Holdings
import HostedFacilitator.Lib.Transition
import Mathlib.Data.List.Perm.Subperm

/-!
# Settlement slots

`HostedExactProvider.settle` calls the facilitator inside `_settlement_slot`: first a place in a semaphore for
`max_concurrent_settlements`, then, with a signer guard, the lock of the network, which `_lock_for_network` makes on the
first call for a network. Any number of tasks do this on one event loop; `next` runs a task from one wait to the next.
A task may be cancelled at every wait.

* `slots_safe`: the semaphore bounds the calls of the facilitator that are under way, and no two of them are for one
  network; when all tasks are over, everything is free again;
* `slots_drain`: replies and resumed tasks alone end every task, in whatever order they come.
-/

namespace HostedFacilitator.HostedExactProvider

/-- What `__init__` is given about slots; it raises unless `max_concurrent_settlements` is positive. `signerNetwork` is
the network of the signer guard's config. -/
structure SlotConfig where
  maxConcurrentSettlements : Nat
  positive : 0 < maxConcurrentSettlements
  signerNetwork : Option String := none

/-- Where a task waits: for the semaphore, for the lock, for the facilitator. -/
inductive SlotPhase where
  | queued
  | locking
  | calling
  | finished (result : ProviderResult)
  | cancelled

structure SettleTask where
  network : String
  phase : SlotPhase

/-- The semaphore, the locks in the order in which they were made, and the tasks. -/
structure SlotState where
  semaphore : Gate Nat
  settlementLocks : List (String × Gate Nat) := []
  tasks : List SettleTask := []

/-- A task begins to settle, it is resumed because its turn has come, the facilitator's call ends, or the task is
cancelled. -/
inductive SlotEvent where
  | settle (network : String)
  | resume (i : Nat)
  | reply (i : Nat) (reply : Reply)
  | cancel (i : Nat)

/-- `network or self._config.network`. -/
def SlotConfig.lockKey (config : SlotConfig) (network : String) : String :=
  if network = "" then config.signerNetwork.getD "" else network

namespace SlotState

variable (config : SlotConfig) (s : SlotState)

/-- `_lock_for_network`. Its own guard is never contended: nothing is awaited while it is held. -/
def lock (key : String) : Gate Nat := (Dict.get s.settlementLocks key).getD (Gate.empty 1)

def setLock (key : String) (lock : Gate Nat) : SlotState :=
  { s with settlementLocks := Dict.set s.settlementLocks key lock }

def setPhase (i : Nat) (phase : SlotPhase) : SlotState :=
  { s with tasks := s.tasks.modify i fun t => { t with phase := phase } }

/-- `async with self._settlement_semaphore`, up to the wait. -/
def enqueue (network : String) : SlotState :=
  { s with semaphore := s.semaphore.enter s.tasks.length, tasks := s.tasks ++ [⟨network, .queued⟩] }

/-- From a place in the semaphore to the lock, or to the call. -/
def letIn (i : Nat) (network : String) : SlotState :=
  if config.signerNetwork.isNone then s.setPhase i .calling
  else
    let lock := (s.lock (config.lockKey network)).enter i
    (s.setLock (config.lockKey network) lock).setPhase i (if i ∈ lock.inside then .calling else .locking)

/-- Leaving `async with lock`. -/
def releaseLock (i : Nat) (network : String) : SlotState :=
  if config.signerNetwork.isNone then s
  else s.setLock (config.lockKey network) ((s.lock (config.lockKey network)).leave i)

/-- Leaving `async with self._settlement_semaphore`. -/
def releaseSlot (i : Nat) : SlotState := { s with semaphore := s.semaphore.leave i }

/-- Leaving both blocks. -/
def release (i : Nat) (network : String) (phase : SlotPhase) : SlotState :=
  ((s.releaseLock config i network).releaseSlot i).setPhase i phase

def next (text : Text) : SlotEvent → Option SlotState
  | .settle network =>
    let s' := s.enqueue network
    some (if s.tasks.length ∈ s'.semaphore.inside then s'.letIn config s.tasks.length network else s')
  | .resume i => match s.tasks[i]? with
    | some ⟨network, .queued⟩ => if i ∈ s.semaphore.inside then some (s.letIn config i network) else none
    | some ⟨network, .locking⟩ =>
      if i ∈ (s.lock (config.lockKey network)).inside then some (s.setPhase i .calling) else none
    | _ => none
  | .reply i reply => match s.tasks[i]? with
    | some ⟨network, .calling⟩ => some (s.release config i network (.finished (settle text (.str network) reply)))
    | _ => none
  | .cancel i => match s.tasks[i]? with
    | some ⟨_, .queued⟩ => some ((s.releaseSlot i).setPhase i .cancelled)
    | some ⟨network, .locking⟩ | some ⟨network, .calling⟩ => some (s.release config i network .cancelled)
    | _ => none

end SlotState

variable (config : SlotConfig) (text : Text)

def slotMachine : Transition.Machine SlotState SlotEvent where
  start := { semaphore := Gate.empty config.maxConcurrentSettlements }
  next s e := s.next config text e

/-! ## What the slots promise -/

/-- The task has a place in the semaphore and goes on to its lock and its call. -/
def SlotPhase.admitted : SlotPhase → Bool
  | .locking | .calling => true
  | _ => false

def SlotPhase.over : SlotPhase → Bool
  | .finished _ | .cancelled => true
  | _ => false

namespace SlotState

variable (s : SlotState)

/-- The facilitator's call of the task is under way. -/
def Calling (i : Nat) (network : String) : Prop := s.tasks[i]? = some ⟨network, .calling⟩

/-- The tasks whose call is under way. -/
def underWay : List Nat := (List.range s.tasks.length).filter fun i => (s.tasks[i]?).any fun t => t.phase matches .calling

structure Safe : Prop where
  bounded : s.underWay.length ≤ config.maxConcurrentSettlements
  exclusive : config.signerNetwork.isSome → ∀ i j n n', s.Calling i n → s.Calling j n' →
    config.lockKey n = config.lockKey n' → i = j
  freed : (∀ t ∈ s.tasks, t.phase.over = true) →
    s.semaphore.members = [] ∧ ∀ key, (s.lock key).members = []

end SlotState

/-! ## The invariant -/

/-- How often a task is at the semaphore. -/
def atSemaphore : Option SettleTask → Nat
  | some t => if t.phase.over then 0 else 1
  | none => 0

/-- How often a task is at the lock of a network. -/
def atLock (key : String) : Option SettleTask → Nat
  | some t => if t.phase.admitted && config.lockKey t.network == key then 1 else 0
  | none => 0

structure SlotInv (s : SlotState) : Prop where
  capacity : s.semaphore.capacity = config.maxConcurrentSettlements
  single : ∀ key, (s.lock key).capacity = 1
  semaphore : ∀ i, s.semaphore.members.count i = atSemaphore s.tasks[i]?
  locks : ∀ key i, (s.lock key).members.count i =
    if config.signerNetwork.isSome then atLock config key s.tasks[i]? else 0
  inside : ∀ i t, s.tasks[i]? = some t → t.phase.admitted = true → i ∈ s.semaphore.inside
  locked : config.signerNetwork.isSome → ∀ i n, s.Calling i n → i ∈ (s.lock (config.lockKey n)).inside
  unguarded : config.signerNetwork.isNone → ∀ t ∈ s.tasks, t.phase ≠ .locking

namespace SlotState

variable {config} {s : SlotState} {i j : Nat} {network key : String} {phase : SlotPhase} {t : SettleTask}

@[simp] theorem lock_setPhase : (s.setPhase i phase).lock key = s.lock key := rfl

@[simp] theorem semaphore_setPhase : (s.setPhase i phase).semaphore = s.semaphore := rfl

@[simp] theorem tasks_setLock {g : Gate Nat} : (s.setLock key g).tasks = s.tasks := rfl

@[simp] theorem semaphore_setLock {g : Gate Nat} : (s.setLock key g).semaphore = s.semaphore := rfl

@[simp] theorem lock_releaseSlot : (s.releaseSlot i).lock key = s.lock key := rfl

@[simp] theorem tasks_releaseSlot : (s.releaseSlot i).tasks = s.tasks := rfl

@[simp] theorem semaphore_releaseSlot : (s.releaseSlot i).semaphore = s.semaphore.leave i := rfl

@[simp] theorem tasks_releaseLock : (s.releaseLock config i network).tasks = s.tasks := by
  unfold releaseLock
  split <;> rfl

@[simp] theorem semaphore_releaseLock : (s.releaseLock config i network).semaphore = s.semaphore := by
  unfold releaseLock
  split <;> rfl

theorem lock_setLock {g : Gate Nat} (key' : String) :
    (s.setLock key g).lock key' = if key' = key then g else s.lock key' := by
  unfold lock setLock
  rw [Dict.get_set]
  split <;> rfl

theorem lock_releaseLock (key' : String) : (s.releaseLock config i network).lock key' =
    if config.signerNetwork.isSome ∧ key' = config.lockKey network then (s.lock key').leave i else s.lock key' := by
  unfold releaseLock
  split
  · rename_i hg
    rw [Option.isNone_iff_eq_none] at hg
    simp [hg]
  · rename_i hg
    have hg' : config.signerNetwork.isSome := by simpa [Option.isSome_iff_ne_none] using hg
    rw [lock_setLock]
    by_cases hk : key' = config.lockKey network
    · subst hk
      simp [hg']
    · simp [hk]

theorem task_setPhase (h : s.tasks[i]? = some t) (j : Nat) :
    (s.setPhase i phase).tasks[j]? = if i = j then some { t with phase := phase } else s.tasks[j]? := by
  rw [setPhase, List.getElem?_modify]
  split
  · rename_i hij
    subst hij
    rw [h]
    rfl
  · simp

end SlotState

section Invariant

open SlotState

variable {config text} {s : SlotState} {i : Nat} {network : String} {phase : SlotPhase}

theorem slotInv_start : SlotInv config (slotMachine config text).start where
  capacity := rfl
  single _ := rfl
  semaphore _ := rfl
  locks key i := by
    have hempty : ((slotMachine config text).start.lock key).members.count i = 0 := rfl
    rw [hempty]
    split <;> rfl
  inside _ _ h := by cases h
  locked _ _ _ h := by cases h
  unguarded _ _ h := by cases h

theorem SlotInv.enqueue (h : SlotInv config s) (network : String) : SlotInv config (s.enqueue network) := by
  have hnew : ∀ j, (s.enqueue network).tasks[j]? =
      if j = s.tasks.length then some ⟨network, .queued⟩ else s.tasks[j]? := by
    intro j
    rw [SlotState.enqueue, List.getElem?_append]
    split
    · rename_i hj
      rw [if_neg (by omega)]
    · rename_i hj
      by_cases hlen : j = s.tasks.length
      · simp [hlen]
      · rw [if_neg hlen, List.getElem?_eq_none (by simp; omega), List.getElem?_eq_none (by omega)]
  refine ⟨?_, h.single, fun j => ?_, fun key j => ?_, fun j t ht hadm => ?_, fun hg j n hc => ?_, fun hg t ht => ?_⟩
  · rw [← h.capacity]
    exact Gate.capacity_enter
  · have hcount := h.semaphore j
    have henter : (s.enqueue network).semaphore.members.count j =
        s.semaphore.members.count j + if s.tasks.length = j then 1 else 0 := Gate.count_enter
    rw [henter, hcount, hnew]
    by_cases hj : j = s.tasks.length
    · subst hj
      simp [atSemaphore, SlotPhase.over]
    · simp [hj, Ne.symm hj]
  · have hkept : (s.enqueue network).lock key = s.lock key := rfl
    rw [hkept, h.locks, hnew]
    by_cases hj : j = s.tasks.length
    · subst hj
      simp [atLock, SlotPhase.admitted]
    · rw [if_neg hj]
  · rw [hnew] at ht
    split at ht
    · cases ht
      cases hadm
    · exact Gate.mem_enter (h.inside j t ht hadm)
  · rw [Calling, hnew] at hc
    split at hc
    · cases hc
    · exact h.locked hg j n hc
  · rcases List.mem_append.mp ht with ht | ht
    · exact h.unguarded hg t ht
    · rw [List.mem_singleton.mp ht]
      simp

/-- What a step that moves the task `i` has to say about the gates. -/
structure Moved (config : SlotConfig) (s s' : SlotState) (i : Nat) (t : SettleTask) (phase : SlotPhase) : Prop where
  tasks : ∀ j, s'.tasks[j]? = if i = j then some { t with phase := phase } else s.tasks[j]?
  capacity : s'.semaphore.capacity = s.semaphore.capacity
  single : ∀ key, (s'.lock key).capacity = 1
  semaphore : ∀ j, s'.semaphore.members.count j =
    if i = j then atSemaphore (some { t with phase := phase }) else s.semaphore.members.count j
  locks : config.signerNetwork.isSome → ∀ key j, (s'.lock key).members.count j =
    if i = j then atLock config key (some { t with phase := phase }) else (s.lock key).members.count j
  unlocked : config.signerNetwork.isNone → ∀ key, s'.lock key = s.lock key
  inside : ∀ j, i ≠ j → j ∈ s.semaphore.inside → j ∈ s'.semaphore.inside
  entered : phase.admitted = true → i ∈ s'.semaphore.inside
  locked : ∀ key j, i ≠ j → j ∈ (s.lock key).inside → j ∈ (s'.lock key).inside
  called : config.signerNetwork.isSome → phase = .calling → i ∈ (s'.lock (config.lockKey t.network)).inside
  guarded : config.signerNetwork.isNone → phase ≠ .locking

theorem SlotInv.moved {s' : SlotState} {t : SettleTask} (phase : SlotPhase) (h : SlotInv config s) (m : Moved config s s' i t phase) :
    SlotInv config s' := by
  refine ⟨m.capacity.trans h.capacity, m.single, fun j => ?_, fun key j => ?_, fun j u hu hadm => ?_,
    fun hg j n hc => ?_, fun hg u hu => ?_⟩
  · rw [m.semaphore, m.tasks]
    split
    · rfl
    · exact h.semaphore j
  · by_cases hg : config.signerNetwork.isSome
    · rw [m.locks hg, m.tasks, if_pos hg]
      split
      · rfl
      · rw [h.locks, if_pos hg]
    · rw [m.unlocked (by simpa using hg), h.locks, if_neg hg, if_neg hg]
  · rw [m.tasks] at hu
    split at hu
    · rename_i hij
      cases hu
      exact hij ▸ m.entered hadm
    · rename_i hij
      exact m.inside j hij (h.inside j u hu hadm)
  · rw [Calling, m.tasks] at hc
    split at hc
    · rename_i hij
      have htask := Option.some.inj hc
      have hphase : phase = .calling := congrArg SettleTask.phase htask
      have hnetwork : t.network = n := congrArg SettleTask.network htask
      exact hij ▸ hnetwork ▸ m.called hg hphase
    · rename_i hij
      exact m.locked _ j hij (h.locked hg j n hc)
  · obtain ⟨j, hj⟩ := List.mem_iff_getElem?.mp hu
    rw [m.tasks] at hj
    split at hj
    · cases hj
      exact m.guarded hg
    · exact h.unguarded hg u (List.mem_iff_getElem?.mpr ⟨j, hj⟩)

/-- A task that is not over is at the semaphore. -/
theorem SlotInv.mem_semaphore {t : SettleTask} (h : SlotInv config s) (hi : s.tasks[i]? = some t)
    (ho : t.phase.over = false) : i ∈ s.semaphore.members := by
  have hcount := h.semaphore i
  rw [hi, atSemaphore, ho] at hcount
  exact List.count_pos_iff.mp (by rw [hcount]; decide)

/-- An admitted task is at its lock. -/
theorem SlotInv.mem_lock {t : SettleTask} (h : SlotInv config s) (hg : config.signerNetwork.isSome)
    (hi : s.tasks[i]? = some t) (hadm : t.phase.admitted = true) :
    i ∈ (s.lock (config.lockKey t.network)).members := by
  have hcount := h.locks (config.lockKey t.network) i
  rw [if_pos hg, hi, atLock, hadm] at hcount
  exact List.count_pos_iff.mp (by rw [hcount]; simp)

theorem SlotInv.letIn (h : SlotInv config s) (hi : s.tasks[i]? = some ⟨network, .queued⟩)
    (hin : i ∈ s.semaphore.inside) : SlotInv config (s.letIn config i network) := by
  unfold SlotState.letIn
  have hold : ∀ key, (s.lock key).members.count i = 0 := by
    intro key
    rw [h.locks, hi]
    split <;> rfl
  split
  · rename_i hg
    refine h.moved .calling ⟨task_setPhase hi, rfl, h.single, fun j => ?_, fun hg' => ?_, fun _ _ => rfl,
      fun _ _ hj => hj, fun _ => hin, fun _ _ _ hj => hj, fun hg' => ?_, fun _ => by simp⟩
    · split
      · rename_i hij
        rw [semaphore_setPhase, ← hij, h.semaphore, hi]
        rfl
      · rfl
    · simp_all
    · simp_all
  · rename_i hg
    simp only
    set key := config.lockKey network with hkey
    have hlock : ∀ key', ((s.setLock key ((s.lock key).enter i)).setPhase i
        (if i ∈ ((s.lock key).enter i).inside then .calling else .locking)).lock key' =
        if key' = key then (s.lock key).enter i else s.lock key' := fun key' => lock_setLock key'
    have hadm : (if i ∈ ((s.lock key).enter i).inside then SlotPhase.calling else .locking).admitted = true := by
      split <;> rfl
    have hover : (if i ∈ ((s.lock key).enter i).inside then SlotPhase.calling else .locking).over = false := by
      split <;> rfl
    refine h.moved (i := i) _ ⟨task_setPhase hi, rfl, fun key' => ?_, fun j => ?_, fun _ key' j => ?_, fun hg' => ?_,
      fun _ _ hj => hj, fun _ => hin, fun key' j _ hj => ?_, fun _ hc => ?_, fun hg' => ?_⟩
    · rw [hlock]
      split
      · rw [Gate.capacity_enter, h.single]
      · exact h.single key'
    · by_cases hij : i = j
      · rw [if_pos hij, semaphore_setPhase, semaphore_setLock, ← hij, h.semaphore, hi, atSemaphore, atSemaphore, hover]
        rfl
      · rw [if_neg hij]
        rfl
    · rw [hlock]
      by_cases hk : key' = key
      · rw [if_pos hk, Gate.count_enter, hk]
        by_cases hij : i = j
        · subst hij
          rw [hold, atLock, hadm]
          simp [← hkey]
        · simp [hij]
      · rw [if_neg hk]
        by_cases hij : i = j
        · subst hij
          rw [hold, atLock, hadm]
          simp [← hkey, Ne.symm hk]
        · simp [hij]
    · exact absurd hg' hg
    · rw [hlock]
      split
      · rename_i hk
        exact Gate.mem_enter (hk ▸ hj)
      · exact hj
    · rw [hlock, if_pos hkey.symm]
      by_contra hnot
      rw [if_neg hnot] at hc
      cases hc
    · exact absurd hg' hg

/-- A task that has its lock calls the facilitator. -/
theorem SlotInv.acquire (h : SlotInv config s) (hi : s.tasks[i]? = some ⟨network, .locking⟩)
    (hin : i ∈ (s.lock (config.lockKey network)).inside) : SlotInv config (s.setPhase i .calling) := by
  refine h.moved (i := i) _ ⟨task_setPhase hi, rfl, h.single, fun j => ?_, fun hg key j => ?_, fun _ _ => rfl,
    fun _ _ hj => hj, fun _ => h.inside i _ hi rfl, fun _ _ _ hj => hj, fun _ _ => hin, fun _ => by simp⟩
  · split
    · rename_i hij
      rw [semaphore_setPhase, ← hij, h.semaphore, hi]
      rfl
    · rfl
  · split
    · rename_i hij
      rw [lock_setPhase, ← hij, h.locks, if_pos hg, hi]
      rfl
    · rfl

/-- A queued task that gives up. -/
theorem SlotInv.abandon (h : SlotInv config s) (hi : s.tasks[i]? = some ⟨network, .queued⟩) :
    SlotInv config ((s.releaseSlot i).setPhase i .cancelled) := by
  have hmem := h.mem_semaphore hi rfl
  have htask : (s.releaseSlot i).tasks[i]? = some ⟨network, .queued⟩ := hi
  refine h.moved (i := i) _ ⟨task_setPhase htask, Gate.capacity_leave, h.single, fun j => ?_, fun hg key j => ?_,
    fun _ _ => rfl, fun j hij hj => Gate.mem_leave hj (Ne.symm hij), fun hadm => ?_, fun _ _ _ hj => hj,
    fun _ hc => ?_, fun _ => ?_⟩
  · have hcount := Gate.count_leave (b := j) hmem
    rw [semaphore_setPhase, semaphore_releaseSlot]
    by_cases hij : i = j
    · subst hij
      rw [h.semaphore, hi] at hcount
      simpa [atSemaphore, SlotPhase.over] using hcount
    · simpa [hij] using hcount
  · rw [lock_setPhase, lock_releaseSlot, h.locks, if_pos hg]
    by_cases hij : i = j
    · subst hij
      rw [hi]
      simp [atLock, SlotPhase.admitted]
    · rw [if_neg hij]
  · cases hadm
  · cases hc
  · simp

/-- An admitted task that ends gives back its place and its lock. -/
theorem SlotInv.release {t : SettleTask} (h : SlotInv config s) (hi : s.tasks[i]? = some t)
    (hadm : t.phase.admitted = true) (ho : phase.over = true) :
    SlotInv config (s.release config i t.network phase) := by
  have hnot : phase.admitted = false := by
    cases phase <;> first | rfl | cases ho
  have hover : t.phase.over = false := by
    cases hp : t.phase <;> rw [hp] at hadm <;> first | rfl | cases hadm
  have hmem := h.mem_semaphore hi hover
  have htask : ((s.releaseLock config i t.network).releaseSlot i).tasks[i]? = some t := by simpa using hi
  have hlock : ∀ key, (s.release config i t.network phase).lock key = if config.signerNetwork.isSome ∧
      key = config.lockKey t.network then (s.lock key).leave i else s.lock key := fun key => lock_releaseLock key
  have hinside : ∀ j, i ≠ j → j ∈ s.semaphore.inside → j ∈ (s.release config i t.network phase).semaphore.inside := by
    intro j hij hj
    simpa [SlotState.release] using Gate.mem_leave hj (Ne.symm hij)
  refine h.moved (i := i) (t := t) phase ⟨fun j => ?_, ?_, fun key => ?_, fun j => ?_, fun hg key j => ?_,
    fun hg key => ?_, hinside, fun ha => ?_, fun key j hij hj => ?_, fun _ hc => ?_, fun _ hc => ?_⟩
  · rw [SlotState.release, task_setPhase htask]
    simp
  · simp [SlotState.release]
  · rw [hlock]
    split
    · rw [Gate.capacity_leave, h.single]
    · exact h.single key
  · have hcount := Gate.count_leave (b := j) hmem
    have hsem : (s.release config i t.network phase).semaphore = s.semaphore.leave i := by simp [SlotState.release]
    rw [hsem]
    by_cases hij : i = j
    · subst hij
      rw [h.semaphore, hi, atSemaphore, hover] at hcount
      rw [if_pos rfl, atSemaphore, ho]
      simpa using hcount
    · simpa [hij] using hcount
  · have hold := h.locks key i
    rw [if_pos hg, hi, atLock, hadm] at hold
    rw [hlock, atLock, hnot]
    by_cases hk : key = config.lockKey t.network
    · have hcount := Gate.count_leave (b := j) (hk ▸ h.mem_lock hg hi hadm : i ∈ (s.lock key).members)
      rw [if_pos ⟨hg, hk⟩]
      by_cases hij : i = j
      · subst hij
        rw [hold] at hcount
        simpa [← hk] using hcount
      · simpa [hij] using hcount
    · rw [if_neg fun hc => hk hc.2]
      by_cases hij : i = j
      · subst hij
        rw [hold]
        simp [Ne.symm hk]
      · rw [if_neg hij]
  · rw [hlock, if_neg fun hc => by simp_all]
  · rw [hnot] at ha
    cases ha
  · rw [hlock]
    split
    · exact Gate.mem_leave hj (Ne.symm hij)
    · exact hj
  · rw [hc] at ho
    cases ho
  · rw [hc] at ho
    cases ho

end Invariant

/-! ## Steps and runs -/

section Runs

open SlotState

variable {config text} {s s' t : SlotState} {i : Nat} {network : String} {phase : SlotPhase} {e : SlotEvent}
  {es : List SlotEvent}

/-- What a step can do. -/
inductive SlotStep (config : SlotConfig) (s : SlotState) : SlotEvent → SlotState → Prop
  | wait {network : String} : s.tasks.length ∉ (s.enqueue network).semaphore.inside →
      SlotStep config s (.settle network) (s.enqueue network)
  | start {network : String} : s.tasks.length ∈ (s.enqueue network).semaphore.inside →
      SlotStep config s (.settle network) ((s.enqueue network).letIn config s.tasks.length network)
  | letIn {i : Nat} {network : String} : s.tasks[i]? = some ⟨network, .queued⟩ → i ∈ s.semaphore.inside →
      SlotStep config s (.resume i) (s.letIn config i network)
  | acquire {i : Nat} {network : String} : s.tasks[i]? = some ⟨network, .locking⟩ → i ∈ (s.lock (config.lockKey network)).inside →
      SlotStep config s (.resume i) (s.setPhase i .calling)
  | finish {i : Nat} {network : String} {reply : Reply} {result : ProviderResult} : s.Calling i network →
      SlotStep config s (.reply i reply) (s.release config i network (.finished result))
  | abandon {i : Nat} {network : String} : s.tasks[i]? = some ⟨network, .queued⟩ →
      SlotStep config s (.cancel i) ((s.releaseSlot i).setPhase i .cancelled)
  | cancel {i : Nat} {t : SettleTask} : s.tasks[i]? = some t → t.phase.admitted = true →
      SlotStep config s (.cancel i) (s.release config i t.network .cancelled)

theorem next_step (h : s.next config text e = some s') : SlotStep config s e s' := by
  cases e with
  | settle network =>
    simp only [SlotState.next] at h
    split at h
    · cases h
      exact .start ‹_›
    · cases h
      exact .wait ‹_›
  | resume i =>
    simp only [SlotState.next] at h
    split at h
    · split at h
      · cases h
        exact .letIn ‹_› ‹_›
      · cases h
    · split at h
      · cases h
        exact .acquire ‹_› ‹_›
      · cases h
    · cases h
  | reply i reply =>
    simp only [SlotState.next] at h
    split at h
    · cases h
      exact .finish ‹_›
    · cases h
  | cancel i =>
    simp only [SlotState.next] at h
    split at h
    · cases h
      exact .abandon ‹_›
    · cases h
      exact .cancel (t := ⟨_, .locking⟩) ‹_› rfl
    · cases h
      exact .cancel (t := ⟨_, .calling⟩) ‹_› rfl
    · cases h

theorem task_enqueue : (s.enqueue network).tasks[s.tasks.length]? = some ⟨network, .queued⟩ := by
  simp [SlotState.enqueue]

theorem SlotInv.step (h : SlotInv config s) (hs : SlotStep config s e s') : SlotInv config s' := by
  cases hs with
  | wait _ => exact h.enqueue _
  | start hin => exact (h.enqueue _).letIn task_enqueue hin
  | letIn hi hin => exact h.letIn hi hin
  | acquire hi hin => exact h.acquire hi hin
  | finish hi => exact h.release (t := ⟨_, .calling⟩) hi rfl rfl
  | abandon hi => exact h.abandon hi
  | cancel hi hadm => exact h.release hi hadm rfl

theorem reachable_slotInv (h : (slotMachine config text).Reachable s) : SlotInv config s :=
  h.invariant slotInv_start fun _ _ _ _ hi hn => hi.step (next_step hn)

/-- A task that calls the facilitator has a place in the semaphore. -/
theorem SlotInv.underWay_subset (h : SlotInv config s) : s.underWay ⊆ s.semaphore.inside := by
  intro i hi
  obtain ⟨-, hcall⟩ := List.mem_filter.mp hi
  obtain ⟨t, ht, hp⟩ := (Option.any_eq_true _ _).mp hcall
  refine h.inside i t ht ?_
  cases hphase : t.phase <;> simp_all [SlotPhase.admitted]

theorem SlotInv.safe (h : SlotInv config s) : s.Safe config where
  bounded := by
    have hnodup : s.underWay.Nodup := List.nodup_range.filter _
    have hle := (List.subperm_of_subset hnodup h.underWay_subset).length_le
    have hb := s.semaphore.bounded
    rw [h.capacity] at hb
    exact Nat.le_trans hle hb
  exclusive hg i j n n' hi hj hkey := by
    have hin := h.locked hg i n hi
    have hin' := h.locked hg j n' hj
    rw [← hkey] at hin'
    exact Gate.eq_of_inside (h.single _) hin hin'
  freed hover := by
    have hat : ∀ (i : Nat), atSemaphore s.tasks[i]? = 0 ∧ ∀ key, atLock config key s.tasks[i]? = 0 := by
      intro i
      cases hi : s.tasks[i]? with
      | none => exact ⟨rfl, fun _ => rfl⟩
      | some t =>
        have ho := hover t (List.mem_of_getElem? hi)
        refine ⟨by rw [atSemaphore, if_pos ho], fun key => ?_⟩
        cases hp : t.phase <;> rw [hp] at ho <;> first | cases ho; done | simp [atLock, hp, SlotPhase.admitted]
    refine ⟨List.eq_nil_iff_forall_not_mem.mpr fun i hi => ?_, fun key => List.eq_nil_iff_forall_not_mem.mpr ?_⟩
    · have hcount := List.count_pos_iff.mpr hi
      rw [h.semaphore, (hat i).1] at hcount
      omega
    · intro i hi
      have hcount := List.count_pos_iff.mpr hi
      rw [h.locks, (hat i).2 key, ite_self] at hcount
      omega

/-! ### What is left to do -/

/-- The steps that a task has before it at most. -/
def SlotPhase.work : SlotPhase → Nat
  | .queued => 3
  | .locking => 2
  | .calling => 1
  | .finished _ | .cancelled => 0

def SlotState.work (s : SlotState) : Nat := Holdings.weight (fun t => t.phase.work) s.tasks

/-- The events that a task waits for: its turn, or the reply to its call. -/
def SlotEvent.onward : SlotEvent → Bool
  | .resume _ | .reply .. => true
  | .settle _ | .cancel _ => false

theorem work_setPhase {s : SlotState} {u : SettleTask} (phase : SlotPhase) (hi : s.tasks[i]? = some u) :
    (s.setPhase i phase).work + u.phase.work = s.work + phase.work := by
  have htasks : (s.setPhase i phase).tasks = s.tasks.set i { u with phase := phase } := by
    rw [SlotState.setPhase, List.modify_eq_set_getElem?, hi]
    rfl
  rw [SlotState.work, htasks]
  exact Holdings.weight_set (w := fun t => t.phase.work) hi { u with phase := phase }

theorem work_letIn (hi : s.tasks[i]? = some ⟨network, .queued⟩) : (s.letIn config i network).work + 1 ≤ s.work := by
  unfold SlotState.letIn
  split
  · have hwork := work_setPhase .calling hi
    simp only [SlotPhase.work] at hwork
    omega
  · have hlocked : ∀ g, (s.setLock (config.lockKey network) g).work = s.work := fun _ => rfl
    have hwork := fun g phase => work_setPhase (s := s.setLock (config.lockKey network) g) phase hi
    simp only [hlocked, SlotPhase.work] at hwork
    simp only
    split
    · have := hwork ((s.lock (config.lockKey network)).enter i) .calling
      simp only at this
      omega
    · have := hwork ((s.lock (config.lockKey network)).enter i) .locking
      simp only at this
      omega

theorem work_step (hs : SlotStep config s e s') (ho : e.onward = true) : s'.work + 1 ≤ s.work := by
  cases hs with
  | wait _ | start _ | abandon _ | cancel _ _ => cases ho
  | letIn hi _ => exact work_letIn hi
  | acquire hi _ =>
    have hwork := work_setPhase .calling hi
    simp only [SlotPhase.work] at hwork
    omega
  | @finish i network reply result hi =>
    have htask : ((s.releaseLock config i network).releaseSlot i).tasks[i]? = some ⟨network, .calling⟩ := by
      rw [tasks_releaseSlot, tasks_releaseLock]
      exact hi
    have hwork := work_setPhase (.finished result) htask
    have hkept : ((s.releaseLock config i network).releaseSlot i).work = s.work := by simp [SlotState.work]
    rw [hkept] at hwork
    simp only [SlotPhase.work] at hwork
    rw [SlotState.release]
    omega

theorem work_run (ho : ∀ e ∈ es, e.onward = true) (h : (slotMachine config text).Leads s es t) :
    t.work + es.length ≤ s.work := by
  induction es generalizing s with
  | nil => rw [Transition.Machine.leads_nil.mp h, List.length_nil, Nat.add_zero]
  | cons e es ih =>
    obtain ⟨u, hu, h'⟩ := Transition.Machine.leads_cons.mp h
    have hstep := work_step (next_step hu) (ho e List.mem_cons_self)
    have hrest := ih (fun e' he' => ho e' (List.mem_cons_of_mem e he')) h'
    rw [List.length_cons]
    omega

theorem work_le (s : SlotState) : s.work ≤ 3 * s.tasks.length := by
  have hle : ∀ l : List SettleTask, Holdings.weight (fun t => t.phase.work) l ≤ 3 * l.length := by
    intro l
    induction l with
    | nil => exact Nat.le_refl 0
    | cons t l ih =>
      have ht : t.phase.work ≤ 3 := by cases t.phase <;> simp [SlotPhase.work]
      have hsum : Holdings.weight (fun t => t.phase.work) (t :: l) =
          t.phase.work + Holdings.weight (fun t => t.phase.work) l := by simp [Holdings.weight]
      rw [hsum, List.length_cons]
      omega
  exact hle s.tasks

/-- A call that is under way can be answered. -/
theorem next_reply (text : Text) (h : s.Calling i network) : (s.next config text (.reply i .timedOut)).isSome := by
  simp only [SlotState.next]
  rw [show s.tasks[i]? = some ⟨network, .calling⟩ from h]
  rfl

/-- As long as a task is not over, some task can go on. -/
theorem SlotInv.progress (h : SlotInv config s) (text : Text) (hex : ∃ u ∈ s.tasks, u.phase.over = false) :
    ∃ e, e.onward = true ∧ (s.next config text e).isSome := by
  obtain ⟨u, hu, ho⟩ := hex
  obtain ⟨i, hi⟩ := List.mem_iff_getElem?.mp hu
  have hinside : s.semaphore.inside ≠ [] :=
    Gate.inside_ne_nil (by rw [h.capacity]; exact config.positive) (List.ne_nil_of_mem (h.mem_semaphore hi ho))
  obtain ⟨j, hj⟩ := List.exists_mem_of_ne_nil _ hinside
  -- whoever is inside the semaphore is resumed, waits for its lock or calls
  have hcount : 0 < atSemaphore s.tasks[j]? := by
    rw [← h.semaphore]
    exact List.count_pos_iff.mpr (List.mem_append_left _ hj)
  cases htask : s.tasks[j]? with
  | none => simp [htask, atSemaphore] at hcount
  | some v =>
    obtain ⟨n, phase⟩ := v
    cases phase with
    | queued => exact ⟨.resume j, rfl, by simp [SlotState.next, htask, hj]⟩
    | calling => exact ⟨.reply j .timedOut, rfl, next_reply text htask⟩
    | finished | cancelled => simp [htask, atSemaphore, SlotPhase.over] at hcount
    | locking =>
      by_cases hg : config.signerNetwork.isSome
      · -- whoever is inside the lock is resumed or calls
        have hlock : (s.lock (config.lockKey n)).inside ≠ [] :=
          Gate.inside_ne_nil (by rw [h.single]; decide) (List.ne_nil_of_mem (h.mem_lock hg htask rfl))
        obtain ⟨k, hk⟩ := List.exists_mem_of_ne_nil _ hlock
        have hat : 0 < atLock config (config.lockKey n) s.tasks[k]? := by
          have := h.locks (config.lockKey n) k
          rw [if_pos hg] at this
          rw [← this]
          exact List.count_pos_iff.mpr (List.mem_append_left _ hk)
        cases htask' : s.tasks[k]? with
        | none => simp [htask', atLock] at hat
        | some w =>
          obtain ⟨n', phase'⟩ := w
          have hkey : phase'.admitted = true ∧ config.lockKey n' = config.lockKey n := by
            by_contra hnot
            rw [htask', atLock, if_neg (by simpa using hnot)] at hat
            omega
          cases phase' with
          | locking =>
            refine ⟨.resume k, rfl, ?_⟩
            simp only [SlotState.next, htask', hkey.2, hk, if_true]
            rfl
          | calling => exact ⟨.reply k .timedOut, rfl, next_reply text htask'⟩
          | queued | finished | cancelled => exact absurd hkey.1 (by simp [SlotPhase.admitted])
      · exact absurd rfl (h.unguarded (by simpa [Option.isNone_iff_eq_none] using hg) _ (List.mem_of_getElem? htask))

end Runs

/-- **Slots.** In every run at most `max_concurrent_settlements` calls of the facilitator are under way, with a signer
guard no two of them are for one network, and when all tasks are over the semaphore and every lock are free. -/
theorem slots_safe (s : SlotState) (h : (slotMachine config text).Reachable s) : s.Safe config :=
  (reachable_slotInv h).safe

/-- Two places and a signer guard. -/
def sampleSlots : SlotConfig where
  maxConcurrentSettlements := 2
  positive := Nat.succ_pos 1
  signerNetwork := some "eip155:5042002"

/-- Two tasks for one network and one for the guard's own; the second gives up in the line of the lock, and the third
calls the facilitator beside the first. -/
def sampleSlotEvents : List SlotEvent :=
  [.settle "eip155:8453", .settle "eip155:8453", .settle "", .cancel 1, .resume 2]

theorem slots_safe_sample : ∃ s, (slotMachine sampleSlots networkText).Reaches sampleSlotEvents s ∧
    s.underWay = [0, 2] ∧ s.Safe sampleSlots :=
  ⟨_, rfl, by decide, slots_safe _ networkText _ ⟨sampleSlotEvents, rfl⟩⟩

/-- **No task is left behind.** From every state of every run, resumed tasks and replies come to an end after three
steps for each task at most, in whatever order they come; and when none of them is possible any more, every task is
over. -/
theorem slots_drain (s : SlotState) (h : (slotMachine config text).Reachable s) :
    ∀ es t, (∀ e ∈ es, e.onward = true) → (slotMachine config text).Leads s es t →
      es.length ≤ 3 * s.tasks.length ∧
        ((∀ e, e.onward = true → t.next config text e = none) → ∀ u ∈ t.tasks, u.phase.over = true) := by
  intro es t ho hl
  have hwork := work_run ho hl
  have hle := work_le s
  refine ⟨by omega, fun hstuck u hu => ?_⟩
  by_contra hover
  obtain ⟨e, he, hsome⟩ := (reachable_slotInv (h.leads hl)).progress text ⟨u, hu, Bool.eq_false_iff.mpr hover⟩
  rw [hstuck e he] at hsome
  cases hsome

/-- The state after them, and after the replies to the two calls. -/
def sampleSlotState (events : List SlotEvent) : SlotState :=
  ((slotMachine sampleSlots networkText).run (slotMachine sampleSlots networkText).start events).getD
    (slotMachine sampleSlots networkText).start

def sampleReplies : List SlotEvent := [.reply 0 .timedOut, .reply 2 .raised]

theorem slots_drain_sample : (∀ u ∈ (sampleSlotState (sampleSlotEvents ++ sampleReplies)).tasks, u.phase.over = true) ∧
    sampleReplies.length ≤ 3 * (sampleSlotState sampleSlotEvents).tasks.length := by
  have hdrain := slots_drain sampleSlots networkText (sampleSlotState sampleSlotEvents) ⟨sampleSlotEvents, rfl⟩
    sampleReplies (sampleSlotState (sampleSlotEvents ++ sampleReplies)) (by decide) rfl
  refine ⟨hdrain.2 fun e he => ?_, hdrain.1⟩
  cases e with
  | settle | cancel => cases he
  | resume i =>
    rcases i with _ | _ | _ | i <;> rfl
  | reply i reply =>
    rcases i with _ | _ | _ | i <;> rfl

end HostedFacilitator.HostedExactProvider
