import Mathlib.Algebra.Order.Ring.Nat
import Mathlib.Data.List.Count

/-!
# Gates

A gate lets a number of parties in; whoever finds no room waits in line, and the first of the line takes the place of
the party that leaves. A lock is a gate for one. The two facts that every operation keeps are fields: there is never
more inside than the capacity, and nobody waits while there is room.

Who is at the gate is said in counts (`count_enter`, `count_leave`), so that an invariant about the parties is linear
arithmetic. Whoever is inside stays there until it leaves (`mem_enter`, `mem_leave`), and as long as somebody is at the
gate, somebody is inside (`inside_ne_nil`).
-/

universe u

structure Gate (α : Type u) where
  capacity : Nat
  inside : List α
  waiting : List α
  bounded : inside.length ≤ capacity
  busy : waiting ≠ [] → inside.length = capacity

namespace Gate

variable {α : Type u}

/-! ## Arriving -/

/-- A gate with nobody there. -/
def empty (capacity : Nat) : Gate α where
  capacity := capacity
  inside := []
  waiting := []
  bounded := Nat.zero_le capacity
  busy h := absurd rfl h

/-- Everybody at the gate. -/
def members (g : Gate α) : List α := g.inside ++ g.waiting

section Enter

variable (g : Gate α) (a : α)

theorem bounded_enter (h : g.inside.length < g.capacity) : (g.inside ++ [a]).length ≤ g.capacity := by
  rw [List.length_append, List.length_singleton]
  exact h

theorem busy_enter (h : g.inside.length < g.capacity) : g.waiting ≠ [] → (g.inside ++ [a]).length = g.capacity :=
  fun hw => absurd (g.busy hw) (Nat.ne_of_lt h)

theorem busy_queue (h : ¬ g.inside.length < g.capacity) : g.waiting ++ [a] ≠ [] → g.inside.length = g.capacity :=
  fun _ => Nat.le_antisymm g.bounded (Nat.le_of_not_lt h)

/-- A party comes: it is inside, or last in line. -/
def enter : Gate α :=
  if h : g.inside.length < g.capacity then
    { g with inside := g.inside ++ [a], bounded := g.bounded_enter a h, busy := g.busy_enter a h }
  else { g with waiting := g.waiting ++ [a], busy := g.busy_queue a h }

end Enter

variable {g : Gate α} {a b : α} {n : Nat}

@[simp] theorem members_empty : (empty n : Gate α).members = [] := rfl

@[simp] theorem capacity_enter : (g.enter a).capacity = g.capacity := by
  unfold enter
  split <;> rfl

theorem inside_enter : (g.enter a).inside = if g.inside.length < g.capacity then g.inside ++ [a] else g.inside := by
  unfold enter
  split <;> rfl

theorem mem_enter (h : b ∈ g.inside) : b ∈ (g.enter a).inside := by
  rw [inside_enter]
  split
  · exact List.mem_append_left _ h
  · exact h

/-- As long as somebody is at the gate, somebody is inside. -/
theorem inside_ne_nil (hcap : 0 < g.capacity) (h : g.members ≠ []) : g.inside ≠ [] := by
  intro hin
  have hwait : g.waiting ≠ [] := by
    intro hw
    exact h (by rw [members, hin, hw]; rfl)
  have hlen := g.busy hwait
  rw [hin, List.length_nil] at hlen
  omega

/-- A gate for one has at most one inside. -/
theorem eq_of_inside (hcap : g.capacity = 1) (ha : a ∈ g.inside) (hb : b ∈ g.inside) : a = b := by
  have hlen := g.bounded
  rw [hcap] at hlen
  obtain ⟨x, hx⟩ : ∃ x, g.inside = [x] :=
    List.length_eq_one_iff.mp (Nat.le_antisymm hlen (List.length_pos_of_mem ha))
  rw [hx, List.mem_singleton] at ha hb
  rw [ha, hb]

/-! ## Leaving -/

variable [DecidableEq α]

section Leave

variable (g : Gate α) (a : α)

/-- What is inside after `a` has left: the first of the line has its place. -/
def replaced : List α → List α
  | [] => g.inside.erase a
  | w :: _ => g.inside.erase a ++ [w]

theorem length_replaced (h : a ∈ g.inside) (ws : List α) :
    (g.replaced a ws).length = if ws = [] then g.inside.length - 1 else g.inside.length := by
  have hpos := List.length_pos_of_mem h
  cases ws with
  | nil => simp [replaced, List.length_erase_of_mem h]
  | cons w ws =>
    simp only [replaced, List.length_append, List.length_erase_of_mem h, List.length_singleton, reduceCtorEq, if_false]
    omega

theorem bounded_replaced (h : a ∈ g.inside) : (g.replaced a g.waiting).length ≤ g.capacity := by
  have hb := g.bounded
  rw [g.length_replaced a h]
  split <;> omega

theorem busy_replaced (h : a ∈ g.inside) : g.waiting.tail ≠ [] → (g.replaced a g.waiting).length = g.capacity := by
  intro ht
  have hw : g.waiting ≠ [] := by
    intro hw
    exact ht (by rw [hw]; rfl)
  rw [g.length_replaced a h, if_neg hw, g.busy hw]

theorem busy_erase : g.waiting.erase a ≠ [] → g.inside.length = g.capacity := by
  intro ht
  apply g.busy
  intro hw
  exact ht (by rw [hw]; rfl)

/-- A party goes, from inside or from the line. -/
def leave : Gate α :=
  if h : a ∈ g.inside then
    { g with
      inside := g.replaced a g.waiting
      waiting := g.waiting.tail
      bounded := g.bounded_replaced a h
      busy := g.busy_replaced a h }
  else { g with waiting := g.waiting.erase a, busy := g.busy_erase a }

end Leave

@[simp] theorem capacity_leave : (g.leave a).capacity = g.capacity := by
  unfold leave
  split <;> rfl

theorem inside_leave : (g.leave a).inside = if a ∈ g.inside then g.replaced a g.waiting else g.inside := by
  unfold leave
  split <;> rfl

theorem waiting_leave : (g.leave a).waiting = if a ∈ g.inside then g.waiting.tail else g.waiting.erase a := by
  unfold leave
  split <;> rfl

/-- Whoever is inside stays there while others leave. -/
theorem mem_leave (h : b ∈ g.inside) (hne : b ≠ a) : b ∈ (g.leave a).inside := by
  have herase : b ∈ g.inside.erase a := (List.mem_erase_of_ne hne).mpr h
  rw [inside_leave]
  split
  · cases g.waiting with
    | nil => exact herase
    | cons w ws => exact List.mem_append_left _ herase
  · exact h

/-! ## Counting -/

theorem count_members : g.members.count b = g.inside.count b + g.waiting.count b := List.count_append

theorem count_enter : (g.enter a).members.count b = g.members.count b + if a = b then 1 else 0 := by
  rw [count_members, count_members]
  unfold enter
  split
  · simp only [List.count_append, List.count_singleton, beq_iff_eq]
    omega
  · simp only [List.count_append, List.count_singleton, beq_iff_eq]
    omega

theorem count_erase_of_mem {l : List α} (h : a ∈ l) : (l.erase a).count b + (if a = b then 1 else 0) = l.count b := by
  rw [List.count_erase]
  by_cases hab : a = b
  · have := List.count_pos_iff.mpr (hab ▸ h)
    simp only [hab, beq_self_eq_true, if_true]
    omega
  · simp [hab]

/-- A member that leaves is gone, once. -/
theorem count_leave (h : a ∈ g.members) :
    (g.leave a).members.count b + (if a = b then 1 else 0) = g.members.count b := by
  rw [count_members, count_members, inside_leave, waiting_leave]
  split
  · rename_i hin
    have herase := count_erase_of_mem (b := b) hin
    cases g.waiting with
    | nil =>
      simp only [replaced, List.tail_nil]
      omega
    | cons w ws =>
      simp only [replaced, List.count_append, List.tail_cons, List.count_cons, List.count_nil]
      omega
  · rename_i hout
    have herase := count_erase_of_mem (b := b) ((List.mem_append.mp h).resolve_left hout)
    omega

end Gate
