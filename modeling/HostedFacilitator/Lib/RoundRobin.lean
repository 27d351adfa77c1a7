import Mathlib.Data.List.Perm.Basic

/-!
# Taking turns

Lists are read in rounds; the `i`-th round takes the `i`-th entry of every list that is long enough. Whatever is cut off
after some entries is fair to the lists:

* `rounds_perm`: `n` rounds take the first `n` entries of every list;
* `filter_rounds`: the entries of one list come in its order;
* `balanced`: a list that has more to give has given at most one entry less than any other.
-/

namespace RoundRobin

universe u

variable {α : Type u}

/-- The entry at `i` of every list that is long enough. -/
def round (lists : List (List α)) (i : Nat) : List α := lists.filterMap (·[i]?)

/-- The first `n` rounds. -/
def rounds (lists : List (List α)) (n : Nat) : List α := (List.range n).flatMap (round lists)

variable {lists : List (List α)} {list list' : List α} {p q : α → Bool} {i j k m n : Nat}

theorem rounds_succ (lists : List (List α)) (n : Nat) : rounds lists (n + 1) = rounds lists n ++ round lists n := by
  simp [rounds, List.range_succ, List.flatMap_append]

theorem rounds_prefix (h : m ≤ n) : rounds lists m <+: rounds lists n := by
  induction n with
  | zero =>
    obtain rfl := Nat.le_zero.mp h
    exact List.prefix_rfl
  | succ n ih =>
    rcases Nat.lt_or_ge n m with hm | hm
    · obtain rfl : m = n + 1 := by omega
      exact List.prefix_rfl
    · rw [rounds_succ]
      exact (ih hm).trans (List.prefix_append _ _)

/-- A round that takes nothing is followed by none that does. -/
theorem round_eq_nil (h : round lists i = []) (hij : i ≤ j) : round lists j = [] := by
  rw [round, List.filterMap_eq_nil_iff] at h ⊢
  intro l hl
  have hlen := List.getElem?_eq_none_iff.mp (h l hl)
  exact List.getElem?_eq_none_iff.mpr (Nat.le_trans hlen hij)

/-- The rounds take the first entries of every list. -/
theorem rounds_perm (lists : List (List α)) (n : Nat) : (rounds lists n).Perm (lists.flatMap (·.take n)) := by
  induction n with
  | zero => simp [rounds]
  | succ n ih =>
    have hround : round lists n = lists.flatMap fun l => l[n]?.toList := List.filterMap_eq_flatMap_toList _ _
    have htake : ∀ l : List α, l.take (n + 1) = l.take n ++ l[n]?.toList := fun l => List.take_add_one
    rw [rounds_succ, hround]
    simp only [htake]
    exact (ih.append_right _).trans (List.flatMap_append_perm lists _ _)

/-- Rounds for the longest list take everything. -/
theorem rounds_perm_flatten (h : ∀ l ∈ lists, l.length ≤ n) : (rounds lists n).Perm lists.flatten := by
  have htake : lists.flatMap (·.take n) = lists.flatten := by
    rw [List.flatten_eq_flatMap]
    exact List.flatMap_congr fun l hl => List.take_of_length_le (h l hl)
  exact htake ▸ rounds_perm lists n

/-! ## One of the lists -/

/-- `p` tells the entries of `list` from those of the other lists. -/
structure Picks (p : α → Bool) (list : List α) (lists : List (List α)) : Prop where
  split : ∃ front back, lists = front ++ list :: back ∧ ∀ l ∈ front ++ back, ∀ x ∈ l, p x = false
  own : ∀ x ∈ list, p x = true

theorem filter_round (h : Picks p list lists) (i : Nat) : (round lists i).filter p = list[i]?.toList := by
  obtain ⟨⟨front, back, rfl, hothers⟩, hown⟩ := h
  have hnone : ∀ part : List (List α), (∀ l ∈ part, ∀ x ∈ l, p x = false) → (round part i).filter p = [] := by
    intro part hpart
    rw [List.filter_eq_nil_iff]
    intro x hx
    obtain ⟨l, hl, hlx⟩ := List.mem_filterMap.mp hx
    rw [hpart l hl x (List.mem_of_getElem? hlx)]
    decide
  have hround : round (front ++ list :: back) i = round front i ++ (list[i]?.toList ++ round back i) := by
    rw [round, List.filterMap_append, List.filterMap_cons]
    cases list[i]? <;> rfl
  have hself : list[i]?.toList.filter p = list[i]?.toList := by
    rw [List.filter_eq_self]
    intro x hx
    exact hown x (List.mem_of_getElem? (Option.mem_toList.mp hx))
  rw [hround, List.filter_append, List.filter_append, hself, hnone front, hnone back, List.nil_append,
    List.append_nil]
  · exact fun l hl => hothers l (List.mem_append_right _ hl)
  · exact fun l hl => hothers l (List.mem_append_left _ hl)

/-- The entries of one list come in its order. -/
theorem filter_rounds (h : Picks p list lists) (n : Nat) : (rounds lists n).filter p = list.take n := by
  induction n with
  | zero => simp [rounds]
  | succ n ih => rw [rounds_succ, List.filter_append, ih, filter_round h, List.take_add_one]

/-- What is cut off after `k` entries holds a first part of every list. -/
theorem filter_take_prefix (h : Picks p list lists) (n k : Nat) : ((rounds lists n).take k).filter p <+: list := by
  have hprefix : ((rounds lists n).take k).filter p <+: (rounds lists n).filter p :=
    (List.take_prefix k _).filter p
  rw [filter_rounds h] at hprefix
  exact hprefix.trans (List.take_prefix n list)

/-- After `k` entries, a list that has more to give has given at most one entry less than another. -/
theorem balanced (hp : Picks p list lists) (hq : Picks q list' lists) (hlen : list.length ≤ n)
    (hmore : (((rounds lists n).take k).filter p).length < list.length) :
    (((rounds lists n).take k).filter q).length ≤ (((rounds lists n).take k).filter p).length + 1 := by
  generalize hm : (((rounds lists n).take k).filter p).length = m at hmore ⊢
  have hround : rounds lists (m + 1) <+: rounds lists n := rounds_prefix (by omega)
  rcases List.prefix_or_prefix_of_prefix (List.take_prefix k (rounds lists n)) hround with hcut | hcut
  · -- the cut lies within round `m`, so nobody has given more than that round
    have hle := (hcut.filter q).length_le
    rw [filter_rounds hq, List.length_take] at hle
    omega
  · -- the cut lies after round `m`, in which the list has given an entry more
    have hle := (hcut.filter p).length_le
    rw [filter_rounds hp, List.length_take, hm] at hle
    omega

end RoundRobin
