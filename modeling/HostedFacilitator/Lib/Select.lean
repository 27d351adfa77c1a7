import HostedFacilitator.Lib.Dict
import Mathlib.Algebra.BigOperators.Group.List.Lemmas
import Mathlib.Algebra.Order.Ring.Nat
import Mathlib.Data.List.Sort

/-!
# Ordered and counted selections

Two readings of a table that do not depend on where its rows lie: the rows in the order of a key (`orderBy`), and the
number of rows for each value of a key, by `GROUP BY` (`groupCount`) or by a loop over a dictionary (`countBy`). Tables
with the same rows give the same ordered rows when the key tells rows apart (`orderBy_congr`) and, up to the order of the
entries, the same counts (`Counts.perm`).
-/

namespace Select

universe u v w

variable {α : Type u} {κ : Type v} {κ' : Type w}

/-! ## Order -/

section Order

variable [LinearOrder κ] [LinearOrder κ']

/-- `ORDER BY key ASC`. -/
def orderBy (key : α → κ) (t : List α) : List α := t.insertionSort fun a b => key a ≤ key b

variable {key : α → κ} {key' : α → κ'} {t t' : List α}

instance total_key : Std.Total fun a b : α => key a ≤ key b := ⟨fun _ _ => le_total _ _⟩

instance trans_key : IsTrans α fun a b => key a ≤ key b := ⟨fun _ _ _ => le_trans⟩

theorem orderBy_perm (key : α → κ) (t : List α) : (orderBy key t).Perm t := List.perm_insertionSort _ t

theorem mem_orderBy {a : α} : a ∈ orderBy key t ↔ a ∈ t := (orderBy_perm key t).mem_iff

theorem orderBy_pairwise : (orderBy key t).Pairwise fun a b => key a ≤ key b := List.pairwise_insertionSort _ t

/-- A key that tells rows apart orders them strictly. -/
theorem orderBy_strict (h : (t.map key).Nodup) : (orderBy key t).Pairwise fun a b => key a < key b := by
  have hnodup : ((orderBy key t).map key).Nodup := ((orderBy_perm key t).map key).nodup_iff.mpr h
  have hne : (orderBy key t).Pairwise fun a b => key a ≠ key b := List.pairwise_map.mp hnodup
  exact orderBy_pairwise.imp₂ (fun _ _ hle hne => lt_of_le_of_ne hle hne) hne

/-- Rows of another kind that are ordered alike. -/
theorem orderBy_map {β : Type*} (key : α → κ) (key' : β → κ') (f : α → β)
    (h : ∀ a ∈ t, ∀ b ∈ t, key a ≤ key b ↔ key' (f a) ≤ key' (f b)) : (orderBy key t).map f = orderBy key' (t.map f) :=
  List.map_insertionSort (fun a b => key a ≤ key b) (fun a b => key' a ≤ key' b) f t h

/-- Two keys that order the rows alike. -/
theorem orderBy_congr (hp : t.Perm t') (hn : (t'.map key').Nodup)
    (h : ∀ a ∈ t, ∀ b ∈ t, key a ≤ key b ↔ key' a ≤ key' b) : orderBy key t = orderBy key' t' := by
  refine @List.Perm.eq_of_pairwise α (fun a b => key' a ≤ key' b) _ _ ?_ ?_ orderBy_pairwise ?_
  · intro a b ha hb hab hba
    have ha' : a ∈ t' := hp.mem_iff.mp (mem_orderBy.mp ha)
    exact List.inj_on_of_nodup_map hn ha' (mem_orderBy.mp hb) (le_antisymm hab hba)
  · refine orderBy_pairwise.imp_of_mem fun {a b} ha hb hab => ?_
    exact (h a (mem_orderBy.mp ha) b (mem_orderBy.mp hb)).mp hab
  · exact (orderBy_perm key t).trans (hp.trans (orderBy_perm key' t').symm)

/-- A page leaves something out exactly when there are more rows than fit on it. -/
theorem exists_not_mem_take {l : List α} (h : l.Nodup) (n : Nat) : (∃ a ∈ l, a ∉ l.take n) ↔ n < l.length := by
  constructor
  · rintro ⟨a, ha, hnot⟩
    by_contra hle
    rw [List.take_of_length_le (by omega)] at hnot
    exact hnot ha
  · intro hlt
    refine ⟨l[n], List.getElem_mem hlt, fun hmem => ?_⟩
    obtain ⟨i, hi, heq⟩ := List.getElem_of_mem hmem
    rw [List.length_take] at hi
    rw [List.getElem_take] at heq
    have := h.getElem_inj_iff.mp heq
    omega

end Order

/-! ## Counts -/

section Counts

variable [DecidableEq κ]

/-- `SELECT key, COUNT(*) .. GROUP BY key`. -/
def groupCount (key : α → κ) (t : List α) : List (κ × Nat) := (t.map key).dedup.map fun k => (k, (t.map key).count k)

/-- `for row in t: counts[key] = counts.get(key, 0) + 1`. -/
def countBy (key : α → κ) (t : List α) : List (κ × Nat) :=
  t.foldl (fun d a => Dict.set d (key a) ((Dict.get d (key a)).getD 0 + 1)) []

/-- A dictionary with the number of times that each key occurs; a key that does not occur has no entry. -/
structure Counts (keys : List κ) (d : List (κ × Nat)) : Prop where
  nodup : (d.map Prod.fst).Nodup
  mem : ∀ k n, (k, n) ∈ d ↔ n = keys.count k ∧ 0 < n

namespace Counts

variable {keys keys' : List κ} {d d' : List (κ × Nat)}

/-- One list of keys has one dictionary, up to the order of its entries. -/
theorem perm (h : Counts keys d) (h' : Counts keys d') : d.Perm d' := by
  rw [List.perm_ext_iff_of_nodup h.nodup.of_map h'.nodup.of_map]
  rintro ⟨k, n⟩
  rw [h.mem, h'.mem]

theorem of_perm (h : Counts keys d) (hp : keys.Perm keys') : Counts keys' d :=
  ⟨h.nodup, fun k n => by rw [h.mem, hp.count_eq]⟩

theorem get (h : Counts keys d) (k : κ) : (Dict.get d k).getD 0 = keys.count k := by
  cases hk : Dict.get d k with
  | some n => exact ((h.mem k n).mp (Dict.mem_of_get hk)).1
  | none =>
    by_contra hne
    have hmem : (k, keys.count k) ∈ d := (h.mem k _).mpr ⟨rfl, Nat.pos_of_ne_zero (Ne.symm hne)⟩
    exact Dict.get_eq_none.mp hk _ hmem rfl

theorem mem_keys (h : Counts keys d) {e : κ × Nat} (he : e ∈ d) : e.1 ∈ keys := by
  obtain ⟨hn, hpos⟩ := (h.mem e.1 e.2).mp he
  exact List.count_pos_iff.mp (hn ▸ hpos)

end Counts

theorem groupCount_counts (key : α → κ) (t : List α) : Counts (t.map key) (groupCount key t) := by
  constructor
  · rw [groupCount, List.map_map]
    simpa [Function.comp_def] using List.nodup_dedup (t.map key)
  · intro k n
    simp only [groupCount, List.mem_map, List.mem_dedup, Prod.mk.injEq]
    constructor
    · rintro ⟨k', hk', rfl, rfl⟩
      exact ⟨rfl, List.count_pos_iff.mpr (List.mem_map.mpr hk')⟩
    · rintro ⟨rfl, hpos⟩
      exact ⟨k, List.mem_map.mp (List.count_pos_iff.mp hpos), rfl, rfl⟩

/-- One turn of the loop. -/
theorem Counts.set {keys : List κ} {d : List (κ × Nat)} (h : Counts keys d) (k : κ) :
    Counts (keys ++ [k]) (Dict.set d k ((Dict.get d k).getD 0 + 1)) := by
  have hnodup := Dict.keys_set_nodup (k := k) (v := (Dict.get d k).getD 0 + 1) h.nodup
  refine ⟨hnodup, fun k' n => ?_⟩
  rw [← Dict.get_eq_some hnodup, Dict.get_set, h.get, List.count_append]
  by_cases hk : k' = k
  · subst hk
    simp only [if_true, Option.some.injEq, List.count_singleton_self]
    omega
  · rw [if_neg hk, Dict.get_eq_some h.nodup, h.mem, List.count_singleton, if_neg (by simpa using Ne.symm hk)]
    rfl

theorem countBy_counts (key : α → κ) (t : List α) : Counts (t.map key) (countBy key t) := by
  induction t using List.reverseRecOn with
  | nil => exact ⟨List.nodup_nil, fun k n => by simp [countBy]⟩
  | append_singleton t a ih =>
    rw [countBy, List.foldl_append, List.map_append]
    exact ih.set (key a)

/-- The counts add up to the number of rows. -/
theorem Counts.sum {keys : List κ} {d : List (κ × Nat)} (h : Counts keys d) : (d.map Prod.snd).sum = keys.length := by
  have hgroup := groupCount_counts id keys
  rw [List.map_id] at hgroup
  rw [((h.perm hgroup).map Prod.snd).sum_eq, groupCount, List.map_map, List.map_id]
  exact List.sum_map_count_dedup_eq_length keys

/-- `dict(entries)`. -/
def ofEntries {β : Type*} (entries : List (κ × β)) : List (κ × β) :=
  entries.foldl (fun d e => Dict.set d e.1 e.2) []

/-- Entries with distinct keys stay as they are. -/
theorem ofEntries_eq {β : Type*} {entries : List (κ × β)} (h : (entries.map Prod.fst).Nodup) :
    ofEntries entries = entries := by
  induction entries using List.reverseRecOn with
  | nil => rfl
  | append_singleton entries e ih =>
    rw [List.map_append, List.nodup_append] at h
    rw [ofEntries, List.foldl_append]
    show Dict.set (ofEntries entries) e.1 e.2 = _
    rw [ih h.1, Dict.set_of_none]
    rw [Dict.get_eq_none]
    intro e' he'
    exact h.2.2 _ (List.mem_map_of_mem he') _ (List.mem_singleton.mpr rfl)

end Counts

end Select
