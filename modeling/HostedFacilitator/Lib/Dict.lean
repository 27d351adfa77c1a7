import HostedFacilitator.Lib.Table

/-!
# Dictionaries

A dictionary is the list of its entries in insertion order. Setting a key that is there replaces its value in place,
setting a new one adds an entry at the end (`set_of_none`). With distinct keys an entry is what `get` finds
(`get_eq_some`).
-/

namespace Dict

universe u v

variable {κ : Type u} {α : Type v} [DecidableEq κ]

def get (d : List (κ × α)) (k : κ) : Option α := (Table.row Prod.fst k d).map Prod.snd

def set (d : List (κ × α)) (k : κ) (v : α) : List (κ × α) :=
  if (get d k).isSome then Table.update (fun e => e.1 == k) (fun e => (e.1, v)) d else d ++ [(k, v)]

variable {d : List (κ × α)} {k : κ} {v : α}

theorem mem_of_get (h : get d k = some v) : (k, v) ∈ d := by
  obtain ⟨e, he, rfl⟩ := Option.map_eq_some_iff.mp h
  have hk : e.1 = k := Table.row_key he
  exact hk ▸ Table.row_mem he

theorem get_eq_some (hn : (d.map Prod.fst).Nodup) : get d k = some v ↔ (k, v) ∈ d := by
  constructor
  · exact mem_of_get
  · intro h
    have hrow : Table.row Prod.fst k d = some (k, v) := Table.row_of_mem hn h
    rw [get, hrow, Option.map_some]

theorem get_eq_none : get d k = none ↔ ∀ e ∈ d, e.1 ≠ k := by
  rw [get, Option.map_eq_none_iff, Table.row_eq_none]

theorem set_of_none (h : get d k = none) : set d k v = d ++ [(k, v)] := by
  rw [set, h]
  rfl

/-- Setting one key leaves the others alone. -/
theorem get_set (k' : κ) : get (set d k v) k' = if k' = k then some v else get d k' := by
  cases hk : get d k with
  | none =>
    have hrow : Table.row Prod.fst k d = none := by simpa [get] using hk
    rw [set_of_none hk, get, Table.row_append]
    by_cases h : k' = k
    · subst h
      rw [hrow]
      simp [Table.row]
    · simp [h, Table.row, get, Ne.symm h]
  | some v' =>
    have hset : set d k v = Table.update (fun e => e.1 == k) (fun e => (e.1, v)) d := by rw [set, hk]; rfl
    rw [hset, get, Table.row_update (f := fun e => (e.1, v)) fun _ => rfl]
    by_cases h : k' = k
    · subst h
      obtain ⟨e, he, -⟩ := Option.map_eq_some_iff.mp hk
      have hek : e.1 = k' := Table.row_key he
      simp [he, hek]
    · cases hr : Table.row Prod.fst k' d with
      | none => simp [get, hr, h]
      | some e =>
        have hek : e.1 = k' := Table.row_key hr
        simp [get, hr, h, hek]

theorem keys_set_nodup (hn : (d.map Prod.fst).Nodup) : ((set d k v).map Prod.fst).Nodup := by
  cases hk : get d k with
  | none =>
    rw [set_of_none hk]
    exact Table.nodup_append_fresh hn (get_eq_none.mp hk)
  | some v' =>
    have hset : set d k v = Table.update (fun e => e.1 == k) (fun e => (e.1, v)) d := by rw [set, hk]; rfl
    rw [hset, Table.map_update (f := fun e => (e.1, v)) fun _ => rfl]
    exact hn

end Dict
