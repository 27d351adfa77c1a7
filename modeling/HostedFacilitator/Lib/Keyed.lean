import HostedFacilitator.Lib.Table

/-!
# Tables with a primary key

`Keyed key` is a table in which no two rows have the same key. An `insert` is refused when its key is taken, an
`update` leaves the keys as they are, so both stay such tables. `get` finds the row of a key; `get_insert` and
`get_update` say what it finds afterwards, which is all that proofs about the rows need.
-/

universe u v

/-- A table with a primary key. -/
structure Keyed {α : Type u} {κ : Type v} (key : α → κ) where
  rows : List α
  unique : (rows.map key).Nodup

namespace Keyed

variable {α : Type u} {κ : Type v} {key : α → κ} [DecidableEq κ]

/-- The table without rows. -/
def empty : Keyed key := ⟨[], List.nodup_nil⟩

/-- The row with the key `k`. -/
def get (t : Keyed key) (k : κ) : Option α := Table.row key k t.rows

/-- `INSERT`; `none` when the key is taken. -/
def insert (t : Keyed key) (r : α) : Option (Keyed key) :=
  if h : ∀ r' ∈ t.rows, key r' ≠ key r then some ⟨t.rows ++ [r], Table.nodup_append_fresh t.unique h⟩ else none

/-- `UPDATE .. SET f WHERE p`, which does not write the key. -/
def update (t : Keyed key) (p : α → Bool) (f : α → α) (hf : ∀ r, key (f r) = key r) : Keyed key :=
  ⟨Table.update p f t.rows, by rw [Table.map_update hf]; exact t.unique⟩

/-- `INSERT .. ON CONFLICT DO UPDATE SET f`. -/
def upsert (t : Keyed key) (r : α) (f : α → α) (hf : ∀ r, key (f r) = key r) : Keyed key :=
  (t.insert r).getD (t.update (fun r' => key r' == key r) f hf)

variable {t t' : Keyed key} {r r' : α} {k : κ} {p : α → Bool} {f : α → α}

theorem key_get (h : t.get k = some r) : key r = k := Table.row_key h

theorem get_eq_none : t.get k = none ↔ ∀ r ∈ t.rows, key r ≠ k := Table.row_eq_none

theorem insert_isSome : (t.insert r).isSome = true ↔ t.get (key r) = none := by
  rw [get_eq_none]
  unfold insert
  split
  · rename_i h
    exact iff_of_true rfl h
  · rename_i h
    exact iff_of_false nofun h

theorem get_insert (h : t.insert r = some t') (k : κ) : t'.get k = if k = key r then some r else t.get k := by
  have hnone : t.get (key r) = none := insert_isSome.mp (by rw [h]; rfl)
  unfold insert at h
  split at h
  · cases h
    rw [get, Table.row_append]
    by_cases hk : k = key r
    · have hrow : Table.row key k t.rows = none := by rw [hk]; exact hnone
      rw [hrow, if_pos hk, hk]
      simp [Table.row]
    · have hne : key r ≠ k := Ne.symm hk
      simp [get, hk, Table.row, hne]
  · cases h

theorem get_update (hf : ∀ r, key (f r) = key r) (k : κ) :
    (t.update p f hf).get k = (t.get k).map fun r => if p r then f r else r := Table.row_update hf

theorem get_upsert (hf : ∀ r, key (f r) = key r) (k : κ) :
    (t.upsert r f hf).get k = if k = key r then some (((t.get k).map f).getD r) else t.get k := by
  unfold upsert
  cases hi : t.insert r with
  | some t' =>
    have hnone : t.get (key r) = none := insert_isSome.mp (by rw [hi]; rfl)
    rw [Option.getD_some, get_insert hi]
    by_cases hk : k = key r
    · simp [hk, hnone]
    · simp [hk]
  | none =>
    rw [Option.getD_none, get_update]
    by_cases hk : k = key r
    · have hsome : (t.get k).isSome = true := by
        rw [Option.isSome_iff_ne_none, hk]
        intro hnone
        have hins := insert_isSome.mpr hnone
        rw [hi] at hins
        cases hins
      obtain ⟨r', hr'⟩ := Option.isSome_iff_exists.mp hsome
      have hkey : key r' = key r := (key_get hr').trans hk
      simp [hr', if_pos hk, hkey]
    · cases hr : t.get k with
      | none => simp [hk]
      | some r' =>
        have hkey : key r' ≠ key r := fun h => hk ((key_get hr).symm.trans h)
        simp [hk, hkey]

/-- A column that the update does not write. -/
theorem map_rows_upsert {β : Type*} {g : α → β} (hf : ∀ r, key (f r) = key r) (hg : ∀ r, g (f r) = g r) :
    (t.upsert r f hf).rows.map g =
      if t.get (key r) = none then t.rows.map g ++ [g r] else t.rows.map g := by
  unfold upsert
  cases hi : t.insert r with
  | some t' =>
    have hnone : t.get (key r) = none := insert_isSome.mp (by rw [hi]; rfl)
    rw [Option.getD_some, if_pos hnone]
    unfold insert at hi
    split at hi
    · cases hi
      simp
    · cases hi
  | none =>
    have hsome : t.get (key r) ≠ none := by
      intro hnone
      have hins := insert_isSome.mpr hnone
      rw [hi] at hins
      cases hins
    rw [Option.getD_none, if_neg hsome]
    exact Table.map_update hg

end Keyed
