import Mathlib.Data.List.Nodup
import Mathlib.Data.List.Lattice

/-!
# Tables

A table is the list of its rows, in the order in which they were added. `update` is the statement
`UPDATE .. SET f WHERE p`, `row` is the lookup by a key, `least` is `ORDER BY key LIMIT 1`. Keys that the update
does not touch keep their values (`map_update`), so lookups commute with it (`row_update`).
-/

namespace Table

universe u v w

variable {α : Type u} {κ : Type v} {β : Type w}

/-- `UPDATE .. SET f WHERE p`. -/
def update (p : α → Bool) (f : α → α) (t : List α) : List α :=
  t.map fun r => if p r then f r else r

/-- The first row with the key `k`. -/
def row [DecidableEq κ] (key : α → κ) (k : κ) (t : List α) : Option α :=
  t.find? fun r => key r == k

/-- A row with the least key: `ORDER BY key ASC LIMIT 1`. -/
def least (key : α → Nat) : List α → Option α
  | [] => none
  | r :: t =>
    match least key t with
    | none => some r
    | some r' => if key r ≤ key r' then some r else some r'

/-! ## Updates -/

section Update

variable {p : α → Bool} {f : α → α} {key : α → κ} {t t' : List α} {r r' : α}

@[simp] theorem update_nil : update p f [] = [] := rfl

@[simp] theorem update_append : update p f (t ++ t') = update p f t ++ update p f t' := by simp [update]

theorem mem_update : r' ∈ update p f t ↔ ∃ r ∈ t, (if p r then f r else r) = r' := by simp [update]

theorem mem_update_of_not (h : r ∈ t) (hp : p r = false) : r ∈ update p f t :=
  mem_update.mpr ⟨r, h, by simp [hp]⟩

/-- A column that the update does not write keeps its values. -/
theorem map_update {g : α → β} (h : ∀ r, g (f r) = g r) : (update p f t).map g = t.map g := by
  simp only [update, List.map_map]
  apply List.map_congr_left
  intro r _
  simp only [Function.comp_apply]
  split
  · exact h r
  · rfl

/-- An update seen through a view of the rows. -/
theorem map_update_view {g : α → β} {q : β → Bool} {f' : β → β} (hp : ∀ r ∈ t, q (g r) = p r)
    (hf : ∀ r, g (f r) = f' (g r)) : (update p f t).map g = update q f' (t.map g) := by
  simp only [update, List.map_map]
  apply List.map_congr_left
  intro r hr
  simp only [Function.comp_apply, hp r hr]
  split
  · exact hf r
  · rfl

theorem update_of_none (h : ∀ r ∈ t, p r = false) : update p f t = t := by
  conv_rhs => rw [← List.map_id t]
  apply List.map_congr_left
  intro r hr
  simp [h r hr]

/-- A row with a new key keeps the keys unique. -/
theorem nodup_append_fresh (hn : (t.map key).Nodup) (h : ∀ r' ∈ t, key r' ≠ key r) :
    ((t ++ [r]).map key).Nodup := by
  rw [List.map_append, List.nodup_append]
  refine ⟨hn, by simp, ?_⟩
  intro a ha b hb
  obtain ⟨r', hr', rfl⟩ := List.mem_map.mp ha
  rw [List.map_singleton, List.mem_singleton] at hb
  exact hb ▸ h r' hr'

/-- A key that occurs at most once has at most one row. -/
theorem eq_of_count_le_one [DecidableEq κ] {k : κ} (h : (t.map key).count k ≤ 1) (hr : r ∈ t) (hk : key r = k)
    (hr' : r' ∈ t) (hk' : key r' = k) : r = r' := by
  have hlen : (t.filter fun x => key x == k).length ≤ 1 := by
    rwa [List.count_eq_countP, List.countP_map, List.countP_eq_length_filter] at h
  have hmem : ∀ x ∈ t, key x = k → x ∈ t.filter fun x => key x == k :=
    fun x hx hkey => List.mem_filter.mpr ⟨hx, beq_iff_eq.mpr hkey⟩
  have hfirst := hmem r hr hk
  have hsecond := hmem r' hr' hk'
  match hrows : t.filter fun x => key x == k with
  | [] =>
    rw [hrows] at hfirst
    cases hfirst
  | [x] =>
    rw [hrows, List.mem_singleton] at hfirst hsecond
    exact hfirst.trans hsecond.symm
  | _ :: _ :: _ =>
    rw [hrows] at hlen
    simp at hlen

end Update

/-! ## Rows by position -/

section Position

variable {t : List α} {i j : Nat} {r r' : α}

/-- The rows after one of them was replaced. -/
theorem set_cases (h : (t.set i r)[j]? = some r') : j = i ∧ r' = r ∨ j ≠ i ∧ t[j]? = some r' := by
  rw [List.getElem?_set] at h
  split at h
  · rename_i hij
    split at h
    · exact Or.inl ⟨hij.symm, (Option.some.inj h).symm⟩
    · cases h
  · rename_i hij
    exact Or.inr ⟨Ne.symm hij, h⟩

/-- A column in which the new row agrees with the one it replaces. -/
theorem map_set_of_eq {g : α → β} (h : t[i]? = some r) (hg : g r' = g r) : (t.set i r').map g = t.map g := by
  obtain ⟨hi, rfl⟩ := List.getElem?_eq_some_iff.mp h
  have hi' : i < (t.map g).length := by simpa using hi
  have hset := List.set_getElem_self hi'
  rwa [List.getElem_map, ← hg, ← List.map_set] at hset

/-- The rows after one was added. -/
theorem append_cases (h : (t ++ [r])[j]? = some r') : t[j]? = some r' ∨ j = t.length ∧ r' = r := by
  rw [List.getElem?_append] at h
  split at h
  · exact Or.inl h
  · rename_i hj
    rw [List.getElem?_singleton] at h
    split at h
    · exact Or.inr ⟨by omega, (Option.some.inj h).symm⟩
    · cases h

end Position

/-! ## Lookups by a key -/

section Row

variable [DecidableEq κ] {key : α → κ} {k : κ} {p : α → Bool} {f : α → α} {t t' : List α} {r r' : α}

theorem row_mem (h : row key k t = some r) : r ∈ t := List.mem_of_find?_eq_some h

theorem row_key (h : row key k t = some r) : key r = k := by
  simpa using List.find?_some h

theorem row_eq_none : row key k t = none ↔ ∀ r ∈ t, key r ≠ k := by simp [row]

theorem row_isSome (h : r ∈ t) (hk : key r = k) : ∃ r', row key k t = some r' := by
  cases hr : row key k t with
  | none => exact absurd hk (row_eq_none.mp hr r h)
  | some r' => exact ⟨r', rfl⟩

theorem row_of_mem (hn : (t.map key).Nodup) (h : r ∈ t) : row key (key r) t = some r := by
  obtain ⟨r', hr'⟩ : ∃ r', row key (key r) t = some r' := row_isSome h rfl
  rw [hr', List.inj_on_of_nodup_map hn (row_mem hr') h (row_key hr')]

theorem row_eq_some (hn : (t.map key).Nodup) : row key k t = some r ↔ r ∈ t ∧ key r = k := by
  constructor
  · exact fun h => ⟨row_mem h, row_key h⟩
  · rintro ⟨h, rfl⟩
    exact row_of_mem hn h

theorem row_update (h : ∀ r, key (f r) = key r) :
    row key k (update p f t) = (row key k t).map fun r => if p r then f r else r := by
  induction t with
  | nil => rfl
  | cons r t ih =>
    have hk : key (if p r then f r else r) = key r := by split <;> simp [h]
    simp only [row, update, List.map_cons, List.find?_cons, hk] at ih ⊢
    split
    · rfl
    · exact ih

theorem row_append : row key k (t ++ t') = (row key k t).or (row key k t') := by
  simp [row, List.find?_append]

/-- A unique key selects at most one row. -/
theorem length_filter_le_one (hn : (t.map key).Nodup) (k : κ) : (t.filter fun r => key r == k).length ≤ 1 := by
  have hc := List.nodup_iff_count_le_one.mp hn k
  rw [List.count, List.countP_map, List.countP_eq_length_filter] at hc
  exact hc

/-- With unique keys a guard on one key decides about one row. -/
theorem update_guard {g : α → Bool} (hn : (t.map key).Nodup) (hr : row key k t = some r) :
    update (fun r => key r == k && g r) f t = if g r then update (fun r => key r == k) f t else t := by
  have hg : ∀ r' ∈ t, key r' = k → g r' = g r := by
    intro r' hr' hk
    rw [List.inj_on_of_nodup_map hn hr' (row_mem hr) (hk.trans (row_key hr).symm)]
  by_cases h : g r = true
  · rw [if_pos h]
    apply List.map_congr_left
    intro r' hr'
    by_cases hk : key r' = k
    · simp [hk, hg r' hr' hk, h]
    · simp [hk]
  · rw [if_neg h]
    apply update_of_none
    intro r' hr'
    by_cases hk : key r' = k
    · simp [hg r' hr' hk, h]
    · simp [hk]

/-- With unique keys an update of one key may be computed from the row it finds. -/
theorem update_const (hn : (t.map key).Nodup) (hr : row key k t = some r) :
    update (fun r => key r == k) (fun _ => f r) t = update (fun r => key r == k) f t := by
  apply List.map_congr_left
  intro r' hr'
  by_cases hk : key r' = k
  · rw [List.inj_on_of_nodup_map hn hr' (row_mem hr) (hk.trans (row_key hr).symm)]
  · simp [hk]

/-- A row that is replaced by one with its key is found. -/
theorem row_update_self {r' : α} (hr : row key k t = some r) (hk : key r' = k) :
    row key k (update (fun r => key r == k) (fun _ => r') t) = some r' := by
  induction t with
  | nil => cases hr
  | cons a t ih =>
    by_cases ha : key a = k
    · simp [row, update, ha, hk]
    · have htail : row key k t = some r := by simpa [row, ha] using hr
      simpa [row, update, ha] using ih htail

/-- Some row passes a guard on one key exactly when the row with that key does. -/
theorem any_guard {g : α → Bool} (hn : (t.map key).Nodup) :
    t.any (fun r => key r == k && g r) = true ↔ ∃ r, row key k t = some r ∧ g r = true := by
  simp only [List.any_eq_true, Bool.and_eq_true, beq_iff_eq]
  constructor
  · rintro ⟨r, hr, hk, hg⟩
    exact ⟨r, (row_eq_some hn).mpr ⟨hr, hk⟩, hg⟩
  · rintro ⟨r, hr, hg⟩
    exact ⟨r, row_mem hr, row_key hr, hg⟩

/-- The row a guard on one key selects. -/
theorem find_guard {g : α → Bool} (hn : (t.map key).Nodup) (h : t.find? (fun r => key r == k && g r) = some r) :
    row key k t = some r ∧ g r = true := by
  have hp := List.find?_some h
  rw [Bool.and_eq_true, beq_iff_eq] at hp
  exact ⟨(row_eq_some hn).mpr ⟨List.mem_of_find?_eq_some h, hp.1⟩, hp.2⟩

end Row

/-! ## The least row -/

section Least

variable {key : α → Nat} {t : List α} {r : α}

theorem least_mem (h : least key t = some r) : r ∈ t := by
  induction t with
  | nil => cases h
  | cons a t ih =>
    simp only [least] at h
    split at h
    · exact Option.some.inj h ▸ List.mem_cons_self
    · rename_i b hb
      split at h
      · exact Option.some.inj h ▸ List.mem_cons_self
      · exact List.mem_cons_of_mem _ (ih (hb.trans h))

theorem least_eq_none : least key t = none ↔ t = [] := by
  cases t with
  | nil => simp [least]
  | cons a t =>
    simp only [least]
    split
    · simp
    · split <;> simp

end Least

end Table
