import HostedFacilitator.Lib.Table

/-!
# Counters in a table

A column counts something that a history records: `Tally columns log` says that every row's counter is the number of
counted events about the row. `columns` is the table seen as keys and counters; an event of `log` is a key, and whether
it is counted. A new row starts at zero (`Tally.add`), an update that counts adds one event (`Tally.bump`), and an event
may go by without being counted (`Tally.skip`). The counter is the number of all events exactly when none went by
(`Tally.counts_all_iff`).
-/

namespace Table

universe u v

variable {α : Type u} {κ : Type v}

/-- The key and the counter of every row. -/
def columns (key : α → κ) (count : α → Nat) (t : List α) : List (κ × Nat) := t.map fun r => (key r, count r)

section Columns

variable {key : α → κ} {count : α → Nat} {t : List α} {f : α → α} {p : α → Bool} {k : κ}

theorem columns_keys : (columns key count t).map Prod.fst = t.map key := by
  rw [columns, List.map_map]
  rfl

/-- An update that writes neither column. -/
theorem columns_update (hk : ∀ r, key (f r) = key r) (hc : ∀ r, count (f r) = count r) :
    columns key count (update p f t) = columns key count t :=
  map_update fun r => by rw [hk, hc]

/-- An update that counts one row. -/
theorem columns_bump [DecidableEq κ] (hk : ∀ r, key (f r) = key r) (hc : ∀ r, count (f r) = count r + 1) :
    columns key count (update (fun r => key r == k) f t) =
      (columns key count t).map fun c => if c.1 = k then (c.1, c.2 + 1) else c := by
  rw [columns, columns, update, List.map_map, List.map_map]
  apply List.map_congr_left
  intro r _
  by_cases h : key r = k
  · simp [h, hk, hc]
  · simp [h]

end Columns

variable [DecidableEq κ]

/-- Every counter is the number of counted events of its row, and events are about rows of the table. -/
structure Tally (columns : List (κ × Nat)) (log : List (κ × Bool)) : Prop where
  known : ∀ e ∈ log, e.1 ∈ columns.map Prod.fst
  exact : ∀ c ∈ columns, c.2 = log.count (c.1, true)

namespace Tally

variable {cs : List (κ × Nat)} {log : List (κ × Bool)} {k : κ}

theorem start : Tally ([] : List (κ × Nat)) [] := ⟨by simp, by simp⟩

/-- A row with a new key. -/
theorem add (h : Tally cs log) (hk : k ∉ cs.map Prod.fst) : Tally (cs ++ [(k, 0)]) log := by
  refine ⟨fun e he => ?_, fun c hc => ?_⟩
  · rw [List.map_append]
    exact List.mem_append_left _ (h.known e he)
  · rcases List.mem_append.mp hc with hc | hc
    · exact h.exact c hc
    · rw [List.mem_singleton.mp hc]
      refine (List.count_eq_zero.mpr fun hmem => ?_).symm
      exact hk (h.known _ hmem)

/-- An event about a row, counted in the row. -/
theorem bump (h : Tally cs log) (hk : k ∈ cs.map Prod.fst) :
    Tally (cs.map fun c => if c.1 = k then (c.1, c.2 + 1) else c) (log ++ [(k, true)]) := by
  have hkeys : (cs.map fun c => if c.1 = k then (c.1, c.2 + 1) else c).map Prod.fst = cs.map Prod.fst := by
    rw [List.map_map]
    apply List.map_congr_left
    intro c _
    simp only [Function.comp_apply]
    split <;> rfl
  refine ⟨fun e he => ?_, fun c hc => ?_⟩
  · rw [hkeys]
    rcases List.mem_append.mp he with he | he
    · exact h.known e he
    · rw [List.mem_singleton.mp he]
      exact hk
  · obtain ⟨c', hc', rfl⟩ := List.mem_map.mp hc
    rw [List.count_append]
    have hold := h.exact c' hc'
    by_cases hck : c'.1 = k
    · simp [hck, hold]
    · simp [hck, hold, Ne.symm hck]

/-- An event about a row that is not counted. -/
theorem skip (h : Tally cs log) (hk : k ∈ cs.map Prod.fst) : Tally cs (log ++ [(k, false)]) := by
  refine ⟨fun e he => ?_, fun c hc => ?_⟩
  · rcases List.mem_append.mp he with he | he
    · exact h.known e he
    · rw [List.mem_singleton.mp he]
      exact hk
  · rw [List.count_append, h.exact c hc]
    simp

/-- The order of the events does not count. -/
theorem perm {log' : List (κ × Bool)} (h : Tally cs log) (hp : log.Perm log') : Tally cs log' := by
  refine ⟨fun e he => h.known e (hp.mem_iff.mpr he), fun c hc => ?_⟩
  rw [h.exact c hc]
  exact hp.count_eq _

/-- The events of a row are those that were counted and those that were not. -/
theorem count_fst (log : List (κ × Bool)) (k : κ) :
    (log.map Prod.fst).count k = log.count (k, true) + log.count (k, false) := by
  induction log with
  | nil => rfl
  | cons e log ih =>
    obtain ⟨k', b⟩ := e
    simp only [List.map_cons, List.count_cons, ih]
    by_cases h : k' = k
    · cases b <;> simp [h] <;> omega
    · simp [h]

/-- The counters are the numbers of all events exactly when every event was counted. -/
theorem counts_all_iff (h : Tally cs log) :
    (∀ c ∈ cs, c.2 = (log.map Prod.fst).count c.1) ↔ ∀ e ∈ log, e.2 = true := by
  constructor
  · intro hall e he
    obtain ⟨k, b⟩ := e
    cases b with
    | true => rfl
    | false =>
      obtain ⟨c, hc, hck⟩ := List.mem_map.mp (h.known _ he)
      have hsum := hall c hc
      rw [count_fst, h.exact c hc] at hsum
      have hpos : 0 < log.count (c.1, false) := by
        rw [List.count_pos_iff, hck]
        exact he
      omega
  · intro hall c hc
    have hnone : log.count (c.1, false) = 0 := by
      refine List.count_eq_zero.mpr fun hmem => ?_
      cases hall _ hmem
    rw [count_fst, h.exact c hc, hnone, Nat.add_zero]

end Tally

end Table
