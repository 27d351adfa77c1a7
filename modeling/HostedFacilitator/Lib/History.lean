import Mathlib.Data.List.Nodup
import Mathlib.Data.List.Induction

/-!
# Histories

A history is the list of what happened, oldest first. `last p` is the most recent event with the property `p`; it
splits the history into what came before it and a rest without such events (`last_split`), and `since p` is what came
after it. An event with a key that occurs once is determined by it (`eq_of_key`). `Each P` says that every event was
permitted by what came before it, which is kept up event by event (`each_snoc`).
-/

namespace History

universe u v

variable {ε : Type u} {κ : Type v} {p : ε → Bool} {log : List ε} {e e' : ε}

/-- The most recent event with the property `p`. -/
def last (p : ε → Bool) (log : List ε) : Option ε := (log.filter p).getLast?

@[simp] theorem last_nil : last p ([] : List ε) = none := rfl

theorem last_snoc (h : p e = true) : last p (log ++ [e]) = some e := by
  simp [last, List.filter_append, h]

theorem last_snoc_of_not (h : p e = false) : last p (log ++ [e]) = last p log := by
  simp [last, List.filter_append, h]

/-- The most recent event, with what came before it and after it. -/
theorem last_split (h : last p log = some e) :
    ∃ pre post, log = pre ++ e :: post ∧ p e = true ∧ ∀ e' ∈ post, p e' = false := by
  induction log using List.reverseRecOn with
  | nil => cases h
  | append_singleton log x ih =>
    cases hx : p x with
    | true =>
      rw [last_snoc hx] at h
      cases h
      exact ⟨log, [], rfl, hx, nofun⟩
    | false =>
      rw [last_snoc_of_not hx] at h
      obtain ⟨pre, post, rfl, he, hpost⟩ := ih h
      refine ⟨pre, post ++ [x], by simp, he, fun e' he' => ?_⟩
      rcases List.mem_append.mp he' with he' | he'
      · exact hpost e' he'
      · rw [List.mem_singleton.mp he']
        exact hx

/-- The events after the most recent one with the property `p`, newest first. -/
def since (p : ε → Bool) (log : List ε) : List ε := log.reverse.takeWhile (!p ·)

@[simp] theorem since_nil : since p ([] : List ε) = [] := rfl

theorem since_snoc (h : p e = true) : since p (log ++ [e]) = [] := by
  simp [since, h]

theorem since_snoc_of_not (h : p e = false) : since p (log ++ [e]) = e :: since p log := by
  simp [since, h]

/-- An event is determined by a key that occurs once. -/
theorem eq_of_key {key : ε → Option κ} {k : κ} (hn : (log.filterMap key).Nodup) (h : e ∈ log) (h' : e' ∈ log)
    (hk : key e = some k) (hk' : key e' = some k) : e = e' := by
  induction log with
  | nil => cases h
  | cons x log ih =>
    have hmem : ∀ {y}, y ∈ log → key y = some k → k ∈ log.filterMap key :=
      fun hy hky => List.mem_filterMap.mpr ⟨_, hy, hky⟩
    cases hx : key x with
    | none =>
      rw [List.filterMap_cons_none hx] at hn
      rcases List.mem_cons.mp h with rfl | h
      · rw [hx] at hk; cases hk
      · rcases List.mem_cons.mp h' with rfl | h'
        · rw [hx] at hk'; cases hk'
        · exact ih hn h h'
    | some kx =>
      rw [List.filterMap_cons_some hx, List.nodup_cons] at hn
      rcases List.mem_cons.mp h with rfl | he <;> rcases List.mem_cons.mp h' with rfl | he'
      · rfl
      · rw [hx] at hk
        exact absurd (hmem he' hk') (Option.some.inj hk ▸ hn.1)
      · rw [hx] at hk'
        exact absurd (hmem he hk) (Option.some.inj hk' ▸ hn.1)
      · exact ih hn.2 he he'

/-- Every event stood in the relation `P` to what came before it. -/
def Each (P : List ε → ε → Prop) (log : List ε) : Prop := ∀ pre e post, log = pre ++ e :: post → P pre e

theorem each_nil {P : List ε → ε → Prop} : Each P [] := by
  intro pre e post h
  simp at h

theorem each_snoc {P : List ε → ε → Prop} (h : Each P log) (he : P log e) : Each P (log ++ [e]) := by
  intro pre x post heq
  rcases List.eq_nil_or_concat post with rfl | ⟨post, y, rfl⟩
  · obtain ⟨rfl, hx⟩ := List.append_inj' heq rfl
    rw [← (List.cons.inj hx).1]
    exact he
  · rw [List.concat_eq_append, ← List.cons_append, ← List.append_assoc] at heq
    obtain ⟨hlog, -⟩ := List.append_inj' heq rfl
    exact h pre x post hlog

end History
