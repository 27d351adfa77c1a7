import Mathlib.Data.List.Basic

/-!
# Separators

Lists joined around a separator can be taken apart again, at the first separator if the front has none (`joined_inj`)
and at the last if the back has none (`joined_inj_last`). The parts of a list that was split have no separator
(`not_mem_of_mem_splitOn`), and a second element after each separator goes to the parts (`intercalate_pair`).
-/

namespace Separator

universe u

variable {α : Type u} {sep : α} {a a' b b' : List α}

/-- The first separator splits the text. -/
theorem joined_inj (ha : sep ∉ a) (ha' : sep ∉ a') (h : a ++ sep :: b = a' ++ sep :: b') : a = a' ∧ b = b' := by
  induction a generalizing a' with
  | nil =>
    cases a' with
    | nil => exact ⟨rfl, (List.cons.inj h).2⟩
    | cons x a' => exact absurd (List.cons.inj h).1 fun hx => ha' (hx ▸ List.mem_cons_self)
  | cons x a ih =>
    cases a' with
    | nil => exact absurd (List.cons.inj h).1.symm fun hx => ha (hx ▸ List.mem_cons_self)
    | cons x' a' =>
      obtain ⟨rfl, htail⟩ := List.cons.inj h
      obtain ⟨rfl, hb⟩ := ih (fun hm => ha (List.mem_cons_of_mem _ hm)) (fun hm => ha' (List.mem_cons_of_mem _ hm)) htail
      exact ⟨rfl, hb⟩

/-- The last separator splits the text. -/
theorem joined_inj_last (hb : sep ∉ b) (hb' : sep ∉ b') (h : a ++ sep :: b = a' ++ sep :: b') : a = a' ∧ b = b' := by
  have hrev : b.reverse ++ sep :: a.reverse = b'.reverse ++ sep :: a'.reverse := by
    simpa using congrArg List.reverse h
  obtain ⟨h₁, h₂⟩ := joined_inj (by simpa using hb) (by simpa using hb') hrev
  exact ⟨List.reverse_inj.mp h₂, List.reverse_inj.mp h₁⟩

theorem not_mem_of_mem_splitOn [DecidableEq α] {l part : List α} (h : part ∈ l.splitOn sep) : sep ∉ part := by
  induction l generalizing part with
  | nil =>
    rw [List.splitOn_nil, List.mem_singleton] at h
    exact h ▸ List.not_mem_nil
  | cons x l ih =>
    rw [List.splitOn_cons_eq_if_modifyHead] at h
    split at h
    · rcases List.mem_cons.mp h with rfl | h
      · exact List.not_mem_nil
      · exact ih h
    · rename_i hx
      have hne : sep ≠ x := fun heq => hx (by simp [heq])
      cases hsplit : l.splitOn sep with
      | nil => exact absurd hsplit (List.splitOn_ne_nil sep l)
      | cons first rest =>
        rw [hsplit] at h ih
        rcases List.mem_cons.mp h with rfl | h
        · exact List.not_mem_cons_of_ne_of_not_mem hne (ih List.mem_cons_self)
        · exact ih (List.mem_cons_of_mem _ h)

theorem intercalate_pair (second : α) (part : List α) (parts : List (List α)) :
    [sep, second].intercalate (part :: parts) = [sep].intercalate (part :: parts.map (second :: ·)) := by
  induction parts generalizing part with
  | nil => simp [List.intercalate]
  | cons next parts ih =>
    rw [List.intercalate_cons_cons, ih next, List.map_cons, List.intercalate_cons_cons, List.intercalate_cons_cons_left]
    simp

end Separator
