import Mathlib.Data.List.TakeWhile

/-!
# Trimming

`trim p l` drops the elements at both ends of `l` that satisfy `p`. What is left is between two stretches of `p`
(`exists_trim`), and a core without `p` between two such stretches is what is left (`trim_append`); so a stronger
condition trims to the same core where the core is free of the weaker one (`trim_of_imp`). Trimming again changes nothing
(`trim_trim`).
-/

namespace Trim

universe u v

variable {α : Type u} {β : Type v}

/-- Drop what satisfies `p` at both ends. -/
def trim (p : α → Bool) (l : List α) : List α := ((l.dropWhile p).reverse.dropWhile p).reverse

variable {p q : α → Bool} {l : List α}

theorem trim_map (p : β → Bool) (f : α → β) (l : List α) : trim p (l.map f) = (trim (p ∘ f) l).map f := by
  rw [trim, List.dropWhile_map, ← List.map_reverse, List.dropWhile_map, ← List.map_reverse, trim]

/-- The list is what is left, between two stretches of `p`. -/
theorem exists_trim (p : α → Bool) (l : List α) :
    ∃ pre post, l = pre ++ (trim p l ++ post) ∧ (∀ a ∈ pre, p a = true) ∧ ∀ a ∈ post, p a = true := by
  refine ⟨l.takeWhile p, ((l.dropWhile p).reverse.takeWhile p).reverse, ?_, fun a ha => List.mem_takeWhile_imp ha,
    fun a ha => List.mem_takeWhile_imp (List.mem_reverse.mp ha)⟩
  rw [trim, ← List.reverse_append, List.takeWhile_append_dropWhile, List.reverse_reverse,
    List.takeWhile_append_dropWhile]

theorem dropWhile_append_of_neg {core post : List α} (h : ∀ a ∈ core, p a = false) (hne : core ≠ []) :
    (core ++ post).dropWhile p = core ++ post := by
  cases core with
  | nil => exact absurd rfl hne
  | cons a core => rw [List.cons_append, List.dropWhile_cons_of_neg (by simp [h a List.mem_cons_self])]

/-- A core without `p` between two stretches of `p` is what is left. -/
theorem trim_append {pre core post : List α} (hpre : ∀ a ∈ pre, p a = true) (hcore : ∀ a ∈ core, p a = false)
    (hne : core ≠ []) (hpost : ∀ a ∈ post, p a = true) : trim p (pre ++ (core ++ post)) = core := by
  rw [trim, List.dropWhile_append_of_pos hpre, dropWhile_append_of_neg hcore hne, List.reverse_append,
    List.dropWhile_append_of_pos fun a ha => hpost a (List.mem_reverse.mp ha)]
  have hreverse : (core.reverse ++ []).dropWhile p = core.reverse ++ [] :=
    dropWhile_append_of_neg (fun a ha => hcore a (List.mem_reverse.mp ha)) (by simpa using hne)
  rw [List.append_nil] at hreverse
  rw [hreverse, List.reverse_reverse]

/-- A weaker condition trims to the same core, where the core is free of it. -/
theorem trim_of_imp (himp : ∀ a, q a = true → p a = true) (hcore : ∀ a ∈ trim q l, p a = false)
    (hne : trim q l ≠ []) : trim p l = trim q l := by
  obtain ⟨pre, post, hl, hpre, hpost⟩ := exists_trim q l
  have htrim := trim_append (fun a ha => himp a (hpre a ha)) hcore hne fun a ha => himp a (hpost a ha)
  rwa [← hl] at htrim

/-- A list whose ends stay. -/
theorem trim_of_ends (hfirst : ∀ a, l.head? = some a → p a = false) (hlast : ∀ a, l.getLast? = some a → p a = false) :
    trim p l = l := by
  have hdrop : ∀ l : List α, (∀ a, l.head? = some a → p a = false) → l.dropWhile p = l := by
    intro l hl
    cases l with
    | nil => rfl
    | cons a l => rw [List.dropWhile_cons_of_neg (by simp [hl a rfl])]
  have hreverse : l.reverse.dropWhile p = l.reverse := hdrop _ fun a ha => hlast a (by rwa [List.head?_reverse] at ha)
  rw [trim, hdrop l hfirst, hreverse, List.reverse_reverse]

theorem trim_cons {a : α} (h : p a = true) : trim p (a :: l) = trim p l := by
  rw [trim, List.dropWhile_cons_of_pos h, trim]

theorem trim_trim (p : α → Bool) (l : List α) : trim p (trim p l) = trim p l := by
  have hhead : ∀ (l : List α) (a : α), (l.dropWhile p).head? = some a → p a = false := by
    intro l a ha
    have hnot := List.head?_dropWhile_not p l
    rw [ha] at hnot
    exact hnot
  refine trim_of_ends (fun a ha => ?_) fun a ha => ?_
  · -- what is left after the second cut begins as what was left after the first
    obtain ⟨tail, htail⟩ := List.dropWhile_suffix p (l := (l.dropWhile p).reverse)
    have hsplit : l.dropWhile p = trim p l ++ tail.reverse := by
      rw [trim, ← List.reverse_append, htail, List.reverse_reverse]
    refine hhead l a ?_
    rw [hsplit, List.head?_append, ha]
    rfl
  · rw [trim, List.getLast?_reverse] at ha
    exact hhead _ a ha

end Trim
