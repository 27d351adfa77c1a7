import Mathlib.Algebra.BigOperators.Group.List.Lemmas
import Mathlib.Algebra.Order.Ring.Nat
import Mathlib.Data.List.Count

/-!
# What a list of parties holds

Parties take turns, and a turn replaces one party of the list. `weight` adds up a number over the parties and `held`
puts together what they have in hand; a turn changes both by what it changes for the party whose turn it is
(`weight_set`, `count_held_set`). Everything is said in terms of counts, so that an invariant about who holds what is
linear arithmetic over the parties that move.
-/

namespace Holdings

universe u v

variable {α : Type u} {ρ : Type v} {w : α → Nat} {ps : List α} {p p' : α} {i : Nat}

/-- The sum of a number over the parties. -/
def weight (w : α → Nat) (ps : List α) : Nat := (ps.map w).sum

@[simp] theorem weight_nil : weight w [] = 0 := rfl

@[simp] theorem weight_snoc : weight w (ps ++ [p]) = weight w ps + w p := by simp [weight]

/-- A turn of one party. -/
theorem weight_set (h : ps[i]? = some p) (p' : α) : weight w (ps.set i p') + w p = weight w ps + w p' := by
  obtain ⟨hi, rfl⟩ := List.getElem?_eq_some_iff.mp h
  have hafter : weight w (ps.set i p') = w p' + weight w (ps.eraseIdx i) := by
    simpa [weight] using ((List.set_perm_cons_eraseIdx hi p').map w).sum_eq
  have hbefore : w ps[i] + weight w (ps.eraseIdx i) = weight w ps := by
    simpa [weight] using ((List.getElem_cons_eraseIdx_perm hi).map w).sum_eq
  omega

theorem le_weight (h : ps[i]? = some p) : w p ≤ weight w ps := by
  obtain ⟨hi, rfl⟩ := List.getElem?_eq_some_iff.mp h
  have hbefore : w ps[i] + weight w (ps.eraseIdx i) = weight w ps := by
    simpa [weight] using ((List.getElem_cons_eraseIdx_perm hi).map w).sum_eq
  omega

theorem weight_pos : 0 < weight w ps ↔ ∃ p ∈ ps, 0 < w p := by
  induction ps with
  | nil => simp
  | cons p ps ih =>
    have hsum : weight w (p :: ps) = w p + weight w ps := by simp [weight]
    rw [hsum, Nat.add_pos_iff_pos_or_pos, ih]
    simp

/-- Everything the parties have in hand. -/
def held (hand : α → List ρ) (ps : List α) : List ρ := ps.flatMap hand

section Held

variable [DecidableEq ρ] {hand : α → List ρ} {x : ρ}

theorem count_held : (held hand ps).count x = weight (fun p => (hand p).count x) ps := by
  rw [held, weight, List.count_flatMap]
  rfl

@[simp] theorem count_held_snoc : (held hand (ps ++ [p])).count x = (held hand ps).count x + (hand p).count x := by
  rw [count_held, count_held, weight_snoc]

variable (hand x) in
/-- A turn of one party exchanges what it has in hand. -/
theorem count_held_set (h : ps[i]? = some p) (p' : α) :
    (held hand (ps.set i p')).count x + (hand p).count x = (held hand ps).count x + (hand p').count x := by
  rw [count_held, count_held]
  exact weight_set h p'

end Held

end Holdings
