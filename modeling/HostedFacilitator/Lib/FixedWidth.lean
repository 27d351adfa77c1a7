import HostedFacilitator.Lib.Decimal
import Mathlib.Data.List.Lex

/-!
# Texts of fixed-width fields

A number written with a fixed number of decimal digits, and texts that put such fields one after the other. Texts are
compared character by character. The text of a smaller number comes first (`lastDigits_lt`), and of two texts that begin
with fields of the same width the first difference decides (`append_lt`).
-/

namespace FixedWidth

open Decimal (lastDigits length_lastDigits)

theorem digitChar_lt : ∀ m < 10, ∀ n < m, Nat.digitChar n < Nat.digitChar m := by decide

section Texts

variable {α : Type*} [LT α] {s t s' t' : List α}

/-- The first fields decide. -/
theorem append_lt (h : s < t) (hlength : s.length = t.length) (s' t' : List α) : s ++ s' < t ++ t' := by
  induction s generalizing t with
  | nil =>
    cases t with
    | nil => cases h
    | cons b t => cases hlength
  | cons a s ih =>
    cases t with
    | nil => cases hlength
    | cons b t =>
      rw [List.cons_append, List.cons_append, List.cons_lt_cons_iff]
      rcases List.cons_lt_cons_iff.mp h with hab | ⟨hab, hst⟩
      · exact .inl hab
      · exact .inr ⟨hab, ih hst (Nat.succ.inj hlength)⟩

/-- Equal first fields leave it to the rest. -/
theorem append_lt_of_eq (h : s = t) (hrest : s' < t') : s ++ s' < t ++ t' := by
  subst h
  exact List.append_left_lt hrest

end Texts

/-- A smaller number is written in a smaller text. -/
theorem lastDigits_lt {w m n : Nat} (h : m < n) (hn : n < 10 ^ w) : lastDigits w m < lastDigits w n := by
  induction w generalizing m n with
  | zero => omega
  | succ w ih =>
    rw [lastDigits, lastDigits]
    rw [Nat.pow_succ] at hn
    by_cases hhigh : m / 10 < n / 10
    · exact append_lt (ih hhigh (by omega)) (by rw [length_lastDigits, length_lastDigits]) _ _
    · have heq : m / 10 = n / 10 := by omega
      refine append_lt_of_eq (by rw [heq]) ?_
      rw [List.cons_lt_cons_iff]
      exact .inl (digitChar_lt _ (by omega) _ (by omega))

/-- A field of `w` digits in front of another text. -/
theorem field_lt {w m n : Nat} {s t : List Char} (hn : n < 10 ^ w) (h : m < n ∨ m = n ∧ s < t) :
    lastDigits w m ++ s < lastDigits w n ++ t := by
  rcases h with h | ⟨rfl, h⟩
  · exact append_lt (lastDigits_lt h hn) (by rw [length_lastDigits, length_lastDigits]) _ _
  · exact append_lt_of_eq rfl h

end FixedWidth
