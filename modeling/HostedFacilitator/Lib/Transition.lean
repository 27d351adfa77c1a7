import Mathlib.Data.List.Induction

/-!
# Labelled transition systems with an executable step

A system is a start state and a partial step function: `next s e` is the state after the event `e`, or `none` when
`e` cannot happen in `s`. `run` replays a list of events; a state is reachable when some list leads to it.

* `Reachable.invariant`: what holds at the start and is kept by every step holds in every reachable state;
* `Reaches.invariant_of`: the same, for runs all of whose steps satisfy a condition;
* `Reaches.history`: the same for a relation between the events so far and the state;
* `Leads.keeps`, `Leads.invariant`: what one step keeps, a whole segment keeps;
* `Reaches.split`: the state in the middle of a run;
* `observed`: what an observer of every step has seen; `along_iff_observed` turns it into a condition on the steps.
-/

namespace Transition

universe u v w

/-- A start state and a partial step function. -/
structure Machine (σ : Type u) (ε : Type v) where
  start : σ
  next : σ → ε → Option σ

namespace Machine

variable {σ : Type u} {ε : Type v} (M : Machine σ ε)

/-- Replay a list of events, oldest first. -/
def run : σ → List ε → Option σ
  | s, [] => some s
  | s, e :: es => (M.next s e).bind fun s' => run s' es

/-- The events `es` lead from `s` to `t`. -/
def Leads (s : σ) (es : List ε) (t : σ) : Prop := M.run s es = some t

/-- The events `es` lead from the start to `s`. -/
def Reaches (es : List ε) (s : σ) : Prop := M.Leads M.start es s

/-- Some run ends in `s`. -/
def Reachable (s : σ) : Prop := ∃ es, M.Reaches es s

/-- Every step of the run satisfies `ok`, read at the state before the step. -/
def Along (ok : σ → ε → Prop) : σ → List ε → Prop
  | _, [] => True
  | s, e :: es => ok s e ∧ ∀ s', M.next s e = some s' → Along ok s' es

/-- A condition that can be computed can be checked along a run. -/
def decidableAlong {ok : σ → ε → Prop} [∀ s e, Decidable (ok s e)] : (s : σ) → (es : List ε) → Decidable (Along M ok s es)
  | _, [] => isTrue trivial
  | s, e :: es => match hn : M.next s e with
    | none => decidable_of_iff (ok s e) (by simp [Along, hn])
    | some s' =>
      have : Decidable (Along M ok s' es) := decidableAlong s' es
      decidable_of_iff (ok s e ∧ Along M ok s' es) (by simp [Along, hn])

instance {ok : σ → ε → Prop} [∀ s e, Decidable (ok s e)] {s : σ} {es : List ε} : Decidable (M.Along ok s es) :=
  M.decidableAlong s es

/-- What is observed along a run, oldest first; `obs` looks at the state before the step. -/
def observed {ω : Type w} (obs : σ → ε → Option ω) : σ → List ε → List ω
  | _, [] => []
  | s, e :: es => (obs s e).toList ++ ((M.next s e).map fun s' => observed obs s' es).getD []

variable {M} {s t u : σ} {e : ε} {es fs : List ε}

@[simp] theorem leads_nil : M.Leads s [] t ↔ s = t := by simp [Leads, run]

theorem leads_cons : M.Leads s (e :: es) t ↔ ∃ u, M.next s e = some u ∧ M.Leads u es t := by
  simp [Leads, run, Option.bind_eq_some_iff]

theorem leads_append : M.Leads s (es ++ fs) t ↔ ∃ u, M.Leads s es u ∧ M.Leads u fs t := by
  induction es generalizing s with
  | nil => simp
  | cons e es ih =>
    simp only [List.cons_append, leads_cons, ih]
    constructor
    · rintro ⟨v, hv, u, hu, ht⟩
      exact ⟨u, ⟨v, hv, hu⟩, ht⟩
    · rintro ⟨u, ⟨v, hv, hu⟩, ht⟩
      exact ⟨v, hv, u, hu, ht⟩

theorem leads_snoc : M.Leads s (es ++ [e]) t ↔ ∃ u, M.Leads s es u ∧ M.next u e = some t := by
  simp [leads_append, leads_cons]

theorem Leads.trans (h : M.Leads s es u) (h' : M.Leads u fs t) : M.Leads s (es ++ fs) t :=
  leads_append.mpr ⟨u, h, h'⟩

theorem Reachable.start : M.Reachable M.start := ⟨[], rfl⟩

theorem Reachable.leads (h : M.Reachable s) (h' : M.Leads s es t) : M.Reachable t := by
  obtain ⟨fs, hf⟩ := h
  exact ⟨fs ++ es, Leads.trans hf h'⟩

theorem Reachable.step (h : M.Reachable s) (h' : M.next s e = some t) : M.Reachable t :=
  have hl : M.Leads s [e] t := leads_cons.mpr ⟨t, h', leads_nil.mpr rfl⟩
  h.leads hl

/-- The state before and after an event in the middle of a run. -/
theorem Reaches.split (h : M.Reaches (es ++ e :: fs) t) :
    ∃ s u, M.Reaches es s ∧ M.next s e = some u ∧ M.Leads u fs t := by
  obtain ⟨s, hs, h'⟩ := leads_append.mp h
  obtain ⟨u, hu, ht⟩ := leads_cons.mp h'
  exact ⟨s, u, hs, hu, ht⟩

/-! ## Invariant rules -/

/-- A relation between the events so far and the state, kept by every step. -/
theorem Reaches.history {H : List ε → σ → Prop} (start : H [] M.start)
    (step : ∀ es s e t, M.Reaches es s → H es s → M.next s e = some t → H (es ++ [e]) t)
    (h : M.Reaches es s) : H es s := by
  induction es using List.reverseRecOn generalizing s with
  | nil => exact leads_nil.mp h ▸ start
  | append_singleton es e ih =>
    obtain ⟨u, hu, hs⟩ := leads_snoc.mp h
    exact step es u e s hu (ih hu) hs

theorem Reachable.invariant {I : σ → Prop} (start : I M.start)
    (step : ∀ s e t, M.Reachable s → I s → M.next s e = some t → I t) (h : M.Reachable s) : I s := by
  obtain ⟨es, h⟩ := h
  exact h.history (H := fun _ s => I s) start fun es s e t hr hi hn => step s e t ⟨es, hr⟩ hi hn

theorem along_append {ok : σ → ε → Prop} (ha : M.Along ok s (es ++ fs)) (h : M.Leads s es t) :
    M.Along ok s es ∧ M.Along ok t fs := by
  induction es generalizing s with
  | nil => exact ⟨trivial, leads_nil.mp h ▸ ha⟩
  | cons e es ih =>
    obtain ⟨u, hu, h'⟩ := leads_cons.mp h
    obtain ⟨he, hrest⟩ := ha
    refine ⟨⟨he, fun u' hu' => ?_⟩, (ih (hrest u hu) h').2⟩
    rw [hu] at hu'
    exact Option.some.inj hu' ▸ (ih (hrest u hu) h').1

theorem Along.append {ok : σ → ε → Prop} (ha : M.Along ok s es) (h : M.Leads s es t) (ha' : M.Along ok t fs) :
    M.Along ok s (es ++ fs) := by
  induction es generalizing s with
  | nil => exact leads_nil.mp h ▸ ha'
  | cons e es ih =>
    obtain ⟨u, hu, h'⟩ := leads_cons.mp h
    refine ⟨ha.1, fun u' hu' => ?_⟩
    rw [hu] at hu'
    exact Option.some.inj hu' ▸ ih (ha.2 u hu) h'

theorem Along.mono {ok ok' : σ → ε → Prop} (h : M.Along ok s es) (himp : ∀ s e, ok s e → ok' s e) :
    M.Along ok' s es := by
  induction es generalizing s with
  | nil => trivial
  | cons e es ih => exact ⟨himp s e h.1, fun u hu => ih (h.2 u hu)⟩

/-- A condition that the events meet in every state holds along every run of them. -/
theorem along_of_forall {ok : σ → ε → Prop} (h : ∀ e ∈ es, ∀ s, ok s e) : M.Along ok s es := by
  induction es generalizing s with
  | nil => trivial
  | cons e es ih =>
    refine ⟨h e List.mem_cons_self s, fun u _ => ih fun e' he' => h e' (List.mem_cons_of_mem e he')⟩

/-- A condition that every possible step meets holds along every run. -/
theorem Leads.along {ok : σ → ε → Prop} (step : ∀ s e t, M.Reachable s → M.next s e = some t → ok s e)
    (hs : M.Reachable s) (h : M.Leads s es t) : M.Along ok s es := by
  induction es generalizing s with
  | nil => trivial
  | cons e es ih =>
    obtain ⟨u, hu, h'⟩ := leads_cons.mp h
    refine ⟨step s e u hs hu, fun u' hu' => ?_⟩
    rw [hu] at hu'
    exact Option.some.inj hu' ▸ ih (hs.step hu) h'

/-- An invariant of the runs all of whose steps satisfy `ok`. -/
theorem Reaches.invariant_of {ok : σ → ε → Prop} {I : σ → Prop} (start : I M.start)
    (step : ∀ s e t, M.Reachable s → I s → ok s e → M.next s e = some t → I t)
    (h : M.Reaches es s) (ha : M.Along ok M.start es) : I s := by
  refine h.history (H := fun es s => M.Along ok M.start es → I s) (fun _ => start) ?_ ha
  intro es s e t hr hi hn hok
  obtain ⟨hpre, hlast, -⟩ := along_append hok hr
  exact step s e t ⟨es, hr⟩ (hi hpre) hlast hn

/-- What every step from a reachable state keeps, every segment keeps. -/
theorem Leads.keeps {R : σ → σ → Prop} (refl : ∀ s, R s s) (trans : ∀ s t u, R s t → R t u → R s u)
    (step : ∀ s e t, M.Reachable s → M.next s e = some t → R s t) (hs : M.Reachable s) (h : M.Leads s es t) :
    R s t := by
  induction es generalizing s with
  | nil => exact leads_nil.mp h ▸ refl s
  | cons e es ih =>
    obtain ⟨u, hu, ht⟩ := leads_cons.mp h
    exact trans s u t (step s e u hs hu) (ih (hs.step hu) ht)

/-- What holds at the beginning of a segment and is kept by every step holds at its end. -/
theorem Leads.invariant {I : σ → Prop} (start : I s)
    (step : ∀ s e t, M.Reachable s → I s → M.next s e = some t → I t) (hs : M.Reachable s) (h : M.Leads s es t) : I t := by
  have hkeeps : I s → I t := by
    refine h.keeps (R := fun s t => I s → I t) (fun _ => id) (fun _ _ _ h₁ h₂ hi => h₂ (h₁ hi)) ?_ hs
    intro s e t hs hn hi
    exact step s e t hs hi hn
  exact hkeeps start

/-! ## Observations -/

theorem observed_snoc {ω : Type w} {obs : σ → ε → Option ω} (h : M.Leads s es t) :
    M.observed obs s (es ++ [e]) = M.observed obs s es ++ (obs t e).toList := by
  induction es generalizing s with
  | nil =>
    rw [← leads_nil.mp h]
    cases hn : M.next s e <;> simp [observed, hn]
  | cons e' es ih =>
    obtain ⟨u, hu, h'⟩ := leads_cons.mp h
    simp only [List.cons_append, observed, hu, Option.map_some, Option.getD_some, ih h', List.append_assoc]

/-- A condition on the steps, read off what they show. -/
theorem along_iff_observed {ω : Type w} {obs : σ → ε → Option ω} {ok : σ → ε → Prop} {good : ω → Prop}
    (hok : ∀ s e t, M.Reachable s → M.next s e = some t → (ok s e ↔ ∀ x, obs s e = some x → good x))
    (hs : M.Reachable s) (h : M.Leads s es t) : M.Along ok s es ↔ ∀ x ∈ M.observed obs s es, good x := by
  induction es generalizing s with
  | nil => simp [Along, observed]
  | cons e es ih =>
    obtain ⟨u, hu, h'⟩ := leads_cons.mp h
    simp only [Along, observed, hu, Option.map_some, Option.getD_some, Option.some.injEq, forall_eq',
      List.mem_append, Option.mem_toList, or_imp, forall_and, ih (hs.step hu) h', hok s e u hs hu]

end Machine

end Transition
