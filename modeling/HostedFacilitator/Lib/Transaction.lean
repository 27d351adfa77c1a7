import Mathlib.Logic.Basic

/-!
# Transactions

A transaction body works on its own copy of the state and may raise after some of its statements have run. `atomically`
commits what it did when it returns; when it raises, `undo` puts back what the transaction owns. What is not undone
(a sequence that has moved on) is up to `undo`.

* `bind_eq_ok`: a body that returns has returned at every statement;
* `atomically_cases`: a transaction either returns with what its body did, or raises with the state undone;
* `Moves R`: a body that returns has moved the state along `R`. The rules `Moves.bind` and `Moves.forM` follow the
  statements of a body, for a relation that is reflexive and transitive, and `Moves.atomically` ends the transaction;
* `Always R`: the body has moved the state along `R` also when it raises, which is what a handler sees
  (`Always.tryCatch`);
* `Raises P`: every error of the body satisfies `P`, by the same rules.
-/

namespace Transaction

variable {σ ε : Type} {α β : Type}

/-- A body: a result or an error, and the copy of the state after it. -/
abbrev Body (σ ε : Type) := ExceptT ε (StateM σ)

/-- The result of a body and the state after it. -/
def exec (body : Body σ ε α) (s : σ) : Except ε α × σ := StateT.run (ExceptT.run body) s

@[simp] theorem exec_pure (a : α) (s : σ) : exec (pure a : Body σ ε α) s = (.ok a, s) := rfl

@[simp] theorem exec_throw (e : ε) (s : σ) : exec (throw e : Body σ ε α) s = (.error e, s) := rfl

@[simp] theorem exec_get (s : σ) : exec (get : Body σ ε σ) s = (.ok s, s) := rfl

@[simp] theorem exec_set (s t : σ) : exec (set t : Body σ ε PUnit) s = (.ok ⟨⟩, t) := rfl

@[simp] theorem exec_modify (f : σ → σ) (s : σ) : exec (modify f : Body σ ε PUnit) s = (.ok ⟨⟩, f s) := rfl

theorem exec_bind (x : Body σ ε α) (f : α → Body σ ε β) (s : σ) :
    exec (x >>= f) s = match exec x s with
      | (.ok a, s') => exec (f a) s'
      | (.error e, s') => (.error e, s') := by
  simp only [exec, ExceptT.run_bind, StateT.run_bind]
  cases h : StateT.run (ExceptT.run x) s with
  | mk r s' => cases r <;> rfl

theorem exec_forM_cons (f : α → Body σ ε PUnit) (a : α) (l : List α) (s : σ) :
    exec ((a :: l).forM f) s = match exec (f a) s with
      | (.ok _, s') => exec (l.forM f) s'
      | (.error e, s') => (.error e, s') := by
  have hcons : (a :: l).forM f = (f a >>= fun _ => l.forM f) := rfl
  rw [hcons, exec_bind]
  rcases exec (f a) s with ⟨_ | _, s'⟩ <;> rfl

/-- A body that returns has returned at every statement. -/
theorem bind_eq_ok {x : Body σ ε α} {f : α → Body σ ε β} {s s' : σ} {b : β} :
    exec (x >>= f) s = (.ok b, s') ↔ ∃ a t, exec x s = (.ok a, t) ∧ exec (f a) t = (.ok b, s') := by
  rw [exec_bind]
  constructor
  · intro h
    split at h
    · rename_i a t hx
      exact ⟨a, t, hx, h⟩
    · cases h
  · rintro ⟨a, t, hx, h⟩
    rw [hx]
    exact h

/-- `try: .. except Exception: ..`; the handler finds the state as the body left it. -/
theorem exec_tryCatch (x : Body σ ε α) (handler : ε → Body σ ε α) (s : σ) :
    exec (tryCatch x handler) s = match exec x s with
      | (.ok a, s') => (.ok a, s')
      | (.error e, s') => exec (handler e) s' := by
  have hrun : exec (tryCatch x handler) s = StateT.run (ExceptT.run x >>= fun r => match r with
      | .ok a => pure (.ok a)
      | .error e => ExceptT.run (handler e)) s := rfl
  rw [hrun, StateT.run_bind]
  simp only [exec]
  cases h : StateT.run (ExceptT.run x) s with
  | mk r s' => cases r <;> rfl

/-- The body, with an exception as a value: what `try: .. except Exception as exc: ..` branches on. -/
def caught (x : Body σ ε α) : Body σ ε (Except ε α) := ExceptT.mk (Except.ok <$> ExceptT.run x)

@[simp] theorem exec_caught (x : Body σ ε α) (s : σ) : exec (caught x) s = (.ok (exec x s).1, (exec x s).2) := rfl

/-- A statement that may be refused; the error comes after it has run, which is the harder case for a rollback. -/
def statement (fault : Option ε) (run : σ → α × σ) : Body σ ε α := do
  let a ← modifyGet run
  match fault with
  | some e => throw e
  | none => pure a

theorem statement_eq_ok {fault : Option ε} {run : σ → α × σ} {s s' : σ} {a : α} :
    exec (statement fault run) s = (.ok a, s') ↔ fault = none ∧ run s = (a, s') := by
  have hmodify : exec (modifyGet run : Body σ ε α) s = (.ok (run s).1, (run s).2) := rfl
  rw [statement, exec_bind, hmodify]
  cases fault with
  | some e => simp
  | none => simp [Prod.ext_iff]

/-- Commit on a return, undo on an error. -/
def atomically (undo : σ → σ → σ) (body : Body σ ε α) (s : σ) : Except ε α × σ :=
  match exec body s with
  | (.ok a, s') => (.ok a, s')
  | (.error e, s') => (.error e, undo s s')

/-- A transaction returns with what its body did, or raises with the state undone. -/
theorem atomically_cases (undo : σ → σ → σ) (body : Body σ ε α) (s : σ) :
    (∃ a s', exec body s = (.ok a, s') ∧ atomically undo body s = (.ok a, s')) ∨
      ∃ e s', atomically undo body s = (.error e, undo s s') := by
  unfold atomically
  cases h : exec body s with
  | mk r s' =>
    cases r with
    | ok a => exact Or.inl ⟨a, s', rfl, rfl⟩
    | error e => exact Or.inr ⟨e, s', rfl⟩

/-- A transaction that returns has done what its body did. -/
theorem atomically_eq_ok {undo : σ → σ → σ} {body : Body σ ε α} {s : σ} {a : α}
    (h : (atomically undo body s).1 = .ok a) : exec body s = (.ok a, (atomically undo body s).2) := by
  rcases atomically_cases undo body s with ⟨b, s', hbody, hdone⟩ | ⟨e, s', hdone⟩
  · rw [hdone] at h ⊢
    cases h
    exact hbody
  · rw [hdone] at h
    cases h

/-! ## Statements -/

section Statements

variable {s s' t : σ} {a : α} {x : Except ε α} {c : Bool} {e : ε} {f : σ → σ} {p : PUnit}

/-- `if not condition: raise e`. -/
def require (condition : Bool) (e : ε) : Body σ ε PUnit := if condition then pure () else throw e

/-- A pure function that may raise. -/
def attempt : Except ε α → Body σ ε α
  | .ok a => pure a
  | .error e => throw e

@[simp] theorem exec_attempt : exec (attempt x : Body σ ε α) s = (x, s) := by cases x <;> rfl

theorem get_eq_ok : exec (get : Body σ ε σ) s = (.ok t, s') ↔ t = s ∧ s' = s := by
  constructor
  · intro h
    cases h
    exact ⟨rfl, rfl⟩
  · rintro ⟨rfl, rfl⟩
    rfl

theorem set_eq_ok : exec (set t : Body σ ε PUnit) s = (.ok p, s') ↔ s' = t := by
  constructor
  · intro h
    cases h
    rfl
  · rintro rfl
    rfl

theorem modify_eq_ok : exec (modify f : Body σ ε PUnit) s = (.ok p, s') ↔ s' = f s := by
  constructor
  · intro h
    cases h
    rfl
  · rintro rfl
    rfl

theorem require_eq_ok : exec (require c e : Body σ ε PUnit) s = (.ok p, s') ↔ c = true ∧ s' = s := by
  cases c with
  | false =>
    refine iff_of_false (fun h => ?_) (fun h => Bool.noConfusion h.1)
    cases h
  | true => exact ⟨fun h => by cases h; exact ⟨rfl, rfl⟩, fun h => by rw [h.2]; rfl⟩

theorem attempt_eq_ok : exec (attempt x : Body σ ε α) s = (.ok a, s') ↔ x = .ok a ∧ s' = s := by
  cases x with
  | error e' =>
    refine iff_of_false (fun h => ?_) (fun h => nomatch h.1)
    cases h
  | ok b => exact ⟨fun h => by cases h; exact ⟨rfl, rfl⟩, fun h => by rw [h.2]; cases h.1; rfl⟩

/-! Each kind of statement before the rest of a body. -/

variable {b : β} {rest : α → Body σ ε β} {next : PUnit → Body σ ε β}

theorem get_bind_eq_ok {rest : σ → Body σ ε β} :
    exec (get >>= rest) s = (.ok b, s') ↔ exec (rest s) s = (.ok b, s') := by rw [exec_bind, exec_get]

theorem modify_bind_eq_ok :
    exec (modify f >>= next) s = (.ok b, s') ↔ exec (next ⟨⟩) (f s) = (.ok b, s') := by rw [exec_bind, exec_modify]

theorem set_bind_eq_ok :
    exec (set t >>= next) s = (.ok b, s') ↔ exec (next ⟨⟩) t = (.ok b, s') := by rw [exec_bind, exec_set]

theorem require_bind_eq_ok :
    exec (require c e >>= next) s = (.ok b, s') ↔ c = true ∧ exec (next ⟨⟩) s = (.ok b, s') := by
  rw [exec_bind]
  cases c with
  | false => simp [require]
  | true => simp [require]

theorem attempt_bind_eq_ok :
    exec (attempt x >>= rest) s = (.ok b, s') ↔ ∃ a, x = .ok a ∧ exec (rest a) s = (.ok b, s') := by
  rw [exec_bind, exec_attempt]
  cases x with
  | error e => simp
  | ok a => simp

end Statements

/-! ## Guarded writes in a loop -/

section Guarded

variable {guard : σ → α → Prop} {write : σ → α → σ} {f : α → Body σ ε PUnit}

/-- Each write is allowed when its turn comes. -/
def Guarded (guard : σ → α → Prop) (write : σ → α → σ) : σ → List α → Prop
  | _, [] => True
  | s, a :: l => guard s a ∧ Guarded guard write (write s a) l

/-- A loop of writes returns when each of them is allowed, and then it has made all of them. -/
theorem forM_eq_ok (hf : ∀ a s s', exec (f a) s = (.ok ⟨⟩, s') ↔ guard s a ∧ s' = write s a) {l : List α} {s s' : σ} :
    exec (l.forM f) s = (.ok ⟨⟩, s') ↔ Guarded guard write s l ∧ s' = l.foldl write s := by
  induction l generalizing s with
  | nil => exact ⟨fun h => ⟨trivial, (Prod.ext_iff.mp h).2.symm⟩, fun h => by rw [h.2]; rfl⟩
  | cons a l ih =>
    have hcons : (a :: l).forM f = (f a >>= fun _ => l.forM f) := rfl
    rw [hcons, bind_eq_ok]
    constructor
    · rintro ⟨_, t, ha, hl⟩
      obtain ⟨hguard, rfl⟩ := (hf a s t).mp ha
      obtain ⟨hrest, rfl⟩ := ih.mp hl
      exact ⟨⟨hguard, hrest⟩, rfl⟩
    · rintro ⟨⟨hguard, hrest⟩, hs'⟩
      exact ⟨⟨⟩, write s a, (hf a s _).mpr ⟨hguard, rfl⟩, ih.mpr ⟨hrest, hs'⟩⟩

/-- Writes that do not decide about each other are allowed from the start. -/
theorem guarded_iff (hkeep : ∀ s a b, guard s a → (guard (write s a) b ↔ guard s b)) {l : List α} {s : σ} :
    Guarded guard write s l ↔ ∀ a ∈ l, guard s a := by
  induction l generalizing s with
  | nil => simp [Guarded]
  | cons a l ih =>
    rw [Guarded, ih, List.forall_mem_cons]
    refine and_congr_right fun ha => ?_
    exact forall₂_congr fun b _ => hkeep s a b ha

end Guarded

/-! ## What a body does to the state -/

/-- When the body returns, it has moved the state along `R`. -/
def Moves (R : σ → σ → Prop) (body : Body σ ε α) : Prop := ∀ s a s', exec body s = (.ok a, s') → R s s'

namespace Moves

variable {R R' : σ → σ → Prop}

theorem mono {body : Body σ ε α} (h : Moves R body) (hR : ∀ s s', R s s' → R' s s') : Moves R' body :=
  fun s a s' he => hR s s' (h s a s' he)

theorem pure (refl : ∀ s, R s s) (a : α) : Moves R (pure a : Body σ ε α) := by
  intro s b s' h
  cases h
  exact refl s

theorem bind (trans : ∀ s t u, R s t → R t u → R s u) {x : Body σ ε α} {f : α → Body σ ε β} (hx : Moves R x)
    (hf : ∀ a, Moves R (f a)) : Moves R (x >>= f) := by
  intro s b s' h
  obtain ⟨a, t, hxs, hfs⟩ := bind_eq_ok.mp h
  exact trans s t s' (hx s a t hxs) (hf a t b s' hfs)

theorem forM (refl : ∀ s, R s s) (trans : ∀ s t u, R s t → R t u → R s u) {f : α → Body σ ε PUnit} {l : List α}
    (hf : ∀ a ∈ l, Moves R (f a)) : Moves R (l.forM f) := by
  induction l with
  | nil => exact pure refl _
  | cons a l ih =>
    exact bind trans (hf a List.mem_cons_self) fun _ => ih fun b hb => hf b (List.mem_cons_of_mem _ hb)

/-- A transaction that does not return moves nothing. -/
theorem atomically {undo : σ → σ → σ} {body : Body σ ε α} (h : Moves R body) (hundo : ∀ s s', R s (undo s s'))
    (s : σ) : R s (atomically undo body s).2 := by
  rcases atomically_cases undo body s with ⟨a, s', hbody, hdone⟩ | ⟨e, s', hdone⟩
  · rw [hdone]
    exact h s a s' hbody
  · rw [hdone]
    exact hundo s s'

end Moves

/-- The body moves the state along `R`, whether it returns or raises. -/
def Always (R : σ → σ → Prop) (body : Body σ ε α) : Prop := ∀ s, R s (exec body s).2

namespace Always

variable {R : σ → σ → Prop}

theorem pure (refl : ∀ s, R s s) (a : α) : Always R (pure a : Body σ ε α) := fun s => refl s

theorem throw (refl : ∀ s, R s s) (e : ε) : Always R (throw e : Body σ ε α) := fun s => refl s

theorem bind (trans : ∀ s t u, R s t → R t u → R s u) {x : Body σ ε α} {f : α → Body σ ε β} (hx : Always R x)
    (hf : ∀ a, Always R (f a)) : Always R (x >>= f) := by
  intro s
  have hxs := hx s
  rw [exec_bind]
  cases h : exec x s with
  | mk r s' =>
    rw [h] at hxs
    cases r with
    | ok a => exact trans s s' _ hxs (hf a s')
    | error e => exact hxs

theorem forM (refl : ∀ s, R s s) (trans : ∀ s t u, R s t → R t u → R s u) {f : α → Body σ ε PUnit} {l : List α}
    (hf : ∀ a ∈ l, Always R (f a)) : Always R (l.forM f) := by
  induction l with
  | nil => exact pure refl _
  | cons a l ih =>
    exact bind trans (hf a List.mem_cons_self) fun _ => ih fun b hb => hf b (List.mem_cons_of_mem _ hb)

theorem tryCatch (trans : ∀ s t u, R s t → R t u → R s u) {x : Body σ ε α} {handler : ε → Body σ ε α}
    (hx : Always R x) (hh : ∀ e, Always R (handler e)) : Always R (tryCatch x handler) := by
  intro s
  have hxs := hx s
  rw [exec_tryCatch]
  cases h : exec x s with
  | mk r s' =>
    rw [h] at hxs
    cases r with
    | ok a => exact hxs
    | error e => exact trans s s' _ hxs (hh e s')

end Always

/-- Every error that the body raises satisfies `P`. -/
def Raises (P : ε → Prop) (body : Body σ ε α) : Prop := ∀ s e s', exec body s = (.error e, s') → P e

namespace Raises

variable {P : ε → Prop}

theorem pure (a : α) : Raises P (pure a : Body σ ε α) := by
  intro s e s' h
  cases h

theorem modify (f : σ → σ) : Raises P (modify f : Body σ ε PUnit) := by
  intro s e s' h
  cases h

theorem throw {e : ε} (h : P e) : Raises P (throw e : Body σ ε α) := by
  intro s e' s' he
  cases he
  exact h

theorem attempt {x : Except ε α} (h : ∀ e, x = .error e → P e) : Raises P (attempt x : Body σ ε α) := by
  intro s e s' he
  rw [exec_attempt] at he
  exact h e (Prod.ext_iff.mp he).1

theorem bind {x : Body σ ε α} {f : α → Body σ ε β} (hx : Raises P x) (hf : ∀ a, Raises P (f a)) :
    Raises P (x >>= f) := by
  intro s e s' h
  rw [exec_bind] at h
  rcases hs : exec x s with ⟨e' | a, u⟩
  · rw [hs] at h
    cases h
    exact hx s e s' hs
  · rw [hs] at h
    exact hf a u e s' h

end Raises

end Transaction
