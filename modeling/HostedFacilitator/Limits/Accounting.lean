import HostedFacilitator.Limits.InMemory
import HostedFacilitator.Python.Value

/-!
# What the limiter in memory counts

The clock of `InMemoryFixedWindowRateLimiter` is a parameter of its constructor, so nothing is assumed of it here: a
`ClockReading` is whatever `_window_id` makes of a float, and the ids may be anything. A call is one step of `Quota`, and
so its accounts are those of the library: all of the buckets or none (`checkReading_accounted`), and never more admitted
requests in a bucket than one of them allows (`limiter_accounting`).
-/

namespace HostedFacilitator

/-- `math.floor(now / window_seconds)` for one reading of the clock; on one that is not finite it raises. -/
abbrev ClockReading (ω : Type) := Except PyErr (RateLimitBucket → ω)

namespace InMemoryFixedWindowRateLimiter

variable {ω : Type} [DecidableEq ω] (u : Unicode)

/-- `check`, with the reading that it takes of the clock. -/
def checkReading (limiter : InMemoryFixedWindowRateLimiter ω) (x : RateLimitRequest × ClockReading ω) :
    Except PyErr RateLimitDecision × InMemoryFixedWindowRateLimiter ω :=
  if (x.1.buckets u).isEmpty then (.ok { allowed := true }, limiter)
  else
    match x.2 with
    | .error e => (.error e, limiter)
    | .ok window => (limiter.checkAt window u x.1).map .ok id

/-- The request is answered, and admitted. -/
def admits (limiter : InMemoryFixedWindowRateLimiter ω) (x : RateLimitRequest × ClockReading ω) : Bool :=
  match (limiter.checkReading u x).1 with
  | .ok decision => decision.allowed
  | .error _ => false

/-- The limiter after some calls. -/
def run (limiter : InMemoryFixedWindowRateLimiter ω) (calls : List (RateLimitRequest × ClockReading ω)) :
    InMemoryFixedWindowRateLimiter ω := calls.foldl (fun l x => (l.checkReading u x).2) limiter

/-- The calls that are admitted. -/
def admitted : InMemoryFixedWindowRateLimiter ω → List (RateLimitRequest × ClockReading ω) →
    List (RateLimitRequest × ClockReading ω)
  | _, [] => []
  | limiter, x :: calls =>
    if limiter.admits u x then x :: admitted (limiter.checkReading u x).2 calls
    else admitted (limiter.checkReading u x).2 calls

end InMemoryFixedWindowRateLimiter

/-- The counters that a call asks for, with its limits. -/
def RateLimitRequest.asked (u : Unicode) {ω : Type} (x : RateLimitRequest × ClockReading ω) : List ((String × ω) × Int) :=
  match x.2 with
  | .error _ => []
  | .ok window => x.1.keys u window

namespace InMemoryFixedWindowRateLimiter

variable {ω : Type} {u : Unicode} {r : RateLimitRequest} {window : RateLimitBucket → ω}
  {x : RateLimitRequest × ClockReading ω}

theorem asked_nodup (x : RateLimitRequest × ClockReading ω) : ((RateLimitRequest.asked u x).map Prod.fst).Nodup := by
  unfold RateLimitRequest.asked
  split
  · exact List.nodup_nil
  · exact keys_nodup

variable [DecidableEq ω] {limiter : InMemoryFixedWindowRateLimiter ω}

/-- With a reading, the call is the step of the counters. -/
theorem checkReading_ok : limiter.checkReading u (r, .ok window) =
    (.ok (limiter.checkAt window u r).1, (limiter.checkAt window u r).2) := by
  unfold checkReading
  by_cases hempty : (r.buckets u).isEmpty = true
  · rw [if_pos hempty, checkAt, if_pos hempty]
  · rw [if_neg hempty]
    rfl

/-- Without one, nothing is counted. -/
theorem checkReading_error (e : PyErr) : (limiter.checkReading u (r, .error e)).2 = limiter := by
  unfold checkReading
  split <;> rfl

/-- A call is a step of `Quota`. -/
theorem checkReading_counters :
    (limiter.checkReading u x).2 = ⟨Quota.step limiter.counters (RateLimitRequest.asked u x)⟩ := by
  obtain ⟨r, e | window⟩ := x
  · rw [checkReading_error, RateLimitRequest.asked, Quota.step_nil]
  · rw [checkReading_ok, checkAt_eq]
    rfl

/-- The answer is positive when every counter is below its limit. -/
theorem checkAt_allowed : (limiter.checkAt window u r).1.allowed = Quota.admits limiter.counters (r.keys u window) := by
  have hlimits : (r.buckets u).map (·.limit) = (r.keys u window).map Prod.snd := by
    simp [RateLimitRequest.keys, Function.comp_def]
  rw [checkAt_eq, decisionFor_allowed, hlimits, Quota.within_counts]
  rw [counts_keys, List.length_map]

theorem admits_ok : limiter.admits u (r, .ok window) = Quota.admits limiter.counters (r.keys u window) := by
  rw [← checkAt_allowed, admits, checkReading_ok]

/-- What a call answers and what it counts: all of its buckets, or none. -/
structure Accounted (u : Unicode) (limiter limiter' : InMemoryFixedWindowRateLimiter ω) (r : RateLimitRequest)
    (window : RateLimitBucket → ω) (decision : RateLimitDecision) : Prop where
  rejected : decision.allowed = false → limiter' = limiter
  admitted : decision.allowed = true → ∀ k, limiter'.counters k =
    limiter.counters k + if k ∈ (r.buckets u).map (fun b => (b.key, window b)) then 1 else 0
  rejected_iff : decision.allowed = false ↔ ∃ b ∈ r.buckets u, b.limit ≤ limiter.counters (b.key, window b)

/-- One call. -/
theorem checkAt_accounted (limiter : InMemoryFixedWindowRateLimiter ω) (r : RateLimitRequest)
    (window : RateLimitBucket → ω) :
    Accounted u limiter (limiter.checkAt window u r).2 r window (limiter.checkAt window u r).1 := by
  have hstep : (limiter.checkAt window u r).2 = ⟨Quota.step limiter.counters (r.keys u window)⟩ := by rw [checkAt_eq]
  refine ⟨fun h => ?_, fun h k => ?_, ?_⟩
  · rw [checkAt_allowed] at h
    rw [hstep, Quota.step, h]
    rfl
  · rw [checkAt_allowed] at h
    rw [hstep, Quota.step, if_pos h, ← keys_fst]
    by_cases hk : k ∈ (r.keys u window).map Prod.fst
    · rw [if_pos hk]
      exact Quota.charge_of_mem keys_nodup hk
    · rw [if_neg hk]
      exact Quota.charge_of_not_mem hk
  · rw [checkAt_allowed, Quota.admits, Bool.eq_false_iff, ne_eq, List.all_eq_true]
    simp [RateLimitRequest.keys]

/-- The call is one of those that count for a key in a window. -/
def asks (u : Unicode) (k : String × ω) (x : RateLimitRequest × ClockReading ω) : Bool :=
  Quota.asks (RateLimitRequest.asked u) k x

theorem run_counters (calls : List (RateLimitRequest × ClockReading ω)) (limiter : InMemoryFixedWindowRateLimiter ω) :
    (limiter.run u calls).counters = Quota.run (RateLimitRequest.asked u) limiter.counters calls := by
  induction calls generalizing limiter with
  | nil => rfl
  | cons x calls ih =>
    have hrun : limiter.run u (x :: calls) = ((limiter.checkReading u x).2).run u calls := rfl
    rw [hrun, ih, checkReading_counters]
    rfl

/-- The calls that count for a key are among those that the counters admit; one without a reading counts for none. -/
theorem filter_admitted (k : String × ω) (calls : List (RateLimitRequest × ClockReading ω))
    (limiter : InMemoryFixedWindowRateLimiter ω) : (limiter.admitted u calls).filter (asks u k) =
      (Quota.admitted (RateLimitRequest.asked u) limiter.counters calls).filter (asks u k) := by
  induction calls generalizing limiter with
  | nil => rfl
  | cons x calls ih =>
    have hcounters : ((limiter.checkReading u x).2).counters =
        Quota.step limiter.counters (RateLimitRequest.asked u x) := by rw [checkReading_counters]
    rw [admitted, Quota.admitted_cons, ← hcounters]
    obtain ⟨r, e | window⟩ := x
    · have hasks : asks u k (r, .error e) = false := rfl
      split_ifs <;> simp [hasks, ih]
    · rw [admits_ok, RateLimitRequest.asked]
      split
      · rw [List.filter_cons, List.filter_cons, ih]
      · exact ih _

end InMemoryFixedWindowRateLimiter

open InMemoryFixedWindowRateLimiter in
/-- After every sequence of calls: a call without a reading counts nothing and one with a reading accounts for all of its
buckets or for none; a counter holds the admitted calls that asked for it; and these are never more than the limit that
one of them came with. -/
theorem limiter_accounting (u : Unicode) {ω : Type} [DecidableEq ω] (calls : List (RateLimitRequest × ClockReading ω)) :
    (∀ r e, ((run u {} calls).checkReading u (r, .error e)).2 = run u {} calls) ∧
      (∀ r window, ∃ decision, ((run u {} calls).checkReading u (r, .ok window)).1 = .ok decision ∧
        Accounted u (run u {} calls) ((run u {} calls).checkReading u (r, .ok window)).2 r window decision) ∧
      (∀ k, (run u {} calls).counters k = (admitted u {} calls).countP (asks u k)) ∧
      ∀ k, (admitted u {} calls).countP (asks u k) = 0 ∨
        ∃ x ∈ admitted u {} calls, ∃ b ∈ RateLimitRequest.asked u x, b.1 = k ∧
          (((admitted u {} calls).countP (asks u k) : Nat) : Int) ≤ b.2 := by
  have hcount : ∀ k, (admitted u {} calls).countP (asks u k) =
      (Quota.admitted (RateLimitRequest.asked u) (fun _ => 0) calls).countP (asks u k) := by
    intro k
    rw [List.countP_eq_length_filter, List.countP_eq_length_filter, filter_admitted]
  refine ⟨fun r e => checkReading_error e, fun r window => ⟨_, congrArg Prod.fst checkReading_ok, ?_⟩, fun k => ?_,
    fun k => ?_⟩
  · rw [checkReading_ok]
    exact checkAt_accounted _ r window
  · rw [hcount, run_counters, Quota.run_eq asked_nodup, Nat.zero_add]
    rfl
  · rw [hcount]
    refine (Quota.admitted_le asked_nodup calls k).imp_right fun ⟨x, hx, b, hb, hk, hle⟩ => ?_
    -- the call asks for the key, so it is among the admitted ones of the limiter
    have hasks : asks u k x = true := Quota.asks_iff.mpr (List.mem_map.mpr ⟨b, hb, hk⟩)
    have hmem : x ∈ (admitted u {} calls).filter (asks u k) := by
      rw [filter_admitted]
      exact List.mem_filter.mpr ⟨hx, hasks⟩
    exact ⟨x, (List.mem_filter.mp hmem).1, b, hb, hk, hle⟩

/-- One settlement a minute: the second one waits for the next minute. -/
example :
    let ask (minute : Int) : RateLimitRequest × ClockReading Int :=
      ({ endpoint := .settle, sellerAccountId := some "seller-a", clientHost := some "203.0.113.10",
         policy := { settlePerMinute := some 1 } }, .ok fun _ => minute)
    ([0, 0, 1].map ask).foldl (fun acc x => (acc.1 ++ [acc.2.admits .ascii x], (acc.2.checkReading .ascii x).2))
      (([] : List Bool), ({} : InMemoryFixedWindowRateLimiter Int)) |>.1 = [true, false, true] := by
  decide +kernel

end HostedFacilitator
