import Mathlib
import HostedFacilitator.Limits.InMemory

/-!
# The fixed-window limiter in Redis

`RedisFixedWindowRateLimiter` keeps one Redis key for each bucket and window, and its name starts with a hash tag: the
seller of the request, or its address when there is no seller. The script checks all keys, then increments all of them;
a key that it creates expires after the length of the window.

Of Redis it is assumed that the script runs atomically and that a key lives at least until its `EXPIRE`: a
`RedisCall` says which of the keys that have run out are gone by then. `allowed_eq` reads a history as steps of `Quota`
on the names of the keys: within its window no key runs out (`Live.forget`), and a name tells its window (`window_inj`).
-/

namespace HostedFacilitator

structure RedisEntry where
  value : Nat
  expiresAt : Option ℚ≥0 := none

/-- The keys of a Redis database. -/
abbrev Redis := String → Option RedisEntry

namespace Redis

variable (db : Redis)

/-- `tonumber(redis.call("GET", key) or "0")`. -/
def get (key : String) : Nat := ((db key).map (·.value)).getD 0

/-- `redis.call("TTL", key)`, in whole seconds: `-2` without the key, `-1` without an expiry. -/
def ttl (key : String) (now : ℚ≥0) : Int :=
  match db key with
  | none => -2
  | some e =>
    match e.expiresAt with
    | none => -1
    | some t => ⌊(t : ℚ) - now + 1 / 2⌋

/-- `redis.call("INCR", key)`. -/
def incr (key : String) : Redis :=
  Function.update db key (some { (db key).getD { value := 0 } with value := db.get key + 1 })

/-- `redis.call("EXPIRE", key, ttl)`. -/
def expire (key : String) (now : ℚ≥0) (ttl : Nat) : Redis :=
  Function.update db key ((db key).map fun e => { e with expiresAt := some (now + ttl) })

/-- The keys in `gone` whose time has come are gone. -/
def forget (gone : String → Bool) (now : ℚ≥0) : Redis := fun key =>
  (db key).filter fun e => !(gone key && e.expiresAt.any (· ≤ now))

end Redis

/-- A key of the script with its two arguments. -/
structure ScriptKey where
  key : String
  limit : Int
  ttl : Nat

/-- The variables `rejected`, `retry_after`, `limit` and `remaining` of the first loop. -/
structure Refusal where
  rejected : Bool := false
  retryAfter : Int := 0
  limit : Option Int := none
  remaining : Option Int := none

namespace Redis

/-- The first loop of the script. -/
def scan (db : Redis) (now : ℚ≥0) (acc : Refusal) (k : ScriptKey) : Refusal :=
  let current := db.get k.key
  if k.limit ≤ current then
    let keyTtl := if db.ttl k.key now < 0 then (k.ttl : Int) else db.ttl k.key now
    let least := acc.limit.all fun l => decide (k.limit < l)
    { rejected := true
      retryAfter := if acc.retryAfter < keyTtl then keyTtl else acc.retryAfter
      limit := if least then some k.limit else acc.limit
      remaining := if least then some (k.limit - current) else acc.remaining }
  else acc

/-- The second loop of the script, with its variables `min_limit` and `min_remaining`. -/
def charge (now : ℚ≥0) (acc : Redis × Option (Int × Int)) (k : ScriptKey) : Redis × Option (Int × Int) :=
  let db := acc.1.incr k.key
  let current := db.get k.key
  let db := if current = 1 then db.expire k.key now k.ttl else db
  let remaining := k.limit - current
  (db, if acc.2.all fun m => decide (remaining < m.2) then some (k.limit, remaining) else acc.2)

/-- `_SCRIPT`: the four numbers it returns. -/
def script (db : Redis) (now : ℚ≥0) (keys : List ScriptKey) : (Int × Int × Int × Int) × Redis :=
  let refusal := keys.foldl (db.scan now) {}
  if refusal.rejected then ((0, refusal.retryAfter, refusal.limit.getD 0, refusal.remaining.getD 0), db)
  else
    let (db', least) := keys.foldl (charge now) (db, none)
    ((1, 0, (least.map Prod.fst).getD 0, (least.map Prod.snd).getD 0), db')

end Redis

section Charge

variable {now : ℚ≥0} {db : Redis} {least : Option (Int × Int)} {k : ScriptKey}

namespace Redis

/-- Counting one key leaves the others alone. -/
theorem charge_of_ne {key : String} (h : key ≠ k.key) : (charge now (db, least) k).1 key = db key := by
  simp only [charge]
  split_ifs <;> simp [incr, expire, Function.update_of_ne h]

/-- The key is one higher, and expires after the window if it is new. -/
theorem charge_self : (charge now (db, least) k).1 k.key = some
    { value := db.get k.key + 1
      expiresAt := if db.get k.key = 0 then some (now + k.ttl) else (db k.key).bind (·.expiresAt) } := by
  have hvalue : (db.incr k.key).get k.key = db.get k.key + 1 := by simp [get, incr]
  simp only [charge, hvalue, Nat.add_eq_right]
  split_ifs
  · simp [expire, incr]
  · cases hk : db k.key <;> simp [incr, hk]

end Redis

end Charge

/-- `_request_hash_tag`. -/
def RateLimitRequest.hashTag (u : Unicode) (r : RateLimitRequest) : String :=
  match nonEmpty r.sellerAccountId, nonEmpty r.clientHost with
  | some id, _ => "seller_account." ++ safeKeyPart u id
  | none, some host => "ip." ++ safeKeyPart u host
  | none, none => "anonymous"

/-- The name of a key. -/
def redisName (keyPrefix tag key : String) (window : Nat) : String :=
  keyPrefix ++ ":\x7b" ++ tag ++ "\x7d:" ++ key ++ ":" ++ toString window

/-- A call of `check`: the request, the time, and which of the keys that have run out are gone by then. -/
structure RedisCall where
  request : RateLimitRequest
  now : ℚ≥0
  gone : String → Bool := fun _ => true

namespace RedisFixedWindowRateLimiter

variable (u : Unicode) (keyPrefix : String)

/-- `_redis_key`, at `int(time.time())`. -/
def redisKey (bucket : RateLimitBucket) (now : Nat) (request : RateLimitRequest) : String :=
  redisName keyPrefix (request.hashTag u) bucket.key (now / bucket.windowSeconds)

/-- `check`. -/
def check (db : Redis) (call : RedisCall) : RateLimitDecision × Redis :=
  let buckets := call.request.buckets u
  if buckets.isEmpty then ({ allowed := true }, db)
  else
    let keys := buckets.map fun b => ScriptKey.mk (redisKey u keyPrefix b ⌊call.now⌋₊ call.request) b.limit b.windowSeconds
    let ((allowed, retryAfter, limit, remaining), db') := (db.forget call.gone call.now).script call.now keys
    let limit := if 0 < limit then some limit else none
    ({ allowed := decide (allowed = 1)
       retryAfterSeconds := retryAfter
       limit := limit
       remaining := if limit.isSome then some remaining else none
       resetAfterSeconds := some (if 0 < retryAfter then retryAfter else 60)
       reason := if allowed = 1 then none else some "rate_limited" }, db')

/-- The decisions that a history of calls gets. -/
def decisions : Redis → List RedisCall → List RateLimitDecision
  | _, [] => []
  | db, call :: rest =>
    let (decision, db') := check u keyPrefix db call
    decision :: decisions db' rest

end RedisFixedWindowRateLimiter

/-! ## Keys that are still counted -/

/-- `int(now) // 60` is the same window. -/
theorem windowId_eq {b : RateLimitBucket} (now : ℚ≥0) : ⌊now⌋₊ / b.windowSeconds = b.windowId now :=
  (Nat.floor_div_natCast now b.windowSeconds).symm

/-- A name tells its window. -/
theorem window_inj {body body' : String} {v w : Nat} (h : body ++ ":" ++ toString v = body' ++ ":" ++ toString w) :
    v = w := by
  have hdigits : ∀ n : Nat, ':' ∉ (toString n).toList := by
    intro n hmem
    have hdigits : ':' ∈ Nat.toDigits 10 n := by simpa using hmem
    have hdigit := Nat.isDigit_of_mem_toDigits (by decide) (by decide) hdigits
    revert hdigit
    decide
  have hchars := congrArg String.toList h
  simp only [String.toList_append, List.append_assoc] at hchars
  have hlast := (Separator.joined_inj_last (hdigits v) (hdigits w) hchars).2
  exact Nat.repr_injective (String.toList_inj.mp hlast)

/-- The minute of a moment: every bucket counts by the minute. -/
def minuteOf (now : ℚ≥0) : Nat := ⌊now / 60⌋₊

/-- The counters `c` are those of `db` for the names of the windows from `w` on, and such a key lives to the end of its
window. -/
def Live (c : String → Nat) (db : Redis) (w : Nat) : Prop :=
  ∀ (body : String) (v : Nat), w ≤ v → db.get (body ++ ":" ++ toString v) = c (body ++ ":" ++ toString v) ∧
    ∀ e, db (body ++ ":" ++ toString v) = some e → ∃ t, e.expiresAt = some t ∧ 60 * ((v : ℚ≥0) + 1) ≤ t

namespace Live

variable {c : String → Nat} {db : Redis} {w w' : Nat}

theorem start : Live (fun _ => 0) (fun _ => none) w := fun _ _ _ => ⟨rfl, by simp⟩

theorem mono (h : Live c db w) (hw : w ≤ w') : Live c db w' := fun body v hv => h body v (hw.trans hv)

/-- Nothing runs out within its window. -/
theorem forget (h : Live c db w) {now : ℚ≥0} (hnow : minuteOf now = w) (gone : String → Bool) :
    Live c (db.forget gone now) w := by
  intro body v hv
  obtain ⟨hget, hexp⟩ := h body v hv
  have hlt : now < 60 * ((v : ℚ≥0) + 1) := by
    have hfloor := Nat.lt_floor_add_one (now / 60)
    rw [← minuteOf, hnow, div_lt_iff₀ (by norm_num), mul_comm] at hfloor
    have hle : ((w : ℚ≥0) + 1) ≤ (v : ℚ≥0) + 1 := by exact_mod_cast Nat.succ_le_succ hv
    exact hfloor.trans_le (mul_le_mul_of_nonneg_left hle (by norm_num))
  have hsame : db.forget gone now (body ++ ":" ++ toString v) = db (body ++ ":" ++ toString v) := by
    unfold Redis.forget
    cases hk : db (body ++ ":" ++ toString v) with
    | none => rfl
    | some e =>
      obtain ⟨t, ht, hle⟩ := hexp e hk
      have hlater : ¬ t ≤ now := not_le.mpr (hlt.trans_le hle)
      simp [Option.filter, ht, hlater]
  refine ⟨?_, fun e he => hexp e (hsame ▸ he)⟩
  rw [Redis.get, hsame]
  exact hget

/-- One key is counted. -/
theorem charge (h : Live c db w) {now : ℚ≥0} (hnow : minuteOf now = w) (least : Option (Int × Int)) {k : ScriptKey}
    {body : String} (hk : k.key = body ++ ":" ++ toString w) (httl : k.ttl = 60) :
    Live (Function.update c k.key (c k.key + 1)) (Redis.charge now (db, least) k).1 w := by
  have hafter : 60 * ((w : ℚ≥0) + 1) ≤ now + 60 := by
    have hfloor := Nat.floor_le (a := now / 60) (by positivity)
    rw [← minuteOf, hnow, le_div_iff₀ (by norm_num)] at hfloor
    calc 60 * ((w : ℚ≥0) + 1) = w * 60 + 60 := by ring
      _ ≤ now + 60 := by gcongr
  intro body' v hv
  obtain ⟨hget, hexp⟩ := h body' v hv
  by_cases hkey : body' ++ ":" ++ toString v = k.key
  · -- the name is the key's, so it is of this window
    have hvw : v = w := window_inj (hkey.trans hk)
    subst hvw
    rw [hkey] at hget hexp ⊢
    rw [Function.update_self, Redis.get, Redis.charge_self]
    refine ⟨by rw [← hget]; rfl, fun e he => ?_⟩
    cases Option.some.inj he
    cases hentry : db k.key with
    | none => exact ⟨now + k.ttl, by simp [Redis.get, hentry], by rw [httl]; exact hafter⟩
    | some e =>
      obtain ⟨t, ht, hle⟩ := hexp e hentry
      by_cases hzero : db.get k.key = 0
      · exact ⟨now + k.ttl, by simp [hzero], by rw [httl]; exact hafter⟩
      · exact ⟨t, by simp [hzero, ht], hle⟩
  · rw [Function.update_of_ne hkey, Redis.get, Redis.charge_of_ne hkey]
    exact ⟨hget, hexp⟩

/-- All keys of a request are counted. -/
theorem charges {keys : List ScriptKey} {now : ℚ≥0} (h : Live c db w) (hnow : minuteOf now = w)
    (least : Option (Int × Int)) (hkeys : ∀ k ∈ keys, (∃ body, k.key = body ++ ":" ++ toString w) ∧ k.ttl = 60) :
    Live (Quota.charge c (keys.map fun k => (k.key, k.limit))) (keys.foldl (Redis.charge now) (db, least)).1 w := by
  induction keys generalizing c db least with
  | nil => exact h
  | cons k keys ih =>
    obtain ⟨⟨body, hbody⟩, httl⟩ := hkeys k List.mem_cons_self
    rw [List.map_cons, Quota.charge_cons, List.foldl_cons]
    exact ih (h.charge hnow least hbody httl) _ fun k' hk' => hkeys k' (List.mem_cons_of_mem k hk')

end Live

/-! ## Redis as counters with limits -/

theorem Redis.scan_rejected (db : Redis) (now : ℚ≥0) (keys : List ScriptKey) (acc : Refusal) :
    (keys.foldl (db.scan now) acc).rejected = (acc.rejected || keys.any fun k => decide (k.limit ≤ db.get k.key)) := by
  induction keys generalizing acc with
  | nil => simp
  | cons k keys ih =>
    rw [List.foldl_cons, ih, List.any_cons, ← Bool.or_assoc]
    congr 1
    simp only [Redis.scan]
    split <;> rename_i h <;> simp [h]

/-- The script admits a request when every key is below its limit, and then counts it in all of them. -/
theorem Redis.script_live {c : String → Nat} {db : Redis} {w : Nat} {now : ℚ≥0} {keys : List ScriptKey}
    (h : Live c db w) (hnow : minuteOf now = w)
    (hkeys : ∀ k ∈ keys, (∃ body, k.key = body ++ ":" ++ toString w) ∧ k.ttl = 60) :
    (db.script now keys).1.1 = (if Quota.admits c (keys.map fun k => (k.key, k.limit)) then 1 else 0) ∧
      Live (Quota.step c (keys.map fun k => (k.key, k.limit))) (db.script now keys).2 w := by
  have hrejected : (keys.foldl (db.scan now) {}).rejected = !Quota.admits c (keys.map fun k => (k.key, k.limit)) := by
    rw [Redis.scan_rejected, Bool.false_or, Quota.admits, List.all_map, List.not_all_eq_any_not]
    rw [Bool.eq_iff_iff, List.any_eq_true, List.any_eq_true]
    refine exists_congr fun k => and_congr_right fun hk => ?_
    obtain ⟨⟨body, hbody⟩, -⟩ := hkeys k hk
    have hget := (h body w le_rfl).1
    rw [← hbody] at hget
    simp [hget]
  simp only [Redis.script, hrejected, Quota.step]
  by_cases hadmits : Quota.admits c (keys.map fun k => (k.key, k.limit)) = true
  · simp only [hadmits, Bool.not_true, Bool.false_eq_true, if_false, if_true, true_and]
    exact h.charges hnow none hkeys
  · simp only [hadmits, Bool.not_false, if_true, Bool.false_eq_true, if_false, true_and]
    exact h

/-- The keys of a request at a time, under their names. -/
def RateLimitRequest.names (u : Unicode) (keyPrefix : String) (x : RateLimitRequest × ℚ≥0) : List (String × Int) :=
  (x.1.buckets u).map fun b => (redisName keyPrefix (x.1.hashTag u) b.key (b.windowId x.2), b.limit)

/-- The request and the time of a call. -/
def RedisCall.plain (call : RedisCall) : RateLimitRequest × ℚ≥0 := (call.request, call.now)

/-- Whether a request is admitted, given what it saw. -/
def RateLimitRequest.within (u : Unicode) (x : (RateLimitRequest × ℚ≥0) × List Nat) : Bool :=
  Quota.within ((x.1.1.buckets u).map (·.limit)) x.2

namespace RedisFixedWindowRateLimiter

variable {u : Unicode} {keyPrefix : String} {c : String → Nat} {db : Redis} {w : Nat}

variable (u keyPrefix) in
/-- `check` is one step of the counters. -/
theorem check_live (h : Live c db w) {call : RedisCall} (hw : w ≤ minuteOf call.now) :
    (check u keyPrefix db call).1.allowed = Quota.admits c (RateLimitRequest.names u keyPrefix call.plain) ∧
      Live (Quota.step c (RateLimitRequest.names u keyPrefix call.plain)) (check u keyPrefix db call).2
        (minuteOf call.now) := by
  let keys := (call.request.buckets u).map fun b =>
    ScriptKey.mk (redisKey u keyPrefix b ⌊call.now⌋₊ call.request) b.limit b.windowSeconds
  have hnames : keys.map (fun k => (k.key, k.limit)) = RateLimitRequest.names u keyPrefix call.plain := by
    simp only [keys, List.map_map, RateLimitRequest.names, Function.comp_def, redisKey, windowId_eq, RedisCall.plain]
  have hkeys : ∀ k ∈ keys, (∃ body, k.key = body ++ ":" ++ toString (minuteOf call.now)) ∧ k.ttl = 60 := by
    intro k hk
    obtain ⟨b, hb, rfl⟩ := List.mem_map.mp hk
    have hsixty := RateLimitRequest.windowSeconds_eq hb
    refine ⟨⟨keyPrefix ++ ":\x7b" ++ call.request.hashTag u ++ "\x7d:" ++ b.key, ?_⟩, hsixty⟩
    rw [redisKey, windowId_eq, RateLimitBucket.windowId, hsixty]
    rfl
  have hlive := (h.mono hw).forget rfl call.gone
  obtain ⟨hallowed, hafter⟩ := Redis.script_live hlive rfl hkeys
  rw [hnames] at hallowed hafter
  by_cases hempty : (call.request.buckets u).isEmpty = true
  · have hnil : RateLimitRequest.names u keyPrefix call.plain = [] := by
      rw [RateLimitRequest.names, RedisCall.plain, List.isEmpty_iff.mp hempty]
      rfl
    simp only [check, hempty, if_true, hnil, Quota.step_nil]
    exact ⟨rfl, h.mono hw⟩
  · simp only [check, hempty, Bool.false_eq_true, if_false]
    refine ⟨?_, hafter⟩
    rw [hallowed]
    split_ifs with hadmits <;> simp [hadmits]

/-- The decisions of a history, read off the counters. -/
theorem allowed_eq (h : Live c db w) {calls : List RedisCall} (hw : ∀ call ∈ calls, w ≤ minuteOf call.now)
    (htimes : calls.Pairwise fun x y => x.now ≤ y.now) :
    (decisions u keyPrefix db calls).map (·.allowed) =
      (Quota.trace (RateLimitRequest.names u keyPrefix) c (calls.map RedisCall.plain)).map
        (RateLimitRequest.within u) := by
  induction calls generalizing c db w with
  | nil => rfl
  | cons call calls ih =>
    obtain ⟨hfirst, hrest⟩ := List.pairwise_cons.mp htimes
    obtain ⟨hallowed, hlive⟩ := check_live u keyPrefix h (hw call List.mem_cons_self)
    have hlater : ∀ call' ∈ calls, minuteOf call.now ≤ minuteOf call'.now := by
      intro call' hcall'
      have hle := hfirst call' hcall'
      exact Nat.floor_mono (by gcongr)
    have hlimits : (RateLimitRequest.names u keyPrefix call.plain).map Prod.snd =
        (call.request.buckets u).map (·.limit) := by
      simp [RateLimitRequest.names, RedisCall.plain, Function.comp_def]
    simp only [decisions, List.map_cons, Quota.trace, ih hlive hlater hrest, hallowed, RateLimitRequest.within]
    rw [← Quota.within_counts, hlimits]
    rfl

end RedisFixedWindowRateLimiter

end HostedFacilitator
