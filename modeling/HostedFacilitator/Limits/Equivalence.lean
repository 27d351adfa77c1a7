import HostedFacilitator.Limits.Redis

/-!
# The two limiters

Both limiters are `Quota` under two names for a bucket: in memory its key and window, in Redis the same behind the
hash tag of the request. A seller's key determines the tag, an address does not, so the counter of an address is shared
by all sellers in memory and belongs to one tag in Redis.

* `limiters_agree`: Redis counts by tag, key and window; where no bucket is used under two tags in one window the
  decisions are the same; and the per-address limit bounds what is admitted, across all sellers in memory and within a
  tag in Redis;
* `redis_ip_limit_per_seller`: two sellers at one address get one request each where memory admits one.
-/

namespace HostedFacilitator

/-! ## Names of buckets -/

/-- The buckets of a request at a time, each with its tag, key and window. -/
def RateLimitRequest.places (u : Unicode) (x : RateLimitRequest × ℚ≥0) : List ((String × String × Nat) × Int) :=
  (x.1.buckets u).map fun b => ((x.1.hashTag u, b.key, b.windowId x.2), b.limit)

section Names

variable {u : Unicode} {keyPrefix : String}

theorem windows_eq_named (x : RateLimitRequest × ℚ≥0) :
    RateLimitRequest.windows u x = Quota.named (RateLimitRequest.places u) (fun p => (p.2.1, p.2.2)) x := by
  simp [RateLimitRequest.windows, Quota.named, RateLimitRequest.places, RateLimitRequest.keys, Function.comp_def]

theorem names_eq_named (x : RateLimitRequest × ℚ≥0) : RateLimitRequest.names u keyPrefix x =
    Quota.named (RateLimitRequest.places u) (fun p => redisName keyPrefix p.1 p.2.1 p.2.2) x := by
  simp [RateLimitRequest.names, Quota.named, RateLimitRequest.places, Function.comp_def]

/-- No brace survives in a hash tag. -/
theorem brace_not_mem_hashTag (r : RateLimitRequest) : '\x7d' ∉ (r.hashTag u).toList := by
  have hpart : ∀ s : String, '\x7d' ∉ (safeKeyPart u s).toList := by
    intro s h
    rcases Unicode.replaceOthers_mem h with hk | hc
    · rw [Unicode.keeps, u.ascii_isalnum '\x7d' (by decide)] at hk
      revert hk
      decide
    · revert hc
      decide
  unfold RateLimitRequest.hashTag
  split
  · simp [String.toList_append, hpart]
  · simp [String.toList_append, hpart]
  · decide

/-- A name tells its tag, its key and its window. -/
theorem redisName_inj {r r' : RateLimitRequest} {key key' : String} {w w' : Nat}
    (h : redisName keyPrefix (r.hashTag u) key w = redisName keyPrefix (r'.hashTag u) key' w') :
    r.hashTag u = r'.hashTag u ∧ key = key' ∧ w = w' := by
  have hwindow : w = w' := window_inj h
  subst hwindow
  have hchars := congrArg String.toList h
  have hbrace : "\x7d:".toList = ['\x7d', ':'] := rfl
  simp only [redisName, String.toList_append, List.append_assoc, List.append_cancel_left_eq, hbrace, List.cons_append,
    List.nil_append] at hchars
  obtain ⟨htag, hrest⟩ := Separator.joined_inj (brace_not_mem_hashTag r) (brace_not_mem_hashTag r') hchars
  have hkey := List.append_cancel_right (List.cons.inj hrest).2
  exact ⟨String.toList_inj.mp htag, String.toList_inj.mp hkey, rfl⟩

end Names

/-! ## Decisions -/

/-- In memory the decisions are those of the counters. -/
theorem InMemoryFixedWindowRateLimiter.allowed_eq (u : Unicode) (limiter : InMemoryFixedWindowRateLimiter)
    (history : List (RateLimitRequest × ℚ≥0)) : (limiter.decisions u history).map (·.allowed) =
      (Quota.trace (RateLimitRequest.windows u) limiter.counters history).map (RateLimitRequest.within u) := by
  rw [decisions_eq, List.map_map]
  apply List.map_congr_left
  intro x hx
  refine decisionFor_allowed ?_
  rw [Quota.length_of_mem_trace hx, RateLimitRequest.windows, RateLimitRequest.keys, List.length_map]

/-! ## Agreement -/

/-- In one window a bucket of an address is used under one hash tag. -/
def OneTagPerAddress (u : Unicode) (history : List (RateLimitRequest × ℚ≥0)) : Prop :=
  ∀ x ∈ history, ∀ y ∈ history, ∀ host suffix, (∃ b ∈ x.1.buckets u, b.key = ipKey u host suffix) →
    (∃ b ∈ y.1.buckets u, b.key = ipKey u host suffix) → minuteOf x.2 = minuteOf y.2 → x.1.hashTag u = y.1.hashTag u

section Agreement

variable {u : Unicode} {keyPrefix : String} {history : List (RateLimitRequest × ℚ≥0)}

/-- The key of a seller determines the hash tag. -/
theorem hashTag_of_seller {r : RateLimitRequest} {id : String} (h : nonEmpty r.sellerAccountId = some id) :
    r.hashTag u = "seller_account." ++ safeKeyPart u id := by
  simp [RateLimitRequest.hashTag, h]

theorem windowId_of_mem {r : RateLimitRequest} {b : RateLimitBucket} (h : b ∈ r.buckets u) (now : ℚ≥0) :
    b.windowId now = minuteOf now := by
  rw [RateLimitBucket.windowId, RateLimitRequest.windowSeconds_eq h]
  rfl

/-- Two requests with one key in one window have one tag. -/
theorem OneTagPerAddress.hashTag_eq (h : OneTagPerAddress u history) {x y : RateLimitRequest × ℚ≥0} (hx : x ∈ history)
    (hy : y ∈ history) {b b' : RateLimitBucket} (hb : b ∈ x.1.buckets u) (hb' : b' ∈ y.1.buckets u)
    (hkey : b.key = b'.key) (hwindow : b.windowId x.2 = b'.windowId y.2) : x.1.hashTag u = y.1.hashTag u := by
  rw [windowId_of_mem hb, windowId_of_mem hb'] at hwindow
  have hseller : ∀ {id suffix : String}, nonEmpty x.1.sellerAccountId = some id → b.key = sellerKey u id suffix →
      x.1.hashTag u = y.1.hashTag u := by
    intro id suffix hid hbe
    cases RateLimitRequest.mem_buckets hb' with
    | ip _ _ hbe' | invalid _ hbe' =>
      rw [hbe, hbe'] at hkey
      exact absurd hkey.symm ipKey_ne_sellerKey
    | endpoint hid' hbe' | seller hid' hbe' =>
      rw [hbe, hbe'] at hkey
      rw [hashTag_of_seller hid, hashTag_of_seller hid', (sellerKey_inj hkey).1]
  have hip : ∀ {host suffix : String}, b.key = ipKey u host suffix → x.1.hashTag u = y.1.hashTag u := by
    intro host suffix hbe
    exact h x hx y hy host suffix ⟨b, hb, hbe⟩ ⟨b', hb', hkey ▸ hbe⟩ hwindow
  cases RateLimitRequest.mem_buckets hb with
  | ip _ _ hbe | invalid _ hbe => exact hip (by rw [hbe])
  | endpoint hid hbe | seller hid hbe => exact hseller hid (by rw [hbe])

variable (keyPrefix) in
/-- Redis counts by tag, key and window. -/
theorem trace_names : Quota.trace (RateLimitRequest.names u keyPrefix) (fun _ => 0) history =
    Quota.trace (RateLimitRequest.places u) (fun _ => 0) history := by
  have hplaces : RateLimitRequest.places u = Quota.named (RateLimitRequest.places u) id := by
    funext x
    simp [Quota.named]
  have hnames : RateLimitRequest.names u keyPrefix =
      Quota.named (RateLimitRequest.places u) fun p => redisName keyPrefix p.1 p.2.1 p.2.2 :=
    funext names_eq_named
  rw [hnames]
  conv_rhs => rw [hplaces]
  refine Quota.trace_rekey (fun _ _ _ _ => rfl) fun x hx y hy p hp p' hp' => ?_
  obtain ⟨b, -, rfl⟩ := List.mem_map.mp hp
  obtain ⟨b', -, rfl⟩ := List.mem_map.mp hp'
  constructor
  · intro h
    obtain ⟨htag, hkey, hwindow⟩ := redisName_inj h
    exact Prod.ext htag (Prod.ext hkey hwindow)
  · intro h
    simp only [id, Prod.mk.injEq] at h
    simp only [h.1, h.2.1, h.2.2]

/-- Where a bucket is used under one tag, the tag does not matter. -/
theorem trace_windows (h : OneTagPerAddress u history) : Quota.trace (RateLimitRequest.places u) (fun _ => 0) history =
    Quota.trace (RateLimitRequest.windows u) (fun _ => 0) history := by
  have hplaces : RateLimitRequest.places u = Quota.named (RateLimitRequest.places u) id := by
    funext x
    simp [Quota.named]
  have hwindows : RateLimitRequest.windows u = Quota.named (RateLimitRequest.places u) fun p => (p.2.1, p.2.2) :=
    funext windows_eq_named
  rw [hwindows]
  conv_lhs => rw [hplaces]
  refine Quota.trace_rekey (fun _ _ _ _ => rfl) fun x hx y hy p hp p' hp' => ?_
  obtain ⟨b, hb, rfl⟩ := List.mem_map.mp hp
  obtain ⟨b', hb', rfl⟩ := List.mem_map.mp hp'
  simp only [id, Prod.mk.injEq]
  constructor
  · exact fun he => he.2
  · exact fun he => ⟨h.hashTag_eq hy hx hb' hb he.1 he.2, he⟩

end Agreement

/-! ## The bound of an address -/

/-- The requests of a history that got a positive decision. -/
def admittedRequests (history : List (RateLimitRequest × ℚ≥0)) (allowed : List Bool) :
    List (RateLimitRequest × ℚ≥0) :=
  ((history.zip allowed).filter (·.2)).map Prod.fst

/-- The two requests count in the bucket of one address in one window. -/
def sameAddress (u : Unicode) (x y : RateLimitRequest × ℚ≥0) : Bool :=
  (x.1.ipBucket u).isSome && ((y.1.ipBucket u).map (·.key) == (x.1.ipBucket u).map (·.key)) &&
    minuteOf y.2 == minuteOf x.2

section Bound

variable {u : Unicode} {κ : Type} [DecidableEq κ] {buckets : RateLimitRequest × ℚ≥0 → List (κ × Int)}
  {history : List (RateLimitRequest × ℚ≥0)}

theorem admittedRequests_eq (hlimits : ∀ x, (buckets x).map Prod.snd = (x.1.buckets u).map (·.limit)) :
    admittedRequests history ((Quota.trace buckets (fun _ => 0) history).map (RateLimitRequest.within u)) =
      Quota.admitted buckets (fun _ => 0) history := by
  have hzip : history.zip ((Quota.trace buckets (fun _ => 0) history).map (RateLimitRequest.within u)) =
      (Quota.trace buckets (fun _ => 0) history).map fun x => (x.1, RateLimitRequest.within u x) := by
    rw [← List.zip_map', Quota.trace_map_fst]
  rw [admittedRequests, hzip, List.filter_map, List.map_map, Quota.admitted]
  simp only [Function.comp_def, RateLimitRequest.within, hlimits]

/-- Fewer than the limit were admitted before an admitted request, counting those that `same` finds in its bucket. -/
theorem admittedRequests_lt (hlimits : ∀ x, (buckets x).map Prod.snd = (x.1.buckets u).map (·.limit))
    (hn : ∀ x, ((buckets x).map Prod.fst).Nodup) {x : RateLimitRequest × ℚ≥0} {b : κ × Int} (hb : b ∈ buckets x)
    {same : RateLimitRequest × ℚ≥0 → Bool} (hsame : ∀ y, same y = true → b.1 ∈ (buckets y).map Prod.fst)
    (h : ((Quota.trace buckets (fun _ => 0) (history ++ [x])).map (RateLimitRequest.within u)).getLast? = some true) :
    (((admittedRequests history ((Quota.trace buckets (fun _ => 0) history).map (RateLimitRequest.within u))).countP
      same : Nat) : Int) < b.2 := by
  rw [Quota.trace_snoc, List.map_append, List.map_singleton, List.getLast?_concat, Option.some.injEq,
    RateLimitRequest.within] at h
  simp only [← hlimits, Quota.within_counts] at h
  rw [admittedRequests_eq hlimits]
  refine lt_of_le_of_lt ?_ (Quota.admitted_lt hn hb h)
  exact_mod_cast List.countP_mono_left fun y _ hy => Quota.asks_iff.mpr (hsame y hy)

end Bound

/-! ## The two limiters -/

/-- The decisions of a history in memory. -/
def memoryAllowed (u : Unicode) (history : List (RateLimitRequest × ℚ≥0)) : List Bool :=
  (({} : InMemoryFixedWindowRateLimiter).decisions u history).map (·.allowed)

/-- The decisions of a history in Redis, from an empty database. -/
def redisAllowed (u : Unicode) (keyPrefix : String) (calls : List RedisCall) : List Bool :=
  (RedisFixedWindowRateLimiter.decisions u keyPrefix (fun _ => none) calls).map (·.allowed)

section Limiters

variable {u : Unicode} {keyPrefix : String}

theorem memoryAllowed_eq (history : List (RateLimitRequest × ℚ≥0)) : memoryAllowed u history =
    (Quota.trace (RateLimitRequest.windows u) (fun _ => 0) history).map (RateLimitRequest.within u) :=
  InMemoryFixedWindowRateLimiter.allowed_eq u {} history

theorem redisAllowed_eq {calls : List RedisCall} (htimes : calls.Pairwise fun x y => x.now ≤ y.now) :
    redisAllowed u keyPrefix calls =
      (Quota.trace (RateLimitRequest.places u) (fun _ => 0) (calls.map RedisCall.plain)).map
        (RateLimitRequest.within u) := by
  rw [← trace_names keyPrefix]
  exact RedisFixedWindowRateLimiter.allowed_eq (Live.start (w := 0)) (fun _ _ => Nat.zero_le _) htimes

/-- A request in the bucket of the same address asks for the same counter. -/
theorem sameAddress_mem {x y : RateLimitRequest × ℚ≥0} {b : RateLimitBucket} (hb : x.1.ipBucket u = some b)
    (h : sameAddress u x y = true) :
    ∃ b', y.1.ipBucket u = some b' ∧ b' ∈ y.1.buckets u ∧ b'.key = b.key ∧ b'.windowId y.2 = b.windowId x.2 := by
  simp only [sameAddress, hb, Option.isSome_some, Option.map_some, Bool.true_and, Bool.and_eq_true, beq_iff_eq,
    Option.map_eq_some_iff] at h
  obtain ⟨⟨b', hb', hkey⟩, hwindow⟩ := h
  have hmem : b' ∈ y.1.buckets u := by simp [RateLimitRequest.buckets, hb']
  have hmem' : b ∈ x.1.buckets u := by simp [RateLimitRequest.buckets, hb]
  refine ⟨b', hb', hmem, hkey, ?_⟩
  rw [windowId_of_mem hmem, windowId_of_mem hmem', hwindow]

theorem places_keys (x : RateLimitRequest × ℚ≥0) : (RateLimitRequest.places u x).map Prod.fst =
    (x.1.buckets u).map fun b => (x.1.hashTag u, b.key, b.windowId x.2) := by
  simp [RateLimitRequest.places, Function.comp_def]

theorem places_nodup (x : RateLimitRequest × ℚ≥0) : ((RateLimitRequest.places u x).map Prod.fst).Nodup := by
  rw [places_keys]
  refine List.Nodup.of_map (fun p => p.2.1) ?_
  rw [List.map_map]
  exact RateLimitRequest.buckets_nodup

/-- **The two limiters.** Redis counts by hash tag, key and window. Where no bucket of an address is used under two
tags in one window both limiters decide alike. An admitted request came after fewer admitted ones from its address in
its window than its limit: of all sellers in memory, of its hash tag in Redis. -/
theorem limiters_agree (u : Unicode) (keyPrefix : String) :
    (∀ calls : List RedisCall, (calls.Pairwise fun x y => x.now ≤ y.now) → redisAllowed u keyPrefix calls =
        (Quota.trace (RateLimitRequest.places u) (fun _ => 0) (calls.map RedisCall.plain)).map
          (RateLimitRequest.within u)) ∧
      (∀ calls : List RedisCall, (calls.Pairwise fun x y => x.now ≤ y.now) →
        OneTagPerAddress u (calls.map RedisCall.plain) →
        redisAllowed u keyPrefix calls = memoryAllowed u (calls.map RedisCall.plain)) ∧
      (∀ (history : List (RateLimitRequest × ℚ≥0)) (x : RateLimitRequest × ℚ≥0) (b : RateLimitBucket),
        x.1.ipBucket u = some b → (memoryAllowed u (history ++ [x])).getLast? = some true →
        (((admittedRequests history (memoryAllowed u history)).countP (sameAddress u x) : Nat) : Int) < b.limit) ∧
      ∀ (calls : List RedisCall) (call : RedisCall) (b : RateLimitBucket),
        ((calls ++ [call]).Pairwise fun x y => x.now ≤ y.now) → call.request.ipBucket u = some b →
        (redisAllowed u keyPrefix (calls ++ [call])).getLast? = some true →
        (((admittedRequests (calls.map RedisCall.plain) (redisAllowed u keyPrefix calls)).countP fun y =>
          sameAddress u call.plain y && y.1.hashTag u == call.request.hashTag u : Nat) : Int) < b.limit := by
  refine ⟨fun calls htimes => redisAllowed_eq htimes, fun calls htimes hone => ?_, fun history x b hb h => ?_,
    fun calls call b htimes hb h => ?_⟩
  · rw [redisAllowed_eq htimes, trace_windows hone, memoryAllowed_eq]
  · rw [memoryAllowed_eq] at h ⊢
    have hmem : b ∈ x.1.buckets u := by simp [RateLimitRequest.buckets, hb]
    have hkey : ((b.key, b.windowId x.2), b.limit) ∈ RateLimitRequest.windows u x := List.mem_map_of_mem hmem
    refine admittedRequests_lt (fun y => ?_) (fun y => InMemoryFixedWindowRateLimiter.windows_nodup) hkey
      (fun y hy => ?_) h
    · simp [RateLimitRequest.windows, RateLimitRequest.keys, Function.comp_def]
    · obtain ⟨b', -, hb', hk, hw⟩ := sameAddress_mem hb hy
      rw [InMemoryFixedWindowRateLimiter.windows_keys]
      exact List.mem_map.mpr ⟨b', hb', by rw [hk, hw]⟩
  · have hbefore : calls.Pairwise fun x y => x.now ≤ y.now := (List.pairwise_append.mp htimes).1
    rw [redisAllowed_eq htimes, List.map_append, List.map_singleton] at h
    rw [redisAllowed_eq hbefore]
    have hmem : b ∈ call.request.buckets u := by simp [RateLimitRequest.buckets, hb]
    have hkey : ((call.request.hashTag u, b.key, b.windowId call.now), b.limit) ∈
        RateLimitRequest.places u call.plain := List.mem_map_of_mem hmem
    refine admittedRequests_lt (fun y => ?_) places_nodup hkey (fun y hy => ?_) h
    · simp [RateLimitRequest.places, Function.comp_def]
    · rw [Bool.and_eq_true, beq_iff_eq] at hy
      obtain ⟨b', -, hb', hk, hw⟩ := sameAddress_mem (x := call.plain) hb hy.1
      rw [places_keys]
      exact List.mem_map.mpr ⟨b', hb', by rw [hk, hw, hy.2]; rfl⟩

end Limiters

/-- Two requests from one address at one time, of the sellers `a` and `b`; one request a minute is allowed from an
address. -/
def sharedAddress (b : String) : List RedisCall :=
  let ask (seller : String) : RedisCall :=
    { request := { endpoint := .settle, sellerAccountId := some seller, clientHost := some "10.0.0.1",
                   policy := { ipRequestsPerMinute := some 1 } }, now := 0 }
  [ask "seller-a", ask b]

/-- In memory one of two sellers' requests is admitted, in Redis both are. -/
theorem redis_ip_limit_per_seller :
    ((sharedAddress "seller-b").Pairwise fun x y => x.now ≤ y.now) ∧
      memoryAllowed .ascii ((sharedAddress "seller-b").map RedisCall.plain) = [true, false] ∧
      redisAllowed .ascii "omniclaw:hosted:rl" (sharedAddress "seller-b") = [true, true] := by
  refine ⟨by simp [sharedAddress], by decide +kernel, by decide +kernel⟩

/-- Of two requests of one seller both limiters admit one. -/
theorem limiters_agree_one_seller :
    ((sharedAddress "seller-a").Pairwise fun x y => x.now ≤ y.now) ∧
      OneTagPerAddress .ascii ((sharedAddress "seller-a").map RedisCall.plain) ∧
      redisAllowed .ascii "omniclaw:hosted:rl" (sharedAddress "seller-a") =
        memoryAllowed .ascii ((sharedAddress "seller-a").map RedisCall.plain) ∧
      memoryAllowed .ascii ((sharedAddress "seller-a").map RedisCall.plain) = [true, false] := by
  have htimes : (sharedAddress "seller-a").Pairwise fun x y => x.now ≤ y.now := by simp [sharedAddress]
  have htag : ∀ x ∈ (sharedAddress "seller-a").map RedisCall.plain,
      x.1.hashTag .ascii = "seller_account.seller-a" := by decide
  have hone : OneTagPerAddress .ascii ((sharedAddress "seller-a").map RedisCall.plain) := by
    intro x hx y hy _ _ _ _ _
    rw [htag x hx, htag y hy]
  exact ⟨htimes, hone, (limiters_agree .ascii "omniclaw:hosted:rl").2.1 _ htimes hone, by decide +kernel⟩

end HostedFacilitator
