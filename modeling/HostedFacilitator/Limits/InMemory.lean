import Mathlib.Data.NNRat.Floor
import Mathlib.Algebra.Order.Floor.Semifield
import Mathlib.Data.List.Nodup
import HostedFacilitator.Lib.Quota
import HostedFacilitator.Python.Chars

/-!
# The fixed-window limiter in memory

`_buckets_for_request` turns a request into buckets, each a key and a limit for one minute.
`InMemoryFixedWindowRateLimiter.check` reads the counter of every bucket in the current window, refuses when one of them
has reached its limit, and otherwise counts the request in all of them. `check_eq` reads it as one step of `Quota`.
Times are seconds since the epoch, as rationals.
-/

namespace HostedFacilitator

inductive HostedRateLimitEndpoint where
  | supported
  | verify
  | settle
  | invalid
  deriving DecidableEq, Repr

def HostedRateLimitEndpoint.value : HostedRateLimitEndpoint → String
  | .supported => "supported"
  | .verify => "verify"
  | .settle => "settle"
  | .invalid => "invalid"

structure RateLimitPolicy where
  sellerRequestsPerMinute : Option Int := some 600
  supportedPerMinute : Option Int := some 600
  verifyPerMinute : Option Int := some 300
  settlePerMinute : Option Int := some 60
  invalidRequestsPerMinute : Option Int := some 30
  ipRequestsPerMinute : Option Int := some 1200
  deriving DecidableEq

def RateLimitPolicy.limitFor (policy : RateLimitPolicy) : HostedRateLimitEndpoint → Option Int
  | .supported => policy.supportedPerMinute
  | .verify => policy.verifyPerMinute
  | .settle => policy.settlePerMinute
  | .invalid => policy.invalidRequestsPerMinute

structure RateLimitBucket where
  key : String
  limit : Int
  windowSeconds : Nat := 60
  deriving DecidableEq

structure RateLimitRequest where
  endpoint : HostedRateLimitEndpoint
  sellerAccountId : Option String
  tenantId : Option String := none
  clientHost : Option String
  policy : RateLimitPolicy := {}
  deriving DecidableEq

structure RateLimitDecision where
  allowed : Bool
  retryAfterSeconds : Int := 0
  limit : Option Int := none
  remaining : Option Int := none
  resetAfterSeconds : Option Int := none
  reason : Option String := none
  deriving DecidableEq

section Buckets

variable (u : Unicode)

/-- `_safe_key_part`. -/
def safeKeyPart (value : String) : String := u.replaceOthers ['_', '-', '.'] 128 value

/-- The key of an address: `ip:{..}:{suffix}`. -/
def ipKey (host suffix : String) : String := "ip:" ++ safeKeyPart u host ++ ":" ++ suffix

/-- The key of a seller: `seller_account:{..}:{suffix}`. -/
def sellerKey (id suffix : String) : String := "seller_account:" ++ safeKeyPart u id ++ ":" ++ suffix

/-- `value if value else None`. -/
def nonEmpty (value : Option String) : Option String := value.filter (· ≠ "")

namespace RateLimitRequest

variable (r : RateLimitRequest)

/-- The bucket of the client address. -/
def ipBucket : Option RateLimitBucket := do
  let host ← nonEmpty r.clientHost
  let limit ← r.policy.ipRequestsPerMinute
  return { key := ipKey u host "all", limit := limit }

/-- The bucket of the seller at this endpoint. -/
def endpointBucket : Option RateLimitBucket := do
  let id ← nonEmpty r.sellerAccountId
  let limit ← r.policy.limitFor r.endpoint
  return { key := sellerKey u id r.endpoint.value, limit := limit }

/-- The bucket of the seller at every endpoint. -/
def sellerBucket : Option RateLimitBucket :=
  if r.endpoint = .invalid then none
  else do
    let id ← nonEmpty r.sellerAccountId
    let limit ← r.policy.sellerRequestsPerMinute
    return { key := sellerKey u id "all", limit := limit }

/-- The bucket of invalid requests of the client address. -/
def invalidBucket : Option RateLimitBucket :=
  if r.endpoint = .invalid then do
    let host ← nonEmpty r.clientHost
    let limit ← r.policy.invalidRequestsPerMinute
    return { key := ipKey u host "invalid", limit := limit }
  else none

/-- `_buckets_for_request`. -/
def buckets : List RateLimitBucket :=
  (r.ipBucket u).toList ++ (r.endpointBucket u).toList ++ (r.sellerBucket u).toList ++ (r.invalidBucket u).toList

end RateLimitRequest

end Buckets

/-! ## Decisions -/

/-- `_decision_for_bucket`. -/
def decisionForBucket (bucket : RateLimitBucket) (count : Nat) (consumed : Bool) : RateLimitDecision :=
  let allowed := if consumed then decide ((count : Int) ≤ bucket.limit) else decide ((count : Int) < bucket.limit)
  let remaining := if consumed then bucket.limit - count else bucket.limit - count - 1
  { allowed := allowed
    retryAfterSeconds := if allowed then 0 else bucket.windowSeconds
    limit := some bucket.limit
    remaining := some (max remaining 0)
    resetAfterSeconds := some bucket.windowSeconds
    reason := if allowed then none else some "rate_limited" }

/-- `max(xs, key=..)` or `min(xs, key=..)`: the first of the best. -/
def firstBest {α : Type} (better : α → α → Bool) (x : α) (xs : List α) : α :=
  xs.foldl (fun best y => if better y best then y else best) x

/-- `<` where a missing number is `math.inf`. -/
def ltOrInf : Option Int → Option Int → Bool
  | some m, some n => m < n
  | some _, none => true
  | none, _ => false

/-- The order of the pairs `(remaining or inf, limit or inf)`. -/
def RateLimitDecision.tighter (d e : RateLimitDecision) : Bool :=
  ltOrInf d.remaining e.remaining || (d.remaining == e.remaining && ltOrInf d.limit e.limit)

/-- `_most_restrictive`. -/
def mostRestrictive (decisions : List RateLimitDecision) : RateLimitDecision :=
  match decisions with
  | [] => { allowed := true }
  | d :: ds =>
    match decisions.filter (!·.allowed) with
    | r :: rs => firstBest (fun x y => y.retryAfterSeconds < x.retryAfterSeconds) r rs
    | [] => firstBest RateLimitDecision.tighter d ds

/-! ## The limiter -/

/-- `math.floor(now / bucket.window_seconds)`. -/
def RateLimitBucket.windowId (bucket : RateLimitBucket) (now : ℚ≥0) : Nat := ⌊now / bucket.windowSeconds⌋₊

/-- `_counters`; a missing key counts as zero. `ω` are the window ids. -/
structure InMemoryFixedWindowRateLimiter (ω : Type := Nat) where
  counters : String × ω → Nat := fun _ => 0

namespace InMemoryFixedWindowRateLimiter

section Windows

variable {ω : Type} (limiter : InMemoryFixedWindowRateLimiter ω) (window : RateLimitBucket → ω)

/-- `_count`, where `window` is what `_window_id` makes of the clock. -/
def count (bucket : RateLimitBucket) : Nat := limiter.counters (bucket.key, window bucket)

variable [DecidableEq ω]

/-- `_increment`. -/
def increment (bucket : RateLimitBucket) : InMemoryFixedWindowRateLimiter ω where
  counters := Function.update limiter.counters (bucket.key, window bucket) (limiter.count window bucket + 1)

/-- `check`, in the windows of the moment. -/
def checkAt (u : Unicode) (request : RateLimitRequest) : RateLimitDecision × InMemoryFixedWindowRateLimiter ω :=
  let buckets := request.buckets u
  if buckets.isEmpty then ({ allowed := true }, limiter)
  else
    let decisions := buckets.map fun b => decisionForBucket b (limiter.count window b) false
    let rejected := decisions.filter (!·.allowed)
    if !rejected.isEmpty then (mostRestrictive rejected, limiter)
    else
      let limiter' := buckets.foldl (fun l b => l.increment window b) limiter
      (mostRestrictive (buckets.map fun b => decisionForBucket b (limiter'.count window b) true), limiter')

end Windows

variable (limiter : InMemoryFixedWindowRateLimiter)

/-- `check`. -/
def check (u : Unicode) (request : RateLimitRequest) (now : ℚ≥0) : RateLimitDecision × InMemoryFixedWindowRateLimiter :=
  limiter.checkAt (fun b => b.windowId now) u request

/-- The decisions that a history of requests gets. -/
def decisions (u : Unicode) : InMemoryFixedWindowRateLimiter → List (RateLimitRequest × ℚ≥0) → List RateLimitDecision
  | _, [] => []
  | limiter, (r, now) :: rest =>
    let (decision, limiter') := limiter.check u r now
    decision :: decisions u limiter' rest

end InMemoryFixedWindowRateLimiter

/-! ## Keys -/

section Keys

variable {u : Unicode} {host host' id id' suffix suffix' : String}

/-- No colon survives in a key part. -/
theorem colon_not_mem_safeKeyPart (s : String) : ':' ∉ (safeKeyPart u s).toList := by
  intro h
  rcases Unicode.replaceOthers_mem h with hk | hc
  · rw [Unicode.keeps, u.ascii_isalnum ':' (by decide)] at hk
    revert hk
    decide
  · revert hc
    decide

theorem ipKey_toList : (ipKey u host suffix).toList =
    "ip:".toList ++ (safeKeyPart u host).toList ++ ":".toList ++ suffix.toList := by
  delta ipKey
  simp only [String.toList_append]

theorem sellerKey_toList : (sellerKey u id suffix).toList =
    "seller_account:".toList ++ (safeKeyPart u id).toList ++ ":".toList ++ suffix.toList := by
  delta sellerKey
  simp only [String.toList_append]

theorem ipKey_ne_sellerKey : ipKey u host suffix ≠ sellerKey u id suffix' := by
  intro h
  have hchars := congrArg String.toList h
  rw [ipKey_toList, sellerKey_toList] at hchars
  simp at hchars

theorem ipKey_inj (h : ipKey u host suffix = ipKey u host' suffix') :
    safeKeyPart u host = safeKeyPart u host' ∧ suffix = suffix' := by
  have hchars := congrArg String.toList h
  simp only [ipKey_toList, List.append_assoc, List.append_cancel_left_eq] at hchars
  obtain ⟨hpart, hsuffix⟩ := Separator.joined_inj (colon_not_mem_safeKeyPart host) (colon_not_mem_safeKeyPart host') hchars
  exact ⟨String.toList_inj.mp hpart, String.toList_inj.mp hsuffix⟩

theorem sellerKey_inj (h : sellerKey u id suffix = sellerKey u id' suffix') :
    safeKeyPart u id = safeKeyPart u id' ∧ suffix = suffix' := by
  have hchars := congrArg String.toList h
  simp only [sellerKey_toList, List.append_assoc, List.append_cancel_left_eq] at hchars
  obtain ⟨hpart, hsuffix⟩ := Separator.joined_inj (colon_not_mem_safeKeyPart id) (colon_not_mem_safeKeyPart id') hchars
  exact ⟨String.toList_inj.mp hpart, String.toList_inj.mp hsuffix⟩

theorem HostedRateLimitEndpoint.value_ne_all (e : HostedRateLimitEndpoint) : e.value ≠ "all" := by
  cases e <;> decide

end Keys

/-- Where a bucket comes from. -/
inductive RateLimitRequest.Source (u : Unicode) (r : RateLimitRequest) (b : RateLimitBucket) : Prop
  | ip {host : String} (host_eq : nonEmpty r.clientHost = some host)
      (limit_eq : r.policy.ipRequestsPerMinute = some b.limit)
      (bucket_eq : b = { key := ipKey u host "all", limit := b.limit })
  | endpoint {id : String} (id_eq : nonEmpty r.sellerAccountId = some id)
      (bucket_eq : b = { key := sellerKey u id r.endpoint.value, limit := b.limit })
  | seller {id : String} (id_eq : nonEmpty r.sellerAccountId = some id)
      (bucket_eq : b = { key := sellerKey u id "all", limit := b.limit })
  | invalid {host : String} (host_eq : nonEmpty r.clientHost = some host)
      (bucket_eq : b = { key := ipKey u host "invalid", limit := b.limit })

namespace RateLimitRequest

variable {u : Unicode} {r : RateLimitRequest} {b : RateLimitBucket}

theorem ipBucket_eq (h : r.ipBucket u = some b) :
    ∃ host, nonEmpty r.clientHost = some host ∧ r.policy.ipRequestsPerMinute = some b.limit ∧
      b = { key := ipKey u host "all", limit := b.limit } := by
  simp only [ipBucket, Option.bind_eq_bind, Option.bind_eq_some_iff, Option.pure_def, Option.some.injEq] at h
  obtain ⟨host, hhost, limit, hlimit, rfl⟩ := h
  exact ⟨host, hhost, hlimit, rfl⟩

theorem endpointBucket_eq (h : r.endpointBucket u = some b) :
    ∃ id, nonEmpty r.sellerAccountId = some id ∧
      b = { key := sellerKey u id r.endpoint.value, limit := b.limit } := by
  simp only [endpointBucket, Option.bind_eq_bind, Option.bind_eq_some_iff, Option.pure_def, Option.some.injEq] at h
  obtain ⟨id, hid, limit, -, rfl⟩ := h
  exact ⟨id, hid, rfl⟩

theorem sellerBucket_eq (h : r.sellerBucket u = some b) :
    ∃ id, nonEmpty r.sellerAccountId = some id ∧ b = { key := sellerKey u id "all", limit := b.limit } := by
  simp only [sellerBucket, Option.ite_none_left_eq_some, Option.bind_eq_bind, Option.bind_eq_some_iff, Option.pure_def,
    Option.some.injEq] at h
  obtain ⟨-, id, hid, limit, -, rfl⟩ := h
  exact ⟨id, hid, rfl⟩

theorem invalidBucket_eq (h : r.invalidBucket u = some b) :
    ∃ host, nonEmpty r.clientHost = some host ∧ b = { key := ipKey u host "invalid", limit := b.limit } := by
  simp only [invalidBucket, Option.ite_none_right_eq_some, Option.bind_eq_bind, Option.bind_eq_some_iff, Option.pure_def,
    Option.some.injEq] at h
  obtain ⟨-, host, hhost, limit, -, rfl⟩ := h
  exact ⟨host, hhost, rfl⟩

theorem mem_buckets (h : b ∈ r.buckets u) : r.Source u b := by
  simp only [buckets, List.mem_append, Option.mem_toList] at h
  rcases h with ((h | h) | h) | h
  · obtain ⟨host, hhost, hlimit, hb⟩ := ipBucket_eq h
    exact .ip hhost hlimit hb
  · obtain ⟨id, hid, hb⟩ := endpointBucket_eq h
    exact .endpoint hid hb
  · obtain ⟨id, hid, hb⟩ := sellerBucket_eq h
    exact .seller hid hb
  · obtain ⟨host, hhost, hb⟩ := invalidBucket_eq h
    exact .invalid hhost hb

theorem windowSeconds_eq (h : b ∈ r.buckets u) : b.windowSeconds = 60 := by
  cases mem_buckets h with
  | ip _ _ hb | endpoint _ hb | seller _ hb | invalid _ hb => rw [hb]

/-- The buckets of one request have different keys. -/
theorem buckets_nodup : ((r.buckets u).map RateLimitBucket.key).Nodup := by
  have hip : ∀ k ∈ ((r.ipBucket u).toList.map RateLimitBucket.key), ∃ host, k = ipKey u host "all" := by
    intro k hk
    obtain ⟨b, hb, rfl⟩ := List.mem_map.mp hk
    obtain ⟨host, -, -, hb⟩ := ipBucket_eq (Option.mem_toList.mp hb)
    exact ⟨host, by rw [hb]⟩
  have hendpoint : ∀ k ∈ ((r.endpointBucket u).toList.map RateLimitBucket.key),
      ∃ id, k = sellerKey u id r.endpoint.value := by
    intro k hk
    obtain ⟨b, hb, rfl⟩ := List.mem_map.mp hk
    obtain ⟨id, -, hb⟩ := endpointBucket_eq (Option.mem_toList.mp hb)
    exact ⟨id, by rw [hb]⟩
  have hseller : ∀ k ∈ ((r.sellerBucket u).toList.map RateLimitBucket.key), ∃ id, k = sellerKey u id "all" := by
    intro k hk
    obtain ⟨b, hb, rfl⟩ := List.mem_map.mp hk
    obtain ⟨id, -, hb⟩ := sellerBucket_eq (Option.mem_toList.mp hb)
    exact ⟨id, by rw [hb]⟩
  have hinvalid : ∀ k ∈ ((r.invalidBucket u).toList.map RateLimitBucket.key), ∃ host, k = ipKey u host "invalid" := by
    intro k hk
    obtain ⟨b, hb, rfl⟩ := List.mem_map.mp hk
    obtain ⟨host, -, hb⟩ := invalidBucket_eq (Option.mem_toList.mp hb)
    exact ⟨host, by rw [hb]⟩
  have hsingle : ∀ o : Option RateLimitBucket, (o.toList.map RateLimitBucket.key).Nodup := by
    intro o
    cases o <;> simp
  simp only [buckets, List.map_append]
  refine List.nodup_append.mpr ⟨List.nodup_append.mpr ⟨List.nodup_append.mpr ⟨hsingle _, hsingle _, ?_⟩, hsingle _, ?_⟩,
    hsingle _, ?_⟩
  · intro k hk k' hk'
    obtain ⟨host, rfl⟩ := hip k hk
    obtain ⟨id, rfl⟩ := hendpoint k' hk'
    exact ipKey_ne_sellerKey
  · intro k hk k' hk'
    obtain ⟨id', rfl⟩ := hseller k' hk'
    rcases List.mem_append.mp hk with hk | hk
    · obtain ⟨host, rfl⟩ := hip k hk
      exact ipKey_ne_sellerKey
    · obtain ⟨id, rfl⟩ := hendpoint k hk
      exact fun h => r.endpoint.value_ne_all (sellerKey_inj h).2
  · intro k hk k' hk'
    obtain ⟨host', rfl⟩ := hinvalid k' hk'
    rcases List.mem_append.mp hk with hk | hk
    · rcases List.mem_append.mp hk with hk | hk
      · obtain ⟨host, rfl⟩ := hip k hk
        exact fun h => absurd (ipKey_inj h).2 (by decide)
      · obtain ⟨id, rfl⟩ := hendpoint k hk
        exact ipKey_ne_sellerKey.symm
    · obtain ⟨id, rfl⟩ := hseller k hk
      exact ipKey_ne_sellerKey.symm

end RateLimitRequest

/-! ## The limiter as counters with limits -/

/-- The buckets of a request as keys of the counters. -/
def RateLimitRequest.keys (u : Unicode) {ω : Type} (window : RateLimitBucket → ω) (r : RateLimitRequest) :
    List ((String × ω) × Int) := (r.buckets u).map fun b => ((b.key, window b), b.limit)

/-- The buckets of a request at a time. -/
def RateLimitRequest.windows (u : Unicode) (x : RateLimitRequest × ℚ≥0) : List ((String × Nat) × Int) :=
  x.1.keys u fun b => b.windowId x.2

/-- The decision, given what the counters were. -/
def decisionFor (buckets : List RateLimitBucket) (counts : List Nat) : RateLimitDecision :=
  let before := List.zipWith (fun b n => decisionForBucket b n false) buckets counts
  if buckets.isEmpty then { allowed := true }
  else if !(before.filter (!·.allowed)).isEmpty then mostRestrictive (before.filter (!·.allowed))
  else mostRestrictive (List.zipWith (fun b n => decisionForBucket b (n + 1) true) buckets counts)

theorem firstBest_mem {α : Type} (better : α → α → Bool) (x : α) (xs : List α) :
    firstBest better x xs ∈ x :: xs := by
  induction xs generalizing x with
  | nil => exact List.mem_cons_self
  | cons y xs ih =>
    rw [firstBest, List.foldl_cons]
    have hmem := ih (if better y x then y else x)
    rw [firstBest] at hmem
    rcases List.mem_cons.mp hmem with heq | htail
    · rw [heq]
      split <;> simp
    · exact List.mem_cons_of_mem x (List.mem_cons_of_mem y htail)

/-- The most restrictive decision is one of them. -/
theorem mostRestrictive_mem {ds : List RateLimitDecision} (h : ds ≠ []) : mostRestrictive ds ∈ ds := by
  cases ds with
  | nil => exact absurd rfl h
  | cons d ds =>
    simp only [mostRestrictive]
    split
    · rename_i r rs hrejected
      have hmem := firstBest_mem (fun x y => decide (y.retryAfterSeconds < x.retryAfterSeconds)) r rs
      rw [← hrejected] at hmem
      exact (List.mem_filter.mp hmem).1
    · exact firstBest_mem _ d ds

/-- Before and after it is counted, a request is allowed by a bucket when the counter was below the limit. -/
theorem allowed_map (buckets : List RateLimitBucket) (counts : List Nat) (consumed : Bool) :
    (List.zipWith (fun b n => decisionForBucket b (if consumed then n + 1 else n) consumed) buckets counts).map
        (·.allowed) =
      List.zipWith (fun (l : Int) (n : Nat) => decide ((n : Int) < l)) (buckets.map (·.limit)) counts := by
  rw [List.map_zipWith, List.zipWith_map_left]
  congr 1
  funext b n
  cases consumed
  · simp [decisionForBucket]
  · simp only [decisionForBucket, if_true, Nat.cast_add, Nat.cast_one, decide_eq_decide]
    omega

/-- A request is allowed exactly when every counter was below its limit. -/
theorem decisionFor_allowed {buckets : List RateLimitBucket} {counts : List Nat}
    (hlen : counts.length = buckets.length) :
    (decisionFor buckets counts).allowed = Quota.within (buckets.map (·.limit)) counts := by
  have hbefore := allowed_map buckets counts false
  have hafter := allowed_map buckets counts true
  simp only [Bool.false_eq_true, if_false, if_true] at hbefore hafter
  simp only [decisionFor, Quota.within]
  by_cases hempty : buckets.isEmpty = true
  · simp [List.isEmpty_iff.mp hempty]
  · simp only [hempty, Bool.false_eq_true, if_false]
    rw [← hbefore, List.all_map]
    by_cases hall : (List.zipWith (fun b n => decisionForBucket b n false) buckets counts).all (·.allowed) = true
    · have hnone : (List.zipWith (fun b n => decisionForBucket b n false) buckets counts).filter (!·.allowed) = [] := by
        rw [List.filter_eq_nil_iff]
        intro d hd
        simpa using List.all_eq_true.mp hall d hd
      have hconsumed : ∀ d ∈ List.zipWith (fun b n => decisionForBucket b (n + 1) true) buckets counts,
          d.allowed = true := by
        rw [← List.all_eq_true] at *
        have hsame := congrArg (List.all · id) (hafter.trans hbefore.symm)
        simp only [List.all_map] at hsame
        exact hsame.trans hall
      have hne : List.zipWith (fun b n => decisionForBucket b (n + 1) true) buckets counts ≠ [] := by
        rw [ne_eq, List.zipWith_eq_nil_iff]
        rw [List.isEmpty_iff] at hempty
        rintro (hb | hc)
        · exact hempty hb
        · rw [hc] at hlen
          exact hempty (List.length_eq_zero_iff.mp hlen.symm)
      simp only [hnone, List.isEmpty_nil, Bool.not_true, Bool.false_eq_true, if_false]
      exact (hconsumed _ (mostRestrictive_mem hne)).trans hall.symm
    · have hsome : (List.zipWith (fun b n => decisionForBucket b n false) buckets counts).filter (!·.allowed) ≠ [] := by
        rw [ne_eq, List.filter_eq_nil_iff]
        intro hnone
        refine hall (List.all_eq_true.mpr fun d hd => ?_)
        simpa using hnone d hd
      have hrefused : (mostRestrictive ((List.zipWith (fun b n => decisionForBucket b n false) buckets counts).filter
          (!·.allowed))).allowed = false := by
        simpa using (List.mem_filter.mp (mostRestrictive_mem hsome)).2
      have hnonempty : ((List.zipWith (fun b n => decisionForBucket b n false) buckets counts).filter
          (!·.allowed)).isEmpty = false := by
        rw [Bool.eq_false_iff, ne_eq, List.isEmpty_iff]
        exact hsome
      simp only [hnonempty, Bool.not_false, if_true, hrefused]
      exact (Bool.eq_false_iff.mpr hall).symm

namespace InMemoryFixedWindowRateLimiter

section Windows

variable {ω : Type} {u : Unicode} {r : RateLimitRequest} {window : RateLimitBucket → ω}

theorem keys_fst : (r.keys u window).map Prod.fst = (r.buckets u).map fun b => (b.key, window b) := by
  simp [RateLimitRequest.keys, Function.comp_def]

/-- A request asks for no counter twice. -/
theorem keys_nodup : ((r.keys u window).map Prod.fst).Nodup := by
  rw [keys_fst]
  refine List.Nodup.of_map Prod.fst ?_
  rw [List.map_map]
  exact RateLimitRequest.buckets_nodup

theorem counts_keys (c : String × ω → Nat) : Quota.counts c (r.keys u window) =
    (r.buckets u).map fun b => c (b.key, window b) := by
  simp [Quota.counts, RateLimitRequest.keys, Function.comp_def]

/-- Some bucket refuses exactly when the request is not admitted. -/
theorem rejected_isEmpty (c : String × ω → Nat) :
    (((r.buckets u).map fun b => decisionForBucket b (c (b.key, window b)) false).filter (!·.allowed)).isEmpty =
      Quota.admits c (r.keys u window) := by
  rw [Bool.eq_iff_iff, List.isEmpty_iff, List.filter_eq_nil_iff, Quota.admits, List.all_eq_true]
  simp [RateLimitRequest.keys, decisionForBucket]

variable [DecidableEq ω] {limiter : InMemoryFixedWindowRateLimiter ω}

theorem increments_counters (buckets : List RateLimitBucket) (limiter : InMemoryFixedWindowRateLimiter ω) :
    (buckets.foldl (fun l b => l.increment window b) limiter).counters =
      Quota.charge limiter.counters (buckets.map fun b => ((b.key, window b), b.limit)) := by
  induction buckets generalizing limiter with
  | nil => rfl
  | cons b buckets ih =>
    rw [List.foldl_cons, ih, List.map_cons, Quota.charge_cons]
    rfl

theorem increments_eq : (r.buckets u).foldl (fun l b => l.increment window b) limiter =
    ⟨Quota.charge limiter.counters (r.keys u window)⟩ :=
  congrArg InMemoryFixedWindowRateLimiter.mk (increments_counters (r.buckets u) limiter)

/-- The counters of a request that is admitted go up by one. -/
theorem charge_count {b : RateLimitBucket} (hb : b ∈ r.buckets u) (c : String × ω → Nat) :
    Quota.charge c (r.keys u window) (b.key, window b) = c (b.key, window b) + 1 := by
  refine Quota.charge_of_mem keys_nodup ?_
  rw [keys_fst]
  exact List.mem_map_of_mem hb

/-- `check` is one step of the counters, and its answer depends on what they were. -/
theorem checkAt_eq : limiter.checkAt window u r =
    (decisionFor (r.buckets u) (Quota.counts limiter.counters (r.keys u window)),
      ⟨Quota.step limiter.counters (r.keys u window)⟩) := by
  simp only [checkAt, decisionFor, counts_keys, List.zipWith_map_right, List.zipWith_self, count, rejected_isEmpty,
    increments_eq]
  by_cases hempty : (r.buckets u).isEmpty = true
  · have hnil : r.keys u window = [] := by
      rw [RateLimitRequest.keys, List.isEmpty_iff.mp hempty]
      rfl
    simp [hempty, hnil]
  · by_cases hadmits : Quota.admits limiter.counters (r.keys u window) = true
    · have hafter : ((r.buckets u).map fun b => decisionForBucket b
          (Quota.charge limiter.counters (r.keys u window) (b.key, window b)) true) =
          (r.buckets u).map fun b => decisionForBucket b (limiter.counters (b.key, window b) + 1) true :=
        List.map_congr_left fun b hb => by rw [charge_count hb]
      simp only [hempty, hadmits, Bool.not_true, Bool.false_eq_true, if_false, Quota.step, if_true, hafter]
    · simp [hempty, hadmits, Quota.step]

end Windows

variable {u : Unicode} {limiter : InMemoryFixedWindowRateLimiter} {r : RateLimitRequest} {now : ℚ≥0}

theorem windows_keys : (RateLimitRequest.windows u (r, now)).map Prod.fst =
    (r.buckets u).map fun b => (b.key, b.windowId now) := keys_fst

theorem windows_nodup : ((RateLimitRequest.windows u (r, now)).map Prod.fst).Nodup := keys_nodup

theorem check_eq : limiter.check u r now =
    (decisionFor (r.buckets u) (Quota.counts limiter.counters (RateLimitRequest.windows u (r, now))),
      ⟨Quota.step limiter.counters (RateLimitRequest.windows u (r, now))⟩) := checkAt_eq

/-- The decisions of a history, read off the counters. -/
theorem decisions_eq (history : List (RateLimitRequest × ℚ≥0)) : limiter.decisions u history =
    (Quota.trace (RateLimitRequest.windows u) limiter.counters history).map
      fun x => decisionFor (x.1.1.buckets u) x.2 := by
  induction history generalizing limiter with
  | nil => rfl
  | cons x history ih =>
    obtain ⟨r, now⟩ := x
    simp only [decisions, check_eq, Quota.trace, List.map_cons, ih]

end InMemoryFixedWindowRateLimiter

end HostedFacilitator
