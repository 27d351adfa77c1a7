import Mathlib
import HostedFacilitator.Limits.InMemory
import HostedFacilitator.Python.Numbers

/-!
# Rate limits in `rate_limits_json`

A policy is stored as an object with its six limits, where `null` is no limit. What a policy was written as is read back
(`fromJson_policyJson`), also from the text of `json.dumps` (`loads_policyText`). Anything else that is stored may lack a
limit or hold it in another type, and `_optional_int` makes of both that there is none: `rate_limits_decoded_iff`.
-/

namespace HostedFacilitator

namespace RateLimitPolicy

/-- The six limits. -/
inductive Field where
  | sellerRequests
  | supported
  | verify
  | settle
  | invalidRequests
  | ipRequests
  deriving DecidableEq

/-- The key of a limit in the object. -/
def Field.key : Field → String
  | .sellerRequests => "sellerRequestsPerMinute"
  | .supported => "supportedPerMinute"
  | .verify => "verifyPerMinute"
  | .settle => "settlePerMinute"
  | .invalidRequests => "invalidRequestsPerMinute"
  | .ipRequests => "ipRequestsPerMinute"

/-- The limits in the order in which they are written. -/
def Field.all : List Field := [.sellerRequests, .supported, .verify, .settle, .invalidRequests, .ipRequests]

/-- The limit of a policy. -/
def limit (p : RateLimitPolicy) : Field → Option Int
  | .sellerRequests => p.sellerRequestsPerMinute
  | .supported => p.supportedPerMinute
  | .verify => p.verifyPerMinute
  | .settle => p.settlePerMinute
  | .invalidRequests => p.invalidRequestsPerMinute
  | .ipRequests => p.ipRequestsPerMinute

/-- The policy with these limits. -/
def ofLimits (limits : Field → Option Int) : RateLimitPolicy where
  sellerRequestsPerMinute := limits .sellerRequests
  supportedPerMinute := limits .supported
  verifyPerMinute := limits .verify
  settlePerMinute := limits .settle
  invalidRequestsPerMinute := limits .invalidRequests
  ipRequestsPerMinute := limits .ipRequests

theorem ofLimits_limit (p : RateLimitPolicy) : ofLimits p.limit = p := rfl

theorem limit_ofLimits (limits : Field → Option Int) (f : Field) : (ofLimits limits).limit f = limits f := by
  cases f <;> rfl

theorem Field.mem_all (f : Field) : f ∈ Field.all := by cases f <;> decide

theorem Field.key_inj {f g : Field} (h : f.key = g.key) : f = g := by
  revert h
  cases f <;> cases g <;> decide

end RateLimitPolicy

/-! ## Values -/

/-- A limit as a value. -/
def limitJson : Option Int → PyVal
  | none => .null
  | some n => .int n

/-- `_rate_limit_policy_json`. -/
def rateLimitPolicyJson (policy : RateLimitPolicy) : PyDict :=
  RateLimitPolicy.Field.all.map fun f => (f.key, limitJson (policy.limit f))

/-- `_optional_int`; a bool is an integer. -/
def optionalInt : PyVal → Option Int
  | .int n => some n
  | .bool b => some (if b then 1 else 0)
  | _ => none

/-- The value, or what a text says as JSON. -/
def jsonOf (loads : String → Except PyErr PyVal) : PyVal → Except PyErr PyVal
  | .str s => loads s
  | v => .ok v

/-- `_rate_limit_policy_from_json`. -/
def rateLimitPolicyFromJson (loads : String → Except PyErr PyVal) (value : PyVal) : Except PyErr RateLimitPolicy := do
  let value ← jsonOf loads value
  match value with
  | .dict d => return .ofLimits fun f => optionalInt (PyDict.get d f.key)
  | _ => return {}

/-! ## Texts -/

/-- A limit in JSON. -/
def limitText : Option Int → Except PyErr String
  | none => .ok "null"
  | some n => strInt n

/-- The entries of an object after `opening`, and its end. -/
def entriesText (opening : String) : List (String × Option Int) → Except PyErr (List Char)
  | [] => .ok ['\x7d']
  | (key, limit) :: rest => do
    let value ← limitText limit
    let rest ← entriesText ", " rest
    return (opening ++ "\"" ++ key ++ "\": ").toList ++ value.toList ++ rest

/-- `json.dumps(_rate_limit_policy_json(policy))`. -/
def policyText (policy : RateLimitPolicy) : Except PyErr String :=
  (entriesText "\x7b" (RateLimitPolicy.Field.all.map fun f => (f.key, policy.limit f))).map String.ofList

/-- The rest after a text. -/
def dropText (text : String) (s : List Char) : Option (List Char) :=
  if text.toList.isPrefixOf s then some (s.drop text.toList.length) else none

/-- A limit that is written as `limitText` writes it: no leading zero, no underscore and no more than 4300 digits. -/
def readLimit (s : List Char) : Option (Option Int) :=
  if s = "null".toList then some none
  else ((String.ofList s).toInt?.filter fun n => (strInt n).toOption = some (String.ofList s)).map some

/-- Reads what `entriesText` writes for these keys. -/
def readEntries (opening : String) : List String → List Char → Option (List (Option Int))
  | [], s => if s = ['\x7d'] then some [] else none
  | key :: keys, s => do
    let s ← dropText (opening ++ "\"" ++ key ++ "\": ") s
    let limit ← readLimit (s.takeWhile fun c => c ≠ ',' ∧ c ≠ '\x7d')
    let limits ← readEntries ", " keys (s.dropWhile fun c => c ≠ ',' ∧ c ≠ '\x7d')
    return limit :: limits

/-- `json.loads` on the texts of policies; `other` is for all other texts. -/
def jsonLoads (other : String → Except PyErr PyVal) (text : String) : Except PyErr PyVal :=
  match readEntries "\x7b" (RateLimitPolicy.Field.all.map RateLimitPolicy.Field.key) text.toList with
  | some limits => .ok (.dict ((RateLimitPolicy.Field.all.map RateLimitPolicy.Field.key).zip (limits.map limitJson)))
  | none => other text

section Texts

variable {limit : Option Int} {text : String} {n : Int}

theorem strInt_ok : strInt n = .ok text ↔ (toString n.natAbs).length ≤ 4300 ∧ toString n = text := by
  unfold strInt
  split
  · rename_i h
    simp only [Except.ok.injEq, h, true_and]
  · rename_i h
    simp only [reduceCtorEq, h, false_and]

/-- An integer is written with digits and a sign. -/
theorem toString_chars {c : Char} (h : c ∈ (toString n).toList) : c.isDigit = true ∨ c = '-' := by
  have hnat : ∀ m : Nat, c ∈ m.repr.toList → c.isDigit = true := by
    intro m hm
    rw [Nat.toList_repr] at hm
    exact Nat.isDigit_of_mem_toDigits (by decide) (by decide) hm
  rw [Int.toString_eq_repr, Int.repr_eq_if] at h
  split at h
  · exact Or.inl (hnat _ h)
  · rw [String.toList_append, List.mem_append] at h
    rcases h with hsign | hdigits
    · exact Or.inr (by simpa using hsign)
    · exact Or.inl (hnat _ hdigits)

/-- A limit is written without the characters that end it, and is read back. -/
theorem limitText_ok (h : limitText limit = .ok text) :
    (∀ c ∈ text.toList, c ≠ ',' ∧ c ≠ '\x7d') ∧ readLimit text.toList = some limit := by
  cases limit with
  | none =>
    obtain rfl : "null" = text := Except.ok.inj h
    exact ⟨List.all_iff_forall_prop.mp (by decide), by rw [readLimit, if_pos rfl]⟩
  | some n =>
    obtain ⟨hdigits, rfl⟩ := strInt_ok.mp h
    have hchars : ∀ c ∈ (toString n).toList, c ≠ ',' ∧ c ≠ '\x7d' ∧ c ≠ 'n' := by
      intro c hc
      rcases toString_chars hc with hdigit | rfl
      · refine ⟨?_, ?_, ?_⟩ <;> rintro rfl <;> revert hdigit <;> decide
      · decide
    refine ⟨fun c hc => ⟨(hchars c hc).1, (hchars c hc).2.1⟩, ?_⟩
    have hnull : (toString n).toList ≠ "null".toList := by
      intro heq
      exact (hchars 'n' (by rw [heq]; decide)).2.2 rfl
    have hwritten : strInt n = .ok (toString n) := strInt_ok.mpr ⟨hdigits, rfl⟩
    have hread : (toString n).toInt? = some n := by rw [Int.toString_eq_repr, Int.toInt?_repr]
    rw [readLimit, if_neg hnull, String.ofList_toList, hread, Option.filter_some, hwritten]
    simp [Except.toOption]

/-- Nothing else is read. -/
theorem readLimit_eq_some {s : List Char} (h : readLimit s = some limit) : limitText limit = .ok (String.ofList s) := by
  unfold readLimit at h
  split at h
  · rename_i hnull
    obtain rfl := Option.some.inj h
    rw [hnull, String.ofList_toList]
    rfl
  · obtain ⟨n, hn, rfl⟩ := Option.map_eq_some_iff.mp h
    have hwritten := of_decide_eq_true (Option.filter_eq_some_iff.mp hn).2
    cases hint : strInt n with
    | error e =>
      rw [hint] at hwritten
      cases hwritten
    | ok text =>
      rw [hint] at hwritten
      exact hint.trans (congrArg Except.ok (Option.some.inj hwritten))

theorem dropText_append (s : List Char) : dropText text (text.toList ++ s) = some s := by
  simp [dropText]

/-- What is left after an entry begins with the character that ends it. -/
theorem entriesText_head {entries : List (String × Option Int)} {s : List Char}
    (h : entriesText ", " entries = .ok s) : ∃ c rest, s = c :: rest ∧ (c = ',' ∨ c = '\x7d') := by
  cases entries with
  | nil =>
    cases h
    exact ⟨_, _, rfl, Or.inr rfl⟩
  | cons e entries =>
    obtain ⟨value, -, h⟩ := bind_ok.mp h
    obtain ⟨rest, -, h⟩ := bind_ok.mp h
    cases h
    refine ⟨',', (" " ++ "\"" ++ e.1 ++ "\": ").toList ++ value.toList ++ rest, ?_, Or.inl rfl⟩
    simp [String.toList_append]

/-- What is written is read back. -/
theorem readEntries_text {opening : String} {entries : List (String × Option Int)} {s : List Char}
    (h : entriesText opening entries = .ok s) :
    readEntries opening (entries.map Prod.fst) s = some (entries.map Prod.snd) := by
  induction entries generalizing opening s with
  | nil =>
    cases h
    rfl
  | cons e entries ih =>
    obtain ⟨key, limit⟩ := e
    obtain ⟨value, hvalue, h⟩ := bind_ok.mp h
    obtain ⟨rest, hrest, h⟩ := bind_ok.mp h
    cases h
    obtain ⟨hchars, hread⟩ := limitText_ok hvalue
    obtain ⟨c, tail, rfl, hend⟩ := entriesText_head hrest
    have hstop : decide (c ≠ ',' ∧ c ≠ '\x7d') = false := by
      rcases hend with rfl | rfl <;> decide
    have hkeep : ∀ x ∈ value.toList, decide (x ≠ ',' ∧ x ≠ '\x7d') = true := fun x hx => decide_eq_true (hchars x hx)
    have htake : (value.toList ++ c :: tail).takeWhile (fun c => decide (c ≠ ',' ∧ c ≠ '\x7d')) = value.toList := by
      rw [List.takeWhile_append_of_pos hkeep, List.takeWhile_cons, hstop]
      simp
    have hdrop : (value.toList ++ c :: tail).dropWhile (fun c => decide (c ≠ ',' ∧ c ≠ '\x7d')) = c :: tail := by
      rw [List.dropWhile_append_of_pos hkeep, List.dropWhile_cons, hstop]
      simp
    simp only [List.map_cons, readEntries, List.append_assoc, dropText_append, htake, hdrop, hread, ih hrest,
      Option.bind_eq_bind, Option.bind_some]
    rfl

theorem dropText_eq_some {s rest : List Char} (h : dropText text s = some rest) : s = text.toList ++ rest := by
  unfold dropText at h
  split at h
  · rename_i hprefix
    obtain ⟨tail, rfl⟩ := List.isPrefixOf_iff_prefix.mp hprefix
    obtain rfl := Option.some.inj h
    rw [List.drop_left]
  · cases h

/-- What is read was written so. -/
theorem text_of_readEntries {opening : String} {keys : List String} {s : List Char} {limits : List (Option Int)}
    (h : readEntries opening keys s = some limits) :
    keys.length = limits.length ∧ entriesText opening (keys.zip limits) = .ok s := by
  induction keys generalizing opening s limits with
  | nil =>
    unfold readEntries at h
    split at h
    · rename_i hend
      obtain rfl := Option.some.inj h
      exact ⟨rfl, congrArg Except.ok hend.symm⟩
    · cases h
  | cons key keys ih =>
    obtain ⟨rest, hdrop, h⟩ := Option.bind_eq_some_iff.mp h
    obtain ⟨limit, hlimit, h⟩ := Option.bind_eq_some_iff.mp h
    obtain ⟨others, hothers, h⟩ := Option.bind_eq_some_iff.mp h
    obtain rfl := Option.some.inj h
    obtain ⟨hlength, hrest⟩ := ih hothers
    refine ⟨congrArg (· + 1) hlength, bind_ok.mpr ⟨_, readLimit_eq_some hlimit, bind_ok.mpr ⟨_, hrest, ?_⟩⟩⟩
    rw [String.toList_ofList, List.append_assoc, List.takeWhile_append_dropWhile, dropText_eq_some hdrop]
    rfl

/-- `json.dumps` refuses an integer with too many digits, and nothing else here. -/
theorem entriesText_ok (opening : String) {entries : List (String × Option Int)} :
    (∃ s, entriesText opening entries = .ok s) ↔
      ∀ e ∈ entries, ∀ n, e.2 = some n → (toString n.natAbs).length ≤ 4300 := by
  induction entries generalizing opening with
  | nil => exact iff_of_true ⟨_, rfl⟩ (by simp)
  | cons e entries ih =>
    have hfirst : (∃ text, limitText e.2 = .ok text) ↔ ∀ n, e.2 = some n → (toString n.natAbs).length ≤ 4300 := by
      cases e.2 with
      | none => exact iff_of_true ⟨_, rfl⟩ nofun
      | some n =>
        simp only [Option.some.injEq, forall_eq']
        exact ⟨fun ⟨text, h⟩ => (strInt_ok.mp h).1, fun h => ⟨_, strInt_ok.mpr ⟨h, rfl⟩⟩⟩
    rw [List.forall_mem_cons, ← hfirst, ← ih ", "]
    constructor
    · rintro ⟨s, h⟩
      obtain ⟨value, hvalue, h⟩ := bind_ok.mp h
      obtain ⟨rest, hrest, -⟩ := bind_ok.mp h
      exact ⟨⟨value, hvalue⟩, rest, hrest⟩
    · rintro ⟨⟨value, hvalue⟩, rest, hrest⟩
      exact ⟨_, bind_ok.mpr ⟨value, hvalue, bind_ok.mpr ⟨rest, hrest, rfl⟩⟩⟩

/-- The text of a policy says its object. -/
theorem loads_policyText {policy : RateLimitPolicy} (other : String → Except PyErr PyVal)
    (h : policyText policy = .ok text) : jsonLoads other text = .ok (.dict (rateLimitPolicyJson policy)) := by
  obtain ⟨s, hs, rfl⟩ := map_ok.mp h
  have hread := readEntries_text hs
  rw [List.map_map, List.map_map] at hread
  have hkeys : Prod.fst ∘ (fun f : RateLimitPolicy.Field => (f.key, policy.limit f)) = RateLimitPolicy.Field.key := rfl
  have hlimits : Prod.snd ∘ (fun f : RateLimitPolicy.Field => (f.key, policy.limit f)) = policy.limit := rfl
  rw [hkeys, hlimits] at hread
  rw [jsonLoads, String.toList_ofList, hread]
  simp only [List.map_map, List.zip_map']
  rfl

/-- Any other text is not touched. -/
theorem loads_other (other : String → Except PyErr PyVal) (h : ∀ policy, policyText policy ≠ .ok text) :
    jsonLoads other text = other text := by
  unfold jsonLoads
  split
  · rename_i limits hread
    obtain ⟨hlength, htext⟩ := text_of_readEntries hread
    match limits, hlength with
    | [sellerRequests, supported, verify, settle, invalidRequests, ipRequests], _ =>
      refine absurd ?_ (h ⟨sellerRequests, supported, verify, settle, invalidRequests, ipRequests⟩)
      have hwritten : policyText ⟨sellerRequests, supported, verify, settle, invalidRequests, ipRequests⟩ =
          Except.map String.ofList (.ok text.toList) := congrArg (Except.map String.ofList) htext
      rw [hwritten, Except.map, String.ofList_toList]
  · rfl

end Texts

/-! ## What is read -/

section Reading

variable {loads : String → Except PyErr PyVal} {policy : RateLimitPolicy} {f : RateLimitPolicy.Field} {v w : PyVal}

theorem lookup_policyJson (policy : RateLimitPolicy) (f : RateLimitPolicy.Field) :
    (rateLimitPolicyJson policy).lookup f.key = some (limitJson (policy.limit f)) := by
  cases f <;> rfl

theorem optionalInt_limitJson (limit : Option Int) : optionalInt (limitJson limit) = limit := by
  cases limit <;> rfl

theorem fromJson_policyJson (policy : RateLimitPolicy) :
    rateLimitPolicyFromJson loads (.dict (rateLimitPolicyJson policy)) = .ok policy := by
  have hlimits : (fun f : RateLimitPolicy.Field => optionalInt (PyDict.get (rateLimitPolicyJson policy) f.key)) =
      policy.limit := by
    funext f
    rw [PyDict.get, lookup_policyJson, Option.getD_some, optionalInt_limitJson]
  have hread : rateLimitPolicyFromJson loads (.dict (rateLimitPolicyJson policy)) =
      .ok (.ofLimits fun f => optionalInt (PyDict.get (rateLimitPolicyJson policy) f.key)) := rfl
  rw [hread, hlimits, RateLimitPolicy.ofLimits_limit]

/-- The default limit. -/
def RateLimitPolicy.Field.default (f : RateLimitPolicy.Field) : Option Int := ({} : RateLimitPolicy).limit f

/-- The limit that a stored value should give: what it says, and the default where it says nothing of the kind. -/
def RateLimitPolicy.Field.meant (f : RateLimitPolicy.Field) : PyVal → Option Int
  | .dict d =>
    match d.lookup f.key with
    | some .null => none
    | some (.int n) => some n
    | _ => f.default
  | _ => f.default

/-- The value is read, each limit as it is meant. -/
def DecodesSafely (loads : String → Except PyErr PyVal) (v : PyVal) : Prop :=
  ∃ w policy, jsonOf loads v = .ok w ∧ rateLimitPolicyFromJson loads v = .ok policy ∧ ∀ f, policy.limit f = f.meant w

/-- An object gives every limit, as an integer or as `null`. -/
def GivesLimits (w : PyVal) : Prop :=
  ∀ d, w = .dict d → ∀ f : RateLimitPolicy.Field, ∃ limit, d.lookup f.key = some (limitJson limit)

/-- Every default is a limit, and no truth value. -/
theorem default_eq (f : RateLimitPolicy.Field) : ∃ n, f.default = some n ∧ 2 ≤ n := by
  cases f <;> exact ⟨_, rfl, by decide⟩

/-- A limit of an object is read as it is meant exactly when it is there in its type. -/
theorem optionalInt_eq_meant (d : PyDict) :
    optionalInt (PyDict.get d f.key) = f.meant (.dict d) ↔ ∃ limit, d.lookup f.key = some (limitJson limit) := by
  obtain ⟨n, hdefault, hn⟩ := default_eq f
  have hnot : ∀ x : PyVal, (∀ limit, x ≠ limitJson limit) → ¬ ∃ limit, some x = some (limitJson limit) := by
    rintro x hx ⟨limit, h⟩
    exact hx limit (Option.some.inj h)
  rw [PyDict.get, RateLimitPolicy.Field.meant]
  cases d.lookup f.key with
  | none =>
    refine iff_of_false (fun h => ?_) nofun
    rw [hdefault] at h
    cases h
  | some x =>
    rw [Option.getD_some]
    cases x with
    | null => exact iff_of_true rfl ⟨none, rfl⟩
    | int m => exact iff_of_true rfl ⟨some m, rfl⟩
    | bool b =>
      refine iff_of_false (fun h => ?_) (hnot _ fun limit => by cases limit <;> nofun)
      rw [hdefault] at h
      have hb : (if b then 1 else 0) = n := Option.some.inj h
      cases b <;> simp at hb <;> omega
    | float | str | list | dict =>
      refine iff_of_false (fun h => ?_) (hnot _ fun limit => by cases limit <;> nofun)
      rw [hdefault] at h
      cases h

/-- A stored value is read as it is meant exactly when its text is JSON and its object gives every limit. -/
theorem decodesSafely_iff : DecodesSafely loads v ↔ ∃ w, jsonOf loads v = .ok w ∧ GivesLimits w := by
  have hread : ∀ w, jsonOf loads v = .ok w →
      ((∃ policy, rateLimitPolicyFromJson loads v = .ok policy ∧ ∀ f, policy.limit f = f.meant w) ↔ GivesLimits w) := by
    intro w hw
    rw [rateLimitPolicyFromJson, hw]
    cases w with
    | dict d =>
      have hfields : (∀ f : RateLimitPolicy.Field, optionalInt (PyDict.get d f.key) = f.meant (.dict d)) ↔
          GivesLimits (.dict d) := by
        simp only [optionalInt_eq_meant, GivesLimits, PyVal.dict.injEq, forall_eq']
      rw [← hfields]
      constructor
      · rintro ⟨policy, hpolicy, hlimits⟩ f
        cases hpolicy
        rw [← hlimits f, RateLimitPolicy.limit_ofLimits]
      · intro h
        exact ⟨_, rfl, fun f => (RateLimitPolicy.limit_ofLimits _ f).trans (h f)⟩
    | null | bool | int | float | str | list => exact iff_of_true ⟨_, rfl, fun f => rfl⟩ nofun
  constructor
  · rintro ⟨w, policy, hw, hpolicy, hlimits⟩
    exact ⟨w, hw, (hread w hw).mp ⟨policy, hpolicy, hlimits⟩⟩
  · rintro ⟨w, hw, h⟩
    obtain ⟨policy, hpolicy, hlimits⟩ := (hread w hw).mpr h
    exact ⟨w, policy, hw, hpolicy, hlimits⟩

end Reading

/-- What a policy is stored as is read back, from the object and from its text where `json.dumps` writes one. Any stored
value is read as it is meant, with the default where it gives no limit, exactly when it is no object or an object that
gives every limit, as an integer or as `null`. -/
theorem rate_limits_decoded_iff (other : String → Except PyErr PyVal) :
    (∀ policy, rateLimitPolicyFromJson (jsonLoads other) (.dict (rateLimitPolicyJson policy)) = .ok policy) ∧
      (∀ policy, (policyText policy >>= fun text => rateLimitPolicyFromJson (jsonLoads other) (.str text)) =
          .ok policy ↔ ∀ f n, policy.limit f = some n → (toString n.natAbs).length ≤ 4300) ∧
      ∀ v, DecodesSafely (jsonLoads other) v ↔ ∃ w, jsonOf (jsonLoads other) v = .ok w ∧ GivesLimits w := by
  refine ⟨fun policy => fromJson_policyJson policy, fun policy => ?_, fun v => decodesSafely_iff⟩
  have hwritten : (∃ text, policyText policy = .ok text) ↔
      ∀ f n, policy.limit f = some n → (toString n.natAbs).length ≤ 4300 := by
    have hentries :
        (∃ s, entriesText "\x7b" (RateLimitPolicy.Field.all.map fun f => (f.key, policy.limit f)) = .ok s) ↔ _ :=
      entriesText_ok "\x7b"
    rw [List.forall_mem_map] at hentries
    constructor
    · rintro ⟨text, h⟩ f
      obtain ⟨s, hs, -⟩ := map_ok.mp h
      exact hentries.mp ⟨s, hs⟩ f f.mem_all
    · intro h
      obtain ⟨s, hs⟩ := hentries.mpr fun f _ => h f
      exact ⟨_, map_ok.mpr ⟨s, hs, rfl⟩⟩
  rw [← hwritten]
  constructor
  · intro h
    obtain ⟨text, htext, -⟩ := bind_ok.mp h
    exact ⟨text, htext⟩
  · rintro ⟨text, htext⟩
    refine bind_ok.mpr ⟨text, htext, ?_⟩
    have hread : rateLimitPolicyFromJson (jsonLoads other) (.str text) =
        rateLimitPolicyFromJson (jsonLoads other) (.dict (rateLimitPolicyJson policy)) := by
      rw [rateLimitPolicyFromJson, rateLimitPolicyFromJson, jsonOf, loads_policyText other htext]
      rfl
    rw [hread, fromJson_policyJson]

/-- An object that limits settlements only: everything else becomes unlimited, so a verification takes no bucket. -/
theorem partial_policy_unlimited :
    ¬ DecodesSafely (jsonLoads fun _ => .error (.value "Expecting value")) (.dict [("settlePerMinute", .int 3)]) ∧
      ∃ policy, rateLimitPolicyFromJson (jsonLoads fun _ => .error (.value "Expecting value"))
          (.dict [("settlePerMinute", .int 3)]) = .ok policy ∧
        ({ endpoint := .verify, sellerAccountId := some "seller-a", clientHost := some "203.0.113.10",
           policy := policy } : RateLimitRequest).buckets .ascii = [] := by
  refine ⟨fun h => ?_, _, rfl, rfl⟩
  obtain ⟨w, hw, hgives⟩ := decodesSafely_iff.mp h
  cases hw
  obtain ⟨limit, hlimit⟩ := hgives _ rfl .verify
  cases hlimit

end HostedFacilitator
