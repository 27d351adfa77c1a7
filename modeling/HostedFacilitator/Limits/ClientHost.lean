import HostedFacilitator.Limits.InMemory
import HostedFacilitator.Python.IpAddress

/-!
# The address that a request is counted under

`_ClientHostResolver` believes the forwarding headers of a trusted proxy: `CF-Connecting-IP`, and else the first address
of `X-Forwarded-For`. A proxy appends the address of its peer to the header that the peer has sent, so the first address
is the peer's own word whenever it has sent one. `client_host_fixed_iff` says for which two headers the requests of one
peer are counted together.
-/

namespace HostedFacilitator

/-- What the resolver reads of a request: `request.client.host`, and the headers with their names in small letters. -/
structure ClientRequest where
  client : Option String
  headers : List (String × String)

/-- `request.headers.get(name, "")`. -/
def ClientRequest.header (r : ClientRequest) (name : String) : String := (r.headers.lookup name).getD ""

/-- `_safe_client_host`. -/
def safeClientHost (host : Option String) : Option String :=
  (nonEmpty host).map fun host => String.ofList (host.toList.take 128)

/-- `value.split(",", 1)[0]`. -/
def firstElement (value : String) : String := String.ofList (value.toList.takeWhile (· != ','))

/-- `_ClientHostResolver`. -/
structure ClientHostResolver where
  trustedProxyNetworks : List IpNetwork := []

namespace ClientHostResolver

variable (resolver : ClientHostResolver)

/-- `_trusts`. -/
def trusts (host : Option String) : Bool :=
  ((nonEmpty host).bind ipAddress).any fun address =>
    resolver.trustedProxyNetworks.any fun network => network.contains address

/-- `resolve`. -/
def resolve (request : ClientRequest) : Option String :=
  let cloudflareClientIp := request.header "cf-connecting-ip"
  let forwarded := request.header "x-forwarded-for"
  if resolver.trusts request.client then
    if strip cloudflareClientIp ≠ "" then safeClientHost (some (strip cloudflareClientIp))
    else if strip forwarded ≠ "" then safeClientHost (some (strip (firstElement forwarded)))
    else safeClientHost request.client
  else safeClientHost request.client

end ClientHostResolver

/-! ## Behind a proxy -/

/-- `X-Forwarded-For` as a proxy hands it on: what the client has supplied, then the address of the peer. -/
def appendedFor (supplied : Option String) (peer : String) : String :=
  match supplied with
  | none => peer
  | some list => list ++ ", " ++ peer

/-- The request that a proxy hands on for a peer. The other headers are the client's. -/
def onBehalf (proxy peer : String) (headers : List (String × String)) (supplied : Option String) : ClientRequest where
  client := some proxy
  headers := ("x-forwarded-for", appendedFor supplied peer) :: headers

/-- The address that the list begins with. -/
def leadingAddress (peer : String) (supplied : Option String) : String :=
  strip (firstElement (appendedFor supplied peer))

/-- The buckets of a request that have the client's address in their key. -/
def RateLimitRequest.ipBuckets (u : Unicode) (r : RateLimitRequest) : List RateLimitBucket :=
  (r.ipBucket u).toList ++ (r.invalidBucket u).toList

section Proxies

variable {resolver : ClientHostResolver} {proxy peer : String} {headers : List (String × String)}
  {supplied supplied' : Option String}

/-- A list with the address of a peer in it is not blank. -/
theorem appendedFor_ne {address : IpAddress} (hpeer : ipAddress peer = some address) :
    strip (appendedFor supplied peer) ≠ "" := by
  cases supplied with
  | none => exact strip_ne_of_ipAddress hpeer
  | some list =>
    intro hblank
    have hcomma : ',' ∈ (appendedFor (some list) peer).toList := by
      simp [appendedFor, String.toList_append]
    have hspace := strip_eq_empty.mp hblank ',' hcomma
    revert hspace
    decide

/-- Behind a trusted proxy the host is the client's `CF-Connecting-IP`, or the address that the list begins with. -/
theorem resolve_onBehalf {address : IpAddress} (htrusted : resolver.trusts (some proxy) = true)
    (hpeer : ipAddress peer = some address) :
    resolver.resolve (onBehalf proxy peer headers supplied) =
      safeClientHost (some (if strip ((headers.lookup "cf-connecting-ip").getD "") = "" then
        leadingAddress peer supplied else strip ((headers.lookup "cf-connecting-ip").getD ""))) := by
  have hcloudflare : (onBehalf proxy peer headers supplied).header "cf-connecting-ip" =
      (headers.lookup "cf-connecting-ip").getD "" := by
    simp [onBehalf, ClientRequest.header, List.lookup_cons]
  have hforwarded : (onBehalf proxy peer headers supplied).header "x-forwarded-for" = appendedFor supplied peer := by
    simp [onBehalf, ClientRequest.header]
  have hproxy : resolver.trusts (onBehalf proxy peer headers supplied).client = true := htrusted
  rw [ClientHostResolver.resolve, hcloudflare, hforwarded]
  have hforwarded' : strip (appendedFor supplied peer) ≠ "" := appendedFor_ne hpeer
  simp only [if_pos hproxy, if_pos hforwarded']
  by_cases hblank : strip ((headers.lookup "cf-connecting-ip").getD "") = ""
  · rw [if_neg (not_not.mpr hblank), if_pos hblank]
    rfl
  · rw [if_pos hblank, if_neg hblank]

/-- 128 characters of an address count. -/
theorem safeClientHost_inj {host host' : String} :
    safeClientHost (some host) = safeClientHost (some host') ↔ host.toList.take 128 = host'.toList.take 128 := by
  have hcut : ∀ h : String, safeClientHost (some h) =
      if h.toList.take 128 = [] then none else some (String.ofList (h.toList.take 128)) := by
    intro h
    by_cases hempty : h = ""
    · subst hempty
      rfl
    · have htake : h.toList.take 128 ≠ [] := by simpa using hempty
      rw [if_neg htake, safeClientHost, nonEmpty, Option.filter_some, if_pos (by simpa using hempty), Option.map_some]
  rw [hcut, hcut]
  constructor
  · intro h
    split at h
    · rename_i hnil
      split at h
      · rename_i hnil'
        exact hnil.trans hnil'.symm
      · cases h
    · split at h
      · cases h
      · exact String.ofList_inj.mp (Option.some.inj h)
  · intro h
    rw [h]

variable (resolver) in
/-- A peer that sends an address of its choice is counted under that address. -/
theorem resolve_chosen {address : IpAddress} (htrusted : resolver.trusts (some proxy) = true)
    (hpeer : ipAddress peer = some address) (hheaders : headers.lookup "cf-connecting-ip" = none) {host : String}
    (hcomma : ',' ∉ host.toList) (hstrip : strip host = host) :
    resolver.resolve (onBehalf proxy peer headers (some host)) = safeClientHost (some host) := by
  have hfirst : firstElement (appendedFor (some host) peer) = host := by
    have hstop : ∀ rest, (host.toList ++ ',' :: rest).takeWhile (· != ',') = host.toList := by
      intro rest
      rw [List.takeWhile_append_of_pos]
      · simp
      · intro c hc
        rw [bne_iff_ne]
        rintro rfl
        exact hcomma hc
    have hlist : (appendedFor (some host) peer).toList = host.toList ++ ',' :: ' ' :: peer.toList := by
      simp [appendedFor, String.toList_append]
    rw [firstElement, hlist, hstop, String.ofList_toList]
  rw [resolve_onBehalf htrusted hpeer, hheaders, Option.getD_none, if_pos (by decide), leadingAddress, hfirst, hstrip]

/-- **When a client cannot choose its address**: two requests that a trusted proxy hands on for one peer, and that differ
in the supplied `X-Forwarded-For` only, are counted under one host, in the same buckets, exactly when the supplied lists
begin with the same address, or when `CF-Connecting-IP` is there and decides. -/
theorem client_host_fixed_iff (u : Unicode) (resolver : ClientHostResolver) (proxy peer : String)
    (headers : List (String × String)) (supplied supplied' : Option String) {address : IpAddress}
    (htrusted : resolver.trusts (some proxy) = true) (hpeer : ipAddress peer = some address) :
    (resolver.resolve (onBehalf proxy peer headers supplied) = resolver.resolve (onBehalf proxy peer headers supplied') ∧
      ∀ r : RateLimitRequest,
        RateLimitRequest.ipBuckets u { r with clientHost := resolver.resolve (onBehalf proxy peer headers supplied) } =
          RateLimitRequest.ipBuckets u
            { r with clientHost := resolver.resolve (onBehalf proxy peer headers supplied') }) ↔
      strip ((headers.lookup "cf-connecting-ip").getD "") ≠ "" ∨
        (leadingAddress peer supplied).toList.take 128 = (leadingAddress peer supplied').toList.take 128 := by
  have hbuckets : ∀ {p : Prop} {host host' : Option String}, (host = host' ↔ p) → ((host = host' ∧
      ∀ r : RateLimitRequest, RateLimitRequest.ipBuckets u { r with clientHost := host } =
        RateLimitRequest.ipBuckets u { r with clientHost := host' }) ↔ p) := by
    intro p host host' h
    refine ⟨fun hboth => h.mp hboth.1, fun hp => ?_⟩
    have hsame := h.mpr hp
    exact ⟨hsame, fun r => by rw [hsame]⟩
  apply hbuckets
  rw [resolve_onBehalf htrusted hpeer, resolve_onBehalf htrusted hpeer, safeClientHost_inj]
  by_cases hblank : strip ((headers.lookup "cf-connecting-ip").getD "") = ""
  · rw [if_pos hblank, if_pos hblank]
    exact ⟨Or.inr, fun h => h.resolve_left (not_not.mpr hblank)⟩
  · rw [if_neg hblank, if_neg hblank]
    exact iff_of_true rfl (Or.inl hblank)

end Proxies

/-- A resolver that trusts the proxies in `10.0.0.0/24`. -/
def trustingResolver : ClientHostResolver := { trustedProxyNetworks := [.v4 0x0a000000 0xffffff00] }

theorem trustingResolver_trusts : trustingResolver.trusts (some "10.0.0.8") = true := by decide +kernel

/-- What comes behind the first address does not count. -/
theorem client_host_fixed_tail :
    trustingResolver.resolve (onBehalf "10.0.0.8" "198.51.100.7" [] (some "203.0.113.10")) =
      trustingResolver.resolve (onBehalf "10.0.0.8" "198.51.100.7" [] (some "203.0.113.10 , 192.0.2.1")) := by
  have hpeer : ipAddress "198.51.100.7" = some (.v4 3325256711) := by decide +kernel
  have hlead : leadingAddress "198.51.100.7" (some "203.0.113.10") =
      leadingAddress "198.51.100.7" (some "203.0.113.10 , 192.0.2.1") := by decide +kernel
  exact ((client_host_fixed_iff .ascii trustingResolver "10.0.0.8" "198.51.100.7" [] _ _ trustingResolver_trusts
    hpeer).mpr (Or.inr (by rw [hlead]))).1

/-- One peer, two lists: two hosts, and two buckets. -/
theorem client_host_chosen :
    trustingResolver.resolve (onBehalf "10.0.0.8" "198.51.100.7" [] (some "203.0.113.10")) = some "203.0.113.10" ∧
      trustingResolver.resolve (onBehalf "10.0.0.8" "198.51.100.7" [] (some "203.0.113.11")) = some "203.0.113.11" ∧
      trustingResolver.resolve (onBehalf "10.0.0.8" "198.51.100.7" [] (some "")) = none ∧
      RateLimitRequest.ipBuckets .ascii
          { endpoint := .invalid, sellerAccountId := none, clientHost := some "203.0.113.10" } ≠
        RateLimitRequest.ipBuckets .ascii
          { endpoint := .invalid, sellerAccountId := none, clientHost := some "203.0.113.11" } := by
  decide +kernel

end HostedFacilitator
