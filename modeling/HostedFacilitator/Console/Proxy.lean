import HostedFacilitator.Console.Login
import HostedFacilitator.Console.Paths

/-!
# The proxy of the console

`proxyOpsRequest`, up to its request to the control plane. What a browser sends is let through in pieces only: a path
out of a few, the body, three headers, the cookies of an allowlist; the bearer token comes out of the session.

* `cookieParts_filtered`: the cookies that go on are the allowed ones, and are read as they were;
* `forwarded_request`: what every request to the control plane is like.
-/

namespace HostedFacilitator.Console

/-- `URL`, as far as it is read. -/
structure ParsedUrl where
  username : String := ""
  password : String := ""
  protocol : String
  hostname : String
  origin : String

/-- `process.env`. -/
structure ProxyConfig where
  apiBaseUrl : Option String := none
  nodeEnv : Option String := none
  allowInsecureBackend : Option String := none
  insecureBackendContext : Option String := none
  publicOrigin : Option String := none
  forwardCookieNames : Option String := none

/-- `isLoopbackHost`. -/
def isLoopbackHost (hostname : String) : Bool := ["localhost", "127.0.0.1", "::1"].contains hostname

/-- A text that is there and not empty. -/
def given (value : Option String) : Option String := value.filter (· ≠ "")

variable (urls : String → Option ParsedUrl) (config : ProxyConfig)

/-- Whether `http:` will do. -/
def allowsHttp (url : ParsedUrl) : Bool :=
  isLoopbackHost url.hostname || config.nodeEnv ≠ some "production" ||
    (config.allowInsecureBackend = some "true" && config.insecureBackendContext = some "local-compose")

/-- `validateOpsApiBaseUrl`. -/
def validateOpsApiBaseUrl : Except String ParsedUrl :=
  match given config.apiBaseUrl with
  | none => .error "OMNICLAW_OPS_API_BASE_URL is not configured"
  | some value => match urls value with
    | none => .error "OMNICLAW_OPS_API_BASE_URL is invalid"
    | some url =>
      if url.username ≠ "" || url.password ≠ "" then .error "OMNICLAW_OPS_API_BASE_URL must not include credentials"
      else if url.protocol = "https:" || (url.protocol = "http:" && allowsHttp config url) then .ok url
      else .error "OMNICLAW_OPS_API_BASE_URL must use HTTPS"

/-- `isSameOriginMutation`. -/
def isSameOriginMutation (method : String) (origin : Option String) (expectedOrigin : String) : Bool :=
  method = "GET" || method = "HEAD" ||
    match (given origin).bind urls, urls expectedOrigin with
    | some url, some expected => url.origin = expected.origin
    | _, _ => false

/-! ## Cookies -/

/-- The parts of a `cookie` header. -/
def cookieParts (cookie : String) : List String := (cookie.toList.splitOn ';').map fun part => trim (String.ofList part)

/-- The names of an allowlist. -/
def allowedNames (allowlist : String) : List String :=
  ((allowlist.toList.splitOn ',').map fun name => trim (String.ofList name)).filter (· ≠ "")

/-- The part has a name of the allowlist. -/
def isAllowedPart (allowlist part : String) : Bool :=
  (allowedNames allowlist).contains (String.ofList (part.toList.takeWhile (· ≠ '=')))

/-- `filteredCookieHeader`. -/
def filteredCookieHeader (cookie : Option String) : Option String :=
  (given cookie).bind fun cookie =>
    match given config.forwardCookieNames with
    | none => if config.nodeEnv = some "production" then none else some cookie
    | some allowlist =>
      let selected := (cookieParts cookie).filter (isAllowedPart allowlist)
      if selected = [] then none else some ("; ".intercalate selected)

/-! ## Requests -/

/-- What a browser sends; the names of the headers in lower case, and the session cookie that `request.cookies` finds. -/
structure Incoming where
  method : String
  origin : String
  headers : List (String × String) := []
  sessionCookie : Option String := none
  body : String := ""

/-- What is sent to the control plane. -/
structure Upstream where
  origin : String
  target : Url.Target
  method : String
  headers : List (String × String)
  body : Option String

variable (env : Env) (key : Option (List UInt8)) (now : Int) (incoming : Incoming)

/-- A header, if it has a value. -/
def header (name : String) (value : Option String) : List (String × String) := value.toList.map fun v => (name, v)

/-- `FORWARDED_HEADERS`. -/
def forwardedHeaders : List String := ["content-type", "x-request-id", "traceparent"]

/-- The headers of the request to the control plane. -/
def upstreamHeaders : List (String × String) :=
  header "authorization" (given (authorizationHeaderFromSession env key now incoming.sessionCookie)) ++
    (forwardedHeaders.flatMap fun name => header name (given (incoming.headers.lookup name))) ++
    header "cookie" (given (filteredCookieHeader config (incoming.headers.lookup "cookie"))) ++
    [("accept", "application/json")]

/-- `proxyOpsRequest`: the status and the detail of a refusal, or what is sent. -/
def proxyOpsRequest (path : String) : Except (Nat × String) Upstream :=
  if !isAllowedOpsPath path then .error (404, "Unknown operations route")
  else match validateOpsApiBaseUrl urls config with
    | .error detail => .error (503, detail)
    | .ok backend =>
      if !isSameOriginMutation urls incoming.method (incoming.headers.lookup "origin")
          (config.publicOrigin.getD incoming.origin) then .error (403, "Cross-origin operation rejected")
      else .ok {
        origin := backend.origin, target := Url.resolve path.toList, method := incoming.method
        headers := upstreamHeaders config env key now incoming
        body := if incoming.method = "GET" ∨ incoming.method = "HEAD" then none else some incoming.body }

/-! ## The cookies that go on -/

section Cookies

variable {config} {cookie : Option String} {allowlist result : String} {parts : List String} {part : String}

theorem trim_space (s : String) : trim (String.ofList (' ' :: (trim s).toList)) = trim s := by
  have hspace : isJsSpace ' ' = true := by decide
  rw [trim, String.toList_ofList, Trim.trim_cons hspace, trim, String.toList_ofList, Trim.trim_trim]

theorem trim_trim (s : String) : trim (trim s) = trim s := by
  rw [trim, trim, String.toList_ofList, Trim.trim_trim]

/-- A part is trimmed, and has no semicolon. -/
def IsPart (part : String) : Prop := trim part = part ∧ ';' ∉ part.toList

theorem isPart_of_mem {cookie : String} (h : part ∈ cookieParts cookie) : IsPart part := by
  obtain ⟨segment, hsegment, rfl⟩ := List.mem_map.mp h
  refine ⟨trim_trim _, fun hmem => ?_⟩
  rw [trim, String.toList_ofList, String.toList_ofList] at hmem
  obtain ⟨pre, post, hsplit, -, -⟩ := Trim.exists_trim isJsSpace segment
  have hin : ';' ∈ segment := hsplit ▸ List.mem_append_right _ (List.mem_append_left _ hmem)
  exact Separator.not_mem_of_mem_splitOn hsegment hin

/-- Parts that are joined are read as they were. -/
theorem cookieParts_intercalate (hne : parts ≠ []) (h : ∀ part ∈ parts, IsPart part) :
    cookieParts ("; ".intercalate parts) = parts := by
  obtain ⟨part, rest, rfl⟩ := List.exists_cons_of_ne_nil hne
  obtain ⟨hpart, hrest⟩ := List.forall_mem_cons.mp h
  have hjoined : ("; ".intercalate (part :: rest)).toList =
      [';'].intercalate (part.toList :: (rest.map String.toList).map (' ' :: ·)) := by
    rw [String.toList_intercalate, List.map_cons, ← Separator.intercalate_pair]
    rfl
  have hplain : ∀ segment ∈ part.toList :: (rest.map String.toList).map (' ' :: ·), ';' ∉ segment := by
    refine List.forall_mem_cons.mpr ⟨hpart.2, ?_⟩
    rw [List.forall_mem_map, List.forall_mem_map]
    intro next hnext hmem
    exact (hrest next hnext).2 ((List.mem_cons.mp hmem).resolve_left (by decide))
  rw [cookieParts, hjoined, List.splitOn_intercalate ';' hplain (List.cons_ne_nil _ _), List.map_cons,
    String.ofList_toList, hpart.1]
  congr 1
  rw [List.map_map, List.map_map]
  refine (List.map_congr_left fun next hnext => ?_).trans (List.map_id rest)
  have htrim := trim_space next
  rw [(hrest next hnext).1] at htrim
  exact htrim

/-- **The cookies that go on** are the allowed ones, and are read as they were. -/
theorem cookieParts_filtered {original : String} (hallowlist : given config.forwardCookieNames = some allowlist)
    (h : filteredCookieHeader config (some original) = some result) :
    cookieParts result = (cookieParts original).filter (isAllowedPart allowlist) := by
  obtain ⟨cookie, hcookie, hresult⟩ := Option.bind_eq_some_iff.mp h
  obtain rfl := Option.some.inj (Option.filter_eq_some_iff.mp hcookie).1
  rw [hallowlist] at hresult
  dsimp only at hresult
  split at hresult
  · cases hresult
  · rename_i hne
    obtain rfl := Option.some.inj hresult
    exact cookieParts_intercalate hne fun part hpart => isPart_of_mem (List.mem_filter.mp hpart).1

end Cookies

/-! ## What is sent -/

section Sent

variable {urls} {config} {env} {key} {now} {incoming} {path : String} {upstream : Upstream} {name : String}

/-- The control plane that the configuration names: no credentials, and `https:`, or `http:` where that will do. -/
def IsBackend (urls : String → Option ParsedUrl) (config : ProxyConfig) (url : ParsedUrl) : Prop :=
  ∃ base, config.apiBaseUrl = some base ∧ urls base = some url ∧ url.username = "" ∧ url.password = "" ∧
    (url.protocol = "https:" ∨ url.protocol = "http:" ∧ allowsHttp config url = true)

theorem validateOpsApiBaseUrl_ok {url : ParsedUrl} (h : validateOpsApiBaseUrl urls config = .ok url) :
    IsBackend urls config url := by
  unfold validateOpsApiBaseUrl at h
  split at h
  · cases h
  · rename_i base hbase
    split at h
    · cases h
    · rename_i url' hurl
      split at h
      · cases h
      · rename_i hcredentials
        split at h
        · rename_i hprotocol
          obtain rfl := Except.ok.inj h
          simp only [Bool.or_eq_true, decide_eq_true_eq, not_or, not_not, Bool.and_eq_true] at hcredentials hprotocol
          exact ⟨base, (Option.filter_eq_some_iff.mp hbase).1, hurl, hcredentials.1, hcredentials.2, hprotocol⟩
        · cases h

theorem lookup_header {value : Option String} {rest : List (String × String)} {other : String} :
    (header other value ++ rest).lookup name = if name = other then value.or (rest.lookup name) else rest.lookup name := by
  cases value with
  | none => simp [header]
  | some v =>
    by_cases h : name = other
    · simp [header, h]
    · simp [header, List.lookup_cons, h, beq_eq_false_iff_ne.mpr h]

theorem given_authorization (cookie : Option String) : given (authorizationHeaderFromSession env key now cookie) =
    authorizationHeaderFromSession env key now cookie := by
  unfold authorizationHeaderFromSession
  cases readOpsSession env key now cookie with
  | none => rfl
  | some session =>
    have hne : "Bearer " ++ toText env (property "accessToken" session) ≠ "" := by
      intro hempty
      have hlist := congrArg String.toList hempty
      simp at hlist
    exact Option.filter_some_pos (decide_eq_true hne)

theorem lookup_forwarded {names : List String} {rest : List (String × String)} (h : name ∉ names) :
    ((names.flatMap fun n => header n (given (incoming.headers.lookup n))) ++ rest).lookup name = rest.lookup name := by
  induction names with
  | nil => rfl
  | cons n names ih =>
    obtain ⟨hn, hnames⟩ := not_or.mp (List.mem_cons.not.mp h)
    rw [List.flatMap_cons, List.append_assoc, lookup_header, if_neg hn, ih hnames]

theorem lookup_authorization : (upstreamHeaders config env key now incoming).lookup "authorization" =
    authorizationHeaderFromSession env key now incoming.sessionCookie := by
  rw [upstreamHeaders, List.append_assoc, List.append_assoc, lookup_header, if_pos rfl, lookup_forwarded (by decide),
    lookup_header, if_neg (by decide), given_authorization]
  exact Option.or_none

theorem lookup_cookie : (upstreamHeaders config env key now incoming).lookup "cookie" =
    given (filteredCookieHeader config (incoming.headers.lookup "cookie")) := by
  rw [upstreamHeaders, List.append_assoc, List.append_assoc, lookup_header, if_neg (by decide),
    lookup_forwarded (by decide), lookup_header, if_pos rfl]
  exact Option.or_none

/-- The cookies that may go on: the allowed ones, or in development without an allowlist all of them. -/
def CookiesAllowed (config : ProxyConfig) (original cookie : String) : Prop :=
  match given config.forwardCookieNames with
  | none => config.nodeEnv ≠ some "production" ∧ cookie = original
  | some allowlist => cookieParts cookie = (cookieParts original).filter (isAllowedPart allowlist)

theorem cookiesAllowed {cookie : Option String} {result : String} (h : filteredCookieHeader config cookie = some result) :
    ∃ original, cookie = some original ∧ CookiesAllowed config original result := by
  obtain ⟨original, hcookie, hresult⟩ := Option.bind_eq_some_iff.mp h
  obtain rfl := (Option.filter_eq_some_iff.mp hcookie).1
  refine ⟨original, rfl, ?_⟩
  unfold CookiesAllowed
  cases hallowlist : given config.forwardCookieNames with
  | none =>
    rw [hallowlist] at hresult
    dsimp only at hresult
    split at hresult
    · cases hresult
    · rename_i hdevelopment
      exact ⟨hdevelopment, (Option.some.inj hresult).symm⟩
  | some allowlist => exact cookieParts_filtered hallowlist h

/-- Who sends the request may change something: it changes nothing, or it comes from the console's own pages. -/
def MayChange (urls : String → Option ParsedUrl) (config : ProxyConfig) (incoming : Incoming) : Prop :=
  incoming.method = "GET" ∨ incoming.method = "HEAD" ∨ ∃ origin url expected,
    incoming.headers.lookup "origin" = some origin ∧ urls origin = some url ∧
      urls (config.publicOrigin.getD incoming.origin) = some expected ∧ url.origin = expected.origin

theorem mayChange (h : isSameOriginMutation urls incoming.method (incoming.headers.lookup "origin")
    (config.publicOrigin.getD incoming.origin) = true) : MayChange urls config incoming := by
  unfold isSameOriginMutation at h
  simp only [Bool.or_eq_true, decide_eq_true_eq] at h
  rcases h with (hget | hhead) | horigin
  · exact .inl hget
  · exact .inr (.inl hhead)
  · split at horigin
    · rename_i url expected hurl hexpected
      obtain ⟨origin, horiginHeader, hparsed⟩ := Option.bind_eq_some_iff.mp hurl
      exact .inr (.inr ⟨origin, url, expected, (Option.filter_eq_some_iff.mp horiginHeader).1, hparsed, hexpected,
        of_decide_eq_true horigin⟩)
    · cases horigin

theorem proxyOpsRequest_ok (h : proxyOpsRequest urls config env key now incoming path = .ok upstream) :
    isAllowedOpsPath path = true ∧ MayChange urls config incoming ∧
      ∃ url, IsBackend urls config url ∧ upstream = {
        origin := url.origin, target := Url.resolve path.toList, method := incoming.method
        headers := upstreamHeaders config env key now incoming
        body := if incoming.method = "GET" ∨ incoming.method = "HEAD" then none else some incoming.body } := by
  unfold proxyOpsRequest at h
  split at h
  · cases h
  · rename_i hpath
    split at h
    · cases h
    · rename_i url hurl
      split at h
      · cases h
      · rename_i horigin
        simp only [Bool.not_eq_true', Bool.not_eq_false] at hpath horigin
        exact ⟨hpath, mayChange horigin, url, validateOpsApiBaseUrl_ok hurl, (Except.ok.inj h).symm⟩

end Sent

/-- **What the console sends to the control plane.** The request goes to the configured control plane, which has no
credentials in its URL and speaks `https:` unless that is waived, to a path of plain segments under `/ops/api`. It
changes something only on behalf of the console's own pages. Its bearer token is the one of the session, never one that
the browser sends; its cookies are the ones of the allowlist. -/
theorem forwarded_request (urls : String → Option ParsedUrl) (config : ProxyConfig) (env : Env)
    (key : Option (List UInt8)) (now : Int) (incoming : Incoming) (path : String) (upstream : Upstream)
    (h : proxyOpsRequest urls config env key now incoming path = .ok upstream) :
    (∃ url, IsBackend urls config url ∧ upstream.origin = url.origin) ∧
      (∃ segments rest, upstream.target = .path ("ops".toList :: "api".toList :: segments) rest ∧
        ∀ s ∈ segments, Url.Plain s) ∧
      upstream.method = incoming.method ∧ MayChange urls config incoming ∧
      upstream.headers.lookup "authorization" = authorizationHeaderFromSession env key now incoming.sessionCookie ∧
      ∀ cookie, upstream.headers.lookup "cookie" = some cookie →
        ∃ original, incoming.headers.lookup "cookie" = some original ∧ CookiesAllowed config original cookie := by
  obtain ⟨hpath, hchange, url, hbackend, rfl⟩ := proxyOpsRequest_ok h
  obtain ⟨segments, rest, hsegments, hrest, hplain⟩ := isAllowedOpsPath_rooted hpath
  have hops : Url.Plain "ops".toList := plain_of_all (by decide)
  have hne : "ops".toList ≠ [] := by decide
  obtain ⟨rest', htarget⟩ := Url.resolve_rooted hops hne hplain hrest
  refine ⟨⟨url, hbackend, rfl⟩, ⟨segments, rest', ?_, fun s hs => hplain s (List.mem_cons_of_mem _ hs)⟩, rfl, hchange,
    lookup_authorization, fun cookie hcookie => ?_⟩
  · show Url.resolve path.toList = _
    rw [hsegments, htarget]
  · exact cookiesAllowed (Option.filter_eq_some_iff.mp (lookup_cookie.symm.trans hcookie)).1

def consolePlane : ParsedUrl where
  protocol := "https:"
  hostname := "plane.example"
  origin := "https://plane.example"

def consoleOrigin : ParsedUrl where
  protocol := "https:"
  hostname := "ops.example"
  origin := "https://ops.example"

def consoleUrls (value : String) : Option ParsedUrl :=
  [consolePlane, consoleOrigin].find? fun url => url.origin = value

def consoleConfig : ProxyConfig where
  apiBaseUrl := some "https://plane.example"
  nodeEnv := some "production"
  publicOrigin := some "https://ops.example"
  forwardCookieNames := some "team"

def consoleIncoming : Incoming where
  method := "POST"
  origin := "http://10.0.0.3:3000"
  headers := [("origin", "https://ops.example"), ("cookie", "theme=dark; team=a"), ("authorization", "Bearer forged")]
  sessionCookie := some sessionCookie

/-- A request with the session of the login, and a token of its own that does not count. -/
theorem forwarded_request_console :
    ∃ upstream, proxyOpsRequest consoleUrls consoleConfig consoleEnv (some consoleKey) 1200 consoleIncoming
        "/ops/api/sellers/shop-1/api-keys" = .ok upstream ∧
      upstream.headers.lookup "authorization" = some "Bearer t1" := by
  have hjson := console_json _ (List.mem_cons_of_mem _ List.mem_cons_self)
  have hlive : ((1200 : Int) : Rat) < ((1000 : Int) : Rat) + 300 := by decide +kernel
  have hsession : authorizationHeaderFromSession consoleEnv (some consoleKey) 1200 (some sessionCookie) =
      some ("Bearer " ++ "t1") :=
    (authorizationHeader_iff consoleEnv_lawful (by decide) (by decide) hjson).mpr ⟨300, console_lifetime, hlive⟩
  have hsent : proxyOpsRequest consoleUrls consoleConfig consoleEnv (some consoleKey) 1200 consoleIncoming
      "/ops/api/sellers/shop-1/api-keys" = .ok {
        origin := consolePlane.origin, target := Url.resolve "/ops/api/sellers/shop-1/api-keys".toList
        method := "POST", headers := upstreamHeaders consoleConfig consoleEnv (some consoleKey) 1200 consoleIncoming
        body := some "" } := by
    have hpath : isAllowedOpsPath "/ops/api/sellers/shop-1/api-keys" = true := by decide
    have hbackend : validateOpsApiBaseUrl consoleUrls consoleConfig = .ok consolePlane := rfl
    have horigin : isSameOriginMutation consoleUrls consoleIncoming.method (consoleIncoming.headers.lookup "origin")
        (consoleConfig.publicOrigin.getD consoleIncoming.origin) = true := by decide
    rw [proxyOpsRequest, hpath, hbackend, if_neg (by decide)]
    dsimp only
    rw [horigin, if_neg (by decide)]
    rfl
  obtain ⟨-, -, -, -, hauthorization, -⟩ := forwarded_request _ _ _ _ _ _ _ _ hsent
  exact ⟨_, hsent, hauthorization.trans hsession⟩

end HostedFacilitator.Console
