import HostedFacilitator.ControlPlane.LeaseOwner
import HostedFacilitator.Lib.Base64
import HostedFacilitator.Lib.Url
import HostedFacilitator.Storage.Types
import Mathlib.Algebra.Order.Ring.Unbundled.Rat

/-!
# Sessions of the operations console

`ops-session.ts`. The console keeps nothing: the state of a login and the session that comes out of it are JSON texts
in cookies, sealed with AES-GCM under one key, and every request opens the cookie that it needs.

* `decryptCookie_encryptCookie`: a cookie is read back as the value that was sealed;
* `readOpsSession_eq_some`: what a session must be like to be used;
* `beginCallback_ok`, `completeCallback_session`: what a callback has checked when it asks for a token and when it seals a
  session.
-/

namespace HostedFacilitator.Console

/-! ## JavaScript -/

/-- What is outside: JSON, Node's base 64 and `crypto`, and the parts of `String()`, `Number()` and of the URL parser
that are not modelled. -/
structure Env where
  -- `Buffer.from(JSON.stringify(value))` and `JSON.parse(buffer.toString("utf-8"))`
  stringify : PyVal → List UInt8
  parse : List UInt8 → Option PyVal
  -- `Buffer.from(value, "base64url")`
  fromBase64 : List Char → List UInt8
  -- AES-256-GCM: the tag and the ciphertext, and back
  gcm : (key iv plaintext : List UInt8) → List UInt8 × List UInt8
  gcmOpen : (key iv tag ciphertext : List UInt8) → Option (List UInt8)
  sha256 : String → List UInt8
  hexdigest : Sha256
  numberText : Rat → String
  stringNumber : String → PyFloat
  containerNumber : PyVal → PyFloat
  text : PyVal → String
  hostValid : List Char → Bool

variable (env : Env)

/-- `undefined` is `none`. -/
abbrev JsVal := Option PyVal

/-- `value.name`, of a value that is not `null`; an array has no such property. -/
def property (name : String) : PyVal → JsVal
  | .dict d => d.lookup name
  | _ => none

def truthy : JsVal → Bool
  | none | some .null | some (.float .nan) => false
  | some (.list _) | some (.dict _) => true
  | some v => v.truthy

/-- `Number(value)`. -/
def toNumber : JsVal → PyFloat
  | none => .nan
  | some .null => .finite "" 0
  | some (.bool b) => .finite "" (if b then 1 else 0)
  | some (.int n) => .finite "" n
  | some (.float f) => f
  | some (.str s) => env.stringNumber s
  | some v => env.containerNumber v

/-- `value ?? default`. -/
def coalesce (default : PyVal) : JsVal → PyVal
  | none | some .null => default
  | some v => v

/-- `value <= n`, of a number. -/
def numberLe : PyFloat → Int → Bool
  | .finite _ q, n => q ≤ n
  | .infinity negative, _ => negative
  | .nan, _ => false

/-- `String(value)`. -/
def toText : JsVal → String
  | none => "undefined"
  | some (.str s) => s
  | some v => env.text v

/-- What `trim()` drops. -/
def isJsSpace (c : Char) : Bool :=
  let n := c.toNat
  (9 ≤ n && n ≤ 13) || n = 0x20 || n = 0xa0 || n = 0x1680 || (0x2000 ≤ n && n ≤ 0x200a) || n = 0x2028 || n = 0x2029 ||
    n = 0x202f || n = 0x205f || n = 0x3000 || n = 0xfeff

/-- `value.trim()`. -/
def trim (s : String) : String := String.ofList (Trim.trim isJsSpace s.toList)

/-! ## Cookies -/

/-- `encryptCookie`, under a key. -/
def encryptCookie (key iv : List UInt8) (value : PyVal) : String :=
  let box := env.gcm key iv (env.stringify value)
  String.ofList (Base64.dotted iv box.1 box.2)

/-- What a cookie is opened to. -/
def openCookie (key : List UInt8) (value : String) : Option (List UInt8) :=
  match value.toList.splitOn '.' with
  | [iv, tag, ciphertext] => env.gcmOpen key (env.fromBase64 iv) (env.fromBase64 tag) (env.fromBase64 ciphertext)
  | _ => none

/-- `decryptCookie`; the key of a process whose secret is refused opens nothing. -/
def decryptCookie (key : Option (List UInt8)) (value : String) : Option PyVal :=
  (key.bind fun key => openCookie env key value).bind env.parse

/-! ## Sessions -/

/-- `readOpsSession` at a time, in whole seconds. -/
def readOpsSession (key : Option (List UInt8)) (now : Int) (cookie : Option String) : Option PyVal := do
  let raw ← cookie.filter (· ≠ "")
  let session ← decryptCookie env key raw
  if truthy (some session) && truthy (property "accessToken" session) &&
      !numberLe (toNumber env (property "expiresAt" session)) now then some session else none

/-- `authorizationHeaderFromSession`. -/
def authorizationHeaderFromSession (key : Option (List UInt8)) (now : Int) (cookie : Option String) : Option String :=
  (readOpsSession env key now cookie).map fun session => "Bearer " ++ toText env (property "accessToken" session)

/-- `PublicOpsSession`. -/
inductive PublicOpsSession where
  | anonymous
  | authenticated (subject issuer operatorKey email expiresAt : JsVal)

/-- `readPublicOpsSession`. -/
def readPublicOpsSession (key : Option (List UInt8)) (now : Int) (cookie : Option String) : PublicOpsSession :=
  match readOpsSession env key now cookie with
  | none => .anonymous
  | some session =>
    .authenticated (property "subject" session) (property "issuer" session) (property "operatorKey" session)
      (property "email" session) (property "expiresAt" session)

/-! ## A login -/

/-- What a login draws. -/
structure Draw where
  iv : List UInt8
  state : String
  nonce : String
  codeVerifier : String

/-- `safeReturnTo`. -/
def safeReturnTo (value : Option String) : String :=
  match value with
  | none => "/"
  | some value =>
    if value = "" || !"/".toList.isPrefixOf value.toList || "//".toList.isPrefixOf value.toList then "/" else value

/-- `OidcStateCookie`. -/
def oidcStateCookie (draw : Draw) (returnTo : String) : PyVal :=
  .dict [("state", .str draw.state), ("nonce", .str draw.nonce), ("codeVerifier", .str draw.codeVerifier),
    ("returnTo", .str returnTo)]

/-- `base64url(sha256(codeVerifier))`. -/
def codeChallenge (codeVerifier : String) : String :=
  String.ofList (Base64.encode Base64.urlSafe (env.sha256 codeVerifier))

/-- What a login asks of the issuer. -/
structure AuthorizationRequest where
  state : String
  nonce : String
  codeChallenge : String
  deriving DecidableEq

/-- `createLoginResponse`: where it leads, and what it seals. -/
def createLoginResponse (draw : Draw) (returnTo : Option String) : AuthorizationRequest × PyVal :=
  ({ state := draw.state, nonce := draw.nonce, codeChallenge := codeChallenge env draw.codeVerifier },
    oidcStateCookie draw (safeReturnTo returnTo))

/-! ## A callback -/

/-- How a callback ends: it has thrown, or it leads home with an error, or back with a session. -/
inductive CallbackReply where
  | thrown
  | authError (detail : String)
  | session (location : Url.Target) (session : PyVal)

/-- The request for a token. -/
structure TokenRequest where
  code : String
  codeVerifier : String
  deriving DecidableEq

/-- `createCallbackResponse`, up to the request for a token: what the cookie says, and the request. -/
def beginCallback (key : Option (List UInt8)) (cookie state code : Option String) :
    Except CallbackReply (PyVal × TokenRequest) :=
  match (decryptCookie env key (cookie.getD "")).filter fun v => truthy (some v) with
  | none => .error (.authError "OIDC state is missing")
  | some expected =>
    if code.getD "" = "" || (property "state" expected).bind PyVal.asStr ≠ some (state.getD "") then
      .error (.authError "OIDC state is invalid")
    else .ok (expected,
      { code := code.getD "", codeVerifier := toText env (property "codeVerifier" expected) })

/-- The answer about a token: no answer, a status that is no success, or a body, which may be no JSON. -/
inductive TokenResponse where
  | failed
  | refused
  | json (body : Option PyVal)

/-- `jwtPayload`. -/
def jwtPayload (token : String) : PyVal :=
  match token.toList.splitOn '.' with
  | _ :: payload :: _ =>
    if payload = [] then .dict [] else (env.parse (env.fromBase64 payload)).getD (.dict [])
  | _ => .dict []

/-- `typeof value === "string" ? value : undefined`. -/
def stringOr (value : JsVal) : Option String := value.bind PyVal.asStr

/-- `Math.max(1, seconds)`, if that is finite. -/
def atLeastOne : PyFloat → Option Rat
  | .finite _ seconds => some (if seconds ≤ 1 then 1 else seconds)
  | .infinity true => some 1
  | .infinity false | .nan => none

/-- `Math.max(1, Number(expiresIn ?? COOKIE_MAX_AGE_SECONDS))`. -/
def lifetime (expiresIn : JsVal) : Option Rat := atLeastOne (toNumber env (some (coalesce (.int 3600) expiresIn)))

/-- The end of a lifetime, as JSON writes it: what is not finite becomes `null`. -/
def expiresAt (now : Int) (expiresIn : JsVal) : PyVal :=
  match lifetime env expiresIn with
  | some seconds => .float (.finite (env.numberText (now + seconds)) (now + seconds))
  | none => .null

/-- An entry, unless it is `undefined`. -/
def entry (name : String) (value : Option String) : PyDict := value.toList.map fun s => (name, .str s)

/-- `OpsSession`, of a token with some claims. -/
def opsSession (token : String) (claims : PyVal) (expiresAt : PyVal) : PyVal :=
  let subject := stringOr (property "sub" claims)
  let issuer := stringOr (property "iss" claims)
  .dict ([("accessToken", .str token), ("expiresAt", expiresAt)] ++ entry "subject" subject ++ entry "issuer" issuer ++
    entry "operatorKey"
      ((subject.filter (· ≠ "")).map fun subject => operatorLeaseOwner env.hexdigest subject (issuer.getD "")) ++
    entry "email" (stringOr (property "email" claims)))

/-- `new URL` throws for an authority that is none. -/
def isLocation : Url.Target → Bool
  | .authority rest => env.hostValid rest
  | .relative | .path .. => true

/-- The rest of `createCallbackResponse`, without the sealing. -/
def completeCallback (now : Int) (expected : PyVal) : TokenResponse → CallbackReply
  | .failed | .json none | .json (some .null) => .thrown
  | .refused => .authError "OIDC token exchange failed"
  | .json (some body) =>
    if !truthy (property "access_token" body) then
      .authError "OIDC token response did not include an access token"
    else match property "access_token" body with
      | some (.str token) =>
        match jwtPayload env token with
        -- a payload that is the JSON text `null` has no properties to read
        | .null => .thrown
        | claims =>
          let location := Url.resolve (toText env (property "returnTo" expected)).toList
          if isLocation env location then
            .session location (opsSession env token claims (expiresAt env now (property "expires_in" body)))
          else .thrown
      -- only a text can be split
      | _ => .thrown

/-! ## Reading cookies -/

section Cookies

variable {env} {key : Option (List UInt8)} {k iv : List UInt8} {cookie : String} {v : PyVal}

/-- Node reads the base 64 that it writes, and AES-GCM opens what it has sealed. -/
structure Env.Lawful (env : Env) : Prop where
  fromBase64_encode : ∀ bytes, env.fromBase64 (Base64.encode Base64.urlSafe bytes) = bytes
  gcmOpen_gcm : ∀ key iv plaintext,
    env.gcmOpen key iv (env.gcm key iv plaintext).1 (env.gcm key iv plaintext).2 = some plaintext

theorem openCookie_encryptCookie (henv : env.Lawful) :
    openCookie env k (encryptCookie env k iv v) = some (env.stringify v) := by
  rw [openCookie, encryptCookie, String.toList_ofList, Base64.splitOn_dotted]
  dsimp only
  rw [henv.fromBase64_encode, henv.fromBase64_encode, henv.fromBase64_encode, henv.gcmOpen_gcm]

theorem decryptCookie_eq_some : decryptCookie env key cookie = some v ↔
    ∃ k plaintext, key = some k ∧ openCookie env k cookie = some plaintext ∧ env.parse plaintext = some v := by
  simp only [decryptCookie, Option.bind_eq_some_iff]
  constructor
  · rintro ⟨plaintext, ⟨k, hk, hopen⟩, hparse⟩
    exact ⟨k, plaintext, hk, hopen, hparse⟩
  · rintro ⟨k, plaintext, hk, hopen, hparse⟩
    exact ⟨plaintext, ⟨k, hk, hopen⟩, hparse⟩

/-- **A cookie is read back** as the value that was sealed. -/
theorem decryptCookie_encryptCookie (henv : env.Lawful) (hjson : env.parse (env.stringify v) = some v) :
    decryptCookie env (some k) (encryptCookie env k iv v) = some v :=
  decryptCookie_eq_some.mpr ⟨k, _, rfl, openCookie_encryptCookie henv, hjson⟩

/-- A text that is empty opens to nothing. -/
theorem decryptCookie_empty : decryptCookie env key "" = none := by
  cases key <;> rfl

end Cookies

/-! ## Reading a session -/

section Sessions

variable {env} {key : Option (List UInt8)} {now : Int} {cookie : Option String} {session : PyVal}

theorem readOpsSession_eq_some : readOpsSession env key now cookie = some session ↔
    decryptCookie env key (cookie.getD "") = some session ∧ truthy (some session) = true ∧
      truthy (property "accessToken" session) = true ∧
      numberLe (toNumber env (property "expiresAt" session)) now = false := by
  unfold readOpsSession
  cases cookie with
  | none => simp [decryptCookie_empty]
  | some raw =>
    by_cases hraw : raw = ""
    · subst hraw
      simp [decryptCookie_empty, Option.filter_some]
    · simp only [Option.filter_some, decide_eq_true hraw, if_true, Option.bind_eq_bind, Option.bind_some,
        Option.getD_some]
      cases hopen : decryptCookie env key raw with
      | none => simp
      | some v =>
        simp only [Option.bind_some, Option.ite_none_right_eq_some, Bool.and_eq_true, Bool.not_eq_true',
          Option.some.injEq]
        constructor
        · rintro ⟨⟨⟨hv, htoken⟩, hlive⟩, rfl⟩
          exact ⟨rfl, hv, htoken, hlive⟩
        · rintro ⟨rfl, hv, htoken, hlive⟩
          exact ⟨⟨⟨hv, htoken⟩, hlive⟩, rfl⟩

theorem lookup_entry {name name' : String} {value : Option String} {rest : PyDict} (hne : name ≠ name') :
    (entry name' value ++ rest).lookup name = rest.lookup name := by
  cases value with
  | none => rfl
  | some s => simp [entry, List.lookup_cons, beq_eq_false_iff_ne.mpr hne]

variable {token : String} {claims expiry : PyVal}

@[simp] theorem property_accessToken : property "accessToken" (opsSession env token claims expiry) = some (.str token) :=
  rfl

@[simp] theorem property_expiresAt : property "expiresAt" (opsSession env token claims expiry) = some expiry := rfl

/-- A session has no state, so it never passes for the state of a login. -/
@[simp] theorem property_state_opsSession : property "state" (opsSession env token claims expiry) = none := by
  simp only [opsSession, property, List.append_assoc, List.cons_append, List.nil_append]
  rw [List.lookup_cons, List.lookup_cons]
  simp only [show ("state" == "accessToken") = false from rfl, show ("state" == "expiresAt") = false from rfl]
  rw [lookup_entry (by decide), lookup_entry (by decide), lookup_entry (by decide)]
  have hlast := @lookup_entry "state" "email" (stringOr (property "email" claims)) [] (by decide)
  rw [List.append_nil] at hlast
  exact hlast

/-- The state of a login has no access token, so it never passes for a session. -/
@[simp] theorem property_accessToken_state {draw : Draw} {returnTo : String} :
    property "accessToken" (oidcStateCookie draw returnTo) = none := rfl

/-- When the end of a lifetime has come. -/
theorem expired_iff {completed : Int} {expiresIn : JsVal} (hnow : 0 ≤ now) :
    numberLe (toNumber env (some (expiresAt env completed expiresIn))) now = false ↔
      ∃ seconds, lifetime env expiresIn = some seconds ∧ (now : Rat) < completed + seconds := by
  unfold expiresAt
  cases lifetime env expiresIn with
  | none =>
    have hzero : (0 : Rat) ≤ now := by exact_mod_cast hnow
    simp [toNumber, numberLe, hzero]
  | some seconds => simp [toNumber, numberLe]

end Sessions

/-! ## What a callback has checked -/

section Callbacks

variable {env} {key : Option (List UInt8)} {cookie state code : Option String} {expected : PyVal}
  {request : TokenRequest}

theorem beginCallback_ok : beginCallback env key cookie state code = .ok (expected, request) ↔
    decryptCookie env key (cookie.getD "") = some expected ∧ truthy (some expected) = true ∧ code.getD "" ≠ "" ∧
      (property "state" expected).bind PyVal.asStr = some (state.getD "") ∧
      request = { code := code.getD "", codeVerifier := toText env (property "codeVerifier" expected) } := by
  unfold beginCallback
  cases hfilter : (decryptCookie env key (cookie.getD "")).filter fun v => truthy (some v) with
  | none =>
    simp only [reduceCtorEq, false_iff, not_and]
    intro hopen htruthy
    rw [Option.filter_eq_none_iff] at hfilter
    exact absurd htruthy (hfilter expected hopen)
  | some v =>
    obtain ⟨hopen, htruthy⟩ := Option.filter_eq_some_iff.mp hfilter
    simp only [Bool.or_eq_true, decide_eq_true_eq, hopen, Option.some.injEq]
    split
    · rename_i hbad
      simp only [reduceCtorEq, false_iff, not_and]
      rintro rfl - hcode hstate -
      rcases hbad with hempty | hother
      · exact hcode hempty
      · exact hother hstate
    · rename_i hgood
      obtain ⟨hcode, hstate⟩ := not_or.mp hgood
      simp only [Except.ok.injEq, Prod.mk.injEq]
      constructor
      · rintro ⟨rfl, rfl⟩
        exact ⟨rfl, htruthy, hcode, not_not.mp hstate, rfl⟩
      · rintro ⟨rfl, -, -, -, rfl⟩
        exact ⟨rfl, rfl⟩

variable {now : Int} {response : TokenResponse} {location : Url.Target} {session : PyVal}

theorem completeCallback_session (h : completeCallback env now expected response = .session location session) :
    ∃ body token, response = .json (some body) ∧ property "access_token" body = some (.str token) ∧ token ≠ "" ∧
      jwtPayload env token ≠ .null ∧ location = Url.resolve (toText env (property "returnTo" expected)).toList ∧
      session = opsSession env token (jwtPayload env token) (expiresAt env now (property "expires_in" body)) := by
  unfold completeCallback at h
  split at h
  · cases h
  · cases h
  · cases h
  · cases h
  · rename_i body _
    split at h
    · cases h
    · rename_i htruthy
      split at h
      · rename_i token htoken
        split at h
        · cases h
        · rename_i claims hclaims
          dsimp only at h
          split at h
          · obtain ⟨rfl, rfl⟩ := CallbackReply.session.inj h
            refine ⟨body, token, rfl, htoken, ?_, hclaims, rfl, rfl⟩
            rintro rfl
            rw [htoken] at htruthy
            exact htruthy rfl
          · cases h
      · cases h

end Callbacks

end HostedFacilitator.Console
