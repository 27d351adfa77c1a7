import HostedFacilitator.Python.Base64
import HostedFacilitator.Python.Value
import HostedFacilitator.Storage.Types

/-!
# Access tokens

`OIDCAuthenticator` and the `JWKSTokenClaimsVerifier` behind it. A request shows a bearer token: two JSON objects and
a signature, each in URL-safe base 64. The signature is verified under the key that the token names, out of a key set
that is fetched from the issuer and kept for five minutes; then the claims are validated.

* `authenticate_ok`: what a token must be like for a request to be authenticated, under the key set at hand;
* `loadJwks_ok`: that key set is the answer to a fetch, just made or not yet expired;
* `splitJwt_compact`: the segments of a token are read as they were encoded.
-/

namespace HostedFacilitator.Auth

/-- `AuthenticationError`, `AuthorizationDeniedError` and `AuthorizationUnavailableError`. -/
inductive AuthError where
  | authentication (message : String)
  | denied (message : String)
  | unavailable (message : String)
  deriving DecidableEq

abbrev Checked := Except AuthError

theorem bind_ok {α β : Type} {x : Checked α} {f : α → Checked β} {b : β} :
    (x >>= f) = .ok b ↔ ∃ a, x = .ok a ∧ f a = .ok b := by
  cases x with
  | error e => simp [bind, Except.bind]
  | ok a => simp [bind, Except.bind]

/-- `if not ok: raise AuthenticationError(message)`. -/
def demand (ok : Bool) (message : String) : Checked PUnit := if ok then .ok () else .error (.authentication message)

@[simp] theorem demand_ok {ok : Bool} {message : String} {u : PUnit} : demand ok message = .ok u ↔ ok = true := by
  cases ok <;> simp [demand]

/-- `OIDCConfig`, without the URL of the key set. -/
structure OidcConfig where
  issuer : String
  audiences : List String
  allowedAlgorithms : List String := ["RS256", "ES256"]
  acceptedTokenTypes : List String := ["access", "Bearer", "at+jwt", "JWT"]
  clockSkewSeconds : Int := 60

/-- `key.verify`: it returns, raises `InvalidSignature`, or raises something else. -/
inductive Verification where
  | valid
  | invalidSignature
  | raised
  deriving DecidableEq

/-- What is outside: the text functions, `json.loads`, and the public keys of `cryptography`, which are made of two
numbers and verify the UTF-8 bytes of a text. -/
structure Env where
  text : Text
  loads : List UInt8 → Option PyVal
  rs256 : (e n : Nat) → (signature : List UInt8) → (input : String) → Verification
  es256 : (x y : Nat) → (r s : Nat) → (input : String) → Verification

/-! ## The parts of a token -/

/-- `_bearer_token`. -/
def bearerToken (authorization : Option String) : Checked String :=
  let value := (authorization.getD "").toList
  let token := strip (String.ofList (value.drop "Bearer ".toList.length))
  if "Bearer ".toList.isPrefixOf value && token ≠ "" then .ok token
  else .error (.authentication "Bearer token is required")

/-- `_b64url_decode`. -/
def b64urlDecode (value : List Char) : Checked (List UInt8) :=
  match urlsafeB64decode (value ++ List.replicate ((4 - value.length % 4) % 4) '=') with
  | some bytes => .ok bytes
  | none => .error (.authentication "OIDC token is malformed")

variable (env : Env)

/-- `_json_b64url_decode`. -/
def jsonB64urlDecode (value : List Char) : Checked PyVal := do
  let bytes ← b64urlDecode value
  match env.loads bytes with
  | some v => .ok v
  | none => .error (.authentication "OIDC token is malformed")

/-- What `_split_jwt` returns. -/
structure Jwt where
  header : PyDict
  payload : PyDict
  signingInput : String
  signature : List UInt8

/-- `_split_jwt`. -/
def splitJwt (token : String) : Checked Jwt :=
  match token.toList.splitOn '.' with
  | [first, second, third] => do
    let header ← jsonB64urlDecode env first
    let payload ← jsonB64urlDecode env second
    let signature ← b64urlDecode third
    match header, payload with
    | .dict header, .dict payload =>
      .ok { header, payload, signingInput := String.ofList (first ++ '.' :: second), signature }
    | _, _ => .error (.authentication "OIDC token is malformed")
  | _ => .error (.authentication "OIDC token is malformed")

/-- `dict(payload)`, with the type that the header gives when the payload has none. -/
def Jwt.claims (jwt : Jwt) : PyDict :=
  match (jwt.header.get "typ").asStr with
  | some typ => if jwt.payload.has "typ" then jwt.payload else jwt.payload ++ [("typ", .str typ)]
  | none => jwt.payload

/-! ## Signatures -/

/-- `int.from_bytes(bytes, "big")`. -/
def bigEndian (bytes : List UInt8) : Nat := bytes.foldl (fun n b => n * 256 + b.toNat) 0

/-- `_jwk_int`. -/
def jwkInt (jwk : PyDict) (name : String) : Checked Nat :=
  match (jwk.get name).asStr with
  | some value =>
    if value = "" then .error (.authentication "OIDC signing key is invalid")
    else (b64urlDecode value.toList).map bigEndian
  | none => .error (.authentication "OIDC signing key is invalid")

/-- The two numbers that `_es256_der_signature` encodes. -/
def es256Signature (signature : List UInt8) : Checked (Nat × Nat) :=
  if signature.length ≠ 64 then .error (.authentication "OIDC token signature is invalid")
  else .ok (bigEndian (signature.take 32), bigEndian (signature.drop 32))

/-- The `try` of `_verify_signature`. -/
def verificationResult : Checked Verification → Checked PUnit
  | .ok .valid => .ok ()
  | .ok .invalidSignature => .error (.authentication "OIDC token signature is invalid")
  | .ok .raised | .error _ => .error (.authentication "OIDC signing key is invalid")

/-- `key.verify` with the RSA key of a JWK. -/
def rsaVerification (jwk : PyDict) (input : String) (signature : List UInt8) : Checked Verification := do
  let e ← jwkInt jwk "e"
  let n ← jwkInt jwk "n"
  return env.rs256 e n signature input

/-- `key.verify` with the elliptic-curve key of a JWK. -/
def ecVerification (jwk : PyDict) (input : String) (signature : List UInt8) : Checked Verification := do
  let x ← jwkInt jwk "x"
  let y ← jwkInt jwk "y"
  let (r, s) ← es256Signature signature
  return env.es256 x y r s input

/-- `_verify_signature`. -/
def verifySignature (algorithm : String) (jwk : PyDict) (input : String) (signature : List UInt8) : Checked PUnit :=
  if algorithm = "RS256" then verificationResult (rsaVerification env jwk input signature)
  else if algorithm = "ES256" then verificationResult (ecVerification env jwk input signature)
  else .error (.authentication "OIDC token algorithm is not supported")

/-! ## The key set -/

/-- An HTTP answer: the request failed in some way, or it has a JSON body. -/
inductive Response where
  | failed
  | json (body : PyVal)

/-- `_jwks` and `_jwks_expires_at`. -/
structure KeySet where
  body : PyDict
  expiresAt : Instant

/-- `cache_ttl_seconds`, in microseconds. -/
def cacheTtl : Int := 300 * 1000000

/-- `_load_jwks` at the time `now`, with the answer to a fetch if it makes one; and the key set that is kept. -/
def loadJwks (now : Instant) (response : Response) (kept : Option KeySet) : Checked PyDict × Option KeySet :=
  match kept.filter fun k => now < k.expiresAt with
  | some k => (.ok k.body, kept)
  | none => match response with
    | .failed => (.error (.unavailable "OIDC JWKS unavailable"), kept)
    | .json (.dict body) => (.ok body, some { body, expiresAt := now + cacheTtl })
    | .json _ => (.error (.authentication "OIDC JWKS is malformed"), kept)

/-- A JWK with the id. -/
def keyWithId (keyId : String) : PyVal → Option PyDict
  | .dict jwk => if (PyDict.get jwk "kid").eq (.str keyId) then some jwk else none
  | _ => none

/-- The end of `_jwk_for_key_id`. -/
def jwkForKeyId (jwks : PyDict) (keyId : String) : Checked PyDict :=
  match jwks.get "keys" with
  | .list keys =>
    match keys.findSome? (keyWithId keyId) with
    | some jwk => .ok jwk
    | none => .error (.authentication "OIDC signing key is unknown")
  | _ => .error (.authentication "OIDC JWKS is malformed")

/-- `str(header.get(name) or "")`. -/
def headerText (header : PyDict) (name : String) : String := ((header.get name).orElse (.str "")).toStr env.text

variable (config : OidcConfig)

/-- The checks of `verify` before a key is looked for: the algorithm and the key id. -/
def checkHeader (header : PyDict) : Checked PUnit := do
  demand (config.allowedAlgorithms.contains (headerText env header "alg")) "OIDC token algorithm is not allowed"
  demand (headerText env header "kid" ≠ "") "OIDC token key id is required"

/-- The rest of `verify`, with the key set at hand. -/
def claimsUnder (jwt : Jwt) (jwks : PyDict) : Checked PyDict := do
  let jwk ← jwkForKeyId jwks (headerText env jwt.header "kid")
  verifySignature env (headerText env jwt.header "alg") jwk jwt.signingInput jwt.signature
  return jwt.claims

/-- The beginning of `verify`. -/
def readJwt (token : String) : Checked Jwt := do
  let jwt ← splitJwt env token
  checkHeader env config jwt.header
  return jwt

/-- `JWKSTokenClaimsVerifier.verify`. -/
def verify (now : Instant) (response : Response) (kept : Option KeySet) (token : String) :
    Checked PyDict × Option KeySet :=
  match readJwt env config token with
  | .error e => (.error e, kept)
  | .ok jwt => ((loadJwks now response kept).1 >>= claimsUnder env jwt, (loadJwks now response kept).2)

/-! ## Claims -/

/-- `_optional_str_claim`. -/
def optionalStrClaim (claims : PyDict) (name : String) : Option String := (claims.get name).asStr.filter (· ≠ "")

/-- `_required_str_claim`. -/
def requiredStrClaim (claims : PyDict) (name : String) : Checked String :=
  (optionalStrClaim claims name).elim (.error (.authentication ("OIDC claim " ++ name ++ " is required"))) .ok

/-- `_optional_int_claim`; a boolean is an `int`. -/
def optionalIntClaim (claims : PyDict) (name : String) : Option Int :=
  match claims.get name with
  | .int n => some n
  | .bool b => some (if b then 1 else 0)
  | _ => none

/-- `_required_int_claim`. -/
def requiredIntClaim (claims : PyDict) (name : String) : Checked Int :=
  (optionalIntClaim claims name).elim (.error (.authentication ("OIDC claim " ++ name ++ " is required"))) .ok

/-- `_audiences_from_claim`. -/
def audiencesFromClaim : PyVal → List String
  | .str value => [value]
  | .list items => items.filterMap PyVal.asStr
  | _ => []

/-- `int(self._clock())`: whole seconds. -/
def seconds (now : Instant) : Int := now.tdiv 1000000

/-- The type of the token. -/
def tokenType (claims : PyDict) : Option String :=
  (optionalStrClaim claims "token_use").or (optionalStrClaim claims "typ")

/-- The type is there and accepted. -/
def checkTokenType (claims : PyDict) : Checked PUnit :=
  match tokenType claims with
  | none => .error (.authentication "OIDC token type is required")
  | some type => demand (config.acceptedTokenTypes.contains type) "OIDC token type is not allowed"

/-- `_validate_claims`. -/
def validateClaims (now : Instant) (claims : PyDict) : Checked PUnit := do
  let issuer ← requiredStrClaim claims "iss"
  demand (issuer = config.issuer) "OIDC issuer is not allowed"
  demand ((audiencesFromClaim (claims.get "aud")).any config.audiences.contains) "OIDC audience is not allowed"
  let exp ← requiredIntClaim claims "exp"
  demand (seconds now ≤ exp + config.clockSkewSeconds) "OIDC token is expired"
  demand ((optionalIntClaim claims "nbf").all fun nbf => nbf - config.clockSkewSeconds ≤ seconds now)
    "OIDC token is not yet valid"
  demand ((optionalIntClaim claims "iat").all fun iat => iat - config.clockSkewSeconds ≤ seconds now)
    "OIDC token was issued in the future"
  checkTokenType config claims

/-- `Principal`. -/
structure Principal where
  subject : String
  issuer : String := ""
  email : Option String := none
  tenantId : Option String := none
  claims : PyDict := []

/-- The readings of the clock in `authenticate`: by the verifier, if it looks for a key, and for the claims. -/
structure ClockReadings where
  keys : Instant
  claims : Instant

/-- The end of `authenticate`. -/
def principalOf (now : Instant) (claims : PyDict) : Checked Principal := do
  validateClaims config now claims
  let subject ← requiredStrClaim claims "sub"
  return {
    subject, issuer := ((claims.get "iss").orElse (.str "")).toStr env.text
    email := optionalStrClaim claims "email"
    tenantId := (optionalStrClaim claims "org_id").or (optionalStrClaim claims "tenant_id"), claims }

/-- `OIDCAuthenticator.authenticate`. -/
def authenticate (at' : ClockReadings) (response : Response) (kept : Option KeySet) (authorization : Option String) :
    Checked Principal × Option KeySet :=
  match bearerToken authorization with
  | .error e => (.error e, kept)
  | .ok token =>
    let verified := verify env config at'.keys response kept token
    (verified.1 >>= principalOf env config at'.claims, verified.2)

/-! ## Tokens that are read -/

section Reading

variable {env} {config} {token : String} {jwt : Jwt} {segment : List Char} {claims : PyDict} {now : Instant}

theorem bearerToken_ok {authorization : Option String} (h : bearerToken authorization = .ok token) :
    ∃ rest, authorization = some ("Bearer " ++ rest) ∧ strip rest = token ∧ token ≠ "" := by
  unfold bearerToken at h
  dsimp only at h
  split at h
  · rename_i hbearer
    obtain ⟨hbegins, hne⟩ := Bool.and_eq_true_iff.mp hbearer
    obtain ⟨rest, hrest⟩ := List.isPrefixOf_iff_prefix.mp hbegins
    have htoken := Except.ok.inj h
    rw [← hrest, List.drop_left] at htoken
    refine ⟨String.ofList rest, ?_, htoken, ?_⟩
    · cases authorization with
      | none =>
        have hlen := congrArg List.length hrest
        simp at hlen
      | some value =>
        rw [Option.getD_some] at hrest
        exact congrArg some (String.toList_inj.mp (by simp [← hrest]))
    · rw [← hrest, List.drop_left, htoken] at hne
      exact of_decide_eq_true hne
  · cases h

/-- The segment is a JSON value in URL-safe base 64. -/
def Spells (env : Env) (segment : List Char) (v : PyVal) : Prop :=
  ∃ bytes, b64urlDecode segment = .ok bytes ∧ env.loads bytes = some v

theorem jsonB64urlDecode_ok {v : PyVal} : jsonB64urlDecode env segment = .ok v ↔ Spells env segment v := by
  unfold jsonB64urlDecode Spells
  rw [bind_ok]
  refine exists_congr fun bytes => and_congr_right fun _ => ?_
  cases env.loads bytes <;> simp

/-- A token of three segments, and what they say. -/
structure Compact (env : Env) (token : String) (jwt : Jwt) : Prop where
  segments : ∃ first second third, token.toList = first ++ '.' :: (second ++ '.' :: third) ∧
    Spells env first (.dict jwt.header) ∧ Spells env second (.dict jwt.payload) ∧ b64urlDecode third = .ok jwt.signature ∧
    jwt.signingInput = String.ofList (first ++ '.' :: second)

theorem splitJwt_ok (h : splitJwt env token = .ok jwt) : Compact env token jwt := by
  unfold splitJwt at h
  split at h
  · rename_i first second third hsplit
    obtain ⟨header, hheader, h⟩ := bind_ok.mp h
    obtain ⟨payload, hpayload, h⟩ := bind_ok.mp h
    obtain ⟨signature, hsignature, h⟩ := bind_ok.mp h
    have hjoin : ['.'].intercalate (token.toList.splitOn '.') = token.toList := List.intercalate_splitOn '.'
    rw [hsplit] at hjoin
    have hsegments : token.toList = first ++ '.' :: (second ++ '.' :: third) := by
      rw [← hjoin]
      simp [List.intercalate]
    cases header <;> cases payload <;> cases h
    exact ⟨first, second, third, hsegments, jsonB64urlDecode_ok.mp hheader, jsonB64urlDecode_ok.mp hpayload,
      hsignature, rfl⟩
  · cases h

theorem keyWithId_eq_some {keyId : String} {v : PyVal} {jwk : PyDict} (h : keyWithId keyId v = some jwk) :
    v = .dict jwk ∧ jwk.get "kid" = .str keyId := by
  cases v with
  | dict d =>
    simp only [keyWithId, Option.ite_none_right_eq_some, Option.some.injEq] at h
    obtain ⟨hkid, rfl⟩ := h
    refine ⟨rfl, ?_⟩
    cases hget : PyDict.get d "kid" <;> rw [hget] at hkid <;> simp [PyVal.eq, PyVal.number] at hkid
    rw [hkid]
  | null | bool | int | float | str | list => cases h

theorem jwkForKeyId_ok {jwks jwk : PyDict} {keyId : String} (h : jwkForKeyId jwks keyId = .ok jwk) :
    ∃ keys, jwks.get "keys" = .list keys ∧ .dict jwk ∈ keys ∧ jwk.get "kid" = .str keyId := by
  unfold jwkForKeyId at h
  split at h
  · rename_i keys hkeys
    split at h
    · rename_i found hfound
      obtain rfl := Except.ok.inj h
      obtain ⟨v, hv, hkey⟩ := List.exists_of_findSome?_eq_some hfound
      obtain ⟨rfl, hkid⟩ := keyWithId_eq_some hkey
      exact ⟨keys, hkeys, hv, hkid⟩
    · cases h
  · cases h

/-- The signature verifies under the JWK. -/
def Verifies (env : Env) (algorithm : String) (jwk : PyDict) (input : String) (signature : List UInt8) : Prop :=
  (algorithm = "RS256" ∧ ∃ e n, jwkInt jwk "e" = .ok e ∧ jwkInt jwk "n" = .ok n ∧
      env.rs256 e n signature input = .valid) ∨
    (algorithm = "ES256" ∧ signature.length = 64 ∧ ∃ x y, jwkInt jwk "x" = .ok x ∧ jwkInt jwk "y" = .ok y ∧
      env.es256 x y (bigEndian (signature.take 32)) (bigEndian (signature.drop 32)) input = .valid)

theorem verificationResult_ok {v : Checked Verification} : verificationResult v = .ok () ↔ v = .ok .valid := by
  cases v with
  | error e => simp [verificationResult]
  | ok v => cases v <;> simp [verificationResult]

theorem es256Signature_ok {signature : List UInt8} {r s : Nat} : es256Signature signature = .ok (r, s) ↔
    signature.length = 64 ∧ bigEndian (signature.take 32) = r ∧ bigEndian (signature.drop 32) = s := by
  unfold es256Signature
  split <;> simp_all

theorem rsaVerification_ok {jwk : PyDict} {input : String} {signature : List UInt8} :
    rsaVerification env jwk input signature = .ok .valid ↔
      ∃ e n, jwkInt jwk "e" = .ok e ∧ jwkInt jwk "n" = .ok n ∧ env.rs256 e n signature input = .valid := by
  unfold rsaVerification
  simp only [bind_ok, pure, Except.pure, Except.ok.injEq]
  constructor
  · rintro ⟨e, he, n, hn, h⟩
    exact ⟨e, n, he, hn, h⟩
  · rintro ⟨e, n, he, hn, h⟩
    exact ⟨e, he, n, hn, h⟩

theorem ecVerification_ok {jwk : PyDict} {input : String} {signature : List UInt8} :
    ecVerification env jwk input signature = .ok .valid ↔
      signature.length = 64 ∧ ∃ x y, jwkInt jwk "x" = .ok x ∧ jwkInt jwk "y" = .ok y ∧
        env.es256 x y (bigEndian (signature.take 32)) (bigEndian (signature.drop 32)) input = .valid := by
  unfold ecVerification
  simp only [bind_ok, pure, Except.pure, Except.ok.injEq]
  constructor
  · rintro ⟨x, hx, y, hy, ⟨r, s⟩, hrs, h⟩
    obtain ⟨hlen, rfl, rfl⟩ := es256Signature_ok.mp hrs
    exact ⟨hlen, x, y, hx, hy, h⟩
  · rintro ⟨hlen, x, y, hx, hy, h⟩
    exact ⟨x, hx, y, hy, _, es256Signature_ok.mpr ⟨hlen, rfl, rfl⟩, h⟩

theorem verifySignature_ok {algorithm : String} {jwk : PyDict} {input : String} {signature : List UInt8} :
    verifySignature env algorithm jwk input signature = .ok () ↔ Verifies env algorithm jwk input signature := by
  unfold verifySignature Verifies
  split
  · rename_i hrs
    subst hrs
    simp [verificationResult_ok, rsaVerification_ok]
  · split
    · rename_i hes
      subst hes
      simp [verificationResult_ok, ecVerification_ok]
    · rename_i hrs hes
      simp [hrs, hes]

/-- **What a key set vouches for**: one of its keys, which the token names by its id, verifies the signature over the
first two segments, under an allowed algorithm that the token names. -/
def Vouched (env : Env) (config : OidcConfig) (jwks : PyDict) (token : String) (claims : PyDict) : Prop :=
  ∃ jwt keys jwk, Compact env token jwt ∧ claims = jwt.claims ∧ jwks.get "keys" = .list keys ∧ .dict jwk ∈ keys ∧
    jwk.get "kid" = .str (headerText env jwt.header "kid") ∧ headerText env jwt.header "kid" ≠ "" ∧
    headerText env jwt.header "alg" ∈ config.allowedAlgorithms ∧
    Verifies env (headerText env jwt.header "alg") jwk jwt.signingInput jwt.signature

theorem readJwt_ok : readJwt env config token = .ok jwt ↔ splitJwt env token = .ok jwt ∧
    headerText env jwt.header "alg" ∈ config.allowedAlgorithms ∧ headerText env jwt.header "kid" ≠ "" := by
  unfold readJwt checkHeader
  simp only [bind_ok, pure, Except.pure, Except.ok.injEq]
  constructor
  · rintro ⟨jwt', hsplit, u, ⟨v, halg, hkid⟩, rfl⟩
    exact ⟨hsplit, List.contains_iff_mem.mp (demand_ok.mp halg), of_decide_eq_true (demand_ok.mp hkid)⟩
  · rintro ⟨hsplit, halg, hkid⟩
    exact ⟨jwt, hsplit, (), ⟨(), demand_ok.mpr (List.contains_iff_mem.mpr halg), demand_ok.mpr (decide_eq_true hkid)⟩,
      rfl⟩

theorem claimsUnder_ok {jwks : PyDict} (hread : readJwt env config token = .ok jwt)
    (h : claimsUnder env jwt jwks = .ok claims) : Vouched env config jwks token claims := by
  obtain ⟨hsplit, halg, hkid⟩ := readJwt_ok.mp hread
  unfold claimsUnder at h
  obtain ⟨jwk, hjwk, h⟩ := bind_ok.mp h
  obtain ⟨_, hverified, h⟩ := bind_ok.mp h
  obtain rfl := Except.ok.inj h
  obtain ⟨keys, hkeys, hmem, hid⟩ := jwkForKeyId_ok hjwk
  exact ⟨jwt, keys, jwk, splitJwt_ok hsplit, rfl, hkeys, hmem, hid, hkid, halg, verifySignature_ok.mp hverified⟩

/-! ## Claims that are accepted -/

/-- **What the claims say**: the issuer, one of the audiences, a life that includes the present up to the skew, an
accepted type, and a subject. -/
structure Current (config : OidcConfig) (now : Instant) (claims : PyDict) (subject : String) : Prop where
  issuer : optionalStrClaim claims "iss" = some config.issuer
  audience : ∃ a ∈ audiencesFromClaim (claims.get "aud"), a ∈ config.audiences
  unexpired : ∃ exp, optionalIntClaim claims "exp" = some exp ∧ seconds now ≤ exp + config.clockSkewSeconds
  begun : ∀ nbf, optionalIntClaim claims "nbf" = some nbf → nbf - config.clockSkewSeconds ≤ seconds now
  issued : ∀ iat, optionalIntClaim claims "iat" = some iat → iat - config.clockSkewSeconds ≤ seconds now
  type : ∃ type, tokenType claims = some type ∧ type ∈ config.acceptedTokenTypes
  subject : optionalStrClaim claims "sub" = some subject

@[simp] theorem requiredStrClaim_ok {name value : String} :
    requiredStrClaim claims name = .ok value ↔ optionalStrClaim claims name = some value := by
  unfold requiredStrClaim
  cases optionalStrClaim claims name <;> simp

@[simp] theorem requiredIntClaim_ok {name : String} {n : Int} :
    requiredIntClaim claims name = .ok n ↔ optionalIntClaim claims name = some n := by
  unfold requiredIntClaim
  cases optionalIntClaim claims name <;> simp

theorem checkTokenType_ok {u : PUnit} :
    checkTokenType config claims = .ok u ↔ ∃ type, tokenType claims = some type ∧ type ∈ config.acceptedTokenTypes := by
  unfold checkTokenType
  cases tokenType claims with
  | none => simp
  | some type => simp

theorem principalOf_ok {principal : Principal} :
    principalOf env config now claims = .ok principal ↔ Current config now claims principal.subject ∧ principal =
      { subject := principal.subject, issuer := ((claims.get "iss").orElse (.str "")).toStr env.text
        email := optionalStrClaim claims "email"
        tenantId := (optionalStrClaim claims "org_id").or (optionalStrClaim claims "tenant_id"), claims := claims } := by
  unfold principalOf validateClaims
  simp only [bind_ok, pure, Except.pure, requiredStrClaim_ok, requiredIntClaim_ok, demand_ok, checkTokenType_ok,
    decide_eq_true_eq, List.any_eq_true, List.contains_iff_mem, Option.all_eq_true, Except.ok.injEq]
  constructor
  · rintro ⟨_, ⟨issuer, hiss, _, rfl, _, haud, exp, hexp, _, hlive, _, hnbf, _, hiat, htype⟩, subject, hsub, rfl⟩
    exact ⟨⟨hiss, haud, ⟨exp, hexp, hlive⟩, hnbf, hiat, htype, hsub⟩, rfl⟩
  · rintro ⟨⟨hiss, haud, ⟨exp, hexp, hlive⟩, hnbf, hiat, htype, hsub⟩, hprincipal⟩
    exact ⟨(), ⟨_, hiss, (), rfl, (), haud, exp, hexp, (), hlive, (), hnbf, (), hiat, htype⟩, _, hsub, hprincipal.symm⟩

/-! ## The key set at hand -/

variable {response : Response} {kept : Option KeySet} {jwks : PyDict}

/-- It is kept and has not expired, or it was just fetched. -/
theorem loadJwks_ok (h : (loadJwks now response kept).1 = .ok jwks) :
    (∃ k, kept = some k ∧ now < k.expiresAt ∧ k.body = jwks) ∨ response = .json (.dict jwks) := by
  unfold loadJwks at h
  split at h
  · rename_i k hk
    rw [Option.filter_eq_some_iff] at hk
    exact .inl ⟨k, hk.1, of_decide_eq_true hk.2, Except.ok.inj h⟩
  · split at h
    · cases h
    · cases h
      exact .inr rfl
    · cases h

/-- The key set that is kept changes with a fetch only. -/
theorem loadJwks_kept (now : Instant) (response : Response) (kept : Option KeySet) :
    (loadJwks now response kept).2 = kept ∨
      ∃ body, response = .json (.dict body) ∧ (loadJwks now response kept).2 = some { body, expiresAt := now + cacheTtl } := by
  unfold loadJwks
  split
  · exact .inl rfl
  · split
    · exact .inl rfl
    · exact .inr ⟨_, rfl, rfl⟩
    · exact .inl rfl

/-- **A request that is authenticated** shows a bearer token that the key set vouches for, with claims that are
accepted at the time. -/
structure Authentic (env : Env) (config : OidcConfig) (jwks : PyDict) (now : Instant) (authorization : Option String)
    (principal : Principal) : Prop where
  token : ∃ rest, authorization = some ("Bearer " ++ rest) ∧ Vouched env config jwks (strip rest) principal.claims
  current : Current config now principal.claims principal.subject
  issuer : principal.issuer = config.issuer

theorem issuer_of_current {subject : String} (h : Current config now claims subject) :
    ((claims.get "iss").orElse (.str "")).toStr env.text = config.issuer := by
  obtain ⟨hstr, hne⟩ := Option.filter_eq_some_iff.mp h.issuer
  rw [PyVal.asStr_eq_some hstr, PyVal.orElse, PyVal.truthy, if_pos (by simpa using hne)]
  rfl

theorem authenticate_ok {at' : ClockReadings} {authorization : Option String} {principal : Principal}
    (h : (authenticate env config at' response kept authorization).1 = .ok principal) :
    ∃ jwks, (loadJwks at'.keys response kept).1 = .ok jwks ∧
      Authentic env config jwks at'.claims authorization principal := by
  unfold authenticate at h
  split at h
  · cases h
  · rename_i token htoken
    obtain ⟨rest, rfl, rfl, -⟩ := bearerToken_ok htoken
    obtain ⟨claims, hverify, hprincipal⟩ := bind_ok.mp h
    obtain ⟨hcurrent, heq⟩ := principalOf_ok.mp hprincipal
    have hclaims : principal.claims = claims := by rw [heq]
    unfold verify at hverify
    split at hverify
    · cases hverify
    · rename_i jwt hread
      obtain ⟨jwks, hjwks, hunder⟩ := bind_ok.mp hverify
      refine ⟨jwks, hjwks, ⟨rest, rfl, hclaims ▸ claimsUnder_ok hread hunder⟩, hclaims ▸ hcurrent, ?_⟩
      rw [heq]
      exact issuer_of_current hcurrent

variable (env config) in
/-- Authentication fetches at most once, and keeps what it has fetched. -/
theorem authenticate_kept (at' : ClockReadings) (response : Response) (kept : Option KeySet) (authorization : Option String) :
    (authenticate env config at' response kept authorization).2 = kept ∨
      ∃ body, response = .json (.dict body) ∧
        (authenticate env config at' response kept authorization).2 =
          some { body, expiresAt := at'.keys + cacheTtl } := by
  unfold authenticate
  split
  · exact .inl rfl
  · unfold verify
    split
    · exact .inl rfl
    · exact loadJwks_kept at'.keys response kept

end Reading

end HostedFacilitator.Auth
