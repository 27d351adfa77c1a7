import HostedFacilitator.Auth.Token
import HostedFacilitator.Engine.Providers
import HostedFacilitator.Python.Chars

/-!
# Tokens of the issuer

The issuer writes a token in compact form: the bytes of the header, of the payload and of the signature in URL-safe base
64 without filling, with full stops between them. Such a token is split into what was written (`splitJwt_compact`), so a
token that a key of the issuer signed is accepted while its claims are (`issued_token_accepted`).
-/

namespace HostedFacilitator.Auth

/-- URL-safe base 64 without filling. -/
def segmentOf (bytes : List UInt8) : List Char := Base64.encode Base64.urlSafe bytes

/-- What is signed. -/
def signingInputOf (header payload : List UInt8) : String :=
  String.ofList (segmentOf header ++ '.' :: segmentOf payload)

/-- A token in compact form. -/
def compactToken (header payload signature : List UInt8) : String :=
  String.ofList (Base64.dotted header payload signature)

/-- What the token says. -/
def issuedJwt (header payload signature : List UInt8) (h p : PyDict) : Jwt :=
  { header := h, payload := p, signingInput := signingInputOf header payload, signature := signature }

section Segments

variable {env : Env} {config : OidcConfig} {header payload signature : List UInt8} {h p : PyDict}

theorem b64urlDecode_segmentOf (bytes : List UInt8) : b64urlDecode (segmentOf bytes) = .ok bytes := by
  have hpadded : segmentOf bytes ++ List.replicate ((4 - (segmentOf bytes).length % 4) % 4) '=' =
      Base64.padded Base64.urlSafe bytes := by
    rw [segmentOf, Base64.padded, Base64.encode, List.length_map]
  rw [b64urlDecode, hpadded, urlsafeB64decode_padded]

theorem isPySpace_segmentOf {bytes : List UInt8} : ∀ c ∈ segmentOf bytes, isPySpace c = false := by
  have hsymbol : ∀ n < 64, isPySpace (Base64.urlSafe.symbol n) = false := by decide +kernel
  exact Base64.encode_all (p := fun c => isPySpace c = false) hsymbol bytes

/-- A token in compact form is split into what was written. -/
theorem splitJwt_compact (hh : env.loads header = some (.dict h)) (hp : env.loads payload = some (.dict p)) :
    splitJwt env (compactToken header payload signature) = .ok (issuedJwt header payload signature h p) := by
  have hsplit : (compactToken header payload signature).toList.splitOn '.' =
      [segmentOf header, segmentOf payload, segmentOf signature] := by
    rw [compactToken, String.toList_ofList, Base64.splitOn_dotted]
    rfl
  have hheader : jsonB64urlDecode env (segmentOf header) = .ok (.dict h) :=
    jsonB64urlDecode_ok.mpr ⟨header, b64urlDecode_segmentOf header, hh⟩
  have hpayload : jsonB64urlDecode env (segmentOf payload) = .ok (.dict p) :=
    jsonB64urlDecode_ok.mpr ⟨payload, b64urlDecode_segmentOf payload, hp⟩
  unfold splitJwt
  rw [hsplit]
  dsimp only
  rw [hheader, hpayload, b64urlDecode_segmentOf]
  rfl

/-- There is nothing to strip. -/
theorem isPySpace_compact : ∀ c ∈ (compactToken header payload signature).toList, isPySpace c = false := by
  intro c hc
  rw [compactToken, String.toList_ofList, Base64.dotted, List.mem_append, List.mem_cons, List.mem_append,
    List.mem_cons] at hc
  rcases hc with hc | rfl | hc | rfl | hc
  · exact isPySpace_segmentOf c hc
  · rfl
  · exact isPySpace_segmentOf c hc
  · rfl
  · exact isPySpace_segmentOf c hc

theorem strip_compact : strip (compactToken header payload signature) = compactToken header payload signature :=
  strip_of_ends (fun c hc => isPySpace_compact c (List.mem_of_mem_head? hc))
    fun c hc => isPySpace_compact c (List.mem_of_mem_getLast? hc)

theorem bearerToken_compact : bearerToken (some ("Bearer " ++ compactToken header payload signature)) =
    .ok (compactToken header payload signature) := by
  have hne : compactToken header payload signature ≠ "" := by
    intro hempty
    have hlist := congrArg String.toList hempty
    rw [compactToken, String.toList_ofList, Base64.dotted] at hlist
    simp at hlist
  have hdrop : ("Bearer " ++ compactToken header payload signature).toList.drop "Bearer ".toList.length =
      (compactToken header payload signature).toList := by
    rw [String.toList_append, List.drop_left]
  have hbegins : "Bearer ".toList.isPrefixOf ("Bearer " ++ compactToken header payload signature).toList = true := by
    rw [List.isPrefixOf_iff_prefix, String.toList_append]
    exact List.prefix_append _ _
  unfold bearerToken
  dsimp only
  rw [Option.getD_some, hdrop, String.ofList_toList, strip_compact, hbegins, if_pos]
  simpa using hne

/-- A token that a key of the key set has signed: its texts are read, its header names an allowed algorithm and a key,
and that key verifies the signature over the first two segments. -/
structure Issued (env : Env) (config : OidcConfig) (jwks : PyDict) (header payload signature : List UInt8)
    (h p : PyDict) : Prop where
  reads_header : env.loads header = some (.dict h)
  reads_payload : env.loads payload = some (.dict p)
  algorithm : headerText env h "alg" ∈ config.allowedAlgorithms
  keyId : headerText env h "kid" ≠ ""
  signed : ∃ jwk, jwkForKeyId jwks (headerText env h "kid") = .ok jwk ∧
    Verifies env (headerText env h "alg") jwk (signingInputOf header payload) signature

/-- The principal of some claims. -/
def principalFor (env : Env) (claims : PyDict) (subject : String) : Principal :=
  { subject, issuer := ((claims.get "iss").orElse (.str "")).toStr env.text
    email := optionalStrClaim claims "email"
    tenantId := (optionalStrClaim claims "org_id").or (optionalStrClaim claims "tenant_id"), claims }

variable {jwks : PyDict}

theorem Issued.claimsUnder (hi : Issued env config jwks header payload signature h p) :
    claimsUnder env (issuedJwt header payload signature h p) jwks =
      .ok (issuedJwt header payload signature h p).claims := by
  obtain ⟨jwk, hjwk, hverifies⟩ := hi.signed
  have hverified := verifySignature_ok.mpr hverifies
  rw [Auth.claimsUnder, issuedJwt, hjwk]
  show (verifySignature env (headerText env h "alg") jwk (signingInputOf header payload) signature >>= _) = _
  rw [hverified]
  rfl

theorem Issued.authenticate (hi : Issued env config jwks header payload signature h p) {at' : ClockReadings}
    {response : Response} {kept : Option KeySet} (hjwks : (loadJwks at'.keys response kept).1 = .ok jwks)
    {subject : String} (hcurrent : Current config at'.claims (issuedJwt header payload signature h p).claims subject) :
    authenticate env config at' response kept (some ("Bearer " ++ compactToken header payload signature)) =
      (.ok (principalFor env (issuedJwt header payload signature h p).claims subject),
        (loadJwks at'.keys response kept).2) := by
  have hread : readJwt env config (compactToken header payload signature) =
      .ok (issuedJwt header payload signature h p) :=
    readJwt_ok.mpr ⟨splitJwt_compact hi.reads_header hi.reads_payload, hi.algorithm, hi.keyId⟩
  have hprincipal : principalOf env config at'.claims (issuedJwt header payload signature h p).claims =
      .ok (principalFor env (issuedJwt header payload signature h p).claims subject) :=
    principalOf_ok.mpr ⟨hcurrent, rfl⟩
  unfold Auth.authenticate
  rw [bearerToken_compact]
  dsimp only
  unfold verify
  rw [hread]
  dsimp only
  rw [hjwks]
  refine Prod.ext ?_ rfl
  show (Auth.claimsUnder env _ jwks >>= principalOf env config at'.claims) = _
  rw [hi.claimsUnder]
  exact hprincipal

end Segments

/-- **A token that the issuer has signed is accepted**, under a key set with its key, while its claims are current. The
request is then authenticated as its subject, with its claims. -/
theorem issued_token_accepted (env : Env) (config : OidcConfig) (jwks : PyDict) (header payload signature : List UInt8)
    (h p : PyDict) (hissued : Issued env config jwks header payload signature h p) (at' : ClockReadings)
    (response : Response) (kept : Option KeySet) (hjwks : (loadJwks at'.keys response kept).1 = .ok jwks)
    (subject : String) (hcurrent : Current config at'.claims (issuedJwt header payload signature h p).claims subject) :
    ∃ principal, (authenticate env config at' response kept
        (some ("Bearer " ++ compactToken header payload signature))).1 = .ok principal ∧ principal.subject = subject ∧
      principal.claims = (issuedJwt header payload signature h p).claims := by
  refine ⟨principalFor env (issuedJwt header payload signature h p).claims subject, ?_, rfl, rfl⟩
  rw [hissued.authenticate hjwks hcurrent]

/-! ## A token of an operator -/

def aliceHeader : String := "\x7b\"alg\":\"ES256\",\"kid\":\"k1\"\x7d"

def alicePayload : String :=
  "\x7b\"iss\":\"https://idp.example.test\",\"aud\":\"ops\",\"sub\":\"alice\",\"exp\":1000,\"typ\":\"JWT\"\x7d"

def aliceHeaderDict : PyDict := [("alg", .str "ES256"), ("kid", .str "k1")]

def alicePayloadDict : PyDict :=
  [("iss", .str "https://idp.example.test"), ("aud", .str "ops"), ("sub", .str "alice"), ("exp", .int 1000),
    ("typ", .str "JWT")]

/-- The signature under the key below. -/
def aliceSignature : List UInt8 :=
  Base64.decode Base64.urlSafe
    "A7Fj9ww1VGOh577748zov8SdS45F2iCVFevjAEcsWfnGMnttubN5zS4KTonYSEhTxXjD_NkNxP9SOhkOsRSkiQ".toList

def aliceToken : String := compactToken aliceHeader.toUTF8.toList alicePayload.toUTF8.toList aliceSignature

/-- `json.loads` on the two texts. -/
def aliceLoads (bytes : List UInt8) : Option PyVal :=
  if bytes = aliceHeader.toUTF8.toList then some (.dict aliceHeaderDict)
  else if bytes = alicePayload.toUTF8.toList then some (.dict alicePayloadDict)
  else none

/-- P-256 on the one signature. -/
def aliceEs256 (x y r s : Nat) (input : String) : Verification :=
  if x = 49039006927319533713165426614092056464533901845044669715731354466731213233928 ∧
      y = 76017861029561999746581085696089054905157520344413129349059535866203584501253 ∧
      r = 1670360409496418287085088613902102982258730921076198463396524716601482435065 ∧
      s = 89647138245717112088224259200479579250307889237997120380639039674275752879241 ∧
      input = signingInputOf aliceHeader.toUTF8.toList alicePayload.toUTF8.toList then .valid
  else .invalidSignature

def aliceEnv : Env :=
  { text := networkText, loads := aliceLoads, rs256 := fun _ _ _ _ => .invalidSignature, es256 := aliceEs256 }

def opsConfig : OidcConfig := { issuer := "https://idp.example.test", audiences := ["ops"] }

def opsKey : PyDict :=
  [("kty", .str "EC"), ("kid", .str "k1"), ("x", .str "bGsYJS8ljhwmQArkOxbyvT3v__GLL9TONwv8bc8Unwg"),
    ("y", .str "qBCVqO31rl2_0SxLkWeF5vO93b70Ar_Nuj-eB5T2lgU")]

def opsKeys : PyDict := [("keys", .list [.dict opsKey])]

theorem aliceLoads_payload : aliceLoads alicePayload.toUTF8.toList = some (.dict alicePayloadDict) := by
  have hne : alicePayload.toUTF8.toList ≠ aliceHeader.toUTF8.toList := by decide +kernel
  rw [aliceLoads, if_neg hne, if_pos rfl]

theorem alice_verifies : Verifies aliceEnv "ES256" opsKey
    (signingInputOf aliceHeader.toUTF8.toList alicePayload.toUTF8.toList) aliceSignature := by
  have hx : jwkInt opsKey "x" = .ok 49039006927319533713165426614092056464533901845044669715731354466731213233928 := by
    decide +kernel
  have hy : jwkInt opsKey "y" = .ok 76017861029561999746581085696089054905157520344413129349059535866203584501253 := by
    decide +kernel
  have hr : bigEndian (aliceSignature.take 32) =
      1670360409496418287085088613902102982258730921076198463396524716601482435065 := by decide +kernel
  have hs : bigEndian (aliceSignature.drop 32) =
      89647138245717112088224259200479579250307889237997120380639039674275752879241 := by decide +kernel
  refine .inr ⟨rfl, by decide +kernel, _, _, hx, hy, ?_⟩
  rw [hr, hs]
  exact if_pos ⟨rfl, rfl, rfl, rfl, rfl⟩

theorem alice_issued : Issued aliceEnv opsConfig opsKeys aliceHeader.toUTF8.toList alicePayload.toUTF8.toList
    aliceSignature aliceHeaderDict alicePayloadDict where
  reads_header := if_pos rfl
  reads_payload := aliceLoads_payload
  algorithm := by decide +kernel
  keyId := by decide +kernel
  signed := ⟨opsKey, rfl, alice_verifies⟩

/-- It is current until second 1060. -/
theorem alice_current {now : Instant} (h : seconds now ≤ 1060) : Current opsConfig now alicePayloadDict "alice" where
  issuer := by decide +kernel
  audience := ⟨"ops", by decide +kernel, by decide +kernel⟩
  unexpired := ⟨1000, rfl, h⟩
  begun := by
    intro nbf hnbf
    cases hnbf
  issued := by
    intro iat hiat
    cases hiat
  type := ⟨"JWT", by decide +kernel, by decide +kernel⟩
  subject := by decide +kernel

theorem issued_token_accepted_alice :
    ∃ principal, (authenticate aliceEnv opsConfig ⟨900000000, 900000000⟩ (.json (.dict opsKeys)) none
        (some ("Bearer " ++ aliceToken))).1 = .ok principal ∧ principal.subject = "alice" ∧
      principal.claims = alicePayloadDict :=
  issued_token_accepted aliceEnv opsConfig opsKeys _ _ _ aliceHeaderDict alicePayloadDict alice_issued
    ⟨900000000, 900000000⟩ (.json (.dict opsKeys)) none rfl "alice" (alice_current (by decide))

end HostedFacilitator.Auth
