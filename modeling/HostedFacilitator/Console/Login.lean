import HostedFacilitator.Console.Session
import HostedFacilitator.Lib.Dict
import HostedFacilitator.Lib.Transition

/-!
# Logins

The console in front of any number of browsers. A browser may show any cookie to any request, its own, one of another
browser or one it made up, as long as AES-GCM keeps its promise: what opens was sealed here (`Genuine`).

* `session_provenance`: a session that is used comes from a login, a callback with the state of this login, and the
  answer of the issuer to the code and the verifier;
* `session_completes`: when a login that is followed through gives a session, and how long that can be used;
* `returns_home_iff`: when a callback leads back to the console.
-/

namespace HostedFacilitator.Console

open Transition

/-- A callback that waits for its token. -/
structure Pending where
  expected : PyVal
  request : TokenRequest

/-- The values that were sealed so far, and the callbacks that wait. -/
structure World where
  issued : List PyVal := []
  pending : List (Nat × Pending) := []

inductive Event where
  | login (draw : Draw) (returnTo : Option String)
  | callback (id : Nat) (cookie state code : Option String)
  | answer (id : Nat) (response : TokenResponse) (now : Int)

variable (env : Env) (key : Option (List UInt8))

/-- The world after a callback has its answer. -/
def World.settle (s : World) (id : Nat) (reply : CallbackReply) : World :=
  let pending := s.pending.filter fun p => p.1 ≠ id
  match reply with
  | .session _ session => { issued := s.issued ++ [session], pending }
  | .thrown | .authError _ => { s with pending }

def next (s : World) : Event → Option World
  | .login draw returnTo =>
    -- without a key the sealing throws
    some (if key.isSome then { s with issued := s.issued ++ [(createLoginResponse env draw returnTo).2] } else s)
  | .callback id cookie state code =>
    if (Dict.get s.pending id).isSome then none
    else match beginCallback env key cookie state code with
      | .error _ => some s
      | .ok begun => some { s with pending := s.pending ++ [(id, { expected := begun.1, request := begun.2 })] }
  | .answer id response now =>
    (Dict.get s.pending id).map fun p => s.settle id (completeCallback env now p.expected response)

def machine : Machine World Event where
  start := {}
  next := next env key

/-- What the cookie opens to was sealed here, and JSON reads it back. -/
def Genuine (s : World) (cookie : Option String) : Prop :=
  ∀ k plaintext, key = some k → openCookie env k (cookie.getD "") = some plaintext →
    ∃ v ∈ s.issued, env.stringify v = plaintext ∧ env.parse plaintext = some v

/-- The cookie that an event shows is genuine. -/
def Event.Genuine (s : World) : Event → Prop
  | .callback _ cookie _ _ => Console.Genuine env key s cookie
  | .login .. | .answer .. => True

variable {env} {key} {s t : World} {es : List Event} {e : Event} {cookie : Option String} {v : PyVal}

theorem Genuine.decryptCookie (h : Genuine env key s cookie) (hv : decryptCookie env key (cookie.getD "") = some v) :
    v ∈ s.issued := by
  obtain ⟨k, plaintext, hk, hopen, hparse⟩ := decryptCookie_eq_some.mp hv
  obtain ⟨v', hmem, -, hparse'⟩ := h k plaintext hk hopen
  obtain rfl := Option.some.inj (hparse.symm.trans hparse')
  exact hmem

/-- A cookie that was sealed here is genuine. -/
theorem genuine_encryptCookie {k iv : List UInt8} (henv : env.Lawful) (hjson : env.parse (env.stringify v) = some v)
    (hv : v ∈ s.issued) : Genuine env (some k) s (some (encryptCookie env k iv v)) := by
  intro k' plaintext hk hopen
  obtain rfl := Option.some.inj hk
  obtain rfl := Option.some.inj ((openCookie_encryptCookie henv).symm.trans hopen)
  exact ⟨v, hv, rfl, hjson⟩

/-! ## Where values come from -/

/-- The state of a login. -/
def FromLogin (es : List Event) (v : PyVal) : Prop :=
  ∃ draw returnTo, .login draw returnTo ∈ es ∧ v = oidcStateCookie draw (safeReturnTo returnTo)

/-- A login, and then a callback with its state that asks for a token with its verifier. -/
def Called (env : Env) (key : Option (List UInt8)) (es : List Event) (draw : Draw) (returnTo : Option String) (id : Nat)
    (code : String) : Prop :=
  ∃ cookie state, [.login draw returnTo, .callback id cookie state (some code)].Sublist es ∧
    state.getD "" = draw.state ∧
      beginCallback env key cookie state (some code) =
        .ok (oidcStateCookie draw (safeReturnTo returnTo), { code, codeVerifier := draw.codeVerifier })

/-- The session of a token: a login, a callback with its state, and the answer with the token. -/
structure Granted (env : Env) (key : Option (List UInt8)) (es : List Event) (draw : Draw) (returnTo : Option String)
    (id : Nat) (code : String) (body : PyVal) (token : String) (completed : Int) : Prop where
  called : ∃ before after, es = before ++ .answer id (.json (some body)) completed :: after ∧
    Called env key before draw returnTo id code
  access_token : property "access_token" body = some (.str token)

/-- The session that comes out of it. -/
def sessionFrom (env : Env) (body : PyVal) (token : String) (completed : Int) : PyVal :=
  opsSession env token (jwtPayload env token) (expiresAt env completed (property "expires_in" body))

theorem FromLogin.snoc (h : FromLogin es v) (e : Event) : FromLogin (es ++ [e]) v := by
  obtain ⟨draw, returnTo, hmem, rfl⟩ := h
  exact ⟨draw, returnTo, List.mem_append_left _ hmem, rfl⟩

section Snoc

variable {draw : Draw} {returnTo : Option String} {id : Nat} {code token : String} {body : PyVal} {completed : Int}

theorem Called.snoc (h : Called env key es draw returnTo id code) (e : Event) :
    Called env key (es ++ [e]) draw returnTo id code := by
  obtain ⟨cookie, state, hsub, hrest⟩ := h
  exact ⟨cookie, state, hsub.trans (List.sublist_append_left _ _), hrest⟩

theorem Granted.snoc (h : Granted env key es draw returnTo id code body token completed) (e : Event) :
    Granted env key (es ++ [e]) draw returnTo id code body token completed := by
  obtain ⟨⟨before, after, rfl, hcalled⟩, htoken⟩ := h
  exact ⟨⟨before, after ++ [e], by simp, hcalled⟩, htoken⟩

end Snoc

/-- What the events so far tell about the values that were sealed and the callbacks that wait. -/
structure Record (env : Env) (key : Option (List UInt8)) (es : List Event) (s : World) : Prop where
  issued : ∀ v ∈ s.issued, FromLogin es v ∨ ∃ draw returnTo id code body token completed,
    Granted env key es draw returnTo id code body token completed ∧ v = sessionFrom env body token completed
  pending : ∀ p ∈ s.pending, ∃ draw returnTo, Called env key es draw returnTo p.1 p.2.request.code ∧
    p.2.expected = oidcStateCookie draw (safeReturnTo returnTo)

theorem Record.snoc_issued (h : Record env key es s) (e : Event) {v : PyVal} (hv : v ∈ s.issued) :
    FromLogin (es ++ [e]) v ∨ ∃ draw returnTo id code body token completed,
      Granted env key (es ++ [e]) draw returnTo id code body token completed ∧
        v = sessionFrom env body token completed := by
  rcases h.issued v hv with hlogin | ⟨draw, returnTo, id, code, body, token, completed, hgranted, heq⟩
  · exact .inl (hlogin.snoc e)
  · exact .inr ⟨draw, returnTo, id, code, body, token, completed, hgranted.snoc e, heq⟩

theorem Record.snoc_pending (h : Record env key es s) (e : Event) {p : Nat × Pending} (hp : p ∈ s.pending) :
    ∃ draw returnTo, Called env key (es ++ [e]) draw returnTo p.1 p.2.request.code ∧
      p.2.expected = oidcStateCookie draw (safeReturnTo returnTo) := by
  obtain ⟨draw, returnTo, hcalled, hexpected⟩ := h.pending p hp
  exact ⟨draw, returnTo, hcalled.snoc e, hexpected⟩

theorem Record.login (h : Record env key es s) (draw : Draw) (returnTo : Option String) :
    Record env key (es ++ [.login draw returnTo])
      { s with issued := s.issued ++ [(createLoginResponse env draw returnTo).2] } where
  issued v hv := by
    rcases List.mem_append.mp hv with hv | hv
    · exact h.snoc_issued _ hv
    · exact .inl ⟨draw, returnTo, by simp, List.mem_singleton.mp hv⟩
  pending _ hp := h.snoc_pending _ hp

/-- A callback that asks for a token was shown the state of a login: the one with its `state`. -/
theorem Record.callback (h : Record env key es s) {id : Nat} {state code : Option String} {expected : PyVal}
    {request : TokenRequest} (hgenuine : Genuine env key s cookie)
    (hbegin : beginCallback env key cookie state code = .ok (expected, request)) :
    Record env key (es ++ [.callback id cookie state code])
      { s with pending := s.pending ++ [(id, { expected := expected, request := request })] } where
  issued _ hv := h.snoc_issued _ hv
  pending p hp := by
    rcases List.mem_append.mp hp with hp | hp
    · exact h.snoc_pending _ hp
    · obtain rfl := List.mem_singleton.mp hp
      obtain ⟨hopen, -, hcode, hstate, hrequest⟩ := beginCallback_ok.mp hbegin
      rcases h.issued expected (hgenuine.decryptCookie hopen) with
        ⟨draw, returnTo, hmem, rfl⟩ | ⟨_, _, _, _, _, _, _, -, rfl⟩
      · cases code with
        | none => exact absurd rfl hcode
        | some code =>
          have hsublist : [Event.login draw returnTo, .callback id cookie state (some code)].Sublist
              (es ++ [.callback id cookie state (some code)]) :=
            (List.singleton_sublist.mpr hmem).append (.refl [_])
          have hcalled : Called env key (es ++ [.callback id cookie state (some code)]) draw returnTo id code := by
            refine ⟨cookie, state, hsublist, (Option.some.inj hstate).symm, ?_⟩
            rw [hbegin, hrequest]
            rfl
          rw [hrequest]
          exact ⟨draw, returnTo, hcalled, rfl⟩
      · rw [sessionFrom, property_state_opsSession] at hstate
        cases hstate

theorem Record.settle (h : Record env key es s) {id : Nat} {p : Pending} {response : TokenResponse} {now : Int}
    (hp : Dict.get s.pending id = some p) :
    Record env key (es ++ [.answer id response now]) (s.settle id (completeCallback env now p.expected response)) := by
  have hkept : ∀ q ∈ s.pending.filter (fun q => q.1 ≠ id), ∃ draw returnTo,
      Called env key (es ++ [.answer id response now]) draw returnTo q.1 q.2.request.code ∧
        q.2.expected = oidcStateCookie draw (safeReturnTo returnTo) :=
    fun q hq => h.snoc_pending _ (List.mem_filter.mp hq).1
  unfold World.settle
  cases hreply : completeCallback env now p.expected response with
  | thrown => exact ⟨fun _ hv => h.snoc_issued _ hv, hkept⟩
  | authError detail => exact ⟨fun _ hv => h.snoc_issued _ hv, hkept⟩
  | session location session =>
    refine ⟨fun v hv => ?_, hkept⟩
    rcases List.mem_append.mp hv with hv | hv
    · exact h.snoc_issued _ hv
    · obtain rfl := List.mem_singleton.mp hv
      obtain ⟨body, token, rfl, htoken, -, -, -, hsession⟩ := completeCallback_session hreply
      obtain ⟨draw, returnTo, hcalled, -⟩ := h.pending (id, p) (Dict.mem_of_get hp)
      exact .inr ⟨draw, returnTo, id, p.request.code, body, token, now, ⟨⟨es, [], rfl, hcalled⟩, htoken⟩, hsession⟩

theorem Record.idle (h : Record env key es s) (e : Event) : Record env key (es ++ [e]) s :=
  ⟨fun _ hv => h.snoc_issued e hv, fun _ hp => h.snoc_pending e hp⟩

theorem record_step (h : Record env key es s) (hgenuine : e.Genuine env key s) (hn : next env key s e = some t) :
    Record env key (es ++ [e]) t := by
  cases e with
  | login draw returnTo =>
    obtain rfl := Option.some.inj hn
    split
    · exact h.login draw returnTo
    · exact h.idle _
  | callback id cookie state code =>
    simp only [next] at hn
    split at hn
    · cases hn
    · cases hbegin : beginCallback env key cookie state code with
      | error reply =>
        rw [hbegin] at hn
        obtain rfl := Option.some.inj hn
        exact h.idle _
      | ok begun =>
        rw [hbegin] at hn
        obtain rfl := Option.some.inj hn
        exact h.callback hgenuine hbegin
  | answer id response now =>
    obtain ⟨p, hp, rfl⟩ := Option.map_eq_some_iff.mp hn
    exact h.settle hp

theorem reaches_record (h : (machine env key).Reaches es s)
    (ha : (machine env key).Along (fun s e => e.Genuine env key s) {} es) : Record env key es s := by
  refine h.history (H := fun es s =>
    (machine env key).Along (fun s e => e.Genuine env key s) {} es → Record env key es s) ?_ ?_ ha
  · intro _
    exact ⟨fun v hv => absurd hv List.not_mem_nil, fun p hp => absurd hp List.not_mem_nil⟩
  · intro es s e t hr ih hn ha
    obtain ⟨hbefore, hstep⟩ := Machine.along_append ha hr
    exact record_step (ih hbefore) hstep.1 hn

/-! ## A login that is followed through -/

theorem beginCallback_encryptCookie {k : List UInt8} {draw : Draw} {returnTo : Option String} {code : String}
    (henv : env.Lawful) (hcode : code ≠ "")
    (hjson : env.parse (env.stringify (oidcStateCookie draw (safeReturnTo returnTo))) =
      some (oidcStateCookie draw (safeReturnTo returnTo))) :
    beginCallback env (some k) (some (encryptCookie env k draw.iv (createLoginResponse env draw returnTo).2))
        (some draw.state) (some code) =
      .ok (oidcStateCookie draw (safeReturnTo returnTo), { code, codeVerifier := draw.codeVerifier }) :=
  beginCallback_ok.mpr ⟨decryptCookie_encryptCookie henv hjson, rfl, hcode, rfl, rfl⟩

/-- What the callback of a login needs once it has its token: claims to read, and a way back that is a URL. -/
def Completes (env : Env) (token returnTo : String) : Prop :=
  jwtPayload env token ≠ .null ∧ isLocation env (Url.resolve returnTo.toList) = true

section Token

variable {draw : Draw} {returnTo token : String} {body : PyVal} {completed : Int}

theorem completeCallback_body (htoken : property "access_token" body = some (.str token)) (hne : token ≠ "") :
    completeCallback env completed (oidcStateCookie draw returnTo) (.json (some body)) =
      match jwtPayload env token with
      | .null => .thrown
      | claims =>
        if isLocation env (Url.resolve returnTo.toList) then
          .session (Url.resolve returnTo.toList)
            (opsSession env token claims (expiresAt env completed (property "expires_in" body)))
        else .thrown := by
  have htruthy : truthy (property "access_token" body) = true := by
    rw [htoken]
    simpa [truthy, PyVal.truthy] using hne
  have hbody : body ≠ .null := by
    rintro rfl
    cases htoken
  unfold completeCallback
  split
  · rename_i hjson
    cases hjson
  · rename_i hjson
    cases hjson
  · rename_i hjson
    cases hjson
    exact absurd rfl hbody
  · rename_i hjson
    cases hjson
  · rename_i body' _ hjson
    obtain rfl := Option.some.inj (TokenResponse.json.inj hjson)
    rw [if_neg (by simp [htruthy]), htoken]
    rfl

theorem completeCallback_token (htoken : property "access_token" body = some (.str token)) (hne : token ≠ "")
    (h : Completes env token returnTo) :
    completeCallback env completed (oidcStateCookie draw returnTo) (.json (some body)) =
      .session (Url.resolve returnTo.toList) (sessionFrom env body token completed) := by
  rw [completeCallback_body htoken hne]
  split
  · rename_i hnull
    exact absurd hnull h.1
  · rw [if_pos h.2]
    rfl

theorem completeCallback_thrown (htoken : property "access_token" body = some (.str token)) (hne : token ≠ "")
    (h : ¬Completes env token returnTo) :
    completeCallback env completed (oidcStateCookie draw returnTo) (.json (some body)) = .thrown := by
  rw [completeCallback_body htoken hne]
  split
  · rfl
  · rename_i hclaims
    exact if_neg fun hlocation => h ⟨hclaims, hlocation⟩

end Token

/-- The callback of a login. -/
def waiting (draw : Draw) (returnTo : Option String) (code : String) : Pending where
  expected := oidcStateCookie draw (safeReturnTo returnTo)
  request := { code := code, codeVerifier := draw.codeVerifier }

section Steps

variable {k : List UInt8} {draw : Draw} {returnTo : Option String} {id : Nat} {code token : String} {body : PyVal}
  {completed : Int}

/-- A login and its callback, in any world. -/
theorem leads_callback (henv : env.Lawful) (hcode : code ≠ "") (hid : Dict.get s.pending id = none)
    (hjson : env.parse (env.stringify (oidcStateCookie draw (safeReturnTo returnTo))) =
      some (oidcStateCookie draw (safeReturnTo returnTo))) :
    (machine env (some k)).Leads s
      [.login draw returnTo,
        .callback id (some (encryptCookie env k draw.iv (createLoginResponse env draw returnTo).2)) (some draw.state)
          (some code)]
      { issued := s.issued ++ [oidcStateCookie draw (safeReturnTo returnTo)]
        pending := s.pending ++ [(id, waiting draw returnTo code)] } := by
  refine Machine.leads_cons.mpr ⟨{ s with issued := s.issued ++ [oidcStateCookie draw (safeReturnTo returnTo)] }, rfl,
    Machine.leads_cons.mpr ⟨_, ?_, rfl⟩⟩
  simp only [machine, next]
  rw [hid, beginCallback_encryptCookie henv hcode hjson]
  rfl

theorem get_waiting (hid : Dict.get s.pending id = none) :
    Dict.get (s.pending ++ [(id, waiting draw returnTo code)]) id = some (waiting draw returnTo code) := by
  rw [← Dict.set_of_none hid, Dict.get_set, if_pos rfl]

/-- The three steps of a login, in any world. -/
theorem leads_answer (henv : env.Lawful) (hcode : code ≠ "") (hid : Dict.get s.pending id = none)
    (hjson : env.parse (env.stringify (oidcStateCookie draw (safeReturnTo returnTo))) =
      some (oidcStateCookie draw (safeReturnTo returnTo))) (response : TokenResponse) :
    (machine env (some k)).Leads s
      [.login draw returnTo,
        .callback id (some (encryptCookie env k draw.iv (createLoginResponse env draw returnTo).2)) (some draw.state)
          (some code),
        .answer id response completed]
      (World.settle { issued := s.issued ++ [oidcStateCookie draw (safeReturnTo returnTo)]
                      pending := s.pending ++ [(id, waiting draw returnTo code)] } id
        (completeCallback env completed (oidcStateCookie draw (safeReturnTo returnTo)) response)) := by
  refine (leads_callback henv hcode hid hjson).trans (Machine.leads_cons.mpr ⟨_, ?_, rfl⟩)
  simp only [machine, next]
  rw [get_waiting hid]
  rfl

end Steps

/-- How long a session gives its token. -/
theorem authorizationHeader_iff {k iv : List UInt8} {token : String} {body : PyVal} {completed now : Int}
    (henv : env.Lawful) (hne : token ≠ "") (hnow : 0 ≤ now)
    (hjson : env.parse (env.stringify (sessionFrom env body token completed)) =
      some (sessionFrom env body token completed)) :
    authorizationHeaderFromSession env (some k) now
        (some (encryptCookie env k iv (sessionFrom env body token completed))) = some ("Bearer " ++ token) ↔
      ∃ seconds, lifetime env (property "expires_in" body) = some seconds ∧ (now : Rat) < completed + seconds := by
  have hopen : decryptCookie env (some k) (encryptCookie env k iv (sessionFrom env body token completed)) =
      some (sessionFrom env body token completed) := decryptCookie_encryptCookie henv hjson
  rw [← expired_iff hnow]
  constructor
  · intro hheader
    obtain ⟨session, hread, -⟩ := Option.map_eq_some_iff.mp hheader
    obtain ⟨hopen', -, -, hlive⟩ := readOpsSession_eq_some.mp hread
    obtain rfl := Option.some.inj (hopen.symm.trans hopen')
    rwa [sessionFrom, property_expiresAt] at hlive
  · intro hlive
    have htruthy : truthy (property "accessToken" (sessionFrom env body token completed)) = true := by
      rw [sessionFrom, property_accessToken]
      simpa [truthy, PyVal.truthy] using hne
    rw [← property_expiresAt, ← sessionFrom] at hlive
    have hread : readOpsSession env (some k) now
        (some (encryptCookie env k iv (sessionFrom env body token completed))) =
          some (sessionFrom env body token completed) :=
      readOpsSession_eq_some.mpr ⟨hopen, rfl, htruthy, hlive⟩
    rw [authorizationHeaderFromSession, hread, Option.map_some, sessionFrom, property_accessToken]
    rfl

/-! ## A console -/

def consoleKey : List UInt8 := Base64.decode Base64.urlSafe "wDPcJ86rt9Vf_uzOxeEJYs3D_U3HnOT0mm2EgQTKZS8".toList

def consoleDraw : Draw where
  iv := [1, 2, 3, 4, 5, 6, 7, 8, 9, 10, 11, 12]
  state := "s1"
  nonce := "n1"
  codeVerifier := "v1"

def consoleIv : List UInt8 := [21, 22, 23, 24, 25, 26, 27, 28, 29, 30, 31, 32]

def stateText : List UInt8 :=
  "\x7b\"state\":\"s1\",\"nonce\":\"n1\",\"codeVerifier\":\"v1\",\"returnTo\":\"/\"\x7d".toUTF8.toList

def sessionText : List UInt8 := "\x7b\"accessToken\":\"t1\",\"expiresAt\":1300\x7d".toUTF8.toList

def consoleSession : PyVal := .dict [("accessToken", .str "t1"), ("expiresAt", .float (.finite "1300" 1300))]

/-- The two texts under the key. -/
def stateBox : List UInt8 × List UInt8 :=
  (Base64.decode Base64.urlSafe "dyNWsF3t1r1vi0PqHRBaog".toList,
    Base64.decode Base64.urlSafe
      "tRp9CR-TEgZ4-lvEDV6uvZHos-w-c-gAGqS8vfycHpXKfG1ErvAuEceTYa326jeBEmL26_SsrhmjUSOvWZw".toList)

def sessionBox : List UInt8 × List UInt8 :=
  (Base64.decode Base64.urlSafe "ZoPBv_UyIDXSPOnDmsjoyg".toList,
    Base64.decode Base64.urlSafe "rp71qyt8TlfzuOgPO0XLDaTJLi974s2KK5EwlXZe4ARJqsHTPA".toList)

/-- AES-GCM on the two texts; anything else is left open, without a tag. -/
def consoleGcm (key iv plaintext : List UInt8) : List UInt8 × List UInt8 :=
  if key = consoleKey ∧ iv = consoleDraw.iv ∧ plaintext = stateText then stateBox
  else if key = consoleKey ∧ iv = consoleIv ∧ plaintext = sessionText then sessionBox
  else ([], plaintext)

def consoleGcmOpen (key iv tag ciphertext : List UInt8) : Option (List UInt8) :=
  if key = consoleKey ∧ iv = consoleDraw.iv ∧ (tag, ciphertext) = stateBox then some stateText
  else if key = consoleKey ∧ iv = consoleIv ∧ (tag, ciphertext) = sessionBox then some sessionText
  else if tag = [] then some ciphertext else none

def consoleEnv : Env where
  stringify v := if (property "state" v).isSome then stateText else sessionText
  parse bytes :=
    if bytes = stateText then some (oidcStateCookie consoleDraw "/")
    else if bytes = sessionText then some consoleSession else none
  fromBase64 := Base64.decode Base64.urlSafe
  gcm := consoleGcm
  gcmOpen := consoleGcmOpen
  sha256 := fun _ => []
  hexdigest := jorgSha256
  numberText := fun q => toString q.num
  stringNumber := fun _ => .nan
  containerNumber := fun _ => .nan
  text := fun _ => ""
  hostValid := fun _ => false

theorem stateBox_tag : stateBox.1 ≠ [] := by decide +kernel

theorem sessionBox_tag : sessionBox.1 ≠ [] := by decide +kernel

theorem consoleEnv_lawful : consoleEnv.Lawful where
  fromBase64_encode := Base64.decode_encode
  gcmOpen_gcm key iv plaintext := by
    have hiv : consoleIv ≠ consoleDraw.iv := by decide
    show consoleGcmOpen key iv (consoleGcm key iv plaintext).1 (consoleGcm key iv plaintext).2 = some plaintext
    unfold consoleGcm
    split
    · rename_i hstate
      obtain ⟨rfl, rfl, rfl⟩ := hstate
      exact if_pos ⟨rfl, rfl, rfl⟩
    · split
      · rename_i hsession
        obtain ⟨rfl, rfl, rfl⟩ := hsession
        rw [consoleGcmOpen, if_neg fun h => hiv h.2.1, if_pos ⟨rfl, rfl, rfl⟩]
      · rw [consoleGcmOpen, if_neg fun h => stateBox_tag (Prod.mk.inj h.2.2).1.symm,
          if_neg fun h => sessionBox_tag (Prod.mk.inj h.2.2).1.symm, if_pos rfl]

def consoleBody : PyVal := .dict [("access_token", .str "t1"), ("expires_in", .int 300)]

theorem console_lifetime : lifetime consoleEnv (property "expires_in" consoleBody) = some 300 := by decide +kernel

theorem consoleSession_eq : sessionFrom consoleEnv consoleBody "t1" 1000 = consoleSession := by
  have hend : (((1000 : Int) : Rat) + 300) = 1300 := by decide +kernel
  rw [sessionFrom, expiresAt, console_lifetime]
  dsimp only
  rw [hend]
  rfl

theorem console_json :
    ∀ v ∈ [oidcStateCookie consoleDraw (safeReturnTo none), sessionFrom consoleEnv consoleBody "t1" 1000],
      consoleEnv.parse (consoleEnv.stringify v) = some v := by
  have hne : sessionText ≠ stateText := by decide +kernel
  intro v hv
  simp only [List.mem_cons, List.not_mem_nil, or_false] at hv
  rcases hv with rfl | rfl
  · exact if_pos rfl
  · rw [consoleSession_eq]
    exact (if_neg hne).trans (if_pos rfl)

/-- **Where a session comes from.** Whatever happens in whatever order, a request that goes on with a bearer token
shows a session of this console: one that a callback has sealed after a login with the same state, when the issuer
answered the code and the verifier of this login with the token; and the session has not ended. -/
theorem session_provenance (env : Env) (key : Option (List UInt8)) (es : List Event) (s : World)
    (h : (machine env key).Reaches es s) (ha : (machine env key).Along (fun s e => e.Genuine env key s) {} es)
    (cookie : Option String) (hcookie : Genuine env key s cookie) (now : Int) (hnow : 0 ≤ now) (header : String)
    (hheader : authorizationHeaderFromSession env key now cookie = some header) :
    ∃ draw returnTo id code body token completed seconds,
      Granted env key es draw returnTo id code body token completed ∧ header = "Bearer " ++ token ∧
        readOpsSession env key now cookie = some (sessionFrom env body token completed) ∧
          lifetime env (property "expires_in" body) = some seconds ∧ (now : Rat) < completed + seconds := by
  obtain ⟨session, hread, rfl⟩ := Option.map_eq_some_iff.mp hheader
  obtain ⟨hopen, -, htoken, hlive⟩ := readOpsSession_eq_some.mp hread
  rcases (reaches_record h ha).issued session (hcookie.decryptCookie hopen) with
    ⟨draw, returnTo, -, rfl⟩ | ⟨draw, returnTo, id, code, body, token, completed, hgranted, rfl⟩
  · rw [property_accessToken_state] at htoken
    cases htoken
  · rw [sessionFrom, property_expiresAt] at hlive
    obtain ⟨seconds, hseconds, hlt⟩ := (expired_iff hnow).mp hlive
    exact ⟨draw, returnTo, id, code, body, token, completed, seconds, hgranted, rfl, hread, hseconds, hlt⟩

theorem console_claims : jwtPayload consoleEnv "t1" ≠ .null := by
  have hclaims : jwtPayload consoleEnv "t1" = .dict [] := rfl
  rw [hclaims]
  simp

/-- The cookie of the login. -/
def stateCookie : String :=
  encryptCookie consoleEnv consoleKey consoleDraw.iv (createLoginResponse consoleEnv consoleDraw none).2

/-- The cookie of the session. -/
def sessionCookie : String :=
  encryptCookie consoleEnv consoleKey consoleIv (sessionFrom consoleEnv consoleBody "t1" 1000)

def consoleEvents : List Event :=
  [.login consoleDraw none, .callback 7 (some stateCookie) (some "s1") (some "c1"),
    .answer 7 (.json (some consoleBody)) 1000]

theorem console_genuine :
    (machine consoleEnv (some consoleKey)).Along (fun s e => e.Genuine consoleEnv (some consoleKey) s) {}
      consoleEvents := by
  refine ⟨trivial, fun s hs => ⟨?_, fun t _ => ⟨trivial, fun u _ => trivial⟩⟩⟩
  obtain rfl := Option.some.inj hs
  exact genuine_encryptCookie consoleEnv_lawful (console_json _ List.mem_cons_self) List.mem_cons_self

theorem console_run : (machine consoleEnv (some consoleKey)).Reaches consoleEvents
    { issued := [oidcStateCookie consoleDraw (safeReturnTo none), sessionFrom consoleEnv consoleBody "t1" 1000] } := by
  have hanswer : completeCallback consoleEnv 1000 (oidcStateCookie consoleDraw (safeReturnTo none))
      (.json (some consoleBody)) = .session (Url.resolve (safeReturnTo none).toList)
        (sessionFrom consoleEnv consoleBody "t1" 1000) :=
    completeCallback_token rfl (by decide) ⟨console_claims, by decide⟩
  have hleads := @leads_answer consoleEnv {} consoleKey consoleDraw none 7 "c1" 1000 consoleEnv_lawful (by decide) rfl
    (console_json _ List.mem_cons_self) (.json (some consoleBody))
  rw [hanswer] at hleads
  exact hleads

theorem session_provenance_console :
    ∃ draw returnTo id code body token completed seconds,
      Granted consoleEnv (some consoleKey) consoleEvents draw returnTo id code body token completed ∧
        "Bearer t1" = "Bearer " ++ token ∧
        readOpsSession consoleEnv (some consoleKey) 1200 (some sessionCookie) =
          some (sessionFrom consoleEnv body token completed) ∧
        lifetime consoleEnv (property "expires_in" body) = some seconds ∧
          (((1200 : Int) : Rat) < (completed : Rat) + seconds) := by
  have hjson := console_json _ (List.mem_cons_of_mem _ List.mem_cons_self)
  have hlive : ((1200 : Int) : Rat) < ((1000 : Int) : Rat) + 300 := by decide +kernel
  exact session_provenance consoleEnv (some consoleKey) consoleEvents _ console_run console_genuine (some sessionCookie)
    (genuine_encryptCookie consoleEnv_lawful hjson (List.mem_cons_of_mem _ List.mem_cons_self)) 1200 (by decide)
    "Bearer t1" ((authorizationHeader_iff consoleEnv_lawful (by decide) (by decide) hjson).mpr ⟨300, console_lifetime, hlive⟩)

/-! ## The way back -/

theorem safeReturnTo_ofList {s : List Char} (h : s.head? ≠ some '/') :
    safeReturnTo (some (String.ofList ('/' :: s))) = String.ofList ('/' :: s) := by
  have hne : String.ofList ('/' :: s) ≠ "" := by
    intro hempty
    simpa using congrArg String.toList hempty
  have htwo : "//".toList.isPrefixOf ('/' :: s) = false := by
    cases s with
    | nil => rfl
    | cons c s =>
      have hc : c ≠ '/' := fun hc => h (by rw [hc]; rfl)
      simpa [List.isPrefixOf] using hc.symm
  have hone : "/".toList.isPrefixOf ('/' :: s) = true := rfl
  simp only [safeReturnTo, String.toList_ofList, hone, htwo, decide_eq_false hne, Bool.not_true, Bool.or_false,
    Bool.false_eq_true, if_false]

theorem safeReturnTo_cases (value : Option String) : safeReturnTo value = "/" ∨
    ∃ s, value = some (String.ofList ('/' :: s)) ∧ s.head? ≠ some '/' ∧ safeReturnTo value = String.ofList ('/' :: s) := by
  cases value with
  | none => exact .inl rfl
  | some value =>
    unfold safeReturnTo
    dsimp only
    split
    · exact .inl rfl
    · rename_i hgood
      simp only [Bool.or_eq_true, decide_eq_true_eq, Bool.not_eq_true', not_or, Bool.not_eq_false,
        Bool.not_eq_true] at hgood
      obtain ⟨⟨-, hone⟩, htwo⟩ := hgood
      obtain ⟨s, hs⟩ := List.isPrefixOf_iff_prefix.mp hone
      have hvalue : value = String.ofList ('/' :: s) := String.toList_inj.mp (by rw [String.toList_ofList, ← hs]; rfl)
      refine .inr ⟨s, congrArg some hvalue, ?_, hvalue⟩
      intro hhead
      obtain ⟨t, rfl⟩ := List.head?_eq_some_iff.mp hhead
      rw [hvalue, String.toList_ofList] at htwo
      exact absurd htwo (by simp [List.isPrefixOf])

/-- A way back that leaves the console: a backslash, or after tabs or line ends a slash of either kind. -/
def LeavesConsole (returnTo : Option String) : Prop :=
  ∃ gap c rest, returnTo = some (String.ofList ('/' :: (gap ++ c :: rest))) ∧
    (∀ g ∈ gap, Url.isTabOrNewline g = true) ∧ Url.isSlash c = true ∧ (gap = [] → c = '\\')

theorem leavesConsole_iff (returnTo : Option String) :
    (∃ rest, Url.resolve (safeReturnTo returnTo).toList = .authority rest) ↔ LeavesConsole returnTo := by
  rcases safeReturnTo_cases returnTo with hhome | ⟨s, rfl, hhead, hsafe⟩
  · have hpath : Url.resolve "/".toList = .path [[]] [] := by decide
    rw [hhome, hpath]
    refine iff_of_false (by simp) ?_
    rintro ⟨gap, c, rest, rfl, hgap, hslash, hfirst⟩
    have hhead : (gap ++ c :: rest).head? ≠ some '/' := by
      cases gap with
      | nil => simp [hfirst rfl]
      | cons g gap =>
        have hg := hgap g List.mem_cons_self
        intro heq
        simp only [List.cons_append, List.head?_cons, Option.some.injEq] at heq
        rw [heq] at hg
        cases hg
    rw [safeReturnTo_ofList hhead] at hhome
    have hlist := congrArg String.toList hhome
    rw [String.toList_ofList] at hlist
    cases gap <;> cases hlist
  · rw [hsafe, String.toList_ofList, Url.leaves_iff]
    constructor
    · rintro ⟨gap, c, rest, rfl, hgap, hslash⟩
      refine ⟨gap, c, rest, rfl, hgap, hslash, ?_⟩
      rintro rfl
      simp only [Url.isSlash, Bool.or_eq_true, decide_eq_true_eq] at hslash
      exact hslash.resolve_left fun hc => hhead (by rw [hc]; rfl)
    · rintro ⟨gap, c, rest, heq, hgap, hslash, -⟩
      refine ⟨gap, c, rest, ?_, hgap, hslash⟩
      have hlist := congrArg String.toList (Option.some.inj heq)
      rw [String.toList_ofList, String.toList_ofList] at hlist
      exact (List.cons.inj hlist).2

/-- It is never read relative to the path of the console. -/
theorem resolve_safeReturnTo_ne (returnTo : Option String) : Url.resolve (safeReturnTo returnTo).toList ≠ .relative := by
  have hrooted : ∃ s, (safeReturnTo returnTo).toList = '/' :: s := by
    rcases safeReturnTo_cases returnTo with hhome | ⟨s, -, -, hsafe⟩
    · exact ⟨[], by rw [hhome]; rfl⟩
    · exact ⟨s, by rw [hsafe, String.toList_ofList]⟩
  obtain ⟨s, hs⟩ := hrooted
  rw [hs, Url.resolve, Url.tidy_cons (by decide), Url.resolveTidy, if_pos (by decide)]
  split <;> simp

/-- Any way back that does not leave the console is a URL. -/
theorem isLocation_of_home {returnTo : Option String} (h : ¬LeavesConsole returnTo) :
    isLocation env (Url.resolve (safeReturnTo returnTo).toList) = true := by
  cases hresolve : Url.resolve (safeReturnTo returnTo).toList with
  | authority rest => exact absurd ((leavesConsole_iff returnTo).mp ⟨rest, hresolve⟩) h
  | relative | path => rfl

/-- **A login that is followed through**, whatever else has happened. The callback with the state of the login and the
cookie that the login has set asks for a token with the verifier of the login. The token makes a session exactly when it
has claims to read and the way back is a URL, which any way back is that stays on the console; the cookie with the
session gives the requests the token until the lifetime is over. -/
theorem session_completes (env : Env) (henv : env.Lawful) (k iv : List UInt8) (s : World) (draw : Draw)
    (returnTo : Option String) (id : Nat) (code token : String) (body : PyVal) (completed now : Int) (hcode : code ≠ "")
    (hne : token ≠ "") (hnow : 0 ≤ now) (hid : Dict.get s.pending id = none)
    (htoken : property "access_token" body = some (.str token))
    (hjson : ∀ v ∈ [oidcStateCookie draw (safeReturnTo returnTo), sessionFrom env body token completed],
      env.parse (env.stringify v) = some v) :
    ∃ cookie expected t, cookie = encryptCookie env k draw.iv (createLoginResponse env draw returnTo).2 ∧
      beginCallback env (some k) (some cookie) (some draw.state) (some code) =
        .ok (expected, { code, codeVerifier := draw.codeVerifier }) ∧
      (machine env (some k)).Leads s
        [.login draw returnTo, .callback id (some cookie) (some draw.state) (some code),
          .answer id (.json (some body)) completed] t ∧
      (Completes env token (safeReturnTo returnTo) → t.issued =
        s.issued ++ [oidcStateCookie draw (safeReturnTo returnTo), sessionFrom env body token completed]) ∧
      (¬Completes env token (safeReturnTo returnTo) →
        t.issued = s.issued ++ [oidcStateCookie draw (safeReturnTo returnTo)]) ∧
      (¬LeavesConsole returnTo → jwtPayload env token ≠ .null → Completes env token (safeReturnTo returnTo)) ∧
      (authorizationHeaderFromSession env (some k) now
          (some (encryptCookie env k iv (sessionFrom env body token completed))) = some ("Bearer " ++ token) ↔
        ∃ seconds, lifetime env (property "expires_in" body) = some seconds ∧ (now : Rat) < completed + seconds) := by
  obtain ⟨hstate, hrest⟩ := List.forall_mem_cons.mp hjson
  obtain ⟨hsession, -⟩ := List.forall_mem_cons.mp hrest
  refine ⟨_, _, _, rfl, beginCallback_encryptCookie henv hcode hstate,
    leads_answer henv hcode hid hstate (.json (some body)), fun h => ?_, fun h => ?_,
    fun hhome hclaims => ⟨hclaims, isLocation_of_home hhome⟩, authorizationHeader_iff henv hne hnow hsession⟩
  · rw [completeCallback_token htoken hne h, World.settle, List.append_assoc]
    rfl
  · rw [completeCallback_thrown htoken hne h]
    rfl

theorem session_completes_console :
    (∃ cookie t, (machine consoleEnv (some consoleKey)).Leads {}
        [.login consoleDraw none, .callback 7 (some cookie) (some "s1") (some "c1"),
          .answer 7 (.json (some consoleBody)) 1000] t ∧ consoleSession ∈ t.issued) ∧
      authorizationHeaderFromSession consoleEnv (some consoleKey) 1200 (some sessionCookie) = some "Bearer t1" ∧
      authorizationHeaderFromSession consoleEnv (some consoleKey) 1300 (some sessionCookie) ≠ some "Bearer t1" := by
  have hcompletes := fun now hnow => session_completes consoleEnv consoleEnv_lawful consoleKey consoleIv {} consoleDraw
    none 7 "c1" "t1" consoleBody 1000 now (by decide) (by decide) hnow rfl rfl console_json
  obtain ⟨cookie, _, t, -, -, hleads, hissued, -, hhome, hbefore⟩ := hcompletes 1200 (by decide)
  obtain ⟨_, _, _, -, -, -, -, -, -, hafter⟩ := hcompletes 1300 (by decide)
  have hstays : ¬LeavesConsole none := by
    rintro ⟨_, _, _, heq, -⟩
    cases heq
  refine ⟨⟨cookie, t, hleads, ?_⟩, hbefore.mpr ⟨300, console_lifetime, by decide +kernel⟩, fun heq => ?_⟩
  · rw [hissued (hhome hstays console_claims), consoleSession_eq]
    exact List.mem_cons_of_mem _ List.mem_cons_self
  · obtain ⟨seconds, hseconds, hlt⟩ := hafter.mp heq
    obtain rfl := Option.some.inj (console_lifetime.symm.trans hseconds)
    exact absurd hlt (by decide +kernel)

/-- **When a callback leads back to the console.** A callback that has sealed a session leads where a login was asked to
lead, and that is on the console's own origin exactly when the text is not one of a slash and a backslash, or of a slash,
tabs or line ends, and a second slash. -/
theorem returns_home_iff (env : Env) (key : Option (List UInt8)) (es : List Event) (s : World)
    (h : (machine env key).Reaches es s) (ha : (machine env key).Along (fun s e => e.Genuine env key s) {} es)
    (id : Nat) (p : Pending) (hp : Dict.get s.pending id = some p) (response : TokenResponse) (now : Int)
    (location : Url.Target) (session : PyVal)
    (hreply : completeCallback env now p.expected response = .session location session) :
    ∃ draw returnTo, .login draw returnTo ∈ es ∧ location = Url.resolve (safeReturnTo returnTo).toList ∧
      ((∃ segments rest, location = .path segments rest) ↔ ¬LeavesConsole returnTo) := by
  obtain ⟨draw, returnTo, ⟨cookie, state, hsublist, -⟩, hexpected⟩ :=
    (reaches_record h ha).pending (id, p) (Dict.mem_of_get hp)
  obtain ⟨_, _, -, -, -, -, hlocation, -⟩ := completeCallback_session hreply
  rw [hexpected] at hlocation
  have hsame : location = Url.resolve (safeReturnTo returnTo).toList := hlocation
  refine ⟨draw, returnTo, hsublist.subset List.mem_cons_self, hsame, ?_⟩
  rw [← leavesConsole_iff, ← hsame]
  cases location with
  | relative => exact absurd hsame.symm (resolve_safeReturnTo_ne returnTo)
  | authority rest => simp
  | path segments rest => simp

/-- A login that asks to be led to another host, past `safeReturnTo`. -/
def awayDraw : Draw where
  iv := [31, 32, 33, 34, 35, 36, 37, 38, 39, 40, 41, 42]
  state := "s2"
  nonce := "n2"
  codeVerifier := "v2"

def awayText : List UInt8 :=
  "\x7b\"state\":\"s2\",\"nonce\":\"n2\",\"codeVerifier\":\"v2\",\"returnTo\":\"/\\\\evil.example\"\x7d".toUTF8.toList

def awayBox : List UInt8 × List UInt8 :=
  (Base64.decode Base64.urlSafe "hWCfJ9EZGUCuy7I2kfdKPQ".toList,
    Base64.decode Base64.urlSafe
      ("ZfXDDILDE8VumoIZqfsfYnz4rrUPUrWDhPUnRI5dtEcWK9XQ4DF1wwsfPD4ZhLQfTSV0nm-b0qjq5BUh7DosBDB5-p01RERO8SR" ++
        "ZzQ").toList)

def awayEnv : Env :=
  { consoleEnv with
    stringify := fun v =>
      if (property "state" v).bind PyVal.asStr = some "s2" then awayText else consoleEnv.stringify v
    parse := fun bytes =>
      if bytes = awayText then some (oidcStateCookie awayDraw "/\\evil.example") else consoleEnv.parse bytes
    gcm := fun key iv plaintext =>
      if key = consoleKey ∧ iv = awayDraw.iv ∧ plaintext = awayText then awayBox else consoleGcm key iv plaintext
    gcmOpen := fun key iv tag ciphertext =>
      if key = consoleKey ∧ iv = awayDraw.iv ∧ (tag, ciphertext) = awayBox then some awayText
      else consoleGcmOpen key iv tag ciphertext
    hostValid := fun rest => rest = "evil.example".toList }

theorem awayEnv_lawful : awayEnv.Lawful where
  fromBase64_encode := Base64.decode_encode
  gcmOpen_gcm key iv plaintext := by
    have htag : awayBox.1 ≠ [] := by decide +kernel
    have hothers : awayDraw.iv ≠ consoleDraw.iv ∧ awayDraw.iv ≠ consoleIv := by decide
    simp only [awayEnv]
    split
    · rename_i haway
      obtain ⟨rfl, rfl, rfl⟩ := haway
      exact if_pos ⟨rfl, rfl, rfl⟩
    · refine (if_neg ?_).trans (consoleEnv_lawful.gcmOpen_gcm key iv plaintext)
      rintro ⟨-, rfl, hbox⟩
      have hopen : consoleGcm key awayDraw.iv plaintext = ([], plaintext) := by
        rw [consoleGcm, if_neg fun h => hothers.1 h.2.1, if_neg fun h => hothers.2 h.2.1]
      rw [hopen] at hbox
      exact htag (congrArg Prod.fst hbox).symm

theorem away_json :
    awayEnv.parse (awayEnv.stringify (oidcStateCookie awayDraw (safeReturnTo (some "/\\evil.example")))) =
      some (oidcStateCookie awayDraw (safeReturnTo (some "/\\evil.example"))) := by
  have hsafe : safeReturnTo (some "/\\evil.example") = "/\\evil.example" := by decide
  rw [hsafe]
  exact if_pos rfl

def awayEvents : List Event :=
  [.login awayDraw (some "/\\evil.example"),
    .callback 7 (some (encryptCookie awayEnv consoleKey awayDraw.iv
      (createLoginResponse awayEnv awayDraw (some "/\\evil.example")).2)) (some "s2") (some "c1")]

/-- One login leads to the front page, the other one to another host. -/
theorem returns_home_console :
    (∃ draw returnTo, .login draw returnTo ∈ consoleEvents.take 2 ∧
      Url.resolve "/".toList = Url.resolve (safeReturnTo returnTo).toList ∧
        ((∃ segments rest, Url.resolve "/".toList = .path segments rest) ↔ ¬LeavesConsole returnTo)) ∧
      ∃ draw returnTo, .login draw returnTo ∈ awayEvents ∧
        .authority "evil.example".toList = Url.resolve (safeReturnTo returnTo).toList ∧
          ((∃ segments rest, Url.Target.authority "evil.example".toList = .path segments rest) ↔
            ¬LeavesConsole returnTo) := by
  constructor
  · have hlocation : isLocation consoleEnv (Url.resolve "/".toList) = true := by decide
    have hrun : (machine consoleEnv (some consoleKey)).Reaches (consoleEvents.take 2)
        { issued := [oidcStateCookie consoleDraw (safeReturnTo none)], pending := [(7, waiting consoleDraw none "c1")] } :=
      leads_callback consoleEnv_lawful (by decide) rfl (console_json _ List.mem_cons_self)
    have hsplit : consoleEvents = consoleEvents.take 2 ++ consoleEvents.drop 2 := rfl
    have hgenuine := console_genuine
    rw [hsplit] at hgenuine
    exact returns_home_iff consoleEnv (some consoleKey) (consoleEvents.take 2) _ hrun
      (Machine.along_append hgenuine hrun).1 7 (waiting consoleDraw none "c1") rfl (.json (some consoleBody)) 1000 _ _
      (completeCallback_token rfl (by decide) ⟨console_claims, hlocation⟩)
  · have haway : Url.resolve (safeReturnTo (some "/\\evil.example")).toList = .authority "evil.example".toList := by
      decide
    have hclaims : jwtPayload awayEnv "t1" ≠ .null := by
      have hempty : jwtPayload awayEnv "t1" = .dict [] := rfl
      rw [hempty]
      simp
    have hlocation : isLocation awayEnv (Url.resolve (safeReturnTo (some "/\\evil.example")).toList) = true := by
      rw [haway]
      exact decide_eq_true (rfl : "evil.example".toList = "evil.example".toList)
    have hreply : completeCallback awayEnv 1000 (oidcStateCookie awayDraw (safeReturnTo (some "/\\evil.example")))
        (.json (some consoleBody)) = .session (.authority "evil.example".toList) _ :=
      haway ▸ completeCallback_token rfl (by decide) ⟨hclaims, hlocation⟩
    have hrun : (machine awayEnv (some consoleKey)).Reaches awayEvents
        { issued := [oidcStateCookie awayDraw (safeReturnTo (some "/\\evil.example"))]
          pending := [(7, waiting awayDraw (some "/\\evil.example") "c1")] } :=
      leads_callback awayEnv_lawful (by decide) rfl away_json
    have hgenuine : (machine awayEnv (some consoleKey)).Along
        (fun s e => e.Genuine awayEnv (some consoleKey) s) {} awayEvents := by
      refine ⟨trivial, fun s hs => ⟨?_, fun t _ => trivial⟩⟩
      obtain rfl := Option.some.inj hs
      exact genuine_encryptCookie awayEnv_lawful away_json List.mem_cons_self
    exact returns_home_iff awayEnv (some consoleKey) awayEvents _ hrun hgenuine 7
      (waiting awayDraw (some "/\\evil.example") "c1") rfl (.json (some consoleBody)) 1000 _ _ hreply

end HostedFacilitator.Console
