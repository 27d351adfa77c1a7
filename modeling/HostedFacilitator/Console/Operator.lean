import HostedFacilitator.Console.Login
import HostedFacilitator.Operations.Mediation

/-!
# The operator of a session

The console reads its token for the page: who is signed in, and which leases are theirs. The control plane reads the
token again in every request, and the store writes the owner of a lease. Both are readers of the same three segments
(`jwtPayload_compact`, `issued_of_compact`), so they see the same operator.

* `session_recognises_lease`: after a claim, the row has the owner that the console takes for its own.
-/

namespace HostedFacilitator.Console

open Auth (Jwt Current Compact compactToken issuedJwt optionalStrClaim)
open ControlPlane (isLocalOperator operatorCall)
open Operations (Flight Plane)
open Postgres

/-- Both read the same JSON object in a payload of the issuer, and use the same digest. -/
structure SameReading (console : Env) (plane : ControlPlane.Env) (header payload : List UInt8) (h p : PyDict) : Prop where
  digest : console.hexdigest = plane.sha256
  fromBase64 : ∀ bytes, console.fromBase64 (Base64.encode Base64.urlSafe bytes) = bytes
  loads_header : plane.auth.loads header = some (.dict h)
  loads_payload : plane.auth.loads payload = some (.dict p)
  parse : console.parse payload = some (.dict p)
  ne_nil : payload ≠ []

section Reading

variable {console : Env} {plane : ControlPlane.Env} {header payload signature : List UInt8} {h p : PyDict} {name : String}

theorem encode_ne_nil (hfrom : ∀ bytes, console.fromBase64 (Base64.encode Base64.urlSafe bytes) = bytes)
    (hne : payload ≠ []) : Base64.encode Base64.urlSafe payload ≠ [] := by
  intro hempty
  have hnil := hfrom []
  have hpayload := hfrom payload
  rw [hempty] at hpayload
  exact hne (hpayload.symm.trans hnil)

/-- The console finds the payload. -/
theorem jwtPayload_compact (hr : SameReading console plane header payload h p) :
    jwtPayload console (compactToken header payload signature) = .dict p := by
  have hne := encode_ne_nil hr.fromBase64 hr.ne_nil
  unfold jwtPayload
  rw [compactToken, String.toList_ofList, Base64.splitOn_dotted]
  dsimp only
  rw [if_neg hne, hr.fromBase64, hr.parse]
  rfl

/-- The control plane finds the header and the payload. -/
theorem issued_of_compact (hr : SameReading console plane header payload h p) {jwt : Jwt}
    (hc : Compact plane.auth (compactToken header payload signature) jwt) : jwt.header = h ∧ jwt.payload = p := by
  obtain ⟨first, second, third, htoken, ⟨bytes, hbytes, hheader⟩, ⟨bytes', hbytes', hpayload⟩, -, -⟩ := hc.segments
  rw [compactToken, String.toList_ofList] at htoken
  obtain ⟨rfl, rfl, -⟩ := Base64.eq_of_dotted htoken
  obtain rfl := Except.ok.inj ((Auth.b64urlDecode_segmentOf header).symm.trans hbytes)
  obtain rfl := Except.ok.inj ((Auth.b64urlDecode_segmentOf payload).symm.trans hbytes')
  rw [hr.loads_header] at hheader
  rw [hr.loads_payload] at hpayload
  exact ⟨(PyVal.dict.inj (Option.some.inj hheader)).symm, (PyVal.dict.inj (Option.some.inj hpayload)).symm⟩

/-- The type is the only claim that the header may add. -/
theorem claims_get (jwt : Jwt) (hne : name ≠ "typ") : jwt.claims.get name = jwt.payload.get name := by
  unfold Jwt.claims
  split
  · split
    · rfl
    · rename_i typ _ _
      simp [PyDict.get, List.lookup_append, List.lookup_cons, beq_eq_false_iff_ne.mpr hne]
  · rfl

theorem stringOr_property : stringOr (property name (.dict p)) = (p.get name).asStr := by
  simp only [stringOr, property, PyDict.get]
  cases p.lookup name <;> rfl

/-- A claim that the control plane requires is one that the console shows. -/
theorem stringOr_claim {jwt : Jwt} {value : String} (hpayload : jwt.payload = p) (hne : name ≠ "typ")
    (hclaim : optionalStrClaim jwt.claims name = some value) :
    stringOr (property name (.dict p)) = some value ∧ value ≠ "" := by
  obtain ⟨hstr, hvalue⟩ := Option.filter_eq_some_iff.mp hclaim
  rw [claims_get jwt hne, hpayload] at hstr
  exact ⟨stringOr_property.trans hstr, by simpa using hvalue⟩

end Reading

/-! ## What the page shows -/

section Shown

variable {console : Env} {key : Option (List UInt8)} {now : Int} {cookie : Option String} {token : String}
  {claims expiry : PyVal} {subject issuer : String}

/-- A session with a subject and an issuer shows them, and the key of its leases. -/
theorem readPublicOpsSession_operator (hsession : readOpsSession console key now cookie =
      some (opsSession console token claims expiry)) (hsubject : stringOr (property "sub" claims) = some subject)
    (hne : subject ≠ "") (hissuer : stringOr (property "iss" claims) = some issuer) :
    ∃ email, readPublicOpsSession console key now cookie = .authenticated (some (.str subject)) (some (.str issuer))
      (some (.str (operatorLeaseOwner console.hexdigest subject issuer))) email (some expiry) := by
  have hfilter : (some subject).filter (fun s => decide (s ≠ "")) = some subject := by
    simpa [Option.filter_some] using hne
  have hopened : opsSession console token claims expiry =
      .dict ([("accessToken", .str token), ("expiresAt", expiry)] ++ entry "subject" (some subject) ++
        entry "issuer" (some issuer) ++ entry "operatorKey" (some (operatorLeaseOwner console.hexdigest subject issuer)) ++
        entry "email" (stringOr (property "email" claims))) := by
    simp only [opsSession, hsubject, hissuer, hfilter, Option.map_some, Option.getD_some]
  unfold readPublicOpsSession
  rw [hsession, hopened]
  exact ⟨_, rfl⟩

end Shown

/-! ## What a claim writes -/

section Claimed

variable {env : ControlPlane.Env} {hash : String → Int} {s t : Plane} {id : Nat} {flight : Flight}
  {draw : ControlPlane.ActDraw} {principal : Auth.Principal} {event : ReconciliationAuditEvent}

/-- A claim that is done has its row. -/
theorem performed_claim {db db' : Db} {c : Db.ControlAction} {now : Instant} {record : SettlementRecord}
    (h : Db.Performed db c now record event db') (haction : c.action = .claim) :
    db'.record event.target = some record ∧ record.reconciliationOwner = some c.owner := by
  obtain ⟨row, hrow, hrecord, -, hevent⟩ := h.row
  rw [Db.ControlAction.applied, haction] at hrecord
  have hkey : row.recordId = c.recordId := Table.row_key hrow
  have hid : record.recordId = c.recordId := by
    rw [hrecord]
    exact hkey
  refine ⟨?_, by rw [hrecord]; rfl⟩
  rw [hevent, Db.record, h.records]
  exact Table.row_update_self hrow hid

/-- An answer with an event is one about an action that was done. -/
theorem reconciled_reply {result : Except PyErr (SettlementRecord × ReconciliationAuditEvent)}
    (h : ControlPlane.reconcileReply draw result = .reconciled event) : ∃ record, result = .ok (record, event) := by
  unfold ControlPlane.reconcileReply at h
  have hrefused : ∀ e, ControlPlane.reconcileRefused e ≠ .reconciled event := by
    intro e he
    obtain ⟨_, _, hreply⟩ := Operations.reconcileRefused_isRefused e
    rw [hreply] at he
    cases he
  split at h
  · exact absurd h (hrefused _)
  · split at h
    · exact absurd h (hrefused _)
    · obtain rfl := ControlPlane.Reply.reconciled.inj h
      exact ⟨_, rfl⟩

theorem prepare_claim {u : Unicode} {sha256 : String → String} {fresh : Uuid} {call : OperatorCall}
    {c : Db.ControlAction} (hcall : call.action = "reconciliation_claim") (h : call.prepare u sha256 fresh = .ok c) :
    c.action = .claim := by
  have hsafe : safeReconciliationAction "reconciliation_claim" = .ok .claim := by decide
  unfold OperatorCall.prepare at h
  rw [hcall, hsafe] at h
  obtain rfl := Except.ok.inj h
  rfl

/-- A claim that is answered with its event has written the owner of its principal. -/
theorem reconcileRecord_claimed {request : ControlPlane.Request} {correlationId : String} {recordId : Int}
    {review : ControlPlane.ReconciliationRequest} {system : System} {done : ControlPlane.Reply × System}
    (hn : system.db.UniqueIds) (hlocal : isLocalOperator principal = false)
    (h : Operations.reconcileRecord env hash principal request correlationId .claim recordId review draw system =
      some done)
    (hdone : done.1 = .reconciled event) :
    ∃ row, done.2.db.record event.target = some row ∧ row.reconciliationOwner =
      some (reconciliationOwner env.rendering.unicode env.sha256 principal.subject principal.issuer) := by
  obtain ⟨system', hnext, rfl⟩ := Option.map_eq_some_iff.mp h
  simp only [Operator.next] at hnext
  split at hnext
  · rcases Db.controlAction_cases hn env.rendering.unicode env.sha256.hexdigest draw.fresh draw.faults
      (operatorCall env principal request correlationId .claim recordId review draw) draw.now with
      ⟨c, ⟨record, event'⟩, db', hprepare, hok, hcall⟩ | ⟨e, n, hcall⟩
    · rw [hcall] at hnext hdone
      obtain rfl := Option.some.inj hnext
      have hreply : ControlPlane.reconcileReply draw (.ok (record, event')) = .reconciled event := hdone
      obtain ⟨_, hresult⟩ := reconciled_reply hreply
      obtain ⟨rfl, rfl⟩ := Prod.mk.inj (Except.ok.inj hresult)
      have hfrom : ControlPlane.leaseOwnerFromPrincipalOrRequest env principal request =
          safeOperatorLeaseOwnerWith env.rendering.unicode env.sha256 principal.subject principal.issuer := by
        rw [ControlPlane.leaseOwnerFromPrincipalOrRequest, if_neg (by simp [hlocal])]
      have hcallOwner : (operatorCall env principal request correlationId .claim recordId review draw).owner =
          safeOperatorLeaseOwner env.rendering.unicode env.sha256.hexdigest
            (safeOperatorLeaseOwnerWith env.rendering.unicode env.sha256 principal.subject principal.issuer) := by
        simp only [operatorCall, hfrom]
      have howner := prepare_owner hcallOwner hprepare
      obtain ⟨hrow, hrowOwner⟩ := performed_claim (Db.Performed.of_ok hok) (prepare_claim rfl hprepare)
      exact ⟨_, hrow, hrowOwner.trans (congrArg some howner)⟩
    · rw [hcall] at hdone
      have hreply : ControlPlane.reconcileReply draw (.error e) = .reconciled event := hdone
      obtain ⟨_, hresult⟩ := reconciled_reply hreply
      cases hresult
  · cases hnext

/-- The same for a step of the control plane. -/
theorem act_claimed (hs : (Operations.machine env hash).Reachable s) (hflight : Dict.get s.flights id = some flight)
    (hstage : flight.stage = .authorizing (.granted principal)) (hlocal : isLocalOperator principal = false)
    {recordId : String} {review : Option ControlPlane.ReconciliationRequest}
    (hroute : flight.request.route = .reconcile .claim recordId review)
    (hact : Operations.next env hash s (.act id draw) = some t) {flight' : Flight}
    (hflight' : Dict.get t.flights id = some flight') (hdone : flight'.stage = .finished (.reconciled event)) :
    ∃ row, t.system.db.record event.target = some row ∧ row.reconciliationOwner =
      some (reconciliationOwner env.rendering.unicode env.sha256 principal.subject principal.issuer) := by
  have hn := Operations.reachable_uniqueIds hs
  cases Operations.next_step hact with
  | refuse hflight₀ hstage₀ =>
    obtain rfl := Option.some.inj (hflight.symm.trans hflight₀)
    rw [hstage] at hstage₀
    cases hstage₀
  | perform hflight₀ hstage₀ hperform =>
    obtain rfl := Option.some.inj (hflight.symm.trans hflight₀)
    rw [hstage] at hstage₀
    cases hstage₀
    simp only [Plane.move, Plane.put, Dict.get_set, if_true, Option.some.injEq] at hflight'
    obtain rfl := hflight'
    have hreply := Operations.Stage.finished.inj hdone
    unfold Operations.perform at hperform
    rw [hroute] at hperform
    obtain ⟨done', hreconcile, rfl⟩ := Option.map_eq_some_iff.mp hperform
    rcases Operations.reconcile_cases hreconcile with ⟨⟨_, _, hrefused⟩, -⟩ | ⟨_, _, hrecord⟩
    · rw [hrefused] at hreply
      cases hreply
    · exact reconcileRecord_claimed hn hlocal hrecord hreply

/-- The owner that is stored is the console's, for a name that is ASCII and has no spaces around it. -/
theorem reconciliationOwner_eq {u : Unicode} {sha256 : Sha256} {subject issuer : String} (hissuer : issuer ≠ "")
    (hne : subject ≠ "") (hascii : ∀ c ∈ leaseName u subject, isOwnerChar c = true) (hstrip : strip subject = subject) :
    reconciliationOwner u sha256 subject issuer = operatorLeaseOwner sha256 subject issuer := by
  have hsubject : leaseSubject subject = subject := by rw [leaseSubject, hstrip, orDefault, if_neg hne]
  have hname : leaseName u subject = consoleName subject := by
    have hconsole := leaseName_eq_consoleName (u := u) (s := subject)
    rw [hsubject] at hconsole
    exact hconsole hascii
  have hwith : safeOperatorLeaseOwnerWith u sha256 subject issuer =
      leaseKey (leaseName u subject) (sha256.digest issuer subject) := by
    rw [safeOperatorLeaseOwnerWith_eq, if_neg fun hkey => hissuer hkey.1, hsubject]
  have hdigest : (sha256.digest issuer subject).length = 24 := Sha256.length_digest
  have hagain := safeOperatorLeaseOwner_key sha256 (u := u) (keeps_leaseName (s := subject)) leaseName_ne length_leaseName
    (fun c hc => Sha256.mem_digest hc) hdigest
  rw [if_pos (List.all_eq_true.mpr hascii)] at hagain
  rw [reconciliationOwner, hwith, hagain, hagain, operatorLeaseOwner_eq, hname]

end Claimed

/-! ## Who was admitted -/

section Admitted

variable {console : Env} {env : ControlPlane.Env} {header payload signature : List UInt8} {h p : PyDict}
  {es : List Operations.Event} {id : Nat} {request : ControlPlane.Request} {principal : Auth.Principal}

/-- The claims of the principal are the ones that the console reads. -/
theorem admitted_claims (hreads : SameReading console env header payload h p)
    (hbearer : request.authorization = some ("Bearer " ++ compactToken header payload signature))
    (hadmitted : Operations.Admitted env es id request principal) :
    stringOr (property "sub" (.dict p)) = some principal.subject ∧ principal.subject ≠ "" ∧
      stringOr (property "iss" (.dict p)) = some principal.issuer ∧ principal.issuer ≠ "" ∧
      principal.issuer = env.config.issuer := by
  obtain ⟨_, _, _, at', _, jwks, -, -, ⟨⟨rest, hrest, hvouched⟩, hcurrent, hissuer⟩, -⟩ := hadmitted
  have htoken : strip rest = compactToken header payload signature := by
    have hsame := congrArg String.toList (Option.some.inj (hbearer.symm.trans hrest))
    rw [String.toList_append, String.toList_append] at hsame
    rw [← String.toList_inj.mp (List.append_cancel_left hsame)]
    exact Auth.strip_compact
  obtain ⟨jwt, _, _, hcompact, hclaims, -⟩ := hvouched
  rw [htoken] at hcompact
  obtain ⟨-, hpayload⟩ := issued_of_compact hreads hcompact
  rw [hclaims] at hcurrent
  obtain ⟨hsubject, hsubjectNe⟩ := stringOr_claim hpayload (by decide) hcurrent.subject
  obtain ⟨hiss, hissNe⟩ := stringOr_claim hpayload (by decide) hcurrent.issuer
  rw [hissuer]
  exact ⟨hsubject, hsubjectNe, hiss, hissNe, rfl⟩

end Admitted

/-- **The console recognises the leases of its operator.** A request goes on to the control plane with the token of a
session, whatever else happens there in whatever order; it is admitted and claims a settlement. Then the session shows
the subject and the issuer of the principal that the control plane has admitted, the row has this principal's owner, and
that is the key that the session shows, where the operator has an ASCII name without spaces around it. -/
theorem session_recognises_lease (console : Env) (env : ControlPlane.Env) (hash : String → Int)
    (header payload signature : List UInt8) (h p : PyDict) (hreads : SameReading console env header payload h p)
    (hissuer : env.config.issuer ≠ "local") (key : Option (List UInt8)) (now completed : Int) (cookie : Option String)
    (body : PyVal) (hsession : readOpsSession console key now cookie =
      some (sessionFrom console body (compactToken header payload signature) completed))
    (es : List Operations.Event) (s t : Plane) (hrun : (Operations.machine env hash).Reaches es s) (id : Nat)
    (flight flight' : Flight) (hflight : Dict.get s.flights id = some flight) (principal : Auth.Principal)
    (hstage : flight.stage = .authorizing (.granted principal))
    (hbearer : flight.request.authorization = authorizationHeaderFromSession console key now cookie)
    (recordId : String) (review : Option ControlPlane.ReconciliationRequest)
    (hroute : flight.request.route = .reconcile .claim recordId review) (draw : ControlPlane.ActDraw)
    (hact : Operations.next env hash s (.act id draw) = some t) (hflight' : Dict.get t.flights id = some flight')
    (event : ReconciliationAuditEvent) (hdone : flight'.stage = .finished (.reconciled event)) :
    ∃ row email expiresAt, t.system.db.record event.target = some row ∧
      row.reconciliationOwner =
        some (reconciliationOwner env.rendering.unicode env.sha256 principal.subject principal.issuer) ∧
      readPublicOpsSession console key now cookie =
        .authenticated (some (.str principal.subject)) (some (.str principal.issuer))
          (some (.str (operatorLeaseOwner env.sha256 principal.subject principal.issuer))) email expiresAt ∧
      ((∀ c ∈ leaseName env.rendering.unicode principal.subject, isOwnerChar c = true) →
        strip principal.subject = principal.subject →
          row.reconciliationOwner = some (operatorLeaseOwner env.sha256 principal.subject principal.issuer)) := by
  have hadmitted : Operations.Admitted env es id flight.request principal :=
    ((Operations.reaches_record hrun).flights id flight _ hflight hstage).admitted
  have hauthorization : flight.request.authorization =
      some ("Bearer " ++ compactToken header payload signature) := by
    rw [hbearer, authorizationHeaderFromSession, hsession, Option.map_some, sessionFrom, property_accessToken]
    rfl
  obtain ⟨hsubject, hsubjectNe, hiss, hissNe, hconfig⟩ := admitted_claims hreads hauthorization hadmitted
  have hlocal : isLocalOperator principal = false := by
    rw [isLocalOperator, hconfig, decide_eq_false hissuer, Bool.false_and]
  obtain ⟨row, hrow, howner⟩ := act_claimed ⟨es, hrun⟩ hflight hstage hlocal hroute hact hflight' hdone
  rw [sessionFrom, jwtPayload_compact hreads] at hsession
  obtain ⟨email, hpublic⟩ := readPublicOpsSession_operator hsession hsubject hsubjectNe hiss
  rw [hreads.digest] at hpublic
  refine ⟨row, email, _, hrow, howner, hpublic, fun hascii hstrip => ?_⟩
  rw [howner, reconciliationOwner_eq hissNe hsubjectNe hascii hstrip]

/-! ## A claim of an operator -/

/-- SHA-256 on the issuer and the subject. -/
def aliceHexdigest (s : String) : String :=
  if s = "https://idp.example.test\x00alice" then "dc48b84aaa765afaf65764dd6f785d14bf1dce9893e63571bacec0655265dd85"
  else "0000000000000000000000000000000000000000000000000000000000000000"

theorem aliceHexdigest_mem (s : String) :
    (aliceHexdigest s).toList.all "0123456789abcdef".toList.contains = true ∧ (aliceHexdigest s).toList.length = 64 := by
  unfold aliceHexdigest
  split <;> decide +kernel

theorem aliceHexdigest_digits (s : String) : ∀ c ∈ (aliceHexdigest s).toList, c ∈ "0123456789abcdef".toList :=
  fun c hc => List.contains_iff_mem.mp (List.all_eq_true.mp (aliceHexdigest_mem s).1 c hc)

theorem aliceHexdigest_length (s : String) : (aliceHexdigest s).toList.length = 64 := (aliceHexdigest_mem s).2

def aliceSha256 : Sha256 where
  hexdigest := aliceHexdigest
  digits := aliceHexdigest_digits
  length_eq := aliceHexdigest_length

def alicePlane : ControlPlane.Env := { ControlPlane.opsEnv with sha256 := aliceSha256 }

/-- The session of the token, as JSON and in a cookie. -/
def aliceText : List UInt8 :=
  ("\x7b\"accessToken\":\"" ++ Auth.aliceToken ++ "\",\"expiresAt\":800,\"subject\":\"alice\"," ++
    "\"issuer\":\"https://idp.example.test\",\"operatorKey\":\"alice.dc48b84aaa765afaf65764dd\"\x7d").toUTF8.toList

def aliceSession : PyVal :=
  .dict [("accessToken", .str Auth.aliceToken), ("expiresAt", .float (.finite "800" 800)), ("subject", .str "alice"),
    ("issuer", .str "https://idp.example.test"), ("operatorKey", .str "alice.dc48b84aaa765afaf65764dd")]

def aliceTag : List UInt8 := Base64.decode Base64.urlSafe "rXhLtjtgsqlf0LYFxQhUkg".toList

def aliceCiphertext : List UInt8 :=
  Base64.decode Base64.urlSafe
    ("rp71qyt8TlfzuOgPO0XLDbWBRms7wNaTDYofoGJQiw828LiQCJCYyhzfTgxg3xCh5Ij3SokRIGFOwezlDNVRRnIT2Gwyw5jIaMMggFWwhP5v" ++
      "Srau5ESI2eUHhjnqSJlcYPWjpxIHTzfT8Ln5Vt8YPLRT-LmQVmZTY6Kz2ygq38CVXpDMrNA1STyHw77syPfuGlDJ43V-61rSs_Boc-9poqPE" ++
      "3lKSpfImQGNLDPh61CBglYU-XAAE9s0IIHkSBGoPR85m8bC1mjxaGiN-7pw21D6U-_FC9guAmHfhZSknTR87bEqi9DDSUZEh577_AL36Jdww" ++
      "XPcA8aUa6GMOHfSmjEU_BoXVJTtkxAPT-cfrFYzrCGRqwRYP8rAsYZLBHl3hdK657fFuTahmoYXkvzQ_pTfsY_iSRjgjMXpZH0OqLdpl9MZ3" ++
      "rHKLlUa1viU4zX4hDwGWOWLY9EnP3qJ4uzeMoSSewO_3bpFw2ns-o8oOTCBO").toList

def aliceCookie : String := String.ofList (Base64.dotted consoleIv aliceTag aliceCiphertext)

/-- AES-GCM on the cookie. -/
def aliceGcmOpen (key iv tag ciphertext : List UInt8) : Option (List UInt8) :=
  if key = consoleKey ∧ iv = consoleIv ∧ tag = aliceTag ∧ ciphertext = aliceCiphertext then some aliceText else none

/-- The console with this cookie. -/
def aliceConsole : Env :=
  { consoleEnv with
    parse := fun bytes =>
      if bytes = Auth.alicePayload.toUTF8.toList then some (.dict Auth.alicePayloadDict)
      else if bytes = aliceText then some aliceSession else none
    gcmOpen := aliceGcmOpen
    hexdigest := aliceSha256 }

theorem alice_reads : SameReading aliceConsole alicePlane Auth.aliceHeader.toUTF8.toList Auth.alicePayload.toUTF8.toList
    Auth.aliceHeaderDict Auth.alicePayloadDict where
  digest := rfl
  fromBase64 := Base64.decode_encode
  loads_header := Auth.alice_issued.reads_header
  loads_payload := Auth.alice_issued.reads_payload
  parse := if_pos rfl
  ne_nil := by decide +kernel

theorem alice_operatorKey : operatorLeaseOwner aliceSha256 "alice" "https://idp.example.test" =
    "alice.dc48b84aaa765afaf65764dd" := by decide +kernel

theorem alice_lifetime : lifetime aliceConsole (property "expires_in" consoleBody) = some 300 := by decide +kernel

theorem aliceSession_eq : sessionFrom aliceConsole consoleBody Auth.aliceToken 500 = aliceSession := by
  have hend : (((500 : Int) : Rat) + 300) = 800 := by decide +kernel
  have hclaims : jwtPayload aliceConsole Auth.aliceToken = .dict Auth.alicePayloadDict := jwtPayload_compact alice_reads
  have hsubject : stringOr (property "sub" (.dict Auth.alicePayloadDict)) = some "alice" := rfl
  have hissuer : stringOr (property "iss" (.dict Auth.alicePayloadDict)) = some "https://idp.example.test" := rfl
  have hemail : stringOr (property "email" (.dict Auth.alicePayloadDict)) = none := rfl
  have hfilter : (some "alice").filter (fun s => decide (s ≠ "")) = some "alice" := rfl
  have hexpires : expiresAt aliceConsole 500 (property "expires_in" consoleBody) = .float (.finite "800" 800) := by
    rw [expiresAt, alice_lifetime]
    dsimp only
    rw [hend]
    rfl
  rw [sessionFrom, hclaims, hexpires]
  simp only [opsSession, hsubject, hissuer, hemail, hfilter, Option.map_some, Option.getD_some]
  have hkey : operatorLeaseOwner aliceConsole.hexdigest "alice" "https://idp.example.test" =
      "alice.dc48b84aaa765afaf65764dd" := alice_operatorKey
  rw [hkey]
  rfl

theorem alice_signed_in : readOpsSession aliceConsole (some consoleKey) 600 (some aliceCookie) =
    some (sessionFrom aliceConsole consoleBody Auth.aliceToken 500) := by
  have hne : aliceText ≠ Auth.alicePayload.toUTF8.toList := by decide +kernel
  have hopen : openCookie aliceConsole consoleKey aliceCookie = some aliceText := by
    rw [openCookie, aliceCookie, String.toList_ofList, Base64.splitOn_dotted]
    dsimp only
    rw [alice_reads.fromBase64, alice_reads.fromBase64, alice_reads.fromBase64]
    have hgcm : aliceConsole.gcmOpen = aliceGcmOpen := rfl
    rw [hgcm, aliceGcmOpen]
    simp only [and_self, if_true]
  have hparse : aliceConsole.parse aliceText = some aliceSession := (if_neg hne).trans (if_pos rfl)
  have hlive : numberLe (toNumber aliceConsole (property "expiresAt" aliceSession)) 600 = false := by decide +kernel
  rw [aliceSession_eq]
  exact readOpsSession_eq_some.mpr ⟨decryptCookie_eq_some.mpr ⟨consoleKey, aliceText, rfl, hopen, hparse⟩, rfl,
    by decide +kernel, hlive⟩

theorem stuck_sized : 3 ≤ "stuck".length ∧ "stuck".length ≤ 240 := by decide

def aliceReview : ControlPlane.ReconciliationRequest where
  reason := ⟨"stuck", stuck_sized⟩
  lease_range := by decide

/-- A claim of the first record. -/
def aliceClaims : ControlPlane.Request where
  route := .reconcile .claim "1" (some aliceReview)
  authorization := some ("Bearer " ++ Auth.aliceToken)

def alicePrincipal : Auth.Principal := Auth.principalFor Auth.aliceEnv Auth.alicePayloadDict "alice"

/-- The claim at a stage. -/
def aliceFlight (stage : Operations.Stage) : Flight where
  request := aliceClaims
  correlationId := ControlPlane.correlationIdFromRequest alicePlane .sample aliceClaims
  stage := stage

/-- The settlement of a call that dies, a quarter of an hour ago. -/
def stuckEvents : List Postgres.Event :=
  [.arrive (sampleCall "default") false, .engine 0 (.proceed 0), .engine 0 (.proceed 0), .engine 0 (.proceed 0),
    .engine 0 (.proceed 0), .engine 0 (.proceed 0), .engine 0 (.proceed 0), .engine 0 (.proceed 0), .engine 0 .crash,
    .tick 1000000000]

/-- The settlement store moves by itself. -/
theorem leads_engine {env : ControlPlane.Env} {hash : String → Int} {es : List Postgres.Event} {s : Plane}
    {system : System} (h : (Operator.machine hash env.rendering.unicode env.sha256.hexdigest).Leads s.system (es.map .other) system) :
    (Operations.machine env hash).Leads s (es.map .engine) { s with system := system } := by
  induction es generalizing s with
  | nil =>
    obtain rfl := Option.some.inj h
    rfl
  | cons e es ih =>
    obtain ⟨mid, hmid, hrest⟩ := Transition.Machine.leads_cons.mp h
    refine Transition.Machine.leads_cons.mpr ⟨{ s with system := mid }, ?_, ih hrest⟩
    show (Operator.next hash env.rendering.unicode env.sha256.hexdigest s.system (.other e)).map _ = _
    rw [show Operator.next hash env.rendering.unicode env.sha256.hexdigest s.system (.other e) = some mid from hmid]
    rfl

/-- The claim has arrived and waits for OpenFGA. -/
def aliceAsked : Operations.Stage := .authorizing (.asks alicePrincipal "manual_reviewer" ["security_admin"])

/-- The control plane with the claim at a stage. -/
def aliceAt (stage : Operations.Stage) (system : System) : Plane where
  keySet := some { body := Auth.opsKeys, expiresAt := 900000000 + Auth.cacheTtl }
  flights := [(0, aliceFlight stage)]
  system := system

theorem arrive_claim : Operations.arrive alicePlane 0 aliceClaims .sample ⟨900000000, 900000000⟩
    (.json (.dict Auth.opsKeys)) {} = aliceAt aliceAsked {} := by
  have hauth : Auth.authenticate alicePlane.auth alicePlane.config ⟨900000000, 900000000⟩ (.json (.dict Auth.opsKeys))
      none aliceClaims.authorization =
        (.ok alicePrincipal, some { body := Auth.opsKeys, expiresAt := 900000000 + Auth.cacheTtl }) :=
    Auth.alice_issued.authenticate rfl (Auth.alice_current (by decide))
  have hok : aliceClaims.route.checkPath alicePlane = .ok () := rfl
  unfold Operations.arrive
  rw [hok]
  dsimp only
  rw [hauth]
  rfl

/-- The record of an answer. -/
def reconciledRecord : ControlPlane.Reply → Option Nat
  | .reconciled event => some event.target
  | _ => none

theorem alice_claims : ∃ system done event, (Operator.machine (fun _ => 0) alicePlane.rendering.unicode
      alicePlane.sha256.hexdigest).Leads {} (stuckEvents.map .other) system ∧
    Operations.reconcileRecord alicePlane (fun _ => 0) alicePrincipal aliceClaims
      (aliceFlight aliceAsked).correlationId .claim 1 aliceReview Operations.opsDraw system = some done ∧
    event.target = 1 ∧ done.1 = .reconciled event := by
  have hview : (((Operator.machine (fun _ => 0) alicePlane.rendering.unicode alicePlane.sha256.hexdigest).run {}
      (stuckEvents.map .other)).bind fun system =>
        (Operations.reconcileRecord alicePlane (fun _ => 0) alicePrincipal aliceClaims
          (aliceFlight aliceAsked).correlationId .claim 1 aliceReview Operations.opsDraw system).map
            fun done => reconciledRecord done.1) = some (some 1) := by decide +kernel
  obtain ⟨system, hsystem, hdone⟩ := Option.bind_eq_some_iff.mp hview
  obtain ⟨done, hdone, hreply⟩ := Option.map_eq_some_iff.mp hdone
  cases hd : done.1 with
  | reconciled event =>
    rw [hd] at hreply
    exact ⟨system, done, event, hsystem, hdone, Option.some.inj hreply, hd⟩
  | _ =>
    rw [hd] at hreply
    cases hreply

theorem act_claim {system : System} {done : ControlPlane.Reply × System}
    (hdone : Operations.reconcileRecord alicePlane (fun _ => 0) alicePrincipal aliceClaims
      (aliceFlight aliceAsked).correlationId .claim 1 aliceReview Operations.opsDraw system = some done) :
    Operations.next alicePlane (fun _ => 0) (aliceAt (.authorizing (.granted alicePrincipal)) system)
      (.act 0 Operations.opsDraw) = some (aliceAt (.finished done.1) done.2) := by
  have hid : ControlPlane.safeRecordIdText alicePlane "1" = .ok 1 := by decide
  have hreconcile : Operations.reconcile alicePlane (fun _ => 0) alicePrincipal aliceClaims
      (aliceFlight aliceAsked).correlationId .claim "1" (some aliceReview) Operations.opsDraw system = some done := by
    unfold Operations.reconcile
    rw [if_neg (by decide), hid]
    exact hdone
  have hperform : Operations.perform alicePlane (fun _ => 0) alicePrincipal
      (aliceFlight (.authorizing (.granted alicePrincipal))) Operations.opsDraw
        (aliceAt (.authorizing (.granted alicePrincipal)) system) = some (done.1, {}, done.2) := by
    show (Operations.reconcile alicePlane (fun _ => 0) alicePrincipal aliceClaims
      (aliceFlight aliceAsked).correlationId .claim "1" (some aliceReview) Operations.opsDraw system).map _ = _
    rw [hreconcile]
    rfl
  show (Operations.perform alicePlane (fun _ => 0) alicePrincipal
    (aliceFlight (.authorizing (.granted alicePrincipal))) Operations.opsDraw
      (aliceAt (.authorizing (.granted alicePrincipal)) system)).map _ = _
  rw [hperform]
  rfl

/-- The claim arrives, a settlement gets stuck, and OpenFGA allows the claim. -/
def claimEvents : List Operations.Event :=
  .arrive 0 aliceClaims .sample ⟨900000000, 900000000⟩ (.json (.dict Auth.opsKeys)) ::
    (stuckEvents.map .engine ++ [.answer 0 (Operations.allowedAnswer true)])

theorem session_recognises_lease_alice : ∃ s row email expiresAt,
    (Operations.machine alicePlane fun _ => 0).Reaches (claimEvents ++ [.act 0 Operations.opsDraw]) s ∧
      s.system.db.record 1 = some row ∧ row.reconciliationOwner = some "alice.dc48b84aaa765afaf65764dd" ∧
      readPublicOpsSession aliceConsole (some consoleKey) 600 (some aliceCookie) =
        .authenticated (some (.str "alice")) (some (.str "https://idp.example.test"))
          (some (.str "alice.dc48b84aaa765afaf65764dd")) email expiresAt := by
  obtain ⟨system, done, event, hsystem, hdone, htarget, hreply⟩ := alice_claims
  have hanswer : Operations.next alicePlane (fun _ => 0) (aliceAt aliceAsked system)
      (.answer 0 (Operations.allowedAnswer true)) = some (aliceAt (.authorizing (.granted alicePrincipal)) system) := rfl
  have hrun : (Operations.machine alicePlane fun _ => 0).Reaches claimEvents
      (aliceAt (.authorizing (.granted alicePrincipal)) system) := by
    refine Transition.Machine.leads_cons.mpr ⟨aliceAt aliceAsked {}, congrArg some arrive_claim, ?_⟩
    exact Transition.Machine.leads_append.mpr ⟨aliceAt aliceAsked system, leads_engine hsystem,
      Transition.Machine.leads_cons.mpr ⟨_, hanswer, rfl⟩⟩
  have hact := act_claim hdone
  have hbearer : aliceClaims.authorization =
      authorizationHeaderFromSession aliceConsole (some consoleKey) 600 (some aliceCookie) := by
    rw [authorizationHeaderFromSession, alice_signed_in, Option.map_some, sessionFrom, property_accessToken]
    rfl
  obtain ⟨row, email, expiresAt, hrow, -, hpublic, howner⟩ := session_recognises_lease aliceConsole alicePlane
    (fun _ => 0) _ _ Auth.aliceSignature _ _ alice_reads (by decide) (some consoleKey) 600 500 (some aliceCookie)
    consoleBody alice_signed_in claimEvents _ _ hrun 0 _ _ rfl alicePrincipal rfl hbearer "1" (some aliceReview) rfl
    Operations.opsDraw hact rfl event (congrArg Operations.Stage.finished hreply)
  have hkey : operatorLeaseOwner alicePlane.sha256 alicePrincipal.subject alicePrincipal.issuer =
      "alice.dc48b84aaa765afaf65764dd" := alice_operatorKey
  rw [hkey] at hpublic howner
  rw [htarget] at hrow
  have hascii : (leaseName .ascii "alice").all isOwnerChar = true := by decide
  have hstrip : strip "alice" = "alice" := by decide
  exact ⟨_, row, email, expiresAt, Transition.Machine.leads_append.mpr ⟨_, hrun,
    Transition.Machine.leads_cons.mpr ⟨_, hact, rfl⟩⟩, hrow, howner (List.all_eq_true.mp hascii) hstrip, hpublic⟩

end HostedFacilitator.Console
