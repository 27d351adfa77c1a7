import HostedFacilitator.Auth.Authorizer
import HostedFacilitator.Auth.Issuer
import HostedFacilitator.ControlPlane.LeaseOwner
import HostedFacilitator.ControlPlane.Queue
import HostedFacilitator.Sellers.Binding
import HostedFacilitator.Sellers.Resolver

/-!
# Requests that change something

The handlers of `register_control_plane_routes` that write, over `PostgresControlPlaneState`, the seller resolver and
the settlement store, which audit their writes in the same transaction. A handler first looks at its path, then
authorizes the request, and what it does after that is one step.
-/

namespace HostedFacilitator.ControlPlane

open Auth (Permission Principal OidcConfig)

/-! ## Payloads -/

/-- A text whose length pydantic has checked. -/
abbrev Sized (low high : Nat) : Type := { s : String // low ≤ s.length ∧ s.length ≤ high }

/-- `ControlPlanePauseRequest`. -/
structure PauseRequest where
  targetType : TargetType
  target : Option String := none
  paused : Bool
  reason : Sized 3 240

/-- `ControlPlaneSellerCreateRequest`. -/
structure SellerCreateRequest where
  sellerRef : Sized 3 64
  tenantRef : Sized 3 64
  name : Option (Sized 0 120) := none
  environment : Sized 0 24
  enabledNetworks : List String := ["eip155:5042002"]
  allowedAssets : List String := ["0x3600000000000000000000000000000000000000"]
  allowedPayTo : List String
  networks_length : 1 ≤ enabledNetworks.length ∧ enabledNetworks.length ≤ 12
  assets_length : 1 ≤ allowedAssets.length ∧ allowedAssets.length ≤ 24
  payTo_length : 1 ≤ allowedPayTo.length ∧ allowedPayTo.length ≤ 24

/-- `ControlPlaneReconciliationActionRequest`. -/
structure ReconciliationRequest where
  reason : Sized 3 240
  leaseSeconds : Int := 300
  lease_range : 30 ≤ leaseSeconds ∧ leaseSeconds ≤ 3600

/-- A route, with the parameters of its path and its payload; `none` is a body that is no JSON or is refused by its
model. FastAPI itself refuses a pause whose body is. -/
inductive Route where
  | setPause (payload : PauseRequest)
  | createSeller (payload : Option SellerCreateRequest)
  | issueKey (sellerRef : String) (paymentProfileId : Option (Sized 0 64))
  | revokeKey (sellerRef keyId : String) (reason : Option (Sized 3 240))
  | reconcile (action : ReconciliationAction) (recordId : String) (payload : Option ReconciliationRequest)

/-- The permission that a route asks for. -/
def Route.permission : Route → Permission
  | .setPause _ => .pause
  | .createSeller _ | .issueKey .. | .revokeKey .. => .sellers
  | .reconcile .. => .manualReview

/-- The permission that an audited action needs. -/
def AuditAction.permission : AuditAction → Permission
  | .pauseSet => .pause
  | .sellerCreate | .sellerApiKeyIssue | .sellerApiKeyRevoke => .sellers
  | .reconciliation _ => .manualReview

/-- What a handler reads of a request: its route, and three headers. -/
structure Request where
  route : Route
  authorization : Option String := none
  requestId : Option String := none
  operator : Option String := none

/-! ## Texts -/

/-- What is outside: the text functions and tables, the libraries that the authenticator uses, the digests, and
`str.isprintable` for one character; and the configuration. -/
structure Env where
  rendering : Rendering
  auth : Auth.Env
  isprintable : Char → Bool
  keyDigest : String → String
  sha256 : Sha256
  config : OidcConfig
  providerNames : List String
  writesEnabled : Bool := true

variable (env : Env)

/-- What the seller resolver uses of it. -/
def Env.sellers : Sellers.Env :=
  { text := env.rendering.text, unicode := env.rendering.unicode, digest := env.keyDigest }

/-- `_safe_record_id`, of a text. -/
def safeRecordIdText (value : String) : Except PyErr Int :=
  let text := strip value
  if !env.rendering.unicode.isDigits text.toList then .error (.value "settlement record id is required")
  -- superscripts are digits, but no numerals
  else match env.rendering.decimals.ofText 10 text with
    | none => .error (.value ("invalid literal for int() with base 10: " ++ env.rendering.text.repr (.str text)))
    | some n => if n ≤ 0 then .error (.value "settlement record id is required") else .ok n

/-- `_request_profile_id`. -/
def requestProfileId (value : String) : Except PyErr String :=
  let candidate := orDefault (strip value) "default"
  if safeProfileId env.rendering candidate ≠ candidate then .error (.value "Invalid payment profile id")
  else .ok candidate

/-- `_safe_seller_name`. -/
def safeSellerName (value : Option String) (sellerAccountId : String) : Except PyErr String :=
  let text := strip (value.getD "")
  if text = "" then .ok sellerAccountId
  else if 120 < text.length then .error (.value "seller name is too long")
  else .ok (orDefault (String.ofList (text.toList.filter env.isprintable)) sellerAccountId)

/-- `_safe_seller_environment`. -/
def safeSellerEnvironment (value : String) : Except PyErr String :=
  let environment := env.rendering.text.lower (strip value)
  if environment = "testnet" ∨ environment = "local" then .ok environment
  else .error (.value "only testnet seller creation is enabled in alpha")

/-- What `re.IGNORECASE` makes of a character: four letters outside ASCII match an ASCII letter. -/
def foldCase (c : Char) : Char :=
  if c.toNat = 0x130 ∨ c.toNat = 0x131 then 'i' else if c.toNat = 0x17f then 's' else if c.toNat = 0x212a then 'k'
  else c.toLower

/-- `[A-Za-z0-9_-]`, after the folding. -/
def isTokenChar (c : Char) : Bool := c.isLower || c.isDigit || c = '_' || c = '-'

/-- The text begins with `size` such characters. -/
def startsWithMany (p : Char → Bool) (size : Nat) (cs : List Char) : Bool :=
  (cs.take size).length = size && (cs.take size).all p

/-- `[_-]?` -/
def dropSeparator : List Char → List Char
  | c :: cs => if c = '_' ∨ c = '-' then cs else c :: cs
  | [] => []

/-- `circle[_-]?api[_-]?key` -/
def startsCircleKey (cs : List Char) : Bool :=
  "circle".toList.isPrefixOf cs &&
    (let rest := dropSeparator (cs.drop 6)
     "api".toList.isPrefixOf rest && "key".toList.isPrefixOf (dropSeparator (rest.drop 3)))

/-- `_SECRET_SHAPED_REASON_RE`, at the beginning of a folded text. -/
def startsSecret (cs : List Char) : Bool :=
  (("omck_".toList.isPrefixOf cs || "omcr_".toList.isPrefixOf cs) && startsWithMany isTokenChar 8 (cs.drop 5)) ||
    ("0x".toList.isPrefixOf cs && startsWithMany (fun c => "0123456789abcdef".toList.contains c) 64 (cs.drop 2)) ||
    startsCircleKey cs

/-- `_safe_revoke_reason_text`. -/
def safeRevokeReasonText (value : String) : Except PyErr String :=
  let reason := strip value
  if (reason.toList.map foldCase).tails.any startsSecret then
    .error (.value "seller API-key revoke reason must not contain secrets")
  else .ok reason

/-- Whether the text holds the other one. -/
def holds (text part : String) : Bool := text.toList.tails.any part.toList.isPrefixOf

/-! ## Who acts -/

/-- A principal of local mode. -/
def isLocalOperator (principal : Principal) : Bool := principal.issuer = "local" && principal.subject = "local-operator"

/-- `_actor_from_principal_or_request`; no principal is put on the request of a local operator. -/
def actorFromPrincipalOrRequest (principal : Principal) (request : Request) : String :=
  if isLocalOperator principal then safeActor env.rendering.unicode (request.operator.getD "unknown-operator")
  else safeActor env.rendering.unicode principal.subject

/-- `_lease_owner_from_principal_or_request`. -/
def leaseOwnerFromPrincipalOrRequest (principal : Principal) (request : Request) : String :=
  if isLocalOperator principal then
    safeOperatorLeaseOwnerWith env.rendering.unicode env.sha256 (request.operator.getD "unknown-operator") "local"
  else safeOperatorLeaseOwnerWith env.rendering.unicode env.sha256 principal.subject principal.issuer

/-- `_correlation_id_from_request`. -/
def correlationIdFromRequest (fresh : Uuid) (request : Request) : String :=
  safeCorrelationId env.rendering.unicode fresh (orDefault (request.requestId.getD "") fresh.text)

/-! ## Answers -/

/-- An answer: what a handler returns, or the status and detail of an error. Of the settlement that an action returns
the audit event is kept. -/
inductive Reply where
  | paused (event : AuditEvent) (state : PauseState)
  | sellerCreated (account : Sellers.AccountConfig) (issued : Sellers.IssuedSellerKey) (createdBy : String)
      (event : Option AuditEvent)
  | keyIssued (issued : Sellers.IssuedSellerKey) (event : AuditEvent)
  | keyRevoked (key : Sellers.KeySummary) (event : AuditEvent)
  | reconciled (event : ReconciliationAuditEvent)
  | refused (status : Nat) (detail : String)

def Reply.IsRefused (r : Reply) : Prop := ∃ status detail, r = .refused status detail

/-- `str(exc)`. -/
def errorText (e : PyErr) : String :=
  match e with
  | .key m => env.rendering.text.repr (.str m)
  | .protocolValidation m | .value m | .lookup m | .permission m | .runtime m | .type m | .other _ m => m
  | .rateLimitExceeded => ""

def writesDisabled : Reply := .refused 503 "Control-plane writes are disabled"

/-- The errors of `set_pause`. -/
def pauseRefused (e : PyErr) : Reply :=
  match e with
  | .value m => .refused 400 m
  | _ => .refused 500 "Internal Server Error"

/-- The errors of `create_seller_account`. -/
def createRefused (e : PyErr) : Reply :=
  match e with
  | .value m =>
    .refused (if holds (env.rendering.text.lower m) "already exists" then 409 else 400)
      (if holds m "already exists" then "Seller account already exists" else m)
  | _ => .refused 503 "Seller creation failed"

/-- The errors of `issue_seller_api_key`. -/
def issueRefused (e : PyErr) : Reply :=
  match e with
  | .key _ | .value _ => .refused 400 (errorText env e)
  | _ => .refused 503 "Seller API-key issue failed"

/-- The errors of `revoke_seller_api_key`. -/
def revokeRefused (e : PyErr) : Reply :=
  match e with
  | .key _ => .refused 404 "Seller API key not found"
  | .value m => .refused 400 m
  | _ => .refused 503 "Seller API-key revoke failed"

/-- The errors of `_run_reconciliation_action`. -/
def reconcileRefused (e : PyErr) : Reply :=
  match e with
  | .value m => .refused 400 m
  | .key _ => .refused 404 "Settlement record not found"
  | .runtime m =>
    .refused (if holds m "unavailable" || holds m "does not support" then 503 else 409) m
  | _ => .refused 503 "Reconciliation action failed"

/-- What a handler does with its path before it authorizes the request. -/
def Route.checkPath : Route → Except PyErr PUnit
  | .setPause _ | .createSeller _ => .ok ()
  | .issueKey sellerRef _ => (safeSellerRef env.rendering.unicode sellerRef).map fun _ => ()
  | .revokeKey sellerRef keyId _ => do
    let _ ← safeSellerRef env.rendering.unicode sellerRef
    let _ ← safeKeyId env.rendering.unicode keyId
    return ()
  | .reconcile _ recordId _ => (safeRecordIdText env recordId).map fun _ => ()

/-- How a handler answers an error. -/
def Route.refused (e : PyErr) : Route → Reply
  | .setPause _ => pauseRefused e
  | .createSeller _ => createRefused env e
  | .issueKey .. => issueRefused env e
  | .revokeKey .. => revokeRefused e
  | .reconcile .. => reconcileRefused e

/-! ## Handlers after the authorization -/

/-- What a handler takes from outside: the clock, new ids and secrets; and for an action on a settlement the readings of
the clock for the lease and for what is stale, which statements fail, and how reading the detail back fails. -/
structure ActDraw where
  now : Instant
  fresh : Uuid
  secrets : Sellers.Secrets
  leaseFrom : Instant
  staleFrom : Instant
  faults : Postgres.Db.Faults := fun _ => none
  detail : Option PyErr := none

/-- `_validate_pause_request`. -/
def validatePauseRequest (payload : PauseRequest) : Except PyErr PUnit :=
  match payload.targetType with
  | .provider =>
    if env.providerNames.contains (safeProviderName env.rendering.unicode (payload.target.getD "")) then .ok ()
    else .error (.value "unknown provider target")
  | .network => (safeNetwork env.rendering.unicode (payload.target.getD "")).map fun _ => ()
  | .global | .seller | .settlement => .ok ()

/-- `set_pause`. -/
def setPause (principal : Principal) (request : Request) (correlationId : String) (payload : PauseRequest)
    (draw : ActDraw) (db : Sellers.Db) : Reply × Sellers.Db :=
  if !env.writesEnabled then (writesDisabled, db)
  else match validatePauseRequest env payload with
    | .error e => (pauseRefused e, db)
    | .ok () =>
      match db.control.apply env.rendering.unicode ⟨draw.now, draw.fresh⟩
        (.setPause payload.targetType payload.target payload.paused payload.reason.1
          (actorFromPrincipalOrRequest env principal request) correlationId) with
      | .error e => (pauseRefused e, db)
      | .ok (event, control) =>
        (.paused event (control.pauseState env.rendering.unicode), { db with control := control })

/-- `seller_account_kwargs`. -/
def createSellerArguments (payload : SellerCreateRequest) (sellerAccountId : String) :
    Except PyErr Sellers.CreateSeller := do
  let tenantId ← safeSellerRef env.rendering.unicode payload.tenantRef.1
  let name ← safeSellerName env (payload.name.map Subtype.val) sellerAccountId
  let environment ← safeSellerEnvironment env payload.environment.1
  let enabledNetworks ← payload.enabledNetworks.mapM (safeNetwork env.rendering.unicode)
  let allowedAssets ← payload.allowedAssets.mapM (safeEvmAddress env.rendering)
  let allowedPayTo ← payload.allowedPayTo.mapM (safeEvmAddress env.rendering)
  return { sellerAccountId, tenantId, name := some name, environment, enabledNetworks, enabledSchemes := ["exact"]
           enabledProviders := ["exact_evm", "circle_gateway"], allowedAssets, allowedPayTo }

/-- `create_seller_account`, once the payload is there. -/
def createSellerFrom (principal : Principal) (request : Request) (correlationId : String)
    (payload : SellerCreateRequest) (draw : ActDraw) (db : Sellers.Db) : Reply × Sellers.Db :=
  if !env.writesEnabled then (writesDisabled, db)
  else match safeSellerRef env.rendering.unicode payload.sellerRef.1 with
    | .error e => (createRefused env e, db)
    | .ok sellerAccountId =>
      if (db.getSellerAccount env.sellers sellerAccountId).isSome then (.refused 409 "Seller account already exists", db)
      else match createSellerArguments env payload sellerAccountId with
        | .error e => (createRefused env e, db)
        | .ok arguments =>
          let actor := actorFromPrincipalOrRequest env principal request
          match db.createSellerAccountWithApiKey env.sellers arguments draw.secrets
            (some { actor := actor, correlationId := correlationId, fresh := draw.fresh }) draw.now with
          | (.error e, db') => (createRefused env e, db')
          | (.ok (account, issued, event), db') => (.sellerCreated account issued actor event, db')

/-- `create_seller_account`. -/
def createSeller (principal : Principal) (request : Request) (correlationId : String)
    (payload : Option SellerCreateRequest) (draw : ActDraw) (db : Sellers.Db) : Reply × Sellers.Db :=
  match payload with
  | none => (createRefused env (.value "Invalid seller onboarding payload"), db)
  | some payload => createSellerFrom env principal request correlationId payload draw db

/-- `issue_seller_api_key`. -/
def issueSellerApiKey (principal : Principal) (request : Request) (correlationId sellerAccountId : String)
    (paymentProfileId : Option (Sized 0 64)) (draw : ActDraw) (db : Sellers.Db) : Reply × Sellers.Db :=
  if !env.writesEnabled then (writesDisabled, db)
  else match (paymentProfileId.elim (.error (.value "Invalid seller API-key payload"))
      fun p => requestProfileId env p.1 : Except PyErr String) with
    | .error e => (issueRefused env e, db)
    | .ok profile =>
      match db.issueApiKeyWithAudit env.sellers draw.secrets sellerAccountId profile
        { actor := actorFromPrincipalOrRequest env principal request, correlationId := correlationId
          fresh := draw.fresh } draw.now with
      | (.error e, db') => (issueRefused env e, db')
      | (.ok (issued, event), db') => (.keyIssued issued event, db')

/-- `revoke_seller_api_key`. -/
def revokeSellerApiKey (principal : Principal) (request : Request) (correlationId sellerAccountId keyId : String)
    (reason : Option (Sized 3 240)) (draw : ActDraw) (db : Sellers.Db) : Reply × Sellers.Db :=
  if !env.writesEnabled then (writesDisabled, db)
  else match (reason.elim (.error (.value "Invalid seller API-key revoke payload"))
      fun r => safeRevokeReasonText r.1 : Except PyErr String) with
    | .error e => (revokeRefused e, db)
    | .ok reason =>
      match db.revokeApiKeyWithAudit env.sellers sellerAccountId keyId reason
        { actor := actorFromPrincipalOrRequest env principal request, correlationId := correlationId
          fresh := draw.fresh } draw.now with
      | (.error e, db') => (revokeRefused e, db')
      | (.ok (key, event), db') => (.keyRevoked key event, db')

/-- The actions, as the routes name them. -/
def actionName : ReconciliationAction → String
  | .claim => "reconciliation_claim"
  | .release => "reconciliation_release"
  | .manualReview => "reconciliation_manual_review"

/-- `_OPERATOR_ACTIVE_CLAIM_STALE_SECONDS`, in microseconds. -/
def activeClaimStale : Int := 300 * 1000000

/-- The call of `_apply_reconciliation_action` to the store. -/
def operatorCall (principal : Principal) (request : Request) (correlationId : String) (action : ReconciliationAction)
    (recordId : Int) (payload : ReconciliationRequest) (draw : ActDraw) : Postgres.OperatorCall where
  action := actionName action
  recordId := recordId
  owner := safeOperatorLeaseOwner env.rendering.unicode env.sha256.hexdigest
    (leaseOwnerFromPrincipalOrRequest env principal request)
  leaseUntil := draw.leaseFrom + payload.leaseSeconds * 1000000
  activeStaleBefore := draw.staleFrom - activeClaimStale
  reason := payload.reason.1
  actor := actorFromPrincipalOrRequest env principal request
  correlationId := correlationId

/-- The answer after the call: the detail is read back. -/
def reconcileReply (draw : ActDraw) : Except PyErr (SettlementRecord × ReconciliationAuditEvent) → Reply
  | .error e => reconcileRefused e
  | .ok (_, event) => match draw.detail with
    | some e => reconcileRefused e
    | none => .reconciled event

/-! ## A control plane -/

def opsEnv : Env where
  rendering := .ascii
  auth := Auth.aliceEnv
  isprintable := fun _ => true
  keyDigest := Sellers.sampleEnv.digest
  sha256 := jorgSha256
  config := Auth.opsConfig
  providerNames := []

end HostedFacilitator.ControlPlane
