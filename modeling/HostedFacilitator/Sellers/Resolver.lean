import Mathlib.Data.List.Sort
import HostedFacilitator.Limits.InMemory
import HostedFacilitator.Lib.Keyed
import HostedFacilitator.Lib.Transaction
import HostedFacilitator.Lib.Transition
import HostedFacilitator.ControlPlane.State
import HostedFacilitator.Engine.Router

/-!
# `PostgresSellerAccountResolver`

The four tables of sellers and their API keys, and the operations on them. An operation is one transaction, made of the
statements of the source in their order; a constraint that a statement violates raises in the middle of it, and then the
transaction is rolled back. `create_*` and `bootstrap_seller_account` read the account once more after the commit, and
may raise then.
-/

namespace HostedFacilitator.Sellers

open Transaction

/-! ## Configurations -/

/-- `PaymentProfileConfig`, with what routing does not read. -/
structure ProfileConfig extends PaymentProfileConfig where
  sellerAccountId : String := "default"
  name : String := "Default"
  apiKeys : List String := []
  rateLimits : RateLimitPolicy := {}

/-- `SellerAccountConfig`, likewise. -/
structure AccountConfig where
  sellerAccountId : String
  tenantId : String := "production"
  name : String := "Default seller"
  environment : String := "testnet"
  status : String := "active"
  apiKeys : List String := []
  paymentProfiles : List ProfileConfig := []
  enabledNetworks : List String := ["eip155:5042002"]
  enabledSchemes : List String := ["exact"]
  enabledProviders : List String := ["exact_evm"]
  allowedAssets : List String := []
  allowedPayTo : List String := []
  rateLimits : RateLimitPolicy := {}

namespace AccountConfig

variable (c : AccountConfig)

/-- `default_payment_profile`. -/
def defaultPaymentProfile : ProfileConfig :=
  match c.paymentProfiles with
  | p :: _ => p
  | [] =>
    { paymentProfileId := "default", sellerAccountId := c.sellerAccountId, name := c.name, status := c.status
      enabledNetworks := c.enabledNetworks, enabledSchemes := c.enabledSchemes
      enabledProviders := c.enabledProviders, allowedAssets := c.allowedAssets, allowedPayTo := c.allowedPayTo
      rateLimits := c.rateLimits }

/-- `payment_profiles or (default_payment_profile(),)`. -/
def profiles : List ProfileConfig :=
  if c.paymentProfiles.isEmpty then [c.defaultPaymentProfile] else c.paymentProfiles

/-- The keys that a bootstrap writes, each with the profile that it is for, in order. -/
def keys : List (String × String) :=
  c.apiKeys.map (fun key => (key, c.defaultPaymentProfile.paymentProfileId)) ++
    c.profiles.flatMap fun p => p.apiKeys.map fun key => (key, p.paymentProfileId)

end AccountConfig

structure ResolvedSellerAccess where
  sellerAccount : AccountConfig
  paymentProfile : ProfileConfig
  apiKeyPrefix : Option String := none

/-! ## Keys -/

/-- What is outside: the text functions, and the digest that `seller_key_hash` ends with, which depends on a pepper. -/
structure Env where
  text : Text
  unicode : Unicode
  digest : String → String

variable (env : Env)

/-- `seller_key_hash`. -/
def sellerKeyHash (key : String) : Except PyErr String :=
  if strip key = "" then .error (.value "seller API key is required") else .ok (env.digest (strip key))

/-- `seller_key_prefix`. -/
def sellerKeyPrefix (key : String) : String := String.ofList ((strip key).toList.take 16)

/-- `_bearer_token`. -/
def bearerToken (authorization : Option String) : Option String :=
  match authorization with
  | none => none
  | some header =>
    if header = "" then none
    else
      let scheme := String.ofList (header.toList.takeWhile (· ≠ ' '))
      let value := String.ofList ((header.toList.dropWhile (· ≠ ' ')).drop 1)
      if env.text.lower scheme ≠ "bearer" ∨ strip value = "" then none else some (strip value)

structure IssuedSellerKey where
  keyId : String
  sellerAccountId : String
  paymentProfileId : String
  key : String
  keyHash : String
  keyPrefix : String

/-- The two texts that `secrets.token_urlsafe` gives. -/
structure Secrets where
  token : String
  keyId : String

/-- `issue_seller_api_key`. -/
def issueSellerApiKey (secrets : Secrets) (sellerAccountId paymentProfileId : String) : Except PyErr IssuedSellerKey := do
  let token := "omck_" ++ secrets.token
  let keyHash ← sellerKeyHash env token
  return { keyId := "key_" ++ secrets.keyId, sellerAccountId := sellerAccountId, paymentProfileId := paymentProfileId
           key := token, keyHash := keyHash, keyPrefix := sellerKeyPrefix token }

/-! ## Tables -/

/-- A row of `hosted_tenants`. -/
structure Tenant where
  id : String
  name : String
  status : String
  createdAt : Instant
  updatedAt : Instant

/-- A row of `hosted_seller_accounts`. -/
structure Seller where
  id : String
  tenantId : String
  name : String
  environment : String
  status : String
  createdAt : Instant
  updatedAt : Instant

/-- A row of `hosted_seller_payment_profiles`; its `jsonb` columns hold values. -/
structure Profile where
  id : String
  sellerAccountId : String
  name : String
  status : String
  enabledNetworks : List String
  enabledSchemes : List String
  enabledProviders : List String
  allowedAssets : List String
  allowedPayTo : List String
  rateLimits : RateLimitPolicy
  createdAt : Instant
  updatedAt : Instant

/-- A row of `hosted_seller_api_keys`. -/
structure ApiKey where
  keyHash : String
  keyId : String
  sellerAccountId : String
  paymentProfileId : String
  keyPrefix : String
  status : String
  createdAt : Instant
  revokedAt : Option Instant

def Profile.key (p : Profile) : String × String := (p.sellerAccountId, p.id)

/-- The tables, with their primary keys; `control` holds the audit events. -/
structure Db where
  tenants : Keyed Tenant.id := .empty
  sellers : Keyed Seller.id := .empty
  profiles : Keyed Profile.key := .empty
  keys : Keyed ApiKey.keyHash := .empty
  control : ControlPlane.Tables := {}

/-- The tables after the migrations. -/
def Db.empty : Db := {}

namespace Db

variable (db : Db)

/-- An active seller of an active tenant. -/
def activeSeller (id : String) : Option Seller :=
  (db.sellers.get id).filter fun s => s.status = "active" && (db.tenants.get s.tenantId).any (·.status = "active")

/-- The rows that `_resolve_key` joins. -/
def resolved (keyHash : String) : Option (ApiKey × Seller × Profile) := do
  let key ← db.keys.get keyHash
  let seller ← db.sellers.get key.sellerAccountId
  let profile ← db.profiles.get (key.sellerAccountId, key.paymentProfileId)
  let tenant ← db.tenants.get seller.tenantId
  if key.status = "active" ∧ key.revokedAt = none ∧ profile.status = "active" ∧ seller.status = "active" ∧
      tenant.status = "active" then some (key, seller, profile) else none

end Db

/-- `a or b` on texts. -/
def orText (a b : String) : String := if a = "" then b else a

/-- `_payment_profile_config_from_mapping`. -/
def paymentProfileConfigFromMapping (p : Profile) : ProfileConfig :=
  { paymentProfileId := p.id, sellerAccountId := p.sellerAccountId, name := orText p.name p.id
    status := orText p.status "disabled", enabledNetworks := p.enabledNetworks, enabledSchemes := p.enabledSchemes
    enabledProviders := p.enabledProviders, allowedAssets := p.allowedAssets.map env.text.lower
    allowedPayTo := p.allowedPayTo.map env.text.lower, rateLimits := p.rateLimits }

/-- `_seller_account_config_from_mapping`. -/
def sellerAccountConfigFromMapping (s : Seller) (paymentProfiles : List ProfileConfig) : AccountConfig :=
  { sellerAccountId := s.id, tenantId := s.tenantId, name := orText s.name s.id
    environment := orText s.environment "testnet", status := orText s.status "disabled"
    paymentProfiles := paymentProfiles }

/-- What `_resolve_key` returns for the rows it has found. -/
def resolvedAccess (key : ApiKey) (seller : Seller) (profile : Profile) : ResolvedSellerAccess :=
  let paymentProfile := paymentProfileConfigFromMapping env profile
  { sellerAccount := sellerAccountConfigFromMapping seller [paymentProfile], paymentProfile := paymentProfile
    apiKeyPrefix := some key.keyPrefix }

/-- `get_seller_account`. -/
def Db.getSellerAccount (db : Db) (id : String) : Option AccountConfig :=
  (db.activeSeller id).map fun seller =>
    let rows := db.profiles.rows.filter fun p => p.sellerAccountId = id && p.status = "active"
    sellerAccountConfigFromMapping seller
      ((rows.insertionSort fun p q => p.id ≤ q.id).map (paymentProfileConfigFromMapping env))

/-- `resolve_access`; `default` is the seller account for requests without a key, if there is one. -/
def Db.resolveAccess (default : Option String) (db : Db) (authorization : Option String) (requireAuth : Bool) :
    Except PyErr ResolvedSellerAccess :=
  match bearerToken env authorization with
  | some token => do
    let keyHash ← sellerKeyHash env token
    match db.resolved keyHash with
    | none => throw (.permission "Invalid facilitator API key")
    | some (key, seller, profile) => return resolvedAccess env key seller profile
  | none =>
    match (default.filter fun _ => !requireAuth).bind (db.getSellerAccount env) with
    | some account => .ok { sellerAccount := account, paymentProfile := account.defaultPaymentProfile }
    | none => .error (.permission "Seller API-key authentication is required")

/-! ## Statements -/

abbrev Statement := Body Db PyErr

def uniqueViolation (constraint : String) : PyErr :=
  .other "UniqueViolation" ("duplicate key value violates unique constraint \"" ++ constraint ++ "\"")

def foreignKeyViolation (table constraint : String) : PyErr :=
  .other "ForeignKeyViolation" ("insert or update on table \"" ++ table ++ "\" violates foreign key constraint \"" ++
    constraint ++ "\"")

/-- The tenant that the writers insert. -/
def newTenant (id : String) (now : Instant) : Tenant :=
  { id := id, name := id, status := "active", createdAt := now, updatedAt := now }

/-- `INSERT INTO hosted_tenants .. ON CONFLICT (id) DO UPDATE SET updated_at`. -/
def touchTenant (id : String) (now : Instant) : Statement PUnit :=
  modify fun db =>
    { db with tenants := db.tenants.upsert (newTenant id now) (fun t => { t with updatedAt := now }) fun _ => rfl }

/-- `INSERT INTO hosted_tenants .. ON CONFLICT (id) DO NOTHING`. -/
def ensureTenant (id : String) (now : Instant) : Statement PUnit :=
  modify fun db => { db with tenants := db.tenants.upsert (newTenant id now) (fun t => t) fun _ => rfl }

/-- The tenant is read back `FOR UPDATE`. -/
def assertActiveTenant (id : String) : Statement PUnit := do
  let db ← get
  require ((db.tenants.get id).any (·.status = "active")) (.value "Tenant is not active")

/-- `INSERT INTO hosted_seller_accounts`; `taken` is what comes of an id that exists. -/
def insertSeller (row : Seller) (taken : PyErr) : Statement PUnit := do
  let db ← get
  let sellers ← attempt ((db.sellers.insert row).elim (.error taken) .ok)
  require (db.tenants.get row.tenantId).isSome
    (foreignKeyViolation "hosted_seller_accounts" "hosted_seller_accounts_tenant_id_fkey")
  set { db with sellers := sellers }

/-- `INSERT INTO hosted_seller_accounts .. ON CONFLICT (id) DO UPDATE .. WHERE status = 'active'`. -/
def upsertSeller (row : Seller) : Statement PUnit := do
  let db ← get
  require ((db.sellers.get row.id).isSome || (db.tenants.get row.tenantId).isSome)
    (foreignKeyViolation "hosted_seller_accounts" "hosted_seller_accounts_tenant_id_fkey")
  set { db with
    sellers := db.sellers.upsert row
      (fun s => if s.status = "active" then
        { s with name := row.name, environment := row.environment, updatedAt := row.updatedAt } else s)
      (fun s => by split <;> rfl) }

/-- The row of a profile. -/
def ProfileConfig.row (p : ProfileConfig) (now : Instant) : Profile :=
  { id := p.paymentProfileId, sellerAccountId := p.sellerAccountId, name := p.name, status := p.status
    enabledNetworks := p.enabledNetworks, enabledSchemes := p.enabledSchemes, enabledProviders := p.enabledProviders
    allowedAssets := p.allowedAssets.map env.text.lower, allowedPayTo := p.allowedPayTo.map env.text.lower
    rateLimits := p.rateLimits, createdAt := now, updatedAt := now }

/-- `_upsert_payment_profile`: everything but the key and `created_at` is overwritten. -/
def upsertPaymentProfile (p : ProfileConfig) (now : Instant) : Statement PUnit := do
  let db ← get
  let row := p.row env now
  require ((db.profiles.get row.key).isSome || (db.sellers.get row.sellerAccountId).isSome)
    (foreignKeyViolation "hosted_seller_payment_profiles" "hosted_seller_payment_profiles_seller_account_id_fkey")
  set { db with
    profiles := db.profiles.upsert row
      (fun old => { row with id := old.id, sellerAccountId := old.sellerAccountId, createdAt := old.createdAt })
      fun _ => rfl }

/-- `_assert_active_payment_profile`. -/
def assertActivePaymentProfile (sellerAccountId paymentProfileId : String) : Statement PUnit := do
  let db ← get
  require ((db.profiles.get (sellerAccountId, paymentProfileId)).any (·.status = "active") &&
    (db.activeSeller sellerAccountId).isSome) (.value "Payment profile is not active")

/-- `_insert_seller_api_key_row`. -/
def insertSellerApiKeyRow (row : ApiKey) : Statement PUnit := do
  let db ← get
  let keys ← attempt ((db.keys.insert row).elim (.error (uniqueViolation "hosted_seller_api_keys_pkey")) .ok)
  require (!db.keys.rows.any (·.keyId = row.keyId)) (uniqueViolation "hosted_seller_api_keys_key_id_key")
  require (db.profiles.get (row.sellerAccountId, row.paymentProfileId)).isSome
    (foreignKeyViolation "hosted_seller_api_keys" "hosted_seller_api_keys_seller_account_id_payment_profile_id_fkey")
  set { db with keys := keys }

/-- The row of a key that was issued. -/
def IssuedSellerKey.row (issued : IssuedSellerKey) (now : Instant) : ApiKey :=
  { keyHash := issued.keyHash, keyId := issued.keyId, sellerAccountId := issued.sellerAccountId
    paymentProfileId := issued.paymentProfileId, keyPrefix := issued.keyPrefix, status := "active", createdAt := now
    revokedAt := none }

/-- Who acts, for the audit event. -/
structure Audit where
  actor : String
  correlationId : String
  fresh : Uuid

/-- `_insert_seller_audit_event`. -/
def insertSellerAuditEvent (action : ControlPlane.AuditAction) (sellerAccountId keyPrefix : String)
    (reason : Option String) (audit : Audit) (now : Instant) : Statement ControlPlane.AuditEvent := do
  let target ← attempt (safeSellerRef env.unicode sellerAccountId)
  let db ← get
  let inserted := db.control.insertAudit fun id =>
    { eventId := id, action := action, targetType := .seller, target := target
      before := action = .sellerApiKeyRevoke, after := action = .sellerCreate ∨ action = .sellerApiKeyIssue
      reason := sellerKeyAuditReason env.unicode keyPrefix (if action = .sellerApiKeyRevoke then reason else none)
      actor := safeActor env.unicode audit.actor
      correlationId := safeCorrelationId env.unicode audit.fresh audit.correlationId, createdAt := now }
  set { db with control := inserted.2 }
  return ControlPlane.Tables.auditEventFromMapping env.unicode audit.fresh inserted.1

/-- The row of a configured key. -/
def bootstrapKey (apiKey keyHash sellerAccountId paymentProfileId : String) (now : Instant) : ApiKey :=
  { keyHash := keyHash, keyId := "key_" ++ String.ofList (keyHash.toList.take 24), sellerAccountId := sellerAccountId
    paymentProfileId := paymentProfileId, keyPrefix := sellerKeyPrefix apiKey, status := "active", createdAt := now
    revokedAt := none }

/-- What a bootstrap sets on a configured key that is there. -/
def ApiKey.reactivated (keyPrefix : String) (k : ApiKey) : ApiKey :=
  { k with status := "active", keyPrefix := keyPrefix, revokedAt := none }

theorem ApiKey.reactivated_keyHash (keyPrefix : String) (k : ApiKey) :
    (k.reactivated keyPrefix).keyHash = k.keyHash := rfl

/-- `_upsert_bootstrap_api_key`. -/
def upsertBootstrapApiKey (sellerAccountId : String) (now : Instant) (configured : String × String) :
    Statement PUnit := do
  let keyHash ← attempt (sellerKeyHash env configured.1)
  let db ← get
  match db.keys.get keyHash with
  | some existing =>
    require (existing.sellerAccountId = sellerAccountId && existing.paymentProfileId = configured.2)
      (.value "Duplicate seller API key configured")
    set { db with
      keys := db.keys.update (·.keyHash == keyHash) (ApiKey.reactivated (sellerKeyPrefix configured.1))
        (ApiKey.reactivated_keyHash _) }
  | none => insertSellerApiKeyRow (bootstrapKey configured.1 keyHash sellerAccountId configured.2 now)

/-- The rows that `revoke_api_key` updates. -/
def ApiKey.revocable (sellerAccountId keyId : String) (k : ApiKey) : Bool :=
  k.sellerAccountId = sellerAccountId && k.keyId = keyId && k.status = "active" && k.revokedAt.isNone

def ApiKey.revoked (now : Instant) (k : ApiKey) : ApiKey := { k with status := "revoked", revokedAt := some now }

theorem ApiKey.revoked_keyHash (now : Instant) (k : ApiKey) : (k.revoked now).keyHash = k.keyHash := rfl

/-- `UPDATE hosted_seller_api_keys .. RETURNING`, and the error when it returns no row. -/
def revokeRow (sellerAccountId keyId : String) (now : Instant) : Statement ApiKey := do
  let db ← get
  let key ← attempt ((db.keys.rows.find? (ApiKey.revocable sellerAccountId keyId)).elim
    (.error (.key "Seller API key is not active")) .ok)
  set { db with
    keys := db.keys.update (ApiKey.revocable sellerAccountId keyId) (ApiKey.revoked now) (ApiKey.revoked_keyHash now) }
  return key.revoked now

/-! ## Operations -/

/-- A rollback restores the tables; the sequence of the audit ids has moved on. -/
def undo (before after : Db) : Db :=
  { before with control := { before.control with nextEventId := after.control.nextEventId } }

/-- The arguments of `create_seller_account`. -/
structure CreateSeller where
  sellerAccountId : String
  tenantId : String
  name : Option String := none
  environment : String := "testnet"
  enabledNetworks : List String := ["eip155:5042002"]
  enabledSchemes : List String := ["exact"]
  enabledProviders : List String := ["exact_evm"]
  allowedAssets : List String := []
  allowedPayTo : List String := []
  rateLimits : RateLimitPolicy := {}

namespace CreateSeller

variable (c : CreateSeller) (now : Instant)

/-- `name or seller_account_id`. -/
def displayName : String := orText (c.name.getD "") c.sellerAccountId

def seller : Seller :=
  { id := c.sellerAccountId, tenantId := c.tenantId, name := c.displayName, environment := c.environment
    status := "active", createdAt := now, updatedAt := now }

def profile : ProfileConfig :=
  { paymentProfileId := "default", sellerAccountId := c.sellerAccountId, name := c.displayName, status := "active"
    enabledNetworks := c.enabledNetworks, enabledSchemes := c.enabledSchemes, enabledProviders := c.enabledProviders
    allowedAssets := c.allowedAssets.map env.text.lower, allowedPayTo := c.allowedPayTo.map env.text.lower
    rateLimits := c.rateLimits }

/-- The statements that both forms begin with. -/
def insertAccount (taken : PyErr) : Statement PUnit := do
  touchTenant c.tenantId now
  assertActiveTenant c.tenantId
  insertSeller (c.seller now) taken
  upsertPaymentProfile env (c.profile env) now

end CreateSeller

/-- The account is read again after the commit; `message` is raised when it is not there. -/
def readBack {α β : Type} (sellerAccountId message : String) (result : AccountConfig → α → β) :
    Except PyErr α × Db → Except PyErr β × Db
  | (.error e, db) => (.error e, db)
  | (.ok a, db) =>
    match db.getSellerAccount env sellerAccountId with
    | some account => (.ok (result account a), db)
    | none => (.error (.runtime message), db)

/-- `create_seller_account`. -/
def Db.createSellerAccount (c : CreateSeller) (now : Instant) (db : Db) : Except PyErr AccountConfig × Db :=
  readBack env c.sellerAccountId "Postgres seller account was not created" (fun account _ => account)
    (atomically undo (c.insertAccount env now (uniqueViolation "hosted_seller_accounts_pkey")) db)

/-- `create_seller_account_with_api_key`. -/
def Db.createSellerAccountWithApiKey (c : CreateSeller) (secrets : Secrets) (audit : Option Audit) (now : Instant)
    (db : Db) : Except PyErr (AccountConfig × IssuedSellerKey × Option ControlPlane.AuditEvent) × Db :=
  match issueSellerApiKey env secrets c.sellerAccountId "default" with
  | .error e => (.error e, db)
  | .ok issued =>
    let body : Statement (Option ControlPlane.AuditEvent) := do
      c.insertAccount env now (.value "Seller account already exists")
      insertSellerApiKeyRow (issued.row now)
      audit.mapM fun a => insertSellerAuditEvent env .sellerCreate c.sellerAccountId issued.keyPrefix none a now
    readBack env c.sellerAccountId "Postgres seller account was not created"
      (fun account event => (account, issued, event)) (atomically undo body db)

/-- The statements of a bootstrap. -/
def bootstrapBody (c : AccountConfig) (now : Instant) : Statement PUnit := do
  ensureTenant c.tenantId now
  assertActiveTenant c.tenantId
  upsertSeller
    { id := c.sellerAccountId, tenantId := c.tenantId, name := c.sellerAccountId, environment := c.environment
      status := "active", createdAt := now, updatedAt := now }
  c.profiles.forM fun p => upsertPaymentProfile env p now
  c.keys.forM (upsertBootstrapApiKey env c.sellerAccountId now)

/-- `bootstrap_seller_account`. -/
def Db.bootstrapSellerAccount (c : AccountConfig) (now : Instant) (db : Db) : Except PyErr PUnit × Db :=
  readBack env c.sellerAccountId "Postgres bootstrap seller_account was not created" (fun _ _ => ())
    (atomically undo (bootstrapBody env c now) db)

/-- The statements of `issue_api_key`. -/
def issueBody (issued : IssuedSellerKey) (now : Instant) : Statement PUnit := do
  assertActivePaymentProfile issued.sellerAccountId issued.paymentProfileId
  insertSellerApiKeyRow (issued.row now)

/-- `issue_api_key`. -/
def Db.issueApiKey (secrets : Secrets) (sellerAccountId paymentProfileId : String) (now : Instant) (db : Db) :
    Except PyErr IssuedSellerKey × Db :=
  match issueSellerApiKey env secrets sellerAccountId paymentProfileId with
  | .error e => (.error e, db)
  | .ok issued => atomically undo (issueBody issued now >>= fun _ => pure issued) db

/-- `issue_api_key_with_audit`. -/
def Db.issueApiKeyWithAudit (secrets : Secrets) (sellerAccountId paymentProfileId : String) (audit : Audit)
    (now : Instant) (db : Db) : Except PyErr (IssuedSellerKey × ControlPlane.AuditEvent) × Db :=
  match issueSellerApiKey env secrets sellerAccountId paymentProfileId with
  | .error e => (.error e, db)
  | .ok issued =>
    let body : Statement (IssuedSellerKey × ControlPlane.AuditEvent) := do
      issueBody issued now
      let event ← insertSellerAuditEvent env .sellerApiKeyIssue sellerAccountId issued.keyPrefix none audit now
      return (issued, event)
    atomically undo body db

/-- `_seller_api_key_summary_from_mapping`. -/
structure KeySummary where
  keyId : String
  sellerRef : String
  paymentProfileId : String
  keyPrefix : String
  status : String
  createdAt : Instant
  revokedAt : Option Instant

def ApiKey.summary (k : ApiKey) : KeySummary :=
  { keyId := k.keyId, sellerRef := k.sellerAccountId, paymentProfileId := orText k.paymentProfileId "default"
    keyPrefix := k.keyPrefix, status := orText k.status "disabled", createdAt := k.createdAt, revokedAt := k.revokedAt }

/-- `revoke_api_key`. -/
def Db.revokeApiKey (sellerAccountId keyId : String) (now : Instant) (db : Db) : Except PyErr KeySummary × Db :=
  atomically undo (revokeRow sellerAccountId keyId now >>= fun key => pure key.summary) db

/-- `revoke_api_key_with_audit`. -/
def Db.revokeApiKeyWithAudit (sellerAccountId keyId reason : String) (audit : Audit) (now : Instant) (db : Db) :
    Except PyErr (KeySummary × ControlPlane.AuditEvent) × Db :=
  let body : Statement (KeySummary × ControlPlane.AuditEvent) := do
    let key ← revokeRow sellerAccountId keyId now
    let event ← insertSellerAuditEvent env .sellerApiKeyRevoke sellerAccountId key.summary.keyPrefix (some reason) audit
      now
    return (key.summary, event)
  atomically undo body db

/-- `revoke_api_key_hash`. -/
def Db.revokeApiKeyHash (keyHash : String) (now : Instant) (db : Db) : Except PyErr PUnit × Db :=
  (.ok (), { db with
    keys := db.keys.update (·.keyHash == keyHash) (ApiKey.revoked now) (ApiKey.revoked_keyHash now) })

/-- The operations that write. -/
inductive Op where
  | createSellerAccount (c : CreateSeller)
  | createSellerAccountWithApiKey (c : CreateSeller) (secrets : Secrets) (audit : Option Audit)
  | bootstrapSellerAccount (c : AccountConfig)
  | issueApiKey (secrets : Secrets) (sellerAccountId paymentProfileId : String)
  | issueApiKeyWithAudit (secrets : Secrets) (sellerAccountId paymentProfileId : String) (audit : Audit)
  | revokeApiKey (sellerAccountId keyId : String)
  | revokeApiKeyWithAudit (sellerAccountId keyId reason : String) (audit : Audit)
  | revokeApiKeyHash (keyHash : String)

/-- Whether the operation returns, and the tables after it. -/
def Op.apply (op : Op) (now : Instant) (db : Db) : Except PyErr PUnit × Db :=
  match op with
  | .createSellerAccount c => (db.createSellerAccount env c now).map (·.map fun _ => ()) id
  | .createSellerAccountWithApiKey c secrets audit =>
    (db.createSellerAccountWithApiKey env c secrets audit now).map (·.map fun _ => ()) id
  | .bootstrapSellerAccount c => db.bootstrapSellerAccount env c now
  | .issueApiKey secrets seller profile => (db.issueApiKey env secrets seller profile now).map (·.map fun _ => ()) id
  | .issueApiKeyWithAudit secrets seller profile audit =>
    (db.issueApiKeyWithAudit env secrets seller profile audit now).map (·.map fun _ => ()) id
  | .revokeApiKey seller keyId => (db.revokeApiKey seller keyId now).map (·.map fun _ => ()) id
  | .revokeApiKeyWithAudit seller keyId reason audit =>
    (db.revokeApiKeyWithAudit env seller keyId reason audit now).map (·.map fun _ => ()) id
  | .revokeApiKeyHash keyHash => db.revokeApiKeyHash keyHash now

/-- The resolver: any operations in any order, each at its own time. -/
def machine (start : Db) : Transition.Machine Db (Op × Instant) where
  start := start
  next := fun db e => some (e.1.apply env e.2 db).2

end HostedFacilitator.Sellers
