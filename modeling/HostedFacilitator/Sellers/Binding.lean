import HostedFacilitator.Sellers.Resolver
import HostedFacilitator.Engine.Providers

/-!
# What an API key is bound to, and what a revocation is worth

Every statement of every operation is judged by one relation: `Keeps restored` says that the keys that are there stay,
with their seller and their payment profile, and that a key that does not resolve by itself does so afterwards only when
`restored` allows it. Its rules follow the statements of each operation (`Op.keeps`), and the two results are about runs:

* `key_binding`: no operation moves a key to another seller or profile, and a bearer token resolves exactly when its
  key, the profile, the seller and the tenant are active, to the seller and the profile of the key;
* `revocation_lasts`: a revoked key stays revoked until a bootstrap lists it again.
-/

namespace HostedFacilitator.Sellers

open Transaction

/-! ## What operations keep -/

/-- The key is active and not revoked. -/
def ApiKey.Live (k : ApiKey) : Prop := k.status = "active" ∧ k.revokedAt = none

/-- The same key, later. -/
structure ApiKey.Follows (restored : Prop) (k k' : ApiKey) : Prop where
  seller : k'.sellerAccountId = k.sellerAccountId
  profile : k'.paymentProfileId = k.paymentProfileId
  dead : ¬ k.Live → restored ∨ ¬ k'.Live

/-- Keys stay, and come back to life only where `restored` says so. -/
def Keeps (restored : String → Prop) (db db' : Db) : Prop :=
  ∀ keyHash k, db.keys.get keyHash = some k →
    ∃ k', db'.keys.get keyHash = some k' ∧ k.Follows (restored keyHash) k'

variable {env : Env} {restored : String → Prop} {db db' : Db} {α : Type}

theorem ApiKey.Follows.refl {r : Prop} (k : ApiKey) : k.Follows r k := ⟨rfl, rfl, Or.inr⟩

theorem Keeps.of_keys (h : db'.keys = db.keys) : Keeps restored db db' := by
  intro keyHash k hk
  exact ⟨k, by rw [h]; exact hk, .refl k⟩

theorem Keeps.refl (restored : String → Prop) (db : Db) : Keeps restored db db := .of_keys rfl

theorem Keeps.trans (restored : String → Prop) (db db' db'' : Db) (h : Keeps restored db db')
    (h' : Keeps restored db' db'') : Keeps restored db db'' := by
  intro keyHash k hk
  obtain ⟨k', hk', hf⟩ := h keyHash k hk
  obtain ⟨k'', hk'', hf'⟩ := h' keyHash k' hk'
  refine ⟨k'', hk'', hf'.seller.trans hf.seller, hf'.profile.trans hf.profile, fun hdead => ?_⟩
  rcases hf.dead hdead with hr | hdead'
  · exact Or.inl hr
  · exact hf'.dead hdead'

theorem Keeps.mono {restored' : String → Prop} (h : ∀ keyHash, restored keyHash → restored' keyHash) (db db' : Db)
    (hk : Keeps restored db db') : Keeps restored' db db' := by
  intro keyHash k hget
  obtain ⟨k', hget', hf⟩ := hk keyHash k hget
  exact ⟨k', hget', hf.seller, hf.profile, fun hdead => (hf.dead hdead).imp_left (h keyHash)⟩

/-- An update of keys that changes neither seller nor profile. -/
theorem Keeps.update {p : ApiKey → Bool} {f : ApiKey → ApiKey} (hf : ∀ k, (f k).keyHash = k.keyHash)
    (h : ∀ k, p k = true → k.Follows (restored k.keyHash) (f k)) (hkeys : db'.keys = db.keys.update p f hf) :
    Keeps restored db db' := by
  intro keyHash k hk
  rw [hkeys, Keyed.get_update, hk]
  refine ⟨_, rfl, ?_⟩
  show k.Follows (restored keyHash) (if p k = true then f k else k)
  split
  · rename_i hp
    rw [← Keyed.key_get hk]
    exact h k hp
  · exact .refl k

/-! ## Statements -/

/-- A statement that does not write to the keys. -/
theorem moves_of_keys {body : Statement α} (h : ∀ db a db', exec body db = (.ok a, db') → db'.keys = db.keys) :
    Moves (Keeps restored) body := fun db a db' he => .of_keys (h db a db' he)

theorem touchTenant_moves (id : String) (now : Instant) : Moves (Keeps restored) (touchTenant id now) := by
  refine moves_of_keys fun db a db' h => ?_
  rw [modify_eq_ok.mp h]

theorem ensureTenant_moves (id : String) (now : Instant) : Moves (Keeps restored) (ensureTenant id now) := by
  refine moves_of_keys fun db a db' h => ?_
  rw [modify_eq_ok.mp h]

theorem assertActiveTenant_moves (id : String) : Moves (Keeps restored) (assertActiveTenant id) := by
  refine moves_of_keys fun db a db' h => ?_
  obtain ⟨t, s, hget, h⟩ := bind_eq_ok.mp h
  rw [(require_eq_ok.mp h).2, (get_eq_ok.mp hget).2]

theorem insertSeller_moves (row : Seller) (taken : PyErr) : Moves (Keeps restored) (insertSeller row taken) := by
  refine moves_of_keys fun db a db' h => ?_
  obtain ⟨t, s, hget, h⟩ := bind_eq_ok.mp h
  obtain ⟨sellers, s₁, -, h⟩ := bind_eq_ok.mp h
  obtain ⟨_, s₂, -, h⟩ := bind_eq_ok.mp h
  rw [set_eq_ok.mp h, (get_eq_ok.mp hget).1]

theorem upsertSeller_moves (row : Seller) : Moves (Keeps restored) (upsertSeller row) := by
  refine moves_of_keys fun db a db' h => ?_
  obtain ⟨t, s, hget, h⟩ := bind_eq_ok.mp h
  obtain ⟨_, s₁, -, h⟩ := bind_eq_ok.mp h
  rw [set_eq_ok.mp h, (get_eq_ok.mp hget).1]

theorem upsertPaymentProfile_moves (p : ProfileConfig) (now : Instant) :
    Moves (Keeps restored) (upsertPaymentProfile env p now) := by
  refine moves_of_keys fun db a db' h => ?_
  obtain ⟨t, s, hget, h⟩ := bind_eq_ok.mp h
  obtain ⟨_, s₁, -, h⟩ := bind_eq_ok.mp h
  rw [set_eq_ok.mp h, (get_eq_ok.mp hget).1]

theorem assertActivePaymentProfile_moves (seller profile : String) :
    Moves (Keeps restored) (assertActivePaymentProfile seller profile) := by
  refine moves_of_keys fun db a db' h => ?_
  obtain ⟨t, s, hget, h⟩ := bind_eq_ok.mp h
  rw [(require_eq_ok.mp h).2, (get_eq_ok.mp hget).2]

theorem insertSellerAuditEvent_moves (action : ControlPlane.AuditAction) (seller keyPrefix : String)
    (reason : Option String) (audit : Audit) (now : Instant) :
    Moves (Keeps restored) (insertSellerAuditEvent env action seller keyPrefix reason audit now) := by
  refine moves_of_keys fun db a db' h => ?_
  obtain ⟨target, s, htarget, h⟩ := bind_eq_ok.mp h
  obtain ⟨t, s₁, hget, h⟩ := bind_eq_ok.mp h
  obtain ⟨_, s₂, hset, h⟩ := bind_eq_ok.mp h
  cases h
  rw [set_eq_ok.mp hset, (get_eq_ok.mp hget).1, (attempt_eq_ok.mp htarget).2]

/-- A new key takes no hash that is there. -/
theorem insertSellerApiKeyRow_moves (row : ApiKey) : Moves (Keeps restored) (insertSellerApiKeyRow row) := by
  intro db a db' h
  obtain ⟨t, s, hget, h⟩ := bind_eq_ok.mp h
  obtain ⟨keys, s₁, hkeys, h⟩ := bind_eq_ok.mp h
  obtain ⟨_, s₂, -, h⟩ := bind_eq_ok.mp h
  obtain ⟨_, s₃, -, h⟩ := bind_eq_ok.mp h
  rw [(get_eq_ok.mp hget).1] at hkeys h
  have hinsert : db.keys.insert row = some keys := by
    have hok := (attempt_eq_ok.mp hkeys).1
    cases hi : db.keys.insert row with
    | none => rw [hi] at hok; cases hok
    | some keys' => rw [hi] at hok; cases hok; rfl
  have hnone : db.keys.get row.keyHash = none := Keyed.insert_isSome.mp (by rw [hinsert]; rfl)
  rw [set_eq_ok.mp h]
  intro keyHash k hk
  have hne : keyHash ≠ row.keyHash := by
    rintro rfl
    rw [hnone] at hk
    cases hk
  exact ⟨k, by rw [Keyed.get_insert hinsert, if_neg hne]; exact hk, .refl k⟩

theorem reactivated_follows {r : Prop} (hr : r) (keyPrefix : String) (k : ApiKey) :
    k.Follows r (k.reactivated keyPrefix) := ⟨rfl, rfl, fun _ => Or.inl hr⟩

/-- A configured key stays where it is, and is active afterwards. -/
theorem upsertBootstrapApiKey_moves {seller : String} {now : Instant} {configured : String × String}
    (hr : ∀ keyHash, sellerKeyHash env configured.1 = .ok keyHash → restored keyHash) :
    Moves (Keeps restored) (upsertBootstrapApiKey env seller now configured) := by
  intro db a db' h
  obtain ⟨keyHash, s, hattempt, hrest⟩ := bind_eq_ok.mp h
  obtain ⟨t, s₁, hget, hbranch⟩ := bind_eq_ok.mp hrest
  obtain ⟨hhash, hs⟩ := attempt_eq_ok.mp hattempt
  obtain ⟨ht, hs₁⟩ := get_eq_ok.mp hget
  subst hs ht hs₁
  split at hbranch
  · rename_i existing hexisting
    obtain ⟨_, s₂, hrequire, hset⟩ := bind_eq_ok.mp hbranch
    refine Keeps.update (ApiKey.reactivated_keyHash _) (fun k hk => ?_) (by rw [set_eq_ok.mp hset])
    have hkey : k.keyHash = keyHash := by simpa using hk
    exact reactivated_follows (hr k.keyHash (hkey ▸ hhash)) _ k
  · exact insertSellerApiKeyRow_moves _ _ _ _ hbranch

theorem revoked_follows {r : Prop} (now : Instant) (k : ApiKey) : k.Follows r (k.revoked now) :=
  ⟨rfl, rfl, fun _ => Or.inr (by simp [ApiKey.Live, ApiKey.revoked])⟩

/-- A revocation that finds a row, and what it does to the rows. -/
theorem revokeRow_ok {seller keyId : String} {now : Instant} {k : ApiKey}
    (h : exec (revokeRow seller keyId now) db = (.ok k, db')) :
    db'.keys = db.keys.update (ApiKey.revocable seller keyId) (ApiKey.revoked now) (ApiKey.revoked_keyHash now) := by
  obtain ⟨t, s, hget, h⟩ := bind_eq_ok.mp h
  obtain ⟨key, s₁, -, h⟩ := bind_eq_ok.mp h
  obtain ⟨_, s₂, hset, h⟩ := bind_eq_ok.mp h
  cases h
  rw [set_eq_ok.mp hset, (get_eq_ok.mp hget).1]

theorem revokeRow_moves (seller keyId : String) (now : Instant) :
    Moves (Keeps restored) (revokeRow seller keyId now) := by
  intro db k db' h
  exact Keeps.update (ApiKey.revoked_keyHash now) (fun k _ => revoked_follows now k) (revokeRow_ok h)

/-! ## Operations -/

theorem undo_keeps (db db' : Db) : Keeps restored db (undo db db') := .of_keys rfl

theorem readBack_snd {β : Type} {seller message : String} {result : AccountConfig → α → β}
    {done : Except PyErr α × Db} : (readBack env seller message result done).2 = done.2 := by
  obtain ⟨r, db⟩ := done
  cases r with
  | error e => rfl
  | ok a =>
    simp only [readBack]
    cases db.getSellerAccount env seller <;> rfl

theorem insertAccount_moves (c : CreateSeller) (now : Instant) (taken : PyErr) :
    Moves (Keeps restored) (c.insertAccount env now taken) := by
  have trans := Keeps.trans restored
  exact .bind trans (touchTenant_moves _ _) fun _ => .bind trans (assertActiveTenant_moves _) fun _ =>
    .bind trans (insertSeller_moves _ _) fun _ => upsertPaymentProfile_moves _ _

theorem issueBody_moves (issued : IssuedSellerKey) (now : Instant) :
    Moves (Keeps restored) (issueBody issued now) :=
  .bind (Keeps.trans restored) (assertActivePaymentProfile_moves _ _) fun _ => insertSellerApiKeyRow_moves _

/-- A bootstrap brings back the keys that it lists. -/
theorem bootstrapBody_moves (c : AccountConfig) (now : Instant) :
    Moves (Keeps fun keyHash => ∃ configured ∈ c.keys, sellerKeyHash env configured.1 = .ok keyHash)
      (bootstrapBody env c now) := by
  have refl := Keeps.refl fun keyHash => ∃ configured ∈ c.keys, sellerKeyHash env configured.1 = .ok keyHash
  have trans := Keeps.trans fun keyHash => ∃ configured ∈ c.keys, sellerKeyHash env configured.1 = .ok keyHash
  refine .bind trans (ensureTenant_moves _ _) fun _ => .bind trans (assertActiveTenant_moves _) fun _ =>
    .bind trans (upsertSeller_moves _) fun _ => .bind trans ?_ fun _ => ?_
  · exact .forM refl trans fun p _ => upsertPaymentProfile_moves p now
  · refine .forM refl trans fun configured hc => ?_
    exact upsertBootstrapApiKey_moves fun keyHash hhash => ⟨configured, hc, hhash⟩

theorem createSellerAccount_keeps (c : CreateSeller) (now : Instant) :
    Keeps restored db (db.createSellerAccount env c now).2 := by
  rw [Db.createSellerAccount, readBack_snd]
  exact (insertAccount_moves c now _).atomically undo_keeps db

theorem createSellerAccountWithApiKey_keeps (c : CreateSeller) (secrets : Secrets) (audit : Option Audit)
    (now : Instant) : Keeps restored db (db.createSellerAccountWithApiKey env c secrets audit now).2 := by
  have refl := Keeps.refl restored
  have trans := Keeps.trans restored
  unfold Db.createSellerAccountWithApiKey
  split
  · exact refl db
  · rw [readBack_snd]
    refine Moves.atomically (.bind trans (insertAccount_moves c now _) fun _ =>
      .bind trans (insertSellerApiKeyRow_moves _) fun _ => ?_) undo_keeps db
    cases audit with
    | none => exact .pure refl _
    | some a => exact .bind trans (insertSellerAuditEvent_moves _ _ _ _ _ _) fun _ => .pure refl _

theorem issueApiKey_keeps (secrets : Secrets) (seller profile : String) (now : Instant) :
    Keeps restored db (db.issueApiKey env secrets seller profile now).2 := by
  have refl := Keeps.refl restored
  unfold Db.issueApiKey
  split
  · exact refl db
  · exact Moves.atomically (.bind (Keeps.trans restored) (issueBody_moves _ _) fun _ => .pure refl _) undo_keeps db

theorem issueApiKeyWithAudit_keeps (secrets : Secrets) (seller profile : String) (audit : Audit) (now : Instant) :
    Keeps restored db (db.issueApiKeyWithAudit env secrets seller profile audit now).2 := by
  have refl := Keeps.refl restored
  have trans := Keeps.trans restored
  unfold Db.issueApiKeyWithAudit
  split
  · exact refl db
  · exact Moves.atomically (.bind trans (issueBody_moves _ _) fun _ =>
      .bind trans (insertSellerAuditEvent_moves _ _ _ _ _ _) fun _ => .pure refl _) undo_keeps db

theorem revokeApiKey_keeps (seller keyId : String) (now : Instant) :
    Keeps restored db (db.revokeApiKey seller keyId now).2 :=
  Moves.atomically (.bind (Keeps.trans restored) (revokeRow_moves _ _ _) fun _ => .pure (Keeps.refl restored) _)
    undo_keeps db

theorem revokeApiKeyWithAudit_keeps (seller keyId reason : String) (audit : Audit) (now : Instant) :
    Keeps restored db (db.revokeApiKeyWithAudit env seller keyId reason audit now).2 := by
  have trans := Keeps.trans restored
  exact Moves.atomically (.bind trans (revokeRow_moves _ _ _) fun _ =>
    .bind trans (insertSellerAuditEvent_moves _ _ _ _ _ _) fun _ => .pure (Keeps.refl restored) _) undo_keeps db

theorem revokeApiKeyHash_keeps (keyHash : String) (now : Instant) :
    Keeps restored db (db.revokeApiKeyHash keyHash now).2 :=
  Keeps.update (ApiKey.revoked_keyHash now) (fun k _ => revoked_follows now k) rfl

/-- A bootstrap brings back what it lists, if its transaction commits. -/
theorem bootstrapSellerAccount_keeps (c : AccountConfig) (now : Instant) :
    Keeps (fun keyHash => (∃ configured ∈ c.keys, sellerKeyHash env configured.1 = .ok keyHash) ∧
      (exec (bootstrapBody env c now) db).1 = .ok ()) db (db.bootstrapSellerAccount env c now).2 := by
  rw [Db.bootstrapSellerAccount, readBack_snd]
  rcases atomically_cases undo (bootstrapBody env c now) db with ⟨a, db', hbody, hdone⟩ | ⟨e, db', hdone⟩
  · rw [hdone]
    refine Keeps.mono (fun keyHash hlisted => ⟨hlisted, ?_⟩) db db' (bootstrapBody_moves c now db a db' hbody)
    rw [hbody]
  · rw [hdone]
    exact undo_keeps db db'

/-- The operation is a bootstrap that lists the key, and its transaction commits. -/
def Op.Restores (env : Env) (op : Op) (now : Instant) (db : Db) (keyHash : String) : Prop :=
  match op with
  | .bootstrapSellerAccount c =>
    (∃ configured ∈ c.keys, sellerKeyHash env configured.1 = .ok keyHash) ∧
      (exec (bootstrapBody env c now) db).1 = .ok ()
  | _ => False

/-- Every operation keeps the keys, and brings back only what a bootstrap lists. -/
theorem Op.keeps (op : Op) (now : Instant) (db : Db) :
    Keeps (fun keyHash => op.Restores env now db keyHash) db (op.apply env now db).2 := by
  cases op with
  | createSellerAccount c =>
    simp only [Op.apply, Prod.map_snd, id_eq]
    exact createSellerAccount_keeps c now
  | createSellerAccountWithApiKey c secrets audit =>
    simp only [Op.apply, Prod.map_snd, id_eq]
    exact createSellerAccountWithApiKey_keeps c secrets audit now
  | bootstrapSellerAccount c => exact bootstrapSellerAccount_keeps c now
  | issueApiKey secrets seller profile =>
    simp only [Op.apply, Prod.map_snd, id_eq]
    exact issueApiKey_keeps secrets seller profile now
  | issueApiKeyWithAudit secrets seller profile audit =>
    simp only [Op.apply, Prod.map_snd, id_eq]
    exact issueApiKeyWithAudit_keeps secrets seller profile audit now
  | revokeApiKey seller keyId =>
    simp only [Op.apply, Prod.map_snd, id_eq]
    exact revokeApiKey_keeps seller keyId now
  | revokeApiKeyWithAudit seller keyId reason audit =>
    simp only [Op.apply, Prod.map_snd, id_eq]
    exact revokeApiKeyWithAudit_keeps seller keyId reason audit now
  | revokeApiKeyHash keyHash =>
    simp only [Op.apply]
    exact revokeApiKeyHash_keeps keyHash now

/-! ## Resolving -/

/-- The key, its seller and its profile, all active, as the seller's tenant is. -/
structure Db.ActiveRows (db : Db) (keyHash : String) (key : ApiKey) (seller : Seller) (profile : Profile) : Prop where
  key_row : db.keys.get keyHash = some key
  seller_row : db.sellers.get key.sellerAccountId = some seller
  profile_row : db.profiles.get (key.sellerAccountId, key.paymentProfileId) = some profile
  live : key.Live
  profile_active : profile.status = "active"
  seller_active : seller.status = "active"
  tenant_active : ∃ tenant, db.tenants.get seller.tenantId = some tenant ∧ tenant.status = "active"

/-- The seller and the payment profile that a key hash is bound to. -/
def Db.binding (db : Db) (keyHash : String) : Option (String × String) :=
  (db.keys.get keyHash).map fun k => (k.sellerAccountId, k.paymentProfileId)

variable {keyHash : String} {key : ApiKey} {seller : Seller} {profile : Profile}

theorem resolved_iff : db.resolved keyHash = some (key, seller, profile) ↔ db.ActiveRows keyHash key seller profile := by
  unfold Db.resolved
  simp only [bind, Option.bind_eq_some_iff]
  constructor
  · rintro ⟨key', hkey, seller', hseller, profile', hprofile, tenant, htenant, hactive⟩
    split at hactive
    · rename_i hall
      obtain ⟨hstatus, hrevoked, hp, hs, ht⟩ := hall
      cases hactive
      exact ⟨hkey, hseller, hprofile, ⟨hstatus, hrevoked⟩, hp, hs, tenant, htenant, ht⟩
    · cases hactive
  · intro h
    obtain ⟨tenant, htenant, ht⟩ := h.tenant_active
    refine ⟨key, h.key_row, seller, h.seller_row, profile, h.profile_row, tenant, htenant, ?_⟩
    rw [if_pos ⟨h.live.1, h.live.2, h.profile_active, h.seller_active, ht⟩]

/-- A bearer token has no spaces around it and is not empty. -/
theorem sellerKeyHash_token {authorization : Option String} {token : String}
    (h : bearerToken env authorization = some token) : sellerKeyHash env token = .ok (env.digest token) := by
  unfold bearerToken at h
  split at h
  · cases h
  · split at h
    · cases h
    · simp only at h
      split at h
      · cases h
      · rename_i hvalue
        rw [not_or] at hvalue
        rw [← Option.some.inj h, sellerKeyHash, strip_strip, if_neg hvalue.2]

theorem resolveAccess_iff {default authorization : Option String} {requireAuth : Bool} {token : String}
    (h : bearerToken env authorization = some token) {access : ResolvedSellerAccess} :
    db.resolveAccess env default authorization requireAuth = .ok access ↔
      ∃ key seller profile, db.ActiveRows (env.digest token) key seller profile ∧
        access = resolvedAccess env key seller profile := by
  unfold Db.resolveAccess
  rw [h]
  simp only [sellerKeyHash_token h, bind, Except.bind]
  cases hr : db.resolved (env.digest token) with
  | none =>
    refine iff_of_false nofun ?_
    rintro ⟨key, seller, profile, hrows, -⟩
    rw [resolved_iff.mpr hrows] at hr
    cases hr
  | some rows =>
    obtain ⟨key, seller, profile⟩ := rows
    have hrows := resolved_iff.mp hr
    constructor
    · intro hok
      cases hok
      exact ⟨key, seller, profile, hrows, rfl⟩
    · rintro ⟨key', seller', profile', hrows', rfl⟩
      have heq := hr.symm.trans (resolved_iff.mpr hrows')
      cases heq
      rfl

/-- What is resolved goes by the ids that the key is bound to. -/
theorem Db.ActiveRows.binding_eq (h : db.ActiveRows keyHash key seller profile) :
    db.binding keyHash = some ((resolvedAccess env key seller profile).sellerAccount.sellerAccountId,
      (resolvedAccess env key seller profile).paymentProfile.paymentProfileId) := by
  have hseller : seller.id = key.sellerAccountId := Keyed.key_get h.seller_row
  have hprofile : profile.key = (key.sellerAccountId, key.paymentProfileId) := Keyed.key_get h.profile_row
  have hid : profile.id = key.paymentProfileId := congrArg Prod.snd hprofile
  rw [Db.binding, h.key_row, Option.map_some]
  simp only [resolvedAccess, sellerAccountConfigFromMapping, paymentProfileConfigFromMapping, hseller, hid]

/-! ## Runs -/

/-- One operation does not move a key. -/
theorem binding_apply {binding : String × String} (op : Op) (now : Instant)
    (h : db.binding keyHash = some binding) : (op.apply env now db).2.binding keyHash = some binding := by
  obtain ⟨k, hk, rfl⟩ := Option.map_eq_some_iff.mp h
  have hkeeps : Keeps _ db (op.apply env now db).2 := op.keeps now db
  obtain ⟨k', hk', hf⟩ := hkeeps keyHash k hk
  rw [Db.binding, hk', Option.map_some, hf.seller, hf.profile]

/-- In every reachable state: what a key hash is bound to never changes, and a bearer token resolves exactly when its key
is there and active with its profile, its seller and the seller's tenant, to the seller and the profile that the hash is
bound to. -/
theorem key_binding (env : Env) (default : Option String) (start db : Db) (hdb : (machine env start).Reachable db) :
    (∀ es db' keyHash binding, (machine env start).Leads db es db' → db.binding keyHash = some binding →
        db'.binding keyHash = some binding) ∧
      ∀ authorization token requireAuth, bearerToken env authorization = some token →
        ((∃ access, db.resolveAccess env default authorization requireAuth = .ok access) ↔
          ∃ key seller profile, db.ActiveRows (env.digest token) key seller profile) ∧
        ∀ access, db.resolveAccess env default authorization requireAuth = .ok access →
          db.binding (env.digest token) =
              some (access.sellerAccount.sellerAccountId, access.paymentProfile.paymentProfileId) ∧
            ∃ key seller profile, db.ActiveRows (env.digest token) key seller profile ∧
              access = resolvedAccess env key seller profile := by
  refine ⟨fun es db' keyHash binding hl hb => ?_, fun authorization token requireAuth htoken => ⟨?_, ?_⟩⟩
  · refine hl.invariant (I := fun d => d.binding keyHash = some binding) hb (fun s e t _ hi hn => ?_) hdb
    rw [← Option.some.inj hn]
    exact binding_apply e.1 e.2 hi
  · constructor
    · rintro ⟨access, hok⟩
      obtain ⟨key, seller, profile, hrows, -⟩ := (resolveAccess_iff htoken).mp hok
      exact ⟨key, seller, profile, hrows⟩
    · rintro ⟨key, seller, profile, hrows⟩
      exact ⟨_, (resolveAccess_iff htoken).mpr ⟨key, seller, profile, hrows, rfl⟩⟩
  · intro access hok
    obtain ⟨key, seller, profile, hrows, rfl⟩ := (resolveAccess_iff htoken).mp hok
    exact ⟨hrows.binding_eq, key, seller, profile, hrows, rfl⟩

/-! ## Revocations -/

/-- The operation is for the revocation of that key, which exists. -/
def Op.Revokes (op : Op) (db : Db) (keyHash : String) : Prop :=
  match op with
  | .revokeApiKey seller keyId | .revokeApiKeyWithAudit seller keyId _ _ =>
    ∃ k, db.keys.get keyHash = some k ∧ k.sellerAccountId = seller ∧ k.keyId = keyId
  | .revokeApiKeyHash hash => hash = keyHash ∧ (db.keys.get keyHash).isSome = true
  | _ => False

/-- The key is there, and does not resolve. -/
def Db.Dead (db : Db) (keyHash : String) : Prop := ∃ k, db.keys.get keyHash = some k ∧ ¬ k.Live

theorem not_live_revoked (now : Instant) (k : ApiKey) : ¬ (k.revoked now).Live := by
  simp [ApiKey.Live, ApiKey.revoked]

/-- After the update of a revocation, the key that it is for is dead, whether it was active before or not. -/
theorem dead_of_revokeRow {seller keyId : String} {now : Instant} {k k' : ApiKey}
    (h : exec (revokeRow seller keyId now) db = (.ok k', db')) (hk : db.keys.get keyHash = some k)
    (hseller : k.sellerAccountId = seller) (hid : k.keyId = keyId) : db'.Dead keyHash := by
  have hget : db'.keys.get keyHash =
      some (if ApiKey.revocable seller keyId k = true then k.revoked now else k) := by
    rw [revokeRow_ok h, Keyed.get_update, hk, Option.map_some]
  refine ⟨_, hget, ?_⟩
  split
  · exact not_live_revoked now k
  · rename_i hn
    intro hlive
    apply hn
    simp [ApiKey.revocable, hseller, hid, hlive.1, hlive.2]

/-- A revocation that returns leaves the key dead. -/
theorem Op.Revokes.dead {op : Op} {now : Instant} (h : op.Revokes db keyHash)
    (hok : (op.apply env now db).1 = .ok ()) : (op.apply env now db).2.Dead keyHash := by
  cases op with
  | revokeApiKey seller keyId =>
    obtain ⟨k, hk, hseller, hid⟩ := h
    simp only [Op.apply, Prod.map_fst, Prod.map_snd, id_eq] at hok ⊢
    obtain ⟨summary, hsummary, -⟩ := map_ok.mp hok
    obtain ⟨key, db₁, hrow, hpure⟩ := bind_eq_ok.mp (atomically_eq_ok hsummary)
    have hdead := dead_of_revokeRow hrow hk hseller hid
    have hstate : (db.revokeApiKey seller keyId now).2 = db₁ := (congrArg Prod.snd hpure).symm
    rw [hstate]
    exact hdead
  | revokeApiKeyWithAudit seller keyId reason audit =>
    obtain ⟨k, hk, hseller, hid⟩ := h
    simp only [Op.apply, Prod.map_fst, Prod.map_snd, id_eq] at hok ⊢
    obtain ⟨summary, hsummary, -⟩ := map_ok.mp hok
    obtain ⟨key, db₁, hrow, hrest⟩ := bind_eq_ok.mp (atomically_eq_ok hsummary)
    obtain ⟨k₁, hk₁, hdead⟩ := dead_of_revokeRow hrow hk hseller hid
    -- the audit event does not touch the keys
    have hkeeps : Keeps (fun _ => False) db₁ (db.revokeApiKeyWithAudit env seller keyId reason audit now).2 :=
      Moves.bind (Keeps.trans _) (insertSellerAuditEvent_moves _ _ _ _ _ _) (fun _ => .pure (Keeps.refl _) _) _ _ _ hrest
    obtain ⟨k₂, hk₂, hf⟩ := hkeeps keyHash k₁ hk₁
    exact ⟨k₂, hk₂, (hf.dead hdead).resolve_left id⟩
  | revokeApiKeyHash hash =>
    obtain ⟨rfl, hsome⟩ := h
    obtain ⟨k, hk⟩ := Option.isSome_iff_exists.mp hsome
    simp only [Op.apply, Db.revokeApiKeyHash]
    refine ⟨k.revoked now, ?_, not_live_revoked now k⟩
    rw [Keyed.get_update, hk, Option.map_some, Keyed.key_get hk]
    simp
  | createSellerAccount | createSellerAccountWithApiKey | bootstrapSellerAccount | issueApiKey
  | issueApiKeyWithAudit => exact absurd h id

/-- A dead key stays dead until a bootstrap lists it. -/
theorem Db.Dead.apply {op : Op} {now : Instant} (h : db.Dead keyHash) (hno : ¬ op.Restores env now db keyHash) :
    (op.apply env now db).2.Dead keyHash := by
  obtain ⟨k, hk, hdead⟩ := h
  have hkeeps : Keeps _ db (op.apply env now db).2 := op.keeps now db
  obtain ⟨k', hk', hf⟩ := hkeeps keyHash k hk
  exact ⟨k', hk', (hf.dead hdead).resolve_left hno⟩

theorem Db.Dead.leads {start : Db} {es : List (Op × Instant)} (h : db.Dead keyHash)
    (hl : (machine env start).Leads db es db')
    (hno : (machine env start).Along (fun d e => ¬ e.1.Restores env e.2 d keyHash) db es) : db'.Dead keyHash := by
  induction es generalizing db with
  | nil => exact Transition.Machine.leads_nil.mp hl ▸ h
  | cons e es ih =>
    obtain ⟨d, hd, hrest⟩ := Transition.Machine.leads_cons.mp hl
    obtain ⟨hfirst, hlater⟩ := hno
    refine ih ?_ hrest (hlater d hd)
    rw [← Option.some.inj hd]
    exact h.apply hfirst

/-- A dead key does not resolve. -/
theorem Db.Dead.not_resolved {default authorization : Option String} {requireAuth : Bool} {token : String}
    (h : db.Dead (env.digest token)) (htoken : bearerToken env authorization = some token)
    (access : ResolvedSellerAccess) : db.resolveAccess env default authorization requireAuth ≠ .ok access := by
  intro hok
  obtain ⟨key, seller, profile, hrows, -⟩ := (resolveAccess_iff htoken).mp hok
  obtain ⟨k, hk, hdead⟩ := h
  cases hk.symm.trans hrows.key_row
  exact hdead hrows.live

/-- From every state: after a revocation of a key that has returned, no request with that key is let in, until a
bootstrap whose configuration lists the key commits. -/
theorem revocation_lasts (env : Env) (default : Option String) (db db' : Db) (op : Op) (now : Instant)
    (keyHash : String) (hrevokes : op.Revokes db keyHash) (hok : (op.apply env now db).1 = .ok ())
    (es : List (Op × Instant)) (hleads : (machine env db).Leads (op.apply env now db).2 es db')
    (hno : (machine env db).Along (fun d e => ¬ e.1.Restores env e.2 d keyHash) (op.apply env now db).2 es)
    (authorization : Option String) (token : String) (htoken : bearerToken env authorization = some token)
    (hhash : env.digest token = keyHash) (requireAuth : Bool) (access : ResolvedSellerAccess) :
    db'.resolveAccess env default authorization requireAuth ≠ .ok access := by
  have hdead := (hrevokes.dead hok).leads hleads hno
  subst hhash
  exact hdead.not_resolved htoken access

/-! ## A seller with one configured key -/

/-- SHA-256 of the key below. -/
def liveHash : String := "522af7bc7fb2ceb245a06557ab00c1e377a67b07a9a704c8ea4362f612fbd6c1"

def sampleEnv : Env where
  text := networkText
  unicode := .ascii
  digest := fun s => if s = "omck_live" then liveHash else s

def sampleConfig : AccountConfig := { sellerAccountId := "seller-a", apiKeys := ["omck_live"] }

/-- The tables after the first start. -/
def bootstrapped : Db := (Op.apply sampleEnv (.bootstrapSellerAccount sampleConfig) 0 .empty).2

/-- The tables after the key was revoked. -/
def revokedDb : Db := (Op.apply sampleEnv (.revokeApiKeyHash liveHash) 1 bootstrapped).2

/-- The ids that a request with the key resolves to. -/
def resolvedIds (db : Db) : Option (String × String) :=
  match db.resolveAccess sampleEnv none (some "bearer omck_live") true with
  | .ok access => some (access.sellerAccount.sellerAccountId, access.paymentProfile.paymentProfileId)
  | .error _ => none

theorem bearerToken_live : bearerToken sampleEnv (some "bearer omck_live") = some "omck_live" := by decide +kernel

theorem resolves_of_ids {ids : String × String} (h : resolvedIds db = some ids) :
    ∃ access, db.resolveAccess sampleEnv none (some "bearer omck_live") true = .ok access := by
  unfold resolvedIds at h
  split at h
  · exact ⟨_, ‹_›⟩
  · cases h

/-- The key resolves after the first start, and is bound as before after its revocation. -/
theorem key_binding_bootstrapped :
    revokedDb.binding liveHash = some ("seller-a", "default") ∧
      ∃ key seller profile, bootstrapped.ActiveRows liveHash key seller profile := by
  have hreach : (machine sampleEnv .empty).Reachable bootstrapped := ⟨[(.bootstrapSellerAccount sampleConfig, 0)], rfl⟩
  obtain ⟨hbound, hresolves⟩ := key_binding sampleEnv none .empty bootstrapped hreach
  refine ⟨hbound [(.revokeApiKeyHash liveHash, 1)] revokedDb liveHash _ rfl (by decide +kernel), ?_⟩
  have hids : resolvedIds bootstrapped = some ("seller-a", "default") := by decide +kernel
  have hlive : sampleEnv.digest "omck_live" = liveHash := by decide
  rw [← hlive]
  exact (hresolves _ _ true bearerToken_live).1.mp (resolves_of_ids hids)

theorem revokes_live : (Op.revokeApiKeyHash liveHash).Revokes bootstrapped liveHash := ⟨rfl, by decide +kernel⟩

/-- A key that is issued to the seller later does not bring the revoked one back. -/
theorem revocation_lasts_over_issue :
    ¬ ∃ access, (Op.apply sampleEnv (.issueApiKey ⟨"next", "next"⟩ "seller-a" "default") 2 revokedDb).2.resolveAccess
      sampleEnv none (some "bearer omck_live") true = .ok access := by
  rintro ⟨access, hok⟩
  refine revocation_lasts sampleEnv none bootstrapped _ (.revokeApiKeyHash liveHash) 1 liveHash revokes_live rfl
    [(.issueApiKey ⟨"next", "next"⟩ "seller-a" "default", 2)] rfl ⟨id, fun _ _ => trivial⟩ _ _ bearerToken_live
    (by decide) true access hok

/-- The next start with the same configuration brings it back. -/
theorem revocation_undone :
    ¬ ∀ (env : Env) (default : Option String) (db db' : Db) (op : Op) (now : Instant) (keyHash : String),
      op.Revokes db keyHash → (op.apply env now db).1 = .ok () → ∀ es : List (Op × Instant),
      (machine env db).Leads (op.apply env now db).2 es db' → ∀ (authorization : Option String) (token : String),
      bearerToken env authorization = some token → env.digest token = keyHash →
      ∀ requireAuth access, db'.resolveAccess env default authorization requireAuth ≠ .ok access := by
  intro h
  have hids : resolvedIds (Op.apply sampleEnv (.bootstrapSellerAccount sampleConfig) 2 revokedDb).2 =
      some ("seller-a", "default") := by decide +kernel
  obtain ⟨access, hok⟩ := resolves_of_ids hids
  exact h sampleEnv none bootstrapped _ (.revokeApiKeyHash liveHash) 1 liveHash revokes_live rfl
    [(.bootstrapSellerAccount sampleConfig, 2)] rfl _ _ bearerToken_live (by decide) true access hok

end HostedFacilitator.Sellers
