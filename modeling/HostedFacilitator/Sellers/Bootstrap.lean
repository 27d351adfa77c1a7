import HostedFacilitator.Sellers.Binding

/-!
# A bootstrap of a seller account

The statements of a bootstrap are guarded writes: each is refused by what is in the tables, and else writes its rows.
`bootstrapBody_ok` says of the whole transaction when it is refused (`AccountConfig.Accepted`), and which tables it
leaves. `Frame` is what a bootstrap may not touch, the profiles and the keys of other sellers.

The source reads the account once more after the commit, and it writes the profiles under the seller that each of them
names. So an error comes with the tables changed when the seller, or its tenant, is not active, and another seller's
profile is overwritten when the configuration names it: `bootstrap_atomic_iff`.
-/

namespace HostedFacilitator.Sellers

open Transaction

variable {env : Env} {c : AccountConfig} {now : Instant} {db db' : Db}

/-! ## The tenant and the seller -/

/-- The seller row that a bootstrap inserts. -/
def AccountConfig.seller (c : AccountConfig) (now : Instant) : Seller :=
  { id := c.sellerAccountId, tenantId := c.tenantId, name := c.sellerAccountId, environment := c.environment
    status := "active", createdAt := now, updatedAt := now }

/-- What the insert sets on a seller that is there: nothing, when it is not active. -/
def Seller.refreshed (row s : Seller) : Seller :=
  if s.status = "active" then { s with name := row.name, environment := row.environment, updatedAt := row.updatedAt }
  else s

theorem Seller.refreshed_id (row s : Seller) : (row.refreshed s).id = s.id := by
  unfold Seller.refreshed
  split <;> rfl

theorem Seller.refreshed_status (row s : Seller) : (row.refreshed s).status = s.status := by
  unfold Seller.refreshed
  split <;> rfl

theorem Seller.refreshed_tenantId (row s : Seller) : (row.refreshed s).tenantId = s.tenantId := by
  unfold Seller.refreshed
  split <;> rfl

theorem AccountConfig.seller_refreshed_id (c : AccountConfig) (now : Instant) (s : Seller) :
    ((c.seller now).refreshed s).id = s.id := Seller.refreshed_id _ s

theorem Tenant.kept_id (t : Tenant) : t.id = t.id := rfl

/-- The tables with the tenant and the seller of a configuration. -/
def Db.withAccount (c : AccountConfig) (now : Instant) (db : Db) : Db :=
  { db with
    tenants := db.tenants.upsert (newTenant c.tenantId now) (fun t => t) Tenant.kept_id
    sellers := db.sellers.upsert (c.seller now) (Seller.refreshed (c.seller now)) (c.seller_refreshed_id now) }

/-- The tenant of the configuration is active, or not there yet. -/
def AccountConfig.TenantFits (c : AccountConfig) (db : Db) : Prop :=
  ∀ t, db.tenants.get c.tenantId = some t → t.status = "active"

theorem withAccount_tenant (k : String) : (db.withAccount c now).tenants.get k =
    if k = c.tenantId then some ((db.tenants.get k).getD (newTenant c.tenantId now)) else db.tenants.get k := by
  rw [Db.withAccount, Keyed.get_upsert]
  cases db.tenants.get k <;> rfl

theorem withAccount_seller (k : String) : (db.withAccount c now).sellers.get k =
    if k = c.sellerAccountId then some (((db.sellers.get k).map (Seller.refreshed (c.seller now))).getD (c.seller now))
    else db.sellers.get k := by
  rw [Db.withAccount, Keyed.get_upsert]
  rfl

variable (c now db db') in
/-- The first three statements. -/
theorem exec_account (body : Statement PUnit) :
    exec (do
      ensureTenant c.tenantId now
      assertActiveTenant c.tenantId
      upsertSeller (c.seller now)
      body) db = (.ok (), db') ↔ c.TenantFits db ∧ exec body (db.withAccount c now) = (.ok (), db') := by
  have hget : (db.withAccount c now).tenants.get c.tenantId =
      some ((db.tenants.get c.tenantId).getD (newTenant c.tenantId now)) := by rw [withAccount_tenant, if_pos rfl]
  have hactive : ((db.withAccount c now).tenants.get c.tenantId).any (·.status = "active") = true ↔
      c.TenantFits db := by
    rw [hget, AccountConfig.TenantFits]
    cases db.tenants.get c.tenantId with
    | none => simp [newTenant]
    | some t => simp
  have hsome : ((db.withAccount c now).tenants.get c.tenantId).isSome = true := by rw [hget]; rfl
  simp only [ensureTenant, assertActiveTenant, upsertSeller, bind_assoc, modify_bind_eq_ok, get_bind_eq_ok,
    require_bind_eq_ok, set_bind_eq_ok]
  constructor
  · rintro ⟨hany, -, h⟩
    exact ⟨hactive.mp hany, h⟩
  · rintro ⟨hfits, h⟩
    refine ⟨hactive.mpr hfits, ?_, h⟩
    rw [Bool.or_eq_true]
    exact Or.inr hsome

/-! ## The profiles -/

/-- The row of a profile after it was written over the one that is there. -/
def Profile.over (row old : Profile) : Profile :=
  { row with id := old.id, sellerAccountId := old.sellerAccountId, createdAt := old.createdAt }

theorem Profile.over_key (row old : Profile) : (row.over old).key = old.key := rfl

/-- The tables with one profile written. -/
def Db.withProfile (env : Env) (now : Instant) (db : Db) (p : ProfileConfig) : Db :=
  { db with profiles := db.profiles.upsert (p.row env now) (Profile.over (p.row env now)) (Profile.over_key _) }

def ProfileConfig.key (p : ProfileConfig) : String × String := (p.sellerAccountId, p.paymentProfileId)

/-- The profile is there, or its seller is. -/
def Db.Knows (db : Db) (p : ProfileConfig) : Prop :=
  (db.profiles.get p.key).isSome ∨ (db.sellers.get p.sellerAccountId).isSome

variable {p q : ProfileConfig}

theorem withProfile_get (k : String × String) : (db.withProfile env now p).profiles.get k =
    if k = p.key then some (((db.profiles.get k).map (Profile.over (p.row env now))).getD (p.row env now))
    else db.profiles.get k := by
  rw [Db.withProfile, Keyed.get_upsert]
  rfl

theorem upsertPaymentProfile_ok {u : PUnit} :
    exec (upsertPaymentProfile env p now) db = (.ok u, db') ↔ db.Knows p ∧ db' = db.withProfile env now p := by
  have hknows : ((db.profiles.get (p.row env now).key).isSome ||
      (db.sellers.get (p.row env now).sellerAccountId).isSome) = true ↔ db.Knows p := Bool.or_eq_true _ _ ▸ Iff.rfl
  simp only [upsertPaymentProfile, get_bind_eq_ok, require_bind_eq_ok, set_eq_ok]
  exact and_congr_left fun _ => hknows

/-- A profile that is written makes no other one known. -/
theorem knows_withProfile (h : db.Knows p) : (db.withProfile env now p).Knows q ↔ db.Knows q := by
  unfold Db.Knows at h ⊢
  rw [withProfile_get]
  by_cases hk : q.key = p.key
  · have hseller : q.sellerAccountId = p.sellerAccountId := congrArg Prod.fst hk
    rw [if_pos hk, hk, hseller]
    exact iff_of_true (Or.inl rfl) h
  · rw [if_neg hk]
    rfl

/-- The profiles, one after the other. -/
theorem exec_profiles {l : List ProfileConfig} :
    exec (l.forM fun p => upsertPaymentProfile env p now) db = (.ok ⟨⟩, db') ↔
      (∀ p ∈ l, db.Knows p) ∧ db' = l.foldl (Db.withProfile env now) db := by
  rw [forM_eq_ok fun p s s' => upsertPaymentProfile_ok, guarded_iff fun s p q => knows_withProfile]

/-! ## The keys -/

/-- The hash of a configured key. -/
def keyHashOf (env : Env) (key : String) : String := env.digest (strip key)

/-- The id that a configured key gets. -/
def bootstrapKeyId (keyHash : String) : String := "key_" ++ String.ofList (keyHash.toList.take 24)

/-- A configured key can be written: it is where it is configured already, or it is new and has a profile. -/
structure Db.KeyFits (env : Env) (seller : String) (hasProfile : String → Prop) (db : Db)
    (configured : String × String) : Prop where
  nonempty : strip configured.1 ≠ ""
  bound : ∀ k, db.keys.get (keyHashOf env configured.1) = some k →
    k.sellerAccountId = seller ∧ k.paymentProfileId = configured.2
  fresh : db.keys.get (keyHashOf env configured.1) = none →
    bootstrapKeyId (keyHashOf env configured.1) ∉ db.keys.rows.map ApiKey.keyId ∧ hasProfile configured.2

theorem ApiKey.reactivated_configured (configured : String × String) (k : ApiKey) :
    (k.reactivated (sellerKeyPrefix configured.1)).keyHash = k.keyHash := ApiKey.reactivated_keyHash _ k

/-- The tables with one configured key written. -/
def Db.withKey (env : Env) (seller : String) (now : Instant) (db : Db) (configured : String × String) : Db :=
  { db with
    keys := db.keys.upsert (bootstrapKey configured.1 (keyHashOf env configured.1) seller configured.2 now)
      (ApiKey.reactivated (sellerKeyPrefix configured.1)) (ApiKey.reactivated_configured configured) }

variable {seller : String} {a b : String × String}

theorem insertSellerApiKeyRow_ok {row : ApiKey} (hnone : db.keys.get row.keyHash = none) :
    exec (insertSellerApiKeyRow row) db = (.ok ⟨⟩, db') ↔
      (row.keyId ∉ db.keys.rows.map ApiKey.keyId ∧
        (db.profiles.get (row.sellerAccountId, row.paymentProfileId)).isSome) ∧
      ∃ keys, db.keys.insert row = some keys ∧ db' = { db with keys := keys } := by
  obtain ⟨keys, hkeys⟩ := Option.isSome_iff_exists.mp (Keyed.insert_isSome.mpr hnone)
  have hid : (!db.keys.rows.any (·.keyId = row.keyId)) = true ↔ row.keyId ∉ db.keys.rows.map ApiKey.keyId := by
    simp [List.mem_map]
  simp only [insertSellerApiKeyRow, get_bind_eq_ok, attempt_bind_eq_ok, require_bind_eq_ok, set_eq_ok, hkeys,
    Option.elim_some, Except.ok.injEq, Option.some.injEq, exists_eq_left', hid, and_assoc]

theorem upsertBootstrapApiKey_ok :
    exec (upsertBootstrapApiKey env seller now a) db = (.ok ⟨⟩, db') ↔
      db.KeyFits env seller (fun id => (db.profiles.get (seller, id)).isSome) a ∧
        db' = db.withKey env seller now a := by
  have hhash : sellerKeyHash env a.1 = if strip a.1 = "" then .error (.value "seller API key is required")
      else .ok (keyHashOf env a.1) := rfl
  simp only [upsertBootstrapApiKey, attempt_bind_eq_ok, get_bind_eq_ok]
  rw [hhash]
  by_cases hempty : strip a.1 = ""
  · rw [if_pos hempty]
    refine iff_of_false (fun h => ?_) fun h => h.1.nonempty hempty
    obtain ⟨_, h, -⟩ := h
    cases h
  · simp only [if_neg hempty, Except.ok.injEq, exists_eq_left']
    cases hk : db.keys.get (keyHashOf env a.1) with
    | some k =>
      -- the key is there: it has to be bound as configured, and is activated
      have hinsert : db.keys.insert (bootstrapKey a.1 (keyHashOf env a.1) seller a.2 now) = none := by
        rw [← Option.not_isSome_iff_eq_none, Keyed.insert_isSome, ← Ne, ← Option.isSome_iff_ne_none]
        exact Option.isSome_iff_exists.mpr ⟨k, hk⟩
      have hwrite : db.withKey env seller now a = { db with
          keys := db.keys.update (·.keyHash == keyHashOf env a.1) (ApiKey.reactivated (sellerKeyPrefix a.1))
            (ApiKey.reactivated_keyHash _) } := by
        rw [Db.withKey, Keyed.upsert, hinsert]
        rfl
      simp only [require_bind_eq_ok, set_eq_ok, hwrite, Bool.and_eq_true, decide_eq_true_eq]
      refine and_congr_left fun _ => ⟨fun hbound => ⟨hempty, fun k' hk' => ?_, fun hnone => ?_⟩, fun h => h.bound k hk⟩
      · cases hk.symm.trans hk'
        exact hbound
      · cases hk.symm.trans hnone
    | none =>
      -- the key is new: its id must be free, and its profile there
      have hnone : db.keys.get (bootstrapKey a.1 (keyHashOf env a.1) seller a.2 now).keyHash = none := hk
      rw [insertSellerApiKeyRow_ok hnone]
      refine and_congr ⟨fun hfree => ⟨hempty, fun k hk' => ?_, fun _ => hfree⟩, fun h => h.fresh hk⟩ ?_
      · cases hk.symm.trans hk'
      · obtain ⟨keys, hkeys⟩ := Option.isSome_iff_exists.mp (Keyed.insert_isSome.mpr hnone)
        rw [Db.withKey, Keyed.upsert, hkeys]
        simp

/-- What two configured keys must not do to each other. -/
structure Db.KeysFit (env : Env) (db : Db) (a b : String × String) : Prop where
  bound : keyHashOf env a.1 = keyHashOf env b.1 → a.2 = b.2
  fresh : bootstrapKeyId (keyHashOf env a.1) = bootstrapKeyId (keyHashOf env b.1) →
    db.keys.get (keyHashOf env a.1) = none → db.keys.get (keyHashOf env b.1) = none →
    keyHashOf env a.1 = keyHashOf env b.1

theorem withKey_get (keyHash : String) : (db.withKey env seller now a).keys.get keyHash =
    if keyHash = keyHashOf env a.1 then
      some (((db.keys.get keyHash).map (ApiKey.reactivated (sellerKeyPrefix a.1))).getD
        (bootstrapKey a.1 (keyHashOf env a.1) seller a.2 now))
    else db.keys.get keyHash := by
  rw [Db.withKey, Keyed.get_upsert]
  rfl

theorem ApiKey.reactivated_keyId (keyPrefix : String) (k : ApiKey) : (k.reactivated keyPrefix).keyId = k.keyId := rfl

theorem ApiKey.reactivated_bound (keyPrefix : String) (k : ApiKey) :
    (k.reactivated keyPrefix).sellerAccountId = k.sellerAccountId ∧
      (k.reactivated keyPrefix).paymentProfileId = k.paymentProfileId := ⟨rfl, rfl⟩

theorem withKey_ids : (db.withKey env seller now a).keys.rows.map ApiKey.keyId =
    if db.keys.get (keyHashOf env a.1) = none then
      db.keys.rows.map ApiKey.keyId ++ [bootstrapKeyId (keyHashOf env a.1)]
    else db.keys.rows.map ApiKey.keyId := by
  simp only [Db.withKey, Keyed.map_rows_upsert _ (ApiKey.reactivated_keyId _), bootstrapKey, bootstrapKeyId]

variable {hasProfile : String → Prop}

variable (now) in
/-- A key that was written is there, bound as configured. -/
theorem withKey_get_self (h : db.KeyFits env seller hasProfile a) :
    ∃ k, (db.withKey env seller now a).keys.get (keyHashOf env a.1) = some k ∧ k.sellerAccountId = seller ∧
      k.paymentProfileId = a.2 := by
  rw [withKey_get, if_pos rfl]
  cases hk : db.keys.get (keyHashOf env a.1) with
  | none => exact ⟨_, rfl, rfl, rfl⟩
  | some k =>
    obtain ⟨hseller, hprofile⟩ := ApiKey.reactivated_bound (sellerKeyPrefix a.1) k
    exact ⟨_, rfl, hseller.trans (h.bound k hk).1, hprofile.trans (h.bound k hk).2⟩

/-- What a key that was written means for another one. -/
theorem keyFits_withKey (h : db.KeyFits env seller hasProfile a) :
    (db.withKey env seller now a).KeyFits env seller hasProfile b ↔
      db.KeyFits env seller hasProfile b ∧ db.KeysFit env a b := by
  by_cases heq : keyHashOf env b.1 = keyHashOf env a.1
  · -- the same key: it has to be for the same profile
    obtain ⟨k, hk, hseller, hprofile⟩ := withKey_get_self now h
    constructor
    · intro hb
      have hsame : a.2 = b.2 := hprofile.symm.trans (hb.bound k (heq ▸ hk)).2
      refine ⟨⟨hb.nonempty, fun k' hk' => ?_, fun hnone => ?_⟩, fun _ => hsame, fun _ _ _ => heq.symm⟩
      · rw [← hsame]
        exact h.bound k' (heq ▸ hk')
      · rw [heq] at hnone ⊢
        rw [← hsame]
        exact h.fresh hnone
    · rintro ⟨hb, hfit⟩
      refine ⟨hb.nonempty, fun k' hk' => ?_, fun hnone => ?_⟩
      · rw [heq, hk] at hk'
        cases hk'
        exact ⟨hseller, hprofile.trans (hfit.bound heq.symm)⟩
      · rw [heq, hk] at hnone
        cases hnone
  · -- another key: the two may only meet in the id
    have hget : (db.withKey env seller now a).keys.get (keyHashOf env b.1) = db.keys.get (keyHashOf env b.1) := by
      rw [withKey_get, if_neg heq]
    have hids : bootstrapKeyId (keyHashOf env b.1) ∉ (db.withKey env seller now a).keys.rows.map ApiKey.keyId ↔
        bootstrapKeyId (keyHashOf env b.1) ∉ db.keys.rows.map ApiKey.keyId ∧
          (db.keys.get (keyHashOf env a.1) = none →
            bootstrapKeyId (keyHashOf env a.1) ≠ bootstrapKeyId (keyHashOf env b.1)) := by
      rw [withKey_ids]
      split
      · rename_i hnone
        simp [hnone, List.mem_append, eq_comm]
      · rename_i hsome
        simp [hsome]
    constructor
    · intro hb
      refine ⟨⟨hb.nonempty, fun k' hk' => hb.bound k' (hget.trans hk'), fun hnone => ?_⟩,
        fun he => absurd he.symm heq, fun hid ha hnone => ?_⟩
      · exact ⟨(hids.mp (hb.fresh (hget.trans hnone)).1).1, (hb.fresh (hget.trans hnone)).2⟩
      · exact absurd hid ((hids.mp (hb.fresh (hget.trans hnone)).1).2 ha)
    · rintro ⟨hb, hfit⟩
      refine ⟨hb.nonempty, fun k' hk' => hb.bound k' (hget.symm.trans hk'), fun hnone' => ?_⟩
      have hnone := hget.symm.trans hnone'
      obtain ⟨hfree, hprofile⟩ := hb.fresh hnone
      exact ⟨hids.mpr ⟨hfree, fun ha hid => heq (hfit.fresh hid ha hnone).symm⟩, hprofile⟩

/-- Two keys that get on with a key that was written get on as before. -/
theorem keysFit_withKey {d : String × String} (hb : db.KeysFit env a b) (hd : db.KeysFit env a d) :
    (db.withKey env seller now a).KeysFit env b d ↔ db.KeysFit env b d := by
  have hnone : ∀ k, (db.withKey env seller now a).keys.get k = none ↔ k ≠ keyHashOf env a.1 ∧ db.keys.get k = none := by
    intro k
    rw [withKey_get]
    split
    · rename_i he
      simp [he]
    · rename_i hne
      simp [hne]
  constructor
  · intro h
    refine ⟨h.bound, fun hid hbnone hdnone => ?_⟩
    by_cases heb : keyHashOf env b.1 = keyHashOf env a.1
    · rw [heb] at hid hbnone ⊢
      exact hd.fresh hid hbnone hdnone
    · by_cases hed : keyHashOf env d.1 = keyHashOf env a.1
      · rw [hed] at hid hdnone ⊢
        exact (hb.fresh hid.symm hdnone hbnone).symm
      · exact h.fresh hid ((hnone _).mpr ⟨heb, hbnone⟩) ((hnone _).mpr ⟨hed, hdnone⟩)
  · intro h
    exact ⟨h.bound, fun hid hbnone hdnone => h.fresh hid ((hnone _).mp hbnone).2 ((hnone _).mp hdnone).2⟩

/-- The keys can be written one after the other when each can, and no two are in each other's way. -/
theorem guarded_keys {l : List (String × String)} :
    Guarded (fun s => s.KeyFits env seller fun id => (s.profiles.get (seller, id)).isSome) (Db.withKey env seller now)
        db l ↔
      (∀ a ∈ l, db.KeyFits env seller (fun id => (db.profiles.get (seller, id)).isSome) a) ∧
        l.Pairwise (db.KeysFit env) := by
  induction l generalizing db with
  | nil => simp [Guarded]
  | cons a l ih =>
    rw [Guarded, ih, List.forall_mem_cons, List.pairwise_cons]
    constructor
    · rintro ⟨ha, hl, hpairs⟩
      have hall := fun b hb => (keyFits_withKey ha).mp (hl b hb)
      refine ⟨⟨ha, fun b hb => (hall b hb).1⟩, fun b hb => (hall b hb).2, ?_⟩
      exact hpairs.imp_of_mem fun hb hd h => (keysFit_withKey (hall _ hb).2 (hall _ hd).2).mp h
    · rintro ⟨⟨ha, hl⟩, hfirst, hpairs⟩
      refine ⟨ha, fun b hb => (keyFits_withKey ha).mpr ⟨hl b hb, hfirst b hb⟩, ?_⟩
      exact hpairs.imp_of_mem fun hb hd h => (keysFit_withKey (hfirst _ hb) (hfirst _ hd)).mpr h

/-- The keys, one after the other. -/
theorem exec_keys {l : List (String × String)} :
    exec (l.forM (upsertBootstrapApiKey env seller now)) db = (.ok ⟨⟩, db') ↔
      ((∀ a ∈ l, db.KeyFits env seller (fun id => (db.profiles.get (seller, id)).isSome) a) ∧
        l.Pairwise (db.KeysFit env)) ∧ db' = l.foldl (Db.withKey env seller now) db := by
  rw [forM_eq_ok fun a s s' => upsertBootstrapApiKey_ok, guarded_keys]

/-! ## The transaction -/

variable (env now) in
/-- What the writes of profiles leave alone. -/
theorem foldl_withProfile (l : List ProfileConfig) (db : Db) :
    (l.foldl (Db.withProfile env now) db).tenants = db.tenants ∧
      (l.foldl (Db.withProfile env now) db).sellers = db.sellers ∧
      (l.foldl (Db.withProfile env now) db).keys = db.keys := by
  induction l generalizing db with
  | nil => exact ⟨rfl, rfl, rfl⟩
  | cons p l ih => exact ih _

variable (env now seller) in
/-- What the writes of keys leave alone. -/
theorem foldl_withKey (l : List (String × String)) (db : Db) :
    (l.foldl (Db.withKey env seller now) db).tenants = db.tenants ∧
      (l.foldl (Db.withKey env seller now) db).sellers = db.sellers ∧
      (l.foldl (Db.withKey env seller now) db).profiles = db.profiles := by
  induction l generalizing db with
  | nil => exact ⟨rfl, rfl, rfl⟩
  | cons a l ih => exact ih _

variable (env now) in
/-- After the profiles are written, each of them bears the time. -/
theorem foldl_withProfile_get {l : List ProfileConfig} (hp : p ∈ l) (db : Db) :
    ∃ row, (l.foldl (Db.withProfile env now) db).profiles.get p.key = some row ∧ row.updatedAt = now := by
  -- a row that bears the time keeps it
  have hkeeps : ∀ (l : List ProfileConfig) (db : Db) (k : String × String),
      (∃ row, db.profiles.get k = some row ∧ row.updatedAt = now) →
        ∃ row, (l.foldl (Db.withProfile env now) db).profiles.get k = some row ∧ row.updatedAt = now := by
    intro l
    induction l with
    | nil => exact fun db k h => h
    | cons q l ih =>
      rintro db k ⟨row, hrow, hnow⟩
      refine ih _ k ?_
      rw [withProfile_get]
      split
      · rw [hrow]
        exact ⟨_, rfl, rfl⟩
      · exact ⟨row, hrow, hnow⟩
  induction l generalizing db with
  | nil => cases hp
  | cons q l ih =>
    rcases List.mem_cons.mp hp with rfl | hp
    · refine hkeeps l _ _ ?_
      rw [withProfile_get, if_pos rfl]
      cases db.profiles.get p.key <;> exact ⟨_, rfl, rfl⟩
    · exact ih hp _

/-- A profile is there after the writes when it was there, or was written. -/
theorem foldl_withProfile_isSome {l : List ProfileConfig} {k : String × String} :
    ((l.foldl (Db.withProfile env now) db).profiles.get k).isSome ↔
      (∃ p ∈ l, p.key = k) ∨ (db.profiles.get k).isSome := by
  induction l generalizing db with
  | nil => simp
  | cons q l ih =>
    rw [List.foldl_cons, ih, withProfile_get]
    by_cases hk : k = q.key
    · rw [if_pos hk]
      exact iff_of_true (Or.inr rfl) (Or.inl ⟨q, List.mem_cons_self, hk.symm⟩)
    · rw [if_neg hk]
      simp [List.mem_cons, Ne.symm hk]

/-- The profile is configured for the seller, or there already. -/
def AccountConfig.HasProfile (c : AccountConfig) (db : Db) (id : String) : Prop :=
  (∃ p ∈ c.profiles, p.key = (c.sellerAccountId, id)) ∨ (db.profiles.get (c.sellerAccountId, id)).isSome

/-- The tables do not refuse the configuration. -/
structure AccountConfig.Accepted (env : Env) (c : AccountConfig) (db : Db) : Prop where
  tenant : c.TenantFits db
  profiles : ∀ p ∈ c.profiles, p.sellerAccountId = c.sellerAccountId ∨ db.Knows p
  keys : ∀ a ∈ c.keys, db.KeyFits env c.sellerAccountId (c.HasProfile db) a
  pairs : c.keys.Pairwise (db.KeysFit env)

/-- The tables with everything that a configuration names. -/
def Db.withConfig (env : Env) (c : AccountConfig) (now : Instant) (db : Db) : Db :=
  c.keys.foldl (Db.withKey env c.sellerAccountId now)
    (c.profiles.foldl (Db.withProfile env now) (db.withAccount c now))

/-- The seller of the configuration is there when the profiles are written. -/
theorem knows_withAccount :
    (db.withAccount c now).Knows p ↔ p.sellerAccountId = c.sellerAccountId ∨ db.Knows p := by
  unfold Db.Knows
  rw [withAccount_seller]
  by_cases hseller : p.sellerAccountId = c.sellerAccountId
  · rw [if_pos hseller]
    exact iff_of_true (Or.inr rfl) (Or.inl hseller)
  · rw [if_neg hseller]
    exact ⟨Or.inr, fun h => h.resolve_left hseller⟩

/-- A key fits by the keys and by the profiles that are there. -/
theorem keyFits_congr {hasProfile' : String → Prop} (hkeys : db'.keys = db.keys)
    (hprofile : ∀ id, hasProfile' id ↔ hasProfile id) :
    db'.KeyFits env seller hasProfile' a ↔ db.KeyFits env seller hasProfile a := by
  have heq : hasProfile' = hasProfile := funext fun id => propext (hprofile id)
  subst heq
  constructor
  · intro h
    exact ⟨h.nonempty, hkeys ▸ h.bound, hkeys ▸ h.fresh⟩
  · intro h
    exact ⟨h.nonempty, hkeys.symm ▸ h.bound, hkeys.symm ▸ h.fresh⟩

theorem keysFit_congr (hkeys : db'.keys = db.keys) : db'.KeysFit env a b ↔ db.KeysFit env a b := by
  constructor
  · intro h
    exact ⟨h.bound, hkeys ▸ h.fresh⟩
  · intro h
    exact ⟨h.bound, hkeys.symm ▸ h.fresh⟩

/-- The account, then the profiles, then the keys. -/
theorem bootstrapBody_stages :
    exec (bootstrapBody env c now) db = (.ok ⟨⟩, db') ↔ c.TenantFits db ∧ ∃ db₁,
      exec (c.profiles.forM fun p => upsertPaymentProfile env p now) (db.withAccount c now) = (.ok ⟨⟩, db₁) ∧
      exec (c.keys.forM (upsertBootstrapApiKey env c.sellerAccountId now)) db₁ = (.ok ⟨⟩, db') := by
  have haccount := exec_account c now db db' (do
    c.profiles.forM fun p => upsertPaymentProfile env p now
    c.keys.forM (upsertBootstrapApiKey env c.sellerAccountId now))
  refine haccount.trans (and_congr_right fun _ => ?_)
  rw [bind_eq_ok]
  exact ⟨fun ⟨_, h⟩ => h, fun h => ⟨⟨⟩, h⟩⟩

/-- When the transaction commits, and what it leaves. -/
theorem bootstrapBody_ok :
    exec (bootstrapBody env c now) db = (.ok ⟨⟩, db') ↔ c.Accepted env db ∧ db' = db.withConfig env c now := by
  rw [bootstrapBody_stages]
  have hkeys : (c.profiles.foldl (Db.withProfile env now) (db.withAccount c now)).keys = db.keys :=
    (foldl_withProfile _ _ _ _).2.2
  have hfits : ∀ a, (c.profiles.foldl (Db.withProfile env now) (db.withAccount c now)).KeyFits env c.sellerAccountId
      (fun id => ((c.profiles.foldl (Db.withProfile env now) (db.withAccount c now)).profiles.get
        (c.sellerAccountId, id)).isSome) a ↔ db.KeyFits env c.sellerAccountId (c.HasProfile db) a :=
    fun a => keyFits_congr hkeys fun id => foldl_withProfile_isSome
  have hpairs : (c.profiles.foldl (Db.withProfile env now) (db.withAccount c now)).KeysFit env = db.KeysFit env :=
    funext fun a => funext fun b => propext (keysFit_congr hkeys)
  constructor
  · rintro ⟨htenant, t, hprofiles, hrest⟩
    obtain ⟨hknown, rfl⟩ := exec_profiles.mp hprofiles
    obtain ⟨⟨hall, hpair⟩, hdb'⟩ := exec_keys.mp hrest
    refine ⟨⟨htenant, fun p hp => knows_withAccount.mp (hknown p hp), fun a ha => (hfits a).mp (hall a ha), ?_⟩, hdb'⟩
    rw [← hpairs]
    exact hpair
  · rintro ⟨h, hdb'⟩
    refine ⟨h.tenant, _, exec_profiles.mpr ⟨fun p hp => knows_withAccount.mpr (h.profiles p hp), rfl⟩, ?_⟩
    refine exec_keys.mpr ⟨⟨fun a ha => (hfits a).mpr (h.keys a ha), ?_⟩, hdb'⟩
    rw [hpairs]
    exact h.pairs

/-! ## The frame -/

/-- The profiles and the keys of the other sellers are as they were. -/
structure Frame (seller : String) (db db' : Db) : Prop where
  profiles : ∀ k : String × String, k.1 ≠ seller → db'.profiles.get k = db.profiles.get k
  keys : ∀ keyHash (k : ApiKey), k.sellerAccountId ≠ seller →
    (db'.keys.get keyHash = some k ↔ db.keys.get keyHash = some k)

theorem Frame.refl (seller : String) (db : Db) : Frame seller db db := ⟨fun _ _ => rfl, fun _ _ _ => Iff.rfl⟩

theorem Frame.trans (seller : String) (db db' db'' : Db) (h : Frame seller db db') (h' : Frame seller db' db'') :
    Frame seller db db'' where
  profiles k hk := (h'.profiles k hk).trans (h.profiles k hk)
  keys keyHash k hk := (h'.keys keyHash k hk).trans (h.keys keyHash k hk)

/-- A profile of the seller itself. -/
theorem upsertPaymentProfile_frame (hown : p.sellerAccountId = seller) :
    Moves (Frame seller) (upsertPaymentProfile env p now) := by
  intro db u db' h
  obtain ⟨-, rfl⟩ := upsertPaymentProfile_ok.mp h
  refine ⟨fun k hk => ?_, fun _ _ _ => Iff.rfl⟩
  have hne : k ≠ p.key := fun heq => hk ((congrArg Prod.fst heq).trans hown)
  rw [withProfile_get, if_neg hne]

/-- A configured key is bound to the seller, before and after. -/
theorem upsertBootstrapApiKey_frame : Moves (Frame seller) (upsertBootstrapApiKey env seller now a) := by
  intro db u db' h
  obtain ⟨hfits, rfl⟩ := upsertBootstrapApiKey_ok.mp h
  refine ⟨fun _ _ => rfl, fun keyHash k hk => ?_⟩
  by_cases hkey : keyHash = keyHashOf env a.1
  · subst hkey
    obtain ⟨k', hk', hseller, -⟩ := withKey_get_self now hfits
    refine iff_of_false (fun hafter => hk ?_) fun hbefore => hk (hfits.bound k hbefore).1
    cases hk'.symm.trans hafter
    exact hseller
  · rw [withKey_get, if_neg hkey]

theorem bootstrapBody_frame (hown : ∀ p ∈ c.profiles, p.sellerAccountId = c.sellerAccountId) :
    Moves (Frame c.sellerAccountId) (bootstrapBody env c now) := by
  have refl := Frame.refl c.sellerAccountId
  have trans := Frame.trans c.sellerAccountId
  intro db u db' h
  obtain ⟨-, db₁, hprofiles, hkeys⟩ := bootstrapBody_stages.mp h
  have haccount : Frame c.sellerAccountId db (db.withAccount c now) := ⟨fun _ _ => rfl, fun _ _ _ => Iff.rfl⟩
  have hfirst : Frame c.sellerAccountId (db.withAccount c now) db₁ :=
    Moves.forM refl trans (fun p hp => upsertPaymentProfile_frame (hown p hp)) _ _ _ hprofiles
  have hlast : Frame c.sellerAccountId db₁ db' :=
    Moves.forM refl trans (fun a _ => upsertBootstrapApiKey_frame) _ _ _ hkeys
  exact trans _ _ _ haccount (trans _ _ _ hfirst hlast)

/-! ## After the commit -/

/-- The seller, when it is there, is active, and so is its tenant, which may be the configured one. -/
def AccountConfig.SellerReady (c : AccountConfig) (db : Db) : Prop :=
  ∀ s, db.sellers.get c.sellerAccountId = some s →
    s.status = "active" ∧ (s.tenantId = c.tenantId ∨ ∃ t, db.tenants.get s.tenantId = some t ∧ t.status = "active")

theorem withConfig_activeSeller :
    (db.withConfig env c now).activeSeller c.sellerAccountId = (db.withAccount c now).activeSeller c.sellerAccountId := by
  obtain ⟨htenants, hsellers, -⟩ := foldl_withProfile env now c.profiles (db.withAccount c now)
  obtain ⟨htenants', hsellers', -⟩ := foldl_withKey env now c.sellerAccountId c.keys
    (c.profiles.foldl (Db.withProfile env now) (db.withAccount c now))
  unfold Db.activeSeller Db.withConfig
  rw [htenants', hsellers', htenants, hsellers]

variable (now) in
/-- Whether a tenant is active once the configured one is there. -/
theorem withAccount_tenant_active (h : c.TenantFits db) (id : String) :
    ((db.withAccount c now).tenants.get id).any (·.status = "active") = true ↔
      id = c.tenantId ∨ ∃ t, db.tenants.get id = some t ∧ t.status = "active" := by
  rw [withAccount_tenant]
  by_cases hid : id = c.tenantId
  · rw [if_pos hid, hid]
    refine iff_of_true ?_ (Or.inl rfl)
    cases ht : db.tenants.get c.tenantId with
    | none => simp [newTenant]
    | some t => simpa using h t ht
  · rw [if_neg hid]
    cases ht : db.tenants.get id with
    | none => simp [hid]
    | some t => simp [hid]

variable (env now) in
/-- When the account is found after the commit. -/
theorem getSellerAccount_withConfig (h : c.TenantFits db) :
    ((db.withConfig env c now).getSellerAccount env c.sellerAccountId).isSome ↔ c.SellerReady db := by
  rw [Db.getSellerAccount, Option.isSome_map, withConfig_activeSeller, Db.activeSeller, withAccount_seller, if_pos rfl,
    AccountConfig.SellerReady]
  cases hs : db.sellers.get c.sellerAccountId with
  | none =>
    have hactive := (withAccount_tenant_active now h c.tenantId).mpr (Or.inl rfl)
    simp only [Option.map_none, Option.getD_none, Option.filter_some, AccountConfig.seller, hactive]
    simp
  | some s =>
    have hactive := withAccount_tenant_active now h s.tenantId
    simp only [Option.map_some, Option.getD_some, Option.filter_some, Seller.refreshed_status, Seller.refreshed_tenantId,
      Option.some.injEq, forall_eq']
    rw [← hactive]
    simp

/-! ## Atomicity -/

/-- The four tables of the accounts are the same. -/
structure Db.SameAccounts (db db' : Db) : Prop where
  tenants : db.tenants = db'.tenants
  sellers : db.sellers = db'.sellers
  profiles : db.profiles = db'.profiles
  keys : db.keys = db'.keys

/-- A bootstrap returns or has changed nothing, and it never touches another seller. -/
structure BootstrapAtomic (env : Env) (c : AccountConfig) (now : Instant) (db : Db) : Prop where
  atomic : (db.bootstrapSellerAccount env c now).1 = .ok ⟨⟩ ∨ (db.bootstrapSellerAccount env c now).2.SameAccounts db
  frame : Frame c.sellerAccountId db (db.bootstrapSellerAccount env c now).2

/-- The seller can be read back, and every profile is for it. -/
structure AccountConfig.Safe (c : AccountConfig) (db : Db) : Prop where
  seller : c.SellerReady db
  profiles : ∀ p ∈ c.profiles, p.sellerAccountId = c.sellerAccountId

theorem profiles_nonempty (c : AccountConfig) : ∃ p, p ∈ c.profiles := by
  unfold AccountConfig.profiles
  cases h : c.paymentProfiles with
  | nil => exact ⟨_, List.mem_singleton_self _⟩
  | cons p l => exact ⟨p, List.mem_cons_self⟩

variable (now) in
/-- A bootstrap that the tables refuse is rolled back. -/
theorem bootstrap_refused (h : ¬ c.Accepted env db) :
    (db.bootstrapSellerAccount env c now).2.SameAccounts db ∧
      Frame c.sellerAccountId db (db.bootstrapSellerAccount env c now).2 := by
  rw [Db.bootstrapSellerAccount, readBack_snd]
  rcases atomically_cases undo (bootstrapBody env c now) db with ⟨⟨⟩, db', hbody, -⟩ | ⟨e, db', hdone⟩
  · exact absurd (bootstrapBody_ok.mp hbody).1 h
  · rw [hdone]
    exact ⟨⟨rfl, rfl, rfl, rfl⟩, fun _ _ => rfl, fun _ _ _ => Iff.rfl⟩

variable (now) in
/-- A bootstrap that they accept is committed, and then looks for the account. -/
theorem bootstrap_accepted (h : c.Accepted env db) :
    (db.bootstrapSellerAccount env c now).2 = db.withConfig env c now ∧
      ((db.bootstrapSellerAccount env c now).1 = .ok ⟨⟩ ↔ c.SellerReady db) := by
  have hdone : atomically undo (bootstrapBody env c now) db = (.ok ⟨⟩, db.withConfig env c now) := by
    rw [atomically, bootstrapBody_ok.mpr ⟨h, rfl⟩]
  rw [Db.bootstrapSellerAccount, readBack_snd, hdone]
  refine ⟨rfl, ?_⟩
  rw [← getSellerAccount_withConfig env now h.tenant, readBack]
  cases (db.withConfig env c now).getSellerAccount env c.sellerAccountId with
  | none => exact iff_of_false (fun h => by cases h) (fun h => by cases h)
  | some account => exact iff_of_true rfl rfl

/-- The profiles that were there bear another time than the bootstrap gives them. -/
def AccountConfig.Later (c : AccountConfig) (now : Instant) (db : Db) : Prop :=
  ∀ p ∈ c.profiles, ∀ row, db.profiles.get p.key = some row → row.updatedAt ≠ now

/-- Every configured profile is changed by a bootstrap that is committed. -/
theorem withConfig_profile_ne (hlater : c.Later now db) (hp : p ∈ c.profiles) :
    (db.withConfig env c now).profiles.get p.key ≠ db.profiles.get p.key := by
  obtain ⟨row, hrow, hnow⟩ := foldl_withProfile_get env now hp (db.withAccount c now)
  intro heq
  rw [Db.withConfig, (foldl_withKey _ _ _ _ _).2.2, hrow] at heq
  exact hlater p hp row heq.symm hnow

/-- A bootstrap is all or nothing, and keeps to its seller, when the tables refuse the configuration, or else every
profile is for the configured seller, which is not there yet or is active with an active tenant; and only then, once the
clock has moved on. -/
theorem bootstrap_atomic_iff (env : Env) (c : AccountConfig) (now : Instant) (db : Db) :
    ((c.Accepted env db → c.Safe db) → BootstrapAtomic env c now db) ∧
      (c.Later now db → (BootstrapAtomic env c now db ↔ (c.Accepted env db → c.Safe db))) := by
  have hsafe : (c.Accepted env db → c.Safe db) → BootstrapAtomic env c now db := by
    intro h
    by_cases haccepted : c.Accepted env db
    · obtain ⟨hdb, hreturns⟩ := bootstrap_accepted now haccepted
      have hs := h haccepted
      refine ⟨Or.inl (hreturns.mpr hs.seller), ?_⟩
      rw [hdb]
      exact bootstrapBody_frame hs.profiles _ _ _ (bootstrapBody_ok.mpr ⟨haccepted, rfl⟩)
    · obtain ⟨hsame, hframe⟩ := bootstrap_refused now haccepted
      exact ⟨Or.inr hsame, hframe⟩
  refine ⟨hsafe, fun hlater => ⟨fun hatomic haccepted => ?_, hsafe⟩⟩
  obtain ⟨hdb, hreturns⟩ := bootstrap_accepted now haccepted
  refine ⟨?_, fun p hp => ?_⟩
  · rcases hatomic.atomic with hok | hsame
    · exact hreturns.mp hok
    · -- nothing else can have left the profiles as they were
      obtain ⟨p, hp⟩ := profiles_nonempty c
      have heq := hsame.profiles
      rw [hdb] at heq
      exact absurd (congrArg (fun t => Keyed.get t p.key) heq) (withConfig_profile_ne hlater hp)
  · by_contra hne
    have hkept := hatomic.frame.profiles p.key hne
    rw [hdb] at hkept
    exact withConfig_profile_ne hlater hp hkept

/-- The seller of the sample was disabled after its first start. -/
def disabledDb : Db :=
  { bootstrapped with
    sellers := bootstrapped.sellers.update (fun _ => true) (fun s => { s with status := "disabled" }) fun _ => rfl }

/-- The next start raises that the account was not created, and has rewritten its profile. -/
theorem disabled_seller_rewritten : ¬ BootstrapAtomic sampleEnv sampleConfig 2 disabledDb := by
  intro h
  have hraises : (disabledDb.bootstrapSellerAccount sampleEnv sampleConfig 2).1.toBool = false := by decide +kernel
  have hbefore : (disabledDb.profiles.get ("seller-a", "default")).map Profile.updatedAt = some 0 := by decide +kernel
  have hafter : ((disabledDb.bootstrapSellerAccount sampleEnv sampleConfig 2).2.profiles.get
      ("seller-a", "default")).map Profile.updatedAt = some 2 := by decide +kernel
  rcases h.atomic with hok | hsame
  · rw [hok] at hraises
    cases hraises
  · rw [hsame.profiles, hbefore] at hafter
    cases hafter

end HostedFacilitator.Sellers
