import HostedFacilitator.Sellers.Binding

/-!
# Operations with an audit event

The three operations that the control plane calls. Each either returns and has added one audit row, which names its
action and its actor, or raises and has only moved the sequence of the audit ids: `createSellerAccountWithApiKey_cases`,
`issueApiKeyWithAudit_cases`, `revokeApiKeyWithAudit_cases`. For the first of them this includes that the account can be
read back after the commit.
-/

namespace HostedFacilitator.Sellers

open Transaction

variable {env : Env} {db db₁ db' : Db} {α : Type}

/-- One audit row was added; it names the action and the actor. -/
def Audited (u : Unicode) (action : ControlPlane.AuditAction) (actor : String) (db db' : Db) : Prop :=
  ∃ event : ControlPlane.AuditEvent, event.action = action ∧ event.actor = safeActor u actor ∧
    db'.control.auditEvents = db.control.auditEvents ++ [event]

/-- Only the sequence of the audit ids has moved. -/
def Untouched (db db' : Db) : Prop := ∃ n, db' = { db with control := { db.control with nextEventId := n } }

theorem Untouched.refl (db : Db) : Untouched db db := ⟨db.control.nextEventId, rfl⟩

theorem undo_untouched (db db' : Db) : Untouched db (undo db db') := ⟨db'.control.nextEventId, rfl⟩

/-! ## Statements -/

/-- The control tables are as they were. -/
def Quiet (db db' : Db) : Prop := db'.control = db.control

theorem Quiet.trans (db db₁ db' : Db) (h : Quiet db db₁) (h' : Quiet db₁ db') : Quiet db db' := Eq.trans h' h

theorem Audited.of_quiet {u : Unicode} {action : ControlPlane.AuditAction} {actor : String} (h : Quiet db db₁)
    (ha : Audited u action actor db₁ db') : Audited u action actor db db' := by
  obtain ⟨event, haction, hactor, hrows⟩ := ha
  rw [Quiet] at h
  exact ⟨event, haction, hactor, by rw [hrows, h]⟩

theorem touchTenant_quiet (id : String) (now : Instant) : Moves Quiet (touchTenant id now) := by
  intro db a db' h
  rw [Quiet, modify_eq_ok.mp h]

theorem ensureTenant_quiet (id : String) (now : Instant) : Moves Quiet (ensureTenant id now) := by
  intro db a db' h
  rw [Quiet, modify_eq_ok.mp h]

theorem assertActiveTenant_quiet (id : String) : Moves Quiet (assertActiveTenant id) := by
  intro db a db' h
  rw [assertActiveTenant, get_bind_eq_ok, require_eq_ok] at h
  rw [Quiet, h.2]

theorem insertSeller_quiet (row : Seller) (taken : PyErr) : Moves Quiet (insertSeller row taken) := by
  intro db a db' h
  rw [insertSeller, get_bind_eq_ok, attempt_bind_eq_ok] at h
  obtain ⟨sellers, -, h⟩ := h
  rw [Quiet, set_eq_ok.mp (require_bind_eq_ok.mp h).2]

theorem upsertSeller_quiet (row : Seller) : Moves Quiet (upsertSeller row) := by
  intro db a db' h
  rw [upsertSeller, get_bind_eq_ok] at h
  rw [Quiet, set_eq_ok.mp (require_bind_eq_ok.mp h).2]

theorem upsertPaymentProfile_quiet (p : ProfileConfig) (now : Instant) : Moves Quiet (upsertPaymentProfile env p now) := by
  intro db a db' h
  rw [upsertPaymentProfile, get_bind_eq_ok] at h
  rw [Quiet, set_eq_ok.mp (require_bind_eq_ok.mp h).2]

theorem assertActivePaymentProfile_quiet (seller profile : String) :
    Moves Quiet (assertActivePaymentProfile seller profile) := by
  intro db a db' h
  rw [assertActivePaymentProfile, get_bind_eq_ok, require_eq_ok] at h
  rw [Quiet, h.2]

/-- A new key adds its row, and leaves the other tables alone. -/
theorem insertSellerApiKeyRow_frame {row : ApiKey} {u : PUnit}
    (h : exec (insertSellerApiKeyRow row) db = (.ok u, db')) : ∃ keys, db' = { db with keys := keys } := by
  rw [insertSellerApiKeyRow, get_bind_eq_ok, attempt_bind_eq_ok] at h
  obtain ⟨keys, -, h⟩ := h
  exact ⟨keys, set_eq_ok.mp (require_bind_eq_ok.mp (require_bind_eq_ok.mp h).2).2⟩

theorem insertSellerApiKeyRow_quiet (row : ApiKey) : Moves Quiet (insertSellerApiKeyRow row) := by
  intro db a db' h
  obtain ⟨keys, rfl⟩ := insertSellerApiKeyRow_frame h
  rfl

theorem revokeRow_quiet (seller keyId : String) (now : Instant) : Moves Quiet (revokeRow seller keyId now) := by
  intro db a db' h
  rw [revokeRow, get_bind_eq_ok, attempt_bind_eq_ok] at h
  obtain ⟨key, -, h⟩ := h
  rw [set_bind_eq_ok] at h
  cases h
  rfl

/-- The audit row, which is all that is written. -/
theorem insertSellerAuditEvent_ok {action : ControlPlane.AuditAction} {seller keyPrefix : String}
    {reason : Option String} {audit : Audit} {now : Instant} {event : ControlPlane.AuditEvent}
    (h : exec (insertSellerAuditEvent env action seller keyPrefix reason audit now) db = (.ok event, db')) :
    Audited env.unicode action audit.actor db db' ∧ ∃ control, db' = { db with control := control } := by
  rw [insertSellerAuditEvent, attempt_bind_eq_ok] at h
  obtain ⟨target, -, h⟩ := h
  rw [get_bind_eq_ok, set_bind_eq_ok] at h
  cases h
  exact ⟨⟨_, rfl, rfl, rfl⟩, _, rfl⟩

/-! ## Operations -/

section Operations

variable (env db) in
/-- Issuing a key adds one audit row, or raises. -/
theorem issueApiKeyWithAudit_cases (secrets : Secrets) (seller profile : String) (audit : Audit) (now : Instant) :
    (∃ issued db', db.issueApiKeyWithAudit env secrets seller profile audit now = (.ok issued, db') ∧
        Audited env.unicode .sellerApiKeyIssue audit.actor db db') ∨
      ∃ e db', db.issueApiKeyWithAudit env secrets seller profile audit now = (.error e, db') ∧ Untouched db db' := by
  unfold Db.issueApiKeyWithAudit
  split
  · exact .inr ⟨_, db, rfl, .refl db⟩
  · rename_i issued hissued
    rcases atomically_cases undo (do
        issueBody issued now
        let event ← insertSellerAuditEvent env .sellerApiKeyIssue seller issued.keyPrefix none audit now
        return (issued, event)) db with ⟨result, db', hbody, hdone⟩ | ⟨e, db', hdone⟩
    · refine .inl ⟨result, db', hdone, ?_⟩
      obtain ⟨_, db₁, hissue, hrest⟩ := bind_eq_ok.mp hbody
      obtain ⟨event, db₂, haudit, hrest⟩ := bind_eq_ok.mp hrest
      cases hrest
      have hquiet : Quiet db db₁ := by
        refine Moves.bind Quiet.trans (assertActivePaymentProfile_quiet _ _) (fun _ => ?_) _ _ _ hissue
        exact insertSellerApiKeyRow_quiet _
      exact (insertSellerAuditEvent_ok haudit).1.of_quiet hquiet
    · exact .inr ⟨e, _, hdone, undo_untouched db db'⟩

variable (env db) in
/-- Revoking a key adds one audit row, or raises. -/
theorem revokeApiKeyWithAudit_cases (seller keyId reason : String) (audit : Audit) (now : Instant) :
    (∃ revoked db', db.revokeApiKeyWithAudit env seller keyId reason audit now = (.ok revoked, db') ∧
        Audited env.unicode .sellerApiKeyRevoke audit.actor db db') ∨
      ∃ e db', db.revokeApiKeyWithAudit env seller keyId reason audit now = (.error e, db') ∧ Untouched db db' := by
  rcases atomically_cases undo (do
      let key ← revokeRow seller keyId now
      let event ← insertSellerAuditEvent env .sellerApiKeyRevoke seller key.summary.keyPrefix (some reason) audit now
      return (key.summary, event)) db with ⟨result, db', hbody, hdone⟩ | ⟨e, db', hdone⟩
  · refine .inl ⟨result, db', hdone, ?_⟩
    obtain ⟨key, db₁, hrevoke, hrest⟩ := bind_eq_ok.mp hbody
    obtain ⟨event, db₂, haudit, hrest⟩ := bind_eq_ok.mp hrest
    cases hrest
    exact (insertSellerAuditEvent_ok haudit).1.of_quiet (revokeRow_quiet _ _ _ _ _ _ hrevoke)
  · exact .inr ⟨e, _, hdone, undo_untouched db db'⟩

/-- The account is there, active, under an active tenant. -/
def Db.Shows (db : Db) (c : CreateSeller) : Prop :=
  ∃ s t, db.sellers.get c.sellerAccountId = some s ∧ s.status = "active" ∧ db.tenants.get s.tenantId = some t ∧
    t.status = "active"

variable (env) in
theorem Db.Shows.getSellerAccount {c : CreateSeller} (h : db.Shows c) :
    ∃ account, db.getSellerAccount env c.sellerAccountId = some account := by
  obtain ⟨s, t, hs, hactive, ht, htenant⟩ := h
  have hseller : db.activeSeller c.sellerAccountId = some s := by
    rw [Db.activeSeller, hs, Option.filter_some, if_pos]
    simp [hactive, ht, htenant]
  exact ⟨_, by rw [Db.getSellerAccount, hseller, Option.map_some]⟩

theorem insertAccount_quiet (c : CreateSeller) (now : Instant) (taken : PyErr) :
    Moves Quiet (c.insertAccount env now taken) :=
  .bind Quiet.trans (touchTenant_quiet _ _) fun _ => .bind Quiet.trans (assertActiveTenant_quiet _) fun _ =>
    .bind Quiet.trans (insertSeller_quiet _ _) fun _ => upsertPaymentProfile_quiet _ _

theorem some_of_any {o : Option α} {p : α → Bool} (h : o.any p = true) : ∃ a, o = some a ∧ p a = true := by
  cases o with
  | none => cases h
  | some a => exact ⟨a, rfl, h⟩

/-- The statements that both forms of a creation begin with leave an account to be read. -/
theorem insertAccount_shows {c : CreateSeller} {now : Instant} {taken : PyErr} {u : PUnit}
    (h : exec (c.insertAccount env now taken) db = (.ok u, db')) : db'.Shows c := by
  rw [CreateSeller.insertAccount, touchTenant, modify_bind_eq_ok] at h
  obtain ⟨_, db₁, hactive, h⟩ := bind_eq_ok.mp h
  rw [assertActiveTenant, get_bind_eq_ok, require_eq_ok] at hactive
  obtain ⟨hactive, rfl⟩ := hactive
  obtain ⟨_, db₂, hseller, hprofile⟩ := bind_eq_ok.mp h
  rw [insertSeller, get_bind_eq_ok, attempt_bind_eq_ok] at hseller
  obtain ⟨sellers, hinsert, hseller⟩ := hseller
  obtain rfl := set_eq_ok.mp (require_bind_eq_ok.mp hseller).2
  rw [upsertPaymentProfile, get_bind_eq_ok] at hprofile
  obtain rfl := set_eq_ok.mp (require_bind_eq_ok.mp hprofile).2
  obtain ⟨t, ht, htenant⟩ := some_of_any hactive
  refine ⟨c.seller now, t, ?_, rfl, ht, of_decide_eq_true htenant⟩
  cases hi : db.sellers.insert (c.seller now) with
  | none =>
    rw [hi] at hinsert
    cases hinsert
  | some t =>
    rw [hi] at hinsert
    cases hinsert
    exact (Keyed.get_insert hi c.sellerAccountId).trans (if_pos rfl)

theorem readBack_shown {α β : Type} {c : CreateSeller} {message : String} {result : AccountConfig → α → β} {a : α}
    (h : db.Shows c) :
    ∃ account, readBack env c.sellerAccountId message result (.ok a, db) = (.ok (result account a), db) := by
  obtain ⟨account, haccount⟩ := h.getSellerAccount env
  exact ⟨account, by rw [readBack, haccount]⟩

variable (env db) in
/-- Creating a seller adds one audit row and returns the account, or raises. -/
theorem createSellerAccountWithApiKey_cases (c : CreateSeller) (secrets : Secrets) (audit : Audit) (now : Instant) :
    (∃ created db', db.createSellerAccountWithApiKey env c secrets (some audit) now = (.ok created, db') ∧
        Audited env.unicode .sellerCreate audit.actor db db') ∨
      ∃ e db', db.createSellerAccountWithApiKey env c secrets (some audit) now = (.error e, db') ∧ Untouched db db' := by
  unfold Db.createSellerAccountWithApiKey
  split
  · exact .inr ⟨_, db, rfl, .refl db⟩
  · rename_i issued hissued
    dsimp only
    rcases atomically_cases undo (do
        c.insertAccount env now (.value "Seller account already exists")
        insertSellerApiKeyRow (issued.row now)
        (some audit).mapM fun a =>
          insertSellerAuditEvent env .sellerCreate c.sellerAccountId issued.keyPrefix none a now) db with
      ⟨event, db', hbody, hdone⟩ | ⟨e, db', hdone⟩
    · obtain ⟨_, db₁, haccount, hrest⟩ := bind_eq_ok.mp hbody
      obtain ⟨_, db₂, hkey, hrest⟩ := bind_eq_ok.mp hrest
      obtain ⟨event, db₃, haudit, hrest⟩ := bind_eq_ok.mp hrest
      cases hrest
      have hquiet : Quiet db db₂ :=
        Quiet.trans _ _ _ (insertAccount_quiet _ _ _ _ _ _ haccount) (insertSellerApiKeyRow_quiet _ _ _ _ hkey)
      obtain ⟨s, t, hshows⟩ := insertAccount_shows haccount
      obtain ⟨keys, hkeys⟩ := insertSellerApiKeyRow_frame hkey
      obtain ⟨haudited, control, hcontrol⟩ := insertSellerAuditEvent_ok haudit
      have hshown : db'.Shows c := by
        rw [hcontrol, hkeys]
        exact ⟨s, t, hshows⟩
      obtain ⟨account, hread⟩ := readBack_shown hshown
      exact .inl ⟨_, db', by rw [hdone, hread], haudited.of_quiet hquiet⟩
    · rw [hdone]
      exact .inr ⟨e, _, rfl, undo_untouched db db'⟩

theorem upsertBootstrapApiKey_quiet (seller : String) (now : Instant) (configured : String × String) :
    Moves Quiet (upsertBootstrapApiKey env seller now configured) := by
  intro db a db' h
  rw [upsertBootstrapApiKey, attempt_bind_eq_ok] at h
  obtain ⟨keyHash, -, h⟩ := h
  rw [get_bind_eq_ok] at h
  split at h
  · rw [Quiet, set_eq_ok.mp (require_bind_eq_ok.mp h).2]
  · exact insertSellerApiKeyRow_quiet _ _ _ _ h

/-- A bootstrap is not audited. -/
theorem bootstrapSellerAccount_auditEvents (c : AccountConfig) (now : Instant) :
    (db.bootstrapSellerAccount env c now).2.control.auditEvents = db.control.auditEvents := by
  have hrefl : ∀ db, Quiet db db := fun _ => rfl
  rw [Db.bootstrapSellerAccount, readBack_snd]
  rcases atomically_cases undo (bootstrapBody env c now) db with ⟨a, db', hbody, hdone⟩ | ⟨e, db', hdone⟩
  · have hquiet : Moves Quiet (bootstrapBody env c now) := by
      refine .bind Quiet.trans (ensureTenant_quiet _ _) fun _ => .bind Quiet.trans (assertActiveTenant_quiet _) fun _ =>
        .bind Quiet.trans (upsertSeller_quiet _) fun _ => .bind Quiet.trans ?_ fun _ => ?_
      · exact .forM hrefl Quiet.trans fun p _ => upsertPaymentProfile_quiet p now
      · exact .forM hrefl Quiet.trans fun configured _ => upsertBootstrapApiKey_quiet _ now configured
    rw [hdone, hquiet db a db' hbody]
  · rw [hdone]
    rfl

end Operations

end HostedFacilitator.Sellers
