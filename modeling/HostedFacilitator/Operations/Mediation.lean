import HostedFacilitator.Operations.Plane

/-!
# Who may change something

* `changes_vouched`: every audit row, of the control plane and of the settlements, names as its actor a principal whose
  request was authenticated under a key set of the issuer that was no older than five minutes, and which OpenFGA then
  allowed a relation of the permission that the row's action needs;
* `no_silent_change`: as long as no audit row is added, no pause, tenant, seller, profile or key changes, unless a
  process starts; and a request that is refused has changed nothing.
-/

namespace HostedFacilitator

namespace Postgres

variable {hash : String → Int} {u : Unicode} {sha256 : String → String} {s s' : System}

/-- Neither the engine nor a reconciler writes an audit row. -/
theorem Step.auditEvents (hc : s.Claims hash) {e : Postgres.Event} (he : ∀ c reading, e ≠ .control c reading)
    (hs : Step hash s e s') : s'.db.auditEvents = s.db.auditEvents := by
  cases hs with
  | tick | arrive | rest | released | workerClaims => rfl
  | operatorClaims | operatorReleases | operatorReviews => exact absurd rfl (he _ _)
  | engine hp hstep => exact (Operator.EngineStep.attemptColumns hc hp hstep).1
  | workerMarks =>
    rw [Db.applyMark, Db.finishStartedAttempts]
    split <;> rfl

theorem Operator.other_auditEvents (h : (Operator.machine hash u sha256).Reachable s) {e : Postgres.Event}
    (hn : Operator.next hash u sha256 s (.other e) = some s') : s'.db.auditEvents = s.db.auditEvents := by
  have hc := Operator.reachable_claims h
  cases e with
  | control => cases hn
  | tick | arrive | engine | spawn | reconcilerClaim | reconcilerReply | reconcilerStops | release =>
    simp only [Operator.next] at hn
    exact (next_step hc.uniqueIds hn).auditEvents hc (by simp)

end Postgres

namespace Operations

open ControlPlane
open Auth (Permission Principal Authorization AuthError ClockReadings Response KeySet)
open Transition

variable {env : Env} {hash : String → Int}

/-! ## Handlers -/

section Handlers

variable {principal : Principal} {request : Request} {correlationId : String} {draw : ActDraw} {db : Sellers.Db}

/-- A handler refuses and changes nothing, or it answers and has written one audit row, in the name of who acts and
about an action that the permission is for. -/
def Outcome (env : Env) (principal : Principal) (request : Request) (db : Sellers.Db) (done : Reply × Sellers.Db) :
    Prop :=
  (done.1.IsRefused ∧ Sellers.Untouched db done.2) ∨
    ¬done.1.IsRefused ∧ ∃ action, action.permission = request.route.permission ∧
      Sellers.Audited env.rendering.unicode action (actorFromPrincipalOrRequest env principal request) db done.2

theorem Outcome.refused {status : Nat} {detail : String} :
    Outcome env principal request db (.refused status detail, db) :=
  .inl ⟨⟨status, detail, rfl⟩, .refl db⟩

theorem pauseRefused_isRefused (e : PyErr) : (pauseRefused e).IsRefused := by
  unfold pauseRefused
  split <;> exact ⟨_, _, rfl⟩

theorem createRefused_isRefused (e : PyErr) : (createRefused env e).IsRefused := by
  unfold createRefused
  split <;> exact ⟨_, _, rfl⟩

theorem issueRefused_isRefused (e : PyErr) : (issueRefused env e).IsRefused := by
  unfold issueRefused
  split <;> exact ⟨_, _, rfl⟩

theorem revokeRefused_isRefused (e : PyErr) : (revokeRefused e).IsRefused := by
  unfold revokeRefused
  split <;> exact ⟨_, _, rfl⟩

theorem reconcileRefused_isRefused (e : PyErr) : (reconcileRefused e).IsRefused := by
  unfold reconcileRefused
  split <;> exact ⟨_, _, rfl⟩

theorem writesDisabled_isRefused : writesDisabled.IsRefused := ⟨_, _, rfl⟩

theorem insertMissing_auditEvents (key : TargetType × String) (now : Instant) (t : Tables) :
    (t.insertMissing key now).auditEvents = t.auditEvents := by
  unfold Tables.insertMissing
  split <;> rfl

theorem setPause_outcome {payload : PauseRequest} (hroute : request.route.permission = .pause) :
    Outcome env principal request db (setPause env principal request correlationId payload draw db) := by
  unfold setPause
  split
  · exact .inl ⟨writesDisabled_isRefused, .refl db⟩
  · split
    · exact .inl ⟨pauseRefused_isRefused _, .refl db⟩
    · split
      · exact .inl ⟨pauseRefused_isRefused _, .refl db⟩
      · rename_i event control happly
        refine .inr ⟨by simp [Reply.IsRefused], .pauseSet, hroute.symm, ?_⟩
        simp only [Tables.apply] at happly
        obtain ⟨normalized, -, hrest⟩ := HostedFacilitator.bind_ok.mp happly
        split at hrest
        · cases hrest
        · cases hrest
          refine ⟨_, ?_, ?_, congrArg (· ++ [_]) (insertMissing_auditEvents _ _ _)⟩ <;> rfl

theorem createSeller_outcome {payload : Option SellerCreateRequest} (hroute : request.route.permission = .sellers) :
    Outcome env principal request db (createSeller env principal request correlationId payload draw db) := by
  unfold createSeller
  split
  · exact .inl ⟨⟨_, _, rfl⟩, .refl db⟩
  · unfold createSellerFrom
    split
    · exact .inl ⟨writesDisabled_isRefused, .refl db⟩
    split
    · exact .inl ⟨createRefused_isRefused _, .refl db⟩
    split
    · exact .refused
    split
    · exact .inl ⟨createRefused_isRefused _, .refl db⟩
    · rename_i arguments _
      rcases Sellers.createSellerAccountWithApiKey_cases env.sellers db arguments draw.secrets
        { actor := actorFromPrincipalOrRequest env principal request, correlationId := correlationId
          fresh := draw.fresh } draw.now with ⟨⟨account, issued, event⟩, db', hdone, haudited⟩ | ⟨e, db', hdone, hsame⟩
      · dsimp only
        rw [hdone]
        exact .inr ⟨by simp [Reply.IsRefused], .sellerCreate, hroute.symm, haudited⟩
      · dsimp only
        rw [hdone]
        exact .inl ⟨createRefused_isRefused _, hsame⟩

theorem issueSellerApiKey_outcome {seller : String} {profile : Option (Sized 0 64)}
    (hroute : request.route.permission = .sellers) :
    Outcome env principal request db (issueSellerApiKey env principal request correlationId seller profile draw db) := by
  unfold issueSellerApiKey
  split
  · exact .inl ⟨writesDisabled_isRefused, .refl db⟩
  split
  · exact .inl ⟨issueRefused_isRefused _, .refl db⟩
  · rename_i profile _
    rcases Sellers.issueApiKeyWithAudit_cases env.sellers db draw.secrets seller profile
      { actor := actorFromPrincipalOrRequest env principal request, correlationId := correlationId
        fresh := draw.fresh } draw.now with ⟨⟨issued, event⟩, db', hdone, haudited⟩ | ⟨e, db', hdone, hsame⟩
    · rw [hdone]
      exact .inr ⟨by simp [Reply.IsRefused], .sellerApiKeyIssue, hroute.symm, haudited⟩
    · rw [hdone]
      exact .inl ⟨issueRefused_isRefused _, hsame⟩

theorem revokeSellerApiKey_outcome {seller keyId : String} {reason : Option (Sized 3 240)}
    (hroute : request.route.permission = .sellers) :
    Outcome env principal request db
      (revokeSellerApiKey env principal request correlationId seller keyId reason draw db) := by
  unfold revokeSellerApiKey
  split
  · exact .inl ⟨writesDisabled_isRefused, .refl db⟩
  split
  · exact .inl ⟨revokeRefused_isRefused _, .refl db⟩
  · rename_i reason _
    rcases Sellers.revokeApiKeyWithAudit_cases env.sellers db seller keyId reason
      { actor := actorFromPrincipalOrRequest env principal request, correlationId := correlationId
        fresh := draw.fresh } draw.now with ⟨⟨key, event⟩, db', hdone, haudited⟩ | ⟨e, db', hdone, hsame⟩
    · rw [hdone]
      exact .inr ⟨by simp [Reply.IsRefused], .sellerApiKeyRevoke, hroute.symm, haudited⟩
    · rw [hdone]
      exact .inl ⟨revokeRefused_isRefused _, hsame⟩

variable (env principal request correlationId draw db) in
theorem handle_outcome : Outcome env principal request db (handle env principal request correlationId draw db) := by
  unfold handle
  split
  · rename_i hroute
    exact setPause_outcome (by rw [hroute]; rfl)
  · rename_i hroute
    exact createSeller_outcome (by rw [hroute]; rfl)
  · rename_i hroute
    split
    · exact .inl ⟨issueRefused_isRefused _, .refl db⟩
    · exact issueSellerApiKey_outcome (by rw [hroute]; rfl)
  · rename_i hroute
    split
    · exact .inl ⟨revokeRefused_isRefused _, .refl db⟩
    · exact .inl ⟨revokeRefused_isRefused _, .refl db⟩
    · exact revokeSellerApiKey_outcome (by rw [hroute]; rfl)
  · exact .inl ⟨writesDisabled_isRefused, .refl db⟩

/-- The actor that is handed on is a safe one. -/
theorem safeActor_actor : safeActor env.rendering.unicode (actorFromPrincipalOrRequest env principal request) =
    actorFromPrincipalOrRequest env principal request := by
  unfold actorFromPrincipalOrRequest
  split <;> exact safeActor_idem

/-- The same for an action on a settlement; the answer may also be an error after the action, when the detail cannot be
read back. -/
def Reviewed (env : Env) (principal : Principal) (request : Request) (draw : ActDraw) (system : Postgres.System)
    (done : Reply × Postgres.System) : Prop :=
  (done.1.IsRefused ∧ ∃ n, done.2 = { system with db := { system.db with nextEventId := n } }) ∨
    (done.1.IsRefused → draw.detail.isSome = true) ∧ request.route.permission = .manualReview ∧
      ∃ event : ReconciliationAuditEvent, event.actor = actorFromPrincipalOrRequest env principal request ∧
        done.2.db.auditEvents = system.db.auditEvents ++ [event]

theorem prepare_actor {u : Unicode} {sha256 : String → String} {fresh : Uuid} {call : Postgres.OperatorCall}
    {c : Postgres.Db.ControlAction} (h : call.prepare u sha256 fresh = .ok c) : c.actor = safeActor u call.actor := by
  unfold Postgres.OperatorCall.prepare at h
  obtain ⟨action, -, h⟩ := HostedFacilitator.bind_ok.mp h
  cases h
  rfl

theorem reconcileReply_refused {result : SettlementRecord × ReconciliationAuditEvent}
    (h : (reconcileReply draw (.ok result)).IsRefused) : draw.detail.isSome = true := by
  unfold reconcileReply at h
  cases hdetail : draw.detail with
  | none =>
    rw [hdetail] at h
    obtain ⟨_, _, h⟩ := h
    cases h
  | some e => rfl

theorem reconcileRecord_reviewed {action : ReconciliationAction} {recordId : Int} {payload : ReconciliationRequest}
    {system : Postgres.System} {done : Reply × Postgres.System} (hn : system.db.UniqueIds)
    (hroute : request.route.permission = .manualReview)
    (h : reconcileRecord env hash principal request correlationId action recordId payload draw system = some done) :
    Reviewed env principal request draw system done := by
  obtain ⟨system', hnext, rfl⟩ := Option.map_eq_some_iff.mp h
  simp only [Postgres.Operator.next] at hnext
  split at hnext
  · rcases Postgres.Db.controlAction_cases hn env.rendering.unicode env.sha256.hexdigest draw.fresh draw.faults
      (operatorCall env principal request correlationId action recordId payload draw) draw.now with
      ⟨c, ⟨record, event⟩, db', hprepare, hok, hdone⟩ | ⟨e, n, hdone⟩
    · rw [hdone] at hnext ⊢
      obtain rfl := Option.some.inj hnext
      have hperformed := Postgres.Db.Performed.of_ok hok
      obtain ⟨row, -, -, -, hevent⟩ := hperformed.row
      refine .inr ⟨@reconcileReply_refused draw (record, event), hroute, event, ?_, hperformed.audit⟩
      rw [hevent]
      exact (prepare_actor hprepare).trans safeActor_actor
    · rw [hdone] at hnext ⊢
      obtain rfl := Option.some.inj hnext
      exact .inl ⟨reconcileRefused_isRefused e, n, rfl⟩
  · cases hnext

/-- A review is refused before the store is asked, or it is the store's. -/
theorem reconcile_cases {action : ReconciliationAction} {recordId : String} {payload : Option ReconciliationRequest}
    {system : Postgres.System} {done : Reply × Postgres.System}
    (h : reconcile env hash principal request correlationId action recordId payload draw system = some done) :
    (done.1.IsRefused ∧ done.2 = system) ∨ ∃ recordId' payload',
      reconcileRecord env hash principal request correlationId action recordId' payload' draw system = some done := by
  unfold reconcile at h
  split at h
  · obtain rfl := Option.some.inj h
    exact .inl ⟨writesDisabled_isRefused, rfl⟩
  split at h
  · obtain rfl := Option.some.inj h
    exact .inl ⟨reconcileRefused_isRefused (.value "Invalid reconciliation action payload"), rfl⟩
  split at h
  · obtain rfl := Option.some.inj h
    exact .inl ⟨reconcileRefused_isRefused _, rfl⟩
  · exact .inr ⟨_, _, h⟩

theorem reconcile_reviewed {action : ReconciliationAction} {recordId : String}
    {payload : Option ReconciliationRequest} {system : Postgres.System} {done : Reply × Postgres.System}
    (hn : system.db.UniqueIds) (hroute : request.route.permission = .manualReview)
    (h : reconcile env hash principal request correlationId action recordId payload draw system = some done) :
    Reviewed env principal request draw system done := by
  rcases reconcile_cases h with ⟨hrefused, hsame⟩ | ⟨recordId', payload', hrecord⟩
  · exact .inl ⟨hrefused, system.db.nextEventId, hsame ▸ rfl⟩
  · exact reconcileRecord_reviewed hn hroute hrecord

/-- What a granted request does, of either kind. -/
theorem perform_cases {flight : Flight} {s : Plane} {done : Reply × Sellers.Db × Postgres.System}
    (hn : s.system.db.UniqueIds) (h : perform env hash principal flight draw s = some done) :
    (done.2.2 = s.system ∧ Outcome env principal flight.request s.sellers (done.1, done.2.1)) ∨
      done.2.1 = s.sellers ∧ Reviewed env principal flight.request draw s.system (done.1, done.2.2) := by
  unfold perform at h
  split at h
  · rename_i action recordId payload hroute
    obtain ⟨done', hdone, rfl⟩ := Option.map_eq_some_iff.mp h
    exact .inr ⟨rfl, reconcile_reviewed hn (by rw [hroute]; rfl) hdone⟩
  all_goals
    cases h
    exact .inl ⟨rfl, handle_outcome env principal flight.request flight.correlationId draw s.sellers⟩

/-- The settlement store moves as it does under operators. -/
theorem perform_system {flight : Flight} {s : Plane} {done : Reply × Sellers.Db × Postgres.System}
    (h : perform env hash principal flight draw s = some done) : done.2.2 = s.system ∨
      ∃ e, Postgres.Operator.next hash env.rendering.unicode env.sha256.hexdigest s.system e = some done.2.2 := by
  unfold perform at h
  split at h
  · obtain ⟨done', hdone, rfl⟩ := Option.map_eq_some_iff.mp h
    rcases reconcile_cases hdone with ⟨-, hsame⟩ | ⟨_, _, hrecord⟩
    · exact .inl hsame
    · obtain ⟨system', hnext, rfl⟩ := Option.map_eq_some_iff.mp hrecord
      exact .inr ⟨_, hnext⟩
  all_goals
    cases h
    exact .inl rfl

end Handlers

/-! ## Runs -/

section Runs

variable {s t : Plane} {es : List Event} {e : Event}

/-- What a step does, apart from the flights. -/
inductive Step (env : Env) (hash : String → Int) (s : Plane) : Event → Plane → Prop where
  | arrive {id : Nat} {request : Request} {fresh : Uuid} {at' : ClockReadings} {response : Response}
    (hnew : Dict.get s.flights id = none) :
    Step env hash s (.arrive id request fresh at' response) (arrive env id request fresh at' response s)
  | answer {id : Nat} {response : Response} {flight : Flight} {principal : Principal} {relation : String}
    {others : List String} (hflight : Dict.get s.flights id = some flight)
    (hstage : flight.stage = .authorizing (.asks principal relation others)) :
    Step env hash s (.answer id response)
      (s.move id flight (.authorizing ((Authorization.asks principal relation others).onAnswer response)))
  | refuse {id : Nat} {draw : ActDraw} {flight : Flight} {error : AuthError}
    (hflight : Dict.get s.flights id = some flight) (hstage : flight.stage = .authorizing (.refused error)) :
    Step env hash s (.act id draw) (s.move id flight (.finished (.refused error.http.1 error.http.2)))
  | perform {id : Nat} {draw : ActDraw} {flight : Flight} {principal : Principal}
    {done : Reply × Sellers.Db × Postgres.System} (hflight : Dict.get s.flights id = some flight)
    (hstage : flight.stage = .authorizing (.granted principal))
    (hdone : Operations.perform env hash principal flight draw s = some done) :
    Step env hash s (.act id draw)
      { s.move id flight (.finished done.1) with sellers := done.2.1, system := done.2.2 }
  | engine {e : Postgres.Event} {system : Postgres.System}
    (hnext : Postgres.Operator.next hash env.rendering.unicode env.sha256.hexdigest s.system (.other e) = some system) :
    Step env hash s (.engine e) { s with system := system }
  | bootstrap {c : Sellers.AccountConfig} {now : Instant} :
    Step env hash s (.bootstrap c now) { s with sellers := (s.sellers.bootstrapSellerAccount env.sellers c now).2 }

theorem next_step (h : next env hash s e = some t) : Step env hash s e t := by
  cases e with
  | arrive id request fresh at' response =>
    simp only [next] at h
    split at h
    · cases h
    · rename_i hnew
      obtain rfl := Option.some.inj h
      exact .arrive (by simpa using hnew)
  | answer id response =>
    simp only [next] at h
    split at h
    · rename_i flight hflight
      split at h
      · rename_i hstage
        obtain rfl := Option.some.inj h
        exact .answer hflight hstage
      · cases h
      · cases h
    · cases h
  | act id draw =>
    simp only [next] at h
    split at h
    · rename_i flight hflight
      split at h
      · rename_i a hstage
        cases a with
        | asks => cases h
        | refused error =>
          obtain rfl := Option.some.inj h
          exact .refuse hflight hstage
        | granted principal =>
          obtain ⟨done, hdone, rfl⟩ := Option.map_eq_some_iff.mp h
          exact .perform hflight hstage hdone
      · cases h
    · cases h
  | engine e =>
    obtain ⟨system, hnext, rfl⟩ := Option.map_eq_some_iff.mp h
    exact .engine hnext
  | bootstrap c now =>
    obtain rfl := Option.some.inj h
    exact .bootstrap

variable (env s) in
theorem arrive_sellers (id : Nat) (request : Request) (fresh : Uuid) (at' : ClockReadings) (response : Response) :
    (arrive env id request fresh at' response s).sellers = s.sellers ∧
      (arrive env id request fresh at' response s).system = s.system := by
  unfold arrive
  dsimp only
  split <;> exact ⟨rfl, rfl⟩

/-- The settlement store is one that the engine, the reconcilers and the operators reach. -/
theorem reachable_system (h : (machine env hash).Reachable s) :
    (Postgres.Operator.machine hash env.rendering.unicode env.sha256.hexdigest).Reachable s.system := by
  refine h.invariant
    (I := fun s => (Postgres.Operator.machine hash env.rendering.unicode env.sha256.hexdigest).Reachable s.system)
    Machine.Reachable.start ?_
  intro s e t _ hs hn
  cases next_step hn with
  | arrive =>
    rw [(arrive_sellers env s _ _ _ _ _).2]
    exact hs
  | answer | refuse | bootstrap => exact hs
  | perform _ _ hdone =>
    rcases perform_system hdone with hsame | ⟨e', hnext⟩
    · exact hsame ▸ hs
    · exact hs.step hnext
  | engine hnext => exact hs.step hnext

theorem reachable_uniqueIds (h : (machine env hash).Reachable s) : s.system.db.UniqueIds :=
  (Postgres.Operator.reachable_claims (reachable_system h)).uniqueIds

/-! ## What the audit rows tell -/

/-- The answers of OpenFGA about a request. -/
def answersTo (id : Nat) (es : List Event) : List Response :=
  es.filterMap fun
    | .answer id' response => if id' = id then some response else none
    | _ => none

@[simp] theorem answersTo_append (id : Nat) (es fs : List Event) :
    answersTo id (es ++ fs) = answersTo id es ++ answersTo id fs := List.filterMap_append

/-- The key set at hand when a request arrives: the answer to its own fetch, or to that of an earlier request, less than
five minutes ago. -/
def AtHand (pre : List Event) (at' : ClockReadings) (response : Response) (jwks : PyDict) : Prop :=
  response = .json (.dict jwks) ∨ ∃ id request fresh at₀,
    Event.arrive id request fresh at₀ (.json (.dict jwks)) ∈ pre ∧ at'.keys < at₀.keys + Auth.cacheTtl

/-- **A request was admitted**: when it arrived its token was authentic under the key set at hand, and since then
OpenFGA has allowed a relation of its permission, after it had refused those before it. -/
def Admitted (env : Env) (es : List Event) (id : Nat) (request : Request) (principal : Principal) : Prop :=
  ∃ pre post fresh at' response jwks, es = pre ++ Event.arrive id request fresh at' response :: post ∧
    AtHand pre at' response jwks ∧ Auth.Authentic env.auth env.config jwks at'.claims request.authorization principal ∧
    Auth.Allows (answersTo id post) request.route.permission.relations

theorem Admitted.snoc {id : Nat} {request : Request} {principal : Principal}
    (h : Admitted env es id request principal) (e : Event) : Admitted env (es ++ [e]) id request principal := by
  obtain ⟨pre, post, fresh, at', response, jwks, rfl, hkeys, hauth, before, allowed, after, heq, hlen, hno, hyes⟩ := h
  refine ⟨pre, post ++ [e], fresh, at', response, jwks, by simp, hkeys, hauth, before, allowed,
    after ++ answersTo id [e], ?_, hlen, hno, hyes⟩
  rw [answersTo_append, heq]
  simp

/-- Who is named as an actor was admitted, to a route of the permission. -/
def Named (env : Env) (es : List Event) (permission : Permission) (actor : String) : Prop :=
  ∃ id request principal, Admitted env es id request principal ∧ request.route.permission = permission ∧
    actor = actorFromPrincipalOrRequest env principal request

theorem Named.snoc {permission : Permission} {actor : String} (h : Named env es permission actor) (e : Event) :
    Named env (es ++ [e]) permission actor := by
  obtain ⟨id, request, principal, hadmitted, hroute, hactor⟩ := h
  exact ⟨id, request, principal, hadmitted.snoc e, hroute, hactor⟩

/-- How an authorization in progress came about. -/
def Progress (env : Env) (es : List Event) (id : Nat) (request : Request) (a : Authorization) : Prop :=
  ∃ pre post fresh at' response authenticated, es = pre ++ Event.arrive id request fresh at' response :: post ∧
    (∀ principal, authenticated = .ok principal → ∃ jwks, AtHand pre at' response jwks ∧
      Auth.Authentic env.auth env.config jwks at'.claims request.authorization principal) ∧
    a = (answersTo id post).foldl (fun a answer => a.onAnswer answer)
      (Auth.beginAuthorization authenticated request.route.permission)

/-- An answer takes it one step on, and nothing else matters to it. -/
theorem Progress.snoc {id : Nat} {request : Request} {a : Authorization} (h : Progress env es id request a) (e : Event) :
    Progress env (es ++ [e]) id request ((answersTo id [e]).foldl (fun a answer => a.onAnswer answer) a) := by
  obtain ⟨pre, post, fresh, at', response, authenticated, rfl, hauth, rfl⟩ := h
  refine ⟨pre, post ++ [e], fresh, at', response, authenticated, by simp, hauth, ?_⟩
  rw [answersTo_append, List.foldl_append]

theorem Progress.admitted {id : Nat} {request : Request} {principal : Principal}
    (h : Progress env es id request (.granted principal)) : Admitted env es id request principal := by
  obtain ⟨pre, post, fresh, at', response, authenticated, rfl, hauth, hgranted⟩ := h
  obtain ⟨rfl, hallows⟩ := Auth.granted_iff.mp hgranted.symm
  obtain ⟨jwks, hkeys, hauthentic⟩ := hauth principal rfl
  exact ⟨pre, post, fresh, at', response, jwks, rfl, hkeys, hauthentic, hallows⟩

/-- What the run so far says about a state. -/
structure Record (env : Env) (es : List Event) (s : Plane) : Prop where
  keys : ∀ k, s.keySet = some k → ∃ id request fresh at₀,
    Event.arrive id request fresh at₀ (.json (.dict k.body)) ∈ es ∧ k.expiresAt = at₀.keys + Auth.cacheTtl
  flights : ∀ id flight a, Dict.get s.flights id = some flight → flight.stage = .authorizing a →
    Progress env es id flight.request a
  changes : ∀ event ∈ s.sellers.control.auditEvents, Named env es event.action.permission event.actor
  reviews : ∀ event ∈ s.system.db.auditEvents, Named env es .manualReview event.actor

theorem record_start : Record env [] (machine env hash).start where
  keys := by
    intro k hk
    cases hk
  flights := by
    intro id flight a hflight
    cases hflight
  changes := by
    intro event hevent
    cases hevent
  reviews := by
    intro event hevent
    cases hevent

theorem Progress.keep {id : Nat} {request : Request} {a : Authorization} (h : Progress env es id request a)
    (he : answersTo id [e] = []) : Progress env (es ++ [e]) id request a := by
  have hsnoc := h.snoc e
  rw [he] at hsnoc
  exact hsnoc

section Keep

variable (h : Record env es s)
include h

theorem Record.keys_snoc (e : Event) {k : KeySet} (hk : s.keySet = some k) : ∃ id request fresh at₀,
    Event.arrive id request fresh at₀ (.json (.dict k.body)) ∈ es ++ [e] ∧ k.expiresAt = at₀.keys + Auth.cacheTtl := by
  obtain ⟨id, request, fresh, at₀, hmem, hexpires⟩ := h.keys k hk
  exact ⟨id, request, fresh, at₀, List.mem_append_left _ hmem, hexpires⟩

/-- The other flights go on as they were, and the one that moves is as the event says. -/
theorem Record.flights_put {id : Nat} {request : Request} {correlationId : String} {stage : Stage}
    (hothers : ∀ id', id' ≠ id → answersTo id' [e] = [])
    (hmoved : ∀ a, stage = .authorizing a → Progress env (es ++ [e]) id request a) {id' : Nat} {flight : Flight}
    {a : Authorization} (hget : Dict.get (s.put id request correlationId stage).flights id' = some flight)
    (hstage : flight.stage = .authorizing a) : Progress env (es ++ [e]) id' flight.request a := by
  rw [Plane.put, Dict.get_set] at hget
  split at hget
  · rename_i hid
    cases hget
    exact hid ▸ hmoved a hstage
  · rename_i hid
    exact (h.flights id' flight a hget hstage).keep (hothers id' hid)

/-- The key set at hand, as the run tells it. -/
theorem Record.atHand {at' : ClockReadings} {response : Response} {jwks : PyDict}
    (hload : (Auth.loadJwks at'.keys response s.keySet).1 = .ok jwks) : AtHand es at' response jwks := by
  rcases Auth.loadJwks_ok hload with ⟨k, hk, hfresh, rfl⟩ | hresponse
  · obtain ⟨id, request, fresh, at₀, hmem, hexpires⟩ := h.keys k hk
    exact .inr ⟨id, request, fresh, at₀, hmem, hexpires ▸ hfresh⟩
  · exact .inl hresponse

theorem Record.arrive (id : Nat) (request : Request) (fresh : Uuid) (at' : ClockReadings) (response : Response) :
    Record env (es ++ [.arrive id request fresh at' response]) (arrive env id request fresh at' response s) := by
  have hothers : ∀ id', id' ≠ id → answersTo id' [.arrive id request fresh at' response] = [] := fun _ _ => rfl
  obtain ⟨hsellers, hsystem⟩ := arrive_sellers env s id request fresh at' response
  refine ⟨?_, ?_, fun event hevent => ?_, fun event hevent => ?_⟩
  · intro k hk
    unfold Operations.arrive at hk
    dsimp only at hk
    split at hk
    · exact h.keys_snoc _ hk
    · rcases Auth.authenticate_kept env.auth env.config at' response s.keySet request.authorization with
        hkept | ⟨body, rfl, hnew⟩
      · exact h.keys_snoc _ (hkept.symm.trans hk)
      · obtain rfl := Option.some.inj (hnew.symm.trans hk)
        exact ⟨id, request, fresh, at', List.mem_append_right _ (List.mem_singleton_self _), rfl⟩
  · intro id' flight a hget hstage
    unfold Operations.arrive at hget
    dsimp only at hget
    split at hget
    · refine h.flights_put hothers (fun a ha => ?_) hget hstage
      cases ha
    · refine h.flights_put hothers (fun a ha => ?_) hget hstage
      cases ha
      refine ⟨es, [], fresh, at', response, _, rfl, fun principal hok => ?_, rfl⟩
      obtain ⟨jwks, hload, hauthentic⟩ := Auth.authenticate_ok hok
      exact ⟨jwks, h.atHand hload, hauthentic⟩
  · rw [hsellers] at hevent
    exact (h.changes event hevent).snoc _
  · rw [hsystem] at hevent
    exact (h.reviews event hevent).snoc _

/-- A step that moves one flight and writes nothing. -/
theorem Record.move {id : Nat} {flight : Flight} {stage : Stage} (hothers : ∀ id', id' ≠ id → answersTo id' [e] = [])
    (hmoved : ∀ a, stage = .authorizing a → Progress env (es ++ [e]) id flight.request a) :
    Record env (es ++ [e]) (s.move id flight stage) where
  keys _ hk := h.keys_snoc e hk
  flights _ _ _ hget hstage := h.flights_put hothers hmoved hget hstage
  changes event hevent := (h.changes event hevent).snoc e
  reviews event hevent := (h.reviews event hevent).snoc e

theorem Record.answer {id : Nat} {response : Response} {flight : Flight} {principal : Principal} {relation : String}
    {others : List String} (hflight : Dict.get s.flights id = some flight)
    (hstage : flight.stage = .authorizing (.asks principal relation others)) :
    Record env (es ++ [.answer id response])
      (s.move id flight (.authorizing ((Authorization.asks principal relation others).onAnswer response))) := by
  refine h.move (fun id' hid => ?_) fun a ha => ?_
  · simp [answersTo, hid.symm]
  · have hprogress := (h.flights id flight _ hflight hstage).snoc (.answer id response)
    cases ha
    simpa [answersTo] using hprogress

/-- A request that acts was admitted, and what it writes names its actor. -/
theorem Record.perform {id : Nat} {draw : ActDraw} {flight : Flight} {principal : Principal}
    {done : Reply × Sellers.Db × Postgres.System} (hn : s.system.db.UniqueIds)
    (hflight : Dict.get s.flights id = some flight) (hstage : flight.stage = .authorizing (.granted principal))
    (hdone : Operations.perform env hash principal flight draw s = some done) :
    Record env (es ++ [.act id draw])
      { s.move id flight (.finished done.1) with sellers := done.2.1, system := done.2.2 } := by
  have hmoved : Record env (es ++ [.act id draw]) (s.move id flight (.finished done.1)) := by
    refine h.move (fun _ _ => rfl) fun a ha => ?_
    cases ha
  have hadmitted := ((h.flights id flight _ hflight hstage).admitted).snoc (.act id draw)
  refine ⟨hmoved.keys, hmoved.flights, fun event hevent => ?_, fun event hevent => ?_⟩
  · rcases perform_cases hn hdone with ⟨-, ⟨-, n, hsame⟩ | ⟨-, action, hroute, added, haction, hactor, hrows⟩⟩ | ⟨hsame, -⟩
    · dsimp only at hsame
      rw [hsame] at hevent
      exact hmoved.changes event hevent
    · dsimp only at hrows
      rw [hrows] at hevent
      rcases List.mem_append.mp hevent with hold | hnew
      · exact hmoved.changes event hold
      · rw [List.mem_singleton.mp hnew, haction, hactor, safeActor_actor]
        exact ⟨id, flight.request, principal, hadmitted, hroute.symm, rfl⟩
    · rw [hsame] at hevent
      exact hmoved.changes event hevent
  · rcases perform_cases hn hdone with ⟨hsame, -⟩ | ⟨-, ⟨-, n, hsame⟩ | ⟨-, hroute, added, hactor, hrows⟩⟩
    · rw [hsame] at hevent
      exact hmoved.reviews event hevent
    · dsimp only at hsame
      rw [hsame] at hevent
      exact hmoved.reviews event hevent
    · dsimp only at hrows
      rw [hrows] at hevent
      rcases List.mem_append.mp hevent with hold | hnew
      · exact hmoved.reviews event hold
      · rw [List.mem_singleton.mp hnew, hactor]
        exact ⟨id, flight.request, principal, hadmitted, hroute, rfl⟩

end Keep

theorem record_step (hs : (machine env hash).Reachable s) (h : Record env es s) (hstep : Step env hash s e t) :
    Record env (es ++ [e]) t := by
  cases hstep with
  | arrive => exact h.arrive _ _ _ _ _
  | answer hflight hstage => exact h.answer hflight hstage
  | refuse hflight hstage =>
    refine h.move (fun _ _ => rfl) fun a ha => ?_
    cases ha
  | perform hflight hstage hdone => exact h.perform (reachable_uniqueIds hs) hflight hstage hdone
  | engine hnext =>
    refine ⟨fun k hk => h.keys_snoc _ hk, fun id flight a hget hstage => (h.flights id flight a hget hstage).keep rfl,
      fun event hevent => (h.changes event hevent).snoc _, fun event hevent => ?_⟩
    dsimp only at hevent
    rw [Postgres.Operator.other_auditEvents (reachable_system hs) hnext] at hevent
    exact (h.reviews event hevent).snoc _
  | bootstrap =>
    refine ⟨fun k hk => h.keys_snoc _ hk, fun id flight a hget hstage => (h.flights id flight a hget hstage).keep rfl,
      fun event hevent => ?_, fun event hevent => (h.reviews event hevent).snoc _⟩
    dsimp only at hevent
    rw [Sellers.bootstrapSellerAccount_auditEvents] at hevent
    exact (h.changes event hevent).snoc _

theorem reaches_record (h : (machine env hash).Reaches es s) : Record env es s :=
  h.history (H := Record env) record_start fun es _ _ _ hr hrecord hn => record_step ⟨es, hr⟩ hrecord (next_step hn)

end Runs

/-- **Nothing is changed but by operators who may.** In every run, whatever happens between the steps of a request, an
audit row of the control plane names an actor who was admitted to a route of the permission that its action needs, and
an audit row of the settlements names one who was admitted to manual reviews. -/
theorem changes_vouched (env : Env) (hash : String → Int) (es : List Event) (s : Plane)
    (h : (machine env hash).Reaches es s) :
    (∀ event ∈ s.sellers.control.auditEvents, Named env es event.action.permission event.actor) ∧
      ∀ event ∈ s.system.db.auditEvents, Named env es .manualReview event.actor :=
  ⟨(reaches_record h).changes, (reaches_record h).reviews⟩

/-! ## A pause of everything -/

theorem outage_sized : 3 ≤ "outage".length ∧ "outage".length ≤ 240 := by decide

/-- The request of the operator. -/
def alicePauses : Request where
  route := .setPause { targetType := .global, paused := true, reason := ⟨"outage", outage_sized⟩ }
  authorization := some ("Bearer " ++ Auth.aliceToken)

def allowedAnswer (allowed : Bool) : Response := .json (.dict [("allowed", .bool allowed)])

def opsDraw : ActDraw where
  now := 1000000000
  fresh := .sample
  secrets := ⟨"token", "id"⟩
  leaseFrom := 1000000000
  staleFrom := 1000000000

/-- Two requests with the token; the second one comes while the key set of the first one is kept, and is allowed the
second relation. OpenFGA does not answer about the first one. -/
def opsEvents : List Event :=
  [.arrive 0 alicePauses .sample ⟨900000000, 900000000⟩ (.json (.dict Auth.opsKeys)),
    .arrive 1 alicePauses .sample ⟨1000000000, 1000000000⟩ .failed,
    .answer 1 (allowedAnswer false), .answer 0 .failed, .answer 1 (allowedAnswer true), .act 1 opsDraw, .act 0 opsDraw]

def opsAsks : Stage :=
  .authorizing (.asks (Auth.principalFor Auth.aliceEnv Auth.alicePayloadDict "alice") "ops_admin" ["security_admin"])

theorem arrive_alice {id : Nat} {now : Instant} {response : Response} {s : Plane}
    (hkeys : (Auth.loadJwks now response s.keySet).1 = .ok Auth.opsKeys) (hnow : Auth.seconds now ≤ 1060) :
    arrive opsEnv id alicePauses .sample ⟨now, now⟩ response s =
      { s.put id alicePauses (correlationIdFromRequest opsEnv .sample alicePauses) opsAsks with
        keySet := (Auth.loadJwks now response s.keySet).2 } := by
  have hauth : Auth.authenticate opsEnv.auth opsEnv.config ⟨now, now⟩ response s.keySet alicePauses.authorization =
      (.ok (Auth.principalFor Auth.aliceEnv Auth.alicePayloadDict "alice"), (Auth.loadJwks now response s.keySet).2) :=
    Auth.alice_issued.authenticate hkeys (Auth.alice_current hnow)
  have hok : alicePauses.route.checkPath opsEnv = .ok () := rfl
  unfold arrive
  rw [hok]
  dsimp only
  rw [hauth]
  rfl

/-- Both requests have arrived. -/
def opsWaiting : Plane where
  keySet := some { body := Auth.opsKeys, expiresAt := 900000000 + Auth.cacheTtl }
  flights :=
    [(0, ⟨alicePauses, correlationIdFromRequest opsEnv .sample alicePauses, opsAsks⟩),
      (1, ⟨alicePauses, correlationIdFromRequest opsEnv .sample alicePauses, opsAsks⟩)]

theorem ops_arrivals : (machine opsEnv fun _ => 0).Reaches (opsEvents.take 2) opsWaiting := by
  refine Machine.leads_cons.mpr ⟨_, congrArg some (arrive_alice rfl (by decide)), Machine.leads_cons.mpr ⟨_, ?_, rfl⟩⟩
  exact congrArg some (arrive_alice rfl (by decide))

theorem changes_vouched_alice :
    ∃ s, (machine opsEnv fun _ => 0).Reaches opsEvents s ∧ s.sellers.control.auditEvents.map (·.actor) = ["alice"] ∧
      Named opsEnv opsEvents .pause "alice" := by
  have hrun : ((machine opsEnv fun _ => 0).run opsWaiting (opsEvents.drop 2)).map (fun s =>
      s.sellers.control.auditEvents.map fun event => (event.action, event.actor)) = some [(.pauseSet, "alice")] := by
    decide +kernel
  obtain ⟨s, hrest, hview⟩ := Option.map_eq_some_iff.mp hrun
  have hs : (machine opsEnv fun _ => 0).Reaches opsEvents s := Machine.leads_append.mpr ⟨opsWaiting, ops_arrivals, hrest⟩
  obtain ⟨event, hevent, hnamed⟩ := List.map_eq_singleton_iff.mp hview
  obtain ⟨haction, hactor⟩ := Prod.mk.inj hnamed
  refine ⟨s, hs, by rw [hevent, List.map_singleton, hactor], ?_⟩
  have hmem : event ∈ s.sellers.control.auditEvents := by
    rw [hevent]
    exact List.mem_singleton_self _
  have hvouched := (changes_vouched opsEnv (fun _ => 0) opsEvents s hs).1 event hmem
  rw [haction, hactor] at hvouched
  exact hvouched

/-! ## Silence -/

section Silence

variable {env : Env} {hash : String → Int} {s t u : Plane} {es : List Event} {e : Event}

/-- The audit rows, of both kinds. -/
def auditRows (s : Plane) : Nat := s.sellers.control.auditEvents.length + s.system.db.auditEvents.length

def Event.IsAct : Event → Bool
  | .act .. => true
  | .arrive .. | .answer .. | .engine _ | .bootstrap .. => false

/-- Audit rows are added by requests that act, one each, and without a new row the tables are as they were. -/
structure Silent (acts : Nat) (s t : Plane) : Prop where
  grows : auditRows s ≤ auditRows t
  bounded : auditRows t ≤ auditRows s + acts
  same : auditRows t = auditRows s → Sellers.Untouched s.sellers t.sellers

theorem Silent.trans {m n : Nat} (h : Silent m s t) (h' : Silent n t u) : Silent (m + n) s u where
  grows := h.grows.trans h'.grows
  bounded := by
    have := h.bounded
    have := h'.bounded
    omega
  same := by
    intro heq
    have hst : auditRows t = auditRows s := by
      have := h.grows
      have := h'.grows
      omega
    obtain ⟨m, hm⟩ := h.same hst
    obtain ⟨n, hn⟩ := h'.same (heq.trans hst.symm)
    exact ⟨n, by rw [hn, hm]⟩

/-- A step that leaves the audit rows of the settlements and the tables alone. -/
theorem Silent.of_same {acts : Nat} (hsellers : t.sellers = s.sellers)
    (hrows : t.system.db.auditEvents = s.system.db.auditEvents) : Silent acts s t where
  grows := by rw [auditRows, auditRows, hsellers, hrows]
  bounded := by rw [auditRows, auditRows, hsellers, hrows]; omega
  same _ := hsellers ▸ .refl s.sellers

theorem untouched_rows {db db' : Sellers.Db} (h : Sellers.Untouched db db') :
    db'.control.auditEvents = db.control.auditEvents := by
  obtain ⟨n, rfl⟩ := h
  rfl

/-- What a request does that acts: it is silent, or adds one row. -/
theorem silent_perform {principal : Principal} {flight : Flight} {draw : ActDraw}
    {done : Reply × Sellers.Db × Postgres.System} (hn : s.system.db.UniqueIds)
    (hdone : perform env hash principal flight draw s = some done) (hsellers : t.sellers = done.2.1)
    (hsystem : t.system = done.2.2) : Silent 1 s t := by
  rcases perform_cases hn hdone with ⟨hsame, ⟨-, hquiet⟩ | ⟨-, action, -, event, -, -, hrows⟩⟩ |
    ⟨hsame, ⟨-, n, hquiet⟩ | ⟨-, -, event, -, hrows⟩⟩
  · have heq : auditRows t = auditRows s := by
      rw [auditRows, auditRows, hsellers, hsystem, hsame, untouched_rows hquiet]
    exact ⟨heq.ge, by omega, fun _ => hsellers ▸ hquiet⟩
  · have heq : auditRows t = auditRows s + 1 := by
      rw [auditRows, auditRows, hsellers, hsystem, hsame, hrows, List.length_append, List.length_singleton]
      omega
    exact ⟨by omega, heq.le, fun hsilent => by omega⟩
  · have hrows : t.system.db.auditEvents = s.system.db.auditEvents := by
      rw [hsystem, hquiet]
    exact .of_same (hsellers.trans hsame) hrows
  · have heq : auditRows t = auditRows s + 1 := by
      rw [auditRows, auditRows, hsellers, hsystem, hsame, hrows, List.length_append, List.length_singleton]
      omega
    exact ⟨by omega, heq.le, fun hsilent => by omega⟩

theorem silent_step (hs : (machine env hash).Reachable s) (hstart : ∀ c now, e ≠ .bootstrap c now)
    (h : Step env hash s e t) : Silent (if e.IsAct then 1 else 0) s t := by
  cases h with
  | arrive =>
    obtain ⟨hsellers, hsystem⟩ := arrive_sellers env s _ _ _ _ _
    exact .of_same hsellers (by rw [hsystem])
  | answer | refuse => exact .of_same rfl rfl
  | perform _ _ hdone => exact silent_perform (reachable_uniqueIds hs) hdone rfl rfl
  | engine hnext => exact .of_same rfl (Postgres.Operator.other_auditEvents (reachable_system hs) hnext)
  | bootstrap => exact absurd rfl (hstart _ _)

theorem silent_run (hs : (machine env hash).Reachable s) (h : (machine env hash).Leads s es t)
    (hstart : ∀ c now, .bootstrap c now ∉ es) : Silent (es.countP Event.IsAct) s t := by
  induction es generalizing s with
  | nil => exact Machine.leads_nil.mp h ▸ .of_same rfl rfl
  | cons e es ih =>
    obtain ⟨u, hu, h'⟩ := Machine.leads_cons.mp h
    have hfirst := silent_step hs (fun c now he => hstart c now (he ▸ List.mem_cons_self)) (next_step hu)
    have hrest := ih (hs.step hu) h' fun c now hmem => hstart c now (List.mem_cons_of_mem _ hmem)
    rw [List.countP_cons, Nat.add_comm]
    exact hfirst.trans hrest

end Silence

/-- **No change is silent.** From any state that is reached, as long as no process starts: a request that acts adds at
most one audit row and nothing else adds any, and while none is added the tenants, sellers, profiles, keys and pauses
stay as they are. A request that is refused when it acts has changed nothing in the tables of the control plane, and in
those of the settlements only when its answer could not be rendered. -/
theorem no_silent_change (env : Env) (hash : String → Int) (s : Plane) (hs : (machine env hash).Reachable s) :
    (∀ es t, (machine env hash).Leads s es t → (∀ c now, .bootstrap c now ∉ es) →
      auditRows s ≤ auditRows t ∧ auditRows t ≤ auditRows s + es.countP Event.IsAct ∧
        (auditRows t = auditRows s → Sellers.Untouched s.sellers t.sellers)) ∧
      ∀ id draw t flight reply, next env hash s (.act id draw) = some t → Dict.get t.flights id = some flight →
        flight.stage = .finished reply → reply.IsRefused → Sellers.Untouched s.sellers t.sellers ∧
          (draw.detail = none → ∃ n, t.system = { s.system with db := { s.system.db with nextEventId := n } }) := by
  refine ⟨fun es t h hstart => ?_, fun id draw t flight reply hnext hflight hstage hrefused => ?_⟩
  · have hsilent := silent_run hs h hstart
    exact ⟨hsilent.grows, hsilent.bounded, hsilent.same⟩
  · cases next_step hnext with
    | refuse => exact ⟨.refl _, fun _ => ⟨s.system.db.nextEventId, rfl⟩⟩
    | @perform _ _ flight₀ principal done hflight₀ _ hdone =>
      have hget : Dict.get (s.move id flight₀ (.finished done.1)).flights id =
          some { request := flight₀.request, correlationId := flight₀.correlationId, stage := .finished done.1 } := by
        rw [Plane.move, Plane.put, Dict.get_set, if_pos rfl]
      obtain rfl := Option.some.inj (hget.symm.trans hflight)
      cases hstage
      rcases perform_cases (reachable_uniqueIds hs) hdone with ⟨hsame, ⟨-, hquiet⟩ | ⟨hok, -⟩⟩ |
        ⟨hsame, ⟨-, n, hquiet⟩ | ⟨hdetail, -⟩⟩
      · exact ⟨hquiet, fun _ => ⟨s.system.db.nextEventId, hsame⟩⟩
      · exact absurd hrefused hok
      · exact ⟨hsame ▸ .refl s.sellers, fun _ => ⟨n, hquiet⟩⟩
      · refine ⟨hsame ▸ .refl s.sellers, fun hnone => ?_⟩
        have hsome := hdetail hrefused
        rw [hnone] at hsome
        cases hsome

/-- The second request is granted when its last answer comes; what it then does adds the one row. -/
theorem no_silent_change_alice :
    ∃ s t, (machine opsEnv fun _ => 0).Leads s (opsEvents.drop 5) t ∧ auditRows s = 0 ∧ auditRows t = 1 ∧
      auditRows t ≤ auditRows s + (opsEvents.drop 5).countP Event.IsAct := by
  have hrun : ((machine opsEnv fun _ => 0).run opsWaiting ((opsEvents.drop 2).take 3)).bind (fun s =>
      ((machine opsEnv fun _ => 0).run s (opsEvents.drop 5)).map fun t => (auditRows s, auditRows t)) = some (0, 1) := by
    decide +kernel
  obtain ⟨s, hwaiting, ht⟩ := Option.bind_eq_some_iff.mp hrun
  obtain ⟨t, ht, hview⟩ := Option.map_eq_some_iff.mp ht
  obtain ⟨hs₀, ht₁⟩ := Prod.mk.inj hview
  have hstart : ∀ c now, .bootstrap c now ∉ opsEvents.drop 5 := by simp [opsEvents]
  exact ⟨s, t, ht, hs₀, ht₁,
    ((no_silent_change opsEnv (fun _ => 0) s ⟨_, Machine.leads_append.mpr ⟨opsWaiting, ops_arrivals, hwaiting⟩⟩).1
      (opsEvents.drop 5) t ht hstart).2.1⟩

end Operations

end HostedFacilitator
