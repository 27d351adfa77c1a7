import HostedFacilitator.Auth.Token

/-!
# Authorization of operators

`OIDCAuthorizationAuthorizer` over an `OpenFGAHttpAuthorizer`. Whoever is authenticated is asked about, one relation
after the other, until OpenFGA allows one; the first answer that fails ends it. Between two answers the request waits,
and other requests go on.

* `granted_iff`: the answers to a request grant it exactly when the last of them allows its relation and all before it
  refuse theirs.
-/

namespace HostedFacilitator.Auth

/-- `OperationsPermission`. -/
inductive Permission where
  | overview
  | pause
  | sellers
  | settlements
  | manualReview
  deriving DecidableEq

/-- `_permission_relations`. -/
def Permission.relations : Permission → List String
  | .overview => ["support_operator", "auditor", "ops_admin", "security_admin"]
  | .pause => ["ops_admin", "security_admin"]
  | .sellers => ["ops_admin", "security_admin"]
  | .settlements => ["settlement_operator", "ops_admin", "security_admin"]
  | .manualReview => ["manual_reviewer", "security_admin"]

/-- An authorization: it waits for the answer about a relation, with others to come, or it is over. -/
inductive Authorization where
  | asks (principal : Principal) (relation : String) (others : List String)
  | granted (principal : Principal)
  | refused (error : AuthError)

/-- The loop over the relations. -/
def ask (principal : Principal) : List String → Authorization
  | relation :: others => .asks principal relation others
  | [] => .refused (.denied "authorization denied")

/-- `authorize`, up to the first request to OpenFGA. -/
def beginAuthorization (authenticated : Checked Principal) (permission : Permission) : Authorization :=
  match authenticated with
  | .ok principal => ask principal permission.relations
  | .error e => .refused e

/-- `bool(body.get("allowed"))`, if the answer can be read. -/
def Response.allowed : Response → Option Bool
  | .json (.dict body) => some (PyDict.get body "allowed").truthy
  | .json _ | .failed => none

/-- The loop goes on with an answer. -/
def Authorization.onAnswer (answer : Response) : Authorization → Authorization
  | .asks principal _ others => match answer.allowed with
    | some true => .granted principal
    | some false => ask principal others
    | none => .refused (.unavailable "authorization check failed")
  | finished => finished

/-- `_authorize_operations_request`: the status and the detail of an error. -/
def AuthError.http : AuthError → Nat × String
  | .unavailable _ => (503, "Hosted operations authorization unavailable")
  | .authentication _ => (401, "Unauthorized")
  | .denied _ => (403, "Forbidden")

/-! ## Answers -/

section Answers

variable {principal principal' : Principal} {answer : Response} {answers : List Response}

/-- An authorization that is over stays as it is. -/
theorem onAnswer_finished {a : Authorization} (h : ∀ p relation others, a ≠ .asks p relation others) :
    answers.foldl (fun a answer => a.onAnswer answer) a = a := by
  induction answers with
  | nil => rfl
  | cons answer answers ih =>
    rw [List.foldl_cons]
    cases a with
    | asks p relation others => exact absurd rfl (h p relation others)
    | granted p => exact ih
    | refused e => exact ih

theorem ask_ne_granted (relations : List String) : ask principal relations ≠ .granted principal' := by
  cases relations <;> simp [ask]

/-- The answers that grant: a relation of the list is allowed after all before it were refused. -/
def Allows (answers : List Response) (relations : List String) : Prop :=
  ∃ before allowed after, answers = before ++ allowed :: after ∧ before.length < relations.length ∧
    (∀ answer ∈ before, answer.allowed = some false) ∧ allowed.allowed = some true

theorem allows_nil (answers : List Response) : ¬Allows answers [] := by
  rintro ⟨before, allowed, after, -, hlen, -⟩
  exact absurd hlen (Nat.not_lt_zero _)

theorem allows_cons {relation : String} {others : List String} :
    Allows (answer :: answers) (relation :: others) ↔
      answer.allowed = some true ∨ answer.allowed = some false ∧ Allows answers others := by
  constructor
  · rintro ⟨before, allowed, after, heq, hlen, hno, hyes⟩
    cases before with
    | nil =>
      obtain ⟨rfl, -⟩ := List.cons.inj heq
      exact .inl hyes
    | cons first before =>
      obtain ⟨rfl, rfl⟩ := List.cons.inj heq
      obtain ⟨hfirst, hno⟩ := List.forall_mem_cons.mp hno
      exact .inr ⟨hfirst, before, allowed, after, rfl, Nat.lt_of_succ_lt_succ hlen, hno, hyes⟩
  · rintro (hyes | ⟨hno, before, allowed, after, rfl, hlen, hrest, hyes⟩)
    · exact ⟨[], answer, answers, rfl, Nat.succ_pos _, by simp, hyes⟩
    · exact ⟨answer :: before, allowed, after, rfl, Nat.succ_lt_succ hlen, List.forall_mem_cons.mpr ⟨hno, hrest⟩, hyes⟩

theorem ask_granted_iff {relations : List String} :
    answers.foldl (fun a answer => a.onAnswer answer) (ask principal relations) = .granted principal' ↔
      principal' = principal ∧ Allows answers relations := by
  induction answers generalizing relations with
  | nil =>
    refine iff_of_false (ask_ne_granted relations) ?_
    rintro ⟨-, before, allowed, after, heq, -⟩
    exact absurd heq (by simp)
  | cons answer answers ih =>
    cases relations with
    | nil =>
      rw [onAnswer_finished (by simp [ask])]
      exact iff_of_false (ask_ne_granted []) fun h => allows_nil _ h.2
    | cons relation others =>
      rw [List.foldl_cons, allows_cons]
      cases hallowed : answer.allowed with
      | none =>
        have hstep : (ask principal (relation :: others)).onAnswer answer =
            .refused (.unavailable "authorization check failed") := by
          simp [ask, Authorization.onAnswer, hallowed]
        rw [hstep, onAnswer_finished (by simp)]
        simp
      | some allowed =>
        cases allowed with
        | true =>
          have hstep : (ask principal (relation :: others)).onAnswer answer = .granted principal := by
            simp [ask, Authorization.onAnswer, hallowed]
          rw [hstep, onAnswer_finished (by simp)]
          simp [eq_comm]
        | false =>
          have hstep : (ask principal (relation :: others)).onAnswer answer = ask principal others := by
            simp [ask, Authorization.onAnswer, hallowed]
          rw [hstep, ih]
          simp

/-- **A request is granted** when it was authenticated and OpenFGA allows one of the relations of the permission, after
it has refused those before it. -/
theorem granted_iff {authenticated : Checked Principal} {permission : Permission} :
    answers.foldl (fun a answer => a.onAnswer answer) (beginAuthorization authenticated permission) =
        .granted principal ↔ authenticated = .ok principal ∧ Allows answers permission.relations := by
  cases authenticated with
  | error e =>
    rw [beginAuthorization, onAnswer_finished (by simp)]
    simp
  | ok p =>
    rw [beginAuthorization, ask_granted_iff, Except.ok.injEq]
    exact and_congr_left fun _ => eq_comm

end Answers

end HostedFacilitator.Auth
