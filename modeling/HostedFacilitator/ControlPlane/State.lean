import Mathlib.Data.Finset.Basic
import HostedFacilitator.Lib.Dict
import HostedFacilitator.ControlPlane.Sanitize
import HostedFacilitator.Storage.Types

/-!
# The two control-plane states

`InMemoryControlPlaneState` keeps the pauses in two sets and a flag; `PostgresControlPlaneState` keeps a row for every
target that was ever paused or resumed, and reads names, reasons and ids through the `_safe_*` functions a second time.
Both write one audit event for every call that they accept.
-/

namespace HostedFacilitator.ControlPlane

/-- `ControlPlaneTargetType`. -/
inductive TargetType where
  | global
  | provider
  | network
  | seller
  | settlement
  deriving DecidableEq

/-- The actions of audit events. -/
inductive AuditAction where
  | pauseSet
  | sellerCreate
  | sellerApiKeyIssue
  | sellerApiKeyRevoke
  | reconciliation (action : ReconciliationAction)
  deriving DecidableEq

/-- `ControlPlaneAuditEvent`, and a row of `control_plane_audit_events`. -/
structure AuditEvent where
  eventId : Nat
  action : AuditAction
  targetType : TargetType
  target : String
  before : Bool
  after : Bool
  reason : String
  actor : String
  correlationId : String
  createdAt : Instant
  deriving DecidableEq

/-- `ControlPlanePauseState`. -/
structure PauseState where
  globalPaused : Bool := false
  providers : Finset String := ∅
  networks : Finset String := ∅
  deriving DecidableEq

/-- A call that writes. Of the key event's `reason` both are kept: whether it is passed, and what it is. -/
inductive Call where
  | setPause (targetType : TargetType) (target : Option String) (paused : Bool) (reason actor correlationId : String)
  | recordSellerCreate (sellerAccountId keyPrefix actor correlationId : String)
  | recordSellerKeyEvent (action sellerAccountId keyPrefix : String) (reason : Option (Option String))
      (actor correlationId : String)
  | recordReconciliationEvent (action : String) (recordId : Int) (before after : Bool)
      (reason actor correlationId : String)

/-- What a call takes from outside: the clock, and the `uuid4()` it draws if it needs one. -/
structure Draw where
  now : Instant
  fresh : Uuid

variable (u : Unicode)

/-- `_normalize_pause_target`. -/
def normalizePauseTarget (targetType : TargetType) (target : Option String) : Except PyErr String :=
  match targetType with
  | .global => .ok "global"
  | .provider =>
    if target.getD "" = "" then .error (.value "provider pause requires target")
    else .ok (safeProviderName u (target.getD ""))
  | .network =>
    if target.getD "" = "" then .error (.value "network pause requires target") else safeNetwork u (target.getD "")
  | .seller | .settlement => .error (.value "unsupported pause target type")

/-- `_safe_seller_key_action`. -/
def safeSellerKeyAction (action : String) : Except PyErr AuditAction :=
  if action = "seller_api_key_issue" then .ok .sellerApiKeyIssue
  else if action = "seller_api_key_revoke" then .ok .sellerApiKeyRevoke
  else .error (.value "unsupported seller API-key audit action")

/-- `_safe_record_id(str(record_id))`. -/
def safeRecordId (recordId : Int) : Except PyErr Int :=
  if !u.isDigits (strip (toString recordId)).toList then .error (.value "settlement record id is required")
  -- `int(text)` gives the id back
  else if recordId ≤ 0 then .error (.value "settlement record id is required")
  else .ok recordId

/-! ## In memory -/

structure Memory where
  pause : PauseState := {}
  audit : List AuditEvent := []
  nextEventId : Nat := 1

namespace Memory

/-- `_set_membership`. -/
def setMembership (values : Finset String) (value : String) (enabled : Bool) : Finset String :=
  if enabled then insert value values else values.erase value

/-- `_is_paused_locked`. -/
def isPausedLocked (pause : PauseState) (targetType : TargetType) (target : String) : Bool :=
  match targetType with
  | .global => pause.globalPaused
  | .provider => target ∈ pause.providers
  | .network => target ∈ pause.networks
  | .seller | .settlement => false

/-- The change of the pauses in `set_pause`. -/
def changePause (pause : PauseState) (targetType : TargetType) (target : String) (paused : Bool) : PauseState :=
  match targetType with
  | .global => { pause with globalPaused := paused }
  | .provider => { pause with providers := setMembership pause.providers target paused }
  | .network => { pause with networks := setMembership pause.networks target paused }
  | .seller | .settlement => pause

/-- The event is appended, under the next id. -/
def append (m : Memory) (event : Nat → AuditEvent) : AuditEvent × Memory :=
  (event m.nextEventId, { m with audit := m.audit ++ [event m.nextEventId], nextEventId := m.nextEventId + 1 })

/-- A writing call. -/
def apply (draw : Draw) (m : Memory) : Call → Except PyErr (AuditEvent × Memory)
  | .setPause targetType target paused reason actor correlationId => do
    let normalized ← normalizePauseTarget u targetType target
    let pause := changePause m.pause targetType normalized paused
    return append { m with pause := pause } fun id =>
      { eventId := id, action := .pauseSet, targetType := targetType, target := normalized
        before := isPausedLocked m.pause targetType normalized, after := isPausedLocked pause targetType normalized
        reason := safeReason reason, actor := safeActor u actor
        correlationId := safeCorrelationId u draw.fresh correlationId, createdAt := draw.now }
  | .recordSellerCreate sellerAccountId keyPrefix actor correlationId => do
    let target ← safeSellerRef u sellerAccountId
    return m.append fun id =>
      { eventId := id, action := .sellerCreate, targetType := .seller, target := target, before := false, after := true
        reason := "api_key_prefix:" ++ safeKeyPrefix u keyPrefix, actor := safeActor u actor
        correlationId := safeCorrelationId u draw.fresh correlationId, createdAt := draw.now }
  | .recordSellerKeyEvent action sellerAccountId keyPrefix reason actor correlationId => do
    let safeAction ← safeSellerKeyAction action
    let auditReason := sellerKeyAuditReason u keyPrefix (if safeAction = .sellerApiKeyRevoke then reason.join else none)
    let target ← safeSellerRef u sellerAccountId
    return m.append fun id =>
      { eventId := id, action := safeAction, targetType := .seller, target := target
        before := safeAction = .sellerApiKeyRevoke, after := safeAction = .sellerApiKeyIssue, reason := auditReason
        actor := safeActor u actor, correlationId := safeCorrelationId u draw.fresh correlationId
        createdAt := draw.now }
  | .recordReconciliationEvent action recordId before after reason actor correlationId => do
    let safeAction ← safeReconciliationAction action
    let target ← safeRecordId u recordId
    return m.append fun id =>
      { eventId := id, action := .reconciliation safeAction, targetType := .settlement, target := toString target
        before := before, after := after, reason := safeReason reason, actor := safeActor u actor
        correlationId := safeCorrelationId u draw.fresh correlationId, createdAt := draw.now }

/-- `pause_state`. -/
def pauseState (m : Memory) : PauseState := m.pause

/-- `allows`. -/
def allows (m : Memory) (provider : String) (network : Option String) : Bool :=
  if m.pause.globalPaused then false
  else if safeProviderName u provider ∈ m.pause.providers then false
  else !(safeNetworkOrNone u network).any fun n => n ≠ "" ∧ n ∈ m.pause.networks

/-- `audit_tail`: `self._audit[-0:]` is the whole list. -/
def auditTail (m : Memory) (limit : Int) : List AuditEvent :=
  let size := (max 0 (min limit 100)).toNat
  (if size = 0 then m.audit else m.audit.drop (m.audit.length - size)).reverse

end Memory

/-! ## In Postgres -/

/-- The other columns of `control_plane_pause_targets`; `(target_type, target)` is its key. -/
structure PauseColumns where
  paused : Bool
  updatedAt : Instant

structure Tables where
  pauseTargets : List ((TargetType × String) × PauseColumns) := []
  auditEvents : List AuditEvent := []
  nextEventId : Nat := 1

namespace Tables

/-- A stored reason, as it is read. -/
def readReason (action : AuditAction) (reason : String) : String :=
  match action with
  | .sellerCreate | .sellerApiKeyIssue | .sellerApiKeyRevoke => safeAuditReason u reason
  | .pauseSet | .reconciliation _ => safeReason reason

/-- `_control_plane_audit_event_from_mapping`. -/
def auditEventFromMapping (fresh : Uuid) (row : AuditEvent) : AuditEvent :=
  { row with
    reason := readReason u row.action row.reason
    actor := safeActor u row.actor
    correlationId := safeCorrelationId u fresh row.correlationId }

/-- `INSERT INTO control_plane_audit_events .. RETURNING *`. -/
def insertAudit (t : Tables) (event : Nat → AuditEvent) : AuditEvent × Tables :=
  (event t.nextEventId,
    { t with auditEvents := t.auditEvents ++ [event t.nextEventId], nextEventId := t.nextEventId + 1 })

/-- `INSERT INTO control_plane_pause_targets .. ON CONFLICT DO NOTHING`, with `paused = FALSE`. -/
def insertMissing (key : TargetType × String) (now : Instant) (t : Tables) : Tables :=
  if (Dict.get t.pauseTargets key).isSome then t
  else { t with pauseTargets := Dict.set t.pauseTargets key { paused := false, updatedAt := now } }

/-- `INSERT INTO control_plane_pause_targets .. ON CONFLICT DO UPDATE`. -/
def upsert (key : TargetType × String) (paused : Bool) (now : Instant) (t : Tables) : Tables :=
  { t with pauseTargets := Dict.set t.pauseTargets key { paused := paused, updatedAt := now } }

/-- A writing call. -/
def apply (draw : Draw) (t : Tables) : Call → Except PyErr (AuditEvent × Tables)
  | .setPause targetType target paused reason actor correlationId => do
    let normalized ← normalizePauseTarget u targetType target
    let key := (targetType, normalized)
    let t := t.insertMissing key draw.now
    match Dict.get t.pauseTargets key with
    | none => throw (.runtime "Postgres control-plane pause target was not locked")
    | some locked =>
      let inserted := (t.upsert key paused draw.now).insertAudit fun id =>
        { eventId := id, action := .pauseSet, targetType := targetType, target := normalized, before := locked.paused
          after := paused, reason := safeReason reason, actor := safeActor u actor
          correlationId := safeCorrelationId u draw.fresh correlationId, createdAt := draw.now }
      return (auditEventFromMapping u draw.fresh inserted.1, inserted.2)
  | .recordSellerCreate sellerAccountId keyPrefix actor correlationId => do
    let target ← safeSellerRef u sellerAccountId
    let inserted := t.insertAudit fun id =>
      { eventId := id, action := .sellerCreate, targetType := .seller, target := target, before := false, after := true
        reason := "api_key_prefix:" ++ safeKeyPrefix u keyPrefix, actor := safeActor u actor
        correlationId := safeCorrelationId u draw.fresh correlationId, createdAt := draw.now }
    return (auditEventFromMapping u draw.fresh inserted.1, inserted.2)
  | .recordSellerKeyEvent action sellerAccountId keyPrefix reason actor correlationId => do
    -- the method has no parameter of that name
    if reason.isSome then throw (.type
      "PostgresControlPlaneState.record_seller_key_event() got an unexpected keyword argument \x27reason\x27")
    else
      let safeAction ← safeSellerKeyAction action
      let target ← safeSellerRef u sellerAccountId
      let inserted := t.insertAudit fun id =>
        { eventId := id, action := safeAction, targetType := .seller, target := target
          before := safeAction = .sellerApiKeyRevoke, after := safeAction = .sellerApiKeyIssue
          reason := "api_key_prefix:" ++ safeKeyPrefix u keyPrefix, actor := safeActor u actor
          correlationId := safeCorrelationId u draw.fresh correlationId, createdAt := draw.now }
      return (auditEventFromMapping u draw.fresh inserted.1, inserted.2)
  | .recordReconciliationEvent action recordId before after reason actor correlationId => do
    let safeAction ← safeReconciliationAction action
    if recordId ≤ 0 then throw (.value "settlement record id is required")
    else
      let inserted := t.insertAudit fun id =>
        { eventId := id, action := .reconciliation safeAction, targetType := .settlement, target := toString recordId
          before := before, after := after, reason := safeReason reason, actor := safeActor u actor
          correlationId := safeCorrelationId u draw.fresh correlationId, createdAt := draw.now }
      return (auditEventFromMapping u draw.fresh inserted.1, inserted.2)

/-- A row of `pause_state`. -/
def addPaused (state : PauseState) (key : TargetType × String) : PauseState :=
  match key.1 with
  | .global => { state with globalPaused := true }
  | .provider => { state with providers := insert (safeProviderName u key.2) state.providers }
  | .network => match safeNetworkOrNone u (some key.2) with
    | some network => { state with networks := insert network state.networks }
    | none => state
  | .seller | .settlement => state

/-- `pause_state`. -/
def pauseState (t : Tables) : PauseState :=
  ((t.pauseTargets.filter (·.2.paused)).map Prod.fst).foldl (addPaused u) {}

/-- `allows`. -/
def allows (t : Tables) (provider : String) (network : Option String) : Bool :=
  let targets := [(TargetType.global, "global"), (TargetType.provider, safeProviderName u provider)] ++
    ((safeNetworkOrNone u network).map fun n => (TargetType.network, n)).toList
  !t.pauseTargets.any fun row => row.2.paused && targets.contains row.1

/-- `audit_tail`: the rows are in the order of their ids, and no action or target type in them is unknown. -/
def auditTail (fresh : Uuid) (t : Tables) (limit : Int) : List AuditEvent :=
  (t.auditEvents.reverse.take (max 0 (min limit 100)).toNat).map (auditEventFromMapping u fresh)

end Tables

end HostedFacilitator.ControlPlane
