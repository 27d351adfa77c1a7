import HostedFacilitator.ControlPlane.Requests
import HostedFacilitator.Sellers.Audited

/-!
# Operators at work

Requests of operators in flight, next to the engine, the reconcilers and the starts of other processes. A request
arrives (its path is checked and its token verified), waits for OpenFGA's answers one by one, and acts when it is
granted; between these steps anything else may happen.
-/

namespace HostedFacilitator.Operations

open ControlPlane
open Auth (Permission Principal Authorization AuthError ClockReadings Response KeySet)
open Transition

/-! ## The system -/

/-- Where a request is: it is being authorized, or it has its answer. -/
inductive Stage where
  | authorizing (a : Authorization)
  | finished (reply : Reply)

structure Flight where
  request : Request
  correlationId : String
  stage : Stage

structure Plane where
  keySet : Option KeySet := none
  flights : List (Nat × Flight) := []
  sellers : Sellers.Db := {}
  system : Postgres.System := {}

inductive Event where
  | arrive (id : Nat) (request : Request) (fresh : Uuid) (at' : ClockReadings) (response : Response)
  | answer (id : Nat) (response : Response)
  | act (id : Nat) (draw : ActDraw)
  | engine (e : Postgres.Event)
  | bootstrap (c : Sellers.AccountConfig) (now : Instant)

variable (env : Env) (hash : String → Int)

/-- The action on a settlement, once the payload and the record's id are there. -/
def reconcileRecord (principal : Principal) (request : Request) (correlationId : String) (action : ReconciliationAction)
    (recordId : Int) (payload : ReconciliationRequest) (draw : ActDraw) (system : Postgres.System) :
    Option (Reply × Postgres.System) :=
  let call := operatorCall env principal request correlationId action recordId payload draw
  (Postgres.Operator.next hash env.rendering.unicode env.sha256.hexdigest system
    (.action call draw.fresh draw.faults draw.now)).map fun system' =>
      (reconcileReply draw (Postgres.Db.controlAction env.rendering.unicode env.sha256.hexdigest draw.fresh draw.faults
        call draw.now system.db).1, system')

/-- `_run_reconciliation_action`, after the authorization. -/
def reconcile (principal : Principal) (request : Request) (correlationId : String) (action : ReconciliationAction)
    (recordId : String) (payload : Option ReconciliationRequest) (draw : ActDraw) (system : Postgres.System) :
    Option (Reply × Postgres.System) :=
  if !env.writesEnabled then some (writesDisabled, system)
  else match payload with
    | none => some (reconcileRefused (.value "Invalid reconciliation action payload"), system)
    | some payload =>
      match safeRecordIdText env recordId with
      | .error e => some (reconcileRefused e, system)
      | .ok recordId => reconcileRecord env hash principal request correlationId action recordId payload draw system

/-- The handlers that write to the tables of the control plane, after the authorization. -/
def handle (principal : Principal) (request : Request) (correlationId : String) (draw : ActDraw) (db : Sellers.Db) :
    Reply × Sellers.Db :=
  match request.route with
  | .setPause payload => setPause env principal request correlationId payload draw db
  | .createSeller payload => createSeller env principal request correlationId payload draw db
  | .issueKey sellerRef profile =>
    match safeSellerRef env.rendering.unicode sellerRef with
    | .error e => (issueRefused env e, db)
    | .ok seller => issueSellerApiKey env principal request correlationId seller profile draw db
  | .revokeKey sellerRef keyId reason =>
    match safeSellerRef env.rendering.unicode sellerRef, safeKeyId env.rendering.unicode keyId with
    | .error e, _ | _, .error e => (revokeRefused e, db)
    | .ok seller, .ok keyId => revokeSellerApiKey env principal request correlationId seller keyId reason draw db
  | .reconcile .. => (writesDisabled, db)

/-- A handler after the authorization: its answer and the tables. -/
def perform (principal : Principal) (flight : Flight) (draw : ActDraw) (s : Plane) :
    Option (Reply × Sellers.Db × Postgres.System) :=
  match flight.request.route with
  | .reconcile action recordId payload =>
    (reconcile env hash principal flight.request flight.correlationId action recordId payload draw s.system).map
      fun done => (done.1, s.sellers, done.2)
  | .setPause _ | .createSeller _ | .issueKey .. | .revokeKey .. =>
    let done := handle env principal flight.request flight.correlationId draw s.sellers
    some (done.1, done.2, s.system)

/-- A request enters a stage. -/
def Plane.put (s : Plane) (id : Nat) (request : Request) (correlationId : String) (stage : Stage) : Plane :=
  { s with flights := Dict.set s.flights id { request, correlationId, stage } }

/-- A request enters its next stage. -/
def Plane.move (s : Plane) (id : Nat) (flight : Flight) (stage : Stage) : Plane :=
  s.put id flight.request flight.correlationId stage

/-- The arrival of a request. -/
def arrive (id : Nat) (request : Request) (fresh : Uuid) (at' : ClockReadings) (response : Response) (s : Plane) : Plane :=
  let correlationId := correlationIdFromRequest env fresh request
  match request.route.checkPath env with
  | .error e => s.put id request correlationId (.finished (request.route.refused env e))
  | .ok () =>
    let authenticated := Auth.authenticate env.auth env.config at' response s.keySet request.authorization
    { s.put id request correlationId
        (.authorizing (Auth.beginAuthorization authenticated.1 request.route.permission)) with
      keySet := authenticated.2 }

/-- A request acts, when it is granted; otherwise it is refused. -/
def act (id : Nat) (flight : Flight) (draw : ActDraw) (s : Plane) : Authorization → Option Plane
  | .asks .. => none
  | .refused e => some (s.move id flight (.finished (.refused e.http.1 e.http.2)))
  | .granted principal =>
    (perform env hash principal flight draw s).map fun done =>
      { s.move id flight (.finished done.1) with sellers := done.2.1, system := done.2.2 }

def next (s : Plane) : Event → Option Plane
  | .arrive id request fresh at' response =>
    if (Dict.get s.flights id).isSome then none else some (arrive env id request fresh at' response s)
  | .answer id response =>
    match Dict.get s.flights id with
    | some flight => match flight.stage with
      | .authorizing (.asks principal relation others) =>
        some (s.move id flight (.authorizing ((Authorization.asks principal relation others).onAnswer response)))
      | .authorizing _ | .finished _ => none
    | none => none
  | .act id draw =>
    match Dict.get s.flights id with
    | some flight => match flight.stage with
      | .authorizing a => act env hash id flight draw s a
      | .finished _ => none
    | none => none
  | .engine e =>
    (Postgres.Operator.next hash env.rendering.unicode env.sha256.hexdigest s.system (.other e)).map fun system =>
      { s with system := system }
  | .bootstrap c now => some { s with sellers := (s.sellers.bootstrapSellerAccount env.sellers c now).2 }

def machine : Machine Plane Event where
  start := {}
  next := next env hash

end HostedFacilitator.Operations
