import HostedFacilitator.Lib.Dict
import HostedFacilitator.Lib.Transition
import HostedFacilitator.Storage.Types

/-!
# Migrations

`apply_hosted_postgres_migrations` run by any number of processes at once, statement by statement. A run works on its own
copy of the database from the advisory lock to its commit; every statement, the validation and the commit may raise, and
the copy is then dropped. The schema and what a migration's SQL does to it are parameters.

* `Run.advance_ok`: what a run under the lock has done so far, statement by statement;
* `migration_ledger`: nothing but the commits of runs that return changes the database; every commit executes and records,
  in list order, the versions that the ledger lacked; and after a run has returned the ledger is current for good.
-/

namespace HostedFacilitator.Migrations

/-- `HostedPostgresMigration`. -/
structure HostedPostgresMigration where
  scope : String
  version : String
  description : String
  sql : String
  acceptedChecksums : List String := []
  deriving DecidableEq

/-- The arguments that all runs share; `exec` is the database, `sha256` and `repr` are Python's. -/
structure Deployment (σ : Type) where
  scope : String
  migrations : List HostedPostgresMigration
  sha256 : String → String
  repr : String → String
  exec : String → σ → Except PyErr σ

/-- `hosted_schema_migrations`. -/
structure LedgerRow where
  scope : String
  version : String
  description : String
  checksum : String
  appliedAt : Instant

/-- The primary key. -/
def LedgerRow.key (r : LedgerRow) : String × String := (r.scope, r.version)

structure Ledger where
  rows : List LedgerRow
  unique : (rows.map LedgerRow.key).Nodup

/-- The schema and the ledger; `none` before the table exists. -/
structure Db (σ : Type) where
  schema : σ
  ledger : Option Ledger

def Ledger.empty : Ledger := ⟨[], List.nodup_nil⟩

/-- `INSERT INTO hosted_schema_migrations`. -/
def Ledger.insert (ledger : Ledger) (row : LedgerRow) : Except PyErr Ledger :=
  if h : ∀ r ∈ ledger.rows, r.key ≠ row.key then .ok ⟨ledger.rows ++ [row], Table.nodup_append_fresh ledger.unique h⟩
  else .error (.other "UniqueViolation" "duplicate key value violates unique constraint")

/-- `SELECT version, checksum FROM hosted_schema_migrations WHERE scope = scope`. -/
def Ledger.applied (scope : String) (ledger : Ledger) : List (String × String) :=
  (ledger.rows.filter (·.scope == scope)).map fun r => (r.version, r.checksum)

variable {σ : Type} (d : Deployment σ)

/-- `HostedPostgresMigration.accepts_checksum`. -/
def HostedPostgresMigration.acceptsChecksum (m : HostedPostgresMigration) (checksum : String) : Bool :=
  checksum == d.sha256 m.sql || m.acceptedChecksums.contains checksum

/-- The row that records a migration. -/
def HostedPostgresMigration.row (m : HostedPostgresMigration) (now : Instant) : LedgerRow where
  scope := d.scope
  version := m.version
  description := m.description
  checksum := d.sha256 m.sql
  appliedAt := now

/-- `hosted_postgres_migrations_current`. -/
def hostedPostgresMigrationsCurrent (db : Db σ) : Except PyErr Bool :=
  match db.ledger with
  | none => .error (.other "UndefinedTable" "relation \"hosted_schema_migrations\" does not exist")
  | some ledger =>
    -- of two migrations with one version the dictionary keeps the last
    let expected (version : String) := d.migrations.reverse.find? (·.version == version)
    let applied := ledger.applied d.scope
    .ok (applied.all (fun e => (expected e.1).isSome) && d.migrations.all (fun m => (Dict.get applied m.version).isSome) &&
      applied.all fun e => (expected e.1).any (·.acceptsChecksum d e.2))

/-! ## Runs -/

/-- The copy of the database that a run works on. -/
structure Work (σ : Type) where
  schema : σ
  ledger : Ledger

def Db.work (db : Db σ) : Work σ := ⟨db.schema, db.ledger.getD .empty⟩

def Work.db (w : Work σ) : Db σ := ⟨w.schema, some w.ledger⟩

/-- Where a run stands. -/
inductive Phase (σ : Type) where
  | arriving
  | creating
  | locking
  -- the lock is held from here
  | reading (w : Work σ)
  | applying (w : Work σ) (applied : List (String × String)) (todo toRecord : List HostedPostgresMigration)
  | validating (w : Work σ) (toRecord : List HostedPostgresMigration)
  | recording (w : Work σ) (recorded toRecord : List HostedPostgresMigration)
  | committing (w : Work σ) (recorded : List HostedPostgresMigration)
  | returned
  | raised (error : PyErr)

/-- A run: its `validate_schema`, where it stands, and the migrations whose SQL it has sent. -/
structure Run (σ : Type) where
  validate : Option (σ → Except PyErr Bool)
  phase : Phase σ := .arriving
  executed : List HostedPostgresMigration := []

/-- The run is inside its transaction. -/
def Phase.inTransaction : Phase σ → Bool
  | .arriving | .returned | .raised _ => false
  | _ => true

/-- The run holds the advisory lock. -/
def Phase.holds : Phase σ → Bool
  | .reading _ | .applying .. | .validating .. | .recording .. | .committing .. => true
  | _ => false

/-- The next statement of a run, apart from the lock and the commit. -/
def Run.advance (now : Instant) (run : Run σ) : Option (Run σ) :=
  match run.phase with
  | .arriving =>
    if d.migrations.any (·.scope != d.scope) then
      some { run with phase := .raised (.value ("All hosted Postgres migrations must use scope " ++ d.repr d.scope)) }
    else some { run with phase := .creating }
  | .creating => some { run with phase := .locking }
  | .reading w => some { run with phase := .applying w (w.ledger.applied d.scope) d.migrations [] }
  | .applying w _ [] toRecord => some { run with phase := .validating w toRecord }
  | .applying w applied (m :: todo) toRecord => match Dict.get applied m.version with
    | some checksum =>
      if m.acceptsChecksum d checksum then some { run with phase := .applying w applied todo toRecord }
      else
        let error := "Hosted Postgres migration checksum mismatch for " ++ d.scope ++ ":" ++ m.version
        some { run with phase := .raised (.runtime error) }
    | none => match d.exec m.sql w.schema with
      | .ok schema =>
        let w := { w with schema := schema }
        some { run with phase := .applying w applied todo (toRecord ++ [m]), executed := run.executed ++ [m] }
      | .error e => some { run with phase := .raised e, executed := run.executed ++ [m] }
  | .validating w toRecord => match run.validate with
    | none => some { run with phase := .recording w [] toRecord }
    | some validate => match validate w.schema with
      | .ok true => some { run with phase := .recording w [] toRecord }
      | .ok false =>
        some { run with phase := .raised (.runtime ("Hosted Postgres schema validation failed for " ++ d.scope)) }
      | .error e => some { run with phase := .raised e }
  | .recording w recorded [] => some { run with phase := .committing w recorded }
  | .recording w recorded (m :: toRecord) => match w.ledger.insert (m.row d now) with
    | .ok ledger => some { run with phase := .recording { w with ledger := ledger } (recorded ++ [m]) toRecord }
    | .error e => some { run with phase := .raised e }
  | .locking | .committing .. | .returned | .raised _ => none

/-- A commit: whose it is, what it executed and recorded, and the database before and after it. -/
structure Commit (σ : Type) where
  run : Nat
  migrations : List HostedPostgresMigration
  before : Db σ
  after : Db σ

structure State (σ : Type) where
  db : Db σ
  runs : List (Run σ) := []
  log : List (Commit σ) := []

/-- A process starts a run, or a run goes on; `fault` is what its statement raises. -/
inductive Event (σ : Type) where
  | start (validate : Option (σ → Except PyErr Bool))
  | step (i : Nat) (fault : Option PyErr) (now : Instant)

def State.set (s : State σ) (i : Nat) (run : Run σ) : State σ := { s with runs := s.runs.set i run }

def next (s : State σ) : Event σ → Option (State σ)
  | .start validate => some { s with runs := s.runs ++ [{ validate := validate }] }
  | .step i fault now => s.runs[i]?.bind fun run =>
    match fault with
    | some e => if run.phase.inTransaction then some (s.set i { run with phase := .raised e }) else none
    | none => match run.phase with
      -- `pg_advisory_xact_lock` waits until no other transaction holds the lock
      | .locking =>
        if s.runs.all (!·.phase.holds) then some (s.set i { run with phase := .reading s.db.work }) else none
      | .committing w recorded => some { s.set i { run with phase := .returned } with
          db := w.db
          log := s.log ++ [{ run := i, migrations := recorded, before := s.db, after := w.db }] }
      | _ => (run.advance d now).map (s.set i)

def machine (prior : Db σ) : Transition.Machine (State σ) (Event σ) where
  start := { db := prior }
  next := next d

/-! ## What the ledger says -/

/-- The versions of the scope, in the order of their rows. -/
def Db.recorded (db : Db σ) : List String := (db.work.ledger.applied d.scope).map Prod.fst

/-- Every row of the scope is of a listed version, with a checksum that its migration accepts. -/
def Db.Accepted (db : Db σ) : Prop :=
  ∀ e ∈ db.work.ledger.applied d.scope, ∃ m ∈ d.migrations, m.version = e.1 ∧ m.acceptsChecksum d e.2 = true

/-- The table exists and has every listed version. -/
def Db.Complete (db : Db σ) : Prop := db.ledger.isSome = true ∧ ∀ m ∈ d.migrations, m.version ∈ db.recorded d

/-- Execute the SQL of some migrations. -/
def runAll (ms : List HostedPostgresMigration) (schema : σ) : Except PyErr σ :=
  ms.foldlM (fun schema m => d.exec m.sql schema) schema

/-- The migrations of a list that the ledger lacks. -/
def missing (ledger : Ledger) (ms : List HostedPostgresMigration) : List HostedPostgresMigration :=
  ms.filter fun m => (Dict.get (ledger.applied d.scope) m.version).isNone

/-- The rows record these migrations, whenever that was. -/
def Entered (rows : List LedgerRow) (ms : List HostedPostgresMigration) : Prop :=
  rows.map (fun r => { r with appliedAt := 0 }) = ms.map fun m => m.row d 0

variable {d} {db : Db σ} {ledger : Ledger} {ms : List HostedPostgresMigration} {m : HostedPostgresMigration}

theorem runAll_snoc {schema schema' : σ} (h : runAll d ms schema = .ok schema') :
    runAll d (ms ++ [m]) schema = d.exec m.sql schema' := by
  simp only [runAll] at h ⊢
  rw [List.foldlM_append, h]
  change (d.exec m.sql schema' >>= pure) = _
  exact bind_pure _

theorem missing_snoc : missing d ledger (ms ++ [m]) =
    missing d ledger ms ++ if (Dict.get (ledger.applied d.scope) m.version).isNone then [m] else [] := by
  rw [missing, List.filter_append, missing, List.filter_singleton]
  exact congrArg _ (Bool.cond_eq_ite ..)

theorem insert_rows {row : LedgerRow} {ledger' : Ledger} (h : ledger.insert row = .ok ledger') :
    ledger'.rows = ledger.rows ++ [row] := by
  unfold Ledger.insert at h
  split at h <;> cases h
  rfl

theorem applied_nodup (ledger : Ledger) (scope : String) : ((ledger.applied scope).map Prod.fst).Nodup := by
  rw [Ledger.applied, List.map_map]
  refine List.Nodup.map_on ?_ ((List.Nodup.of_map _ ledger.unique).filter _)
  intro a ha b hb hab
  obtain ⟨ha, hsa⟩ := List.mem_filter.mp ha
  obtain ⟨hb, hsb⟩ := List.mem_filter.mp hb
  refine List.inj_on_of_nodup_map ledger.unique ha hb ?_
  simp only [beq_iff_eq] at hsa hsb
  exact Prod.ext (hsa.trans hsb.symm) hab

theorem get_of_recorded {scope version : String} (h : version ∈ (ledger.applied scope).map Prod.fst) :
    ∃ checksum, Dict.get (ledger.applied scope) version = some checksum := by
  obtain ⟨⟨v, checksum⟩, he, rfl⟩ := List.mem_map.mp h
  exact ⟨checksum, (Dict.get_eq_some (applied_nodup ledger scope)).mpr he⟩

/-- Rows that are entered are rows of the scope. -/
theorem applied_append {rows : List LedgerRow} (ledger' : Ledger) (hrows : ledger'.rows = ledger.rows ++ rows)
    (h : Entered d rows ms) : ledger'.applied d.scope =
      ledger.applied d.scope ++ ms.map fun m => (m.version, d.sha256 m.sql) := by
  have hscope : ∀ r ∈ rows, r.scope = d.scope := by
    intro r hr
    have hmem : ({ r with appliedAt := 0 } : LedgerRow) ∈ ms.map fun m => m.row d 0 := by
      rw [← h]
      exact List.mem_map.mpr ⟨r, hr, rfl⟩
    obtain ⟨m, -, hm⟩ := List.mem_map.mp hmem
    exact (congrArg LedgerRow.scope hm).symm
  have hentries : rows.map (fun r => (r.version, r.checksum)) = ms.map fun m => (m.version, d.sha256 m.sql) := by
    have hmap := congrArg (List.map fun r : LedgerRow => (r.version, r.checksum)) h
    rw [List.map_map, List.map_map] at hmap
    exact hmap
  have hall : rows.filter (·.scope == d.scope) = rows :=
    List.filter_eq_self.mpr fun r hr => by simp [hscope r hr]
  rw [Ledger.applied, hrows, List.filter_append, List.map_append, hall, hentries]
  rfl

/-! ## A run under the lock -/

def Run.Validated (run : Run σ) (schema : σ) : Prop :=
  ∀ validate, run.validate = some validate → validate schema = .ok true

variable (d db) in
/-- The run has executed and validated exactly what the ledger lacked, and has recorded `recorded` of it. -/
structure Run.Executed (run : Run σ) (w : Work σ) (recorded toRecord : List HostedPostgresMigration) : Prop where
  executed : run.executed = recorded ++ toRecord
  missing : recorded ++ toRecord = missing d db.work.ledger d.migrations
  schema : runAll d (recorded ++ toRecord) db.schema = .ok w.schema
  validated : run.Validated w.schema
  rows : ∃ rows, w.ledger.rows = db.work.ledger.rows ++ rows ∧ Entered d rows recorded

variable (d db) in
/-- What a run has done so far, where the database is `db` and nobody else has the lock. -/
def Run.Ok (run : Run σ) : Prop :=
  match run.phase with
  | .arriving | .creating | .locking => run.executed = []
  | .reading w => run.executed = [] ∧ w = db.work
  | .applying w applied todo toRecord =>
    run.executed = toRecord ∧ w.ledger = db.work.ledger ∧ applied = db.work.ledger.applied d.scope ∧
      runAll d toRecord db.schema = .ok w.schema ∧
      ∃ done, d.migrations = done ++ todo ∧ toRecord = missing d db.work.ledger done
  | .validating w toRecord =>
    run.executed = toRecord ∧ w.ledger = db.work.ledger ∧ runAll d toRecord db.schema = .ok w.schema ∧
      toRecord = missing d db.work.ledger d.migrations
  | .recording w recorded toRecord => run.Executed d db w recorded toRecord
  | .committing w recorded => run.Executed d db w recorded []
  | .returned | .raised _ => True

variable {run run' : Run σ} {now : Instant}

/-- A statement under the lock, on the run's own copy. -/
theorem Run.advance_ok (h : run.Ok d db) (hn : run.advance d now = some run') : run'.Ok d db := by
  obtain ⟨validate, phase, executed⟩ := run
  cases phase with
  | arriving =>
    simp only [Run.advance] at hn
    split at hn <;> cases hn
    · trivial
    · exact h
  | creating => cases hn; exact h
  | reading w =>
    cases hn
    obtain ⟨hexecuted, rfl⟩ := h
    exact ⟨hexecuted, rfl, rfl, rfl, [], rfl, rfl⟩
  | applying w applied todo toRecord =>
    obtain ⟨hexecuted, hledger, rfl, hschema, done, hdone, hrecord⟩ := h
    cases todo with
    | nil =>
      cases hn
      rw [List.append_nil] at hdone
      exact ⟨hexecuted, hledger, hschema, hdone ▸ hrecord⟩
    | cons m todo =>
      have hdone' : d.migrations = (done ++ [m]) ++ todo := by rw [hdone, List.append_assoc]; rfl
      simp only [Run.advance] at hn
      split at hn
      · rename_i checksum hfound
        split at hn <;> cases hn
        · refine ⟨hexecuted, hledger, rfl, hschema, done ++ [m], hdone', ?_⟩
          rw [missing_snoc, hfound, ← hrecord]
          simp
        · trivial
      · rename_i hlacks
        split at hn <;> cases hn
        · rename_i schema hexec
          refine ⟨by rw [← hexecuted], hledger, rfl, by rw [runAll_snoc hschema, hexec], done ++ [m], hdone', ?_⟩
          rw [missing_snoc, hlacks, ← hrecord]
          rfl
        · trivial
  | validating w toRecord =>
    obtain ⟨hexecuted, hledger, hschema, hrecord⟩ := h
    have hok (hv : Run.Validated ⟨validate, .recording w [] toRecord, executed⟩ w.schema) :
        Run.Executed d db ⟨validate, .recording w [] toRecord, executed⟩ w [] toRecord :=
      ⟨hexecuted, hrecord, hschema, hv, [], by rw [hledger, List.append_nil], rfl⟩
    simp only [Run.advance] at hn
    split at hn
    · cases hn
      exact hok fun validate hv => by simp at hv
    · split at hn <;> cases hn
      · rename_i v _ _ hvalid
        refine hok fun validate hv => ?_
        cases hv
        exact hvalid
      · trivial
      · trivial
  | recording w recorded toRecord =>
    obtain ⟨hexecuted, hmissing, hschema, hvalid, rows, hrows, hentered⟩ := h
    cases toRecord with
    | nil =>
      cases hn
      exact ⟨hexecuted, hmissing, hschema, hvalid, rows, hrows, hentered⟩
    | cons m toRecord =>
      have happend : (recorded ++ [m]) ++ toRecord = recorded ++ m :: toRecord := by rw [List.append_assoc]; rfl
      simp only [Run.advance] at hn
      split at hn <;> cases hn
      · rename_i ledger' hinsert
        refine ⟨by rw [happend]; exact hexecuted, by rw [happend]; exact hmissing, by rw [happend]; exact hschema, hvalid,
          rows ++ [m.row d now], by rw [insert_rows hinsert, hrows, List.append_assoc], ?_⟩
        rw [Entered, List.map_append, List.map_append, hentered]
        rfl
      · trivial
  | locking | committing | returned | raised => cases hn

/-- A statement neither takes the lock nor commits. -/
theorem Run.advance_phase (hn : run.advance d now = some run') :
    (run'.phase.holds = true → run.phase.holds = true) ∧ run.phase ≠ .returned ∧ run'.phase ≠ .returned := by
  obtain ⟨validate, phase, executed⟩ := run
  unfold Run.advance at hn
  cases phase with
  | arriving =>
    simp only at hn
    split at hn <;> cases hn <;> simp [Phase.holds]
  | creating => cases hn; simp [Phase.holds]
  | reading => cases hn; simp [Phase.holds]
  | applying w applied todo toRecord =>
    cases todo with
    | nil => cases hn; simp [Phase.holds]
    | cons m todo =>
      simp only at hn
      split at hn <;> split at hn <;> cases hn <;> simp [Phase.holds]
  | validating =>
    simp only at hn
    split at hn
    · cases hn
      simp [Phase.holds]
    · split at hn <;> cases hn <;> simp [Phase.holds]
  | recording w recorded toRecord =>
    cases toRecord with
    | nil => cases hn; simp [Phase.holds]
    | cons m toRecord =>
      simp only at hn
      split at hn <;> cases hn <;> simp [Phase.holds]
  | locking | committing | returned | raised => cases hn

/-! ## All runs -/

variable {prior : Db σ} {s t : State σ} {i : Nat}

variable (d) in
/-- One run moves without touching the database: a statement, an error, or the lock that nobody holds. -/
def Moves (s : State σ) (run run' : Run σ) : Prop :=
  (∃ now, run.advance d now = some run') ∨ (∃ e, run' = { run with phase := .raised e } ∧ run.phase.inTransaction = true) ∨
    (run.phase = .locking ∧ s.runs.all (!·.phase.holds) = true ∧ run' = { run with phase := .reading s.db.work })

/-- A run starts, moves on its own, or commits and returns. -/
theorem next_cases {e : Event σ} (h : next d s e = some t) :
    (∃ validate, t = { s with runs := s.runs ++ [{ validate := validate }] }) ∨
      (∃ i run run', s.runs[i]? = some run ∧ Moves d s run run' ∧ t = s.set i run') ∨
      ∃ i run w recorded, s.runs[i]? = some run ∧ run.phase = .committing w recorded ∧
        t = { s.set i { run with phase := .returned } with
          db := w.db
          log := s.log ++ [{ run := i, migrations := recorded, before := s.db, after := w.db }] } := by
  cases e with
  | start validate => cases h; exact Or.inl ⟨validate, rfl⟩
  | step i fault now =>
    obtain ⟨run, hrun, h⟩ := Option.bind_eq_some_iff.mp h
    split at h
    · split at h <;> cases h
      rename_i e htx
      exact Or.inr (Or.inl ⟨i, run, _, hrun, Or.inr (Or.inl ⟨e, rfl, htx⟩), rfl⟩)
    · split at h
      · rename_i hphase
        split at h <;> cases h
        rename_i hfree
        exact Or.inr (Or.inl ⟨i, run, _, hrun, Or.inr (Or.inr ⟨hphase, hfree, rfl⟩), rfl⟩)
      · rename_i w recorded hphase
        cases h
        exact Or.inr (Or.inr ⟨i, run, w, recorded, hrun, hphase, rfl⟩)
      · obtain ⟨run', hadvance, rfl⟩ := Option.map_eq_some_iff.mp h
        exact Or.inr (Or.inl ⟨i, run, run', hrun, Or.inl ⟨now, hadvance⟩, rfl⟩)

/-- A move keeps what the run has done, and does not return. -/
theorem Moves.ok {run run' : Run σ} (hm : Moves d s run run') (h : run.Ok d s.db) :
    run'.Ok d s.db ∧ run.phase ≠ .returned ∧ run'.phase ≠ .returned := by
  rcases hm with ⟨now, hadvance⟩ | ⟨e, rfl, htx⟩ | ⟨hphase, -, rfl⟩
  · exact ⟨Run.advance_ok h hadvance, (Run.advance_phase hadvance).2⟩
  · refine ⟨trivial, fun hr => ?_, by simp⟩
    rw [hr] at htx
    cases htx
  · refine ⟨?_, by simp [hphase], by simp⟩
    rw [Run.Ok, hphase] at h
    exact ⟨h, rfl⟩

variable (d) in
/-- A commit executed and recorded exactly what the ledger lacked, after the validation of the run. -/
structure Commit.Valid (c : Commit σ) (run : Run σ) : Prop where
  executed : run.executed = c.migrations
  missing : c.migrations = missing d c.before.work.ledger d.migrations
  schema : runAll d c.migrations c.before.schema = .ok c.after.schema
  validated : run.Validated c.after.schema
  rows : ∃ rows, c.after.work.ledger.rows = c.before.work.ledger.rows ++ rows ∧ Entered d rows c.migrations

/-- The commits lead from one database to another, each from where the one before it ended. -/
def Chained (prior : Db σ) : List (Commit σ) → Db σ → Prop
  | [], db => db = prior
  | c :: log, db => c.before = prior ∧ Chained c.after log db

theorem Chained.snoc {log : List (Commit σ)} {c : Commit σ} (h : Chained prior log db) (hc : c.before = db) :
    Chained prior (log ++ [c]) c.after := by
  induction log generalizing prior with
  | nil => exact ⟨hc.trans h, rfl⟩
  | cons c' log ih => exact ⟨h.1, ih h.2⟩

theorem Commit.Valid.recorded {c : Commit σ} (h : c.Valid d run) :
    c.after.recorded d = c.before.recorded d ++ c.migrations.map (·.version) := by
  obtain ⟨rows, hrows, hentered⟩ := h.rows
  rw [Db.recorded, applied_append _ hrows hentered, List.map_append, List.map_map]
  rfl

/-- The ledger after some commits. -/
theorem Chained.recorded {log : List (Commit σ)} (h : Chained prior log db) (hv : ∀ c ∈ log, ∃ run, c.Valid d run) :
    db.recorded d = prior.recorded d ++ log.flatMap fun c => c.migrations.map (·.version) := by
  induction log generalizing prior with
  | nil => rw [h, List.flatMap_nil, List.append_nil]
  | cons c log ih =>
    obtain ⟨rfl, hlog⟩ := h
    obtain ⟨run, hc⟩ := hv c List.mem_cons_self
    rw [ih hlog fun c' hc' => hv c' (List.mem_cons_of_mem c hc'), hc.recorded, List.flatMap_cons, List.append_assoc]

variable (d prior) in
structure Inv (s : State σ) : Prop where
  runs : ∀ (i : Nat) (run : Run σ), s.runs[i]? = some run → run.Ok d s.db
  exclusive : ∀ (i j : Nat) (ri rj : Run σ), s.runs[i]? = some ri → s.runs[j]? = some rj → ri.phase.holds = true →
    rj.phase.holds = true → i = j
  accepted : s.db.Accepted d
  chained : Chained prior s.log s.db
  valid : ∀ c ∈ s.log, ∃ run, s.runs[c.run]? = some run ∧ run.phase = .returned ∧ c.Valid d run
  complete : ∀ run ∈ s.runs, run.phase = .returned → s.db.Complete d

/-- A run that neither holds the lock nor has anything to say about the database. -/
theorem Run.Ok.of_not_holds {db' : Db σ} (h : run.Ok d db) (hh : run.phase.holds = false) : run.Ok d db' := by
  unfold Run.Ok at h ⊢
  split <;> simp_all [Phase.holds]

theorem Inv.begin (h : Inv d prior s) (validate : Option (σ → Except PyErr Bool)) :
    Inv d prior { s with runs := s.runs ++ [{ validate := validate }] } := by
  have hold {j : Nat} {rj : Run σ} (hj : (s.runs ++ [{ validate := validate }])[j]? = some rj)
      (hholds : rj.phase.holds = true) : s.runs[j]? = some rj := by
    rcases Table.append_cases hj with hj | ⟨-, rfl⟩
    · exact hj
    · cases hholds
  refine ⟨fun i run hi => ?_, ?_, h.accepted, h.chained, fun c hc => ?_, fun run hr hret => ?_⟩
  · rcases Table.append_cases hi with hi | ⟨-, rfl⟩
    · exact h.runs i run hi
    · exact rfl
  · intro i j ri rj hi hj hri hrj
    exact h.exclusive i j ri rj (hold hi hri) (hold hj hrj) hri hrj
  · obtain ⟨run, hrun, hret, hv⟩ := h.valid c hc
    exact ⟨run, List.getElem?_append_left (List.getElem?_eq_some_iff.mp hrun).1 ▸ hrun, hret, hv⟩
  · rcases List.mem_append.mp hr with hr | hr
    · exact h.complete run hr hret
    · rw [List.mem_singleton.mp hr] at hret
      cases hret

/-- Runs that hold the lock after a move held it before, or nobody did. -/
theorem Moves.exclusive (h : Inv d prior s) (hrun : s.runs[i]? = some run) (hm : Moves d s run run') :
    ∀ (j k : Nat) (rj rk : Run σ), (s.runs.set i run')[j]? = some rj → (s.runs.set i run')[k]? = some rk →
      rj.phase.holds = true → rk.phase.holds = true → j = k := by
  by_cases hkeeps : run'.phase.holds = true → run.phase.holds = true
  · have hold {j : Nat} {rj : Run σ} (hj : (s.runs.set i run')[j]? = some rj) (hholds : rj.phase.holds = true) :
        ∃ rj', s.runs[j]? = some rj' ∧ rj'.phase.holds = true := by
      rcases Table.set_cases hj with ⟨rfl, rfl⟩ | ⟨-, hj⟩
      · exact ⟨run, hrun, hkeeps hholds⟩
      · exact ⟨rj, hj, hholds⟩
    intro j k rj rk hj hk hrj hrk
    obtain ⟨rj', hj', hrj'⟩ := hold hj hrj
    obtain ⟨rk', hk', hrk'⟩ := hold hk hrk
    exact h.exclusive j k rj' rk' hj' hk' hrj' hrk'
  · rcases hm with ⟨now, hadvance⟩ | ⟨e, rfl, -⟩ | ⟨-, hfree, rfl⟩
    · exact absurd (Run.advance_phase hadvance).1 hkeeps
    · exact absurd (fun h => by cases h) hkeeps
    · -- the lock was free, so only the run that took it holds it
      have hself {j : Nat} {rj : Run σ} (hj : (s.runs.set i { run with phase := .reading s.db.work })[j]? = some rj)
          (hholds : rj.phase.holds = true) : j = i := by
        rcases Table.set_cases hj with ⟨rfl, -⟩ | ⟨-, hj⟩
        · rfl
        · have hnot := List.all_eq_true.mp hfree rj (List.mem_of_getElem? hj)
          rw [hholds] at hnot
          cases hnot
      intro j k rj rk hj hk hrj hrk
      rw [hself hj hrj, hself hk hrk]

theorem Inv.move (h : Inv d prior s) (hrun : s.runs[i]? = some run) (hm : Moves d s run run') :
    Inv d prior (s.set i run') := by
  obtain ⟨hok, hnot, hnot'⟩ := hm.ok (h.runs i run hrun)
  refine ⟨fun j rj hj => ?_, hm.exclusive h hrun, h.accepted, h.chained, fun c hc => ?_, fun rj hr hret => ?_⟩
  · rcases Table.set_cases hj with ⟨rfl, rfl⟩ | ⟨-, hj⟩
    · exact hok
    · exact h.runs j rj hj
  · obtain ⟨rc, hrc, hret, hv⟩ := h.valid c hc
    refine ⟨rc, ?_, hret, hv⟩
    have hne : i ≠ c.run := by
      rintro rfl
      rw [hrun] at hrc
      cases hrc
      exact hnot hret
    rw [State.set, List.getElem?_set_ne hne]
    exact hrc
  · rcases List.mem_or_eq_of_mem_set hr with hr | rfl
    · exact h.complete rj hr hret
    · exact absurd hret hnot'

/-- The database after a commit accepts its ledger and has every version. -/
theorem Commit.Valid.after {c : Commit σ} {w : Work σ} (h : c.Valid d run) (hw : c.after = w.db)
    (ha : c.before.Accepted d) : c.after.Accepted d ∧ c.after.Complete d := by
  obtain ⟨rows, hrows, hentered⟩ := h.rows
  have happlied := applied_append _ hrows hentered
  refine ⟨fun e he => ?_, by rw [hw]; rfl, fun m hm => ?_⟩
  · rw [happlied] at he
    rcases List.mem_append.mp he with he | he
    · exact ha e he
    · obtain ⟨m, hm, rfl⟩ := List.mem_map.mp he
      rw [h.missing] at hm
      exact ⟨m, (List.mem_filter.mp hm).1, rfl, by simp [HostedPostgresMigration.acceptsChecksum]⟩
  · rw [h.recorded]
    cases hget : Dict.get (c.before.work.ledger.applied d.scope) m.version with
    | some checksum => exact List.mem_append_left _ (List.mem_map.mpr ⟨_, Dict.mem_of_get hget, rfl⟩)
    | none =>
      refine List.mem_append_right _ (List.mem_map.mpr ⟨m, ?_, rfl⟩)
      rw [h.missing]
      exact List.mem_filter.mpr ⟨hm, by rw [hget]; rfl⟩

theorem Inv.commit {w : Work σ} {recorded : List HostedPostgresMigration} (h : Inv d prior s)
    (hrun : s.runs[i]? = some run) (hphase : run.phase = .committing w recorded) :
    Inv d prior { s.set i { run with phase := .returned } with
      db := w.db
      log := s.log ++ [{ run := i, migrations := recorded, before := s.db, after := w.db }] } := by
  have hexec : run.Executed d s.db w recorded [] := by
    have hok := h.runs i run hrun
    rw [Run.Ok, hphase] at hok
    exact hok
  obtain ⟨hexecuted, hmissing, hschema, hvalid, hrows⟩ := hexec
  rw [List.append_nil] at hexecuted hmissing hschema
  have hholds : run.phase.holds = true := by rw [hphase]; rfl
  have hself : (s.runs.set i { run with phase := .returned })[i]? = some { run with phase := .returned } :=
    List.getElem?_set_self (List.getElem?_eq_some_iff.mp hrun).1
  have hcommit : Commit.Valid d { run := i, migrations := recorded, before := s.db, after := w.db }
      { run with phase := .returned } := ⟨hexecuted, hmissing, hschema, hvalid, hrows⟩
  obtain ⟨haccepted, hcomplete⟩ := hcommit.after rfl h.accepted
  refine ⟨fun j rj hj => ?_, ?_, haccepted, h.chained.snoc rfl, fun c hc => ?_, fun _ _ _ => hcomplete⟩
  · rcases Table.set_cases hj with ⟨rfl, rfl⟩ | ⟨hne, hj⟩
    · trivial
    · -- another run does not hold the lock, so the commit means nothing to it
      refine (h.runs j rj hj).of_not_holds (Bool.eq_false_iff.mpr fun hrj => ?_)
      exact hne (h.exclusive j i rj run hj hrun hrj hholds)
  · intro j k rj rk hj hk hrj hrk
    rcases Table.set_cases hj with ⟨-, rfl⟩ | ⟨-, hj⟩
    · cases hrj
    · rcases Table.set_cases hk with ⟨-, rfl⟩ | ⟨-, hk⟩
      · cases hrk
      · exact h.exclusive j k rj rk hj hk hrj hrk
  · rcases List.mem_append.mp hc with hc | hc
    · obtain ⟨rc, hrc, hret, hv⟩ := h.valid c hc
      refine ⟨rc, ?_, hret, hv⟩
      have hne : i ≠ c.run := by
        rintro rfl
        rw [hrun] at hrc
        cases hrc
        rw [hret] at hphase
        cases hphase
      rw [State.set, List.getElem?_set_ne hne]
      exact hrc
    · rw [List.mem_singleton.mp hc]
      exact ⟨_, hself, rfl, hcommit⟩

theorem reachable_inv (hprior : prior.Accepted d) (h : (machine d prior).Reachable s) : Inv d prior s := by
  have hstart : Inv d prior { db := prior } := by
    constructor <;> simp [Chained, hprior]
  refine h.invariant (I := Inv d prior) hstart ?_
  intro s e t _ hs hn
  rcases next_cases hn with ⟨validate, rfl⟩ | ⟨i, run, run', hrun, hm, rfl⟩ | ⟨i, run, w, recorded, hrun, hphase, rfl⟩
  · exact hs.begin validate
  · exact hs.move hrun hm
  · exact hs.commit hrun hphase

/-! ## A ledger with every version -/

/-- The health check agrees with the runner. -/
theorem current_of_complete (hd : (d.migrations.map (·.version)).Nodup) (ha : db.Accepted d) (hc : db.Complete d) :
    hostedPostgresMigrationsCurrent d db = .ok true := by
  obtain ⟨hsome, hall⟩ := hc
  obtain ⟨ledger, hledger⟩ := Option.isSome_iff_exists.mp hsome
  have hwork : db.work.ledger = ledger := by rw [Db.work, hledger]; rfl
  rw [Db.Accepted, hwork] at ha
  simp only [Db.recorded, hwork] at hall
  have hexpected {m : HostedPostgresMigration} (hm : m ∈ d.migrations) :
      d.migrations.reverse.find? (·.version == m.version) = some m := by
    cases hf : d.migrations.reverse.find? (·.version == m.version) with
    | none =>
      have hmiss := List.find?_eq_none.mp hf m (List.mem_reverse.mpr hm)
      simp at hmiss
    | some m' =>
      have hv := List.find?_some hf
      have hm' := List.mem_reverse.mp (List.mem_of_find?_eq_some hf)
      rw [List.inj_on_of_nodup_map hd hm' hm (by simpa using hv)]
  have hlisted : (ledger.applied d.scope).all (fun e =>
      (d.migrations.reverse.find? (·.version == e.1)).isSome) = true := by
    refine List.all_eq_true.mpr fun e he => ?_
    obtain ⟨m, hm, hv, -⟩ := ha e he
    rw [← hv, hexpected hm]
    rfl
  have happlied : d.migrations.all (fun m => (Dict.get (ledger.applied d.scope) m.version).isSome) = true := by
    refine List.all_eq_true.mpr fun m hm => ?_
    obtain ⟨checksum, hget⟩ := get_of_recorded (hall m hm)
    rw [hget]
    rfl
  have haccepted : (ledger.applied d.scope).all (fun e =>
      (d.migrations.reverse.find? (·.version == e.1)).any (·.acceptsChecksum d e.2)) = true := by
    refine List.all_eq_true.mpr fun e he => ?_
    obtain ⟨m, hm, hv, hok⟩ := ha e he
    rw [← hv, hexpected hm]
    exact hok
  simp only [hostedPostgresMigrationsCurrent, hledger, hlisted, happlied, haccepted, Bool.and_self]

/-- When the ledger has every version a run sends no migration. -/
theorem Run.advance_executed (h : run.Ok d db) (hc : db.Complete d) (hn : run.advance d now = some run') :
    run'.executed = run.executed := by
  obtain ⟨validate, phase, executed⟩ := run
  unfold Run.advance at hn
  cases phase with
  | applying w applied todo toRecord =>
    obtain ⟨-, -, rfl, -, done, hdone, -⟩ := h
    cases todo with
    | nil => cases hn; rfl
    | cons m todo =>
      have hm : m ∈ d.migrations := by simp [hdone]
      obtain ⟨checksum, hget⟩ := get_of_recorded (hc.2 m hm)
      simp only [hget] at hn
      split at hn <;> cases hn <;> rfl
  | recording w recorded toRecord =>
    cases toRecord with
    | nil => cases hn; rfl
    | cons m toRecord =>
      simp only at hn
      split at hn <;> cases hn <;> rfl
  | arriving | validating =>
    simp only at hn
    repeat' split at hn
    all_goals cases hn; rfl
  | creating | reading => cases hn; rfl
  | locking | committing | returned | raised => cases hn

/-- A run that starts when the ledger has every version sends none, whatever happens. -/
theorem later_runs_execute_nothing (hprior : prior.Accepted d) (h : (machine d prior).Reachable s) (hc : s.db.Complete d)
    {es : List (Event σ)} (hl : (machine d prior).Leads s es t) :
    ∀ (j : Nat) (run : Run σ), s.runs.length ≤ j → t.runs[j]? = some run → run.executed = [] := by
  have hinv : t.db.Complete d ∧ s.runs.length ≤ t.runs.length ∧
      ∀ (j : Nat) (run : Run σ), s.runs.length ≤ j → t.runs[j]? = some run → run.executed = [] := by
    refine hl.invariant (I := fun t => t.db.Complete d ∧ s.runs.length ≤ t.runs.length ∧
      ∀ (j : Nat) (run : Run σ), s.runs.length ≤ j → t.runs[j]? = some run → run.executed = []) ⟨hc, le_rfl, ?_⟩ ?_ h
    · intro j run hj hrun
      exact absurd (List.getElem?_eq_some_iff.mp hrun).1 (by omega)
    · rintro t e t' ht ⟨hc, hlen, hnone⟩ hn
      have hi := reachable_inv hprior ht
      have hi' := reachable_inv hprior (ht.step hn)
      rcases next_cases hn with
        ⟨validate, rfl⟩ | ⟨i, run, run', hrun, hm, rfl⟩ | ⟨i, run, w, recorded, hrun, hphase, rfl⟩
      · refine ⟨hc, by simp; omega, fun j rj hj hrj => ?_⟩
        rcases Table.append_cases hrj with hrj | ⟨-, rfl⟩
        · exact hnone j rj hj hrj
        · rfl
      · refine ⟨hc, by simpa [State.set] using hlen, fun j rj hj hrj => ?_⟩
        rcases Table.set_cases hrj with ⟨rfl, rfl⟩ | ⟨-, hrj⟩
        · have hold := hnone j run hj hrun
          rcases hm with ⟨now, hadvance⟩ | ⟨e, rfl, -⟩ | ⟨-, -, rfl⟩
          · rw [Run.advance_executed (hi.runs j run hrun) hc hadvance, hold]
          · exact hold
          · exact hold
        · exact hnone j rj hj hrj
      · refine ⟨?_, by simpa [State.set] using hlen, fun j rj hj hrj => ?_⟩
        · exact hi'.complete { run with phase := .returned }
            (List.mem_of_getElem? (List.getElem?_set_self (List.getElem?_eq_some_iff.mp hrun).1)) rfl
        · rcases Table.set_cases hrj with ⟨rfl, rfl⟩ | ⟨-, hrj⟩
          · exact hnone j run hj hrun
          · exact hnone j rj hj hrj
  exact hinv.2.2

/-- **The migration ledger.** From a ledger of listed versions with accepted checksums, in any interleaving of runs:
the database changes only by the commits of runs that return, so one that raises leaves it as it was; a commit executes
and records, in list order and after the validation, exactly the versions that the ledger lacked, so that each version is
committed at most once; and when a run has returned, the ledger is current and later runs send no migration. -/
theorem migration_ledger {σ : Type} (d : Deployment σ) (hd : (d.migrations.map (·.version)).Nodup) (prior : Db σ)
    (hprior : prior.Accepted d) (s : State σ) (h : (machine d prior).Reachable s) :
    Chained prior s.log s.db ∧
    (∀ c ∈ s.log, c.migrations.Sublist d.migrations ∧
      ∃ run, s.runs[c.run]? = some run ∧ run.phase = .returned ∧ c.Valid d run) ∧
    (s.db.recorded d).Nodup ∧
    s.db.recorded d = prior.recorded d ++ s.log.flatMap (fun c => c.migrations.map (·.version)) ∧
    (∀ (i : Nat) (run : Run σ) (e : PyErr), s.runs[i]? = some run → run.phase = .raised e → ∀ c ∈ s.log, c.run ≠ i) ∧
    ((∃ run ∈ s.runs, run.phase = .returned) → hostedPostgresMigrationsCurrent d s.db = .ok true ∧
      ∀ es t, (machine d prior).Leads s es t →
        ∀ (j : Nat) (run : Run σ), s.runs.length ≤ j → t.runs[j]? = some run → run.executed = []) := by
  have hinv := reachable_inv hprior h
  have hvalid : ∀ c ∈ s.log, ∃ run, c.Valid d run := by
    intro c hc
    obtain ⟨run, -, -, hv⟩ := hinv.valid c hc
    exact ⟨run, hv⟩
  refine ⟨hinv.chained, fun c hc => ?_, applied_nodup _ _, hinv.chained.recorded hvalid, ?_, ?_⟩
  · obtain ⟨run, hrun, hret, hv⟩ := hinv.valid c hc
    refine ⟨?_, run, hrun, hret, hv⟩
    rw [hv.missing]
    exact List.filter_sublist
  · rintro i run e hrun hraised c hc rfl
    obtain ⟨run', hrun', hret, -⟩ := hinv.valid c hc
    rw [hrun] at hrun'
    cases hrun'
    rw [hraised] at hret
    cases hret
  · rintro ⟨run, hrun, hret⟩
    have hcomplete := hinv.complete run hrun hret
    exact ⟨current_of_complete hd hinv.accepted hcomplete, fun es t hl => later_runs_execute_nothing hprior h hcomplete hl⟩

/-- Two migrations; the schema is the list of the statements that made it. -/
def sampleDeployment : Deployment (List String) where
  scope := "example"
  migrations := [
    { scope := "example", version := "202605170001", description := "create example table"
      sql := "CREATE TABLE example_records (id BIGSERIAL PRIMARY KEY);", acceptedChecksums := ["historical-checksum"] },
    { scope := "example", version := "202605170002", description := "add a note"
      sql := "ALTER TABLE example_records ADD COLUMN note TEXT;" }]
  sha256 := fun text =>
    if text = "CREATE TABLE example_records (id BIGSERIAL PRIMARY KEY);" then
      "5ada1ec6031033ee60b08ae5ef125229ad46a6f2d074da5208b5d43c02b80d1a"
    else "55c61a31db55c520a6f9910fcf6b61b4feafa54da4cd5a985d2ef5f4b91dc651"
  repr := fun text => "'" ++ text ++ "'"
  exec := fun sql schema => .ok (schema ++ [sql])

/-- A ledger from before the first migration's text was changed. -/
def samplePrior : Db (List String) where
  schema := ["CREATE TABLE example_records (id BIGSERIAL PRIMARY KEY);"]
  ledger := some ⟨[{ scope := "example", version := "202605170001", description := "create example table"
                     checksum := "historical-checksum", appliedAt := 0 }], by decide⟩

/-- Two processes start at once. The first one's validation fails, the second one's passes; a third run follows. -/
def sampleEvents : List (Event (List String)) :=
  [.start (some fun _ => .ok false), .start (some fun schema => .ok (schema.length == 2)),
    .step 0 none 0, .step 1 none 0, .step 0 none 0, .step 1 none 0, .step 0 none 0, .step 0 none 0, .step 0 none 0,
    .step 0 none 0, .step 0 none 0, .step 0 none 0,
    .step 1 none 1, .step 1 none 1, .step 1 none 1, .step 1 none 1, .step 1 none 1, .step 1 none 1, .step 1 none 1,
    .step 1 none 1, .step 1 none 1,
    .start none, .step 2 none 2, .step 2 none 2, .step 2 none 2, .step 2 none 2, .step 2 none 2, .step 2 none 2,
    .step 2 none 2, .step 2 none 2, .step 2 none 2, .step 2 none 2]

theorem migration_ledger_two_processes :
    ∃ s, (machine sampleDeployment samplePrior).Reaches sampleEvents s ∧
      s.log.map (fun c => (c.run, c.migrations.map (·.version))) = [(1, ["202605170002"]), (2, [])] ∧
      s.db.recorded sampleDeployment = ["202605170001", "202605170002"] ∧
      hostedPostgresMigrationsCurrent sampleDeployment s.db = .ok true := by
  have hrun : ((machine sampleDeployment samplePrior).run { db := samplePrior } sampleEvents).map (fun s =>
      (s.log.map (fun c => (c.run, c.migrations.map (·.version))), s.db.recorded sampleDeployment)) =
      some ([(1, ["202605170002"]), (2, [])], ["202605170001", "202605170002"]) := by decide +kernel
  obtain ⟨s, hs, hview⟩ := Option.map_eq_some_iff.mp hrun
  obtain ⟨hlog, hrecorded⟩ := Prod.mk.inj hview
  have hprior : samplePrior.Accepted sampleDeployment := by
    unfold Db.Accepted
    decide +kernel
  obtain ⟨-, hcommits, -, -, -, hreturned⟩ :=
    migration_ledger sampleDeployment (by decide +kernel) samplePrior hprior s ⟨sampleEvents, hs⟩
  have hsome : ∃ run ∈ s.runs, run.phase = .returned := by
    obtain ⟨c, hc⟩ : ∃ c, c ∈ s.log := by
      refine List.exists_mem_of_ne_nil _ fun hnil => ?_
      rw [hnil] at hlog
      cases hlog
    obtain ⟨-, run, hrun, hret, -⟩ := hcommits c hc
    exact ⟨run, List.mem_of_getElem? hrun, hret⟩
  exact ⟨s, hs, hlog, hrecorded, (hreturned hsome).1⟩

end HostedFacilitator.Migrations
