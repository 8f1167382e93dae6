import SyncQueue.Store.Catalog
import SyncQueue.Store.Statement

/-!
# Migrations

The catalog of the queue is built by four migrations, one for each table, applied in order and
undone in reverse. A migration whose statements fail is not marked, and what was done before stays
done.
-/

namespace SyncQueue

/-- A step that builds a part of the catalog, and how it is undone. -/
structure Migration where
  name : String
  up : List SchemaStatement
  down : List SchemaStatement
  deriving DecidableEq, Repr

namespace Migration

/-! ## Tables of the queue -/

/-- A column that holds a value. -/
def column (name type : String) : Column := ⟨name, type, true, none, 0⟩

/-- The type of identifiers. -/
def identifierType : String := "uuid_text"

/-- The type of instants. -/
def instantType : String := "timestamp_with_timezone_text"

/-- A column of identifiers. -/
def identifier (name : String) : Column := column name identifierType

/-- A column of instants. -/
def instant (name : String) : Column := column name instantType

/-- A column of texts. -/
def text (name : String) : Column := column name "TEXT"

/-- A column of whole numbers. -/
def number (name : String) (default : Option String) : Column :=
  { column name "INTEGER" with default }

/-- A column whose value may be missing. -/
def nullable (c : Column) : Column := { c with notNull := false }

/-- A column of instants that are now unless given. -/
def timestamp (name : String) : Column :=
  { instant name with default := some "CURRENT_TIMESTAMP" }

/-- The column in the primary key. -/
def keyed (place : Nat) (c : Column) : Column := { c with primaryKey := place }

/-- The columns of an index, in ascending order. -/
def ascending (names : List String) : List IndexColumn := names.map fun n => ⟨some n, false⟩

/-- An index that comes with a constraint of a table, the n-th one. -/
def implied (table : String) (n : Nat) (origin : IndexOrigin) (columns : List String) : Index :=
  ⟨"sqlite_autoindex_" ++ table ++ "_" ++ String.ofList (Nat.toDigits 10 n), origin,
    ascending columns⟩

/-- The terms of an index by their names; one that is missing is taken for a constant. -/
def terms (names : List String) : List IndexTerm := names.map fun n => ⟨n, false, true⟩

/-- The table of jobs. -/
def jobsTable : TableSchema where
  name := Table.jobs.name
  columns := [
    keyed 1 (identifier "id"), identifier "pair_id", identifier "connector_id",
    instant "window_start", instant "window_end", column "payload" "jsonb_text",
    { text "status" with default := some "'pending'" }, number "priority" (some "0"),
    number "retry_count" (some "0"), number "max_retries" (some "5"), timestamp "next_run_at",
    nullable (text "last_error"), nullable (text "idempotency_key"), timestamp "created_at",
    timestamp "updated_at"]
  indexes := [
    implied Table.jobs.name 1 .primaryKey ["id"],
    implied Table.jobs.name 2 .uniqueColumn ["idempotency_key"]]
  foreignKeys := []

/-- The table of attempts. -/
def logsTable : TableSchema where
  name := Table.logs.name
  columns := [
    keyed 1 (identifier "id"), identifier "job_id", identifier "pair_id",
    identifier "connector_id", instant "started_at", instant "finished_at",
    number "processed_events" (some "0"), number "failed_events" (some "0"), text "outcome",
    nullable (text "error_summary")]
  indexes := [implied Table.logs.name 1 .primaryKey ["id"]]
  foreignKeys := [⟨"job_id", Table.jobs.name, "id"⟩]

/-- The table of failure counts. -/
def statsTable : TableSchema where
  name := Table.stats.name
  columns := [
    keyed 1 (identifier "connector_id"), keyed 2 (identifier "pair_id"),
    number "consecutive_failures" (some "0"), nullable (instant "last_failure_at"),
    nullable (instant "paused_until"), timestamp "created_at", timestamp "updated_at"]
  indexes := [implied Table.stats.name 1 .primaryKey ["connector_id", "pair_id"]]
  foreignKeys := []

/-- The table of alerts. -/
def alertsTable : TableSchema where
  name := Table.alerts.name
  columns := [
    keyed 1 (identifier "id"), text "category", text "severity", identifier "connector_id",
    identifier "pair_id", text "message",
    { column "acknowledged" "boolean" with default := some "FALSE" }, timestamp "created_at",
    timestamp "updated_at"]
  indexes := [implied Table.alerts.name 1 .primaryKey ["id"]]
  foreignKeys := []

/-! ## Migrations of the queue -/

/-- Create a table with some indexes; undone by dropping the indexes and then the table. -/
def ofTable (name : String) (table : TableSchema) (indexes : List (String × List IndexTerm)) :
    Migration where
  name
  up := .createTable table true ::
    indexes.map fun (index, terms) => .createIndex index table.name terms true
  down := (indexes.map fun (index, _) => .dropIndex index false) ++ [.dropTable table.name false]

/-- The migrations in order. -/
def all : List Migration := [
  ofTable "m2025_11_10_090000_create_sync_jobs" jobsTable [
    ("idx_sync_jobs_status_next_run_priority",
      [⟨"status", false, false⟩, ⟨"next_run_at", false, false⟩, ⟨"priority", true, false⟩]),
    ("idx_sync_jobs_pair_connector_status", terms ["pair_id", "connector_id", "status"])],
  ofTable "m2025_11_10_090100_create_sync_job_logs" logsTable [
    ("idx_sync_job_logs_job_started", terms ["job_id", "started_at"])],
  ofTable "m2025_11_10_090200_create_connector_failure_stats" statsTable [],
  ofTable "m2025_11_10_090300_create_alerts" alertsTable [
    ("idx_alerts_category_key_acknowledged",
      terms ["category", "connector_id", "pair_id", "acknowledged"])]]

end Migration

/-! ## Databases -/

/-- A database under migration: its catalog and the names of the migrations applied. -/
structure MigratedDatabase where
  catalog : Catalog
  applied : List String
  deriving DecidableEq, Repr

namespace MigratedDatabase

/-- A database without tables. -/
def empty : MigratedDatabase := ⟨[], []⟩

/-- The migrations that have been applied, in order. -/
def done (d : MigratedDatabase) : List Migration :=
  Migration.all.filter (d.applied.contains ·.name)

/-- The migrations that have not been applied, in order. -/
def pending (d : MigratedDatabase) : List Migration :=
  Migration.all.filter fun m => !d.applied.contains m.name

/-- Apply migrations up to the first that fails. -/
def applyAll (d : MigratedDatabase) : List Migration → MigratedDatabase × Option StoreError
  | [] => (d, none)
  | m :: ms =>
    match SchemaStatement.applyAll d.catalog m.up with
    | (catalog, none) => applyAll ⟨catalog, d.applied ++ [m.name]⟩ ms
    | (catalog, some e) => ({ d with catalog }, some e)

/-- Undo migrations up to the first that fails. -/
def undoAll (d : MigratedDatabase) : List Migration → MigratedDatabase × Option StoreError
  | [] => (d, none)
  | m :: ms =>
    match SchemaStatement.applyAll d.catalog m.down with
    | (catalog, none) => undoAll ⟨catalog, d.applied.filter (· != m.name)⟩ ms
    | (catalog, some e) => ({ d with catalog }, some e)

/-- The first so many elements of a list, or all of them. -/
def limited {α : Type} (count : Option Nat) (xs : List α) : List α :=
  match count with
  | some n => xs.take n
  | none => xs

/-- Apply pending migrations: the first so many, or all of them. -/
def up (d : MigratedDatabase) (count : Option Nat) : MigratedDatabase × Option StoreError :=
  d.applyAll (limited count d.pending)

/-- Undo applied migrations: the last so many, or all of them. -/
def down (d : MigratedDatabase) (count : Option Nat) : MigratedDatabase × Option StoreError :=
  d.undoAll (limited count d.done.reverse)

/-- Undo all migrations and apply them again. -/
def refresh (d : MigratedDatabase) : MigratedDatabase × Option StoreError :=
  match d.down none with
  | (d, none) => d.up none
  | failed => failed

/-- Apply all migrations to a database whose tables have been dropped. -/
def fresh : MigratedDatabase × Option StoreError := empty.up none

/-- Send a statement past the migrations. -/
def change (d : MigratedDatabase) (s : SchemaStatement) : MigratedDatabase × Option StoreError :=
  match s.apply d.catalog with
  | .ok catalog => ({ d with catalog }, none)
  | .error e => (d, some e)

/-- The name of the table that keeps the names of the migrations applied. -/
def bookkeeping : String := "seaql_migrations"

/-- Send a statement past the migrations. It may drop the table that keeps their names: then none
has been applied. -/
def send (d : MigratedDatabase) (s : SchemaStatement) : MigratedDatabase × Option StoreError :=
  match s with
  | .dropTable name _ =>
    if Catalog.sameName name bookkeeping then ({ d with applied := [] }, none) else d.change s
  | _ => d.change s

/-- The document of a database. -/
def toJson (d : MigratedDatabase) : Json := .object [
  ("applied", .array (d.done.map fun m => .string m.name)),
  ("pending", .array (d.pending.map fun m => .string m.name)),
  ("tables", d.catalog.toJson)]

end MigratedDatabase

end SyncQueue
