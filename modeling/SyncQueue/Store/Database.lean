import SyncQueue.Store.Migration
import SyncQueue.Store.Outage
import SyncQueue.Store.Tables

/-!
# Databases

A database of the queue: what the migrations have built, and the rows. `outage` says what it refuses
because tables are not there or because of what can be done with its file.
-/

namespace SyncQueue

/-- A database of the queue. -/
structure Database where
  schema : MigratedDatabase
  tables : Tables

namespace Database

/-- A database without tables. -/
def empty : Database := ⟨.empty, .empty⟩

/-- A database with all tables, and rows in them. -/
def migrated (tables : Tables) : Database := ⟨MigratedDatabase.fresh.1, tables⟩

/-- A table of the queue is there. -/
def has (d : Database) (table : Table) : Bool := (d.schema.catalog.table? table.name).isSome

/-- What the database refuses. -/
def outage (d : Database) (access : Access) : Outage :=
  { Outage.healthy with access, missing := Table.all.filter fun table => !d.has table }

/-- The fault of changing the tables. -/
def migrationFault? (d : Database) (access : Access) : Option StoreFault :=
  match access with
  | .full => none
  | .notDatabase => some Outage.notDatabaseFault
  | .readOnly => if d.schema.pending.isEmpty then none else some Outage.readOnlyFault
  | .noJournal => if d.schema.pending.isEmpty then none else some Outage.noJournalFault

/-- Apply all migrations that are pending. -/
def migrate (d : Database) (access : Access) : Database × Option StoreError :=
  match d.migrationFault? access with
  | some fault => (d, some (.execution fault))
  | none =>
    let (schema, failure) := d.schema.up none
    ({ d with schema }, failure)

end Database

end SyncQueue
