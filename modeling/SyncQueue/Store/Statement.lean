/-!
# Statements

What is sent to the store: reads, writes, the two ends of a transaction, and changes of the tables
themselves.
-/

namespace SyncQueue

/-- The tables by name. -/
inductive Table where
  | jobs
  | logs
  | stats
  | alerts
  deriving DecidableEq, Repr

/-- The name of a table in the store. -/
def Table.name : Table → String
  | jobs => "sync_jobs"
  | logs => "sync_job_logs"
  | stats => "connector_failure_stats"
  | alerts => "alerts"

/-- All tables. -/
def Table.all : List Table := [jobs, logs, stats, alerts]

/-- What a statement does. -/
inductive StatementKind where
  | read
  | insert
  | update
  | delete
  | begin
  | commit
  /-- Adding or removing what refuses the statements on a table. -/
  | define
  /-- Removing a table. -/
  | drop
  deriving DecidableEq, Repr

/-- A statement sent to the store. -/
structure Statement where
  kind : StatementKind
  /-- The tables it reads or writes. -/
  tables : List Table
  /-- It inserts, changes or removes a row or changes a table; for a commit, some statement of the
  transaction did. -/
  touches : Bool
  /-- It is sent inside a transaction. -/
  inTransaction : Bool
  deriving DecidableEq, Repr

end SyncQueue
