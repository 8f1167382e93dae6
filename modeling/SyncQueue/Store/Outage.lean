import SyncQueue.Store.Error
import SyncQueue.Store.Statement

/-!
# Outages

How a store misbehaves: it is closed, lacks tables, cannot be written or read, refuses statements
that touch rows of a table, or is locked by another connection. `fault?` is the error with which
such a store refuses a statement.
-/

namespace SyncQueue

/-- What another connection that locks the store leaves possible. -/
inductive LockMode where
  /-- Nothing but beginning a transaction. -/
  | exclusive
  /-- Reading. -/
  | write
  /-- Reading, and writing until the commit. -/
  | read
  deriving DecidableEq, Repr

/-- A lock. -/
structure Lock where
  mode : LockMode
  /-- The number of reported failures at which the lock goes away. -/
  endsAt : Option Nat
  deriving DecidableEq, Repr

/-- Statements of a kind that touch rows of a table are refused with a message. -/
structure Rejection where
  table : Table
  kind : StatementKind
  message : String
  deriving DecidableEq, Repr

/-- What can be done with a store. -/
inductive Access where
  | full
  | readOnly
  /-- Rows cannot be changed, since there is no place for a journal. -/
  | noJournal
  /-- The file holds something else. -/
  | notDatabase
  deriving DecidableEq, Repr

/-- How the store misbehaves. -/
structure Outage where
  closed : Bool
  access : Access
  /-- The tables that are not there. -/
  missing : List Table
  rejections : List Rejection
  lock : Option Lock
  deriving DecidableEq, Repr

namespace Outage

/-- The store works. -/
def healthy : Outage := ⟨false, .full, [], [], none⟩

/-- The error of a statement that reaches the store: reading, beginning and committing are
queries. -/
def refusal (s : Statement) (fault : StoreFault) : StoreError :=
  match s.kind with
  | .insert | .update | .delete | .define | .drop => .execution fault
  | .read | .begin | .commit => .query fault

/-- The statement writes. A change of the tables that has nothing to change does not. -/
def isWrite (s : Statement) : Bool :=
  match s.kind with
  | .insert | .update | .delete => true
  | .define | .drop => s.touches
  | .read | .begin | .commit => false

/-- The statement looks at what is stored. -/
def isLook (s : Statement) : Bool :=
  match s.kind with
  | .read | .define | .drop => true
  | .insert | .update | .delete | .begin | .commit => false

/-- A lock of a mode refuses a statement at once. -/
def blocks (mode : LockMode) (s : Statement) : Bool :=
  match mode with
  | .exclusive => isWrite s || isLook s
  | .write => isWrite s
  | .read => false

/-- A lock of a mode refuses the commit of a statement: its own, or that of a whole transaction. -/
def blocksCommit (mode : LockMode) (s : Statement) : Bool :=
  mode = .read && s.touches && (s.kind = .commit || (isWrite s && !s.inTransaction))

/-- The mode of the lock that is still there after a number of reported failures. -/
def lockMode? (o : Outage) (reported : Nat) : Option LockMode :=
  (o.lock.filter fun l => l.endsAt.all (reported < ·)).map (·.mode)

/-- The fault of a store that can only be read. -/
def readOnlyFault : StoreFault := .coded 8 "attempt to write a readonly database"

/-- The fault of a store without a place for its journal. -/
def noJournalFault : StoreFault := .coded 14 "unable to open database file"

/-- The fault of a file that holds something else. -/
def notDatabaseFault : StoreFault := .coded 26 "file is not a database"

/-- The fault of a statement that asks for more than can be done with the store. -/
def accessFault? (access : Access) (s : Statement) : Option StoreFault :=
  match access with
  | .full => none
  | .readOnly => if isWrite s then some readOnlyFault else none
  | .noJournal => if isWrite s && s.touches then some noJournalFault else none
  | .notDatabase => if s.tables.isEmpty then none else some notDatabaseFault

/-- The fault of a locked store. -/
def lockedFault : StoreFault := .coded 5 "database is locked"

/-- The rejection of statements of a kind on a table. -/
def rejectionOf? (o : Outage) (table : Table) (kind : StatementKind) : Option Rejection :=
  o.rejections.find? fun r => r.table = table && r.kind = kind

/-- The rejection that a statement meets: one of the first table that has any. -/
def rejection? (o : Outage) (s : Statement) : Option Rejection :=
  if s.touches then s.tables.findSome? (o.rejectionOf? · s.kind) else none

/-- The fault of a statement on a table that is not there. -/
def missingFault (kind : StatementKind) (table : Table) : StoreFault :=
  .coded 1 ("no such table: " ++ (if kind = .define then "main." else "") ++ table.name)

/-- The error with which the store refuses a statement, after a number of reported failures. -/
def fault? (o : Outage) (reported : Nat) (s : Statement) : Option StoreError :=
  let mode := o.lockMode? reported
  if o.closed && (!s.inTransaction) then some (.acquire .closed)
  else
    match s.tables.find? o.missing.contains, accessFault? o.access s with
    | some table, access =>
      let missing := missingFault s.kind table
      some (refusal s (if o.access = .notDatabase then access.getD missing else missing))
    | none, some fault => some (refusal s fault)
    | none, none =>
      if mode.any (blocks · s) then some (refusal s lockedFault)
      else
        match o.rejection? s with
        | some r => some (refusal s (.coded 1811 r.message))
        | none => if mode.any (blocksCommit · s) then some (refusal s lockedFault) else none

/-- Lock the store until a number of further failures have been reported, or until it is
unlocked. -/
def locked (o : Outage) (mode : LockMode) (failures : Option Nat) (reported : Nat) : Outage :=
  { o with lock := some ⟨mode, failures.map (reported + ·)⟩ }

/-- Accept statements of a kind on a table again. -/
def accept (o : Outage) (table : Table) (kind : StatementKind) : Outage :=
  { o with rejections := o.rejections.filter fun r => !(r.table = table && r.kind = kind) }

/-- Refuse statements. -/
def reject (o : Outage) (r : Rejection) : Outage := { o with rejections := o.rejections ++ [r] }

/-- Lose a table, and with it what refuses statements on it. -/
def drop (o : Outage) (table : Table) : Outage :=
  { o with
    missing := table :: o.missing
    rejections := o.rejections.filter (·.table != table) }

end Outage

end SyncQueue
