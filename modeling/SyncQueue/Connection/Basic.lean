import SyncQueue.Connection.FileUri
import SyncQueue.Connection.Url
import SyncQueue.Files.Directory
import SyncQueue.Store.Outage
import SyncQueue.Text.Blank

/-!
# Connections

Connecting to the database of a URL. `Connection.establish` tells which database is reached and what
can be done with it, or why none is reached. A database outside of the working directory is not
kept, and nothing serves databases over the network: a pool for one of them waits for a connection
in vain.
-/

namespace SyncQueue

open Files (WorkingDirectory)

/-- Where a database is. -/
inductive Place where
  /-- It ends with the connection. -/
  | transient
  /-- A file, by the components of its path in the working directory. -/
  | file (path : List String)
  deriving DecidableEq, Repr

/-- A connection to a database. -/
structure Connection where
  place : Place
  access : Access
  deriving DecidableEq, Repr

/-- How many connections a pool may have, and how long one waits for a free one. -/
structure PoolLimits where
  maxConnections : Nat
  acquireTimeoutMillis : Nat
  deriving DecidableEq, Repr

/-- Why there is no connection. -/
inductive ConnectionError where
  | blankUrl
  | failed (source : StoreError)
  deriving DecidableEq, Repr

namespace ConnectionError

/-- The wording of an error. -/
def message : ConnectionError → String
  | blankUrl => "Invalid database configuration: Database URL cannot be empty"
  | failed source => "Failed to connect to database: " ++ source.message

/-- The texts of an error and of the faults behind it. -/
def causes (e : ConnectionError) : List String :=
  e.message ::
    match e with
    | blankUrl => []
    | failed source => source.causes

end ConnectionError

/-! ## Opening -/

namespace Connection

/-- The fault of a database that cannot be opened. -/
def cannotOpen : StoreFault := .coded 14 "unable to open database file"

/-- The fault of a file that cannot be read. -/
def cannotRead : StoreFault := .coded 266 "disk I/O error"

/-- The file system layers there are. -/
def layers : List String := ["unix", "unix-none", "unix-dotfile", "unix-excl", "memdb"]

/-- The longest path of a database file in bytes. -/
def maxPathBytes : Nat := 504

/-- What the name of a journal adds to that of its database, in bytes. -/
def journalSuffixBytes : Nat := 8

/-- The length of an absolute path in bytes. -/
def pathBytes (path : List String) : Nat := path.foldr (fun c n => c.utf8ByteSize + 1 + n) 0

/-- What can be done with a file that was opened: one with a content of its own is no database, and
one with a long name can have no journal. -/
def fileAccess (a : DatabaseAddress) (content : ByteArray) (name : String) : Access :=
  if !content.isEmpty then .notDatabase
  else if a.readOnly || a.immutable then .readOnly
  else if Files.maxComponentBytes < name.utf8ByteSize + journalSuffixBytes then .noJournal
  else .full

/-- The place of a file. -/
def placeOf (w : WorkingDirectory) (path : List String) : Place :=
  match w.within? path with
  | some inner => .file inner
  | none => .transient

/-- Open the file of an address. A missing one is created if the address says so and its directory
is there; a directory can be opened for reading, but not read. -/
def openFile (w : WorkingDirectory) (a : DatabaseAddress) : Except StoreFault Connection :=
  match w.resolve? a.path with
  | none => .error cannotOpen
  | some path =>
    let name := path.getLast?.getD ""
    if path.isEmpty || maxPathBytes < pathBytes path then .error cannotOpen
    else
      match w.node? path with
      | some (.file content) => .ok ⟨placeOf w path, fileAccess a content name⟩
      | some .directory => .error (if a.readOnly then cannotRead else cannotOpen)
      | none =>
        match w.node? path.dropLast with
        | some .directory =>
          if a.createsMissing && !a.readOnly then
            .ok ⟨placeOf w path, fileAccess a .empty name⟩
          else .error cannotOpen
        | _ => .error cannotOpen

/-- The path of a database without a file. -/
def memoryPath : List Char := ":memory:".toList

/-- The layer that keeps files in memory. -/
def memoryLayer : String := "memdb"

/-- Open the database of an address whose path has been read. -/
def openResolved (w : WorkingDirectory) (a : DatabaseAddress) : Except StoreFault Connection :=
  let access (readOnly : Bool) : Access := if readOnly then .readOnly else .full
  match a.layer.filter (!layers.contains ·) with
  | some layer => .error (.coded 1 ("no such vfs: " ++ layer))
  | none =>
    if a.inMemory || a.path.isEmpty || a.path = memoryPath then .ok ⟨.transient, access a.readOnly⟩
    else if a.layer = some memoryLayer then .ok ⟨.transient, access (a.readOnly || a.immutable)⟩
    else openFile w a

/-- Open the database of an address. -/
def ofAddress (w : WorkingDirectory) (limits : PoolLimits) (a : DatabaseAddress) :
    Except StoreFault Connection :=
  if limits.maxConnections = 0 || limits.acquireTimeoutMillis = 0 then .error .poolTimedOut
  else
    match a.resolved with
    | .ok a => openResolved w a
    | .error e => .error e

/-- Connect to the database of a URL. -/
def ofUrl (w : WorkingDirectory) (limits : PoolLimits) (url : String) :
    Except StoreFault Connection :=
  let unusable (why : String) : StoreFault :=
    .internal ("The connection string '" ++ url ++ "' " ++ why)
  match Url.scheme? url.toList with
  | none => .error (unusable "cannot be parsed.")
  | some scheme =>
    if scheme = "sqlite" then
      match DatabaseAddress.read url.toList with
      | .ok address => ofAddress w limits address
      | .error e => .error e
    else if scheme = "postgres" || scheme = "postgresql" then .error .poolTimedOut
    else .error (unusable "has no supporting driver.")

/-- Connect to the database of a URL, which must not be blank. -/
def establish (w : WorkingDirectory) (limits : PoolLimits) (url : String) :
    Except ConnectionError Connection :=
  if (Text.trim url.toList).isEmpty then .error .blankUrl
  else
    match ofUrl w limits url with
    | .ok c => .ok c
    | .error fault => .error (.failed (.connection fault))

/-- Check a connection by a statement that touches no table. The result is none when it answers, and
otherwise the texts of the failure and of the faults behind it. -/
def checkHealth (outage : Outage) : Option (List String) :=
  (outage.fault? 0 ⟨.read, [], false, false⟩).map fun e =>
    "Database health check failed" :: e.causes

end Connection

end SyncQueue
