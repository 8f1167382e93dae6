/-!
# Errors of the store

What can go wrong between the queue and its database, and which of these errors are worth a second
try (`isTransient`) or report a duplicate (`isUniqueViolation`).
-/

namespace SyncQueue

/-- Why a statement failed. -/
inductive StoreFault where
  /-- The address of the database asks for something unknown. -/
  | configuration (text : String)
  /-- The database layer refused the statement. -/
  | internal (text : String)
  /-- The database answered with an error, a code and a mark for broken unique constraints. -/
  | database (text : String) (code : Option String) (unique : Bool)
  /-- The connection broke. -/
  | io (text : String)
  | poolTimedOut
  | poolClosed
  | workerCrashed
  | rowNotFound
  | protocol (text : String)
  | tls (text : String)
  | columnNotFound (name : String)
  /-- A stored value does not fit the type of its column. -/
  | columnValue (name : String) (text : String)
  deriving DecidableEq, Repr

/-- Why no connection could be had. -/
inductive AcquireFault where
  | timeout
  | closed
  deriving DecidableEq, Repr

/-- An error of the store. -/
inductive StoreError where
  /-- No connection was available. -/
  | acquire (fault : AcquireFault)
  /-- Connecting failed. -/
  | connection (fault : StoreFault)
  /-- A statement that writes failed. -/
  | execution (fault : StoreFault)
  /-- A statement that reads, begins or commits failed. -/
  | query (fault : StoreFault)
  | recordNotFound (text : String)
  | recordNotUpdated
  | recordNotInserted
  | custom (text : String)
  | type (text : String)
  | json (text : String)
  | migration (text : String)
  deriving DecidableEq, Repr

namespace StoreFault

/-- The wording of a fault. -/
def message : StoreFault → String
  | configuration text => "error with configuration: " ++ text
  | internal text => text
  | database text _ _ => "error returned from database: " ++ text
  | io text => "error communicating with database: " ++ text
  | poolTimedOut => "pool timed out while waiting for an open connection"
  | poolClosed => "attempted to acquire a connection on a closed pool"
  | workerCrashed => "attempted to communicate with a crashed background worker"
  | rowNotFound => "no rows returned by a query that expected to return at least one row"
  | protocol text => "encountered unexpected or invalid data: " ++ text
  | tls text => "error occurred while attempting to establish a TLS connection: " ++ text
  | columnNotFound name => "no column found for name: " ++ name
  | columnValue name text => "error occurred while decoding column \"" ++ name ++ "\": " ++ text

/-- The texts of a fault and of the faults behind it. -/
def causes (f : StoreFault) : List String :=
  match f with
  | internal text => [text]
  | configuration text | database text _ _ | io text | tls text | columnValue _ text =>
    [f.message, f.message, text]
  | poolTimedOut | poolClosed | workerCrashed | rowNotFound | protocol _ | columnNotFound _ =>
    [f.message, f.message]

/-- The codes of serialization conflicts, deadlocks and busy databases. -/
def transientCodes : List String := ["40001", "40P01", "5", "6", "517"]

/-- The codes of broken unique constraints. -/
def uniqueCodes : List String := ["23505", "1555", "2067"]

/-- The same statement may succeed when it is sent again. -/
def isTransient : StoreFault → Bool
  | io _ => true
  | poolTimedOut => true
  | workerCrashed => true
  | database _ code _ => code.any transientCodes.contains
  | _ => false

/-- The statement broke a unique constraint. -/
def isUniqueViolation : StoreFault → Bool
  | database _ code unique => unique || code.any uniqueCodes.contains
  | _ => false

/-- The answer of a database with a numeric code. -/
def coded (code : Nat) (text : String) : StoreFault :=
  let code := String.ofList (Nat.toDigits 10 code)
  .database ("(code: " ++ code ++ ") " ++ text) (some code) false

end StoreFault

/-- The wording of the lack of a connection. -/
def AcquireFault.message : AcquireFault → String
  | timeout => "Connection pool timed out"
  | closed => "Connection closed"

namespace StoreError

/-- The wording of an error. -/
def message : StoreError → String
  | acquire fault => "Failed to acquire connection from pool: " ++ fault.message
  | connection fault => "Connection Error: " ++ fault.message
  | execution fault => "Execution Error: " ++ fault.message
  | query fault => "Query Error: " ++ fault.message
  | recordNotFound text => "RecordNotFound Error: " ++ text
  | recordNotUpdated => "None of the records are updated"
  | recordNotInserted => "None of the records are inserted"
  | custom text => "Custom Error: " ++ text
  | type text => "Type Error: " ++ text
  | json text => "Json Error: " ++ text
  | migration text => "Migration Error: " ++ text

/-- The texts of an error and of the faults behind it. -/
def causes (e : StoreError) : List String :=
  e.message ::
    match e with
    | acquire fault => [fault.message]
    | connection fault | execution fault | query fault => fault.causes
    | _ => []

/-- A stored whole number has more than 32 bits. -/
def tooLarge (column : String) : StoreError :=
  query (.columnValue column "number too large to fit in target type")

/-- A stored text names no state of a job. -/
def unknownStatus (text : String) : StoreError :=
  type ("unexpected value for SyncJobStatus enum: " ++ text)

/-- Serialization conflicts, deadlocks, busy databases and lost connections. -/
def isTransient : StoreError → Bool
  | acquire _ => true
  | connection _ => true
  | execution fault => fault.isTransient
  | query fault => fault.isTransient
  | _ => false

/-- A statement broke a unique constraint. -/
def isUniqueViolation : StoreError → Bool
  | execution fault => fault.isUniqueViolation
  | query fault => fault.isUniqueViolation
  | _ => false

end StoreError

end SyncQueue
