import SyncQueue.CommandLine.Failure
import SyncQueue.CommandLine.LogFilter
import SyncQueue.CommandLine.Options
import SyncQueue.Connection.Basic
import SyncQueue.Queue.Worker
import SyncQueue.Settings.Loading
import SyncQueue.Store.Database

/-!
# Running the program

A run of the program: it reads its arguments, loads the settings, connects to its database, applies
migrations if it is asked to, and then makes one tick or works until it gets a signal. `run` gives
everything that the run leaves behind: the exit code, the texts for the user, the log and the
databases.
-/

namespace SyncQueue.CommandLine

open EnvFile (Environment)
open Files (WorkingDirectory)
open Time (Instant)

/-! ## Circumstances -/

/-- A request of the system to end. -/
inductive Signal where
  | interrupt
  | terminate
  deriving DecidableEq, Repr

/-- The name of a signal. -/
def Signal.text : Signal → String
  | interrupt => "SIGINT"
  | terminate => "SIGTERM"

/-- Databases by the components of their paths in the working directory. -/
abbrev Databases := List (List String × Database)

/-- What a run of the program finds. -/
structure Circumstances where
  arguments : List String
  environment : Environment
  directory : WorkingDirectory
  databases : Databases
  now : Instant
  /-- The signal that comes when there is nothing left to do. -/
  signal : Option Signal
  /-- The identifier of a worker that is given none. -/
  workerId : String
  /-- The random words. -/
  word : Nat → Nat

/-- How a run of the program goes on. -/
inductive Ending where
  | exit (code : Nat)
  /-- The program looks for work again after a time. -/
  | poll (millis : Nat)
  deriving DecidableEq, Repr

/-- What a run of the program leaves behind. -/
structure Conclusion where
  ending : Ending
  /-- The lines of text on the standard output. -/
  text : List String
  /-- The lines of the log that are shown, oldest first. -/
  log : List LogLine
  /-- The text on the standard error. -/
  errors : String
  databases : Databases

/-! ## Serving -/

/-- The executors of the program. -/
def executor : Executor Unit := (Registry.empty.register noopType Executor.noop).executor

/-- The queue over a database that refuses some statements. -/
def queue (c : Circumstances) (settings : Settings) (outage : Outage) : Queue Unit where
  backoff := settings.backoff
  breaker := settings.breakerPolicy
  sink := .metrics
  faults w s := outage.fault? w.reported s
  jobId _ := default
  word := c.word

/-- The number of passes over the queue of a run. -/
def passes : Nat := 1

/-- Make one tick and end. -/
def drainOnce (q : Queue Unit) : QueueM Unit Bool := do
  let _ ← q.tick 0 executor passes
  log .singleTickFinished
  return true

/-- Work until a signal comes. -/
def work (q : Queue Unit) (name : String) (signal : Option Signal) : QueueM Unit Bool := do
  let worker : Worker := ⟨name, 0⟩
  worker.run q executor false passes Queue.once <|
    match signal with
    | none => pure ()
    | some signal => do
      log (.signalReceived signal.text)
      worker.drain

/-- Serve a database. The result tells whether the program ends, or why it fails. -/
def serve (c : Circumstances) (settings : Settings) (once : Bool) (outage : Outage)
    (tables : Tables) : Except Failure Bool × World Unit :=
  let q := queue c settings outage
  let body := if once then drainOnce q else work q settings.worker.id c.signal
  match body (.initial c.now tables ()) with
  | .ok ended w => (.ok ended, w)
  | .error e w => (.error ⟨"draining sync queue", e.causes⟩, w)

/-! ## Starting -/

/-- What a part of a run leaves behind. -/
structure Progress where
  /-- Whether the program ends, or why it fails. -/
  result : Except Failure Bool
  /-- The lines of the log, oldest first. -/
  log : List LogLine
  databases : Databases

/-- Keep a database where it is. -/
def store (databases : Databases) (place : Place) (d : Database) : Databases :=
  match place with
  | .transient => databases
  | .file path => (path, d) :: databases.filter (·.1 != path)

/-- The database at a place; a new one is empty. -/
def stored (databases : Databases) : Place → Database
  | .transient => .empty
  | .file path => (databases.lookup path).getD .empty

/-- A line of the log outside of attempts. -/
def line (notice : Notice) : LogLine := ⟨notice, none⟩

/-- Migrate the database of a connection if that is asked for, and serve it. -/
def serveConnection (c : Circumstances) (settings : Settings) (migrate once : Bool)
    (connection : Connection) : Progress :=
  let found := stored c.databases connection.place
  let (d, failure) := if migrate then found.migrate connection.access else (found, none)
  match failure with
  | some e =>
    ⟨.error ⟨"applying database migrations", e.causes⟩, [line .connected],
      store c.databases connection.place d⟩
  | none =>
    let (result, w) := serve c settings once (d.outage connection.access) d.tables
    let migrated := if migrate then [line .migrationsApplied] else []
    ⟨result, line .connected :: migrated ++ w.log.reverse,
      store c.databases connection.place { d with tables := w.tables }⟩

/-- Connect to the database of the settings and serve it. -/
def connectAndServe (c : Circumstances) (settings : Settings) (migrate once : Bool) : Progress :=
  let limits : PoolLimits := ⟨settings.maxConnections, settings.acquireTimeoutMillis⟩
  match Connection.establish c.directory limits settings.databaseUrl with
  | .error e =>
    ⟨.error ⟨"initializing database connection pool", e.causes⟩,
      [line .connectionFailed], c.databases⟩
  | .ok connection => serveConnection c settings migrate once connection

/-! ## Runs -/

/-- The warning of every start: the log is set up twice. -/
def startWarning : String :=
  "Warning: Failed to set global tracing subscriber: attempted to set a logger after the " ++
    "logging system was already initialized. Default subscriber remains in effect.\n"

/-- The log of every start. -/
def startLog : List LogLine := [line .loadedConfiguration, line .effectiveConfiguration]

/-- The exit code of a failure. -/
def failureCode : Nat := 1

/-- The exit code of wrong arguments. -/
def usageCode : Nat := 2

/-- The exit code of a panic. -/
def panicCode : Nat := 101

/-- Run the program with settings. -/
def runWith (c : Circumstances) (settings : Settings) (migrate once : Bool) : Conclusion :=
  let (filter, messages) := LogFilter.choose (c.environment.get? "RUST_LOG") settings.logLevel
  let p := connectAndServe c settings migrate once
  let warnings := String.join (messages.map (· ++ "\n")) ++ startWarning
  let shown := (startLog ++ p.log).filter filter.shows
  match p.result with
  | .ok true => ⟨.exit 0, [], shown, warnings, p.databases⟩
  | .ok false => ⟨.poll settings.worker.pollIntervalMillis, [], shown, warnings, p.databases⟩
  | .error f => ⟨.exit failureCode, [], shown, warnings ++ f.report, p.databases⟩

/-- Texts about usage are shown with styles: the process demands it and does not rule it out. -/
def showsStyles (environment : Environment) : Bool :=
  let isSet (name : String) : Bool :=
    (environment.lookup (.ofString name)).any (!·.bytes.isEmpty)
  isSet "CLICOLOR_FORCE" && !isSet "NO_COLOR"

/-- Run the program. What it writes about a panic names a place in a library that it was built with,
and is left out. -/
def run (c : Circumstances) : Conclusion :=
  let shown (t : StyledText) : String := t.shown (showsStyles c.environment)
  match Request.read c.arguments with
  | .error e => ⟨.exit usageCode, [], [], shown e.message, c.databases⟩
  | .ok .help => ⟨.exit 0, Request.helpLines.map shown, [], "", c.databases⟩
  | .ok (.serve migrate once) =>
    match Settings.load c.workerId c.environment c.directory.content with
    | .error (.refused e) =>
      let failure : Failure := ⟨"loading configuration", e.causes c.directory.name⟩
      ⟨.exit failureCode, [], [], failure.report, c.databases⟩
    | .error .panic => ⟨.exit panicCode, [], [], "", c.databases⟩
    | .ok settings => runWith c settings migrate once

/-! ## Polling -/

/-- The settings of a run and the connection that it makes, if it comes to one. -/
def connection? (c : Circumstances) : Option (Settings × Connection) :=
  match Request.read c.arguments with
  | .ok (.serve _ _) => do
    let settings ← (Settings.load c.workerId c.environment c.directory.content).toOption
    let limits : PoolLimits := ⟨settings.maxConnections, settings.acquireTimeoutMillis⟩
    let connection ← (Connection.establish c.directory limits settings.databaseUrl).toOption
    return (settings, connection)
  | _ => none

/-- Look for work again with settings and a connection made before. -/
def poll (c : Circumstances) (settings : Settings) (connection : Connection) : Conclusion :=
  let (filter, _) := LogFilter.choose (c.environment.get? "RUST_LOG") settings.logLevel
  let found := stored c.databases connection.place
  let q := queue c settings (found.outage connection.access)
  match q.ticks 0 executor passes Queue.once passes (.initial c.now found.tables ()) with
  | .ok _ w | .error _ w => {
      ending := .poll settings.worker.pollIntervalMillis
      text := []
      log := w.log.reverse.filter filter.shows
      errors := ""
      databases := store c.databases connection.place { found with tables := w.tables } }

end SyncQueue.CommandLine
