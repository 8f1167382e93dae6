import Std.Time.DateTime.Timestamp
import SyncQueue.CommandLine.Run
import SyncQueue.Json.Printer
import SyncQueue.Json.Reader
import SyncQueue.Store.Document

/-!
# The program

The program runs in a working directory, in which it finds environment files and databases. A
database is kept as a document in a file directly below that directory. Everything the program
decides is decided by `CommandLine.run` and `CommandLine.poll`; here their circumstances are
gathered and their conclusions are written.
-/

namespace SyncQueue.Program

open CommandLine (Circumstances Conclusion)
open EnvFile (Environment)
open Files (Node)

/-- The variables of the process. -/
def environment : IO Environment := do
  return .ofBlock (← IO.FS.readBinFile "/proc/self/environ").toList

/-- The time. -/
def now : IO Time.Instant := do
  return .ofNanos (← Std.Time.Timestamp.now).toNanosecondsSinceUnixEpoch.val

/-- The entries of the working directory, with the content of the environment files. -/
def entries : IO Files.Directory := do
  let found ← (← IO.currentDir).readDir
  found.toList.mapM fun entry => do
    let name := entry.fileName
    if ← entry.path.isDir then return ([name], Node.directory)
    else if name.startsWith ".env" then return ([name], .file (← IO.FS.readBinFile entry.path))
    else return ([name], .file .empty)

/-- The name of the file of a database. -/
def fileName (path : List String) : String := String.intercalate "/" path

/-- The database in a file; an empty file holds an empty database. -/
def readDatabase (path : List String) : IO Database := do
  let text ← IO.FS.readFile (fileName path)
  if text.isEmpty then return .empty
  match (Json.read? text.toList).bind Database.ofJson? with
  | some d => return d
  | none => throw (.userError (fileName path ++ ": file is not a database"))

/-- Random numbers of 64 bits. -/
def randomWords (count : Nat) : IO (List Nat) :=
  (List.range count).mapM fun _ => do
    let bytes ← IO.getRandomBytes 8
    return bytes.toList.foldl (fun n b => n * 256 + b.toNat) 0

/-- A random identifier of version 4. -/
def randomUuid : IO Uuid := do
  let words ← randomWords 2
  let bits := words.foldl (fun n w => n * Nat.pow 2 64 + w) 0
  let digits := (Uuid.digits ⟨BitVec.ofNat 128 bits⟩).set 12 '4'
  let variant := Uuid.hexDigit (8 + bits % 4)
  return (Uuid.ofDigits? (digits.set 16 variant)).getD default

/-- The number of random words for a run. -/
def wordCount : Nat := 4096

/-- The circumstances of a run, the databases aside. -/
def gather (arguments : List String) : IO Circumstances := do
  let words := (← randomWords wordCount).toArray
  return {
    arguments
    environment := ← environment
    directory := { name := toString (← IO.currentDir), files := ← entries }
    databases := []
    now := ← now
    signal := none
    workerId := "worker-" ++ (← randomUuid).text
    word := fun n => words[n % wordCount]?.getD 0 }

/-- A line of the log as it is printed. -/
def logText (time : Time.Instant) (line : LogLine) : String :=
  (Json.object [
    ("timestamp", time.toJson),
    ("level", .string line.level.text),
    ("fields", .object [("message", .string line.message)]),
    ("target", .string line.source.target)]).compactText

/-- Print what a run leaves behind, and keep its databases. -/
def conclude (time : Time.Instant) (o : Conclusion) : IO Unit := do
  for line in o.text do IO.println line
  for line in o.log do IO.println (logText time line)
  (← IO.getStdout).flush
  IO.eprint o.errors
  for (path, d) in o.databases do
    IO.FS.writeFile (fileName path) d.toJson.compactText

/-- The circumstances with the database of a connection. -/
def withDatabase (c : Circumstances) (connection : Connection) : IO Circumstances := do
  match connection.place with
  | .transient => return c
  | .file path =>
    let d ← if (c.directory.files.node? path).isSome then readDatabase path else pure .empty
    return { c with databases := [(path, d)] }

/-- Look for work again and again. -/
partial def pollForever (c : Circumstances) (settings : Settings) (connection : Connection) :
    IO Unit := do
  IO.sleep (UInt32.ofNat settings.worker.pollIntervalMillis)
  let c := { c with now := ← now }
  let o := CommandLine.poll c settings connection
  conclude c.now o
  pollForever { c with databases := o.databases } settings connection

/-- Run the program; the result is the exit code. -/
def run (arguments : List String) : IO UInt32 := do
  let c ← gather arguments
  match CommandLine.connection? c with
  | none =>
    let o := CommandLine.run c
    conclude c.now o
    return exitCode o
  | some (settings, connection) =>
    let c ← withDatabase c connection
    let o := CommandLine.run c
    conclude c.now o
    if let .poll _ := o.ending then
      pollForever { c with databases := o.databases } settings connection
    return exitCode o
where
  /-- The exit code of a conclusion. -/
  exitCode (o : Conclusion) : UInt32 :=
    match o.ending with
    | .exit code => UInt32.ofNat code
    | .poll _ => 0

end SyncQueue.Program

/-- The program. -/
def main (arguments : List String) : IO UInt32 := SyncQueue.Program.run arguments
