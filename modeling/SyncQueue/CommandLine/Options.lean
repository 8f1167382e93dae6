import SyncQueue.CommandLine.Similarity
import SyncQueue.CommandLine.Styled
import SyncQueue.Text.Split

/-!
# Options

The arguments of the program: flags, each at most once, and a request for help that ends the
reading. `Request.read` reads arguments in order; the first that is wrong is reported with a usage
line that shows the flags read before it.
-/

namespace SyncQueue.CommandLine

/-- The flags. -/
inductive Flag where
  /-- Apply migrations first. -/
  | migrate
  /-- Stop after one tick. -/
  | once
  | help
  deriving DecidableEq, Repr

namespace Flag

/-- All flags. -/
def all : List Flag := [migrate, once, help]

/-- The name of a flag. -/
def name : Flag → String
  | migrate => "migrate"
  | once => "once"
  | help => "help"

/-- A flag as it is written. -/
def text (f : Flag) : String := "--" ++ f.name

/-- The flag of a name. -/
def ofName? (name : String) : Option Flag := all.find? (·.name = name)

/-- The flag with the most similar name. -/
def similar? (name : String) : Option Flag :=
  mostSimilar? (fun f => f.name.toList) name.toList all

end Flag

/-- What the program is asked to do. -/
inductive Request where
  | help
  | serve (migrate once : Bool)
  deriving DecidableEq, Repr

/-- What is wrong with the arguments; `used` are the flags that were read before. -/
inductive UsageError where
  | unexpected (argument : String)
  /-- No flag has the name. -/
  | unknown (name : String) (suggestion : Option Flag) (used : List Flag)
  /-- A flag was given a value. -/
  | unexpectedValue (flag : Flag) (value : String) (used : List Flag)
  | repeated (flag : Flag)
  deriving DecidableEq, Repr

/-- Add a flag, unless it is there. -/
def withFlag (used : List Flag) (f : Flag) : List Flag :=
  if used.contains f then used else used ++ [f]

/-! ## Usage -/

/-- What a usage line shows after the name of the program. -/
inductive UsageItem where
  /-- There are options. -/
  | options
  | flag (f : Flag)
  /-- Some of the flags that do not end the reading. -/
  | choice
  deriving DecidableEq, Repr

namespace UsageItem

/-- The flags of the choice. -/
def choices : List Flag := [.migrate, .once]

/-- How an item is shown. -/
def shown : UsageItem → Style × String
  | options => (.plain, "[OPTIONS]")
  | flag f => (.literal, f.text)
  | choice => (.plain, "<" ++ String.intercalate "|" (choices.map Flag.text) ++ ">")

end UsageItem

/-- The name of the program. -/
def program : String := "calsync"

/-- The usage line with some items. -/
def usage (items : List UsageItem) : StyledText :=
  (.heading, "Usage:") :: (.plain, " ") :: (.literal, program) ::
    items.flatMap fun item => [(.plain, " "), item.shown]

namespace UsageError

/-- The items of the usage line: the flags read so far and the one that was meant. A flag with a
value comes with the choice once one of its flags has been read. -/
def items : UsageError → List UsageItem
  | unexpected _ => [.options]
  | unknown _ suggestion used =>
    let shown := suggestion.toList.foldl withFlag used
    if shown.isEmpty then [.options] else shown.map .flag
  | unexpectedValue flag _ used =>
    if used.isEmpty then [.flag flag]
    else if UsageItem.choices.contains flag then [.choice]
    else [.flag flag, .choice]
  | repeated _ => [.options]

/-- What the error says about an argument. -/
def unexpectedText (argument : String) : StyledText :=
  [(.plain, "unexpected argument '"), (.invalid, argument), (.plain, "' found")]

/-- The first paragraphs of the message. -/
def summary : UsageError → StyledText
  | unexpected argument => unexpectedText argument
  | unknown name suggestion _ =>
    unexpectedText ("--" ++ name) ++
      match suggestion with
      | some f =>
        [(.plain, "\n\n  "), (.valid, "tip:"), (.plain, " a similar argument exists: '"),
          (.valid, f.text), (.plain, "'")]
      | none => []
  | unexpectedValue flag value _ =>
    [(.plain, "unexpected value '"), (.invalid, value), (.plain, "' for '"), (.literal, flag.text),
      (.plain, "' found; no more were expected")]
  | repeated flag =>
    [(.plain, "the argument '"), (.invalid, flag.text), (.plain, "' cannot be used multiple times")]

/-- The message for the user. -/
def message (e : UsageError) : StyledText :=
  (.alarm, "error:") :: (.plain, " ") :: e.summary ++ (.plain, "\n\n") :: usage e.items ++
    [(.plain, "\n\nFor more information, try '"), (.literal, Flag.help.text), (.plain, "'.\n")]

end UsageError

namespace Request

/-- The help text, line by line. -/
def helpLines : List StyledText := [
  [(.plain, "Calendar sync job worker")],
  [],
  usage [.options],
  [],
  [(.heading, "Options:")],
  [(.plain, "      "), (.literal, Flag.migrate.text),
    (.plain, "  Apply pending database migrations before starting")],
  [(.plain, "      "), (.literal, Flag.once.text),
    (.plain, "     Drain the queue with a single tick and exit")],
  [(.plain, "  "), (.literal, "-h"), (.plain, ", "), (.literal, Flag.help.text),
    (.plain, "     Print help")]]

/-! ## Reading -/

/-- Read a long argument, what follows the two hyphens. The result is its flag, which has not been
used yet. -/
def readLong (used : List Flag) (cs : List Char) : Except UsageError Flag :=
  let (name, value) : String × Option String :=
    match Text.splitFirst? ['='] cs with
    | some (name, value) => (String.ofList name, some (String.ofList value))
    | none => (String.ofList cs, none)
  match Flag.ofName? name, value with
  | none, _ => .error (.unknown name (Flag.similar? name) used)
  | some flag, some value => .error (.unexpectedValue flag value used)
  | some flag, none => if used.contains flag then .error (.repeated flag) else .ok flag

/-- Read arguments after those that gave the used flags. -/
def readAfter (used : List Flag) : List String → Except UsageError Request
  | [] => .ok (.serve (used.contains .migrate) (used.contains .once))
  | argument :: rest =>
    match argument.toList with
    | ['-', '-'] =>
      match rest with
      | [] => .ok (.serve (used.contains .migrate) (used.contains .once))
      | argument :: _ => .error (.unexpected argument)
    | '-' :: '-' :: cs =>
      match readLong used cs with
      | .ok .help => .ok .help
      | .ok flag => readAfter (used ++ [flag]) rest
      | .error e => .error e
    | '-' :: 'h' :: _ => .ok .help
    | '-' :: c :: _ => .error (.unexpected (String.ofList ['-', c]))
    | _ => .error (.unexpected argument)

/-- Read the arguments of the program. -/
def read (arguments : List String) : Except UsageError Request := readAfter [] arguments

end Request

end SyncQueue.CommandLine
