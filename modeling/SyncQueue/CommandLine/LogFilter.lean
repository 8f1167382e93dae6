import SyncQueue.CommandLine.Directive
import SyncQueue.Queue.World

/-!
# Log filters

Which lines of the log are shown. A filter is a list of directives separated by commas. Each applies
in one of two ways, or in both:

* to lines, when it names no span and asks for no value: it applies to the lines with the target and
  the field that it asks for, and of the directives that apply to a line the most specific decides;
* to attempts, when it names a span or a field: it shows lines of whatever target that are written
  during the attempts with the field that it asks for.

A line is shown if either way shows it.
-/

namespace SyncQueue.CommandLine

/-! ## Lines -/

namespace Condition

/-- The target begins as the condition asks. -/
def coversTarget (c : Condition) (target : String) : Bool :=
  c.target.all fun beginning => beginning.toList.isPrefixOf target.toList

/-- The condition is one on lines. -/
def isOnLines (c : Condition) : Bool := c.span.isNone && c.field.all (·.value.isNone)

/-- The condition is one on attempts. -/
def isOnAttempts (c : Condition) : Bool := c.span.isSome || c.field.isSome

/-- The names of the values that go with a line; the message is one of them. -/
def fieldsOf (line : LogLine) : List String := "message" :: line.fields

/-- A condition on lines is met by a line. -/
def coversLine (c : Condition) (line : LogLine) : Bool :=
  c.coversTarget line.source.target && c.field.all fun test => (fieldsOf line).contains test.name

/-- The length of the beginning asked for, more than that of no beginning. -/
def precision (c : Condition) : Nat := c.target.elim 0 (·.length + 1)

/-- The name of the field asked for, empty if there is none. -/
def fieldName (c : Condition) : String := c.field.elim "" (·.name)

/-- Of two conditions on lines that a line meets, the second one is at least as specific: it asks
for more of the target, or for as much and for a field that does not come before the other one. -/
def yieldsTo (c d : Condition) : Bool :=
  c.precision < d.precision || (c.precision = d.precision && !(d.fieldName < c.fieldName))

end Condition

/-! ## Attempts -/

/-- The name of the span around an attempt. -/
def attemptSpan : String := "sync_job"

/-- The value of a field of an attempt. -/
inductive AttemptValue where
  | whole (n : Int)
  | text (cs : List Char)

/-- The fields of an attempt of a job. -/
def attemptFields (job : Job) : List (String × AttemptValue) := [
  ("job_id", .text job.id.text.toList),
  ("pair_id", .text job.key.pair.text.toList),
  ("connector_id", .text job.key.connector.text.toList),
  ("retry_count", .whole job.retryCount)]

/-- A field has the value asked for: whole numbers are compared, and texts are matched by
patterns. -/
def FieldValue.accepts : FieldValue → AttemptValue → Bool
  | natural n, .whole m => n = m
  | integer n, .whole m => n = m
  | pattern _ p, .text cs => p.covers cs
  | _, _ => false

/-- An attempt of a job has the field asked for. -/
def FieldTest.holds (test : FieldTest) (job : Job) : Bool :=
  ((attemptFields job).lookup test.name).any fun found => test.value.all (·.accepts found)

/-- A condition on attempts is met by the attempts of a job. -/
def Condition.coversAttempt (c : Condition) (job : Job) : Bool :=
  c.coversTarget Source.consumer.target && c.span.all (· = attemptSpan) &&
    c.field.all (·.holds job)

/-! ## Filters -/

/-- A filter. -/
abbrev LogFilter := List Directive

namespace LogFilter

/-- The directives that apply to lines, of those with the same condition the last one most binding.
Those that apply to attempts as well come last. -/
def onLines (f : LogFilter) : LogFilter :=
  let (both, others) := f.partition (·.condition.isOnAttempts)
  others ++ both.filter (·.condition.isOnLines)

/-- The more binding one of two directives. -/
def moreBinding (best : Option Directive) (d : Directive) : Option Directive :=
  match best with
  | none => some d
  | some b => if b.condition.yieldsTo d.condition then some d else best

/-- The verbosity for a line: that of the most specific directive that applies to it. -/
def verbosity (f : LogFilter) (line : LogLine) : Nat :=
  let binding := (f.onLines.filter (·.condition.coversLine line)).foldl moreBinding none
  binding.elim 0 (·.verbosity)

/-- Replace the directive with the condition of a directive by this one, or add it. -/
def replaced (f : LogFilter) (d : Directive) : LogFilter :=
  f.filter (·.condition ≠ d.condition) ++ [d]

/-- The directives that apply to attempts, each condition with its last verbosity. -/
def onAttempts (f : LogFilter) : LogFilter :=
  (f.filter (·.condition.isOnAttempts)).foldl replaced []

/-- The greatest verbosity that the filter can show. Directives that ask for values of fields are
not decided before the values are known, so they may show everything. -/
def reach (f : LogFilter) : Nat :=
  if f.any fun d => d.condition.field.any (·.value.isSome) then everything
  else (f.map (·.verbosity)).foldl max 0

/-- The verbosity during the attempts of a job. An attempt is itself a piece of information: it is
not followed by a filter that shows none. -/
def verbosityDuring (f : LogFilter) (job : Job) : Nat :=
  if f.reach < Level.info.verbosity then 0
  else ((f.onAttempts.filter (·.condition.coversAttempt job)).map (·.verbosity)).foldl max 0

/-- The filter shows a line. -/
def shows (f : LogFilter) (line : LogLine) : Bool :=
  line.level.verbosity ≤ f.verbosity line ||
    line.job.any fun job => line.level.verbosity ≤ f.verbosityDuring job

/-! ## Reading -/

/-- The directives of a text. -/
def parts (text : String) : List String := (text.splitOn ",").filter (!·.isEmpty)

/-- Read a filter all of whose directives must be well formed. -/
def read? (text : String) : Option LogFilter :=
  (parts text).mapM fun part => (Directive.read part.toList).toOption

/-- Read a filter without the directives that cannot be read; a filter without any directive shows
errors. The second part is a message for each directive left out. -/
def readLenient (text : String) : LogFilter × List String :=
  let read := (parts text).map fun part => (part, Directive.read part.toList)
  let directives := read.filterMap (·.2.toOption)
  let messages := read.filterMap fun (part, result) =>
    match result with
    | .ok _ => none
    | .error e => some ("ignoring \x60" ++ part ++ "\x60: " ++ e.message)
  (if directives.isEmpty then [⟨.none, Level.error.verbosity⟩] else directives, messages)

/-- The filter of the process, or else, if it has none or a malformed one, that of the settings. -/
def choose (ofProcess : Option String) (ofSettings : String) : LogFilter × List String :=
  match ofProcess.bind read? with
  | some filter => (filter, [])
  | none => readLenient ofSettings

end LogFilter

end SyncQueue.CommandLine
