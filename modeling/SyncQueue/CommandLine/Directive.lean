import SyncQueue.Number.Reading
import SyncQueue.Number.Width
import SyncQueue.Text.Alphanumeric
import SyncQueue.Text.Blank
import SyncQueue.Text.Decimal
import SyncQueue.Text.Pattern.Reader
import SyncQueue.Text.Split

/-!
# Directives

A directive shows some lines of the log up to a verbosity. It is written

    target[span{field=value}]=level

where nearly everything may be left out: `level` alone applies to all lines, and `target` alone
shows everything. `Directive.read` reads one.
-/

namespace SyncQueue.CommandLine

open Number (maxUnsigned maxSigned minSigned)

/-! ## Verbosities -/

/-- The names of the verbosities, from none to everything. -/
def verbosityNames : List String := ["off", "error", "warn", "info", "debug", "trace"]

/-- The verbosity of everything. -/
def everything : Nat := 5

/-- Read a verbosity: a name in either case, or a number up to five. -/
def readVerbosity? (cs : List Char) : Option Nat :=
  (Text.naturalUpTo? everything cs).or <|
    verbosityNames.findIdx? (· = String.ofList (cs.map Char.toLower))

/-! ## Conditions -/

/-- The value that a directive asks of a field. -/
inductive FieldValue where
  | natural (n : Nat)
  | integer (n : Int)
  /-- A pattern, with the text that it was read from. -/
  | pattern (text : List Char) (p : Text.Pattern)
  /-- A truth value, or a number that is not whole or too large; no field has it. -/
  | other
  deriving DecidableEq, Repr

/-- A field that a directive asks for, with any value or a certain one. -/
structure FieldTest where
  name : String
  value : Option FieldValue
  deriving DecidableEq, Repr

/-- What a directive applies to. -/
structure Condition where
  /-- The beginning of the target. -/
  target : Option String
  /-- The name of the span. -/
  span : Option String
  field : Option FieldTest
  deriving DecidableEq, Repr

/-- The condition that everything meets. -/
def Condition.none : Condition := ⟨.none, .none, .none⟩

/-- A directive. -/
structure Directive where
  condition : Condition
  verbosity : Nat
  deriving DecidableEq, Repr

/-! ## Errors -/

/-- Why a directive cannot be read. -/
inductive DirectiveError where
  | malformed
  | unknownLevel
  | badPattern
  deriving DecidableEq, Repr

/-- The wording of an error. -/
def DirectiveError.message : DirectiveError → String
  | malformed => "invalid filter directive"
  | unknownLevel =>
    "error parsing level filter: expected one of \"off\", \"error\", \"warn\", \"info\", " ++
      "\"debug\", \"trace\", or a number 0-5"
  | badPattern => "invalid field filter: error building NFA"

/-! ## Fields -/

/-- Read the value asked of a field; what is neither a truth value nor a number is a pattern. -/
def FieldValue.read (cs : List Char) : Except DirectiveError FieldValue :=
  if cs = "true".toList || cs = "false".toList then .ok .other
  else
    match Text.naturalUpTo? (maxUnsigned 64) cs,
      Text.integerWithin? (minSigned 64) (maxSigned 64) cs with
    | some n, _ => .ok (.natural n)
    | none, some n => .ok (.integer n)
    | none, none =>
      if (Number.Binary64.read? cs).isSome then .ok .other
      else
        match Text.Pattern.read? cs with
        | some p => .ok (.pattern cs p)
        | none => .error .badPattern

/-- Read the field asked for: its name, and its value after an equals sign. Nothing counts after
another equals sign. -/
def FieldTest.read (cs : List Char) : Except DirectiveError FieldTest :=
  match Text.splitAll '=' cs with
  | name :: value :: _ => do return ⟨String.ofList name, some (← FieldValue.read value)⟩
  | _ => .ok ⟨String.ofList cs, none⟩

/-! ## Reading

The form of a directive is that of the text without the blanks around it. Its parts are cut out of
the whole text all the same, between as many characters from the beginning. So the functions below
take what is left of the form and of the text. -/

/-- What is left of the form and of the text. -/
structure Unread where
  form : List Char
  text : List Char

namespace Unread

/-- Cut at the first of some characters: the text before it, the character, and what is left. -/
def cut? (isDelimiter : Char → Bool) (u : Unread) : Option (List Char × Char × Unread) :=
  let n := u.form.findIdx isDelimiter
  (u.form[n]?).map fun c => (u.text.take n, c, ⟨u.form.drop (n + 1), u.text.drop (n + 1)⟩)

end Unread

namespace Directive

/-- The verbosity in the rest of a text; an empty rest shows everything. -/
def readLevel (text : List Char) : Except DirectiveError Nat :=
  if text.isEmpty then .ok everything
  else
    match readVerbosity? text with
    | some v => .ok v
    | none => .error .unknownLevel

/-- Read what follows the brackets. -/
def readAfterBrackets (condition : Condition) (u : Unread) : Except DirectiveError Directive :=
  match u.form with
  | [] => .ok ⟨condition, everything⟩
  | '=' :: _ => do return ⟨condition, ← readLevel (u.text.drop 1)⟩
  | _ => .error .malformed

/-- Read what follows the field and its brace. -/
def readAfterField (condition : Condition) (u : Unread) : Except DirectiveError Directive :=
  match u.form with
  | ']' :: form => readAfterBrackets condition ⟨form, u.text.drop 1⟩
  | _ => .error .malformed

/-- Read what follows an opening bracket. -/
def readBrackets (target : Option String) (u : Unread) : Except DirectiveError Directive := do
  match u.cut? fun c => c = ']' || c = '{' with
  | none => throw .malformed
  | some (span, c, u) =>
    let name := String.ofList span
    if c = ']' then readAfterBrackets ⟨target, some name, none⟩ u
    else
      match u.cut? (· = '}') with
      | none | some ([], _, _) => throw .malformed
      | some (field, _, u) =>
        let test ← FieldTest.read field
        readAfterField ⟨target, if name.isEmpty then none else some name, some test⟩ u

/-- The character may begin a directive that does not begin with a bracket. -/
def mayBegin (c : Char) : Bool := "-:_".toList.contains c || Text.isAlphanumeric c

/-- Read a directive from a text that is not empty. -/
def read (text : List Char) : Except DirectiveError Directive :=
  match Text.trim text with
  | [] => .error .malformed
  | '[' :: form => readBrackets none ⟨form, text.drop 1⟩
  | c :: form =>
    if !mayBegin c then .error .malformed
    else
      match Unread.cut? (fun c => c = '=' || c = '[') ⟨c :: form, text⟩ with
      | none =>
        match readVerbosity? text with
        | some v => .ok ⟨.none, v⟩
        | none => .ok ⟨{ Condition.none with target := String.ofList text }, everything⟩
      | some (target, c, u) =>
        let target := String.ofList target
        if c = '[' then readBrackets target u
        else do return ⟨{ Condition.none with target }, ← readLevel u.text⟩

end Directive

end SyncQueue.CommandLine
