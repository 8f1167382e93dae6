import SyncQueue.Text.Decimal

/-!
# Failures

How a failure that ends the program is shown: what the program was doing, and below it the texts of
the faults behind it, numbered if there are several.
-/

namespace SyncQueue.CommandLine

/-- A failure that ends the program. -/
structure Failure where
  /-- What the program was doing. -/
  doing : String
  causes : List String
  deriving DecidableEq, Repr

namespace Failure

/-- A text whose lines after the first are indented by a number of blanks. -/
def indented (width : Nat) (text : String) : String :=
  String.intercalate ("\n" ++ String.ofList (List.replicate width ' ')) (text.splitOn "\n")

/-- A cause with its number in front. -/
def numbered (n : Nat) (text : String) : String :=
  let digits := Text.natDigits n
  String.ofList (List.replicate (5 - digits.length) ' ' ++ digits) ++ ": " ++ indented 7 text

/-- The lines of the causes. -/
def causeLines : List String → List String
  | [cause] => ["    " ++ indented 4 cause]
  | causes => causes.zipIdx.map fun (cause, n) => numbered n cause

/-- The message for the user. -/
def report (f : Failure) : String :=
  let below :=
    if f.causes.isEmpty then ""
    else "\n\nCaused by:\n" ++ String.intercalate "\n" (causeLines f.causes)
  "Error: " ++ f.doing ++ below ++ "\n"

end Failure

end SyncQueue.CommandLine
