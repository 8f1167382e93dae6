import SyncQueue.Text.Control
import SyncQueue.Text.Decimal

/-!
# Styled texts

Texts whose parts differ in how they are shown. With styles each part that has one stands between
control sequences; without them no control sequence is shown, not even one that is part of a text.
-/

namespace SyncQueue.CommandLine

/-- How a part of a text is shown. -/
inductive Style where
  | plain
  /-- The name of a section. -/
  | heading
  /-- Something to type. -/
  | literal
  /-- The word that announces an error. -/
  | alarm
  /-- What is wrong. -/
  | invalid
  /-- What would be right. -/
  | valid
  deriving DecidableEq, Repr

/-- The numbers of the control sequences of a style. -/
def Style.codes : Style → List Nat
  | plain => []
  | heading => [1, 4]
  | literal => [1]
  | alarm => [1, 31]
  | invalid => [33]
  | valid => [32]

/-- Parts of a text with their styles. -/
abbrev StyledText := List (Style × String)

namespace StyledText

/-- The control sequence of a number. -/
def sequence (code : Nat) : String := "\x1b[" ++ String.ofList (Text.natDigits code) ++ "m"

/-- A part between its control sequences. -/
def decorated : Style × String → String
  | (style, text) =>
    match style.codes with
    | [] => text
    | codes => String.join (codes.map sequence) ++ text ++ sequence 0

/-- The text with the control sequences of its styles. -/
def coloured (t : StyledText) : String := String.join (t.map decorated)

/-- The text without control sequences. -/
def uncoloured (t : StyledText) : String := String.ofList (Text.Control.visible t.coloured.toList)

/-- The text as it is shown with or without styles. -/
def shown (t : StyledText) (colours : Bool) : String := if colours then t.coloured else t.uncoloured

end StyledText

end SyncQueue.CommandLine
