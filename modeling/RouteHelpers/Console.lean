import RouteHelpers.Text.Basic

/-!
Consoles that a program prints on.

A console takes texts with markup, in which a tag in brackets opens or closes a style, and tables whose
cells are such texts. What comes out of them, how lines are broken and columns are laid out, is up to the
console, and it may refuse a text whose tags do not close each other. It can also escape a text, so that
nothing in it counts as markup.
-/

namespace RouteHelpers

/-- Why a console does not print a text: the kind of the fault, and what a reader is told. -/
structure Console.Fault where
  kind : String
  message : String
  deriving DecidableEq, Repr

/-- A column of a table. -/
structure Console.Column where
  header : String
  fixedWidth : Option Nat
  maxWidth : Option Nat

/-- A table; each row has a cell with markup for each column. -/
structure Console.Table where
  title : String
  columns : List Console.Column
  rows : List (List String)

/-- A console: how it prints a text on lines of its own, how it prints a table, and how it escapes a
text. -/
structure Console where
  line : String → Except Console.Fault String
  table : Console.Table → Except Console.Fault String
  escape : String → String

namespace Console

/-- What stands on a console, and the fault that ended the printing. -/
structure Output where
  text : String
  fault : Option Fault
  deriving DecidableEq, Repr

/-- Prints parts one after the other, up to the first that cannot be printed. -/
def Output.ofParts : List (Except Fault String) → Output
  | [] => ⟨"", none⟩
  | .error f :: _ => ⟨"", some f⟩
  | .ok s :: rest =>
    let more := ofParts rest
    { more with text := s ++ more.text }

/-- A text in a style. -/
def styled (style s : String) : String :=
  "[" ++ style ++ "]" ++ s ++ "[/" ++ style ++ "]"

end Console
end RouteHelpers
