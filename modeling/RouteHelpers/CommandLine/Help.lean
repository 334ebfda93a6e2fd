import RouteHelpers.CommandLine.Switch

/-!
Help about a command.

A page says how the command is used and what it does, and lists its switches and subcommands in two
columns. Text is filled greedily: a word starts a line only where it would not fit the one before. A
label that is too long for the first column has its description on the line below.
-/

namespace RouteHelpers.CommandLine

namespace Help

/-- The number of columns of a page. -/
def pageWidth : Nat := 80

/-- The most columns that labels take. -/
def widestLabel : Nat := 30

/-- Words as lines of at most a number of columns, behind the line that was begun. -/
def fillFrom (columns : Nat) (line : String) : List String → List String
  | [] => [line]
  | w :: rest =>
    if line.isEmpty then fillFrom columns w rest
    else if line.length + 1 + w.length ≤ columns then fillFrom columns (line ++ " " ++ w) rest
    else line :: fillFrom columns w rest

/-- A text as lines of at most a number of columns. -/
def fill (columns : Nat) (s : String) : List String :=
  fillFrom columns "" (Text.split ' ' s)

/-- Lines behind an indentation. -/
def indented (indentation : Nat) (lines : List String) : List String :=
  lines.map (Text.repeated indentation " " ++ ·)

/-- The lines of a paragraph. -/
def paragraphLines (s : String) : List String :=
  indented 2 (fill (pageWidth - 2) s)

/-- A row of two columns, the first of them with a number of columns. -/
def row (first : Nat) (label description : String) : List String :=
  let lines := fill (pageWidth - first - 2) description
  if label.length + 2 ≤ first then
    match lines with
    | [] => [label]
    | line :: rest => (Text.padRight first label ++ line) :: indented first rest
  else label :: indented first lines

/-- Rows of labels and descriptions. -/
def rows (entries : List (String × String)) : List String :=
  let widest := (entries.map (·.1.length)).foldl max 0
  let first := min widest widestLabel + 2
  indented 2 (entries.flatMap fun e => row first e.1 e.2)

/-- A list of rows below a heading, set off by an empty line; nothing if there are no rows. -/
def section' (heading : String) (entries : List (String × String)) : List String :=
  if entries.isEmpty then [] else "" :: heading :: rows entries

end Help

namespace Command

/-- The line that says how a command is used. -/
def usage (c : Command) : String :=
  "Usage: " ++ c.path ++ " " ++ c.operands

/-- The lines of the page about a command. -/
def helpLines (c : Command) : List String :=
  c.usage ::
    c.description.flatMap (fun paragraph => "" :: Help.paragraphLines paragraph) ++
    Help.section' "Options:" (c.switches.map fun s => (s.label, s.help)) ++
    Help.section' "Commands:" c.subcommands

/-- The page about a command. -/
def helpPage (c : Command) : String :=
  String.join (c.helpLines.map (· ++ "\n"))

end Command
end RouteHelpers.CommandLine
