import RouteHelpers.Json.Writer
import RouteHelpers.Text.Basic
import RouteHelpers.Text.Character
import RouteHelpers.Text.Lines

/-!
Identifiers and literals of the emitted code.
-/

namespace RouteHelpers.Script

/-- The words that cannot name a binding. -/
def reservedWords : List String :=
  ["await", "break", "case", "catch", "class", "const", "continue", "debugger", "default", "delete",
    "do", "else", "enum", "export", "extends", "false", "finally", "for", "function", "if",
    "implements", "import", "in", "instanceof", "interface", "let", "new", "null", "package",
    "private", "protected", "public", "return", "static", "super", "switch", "this", "throw", "true",
    "try", "typeof", "var", "void", "while", "with", "yield"]

/-- Whether a name is a reserved word. -/
def isReserved (name : String) : Bool :=
  reservedWords.contains name

/-- Whether a character may stand in an identifier behind its first one. -/
def isIdentifierChar (c : Char) : Bool :=
  c == '$' || Text.isWord c

/-- Whether a character may start an identifier. -/
def isIdentifierStart (c : Char) : Bool :=
  c == '$' || c == '_' || c.isAlpha

/-- A character as it stands in an identifier. -/
def identifierChar (c : Char) : Char :=
  if isIdentifierChar c then c else '_'

/-- A list of characters that is not empty and starts with no digit. -/
def safeStart : List Char → List Char
  | [] => ['_']
  | c :: rest => if Text.isDigit c then '_' :: c :: rest else c :: rest

/-- A name that can be bound: `new` becomes `new_`, `my-thing` becomes `my_thing`. -/
def safeName (name : String) : String :=
  let plain := String.ofList (safeStart (name.toList.map identifierChar))
  if isReserved plain then plain ++ "_" else plain

/-- Whether a name can stand as a key without quotes. A line feed at its end goes unnoticed. -/
def isPlainKey (name : String) : Bool :=
  match (Text.cutFinalNewline name.toList).1 with
  | [] => false
  | c :: rest => isIdentifierStart c && rest.all isIdentifierChar

/-- A text as a literal in double quotes. -/
def doubleQuoted (s : String) : String :=
  Json.writeText .ascii s

/-- A character inside single quotes. -/
def singleQuotedChar (c : Char) : List Char :=
  if c == '\\' || c == '\'' then ['\\', c] else [c]

/-- A text as a literal in single quotes. -/
def singleQuoted (s : String) : String :=
  "'" ++ Text.flatMap singleQuotedChar s ++ "'"

/-- A name as a key: reserved words need no quotes, whatever is no identifier does. -/
def key (name : String) : String :=
  if isPlainKey name then name else doubleQuoted name

/-- Lines moved to the right by two blanks a level; empty lines stay empty. -/
def indent (depth : Nat) (lines : List String) : List String :=
  lines.map fun line => if line.isEmpty then line else Text.repeated (2 * depth) " " ++ line

/-- Lines with a text added to the last one. -/
def endWith (ending : String) : List String → List String
  | [] => []
  | [line] => [line ++ ending]
  | line :: rest => line :: endWith ending rest

/-- Lines with a text put in front of the first one. -/
def startWith (start : String) : List String → List String
  | [] => []
  | line :: rest => (start ++ line) :: rest

/-- Lines as one text. -/
def unlines (lines : List String) : String :=
  Text.joinWith "\n" lines

/-- The line that opens a documentation comment, given lines of it, and the line that closes it. -/
def comment (lines : List String) : List String :=
  ["/**"] ++ lines.map (" * " ++ ·) ++ [" */"]

end RouteHelpers.Script
