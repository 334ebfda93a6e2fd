import RouteHelpers.Text.Basic
import RouteHelpers.Text.Character
import RouteHelpers.Text.Octet

/-!
The syntax tree of a routes file.

Routes are declared by calls, so calls are what the tree tells apart: a call has a method name,
arguments and perhaps a block, and everything else is a form with its parts in the order of the text.
Forms that an argument can be understood by have a kind of their own. Every node keeps its text and
its place.

A file may hold octets that are no text. They stand in the texts of nodes as marks, and only reading
what a node says can fail on them.
-/

namespace RouteHelpers.RouteFile

/-- What a form is, as far as an argument is understood by it. -/
inductive Kind where
  /-- A text literal; the content is its first run of plain characters. -/
  | string (content : String)
  /-- A symbol without quotes. -/
  | symbol
  /-- A key in front of a colon. -/
  | label
  /-- A key and a value; the value may be left out. -/
  | pair
  | hash
  | array
  /-- An array of bare words, which are symbols or texts. -/
  | words (areSymbols : Bool) (elements : List String)
  | nil
  /-- A comment. -/
  | remark
  /-- The body of a heredoc, which stands below the line of its opening. -/
  | heredocBody
  | other
  deriving DecidableEq, Repr

/-- A node of the tree. The body of a call is that of its block. The place of a node is the number of
characters from its start to the end of the file. -/
inductive Node where
  | call (place : Nat) (text method : String) (args : List Node) (hasBlock : Bool)
      (body : List Node)
  | form (place : Nat) (kind : Kind) (text : String) (parts : List Node)
  deriving Repr, Inhabited

namespace Node

/-- The number of characters from the start of a node to the end of the file. -/
def place : Node → Nat
  | call place .. => place
  | form place .. => place

/-- The text that a node was read from. -/
def text : Node → String
  | call _ text .. => text
  | form _ _ text _ => text

/-- What a form is; a call is nothing of interest here. -/
def kind : Node → Kind
  | call .. => .other
  | form _ kind .. => kind

/-- Whether a node is the literal for nothing. -/
def isNil (n : Node) : Bool :=
  n.kind == .nil

/-- Whether a node is a symbol without quotes. -/
def isSymbol (n : Node) : Bool :=
  n.kind == .symbol

/-- Whether a node is a text literal. -/
def isString (n : Node) : Bool :=
  match n.kind with
  | .string _ => true
  | _ => false

/-- Whether a node is a comment. -/
def isRemark (n : Node) : Bool :=
  n.kind == .remark

/-- Whether a node stands between tokens and is no part of a construct. -/
def isAside (n : Node) : Bool :=
  n.isRemark || n.kind == .heredocBody

/-- A text without the quotes around it or the colon in front of it. -/
def unquoted (s : String) : String :=
  match s.toList with
  | c :: rest =>
    if c == '\'' || c == '"' then String.ofList rest.dropLast
    else if c == ':' then String.ofList rest
    else s
  | [] => s

/-- The value of a text literal or a symbol; of any other node its text, without quotes around it or
a colon in front. -/
def value (n : Node) : Except Text.Utf8Fault String :=
  match n.kind with
  | .string content => Text.withoutMarks content
  | _ => (Text.withoutMarks n.text).map fun text => unquoted (Text.strip Text.isBlank text)

/-- The values of nodes in order, empty ones left out. -/
def filledValues (ns : List Node) : Except Text.Utf8Fault (List String) := do
  let values ← ns.mapM value
  pure (values.filter (!·.isEmpty))

/-- The symbols and text literals among the elements of an array, empty ones left out; of another
node, the one value it has. -/
def values : Node → Except Text.Utf8Fault (List String)
  | form _ (.words _ elements) .. => elements.mapM Text.withoutMarks
  | form _ .array _ parts => filledValues (parts.filter fun p => p.isSymbol || p.isString)
  | n => filledValues [n]

/-- The names of concerns that an argument lists. -/
def concernNames : Node → Except Text.Utf8Fault (List String)
  | form _ (.words areSymbols elements) .. =>
    if areSymbols then elements.mapM Text.withoutMarks else pure []
  | n@(form _ .array ..) => n.values
  | n => if n.isSymbol || n.isString then n.value.map fun name => [name] else pure []

/-- The key and value of a pair that has both. -/
def keyValue? : Node → Option (Node × Node)
  | form _ .pair _ parts =>
    match parts.filter (!·.isAside) with
    | [key, value] => some (key, value)
    | _ => none
  | _ => none

/-- The pairs that an argument brings: itself, or those of a hash. -/
def pairs : Node → List Node
  | n@(form _ .pair ..) => [n]
  | form _ .hash _ parts => parts.filter fun p => p.kind == .pair
  | _ => []

end Node
end RouteHelpers.RouteFile
