import RouteHelpers.Text.Quoted
import RouteHelpers.Yaml.Fault

/-!
Tokens of a YAML document, and the state in which they are found.

Where a token stands matters as much as what it is: indentation opens and closes collections, and
what could be a key is known to be one only when a colon follows it. The state therefore keeps the
columns of the open collections and, for each level of brackets, the place of the last token that
could start a key.
-/

namespace RouteHelpers.Yaml

/-- A token. -/
inductive Token where
  /-- A directive with its name and words. -/
  | directive (name : String) (words : List String)
  | documentStart
  | documentEnd
  | blockSequence
  | blockMapping
  | blockEnd
  | flowSequence
  | flowSequenceEnd
  | flowMapping
  | flowMappingEnd
  | blockEntry
  | flowEntry
  | key
  | value
  | reference (name : String)
  | anchor (name : String)
  /-- A tag: its handle, if it has one, and the rest. -/
  | tag (handle : Option String) (suffix : String)
  | scalar (text : String) (isPlain : Bool)
  deriving DecidableEq, Repr

/-- A token that could start a key: its number and its place. -/
structure KeyStart where
  number : Nat
  required : Bool
  index : Nat
  line : Nat
  column : Nat

/-- The state in which tokens are found. -/
structure Scan where
  rest : List Char
  index : Nat
  line : Nat
  column : Nat
  tokens : Array Token
  /-- How many brackets are open. -/
  flowLevel : Nat
  /-- The column of the innermost open block collection, and those of the outer ones. -/
  indent : Int
  indents : List Int
  /-- Whether a key may start here. -/
  keyAllowed : Bool
  /-- The tokens that could start a key, by level of brackets. -/
  keyStarts : List (Nat × KeyStart)

/-- The state at the start of a document. -/
def Scan.start (text : List Char) : Scan where
  rest := text
  index := 0
  line := 0
  column := 0
  tokens := #[]
  flowLevel := 0
  indent := -1
  indents := []
  keyAllowed := true
  keyStarts := []

/-- A step of finding tokens. -/
abbrev Scanning := StateT Scan (Except ReadFault)

/-- The failure of a step. -/
def malformed {α : Type} : Scanning α :=
  throw .malformed

/-! ### Characters -/

/-- Characters that end a line. -/
def isBreak (c : Char) : Bool :=
  c == '\n' || c == '\r' || c == '\x85' || c == '\u2028' || c == '\u2029'

/-- The character that stands for the end of a document. -/
def endMark : Char := '\x00'

/-- Characters that end a line, and the end of the document. -/
def endsLine (c : Char) : Bool :=
  isBreak c || c == endMark

/-- Characters that end a line or a word. -/
def endsWord (c : Char) : Bool :=
  c == ' ' || c == '\t' || endsLine c

/-- Characters of names: those of anchors, directives and tag handles. -/
def isNameChar (c : Char) : Bool :=
  c.isAlphanum || c == '-' || c == '_'

/-- Characters that a document may hold. -/
def isAllowed (c : Char) : Bool :=
  let n := c.toNat
  n == 0x09 || n == 0x0a || n == 0x0d || (0x20 ≤ n && n ≤ 0x7e) || n == 0x85 ||
    (0xa0 ≤ n && n ≤ 0xfffd) || 0x10000 ≤ n

/-! ### Moving -/

/-- The character `n` places ahead. -/
def peekAt (n : Nat) : Scanning Char := do
  pure ((← get).rest.getD n endMark)

/-- The next character. -/
def peek : Scanning Char :=
  peekAt 0

/-- Takes the next character. -/
def advanceOne : Scanning Unit :=
  modify fun s =>
    match s.rest with
    | [] => s
    | c :: rest =>
      let s := { s with rest, index := s.index + 1 }
      if isBreak c then { s with line := s.line + 1, column := 0 }
      else if c == '\ufeff' then s
      else { s with column := s.column + 1 }

/-- Takes `n` characters. -/
def advance : Nat → Scanning Unit
  | 0 => pure ()
  | n + 1 => do advanceOne; advance n

/-- Takes the characters of a class. -/
def takeWhile (p : Char → Bool) : Scanning (List Char) := do
  let taken := (← get).rest.takeWhile p
  advance taken.length
  pure taken

/-- Takes a line break; what it contributes to a text. -/
def takeBreak : Scanning (List Char) := do
  let c ← peek
  if !isBreak c then pure []
  else do
    advanceOne
    pure [if c == '\u2028' || c == '\u2029' then c else '\n']

/-- Whether a mark of three characters that parts documents stands here. -/
def atMark (mark : Char) : Scanning Bool := do
  let rest := (← get).rest
  pure (rest.take 3 == [mark, mark, mark] && endsWord (rest.getD 3 endMark))

/-- Whether a mark that parts documents stands here. -/
def atDocumentMark : Scanning Bool := do
  if ← atMark '-' then pure true else atMark '.'

/-- A bound of the number of steps that take a character each. -/
def stepBound : Scanning Nat := do
  pure ((← get).rest.length + 1)

end RouteHelpers.Yaml
