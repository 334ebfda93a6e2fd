import RouteHelpers.RouteFile.Node

/-!
Places in a routes file, and readers.

A cursor is the rest of the text, with what has been opened and is still to come, and with what has
been read and belongs to no node yet. A reader takes a token or a construct off the cursor, or fails
and leaves it.

Expressions hold statements and statements hold expressions, so readers refer to each other: `Grammar`
is the record of those that the others refer to, and every reader runs under one. What is referred to
always stands behind at least one character already taken, so the length of a file bounds how deep the
references go.
-/

namespace RouteHelpers.RouteFile

/-- A heredoc whose body is still to come. -/
structure Heredoc where
  ending : List Char
  /-- Whether the ending may be indented. -/
  indented : Bool
  /-- Whether escapes and interpolations count in the body. -/
  interpolates : Bool
  deriving Repr

/-- A place in a routes file. -/
structure Cursor where
  rest : List Char
  heredocs : List Heredoc
  /-- Whether the place is inside the body of a heredoc, where no other body begins. -/
  insideBody : Bool
  /-- What has been read between tokens and belongs to no node yet. -/
  asides : List Node
  deriving Repr

/-- What the surroundings of an expression claim for themselves. -/
structure Context where
  /-- Line ends are blanks. -/
  lines : Bool := false
  /-- A `do` belongs to a construct outside. -/
  doTaken : Bool := false
  /-- A bar ends the list of parameters. -/
  barTaken : Bool := false
  /-- A colon parts the branches of a choice outside. -/
  colonTaken : Bool := false
  /-- Commas and arrows belong to a list outside, in which words can join expressions. -/
  commaTaken : Bool := false
  /-- The word `in` belongs to a construct outside. -/
  inTaken : Bool := false

namespace Context

/-- The context of a statement. -/
def statement : Context := {}

/-- The context between brackets. -/
def brackets : Context := { lines := true, commaTaken := true }

/-- The context of the parameters of a block. -/
def parameters : Context := { lines := true, barTaken := true }

/-- A context in which a `do` is taken. -/
def takingDo (ctx : Context) : Context := { ctx with doTaken := true }

/-- The context of arguments without brackets, which no words join. -/
def bare (ctx : Context) : Context := { ctx with commaTaken := false }

end Context

/-- The readers that the others refer to. -/
structure Grammar where
  /-- An expression that can be an argument. -/
  expression : Context → Cursor → Option (Node × Cursor)
  /-- An expression that can be a statement: lists and spelled-out connectives count. -/
  condition : Context → Cursor → Option (Node × Cursor)
  /-- Statements, as many as there are. -/
  statements : Cursor → Option (List Node × Cursor)

/-- Reads something at a cursor. -/
abbrev Reader := ReaderT Grammar (StateT Cursor Option)

/-! ### References -/

/-- An expression that can be an argument, by the grammar. -/
def innerExpression (ctx : Context) : Reader Node :=
  fun g => g.expression ctx

/-- An expression that can be a statement, by the grammar. -/
def innerCondition (ctx : Context) : Reader Node :=
  fun g => g.condition ctx

/-- Statements by the grammar. -/
def innerStatements : Reader (List Node) :=
  fun g => g.statements

/-! ### Characters -/

/-- Characters that no name holds. -/
def isNameChar (c : Char) : Bool :=
  !(c.toNat < 0x20 || Text.isBlank c || Text.isMark c ||
    ":;`\"'@$#.,|^&<=>+-*/\\%?!~()[]\x7b\x7d".toList.contains c)

/-- Characters that a name can start with. -/
def startsName (c : Char) : Bool :=
  isNameChar c && !c.isDigit

/-- The name that a text starts with, with the mark that it may end with. -/
def nameOf (cs : List Char) : List Char :=
  match cs with
  | [] => []
  | c :: _ =>
    if !startsName c then []
    else
      let name := cs.takeWhile isNameChar
      match cs.drop name.length with
      | m :: rest =>
        let isMark := (m == '?' || m == '!') && match rest with
          | '=' :: d :: _ => d == '=' || d == '~' || d == '>'
          | '=' :: [] => false
          | _ => true
        if isMark then name ++ [m] else name
      | [] => name

/-- Whether a text starts with a word that ends there. -/
def startsWithWord (word : String) (cs : List Char) : Bool :=
  nameOf cs == word.toList

/-! ### Readers -/

/-- The text between two cursors. -/
def textBetween (start stop : Cursor) : String :=
  String.ofList (start.rest.take (start.rest.length - stop.rest.length))

/-- Whether the rest passes a test. -/
def ahead (p : List Char → Bool) : Reader Bool := do
  pure (p (← get).rest)

/-- Takes `n` characters. -/
def advance (n : Nat) : Reader Unit :=
  modify fun c => { c with rest := c.rest.drop n }

/-- Takes the characters of a class. -/
def advanceWhile (p : Char → Bool) : Reader Unit :=
  modify fun c => { c with rest := c.rest.dropWhile p }

/-- Takes a given text, if the rest starts with it. -/
def accept (s : String) : Reader Bool := do
  if s.toList.isPrefixOf (← get).rest then do advance s.length; pure true
  else pure false

/-- Takes a given text. -/
def expect (s : String) : Reader Unit := do
  if ← accept s then pure () else failure

/-- Takes a given word, if the rest starts with it. -/
def acceptWord (word : String) : Reader Bool := do
  if startsWithWord word (← get).rest then do advance word.length; pure true
  else pure false

/-- Takes a given word. -/
def expectWord (word : String) : Reader Unit := do
  if ← acceptWord word then pure () else failure

/-- The result of a reader; nothing, and the same cursor, if it fails. -/
def attempt {α : Type} (p : Reader α) : Reader (Option α) := fun g c =>
  match p g c with
  | some (a, c) => some (some a, c)
  | none => some (none, c)

/-- The results of a reader up to the first that is nothing; `fuel` bounds their number. -/
def manyFrom {α : Type} (p : Reader (Option α)) : Nat → Reader (List α)
  | 0 => pure []
  | fuel + 1 => do
    match ← p with
    | none => pure []
    | some a => do
      let more ← manyFrom p fuel
      pure (a :: more)

/-- The results of a reader up to the first that is nothing. Each result takes a character at least,
so the rest bounds their number. -/
def many {α : Type} (p : Reader (Option α)) : Reader (List α) := do
  manyFrom p ((← get).rest.length + 1)

/-- What a reader gives, with the cursor it started at. -/
def withStart {α : Type} (p : Reader α) : Reader (Cursor × α) := do
  let start ← get
  let a ← p
  pure (start, a)

/-! ### Nodes -/

/-- Takes what has been read between tokens from a cursor on. -/
def takeAsides (start : Cursor) : Reader (List Node) := do
  let stop ← get
  set { stop with asides := stop.asides.take start.asides.length }
  pure (stop.asides.drop start.asides.length)

/-- Nodes of two lists that are in the order of the text, in that order. -/
def inOrder (as bs : List Node) : List Node :=
  List.merge as bs fun a b => b.place ≤ a.place

/-- The form of some parts, read from a cursor on. What was read between its tokens is put among its
parts, comments apart. -/
def close (start : Cursor) (kind : Kind) (parts : List Node) : Reader Node := do
  let found ← takeAsides start
  let text := textBetween start (← get)
  pure (.form start.rest.length kind text (inOrder parts (found.filter (!·.isRemark))))

/-- The call of a method, read from a cursor on. What was read between its tokens is no part of it. -/
def closeCall (start : Cursor) (method : String) (args : List Node) (block : Option (List Node)) :
    Reader Node := do
  let _ ← takeAsides start
  let text := textBetween start (← get)
  pure (.call start.rest.length text method args block.isSome (block.getD []))

/-- A form of the given kind with the parts that a reader gives. -/
def formOf (kind : Kind) (p : Reader (List Node)) : Reader Node := do
  let (start, parts) ← withStart p
  close start kind parts

/-- A form of the next `n` characters. -/
def plainForm (kind : Kind) (n : Nat) : Reader Node :=
  formOf kind do
    advance n
    pure []

end RouteHelpers.RouteFile
