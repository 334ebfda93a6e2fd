import RouteHelpers.RouteFile.Argument

/-!
Blocks and bodies.

A body is a run of statements with the clauses that handle their failures. A block has parameters and
a body; it follows a call, a subscript or the mark of a function literal.
-/

namespace RouteHelpers.RouteFile

/-- A clause that handles or follows a failure: its exceptions and its statements. -/
def rescueClause? : Reader (Option Node) := do
  blanks true
  let start ← get
  if ← acceptWord "rescue" then do
    blanks false
    let caught ← if ← accept "=>" then do
        blanks true
        pure [← innerExpression .statement]
      else if ← ahead endsList then pure []
      else bareArguments .statement
    blanks true
    let _ ← acceptWord "then"
    some <$> close start .other (caught ++ (← innerStatements))
  else if ← acceptWord "else" then some <$> close start .other (← innerStatements)
  else if ← acceptWord "ensure" then some <$> close start .other (← innerStatements)
  else pure none

/-- Statements and the clauses that handle their failures, up to the word `end`, which is taken
too. -/
def bodyUntilEnd : Reader (List Node) := do
  let body ← innerStatements
  let clauses ← many rescueClause?
  blanks true
  expectWord "end"
  pure (body ++ clauses)

/-- What a block holds. -/
structure Block where
  parameters : List Node
  body : List Node

/-- All parts of a block in order. -/
def Block.parts (b : Block) : List Node :=
  b.parameters ++ b.body

/-- The parameters between bars that a block may start with. -/
def blockParameters : Reader (List Node) := do
  blanks true
  if ← accept "|" then argumentsUntil .parameters "|" else pure []

/-- A block between braces. -/
def braceBlock : Reader Block := do
  expect "\x7b"
  let parameters ← blockParameters
  let body ← innerStatements
  blanks true
  expect "\x7d"
  pure ⟨parameters, body⟩

/-- A block between `do` and `end`. -/
def doBlock : Reader Block := do
  expectWord "do"
  let parameters ← blockParameters
  let body ← bodyUntilEnd
  pure ⟨parameters, body⟩

/-- The block that may follow a call or a subscript. -/
def block? (ctx : Context) : Reader (Option Block) := do
  let before ← get
  blanks false
  match (← get).rest with
  | '\x7b' :: _ => some <$> braceBlock
  | rest =>
    if !ctx.doTaken && startsWithWord "do" rest then some <$> doBlock
    else do set before; pure none

end RouteHelpers.RouteFile
