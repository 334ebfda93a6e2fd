import RouteHelpers.RouteFile.Block

/-!
Constructs that start with a word of the language.

None of them declares a route, but all of them can hold calls that do; a construct is a form with its
parts in the order of the text.
-/

namespace RouteHelpers.RouteFile

/-- Passes what may stand between the head of a construct and its statements. -/
def passThen : Reader Unit := do
  passEnds
  let _ ← acceptWord "then"

/-- The clause that applies if no other does. -/
def elseClause : Reader (List Node) := do
  blanks true
  if ← acceptWord "else" then innerStatements else pure []

/-- The word that closes a construct. -/
def closeConstruct : Reader Unit := do
  blanks true
  expectWord "end"

/-- The parts of a choice by conditions, behind its first word. -/
def choice : Reader (List Node) := do
  blanks true
  let condition ← innerCondition .statement
  passThen
  let body ← innerStatements
  let others ← many do
    blanks true
    if ← acceptWord "elsif" then do
      blanks true
      let condition ← innerCondition .statement
      passThen
      let body ← innerStatements
      pure (some (condition :: body))
    else pure none
  let otherwise ← elseClause
  closeConstruct
  pure (condition :: body ++ others.flatten ++ otherwise)

/-- The parts of a loop behind its head. -/
def loopBody (head : List Node) : Reader (List Node) := do
  blanks false
  let _ ← acceptWord "do"
  let body ← innerStatements
  closeConstruct
  pure (head ++ body)

/-- The parts of a loop with a condition, behind its first word. -/
def conditionLoop : Reader (List Node) := do
  blanks true
  let condition ← innerCondition (Context.takingDo .statement)
  loopBody [condition]

/-- The parts of a loop over a collection, behind its first word. -/
def collectionLoop : Reader (List Node) := do
  blanks true
  let loopNames ← bareArguments .statement
  blanks true
  expectWord "in"
  blanks true
  let collection ← innerCondition (Context.takingDo .statement)
  loopBody (loopNames ++ [collection])

/-- The condition that may follow a pattern. -/
def guard? : Reader (List Node) := do
  blanks false
  if ← ahead (startsWithOneOf ["if", "unless"]) then do
    advance (nameOf (← get).rest).length
    blanks true
    pure [← innerCondition .statement]
  else pure []

/-- The parts of a choice by cases, behind its first word. -/
def cases : Reader (List Node) := do
  blanks true
  let subject ← if ← ahead (startsWithWord "when") then pure []
    else do pure [← innerCondition { Context.statement with inTaken := true }]
  passEnds
  let clauses ← many do
    blanks true
    if ← ahead (startsWithOneOf ["when", "in"]) then do
      advance (nameOf (← get).rest).length
      blanks true
      let tests ← bareArguments .statement
      let guarded ← guard?
      passThen
      let body ← innerStatements
      pure (some (tests ++ guarded ++ body))
    else pure none
  let otherwise ← elseClause
  closeConstruct
  pure (subject ++ clauses.flatten ++ otherwise)

/-- The name of a method, where it is being defined. A name that assigns ends with an equals sign. -/
def definedName : Reader Unit := do
  let rest := (← get).rest
  let name := nameOf rest
  if name.isEmpty then
    match operatorName? rest with
    | some o => advance o.length
    | none => failure
  else do
    advance name.length
    let _ ← accept "="

/-- The name of a method that is being defined, with what it may be defined on: a name, a variable or an
expression in parentheses. -/
def definedHead : Reader (List Node) := do
  blanks false
  if ← accept "(" then do
    blanks true
    let owner ← innerExpression .statement
    blanks true
    expect ")"
    if ← accept "." then pure () else expect "::"
    definedName
    pure [owner]
  else do
    match (← get).rest with
    | '@' :: _ | '$' :: _ => advance (variableLength (← get).rest)
    | _ => definedName
    if ← accept "." then definedName
    else if ← accept "::" then definedName
    else pure ()
    pure []

/-- The parts of the definition of a method, behind its first word. -/
def definition : Reader (List Node) := do
  let owner ← definedHead
  blanks false
  let parameters ← if ← accept "(" then argumentsUntil .brackets ")"
    else if (← ahead endsList) || (← ahead fun cs => cs.head? == some '=') then pure []
    else bareArguments .statement
  blanks false
  if ← accept "=" then do
    blanks true
    let body ← innerCondition .statement
    pure (owner ++ parameters ++ [body])
  else do
    let body ← bodyUntilEnd
    pure (owner ++ parameters ++ body)

/-- The parts of the definition of a class or module, behind its first word. -/
def enclosure : Reader (List Node) := do
  blanks true
  let _ ← accept "<<"
  blanks true
  let head ← innerExpression .statement
  let body ← bodyUntilEnd
  pure (head :: body)

/-- A name in a declaration that lists names: a symbol, a variable, or the name of a method. -/
def listedName : Reader (List Node) := do
  blanks false
  match (← get).rest with
  | ':' :: _ => pure [← symbolLiteral]
  | '$' :: _ => pure [← plainForm .other (variableLength (← get).rest)]
  | _ => do
    definedName
    pure []

/-- The statements between braces that stand alone. -/
def bracedStatements : Reader (List Node) := do
  blanks false
  let block ← braceBlock
  pure block.parts

/-- The arguments of a word that takes some as a call does, with or without parentheses. -/
def wordArguments (ctx : Context) : Reader (List Node) := do
  let behind ← get
  if ← accept "(" then argumentsUntil .brackets ")"
  else do
    blanks false
    let spaced := (← get).rest.length != behind.rest.length
    if (← ahead (startsArgument ctx spaced)) ||
        (spaced && (← ahead fun cs => cs.head? == some '\x7b'))
    then bareArguments ctx.bare
    else do set behind; pure []

/-- The reader of the parts of the construct that a word starts; nothing if it starts none. -/
def construct? (ctx : Context) (word : String) : Option (Reader (List Node)) :=
  match word with
  | "if" | "unless" => some (choice)
  | "while" | "until" => some (conditionLoop)
  | "for" => some (collectionLoop)
  | "case" => some (cases)
  | "begin" => some (bodyUntilEnd)
  | "def" => some (definition)
  | "class" | "module" => some (enclosure)
  | "BEGIN" | "END" => some (bracedStatements)
  | "return" | "break" | "next" | "yield" => some (wordArguments ctx)
  | "defined?" | "not" => some do
    blanks false
    pure [← innerExpression ctx]
  | "alias" => some do
    let first ← listedName
    pure (first ++ (← listedName))
  | "undef" => some do
    let first ← listedName
    let more ← many do
      let before ← get
      blanks false
      if ← accept "," then some <$> listedName
      else do set before; pure none
    pure (first ++ more.flatten)
  | "redo" | "retry" | "self" | "true" | "false" => some (pure [])
  | _ => none

end RouteHelpers.RouteFile
