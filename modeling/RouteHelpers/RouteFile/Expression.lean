import RouteHelpers.RouteFile.Construct

/-!
Expressions.

An operand is a literal, a name, a bracketed list or a construct, with the calls and subscripts that
follow it. An expression is a chain of operands between operators. The chain is kept flat: calls are
looked for in it from left to right, and for that it does not matter how tightly operators bind.
-/

namespace RouteHelpers.RouteFile

/-! ### Calls -/

/-- Whether a name is that of a constant. -/
def isConstantName (name : List Char) : Bool :=
  name.head?.any Char.isUpper

/-- What follows the name of a method: arguments and a block. A name without either is a call only if
`isCall` is set; otherwise it is a form with the given parts. -/
def callTail (ctx : Context) (start : Cursor) (method : String) (isCall : Bool)
    (parts : List Node) : Reader Node := do
  let behind ← get
  let finish (args : List Node) : Reader Node := do
    let block ← block? ctx
    closeCall start method args (block.map Block.body)
  if ← accept "(" then finish (← argumentsUntil .brackets ")")
  else do
    blanks false
    let spaced := (← get).rest.length != behind.rest.length
    if ← ahead (startsArgument ctx spaced) then finish (← bareArguments ctx.takingDo.bare)
    else do
      set behind
      match ← block? ctx with
      | some block => closeCall start method [] (some block.body)
      | none => if isCall then closeCall start method [] none else close start .other parts

/-- What follows an operand that is used without the name of a method: arguments and a block. All of it
is gone through like the parts of any form. -/
def namelessTail (ctx : Context) (start : Cursor) (operand : Node) (args : List Node) :
    Reader Node := do
  let block ← block? ctx
  close start .other (operand :: args ++ (block.map Block.parts).getD [])

/-- The call behind the point that follows a receiver. A point without a name calls the receiver
itself, which is no call of a method. -/
def callBehindPoint (ctx : Context) (start : Cursor) (receiver : Node) : Reader Node := do
  blanks true
  let rest := (← get).rest
  let name := nameOf rest
  if !name.isEmpty then do
    advance name.length
    callTail ctx start (String.ofList name) true [receiver]
  else if ← accept "(" then do
    let args ← argumentsUntil .brackets ")"
    namelessTail ctx start receiver args
  else
    match operatorName? rest with
    | some o => do
      advance o.length
      callTail ctx start o true [receiver]
    | none => failure

/-- The next call or subscript that follows an operand. -/
def follow? (ctx : Context) (start : Cursor) (node : Node) : Reader (Option Node) := do
  let behind ← get
  match behind.rest with
  | '[' :: _ => do
    advance 1
    let args ← argumentsUntil .brackets "]"
    some <$> namelessTail ctx start node args
  | ':' :: ':' :: _ => do
    advance 2
    blanks true
    let name := nameOf (← get).rest
    if name.isEmpty then some <$> callBehindPoint ctx start node
    else do
      advance name.length
      some <$> callTail ctx start (String.ofList name) (!isConstantName name) [node]
  | _ => do
    passToOperator ctx.lines
    let rest := (← get).rest
    if startsCall rest then do
      advance (if rest.head? == some '&' then 2 else 1)
      some <$> callBehindPoint ctx start node
    else do set behind; pure none

/-- An operand with the calls and subscripts that follow it; `fuel` bounds their number. -/
def followAll (ctx : Context) (start : Cursor) : Nat → Node → Reader Node
  | 0, node => pure node
  | fuel + 1, node => do
    match ← follow? ctx start node with
    | none => pure node
    | some node => followAll ctx start fuel node

/-! ### Operands -/

/-- A function literal: its parameters and its body. -/
def functionLiteral : Reader Node :=
  formOf .other do
    advance 2
    blanks false
    let parameters ← if ← accept "(" then argumentsUntil .brackets ")"
      else do
        let opensBody (cs : List Char) : Bool := cs.head? == some '\x7b' || startsWithWord "do" cs
        let _ ← many do
          let rest := (← get).rest
          if opensBody rest || rest.isEmpty then pure none
          else do
            advance (max 1 (nameOf rest).length)
            pure (some ())
        pure []
    blanks true
    let block ← if ← ahead (startsWithWord "do") then doBlock else braceBlock
    pure (parameters ++ block.parts)

/-- An operand that starts with a word. -/
def wordOperand (ctx : Context) : Reader Node := do
  let start ← get
  let name := nameOf start.rest
  let word := String.ofList name
  if joiningWords.contains word then failure
  else if word == "nil" then plainForm .nil name.length
  else
    match construct? ctx word with
    | some parts => formOf .other do advance name.length; parts
    | none => do
      advance name.length
      callTail ctx start word (name.getLast?.any fun c => c == '?' || c == '!') []

/-- Statements in parentheses; commas may stand between them. -/
def parenthesized : Reader Node :=
  formOf .other do
    expect "("
    let groups ← many do
      blanks true
      if ← accept ")" then pure none
      else if ← accept "," then pure (some [])
      else do
        let before := (← get).rest.length
        let statements ← innerStatements
        if (← get).rest.length == before then failure else pure (some statements)
    pure groups.flatten

/-- An operand without what precedes or follows it. -/
def plainOperand (ctx : Context) : Reader Node := do
  let rest := (← get).rest
  match rest with
  | [] => failure
  | c :: more =>
    if startsName c then wordOperand ctx
    else if c.isDigit then plainForm .other (numberLength rest)
    else
      match c with
      | '"' | '\'' => stringLiteral c
      | '\x60' => delimited 1 ⟨c, c, true, false⟩
      | '/' => patternLiteral 1 ⟨c, c, true, false⟩
      | '%' => if startsPercent rest then percentLiteral else failure
      | '@' | '$' => plainForm .other (variableLength rest)
      | '?' => plainForm .other (1 + characterLength more)
      | '(' => parenthesized
      | '[' => formOf .array do advance 1; argumentsUntil .brackets "]"
      | '\x7b' => formOf .hash do advance 1; argumentsUntil .brackets "\x7d"
      | '<' => heredoc
      | '-' => if more.head? == some '>' then functionLiteral else failure
      | ':' =>
        match more with
        | ':' :: _ => do
          let start ← get
          advance 2
          let name := nameOf (← get).rest
          if name.isEmpty then failure
          else do
            advance name.length
            callTail ctx start (String.ofList name) false []
        | _ => symbolLiteral
      | _ => failure

/-- The length of the operator that stands in front of an operand, if the text starts with one. -/
def unaryLength? : List Char → Option Nat
  | '-' :: '>' :: _ => none
  | '.' :: '.' :: '.' :: _ => some 3
  | '.' :: '.' :: _ => some 2
  | '*' :: '*' :: _ => some 2
  | c :: _ => if "!~-+*&^".toList.contains c then some 1 else none
  | [] => none

/-- Whether what follows an operator leaves it without an operand: the end of a list, or an
assignment. -/
def standsAlone (cs : List Char) : Bool :=
  endsList cs ||
    match cs.dropWhile fun c => c == ' ' || c == '\t' with
    | '=' :: c :: _ => c != '=' && c != '~' && c != '>'
    | _ => false

/-- An operand with the operators in front of it and with what follows it. An operator may stand
alone where a list ends, and in front of an assignment. -/
def operand (ctx : Context) : Reader Node := do
  let start ← get
  let operators ← many do
    match unaryLength? (← get).rest with
    | none => pure none
    | some n => do advance n; pure (some ())
  if !operators.isEmpty && (← ahead standsAlone) then
    close start .other []
  else do
    if operators.isEmpty then pure () else blanks false
    let inner ← get
    let node ← followAll ctx inner (inner.rest.length + 1) (← plainOperand ctx)
    if operators.isEmpty then pure node
    else close start .other [node]

/-! ### Operators -/

/-- Operators between two operands, longer ones first. -/
def infixOperators : List String :=
  ["**=", "<<=", ">>=", "&&=", "||=", "<=>", "===", "...", "**", "*=", "/=", "%=", "+=", "-=", "<=",
    "<<", ">=", ">>", "==", "=~", "!=", "!~", "&&", "&=", "||", "|=", "^=", "..", "*", "/", "%", "+",
    "-", "<", ">", "=", "&", "|", "^"]

/-- The operator between two operands that a text starts with. -/
def infixOperator? (ctx : Context) (cs : List Char) : Option String :=
  if "=>".toList.isPrefixOf cs || "&.".toList.isPrefixOf cs then none
  else
    match infixOperators.find? fun o => o.toList.isPrefixOf cs with
    | some o => if ctx.barTaken && cs.head? == some '|' then none else some o
    | none => none

/-- Whether an operator assigns. -/
def assigns (operator : String) : Bool :=
  let compares := ["<=", ">=", "==", "===", "!="].contains operator
  Text.endsWith "=" operator && !compares

/-- Whether nothing that ends a range can follow. -/
def endsRange (cs : List Char) : Bool :=
  endsList cs || startsWithOneOf modifierWords cs || "=>".toList.isPrefixOf cs

/-- What follows an operand: an operator and the operands behind it, and whether the operator assigns.
A range may lack its end. -/
def operation? (ctx : Context) : Reader (Option (Bool × List Node)) := do
  let behind ← get
  passToOperator ctx.lines
  match (← get).rest with
  | '?' :: _ => do
    advance 1
    blanks true
    let yes ← innerExpression { ctx with colonTaken := true }
    blanks true
    expect ":"
    blanks true
    let no ← innerExpression ctx
    pure (some (false, [yes, no]))
  | rest =>
    match infixOperator? ctx rest with
    | none => do set behind; pure none
    | some o => do
      advance o.length
      let stop ← get
      blanks false
      if Text.startsWith ".." o && (← ahead endsRange) then do set stop; pure (some (false, []))
      else do
        blanks true
        let node ← operand ctx
        pure (some (assigns o, [node]))

/-- What stands for a value that cannot be assigned. -/
def handler? (ctx : Context) : Reader (List Node) := do
  let behind ← get
  passToOperator ctx.lines
  if ← acceptWord "rescue" then do
    blanks true
    pure [← innerExpression ctx]
  else do set behind; pure []

/-- Several parts as one form; a single one is itself. -/
def chain (start : Cursor) (parts : List Node) (isOne : Bool) : Reader Node := do
  match parts, isOne with
  | [node], true => pure node
  | _, _ => close start .other parts

/-- An expression that can be an argument. -/
def expression (ctx : Context) : Reader Node := do
  let start ← get
  let first ← operand ctx
  let more ← many (operation? ctx)
  let handled ← if more.any (·.1) then handler? ctx else pure []
  chain start (first :: more.flatMap (·.2) ++ handled) more.isEmpty

end RouteHelpers.RouteFile
