import RouteHelpers.Terminal.Handler.Token

/-!
Values among the parameters of handlers.

A value is a number, a text, a constant, or a collection of values. What else can be written, such as a
name or a sum, is read too, but is no value. `Shape.ofText` reads a text as a whole: it fails where the
text cannot be read, and `Shape.fault?` tells why what was read is no value.

Faults between brackets are explained: where two expressions follow each other, a comma is missing, and so
on. An explanation is only looked for where reading cannot go on.
-/

namespace RouteHelpers.Terminal.Handler

/-! ### Shapes -/

/-- What an expression is, as far as values are concerned. -/
inductive Shape where
  | number (isImaginary : Bool)
  /-- A number with a sign in front. -/
  | signed (isImaginary : Bool)
  /-- A text or a constant. -/
  | plain
  /-- A collection; one that can change cannot be a key or an element of a set. -/
  | collection (changing : Option String)
  | word (s : String)
  /-- A collection with something in it that it cannot hold. -/
  | faulty (f : Fault)
  | other
  deriving DecidableEq, Repr

namespace Shape

/-- Why an expression is no value. -/
def fault? : Shape → Option Fault
  | word _ | other => some .noValue
  | faulty f => some f
  | _ => none

/-- Why an expression cannot be a key. -/
def keyFault? : Shape → Option Fault
  | collection (some kind) => some (.unhashable kind)
  | _ => none

/-- The shape of a collection in which a fault was found, or of the one given. -/
private def orFault (whole : Shape) : Option Fault → Shape
  | none => whole
  | some f => .faulty f

/-- A collection that cannot change. -/
def tuple (parts : List Shape) : Shape :=
  orFault (.collection (parts.findSome? fun
    | .collection kind => kind
    | _ => none)) (parts.findSome? fault?)

/-- A set. -/
def set (parts : List Shape) : Shape :=
  orFault (.collection (some "set")) (parts.findSome? fun p => p.fault? <|> p.keyFault?)

/-- A mapping. -/
def mapping (pairs : List (Shape × Shape)) : Shape :=
  orFault (.collection (some "dict"))
    (pairs.findSome? fun p => p.1.fault? <|> p.2.fault? <|> p.1.keyFault?)

end Shape

/-! ### Readers -/

/-- What is left of the tokens, and whether a reader has looked behind the last of them. -/
structure Rest where
  tokens : List Token
  sawEnd : Bool

/-- Reads something off tokens. -/
abbrev Reader := ExceptT Fault (StateM Rest)

/-- The fault of a token that cannot stand where it does. -/
private def refuse {α : Type} : Reader α :=
  throw .outOfOrder

/-- The next token. -/
private def next? : Reader (Option Token) := do
  let r ← get
  if r.tokens.isEmpty then set { r with sawEnd := true }
  pure r.tokens.head?

/-- How many tokens are left, and one more. -/
private def leftAndOne : Reader Nat := do
  pure ((← get).tokens.length + 1)

/-- Whether the next token is a mark. -/
private def sees (m : String) : Reader Bool := do
  pure ((← next?) == some (.mark m))

/-- Takes the next token. -/
private def take : Reader Unit :=
  modify fun r => { r with tokens := r.tokens.tail }

/-- Takes a mark or a word if it comes next. -/
private def takes (t : Token) : Reader Bool := do
  if (← next?) == some t then do take; pure true else pure false

/-- The result of a reader; nothing, and the same tokens, if it fails. -/
private def attempt {α : Type} (p : Reader α) : Reader (Option α) := do
  let start ← get
  try some <$> p
  catch _ => do
    modify fun r => { r with tokens := start.tokens }
    pure none

/-- The result of a reader; nothing, and the same tokens, if a token stands where it cannot. -/
private def unlessRefused {α : Type} (p : Reader α) : Reader (Option α) := do
  let start ← get
  try some <$> p
  catch f => do
    if f == .outOfOrder then do
      modify fun r => { r with tokens := start.tokens }
      pure none
    else throw f

/-- Words that are no names. -/
private def keywords : List String :=
  ["and", "as", "assert", "async", "await", "break", "class", "continue", "def", "del", "elif", "else",
    "except", "finally", "for", "from", "global", "if", "import", "in", "is", "lambda", "nonlocal", "not",
    "or", "pass", "raise", "return", "try", "while", "with", "yield"]

/-- Words that are names except at the start of a statement. -/
private def softKeywords : List String :=
  ["_", "case", "match"]

/-- Whether a token starts an operand or an operator in front of one. -/
private def startsOperand : Token → Bool
  | .word s => s == "not" || !keywords.contains s
  | .number _ | .text _ => true
  | .mark m => ["(", "\x7b", "-", "+", "~", "..."].contains m

/-! ### Brackets -/

/-- How the items of a list may be written. -/
private inductive Place where
  | group
  | set
  | call
  deriving DecidableEq

/-- Readers of the expressions that others are made of. -/
structure Inner where
  /-- An expression between brackets. -/
  expression : Reader Shape
  /-- An expression between brackets, without the faults that explain others. -/
  plainExpression : Reader Shape
  /-- An expression at the end of another one. -/
  lastExpression : Reader Shape

/-- Takes the value that may be assigned to a name in a call, and explains other equals signs behind an
expression of a shape; `isOne` tells whether the expression is a single token. -/
private def explainEquals (inner : Inner) (place : Place) (shape : Shape) (isOne : Bool) : Reader Unit := do
  if ← takes (.mark "=") then do
    if place == .call && !isOne then throw .assignedArgument
    let value ← attempt inner.plainExpression
    let goesOn ← if ← sees "=" then pure true else sees ":="
    if value.isNone || goesOn then refuse
    match place, shape, isOne with
    | .call, .word _, _ => pure ()
    | .call, _, _ => throw .assignedArgument
    | _, .word _, true => throw .assignedName
    | _, .number _, _ | _, .plain, true => throw .assignedLiteral
    | _, _, _ => refuse

/-- What an item of a list is. -/
private inductive Item where
  | expression (s : Shape)
  /-- An expression with a star in front, which stands for several items. -/
  | spread
  /-- An expression with a name for its value. -/
  | named
  deriving DecidableEq

/-- The shape of an item. -/
private def Item.shape : Item → Shape
  | .expression s => s
  | _ => .other

/-- An item of a list in brackets. -/
private def item (inner : Inner) (place : Place) : Reader Item := do
  let isSpread ← if ← takes (.mark "*") then pure true
    else if place == .call then takes (.mark "**")
    else pure false
  if isSpread then do
    let _ ← inner.expression
    pure .spread
  else do
    let before ← leftAndOne
    let shape ← inner.expression
    let isOne := before == (← leftAndOne) + 1
    explainEquals inner place shape isOne
    if ← takes (.mark ":=") then
      match shape, isOne with
      | .word _, true => do
        let _ ← inner.expression
        pure .named
      | _, _ => refuse
    else pure (.expression shape)

/-- The items of a list up to a closing bracket, which is taken too, and whether a comma stands among
them; `fuel` bounds their number. -/
private def itemsUntil (inner : Inner) (place : Place) (closing : String) :
    Nat → Reader (List Item × Bool)
  | 0 => refuse
  | fuel + 1 => do
    if ← takes (.mark closing) then pure ([], false)
    else do
      let first ← item inner place
      if ← takes (.mark ",") then do
        let (more, _) ← itemsUntil inner place closing fuel
        pure (first :: more, true)
      else if ← takes (.mark closing) then pure ([first], false)
      else refuse

/-- What stands in parentheses, of which the first has been taken. -/
private def group (inner : Inner) : Reader Shape := do
  if ← takes (.mark "**") then do
    let _ ← inner.expression
    if ← sees ")" then throw .loneStars else refuse
  else do
    let (items, hasComma) ← itemsUntil inner .group ")" (← leftAndOne)
    match items, hasComma with
    | [.spread], false => throw .loneStar
    | [i], false => pure i.shape
    | _, _ => pure (.tuple (items.map Item.shape))

/-- The pairs of a mapping behind its first, up to the closing bracket, which is taken too; `fuel` bounds
their number. -/
private def pairsFrom (inner : Inner) : Nat → Reader (List (Shape × Shape))
  | 0 => refuse
  | fuel + 1 => do
    if ← takes (.mark "\x7d") then pure []
    else if ← takes (.mark ",") then do
      if ← takes (.mark "\x7d") then pure []
      else if ← takes (.mark "**") then do
        let _ ← inner.expression
        let more ← pairsFrom inner fuel
        pure ((.faulty .noKey, .other) :: more)
      else do
        let key ← inner.expression
        if ← takes (.mark ":") then do
          let value ← valueOf
          let more ← pairsFrom inner fuel
          pure ((key, value) :: more)
        else throw .missingColon
    else refuse
where
  /-- The value behind the colon of a pair. -/
  valueOf : Reader Shape := do
    if ← sees "\x7d" then throw .missingValue
    else if ← sees "," then throw .missingValue
    else inner.expression

/-- What stands in braces, of which the first has been taken. -/
private def braced (inner : Inner) : Reader Shape := do
  let fuel ← leftAndOne
  if ← takes (.mark "\x7d") then pure (.mapping [])
  else if ← takes (.mark "**") then do
    let _ ← inner.expression
    let more ← pairsFrom inner fuel
    pure (.mapping ((.faulty .noKey, .other) :: more))
  else do
    let first ← item inner .set
    let isKey ← match first with
      | .expression _ => takes (.mark ":")
      | _ => pure false
    if isKey then do
      let value ← pairsFrom.valueOf inner
      let more ← pairsFrom inner fuel
      pure (.mapping ((first.shape, value) :: more))
    else if ← takes (.mark ",") then do
      let (items, _) ← itemsUntil inner .set "\x7d" fuel
      pure (.set ((first :: items).map Item.shape))
    else if ← takes (.mark "\x7d") then pure (.set [first.shape])
    else refuse

/-! ### Operands -/

/-- The texts in a row that come next, which are all of characters or all of octets, as the first of
them was; `fuel` bounds their number. -/
private def textsFrom (isOctets : Bool) : Nat → Reader Unit
  | 0 => pure ()
  | fuel + 1 => do
    match ← next? with
    | some (.text other) => do
      take
      textsFrom isOctets fuel
      if other != isOctets then throw .mixedTexts
    | _ => pure ()

/-- An operand without what follows it. -/
private def atom (inner : Inner) : Reader Shape := do
  match ← next? with
  | some (.number i) => do take; pure (.number i)
  | some (.text isOctets) => do
    textsFrom isOctets (← leftAndOne)
    pure .plain
  | some (.word s) =>
    if ["True", "False", "None"].contains s then do take; pure .plain
    else if keywords.contains s then refuse
    else do take; pure (.word s)
  | some (.mark "(") => do take; group inner
  | some (.mark "\x7b") => do take; braced inner
  | some (.mark "...") => do take; pure .plain
  | _ => refuse

/-- An operand with the attributes and calls that follow it; `fuel` bounds their number. -/
private def follow (inner : Inner) : Nat → Shape → Reader Shape
  | 0, shape => pure shape
  | fuel + 1, shape => do
    if ← takes (.mark ".") then do
      match ← next? with
      | some (.word s) =>
        if keywords.contains s then refuse
        else do take; follow inner fuel .other
      | _ => refuse
    else if ← takes (.mark "(") then do
      let (items, _) ← itemsUntil inner .call ")" (← leftAndOne)
      let isEmptySet := shape == .word "set" && items.isEmpty
      follow inner fuel (if isEmptySet then .set [] else .other)
    else pure shape

/-- An operand with the operators in front of it; `fuel` bounds their number. -/
private def operand (inner : Inner) : Nat → Bool → Reader Shape
  | 0, _ => refuse
  | fuel + 1, mayNegate => do
    match ← next? with
    | some (.word "not") =>
      if mayNegate then do
        take
        let _ ← operand inner fuel true
        pure .other
      else refuse
    | some (.mark m) =>
      if m == "+" || m == "-" || m == "~" then do
        take
        match m, ← operand inner fuel false with
        | "+", .number i | "-", .number i => pure (.signed i)
        | _, _ => pure .other
      else do follow inner (fuel + 1) (← atom inner)
    | _ => do follow inner (fuel + 1) (← atom inner)

/-! ### Expressions -/

/-- Takes the operator between two operands that comes next, if one does, and gives it. -/
private def operator? : Reader (Option String) := do
  match ← next? with
  | some (.word s) =>
    if s == "not" then do
      let start ← get
      take
      if ← takes (.word "in") then pure (some "not in") else do set start; pure none
    else if s == "is" then do
      take
      let _ ← takes (.word "not")
      pure (some s)
    else if ["and", "or", "in"].contains s then do take; pure (some s)
    else pure none
  | some (.mark m) =>
    if ["+", "-", "*", "/", "//", "%", "@", "**", "<<", ">>", "&", "|", "^", "<", ">", "<=", ">=", "==",
        "!="].contains m then do take; pure (some m)
    else pure none
  | _ => pure none

/-- What follows the first operand of an expression: operators and operands, as far as they can be read;
`fuel` bounds their number. -/
private def operations (inner : Inner) : Nat → Reader (List (String × Shape))
  | 0 => refuse
  | fuel + 1 => do
    let next ← unlessRefused do
      match ← operator? with
      | none => refuse
      | some o => do
        let shape ← operand inner (← leftAndOne) (o == "and" || o == "or")
        pure (o, shape)
    match next with
    | none => pure []
    | some operation => do pure (operation :: (← operations inner fuel))

/-- Operands between operators. The sum of a number and an imaginary one is a value. -/
private def disjunction (inner : Inner) : Reader Shape := do
  let fuel ← leftAndOne
  let first ← operand inner fuel true
  match first, ← operations inner fuel with
  | shape, [] => pure shape
  | .number false, [(o, .number true)] | .signed false, [(o, .number true)] =>
    pure (if o == "+" || o == "-" then .plain else .other)
  | _, _ => pure .other

/-- How an expression is read. -/
structure Mode where
  /-- Whether faults are explained. -/
  explains : Bool
  /-- Whether brackets are open. -/
  inBrackets : Bool

/-- Whether an expression that starts with some tokens may lack a comma behind it. -/
private def mayLackComma : List Token → Bool
  | .word s :: .text _ :: _ => keywords.contains s
  | .word s :: _ => !softKeywords.contains s
  | _ => true

/-- The rest of a choice by a condition, behind its first word. -/
private def choiceTail (inner : Inner) (explains : Bool) : Reader Unit := do
  let _ ← disjunction inner
  if ← takes (.word "else") then do
    let _ ← inner.lastExpression
  else if explains && !(← sees ":") then throw .missingElse
  else refuse

/-- A choice between two expressions by a third, or one expression. -/
private def choice (inner : Inner) (mode : Mode) : Reader Shape := do
  let start ← get
  let shape ← disjunction inner
  if (← next?) == some (.word "if") then do
    match ← unlessRefused (do take; choiceTail inner mode.explains) with
    | some () => pure .other
    | none => pure shape
  else if mode.explains && mayLackComma start.tokens && (← next?).any startsOperand then do
    let more ← attempt inner.plainExpression
    if mode.inBrackets && more.isSome then throw .missingComma else refuse
  else pure shape

/-- An expression; `fuel` bounds how deep others stand in it. -/
private def expressionIn : Nat → Mode → Reader Shape
  | 0, _ => refuse
  | fuel + 1, mode =>
    choice ⟨expressionIn fuel ⟨mode.explains, true⟩, expressionIn fuel ⟨false, true⟩,
      expressionIn fuel mode⟩ mode

/-- The expressions behind an expression, each behind a comma, that are all there is; `fuel` bounds their
number. -/
private def moreToEnd (depth : Nat) : Nat → Reader (Option (List Shape))
  | 0 => refuse
  | fuel + 1 => do
    if (← next?).isNone then pure none
    else if ← takes (.mark ",") then do
      if (← next?).isNone then pure (some [])
      else do
        let s ← expressionIn depth ⟨true, false⟩
        let more ← moreToEnd depth fuel
        pure (some (s :: more.getD []))
    else refuse

/-- All that there is: an expression, or several between commas. -/
private def whole : Reader Shape := do
  let fuel ← leftAndOne
  let first ← expressionIn fuel ⟨true, false⟩
  match ← moreToEnd fuel fuel with
  | none => pure first
  | some more => pure (.tuple (first :: more))

/-- What a text is as a whole. -/
def Shape.ofText (cs : List Char) : Except Fault Shape := do
  let ts ← Tokens.ofText cs
  match whole.run.run ⟨ts.tokens, false⟩, ts.ending with
  | (_, ⟨_, true⟩), some f => .error f
  | (r, _), _ => r

end RouteHelpers.Terminal.Handler
