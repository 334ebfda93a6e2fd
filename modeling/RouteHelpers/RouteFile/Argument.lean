import RouteHelpers.RouteFile.Literal

/-!
Lists of arguments.

An argument is an expression or a pair. Between brackets, line ends mean nothing, comments are items of
the list, and words can join expressions to one argument; a list without brackets ends where nothing
that is an argument follows.
-/

namespace RouteHelpers.RouteFile

/-! ### Words -/

/-- Words that start no expression: they close a construct, continue one, or join two. -/
def joiningWords : List String :=
  ["and", "or", "then", "do", "end", "else", "elsif", "when", "in", "rescue", "ensure"]

/-- Words that follow a statement and start another expression only where no statement precedes. -/
def modifierWords : List String :=
  ["if", "unless", "while", "until"]

/-- Words that open a construct which a word closes. -/
def openingWords : List String :=
  ["begin", "case", "class", "def", "for", "module"]

/-- Whether a text starts with one of several words. -/
def startsWithOneOf (words : List String) (cs : List Char) : Bool :=
  words.contains (String.ofList (nameOf cs))

/-- Whether a text starts with the colon of a label. -/
def startsLabelColon : List Char → Bool
  | ':' :: ':' :: _ => false
  | ':' :: _ => true
  | _ => false

/-- Whether nothing that is an expression can follow: a list or a statement ends here. -/
def endsList (cs : List Char) : Bool :=
  match cs with
  | [] => true
  | c :: _ => ",;)]\x7d|\n".toList.contains c || startsWithOneOf joiningWords cs

/-! ### One argument -/

/-- A pair behind its key, of which the mark has been taken. The value may be left out behind a
colon; in a pattern it may be followed by an arrow and a name. -/
def pairBehind (ctx : Context) (start : Cursor) (key : Node) (optional : Bool) :
    Reader Node := do
  let mark ← get
  blanks true
  if optional && (← ahead endsList) then do
    set mark
    close start .pair [key]
  else do
    let valueStart ← get
    let value ← innerExpression ctx
    let behind ← get
    passToOperator ctx.lines
    if ← accept "=>" then do
      blanks true
      let name ← innerExpression ctx
      let value ← close valueStart .other [value, name]
      close start .pair [key, value]
    else do
      set behind
      close start .pair [key, value]

/-- An argument: an expression or a pair. -/
def argument (ctx : Context) : Reader Node := do
  let start ← get
  let name := nameOf start.rest
  if !name.isEmpty && startsLabelColon (start.rest.drop name.length) then do
    let key ← plainForm .label name.length
    advance 1
    pairBehind ctx start key true
  else do
    let e ← if ctx.commaTaken then innerCondition ctx else innerExpression ctx
    if e.isString && (← ahead startsLabelColon) then do
      advance 1
      pairBehind ctx start e true
    else do
      let behind ← get
      passToOperator ctx.lines
      if ← accept "=>" then pairBehind ctx start e false
      else do set behind; pure e

/-! ### Lists -/

/-- The arguments up to a closing bracket, which is taken too, with what stands between them.
Semicolons separate like commas. -/
def argumentsUntil (ctx : Context) (closing : String) : Reader (List Node) := do
  let start ← get
  let items ← many do
    blanks true
    let found ← takeAsides start
    if !found.isEmpty then pure (some found)
    else if ← accept closing then pure none
    else if ← accept "," then pure (some [])
    else if ← accept ";" then pure (some [])
    else do
      let a ← argument ctx
      pure (some [a])
  pure items.flatten

/-- One or more arguments between commas, without brackets. -/
def bareArguments (ctx : Context) : Reader (List Node) := do
  let first ← argument ctx
  let more ← many do
    let before ← get
    passToOperator ctx.lines
    if ← accept "," then do
      blanks true
      some <$> argument ctx
    else do set before; pure none
  pure (first :: more)

/-! ### The first argument -/

/-- Whether a text starts with a character literal that no choice can be meant by: a name does not go
on behind the character, and no colon follows. -/
def startsCharacter : List Char → Bool
  | '?' :: c :: rest =>
    let behind := (c :: rest).drop (characterLength (c :: rest))
    let next := behind.dropWhile fun d => d == ' ' || d == '\t'
    !Text.isBlank c && !behind.head?.any isNameChar && !startsLabelColon next
  | _ => false

/-- Whether a text can start the first argument of a call without parentheses; `spaced` tells
whether blanks precede it. -/
def startsArgument (ctx : Context) (spaced : Bool) (cs : List Char) : Bool :=
  match cs with
  | '"' :: _ | '\'' :: _ => true
  | [] => false
  | ':' :: rest =>
    match rest with
    | ':' :: _ => spaced
    | _ => !ctx.colonTaken && (startsQuoted rest || symbolLength rest != 0)
  | c :: rest =>
    let next := rest.head?
    let nextIsBlank := next.all Text.isBlank
    spaced && (
      if startsName c then
        startsLabelColon (cs.drop (nameOf cs).length) ||
          !startsWithOneOf joiningWords cs && !startsWithOneOf modifierWords cs
      else if c.isDigit || "@$\x60[(~".toList.contains c then true
      else if c == '-' then !nextIsBlank && next != some '='
      else if c == '*' then
        let behind := if next == some '*' then rest.tail.head? else next
        !behind.all Text.isBlank && behind != some '='
      else if c == '&' then !nextIsBlank && next != some '=' && next != some '&' && next != some '.'
      else if c == '!' then next != some '=' && next != some '~'
      else if c == '/' then !nextIsBlank && next != some '='
      else if c == '%' then startsPercent cs
      else if c == '<' then startsHeredoc cs
      else startsCharacter cs)

end RouteHelpers.RouteFile
