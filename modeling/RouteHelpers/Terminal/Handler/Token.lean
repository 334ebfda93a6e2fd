import RouteHelpers.Text.Character
import RouteHelpers.Text.Hex

/-!
Tokens of the parameters of handlers, and what can be wrong with parameters.

Tokens are words, numbers, texts between quotes, and marks. A fault of a token counts before any fault of
order, wherever it stands; what breaks off the tokens, such as a bracket that stays open, counts only
where a reader gets to the end. So `Tokens` keeps the second kind and `Tokens.ofText` fails with the first.
-/

namespace RouteHelpers.Terminal.Handler

/-! ### Faults -/

/-- Why parameters cannot be read. -/
inductive Fault where
  | openText (line : Nat)
  | openLongText (line : Nat)
  | unopened (closing : Char)
  | mismatched (closing opening : Char)
  | unclosed (opening : Char)
  | badNumber (sort : String)
  | badDigit (digit : Char) (sort : String)
  | leadingZeros
  | strayBackslash
  | badCharacter (c : Char)
  | missingComma
  | missingElse
  | missingColon
  | missingValue
  | loneStar
  | loneStars
  | mixedTexts
  /-- A name is assigned to. -/
  | assignedName
  /-- A number or a text is assigned to. -/
  | assignedLiteral
  /-- Something that is no name is assigned to, in a call. -/
  | assignedArgument
  /-- A token stands where it cannot. -/
  | outOfOrder
  /-- A collection stands where only fixed values can. -/
  | unhashable (kind : String)
  /-- What can be read is no value. -/
  | noValue
  /-- A mapping stands for its pairs where only values can. -/
  | noKey
  deriving DecidableEq, Repr

/-- What a reader is told about a fault. -/
def Fault.message : Fault → String
  | openText line => "unterminated string literal (detected at line " ++ toString line ++ ")"
  | openLongText line =>
    "unterminated triple-quoted string literal (detected at line " ++ toString line ++ ")"
  | unopened c => "unmatched '" ++ c.toString ++ "'"
  | mismatched c o =>
    "closing parenthesis '" ++ c.toString ++ "' does not match opening parenthesis '" ++ o.toString ++
      "'"
  | unclosed o => "'" ++ o.toString ++ "' was never closed"
  | badNumber sort => "invalid " ++ sort ++ " literal"
  | badDigit d sort => "invalid digit '" ++ d.toString ++ "' in " ++ sort ++ " literal"
  | leadingZeros =>
    "leading zeros in decimal integer literals are not permitted; use an 0o prefix for octal integers"
  | strayBackslash => "unexpected character after line continuation character"
  | badCharacter c =>
    let n := c.toNat
    let width := if n < 0x10000 then 4 else if n < 0x100000 then 5 else 6
    let code := String.ofList (Text.hexUpper width n)
    if Text.isPrintable c then "invalid character '" ++ c.toString ++ "' (U+" ++ code ++ ")"
    else "invalid non-printable character U+" ++ code
  | missingComma => "invalid syntax. Perhaps you forgot a comma?"
  | missingElse => "expected 'else' after 'if' expression"
  | missingColon => "':' expected after dictionary key"
  | missingValue => "expression expected after dictionary key and ':'"
  | loneStar => "cannot use starred expression here"
  | loneStars => "cannot use double starred expression here"
  | mixedTexts => "cannot mix bytes and nonbytes literals"
  | assignedName => "invalid syntax. Maybe you meant '==' or ':=' instead of '='?"
  | assignedLiteral => "cannot assign to literal here. Maybe you meant '==' instead of '='?"
  | assignedArgument => "expression cannot contain assignment, perhaps you meant \"==\"?"
  | outOfOrder => "invalid syntax"
  | unhashable kind => "unhashable type: '" ++ kind ++ "'"
  | noValue => "malformed node or string"
  | noKey => "malformed node or string: None"

/-- Whether a fault is one of what the parameters mean, not of how they are written. -/
def Fault.isOfMeaning : Fault → Bool
  | unhashable _ | noValue | noKey => true
  | _ => false

/-! ### Tokens -/

/-- A token of parameters. -/
inductive Token where
  | word (s : String)
  | number (isImaginary : Bool)
  | text (isOctets : Bool)
  /-- A bracket, an operator, or a character that is neither. -/
  | mark (s : String)
  deriving DecidableEq, Repr

/-- Marks of several characters, longer ones first. -/
def longMarks : List String :=
  ["**=", "//=", ">>=", "<<=", "...", "**", "//", ">>", "<<", "<=", ">=", "==", "!=", "->", "+=", "-=",
    "*=", "/=", "%=", "&=", "|=", "^=", "@=", ":=", "<>"]

/-- What is left of a number behind a digit: single underscores may stand between digits. -/
private def afterDigits (isDigit : Char → Bool) (sort : String) : List Char → Except Fault (List Char)
  | '_' :: c :: rest => if isDigit c then afterDigits isDigit sort rest else .error (.badNumber sort)
  | ['_'] => .error (.badNumber sort)
  | c :: rest => if isDigit c then afterDigits isDigit sort rest else .ok (c :: rest)
  | [] => .ok []

/-- Words that may follow a number at once. -/
private def joiningWords : List String :=
  ["and", "else", "for", "if", "in", "is", "or", "not"]

/-- Checks that a number ends where the rest starts. -/
private def checkEnd (sort : String) (rest : List Char) : Except Fault Unit :=
  if joiningWords.any fun w => w.toList.isPrefixOf rest then .ok ()
  else
    match rest with
    | c :: _ => if c == '_' || c.isAlphanum then .error (.badNumber sort) else .ok ()
    | [] => .ok ()

/-- A number with a sign for its base, behind that sign. -/
private def basedNumber (isDigit : Char → Bool) (sort : String) (cs : List Char) :
    Except Fault (List Char) := do
  let start := match cs with
    | '_' :: rest => rest
    | _ => cs
  match start with
  | c :: rest =>
    if !isDigit c then
      .error (if c.isDigit then .badDigit c sort else .badNumber sort)
    else do
      let rest ← afterDigits isDigit sort rest
      match rest with
      | d :: _ => if d.isDigit then throw (.badDigit d sort)
      | [] => pure ()
      checkEnd sort rest
      pure rest
  | [] => .error (.badNumber sort)

/-- What is left behind the fraction that a number may have. -/
private def afterFraction (cs : List Char) : Except Fault (List Char) :=
  match cs with
  | '.' :: c :: rest =>
    if c.isDigit then afterDigits Char.isDigit "decimal" rest else .ok (c :: rest)
  | ['.'] => .ok []
  | _ => .ok cs

/-- What is left behind the exponent that a number may have. -/
private def afterExponent (cs : List Char) : Except Fault (List Char) :=
  match cs with
  | e :: c :: rest =>
    if e != 'e' && e != 'E' then .ok cs
    else if c.isDigit then afterDigits Char.isDigit "decimal" rest
    else
      match rest with
      | d :: rest =>
        if (c == '+' || c == '-') && d.isDigit then afterDigits Char.isDigit "decimal" rest else .ok cs
      | [] => .ok cs
  | _ => .ok cs

/-- The number that a text starts with, and the rest. -/
private def number (cs : List Char) : Except Fault (Token × List Char) := do
  let based (isDigit : Char → Bool) (sort : String) (rest : List Char) := do
    pure (Token.number false, ← basedNumber isDigit sort rest)
  match cs with
  | '0' :: 'x' :: rest | '0' :: 'X' :: rest => based (fun c => (Text.hexValue? c).isSome) "hexadecimal" rest
  | '0' :: 'o' :: rest | '0' :: 'O' :: rest => based (fun c => '0' ≤ c && c ≤ '7') "octal" rest
  | '0' :: 'b' :: rest | '0' :: 'B' :: rest => based (fun c => c == '0' || c == '1') "binary" rest
  | _ =>
    let behind ← match cs with
      | c :: rest => if c.isDigit then afterDigits Char.isDigit "decimal" rest else .ok cs
      | [] => .ok []
    let whole := cs.take (cs.length - behind.length)
    let rest ← afterExponent (← afterFraction behind)
    match rest with
    | j :: rest' =>
      if j == 'j' || j == 'J' then do
        checkEnd "imaginary" rest'
        return (.number true, rest')
    | [] => pure ()
    if rest.length == behind.length && whole.head? == some '0' &&
        whole.any (fun c => c != '0' && c != '_') then
      throw .leadingZeros
    checkEnd "decimal" rest
    pure (.number false, rest)

/-- What is left behind a text between quotes, of which the opening quote has been taken; nothing if it
is not closed. -/
private def afterQuote? (quote : Char) : List Char → Option (List Char)
  | [] | '\n' :: _ | ['\\'] => none
  | '\\' :: _ :: rest => afterQuote? quote rest
  | c :: rest => if c == quote then some rest else afterQuote? quote rest

/-- What is left behind a text between three quotes on each side. -/
private def afterThreeQuotes? (quote : Char) : List Char → Option (List Char)
  | [] | ['\\'] => none
  | '\\' :: _ :: rest => afterThreeQuotes? quote rest
  | c :: rest =>
    if [quote, quote, quote].isPrefixOf (c :: rest) then some (rest.drop 2)
    else afterThreeQuotes? quote rest

/-- Letters that may stand in front of a quote. -/
private def isTextSign (word : List Char) : Bool :=
  ["r", "b", "u", "f", "br", "rb", "fr", "rf"].contains (String.ofList (word.map Char.toLower))

/-- What is left behind the text between quotes that a text starts with, on a line. -/
private def afterText (line : Nat) (cs : List Char) : Except Fault (List Char) :=
  match cs with
  | [] => .error .outOfOrder
  | q :: rest =>
    if [q, q].isPrefixOf rest then
      match afterThreeQuotes? q (rest.drop 2) with
      | some rest => .ok rest
      | none => .error (.openLongText (line + cs.count '\n'))
    else
      match afterQuote? q rest with
      | some rest => .ok rest
      | none => .error (.openText line)

/-- The bracket that closes what another opens. -/
private def closingOf : Char → Char
  | '(' => ')'
  | '[' => ']'
  | c => if c == '\x7b' then '\x7d' else c

/-- Tokens, and why there are no more, if something is missing. -/
structure Tokens where
  tokens : List Token
  ending : Option Fault

/-- The tokens of a text that starts on a line, with brackets open; `fuel` bounds the characters. -/
private def tokensFrom : Nat → Nat → List Char → List Char → Except Fault Tokens
  | 0, _, opened, _ | _, _, opened, [] => .ok ⟨[], opened.head?.map .unclosed⟩
  | fuel + 1, line, opened, c :: rest => do
    let cs := c :: rest
    let word := cs.takeWhile Text.continuesIdentifier
    let behind := cs.drop word.length
    let behindIsQuote := behind.head? == some '"' || behind.head? == some '\''
    let before (t : Token) (more : Tokens) : Tokens := { more with tokens := t :: more.tokens }
    let goOn (t : Token) (rest : List Char) : Except Fault Tokens := do
      let taken := (cs.take (cs.length - rest.length)).count '\n'
      .ok (before t (← tokensFrom fuel (line + taken) opened rest))
    if c == '\n' then
      if opened.isEmpty then goOn (.mark "\n") rest else tokensFrom fuel (line + 1) opened rest
    else if c == ' ' || c == '\t' || c == '\x0c' then tokensFrom fuel line opened rest
    else if c == '#' then tokensFrom fuel line opened (rest.dropWhile (· != '\n'))
    else if c == '"' || c == '\'' then do
      goOn (.text false) (← afterText line cs)
    else if isTextSign word && behindIsQuote then do
      goOn (.text (word.contains 'b' || word.contains 'B')) (← afterText line behind)
    else if c.isDigit || (c == '.' && rest.head?.any Char.isDigit) then do
      let (t, rest) ← number cs
      goOn t rest
    else if Text.startsIdentifier c then goOn (.word (String.ofList word)) behind
    else if c == '\\' then
      match rest with
      | '\n' :: rest => tokensFrom fuel (line + 1) opened rest
      | _ => .ok ⟨[], some .strayBackslash⟩
    else if !Text.isAscii c then .error (.badCharacter c)
    else if c == '(' || c == '[' || c == '\x7b' then
      .ok (before (.mark c.toString) (← tokensFrom fuel line (c :: opened) rest))
    else if c == ')' || c == ']' || c == '\x7d' then
      match opened with
      | [] => .error (.unopened c)
      | o :: others =>
        if closingOf o == c then .ok (before (.mark c.toString) (← tokensFrom fuel line others rest))
        else .error (.mismatched c o)
    else
      match longMarks.find? fun m => m.toList.isPrefixOf cs with
      | some m => goOn (.mark m) (cs.drop m.length)
      | none => goOn (.mark c.toString) rest

/-- The tokens of a text. -/
def Tokens.ofText (cs : List Char) : Except Fault Tokens :=
  tokensFrom (cs.length + 1) 1 [] cs

end RouteHelpers.Terminal.Handler
