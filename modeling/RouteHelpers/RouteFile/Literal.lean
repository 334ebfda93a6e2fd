import RouteHelpers.RouteFile.Blank

/-!
Literals of a routes file: texts, symbols, arrays of words, patterns, numbers, heredocs, variables.

A literal is cut into runs of plain characters by its escapes and interpolations, and interpolations
hold statements. Delimiters that differ from each other nest.
-/

namespace RouteHelpers.RouteFile

/-! ### Content -/

/-- How a literal is delimited, and whether escapes and interpolations count in it. -/
structure Delimiters where
  opening : Char
  closing : Char
  interpolates : Bool
  /-- Whether white space ends an element of the literal. -/
  spaceEnds : Bool

/-- What was read of a literal: runs of plain characters, the statements of interpolations, and how
many delimiters are open inside. -/
structure Content where
  runs : List String
  parts : List Node
  depth : Nat

/-- A run of plain characters, given in reverse, in front of others; an empty one is none. -/
def withRun (run : List Char) (runs : List String) : List String :=
  if run.isEmpty then runs else String.ofList run.reverse :: runs

/-- The content of a literal, up to what ends it, with the delimiters of `depth` open; `run` is the
run so far, in reverse, and `fuel` bounds the characters. -/
def contentFrom (d : Delimiters) : Nat → Nat → List Char → Reader Content
  | 0, _, _ => failure
  | fuel + 1, depth, run => do
    match (← get).rest with
    | [] => failure
    | c :: rest =>
      if d.spaceEnds && Text.isBlank c then pure ⟨withRun run [], [], depth⟩
      else if c == d.closing then
        match depth with
        | 0 => pure ⟨withRun run [], [], 0⟩
        | depth + 1 => do advance 1; contentFrom d fuel depth (c :: run)
      else if c == d.opening then do
        advance 1
        contentFrom d fuel (depth + 1) (c :: run)
      else if c == '\\' then
        if d.interpolates then do
          advance (escapeLength (c :: rest))
          let more ← contentFrom d fuel depth []
          pure { more with runs := withRun run more.runs }
        else do
          advance 2
          contentFrom d fuel depth (rest.take 1 ++ c :: run)
      else if c == '#' && d.interpolates then
        match rest with
        | '\x7b' :: _ => do
          advance 2
          let parts ← innerStatements
          blanks true
          expect "\x7d"
          let more ← contentFrom d fuel depth []
          pure { more with runs := withRun run more.runs, parts := parts ++ more.parts }
        | s :: _ =>
          match shortInterpolation? rest with
          | some n => do
            advance (1 + n)
            let more ← contentFrom d fuel depth []
            pure { more with runs := withRun run more.runs }
          | none => do
            advance 1
            if s == '@' || s == '$' then do
              let more ← contentFrom d fuel depth [c]
              pure { more with runs := withRun run more.runs }
            else contentFrom d fuel depth (c :: run)
        | [] => failure
      else do
        advance 1
        contentFrom d fuel depth (c :: run)

/-- The content of a literal, up to what ends it. -/
def content (d : Delimiters) (depth : Nat) : Reader Content := do
  contentFrom d ((← get).rest.length + 1) depth []

/-- The content of a literal and its closing delimiter. -/
def closedContent (d : Delimiters) : Reader Content := do
  let c ← content d 0
  advance 1
  pure c

/-- The words of an array of them, up to the closing delimiter; `fuel` bounds their number. -/
def wordsFrom (d : Delimiters) : Nat → Nat → Reader (List String × List Node)
  | 0, _ => failure
  | fuel + 1, depth => do
    advanceWhile Text.isBlank
    let (start, c) ← withStart (content d depth)
    let text := textBetween start (← get)
    if text.isEmpty then do advance 1; pure ([], [])
    else do
      let (words, parts) ← wordsFrom d fuel c.depth
      pure (text :: words, c.parts ++ parts)

/-! ### Kinds of literals -/

/-- The delimiter that closes what another opens. -/
def closingOf : Char → Char
  | '(' => ')'
  | '[' => ']'
  | '<' => '>'
  | '\x7b' => '\x7d'
  | c => c

/-- A text between quotes. -/
def quotedText (quote : Char) : Reader Node := do
  let (start, c) ← withStart do
    advance 1
    closedContent ⟨quote, quote, quote == '"', false⟩
  close start (.string (c.runs.headD "")) c.parts

/-- The length of the character that a text starts with, as a literal behind a question mark. An escape
may be one with a control character or a code, and a control character may be followed by another. -/
def characterLength (cs : List Char) : Nat :=
  match cs with
  | '\\' :: _ :: rest =>
    match rest with
    | '-' :: _ :: m :: '-' :: _ => if m == 'C' || m == 'M' then 6 else 4
    | '-' :: _ :: _ => 4
    | '\x7b' :: code =>
      let digits := (code.takeWhile fun c => (Text.hexValue? c).isSome).length
      if (code.drop digits).head? == some '\x7d' then digits + 4 else 2
    | _ => 2 + (rest.takeWhile fun c => (Text.hexValue? c).isSome).length
  | _ => 1

/-- Whether a text starts with a quote. -/
def startsQuoted : List Char → Bool
  | '"' :: _ | '\'' :: _ => true
  | _ => false

/-- A text between quotes; several in a row make one that is no plain text literal. -/
def stringLiteral (quote : Char) : Reader Node := do
  let start ← get
  let first ← quotedText quote
  let more ← many do
    let before ← get
    blanks false
    match (← get).rest with
    | '"' :: _ => some <$> quotedText '"'
    | '\'' :: _ => some <$> quotedText '\''
    | _ => do set before; pure none
  if more.isEmpty then pure first
  else close start .other (first :: more)

/-- A form that is a delimited literal of no further interest, opened by `opening` characters. -/
def delimited (opening : Nat) (d : Delimiters) : Reader Node :=
  formOf .other do
    advance opening
    pure (← closedContent d).parts

/-- A pattern, with its flags. -/
def patternLiteral (opening : Nat) (d : Delimiters) : Reader Node :=
  formOf .other do
    advance opening
    let c ← closedContent d
    advance ((← get).rest.takeWhile Char.isLower).length
    pure c.parts

/-- Whether a text starts with a literal that is opened by a percent sign. -/
def startsPercent : List Char → Bool
  | '%' :: c :: d :: _ =>
    if "qQwWiIrsx".toList.contains c then !isNameChar d && !Text.isBlank d && d != '='
    else !isNameChar c && !Text.isBlank c && c != '='
  | _ => false

/-- A literal that is opened by a percent sign. -/
def percentLiteral : Reader Node := do
  match (← get).rest with
  | '%' :: c :: d :: _ =>
    let between (interpolates spaceEnds : Bool) : Delimiters :=
      ⟨d, closingOf d, interpolates, spaceEnds⟩
    let textLiteral (opening : Nat) (delimiters : Delimiters) : Reader Node := do
      let (start, c) ← withStart do
        advance opening
        closedContent delimiters
      close start (.string (c.runs.headD "")) c.parts
    let wordLiteral (areSymbols interpolates : Bool) : Reader Node := do
      let (start, (elements, parts)) ← withStart do
        advance 3
        wordsFrom (between interpolates true) (← get).rest.length 0
      close start (.words areSymbols elements) parts
    match c with
    | 'w' => wordLiteral false false
    | 'W' => wordLiteral false true
    | 'i' => wordLiteral true false
    | 'I' => wordLiteral true true
    | 'q' => textLiteral 3 (between false false)
    | 'Q' => textLiteral 3 (between true false)
    | 'r' => patternLiteral 3 (between true false)
    | 's' => delimited 3 (between false false)
    | 'x' => delimited 3 (between true false)
    | c => textLiteral 2 ⟨c, closingOf c, true, false⟩
  | _ => failure

/-! ### Symbols, numbers, variables -/

/-- Operators that are names of methods, longer ones first. -/
def operatorNames : List String :=
  ["[]=", "<=>", "===", "**", "[]", "==", "=~", "!=", "!~", "<<", ">>", "<=", ">=", "+@", "-@",
    "~@", "!@", "+", "-", "*", "/", "%", "<", ">", "!", "~", "^", "&", "|", "\x60"]

/-- The operator that a text starts with, as the name of a method. -/
def operatorName? (cs : List Char) : Option String :=
  operatorNames.find? fun o => o.toList.isPrefixOf cs

/-- The length of the symbol that a text starts with, without its colon. -/
def symbolLength (cs : List Char) : Nat :=
  let sigil := match cs with
    | '@' :: '@' :: _ => 2
    | '@' :: _ | '$' :: _ => 1
    | _ => 0
  let name := ((cs.drop sigil).takeWhile isNameChar).length
  if name == 0 then (operatorName? cs).elim 0 String.length
  else
    let rest := cs.drop (sigil + name)
    let mark := match rest with
      | '?' :: _ | '!' :: _ => 1
      | _ => 0
    let equals := match rest.drop mark with
      | '=' :: d :: _ => if d == '~' || d == '>' || d == '=' then 0 else 1
      | '=' :: [] => 1
      | _ => 0
    sigil + name + mark + equals

/-- A symbol: its colon and a name, an operator or a quoted text. -/
def symbolLiteral : Reader Node := do
  match (← get).rest with
  | ':' :: '"' :: _ => delimited 2 ⟨'"', '"', true, false⟩
  | ':' :: '\'' :: _ => delimited 2 ⟨'\'', '\'', false, false⟩
  | ':' :: rest =>
    match symbolLength rest with
    | 0 => failure
    | n => formOf .symbol do advance (n + 1); pure []
  | _ => failure

/-- The length of the number that a text starts with. -/
def numberLength (cs : List Char) : Nat :=
  let isPart (c : Char) : Bool := c.isAlphanum || c == '_'
  let whole := cs.takeWhile isPart
  let fraction := match cs.drop whole.length with
    | '.' :: c :: rest => if c.isDigit then '.' :: c :: rest.takeWhile isPart else []
    | _ => []
  let digits := whole ++ fraction
  let isHexadecimal := "0x".toList.isPrefixOf whole || "0X".toList.isPrefixOf whole
  match digits.getLast?, cs.drop digits.length with
  | some e, s :: c :: rest =>
    if (e == 'e' || e == 'E') && !isHexadecimal && (s == '-' || s == '+') && c.isDigit then
      digits.length + 2 + (rest.takeWhile isPart).length
    else digits.length
  | _, _ => digits.length

/-- The length of the variable with a sigil that a text starts with. -/
def variableLength (cs : List Char) : Nat :=
  match cs with
  | '$' :: '-' :: _ => 3
  | '$' :: rest => 1 + max 1 (rest.takeWhile isNameChar).length
  | '@' :: '@' :: rest => 2 + (rest.takeWhile isNameChar).length
  | _ :: rest => 1 + (rest.takeWhile isNameChar).length
  | [] => 0

/-! ### Heredocs -/

/-- Characters of the bare ending of a heredoc. -/
def isEndingChar (c : Char) : Bool :=
  Text.isWord c

/-- The heredoc that a text opens, and the length of its opening. -/
def opened? (cs : List Char) : Option (Heredoc × Nat) :=
  let ending (indented : Bool) (mark : Nat) (rest : List Char) : Option (Heredoc × Nat) :=
    match rest with
    | [] => none
    | q :: more =>
      if q == '"' || q == '\'' || q == '\x60' then
        let ending := more.takeWhile (· != q)
        if ending.isEmpty || more.length == ending.length then none
        else some (⟨ending, indented, q != '\''⟩, mark + ending.length + 2)
      else
        let ending := rest.takeWhile isEndingChar
        if ending.isEmpty then none else some (⟨ending, indented, true⟩, mark + ending.length)
  match cs with
  | '<' :: '<' :: '~' :: rest => ending true 3 rest
  | '<' :: '<' :: '-' :: rest => ending true 3 rest
  | '<' :: '<' :: rest => ending false 2 rest
  | _ => none

/-- Whether a text opens a heredoc. -/
def startsHeredoc (cs : List Char) : Bool :=
  (opened? cs).isSome

/-- The opening of a heredoc. -/
def heredoc : Reader Node := do
  match opened? (← get).rest with
  | none => failure
  | some (h, length) => do
    let node ← plainForm .other length
    modify fun c => { c with heredocs := c.heredocs ++ [h] }
    pure node

end RouteHelpers.RouteFile
