import RouteHelpers.Text.Utf8
import RouteHelpers.Yaml.Scalar

/-!
The tokens of a YAML document.

`nextToken` finds the next token or tokens. Collections without brackets are opened and closed by
`openBlock` and `closeBlocks`, which compare columns; a colon behind a token that could start a key
puts the mark of the key, and perhaps that of a new collection, in front of that token.

Where finding tokens fails, those in front of the fault still count, as far as they are settled: what
they say may be wrong as well, and is then the first thing wrong with the document.
-/

namespace RouteHelpers.Yaml

/-! ### State -/

/-- Adds a token. -/
private def emit (t : Token) : Scanning Unit :=
  modify fun s => { s with tokens := s.tokens.push t }

/-- Sets whether a key may start here. -/
private def allowKey (allowed : Bool) : Scanning Unit :=
  modify fun s => { s with keyAllowed := allowed }

/-- Closes the block collections whose column lies behind the given one. -/
private def closeBlocks (column : Int) : Scanning Unit :=
  modify fun s =>
    if s.flowLevel != 0 then s
    else
      let rec close : List Int → Int → Array Token → Scan
        | outer, indent, tokens =>
          if indent ≤ column then { s with indent, indents := outer, tokens }
          else
            match outer with
            | [] => { s with indent := -1, indents := [], tokens := tokens.push .blockEnd }
            | i :: outer => close outer i (tokens.push .blockEnd)
      close s.indents s.indent s.tokens

/-- Opens a block collection at a column, unless the innermost one stands there; whether it did. -/
private def openBlock (column : Nat) : Scanning Bool := do
  let s ← get
  if s.indent < column then do
    set { s with indent := column, indents := s.indent :: s.indents }
    pure true
  else pure false

/-- Forgets the token that could start a key on the present level; one that has to start a key is a
failure. -/
private def forgetKeyStart : Scanning Unit := do
  let s ← get
  match s.keyStarts.lookup s.flowLevel with
  | none => pure ()
  | some k =>
    if k.required then malformed
    else set { s with keyStarts := s.keyStarts.filter fun e => e.1 != s.flowLevel }

/-- Notes that the next token could start a key. -/
private def noteKeyStart : Scanning Unit := do
  let s ← get
  if s.keyAllowed then do
    forgetKeyStart
    let start : KeyStart :=
      ⟨s.tokens.size, s.flowLevel == 0 && s.indent == s.column, s.index, s.line, s.column⟩
    modify fun s => { s with keyStarts := (s.flowLevel, start) :: s.keyStarts }
  else pure ()

/-- Whether a token can no longer start a key: it has to be on one line, and no longer than 1024
characters. -/
private def isStale (s : Scan) (k : KeyStart) : Bool :=
  k.line != s.line || 1024 < s.index - k.index

/-- Forgets the tokens that can no longer start a key. -/
private def forgetStale : Scanning Unit := do
  let s ← get
  if s.keyStarts.any fun e => isStale s e.2 && e.2.required then malformed
  else set { s with keyStarts := s.keyStarts.filter fun e => !isStale s e.2 }

/-- Passes spaces, comments and line ends; `fuel` bounds the lines. -/
private def passBlanks : Nat → Scanning Unit
  | 0 => pure ()
  | fuel + 1 => do
    let s ← get
    if s.index == 0 && s.rest.head? == some '\ufeff' then advance 1 else pure ()
    let _ ← takeWhile (· == ' ')
    if (← peek) == '#' then do
      let _ ← takeWhile fun c => !endsLine c
    else pure ()
    let b ← takeBreak
    if b.isEmpty then pure ()
    else do
      modify fun s => { s with keyAllowed := s.keyAllowed || s.flowLevel == 0 }
      passBlanks fuel

/-! ### Marks of documents -/

/-- Ends every open block and key. -/
private def endDocument : Scanning Unit := do
  closeBlocks (-1)
  forgetKeyStart
  allowKey false

/-- Takes one or more digits. -/
private def takeNumber : Scanning (List Char) := do
  let digits ← takeWhile Char.isDigit
  if digits.isEmpty then malformed else pure digits

/-- Octets that are written with percent signs. -/
private def escapedOctets : Nat → Scanning (List Nat)
  | 0 => pure []
  | fuel + 1 => do
    if (← peek) == '%' then
      match Text.hexNumber? (((← get).rest.drop 1).take 2) with
      | some n => do
        if ((← get).rest.drop 1).length < 2 then malformed else advance 3
        let more ← escapedOctets fuel
        pure (n :: more)
      | none => malformed
    else pure []

/-- The pieces of the address that a tag is written as; `fuel` bounds them. -/
private def addressFrom : Nat → Scanning (List Char)
  | 0 => pure []
  | fuel + 1 => do
    let plain ← takeWhile fun c => c.isAlphanum || "-;/?:@&=+$,_.!~*'()[]".toList.contains c
    if (← peek) == '%' then do
      let octets ← escapedOctets (← stepBound)
      match Text.decodeUtf8 octets with
      | .error _ => malformed
      | .ok cs => do
        let more ← addressFrom fuel
        pure (plain ++ cs ++ more)
    else pure plain

/-- The address that a tag is written as. -/
private def takeAddress : Scanning String := do
  let address ← addressFrom (← stepBound)
  if address.isEmpty then malformed else pure (String.ofList address)

/-- The handle of a tag: an exclamation mark, or a name between two. -/
private def takeHandle : Scanning String := do
  if (← peek) != '!' then malformed
  else do
    advance 1
    let name ← takeWhile isNameChar
    let c ← peek
    if c == '!' then do
      advance 1
      pure (String.ofList ('!' :: name ++ ['!']))
    else if name.isEmpty && c == ' ' then pure "!"
    else malformed

/-- Fails unless a space or the end of a line stands here. -/
private def expectGap : Scanning Unit := do
  let c ← peek
  if c == ' ' || endsLine c then pure () else malformed

/-- A directive. -/
private def directive : Scanning Unit := do
  endDocument
  advance 1
  let name ← takeWhile isNameChar
  if name.isEmpty then malformed else expectGap
  let words ← match String.ofList name with
    | "YAML" => do
      let _ ← takeWhile (· == ' ')
      let major ← takeNumber
      if (← peek) != '.' then malformed else advance 1
      let minor ← takeNumber
      expectGap
      pure [String.ofList major, String.ofList minor]
    | "TAG" => do
      let _ ← takeWhile (· == ' ')
      let handle ← takeHandle
      if (← peek) != ' ' then malformed else pure ()
      let _ ← takeWhile (· == ' ')
      let address ← takeAddress
      expectGap
      pure [handle, address]
    | _ => do
      let _ ← takeWhile fun c => !endsLine c
      pure []
  let _ ← takeWhile (· == ' ')
  if (← peek) == '#' then do
    let _ ← takeWhile fun c => !endsLine c
  else pure ()
  if endsLine (← peek) then do
    let _ ← takeBreak
    emit (.directive (String.ofList name) words)
  else malformed

/-- A mark that parts documents. -/
private def documentMark (t : Token) : Scanning Unit := do
  endDocument
  advance 3
  emit t

/-! ### Collections -/

/-- An opening bracket. -/
private def openBracket (t : Token) : Scanning Unit := do
  noteKeyStart
  modify fun s => { s with flowLevel := s.flowLevel + 1, keyAllowed := true }
  advance 1
  emit t

/-- A closing bracket. -/
private def closeBracket (t : Token) : Scanning Unit := do
  forgetKeyStart
  let s ← get
  if s.flowLevel == 0 then malformed
  else do
    set { s with flowLevel := s.flowLevel - 1, keyAllowed := false }
    advance 1
    emit t

/-- A comma. -/
private def flowEntry : Scanning Unit := do
  allowKey true
  forgetKeyStart
  advance 1
  emit .flowEntry

/-- The dash of an element. -/
private def blockEntry : Scanning Unit := do
  let s ← get
  if s.flowLevel == 0 then
    if !s.keyAllowed then malformed
    else do
      if ← openBlock s.column then emit .blockSequence else pure ()
  else pure ()
  allowKey true
  forgetKeyStart
  advance 1
  emit .blockEntry

/-- The question mark of a key. -/
private def explicitKey : Scanning Unit := do
  let s ← get
  if s.flowLevel == 0 then
    if !s.keyAllowed then malformed
    else do
      if ← openBlock s.column then emit .blockMapping else pure ()
  else pure ()
  allowKey (s.flowLevel == 0)
  forgetKeyStart
  advance 1
  emit .key

/-- The colon of a value. -/
private def mappingValue : Scanning Unit := do
  let s ← get
  match s.keyStarts.lookup s.flowLevel with
  | some k => do
    set { s with keyStarts := s.keyStarts.filter fun e => e.1 != s.flowLevel }
    let opens ← if s.flowLevel == 0 then openBlock k.column else pure false
    let marks : List Token := if opens then [.blockMapping, .key] else [.key]
    modify fun s =>
      let before := s.tokens.toList.take k.number
      let behind := s.tokens.toList.drop k.number
      { s with tokens := (before ++ marks ++ behind).toArray, keyAllowed := false }
  | none => do
    if s.flowLevel == 0 then
      if !s.keyAllowed then malformed
      else do
        if ← openBlock s.column then emit .blockMapping else pure ()
    else pure ()
    allowKey (s.flowLevel == 0)
    forgetKeyStart
  advance 1
  emit .value

/-! ### Nodes -/

/-- The name of an alias or an anchor. -/
private def takeName : Scanning String := do
  advance 1
  let name ← takeWhile isNameChar
  let c ← peek
  if name.isEmpty || !(endsWord c || "?:,]\x7d%@\x60".toList.contains c) then malformed
  else pure (String.ofList name)

/-- A token that is part of a node and could start a key. -/
private def nodePart (t : Scanning Token) : Scanning Unit := do
  noteKeyStart
  allowKey false
  let t ← t
  emit t

/-- A tag. -/
private def takeTag : Scanning Token := do
  let c ← peekAt 1
  let tag ← if c == '<' then do
      advance 2
      let address ← takeAddress
      if (← peek) != '>' then malformed else advance 1
      pure (Token.tag none address)
    else if endsWord c then do
      advance 1
      pure (Token.tag none "!")
    else do
      let word := ((← get).rest.drop 1).takeWhile fun c => c != ' ' && !endsLine c
      let handle ← if word.contains '!' then takeHandle else do advance 1; pure "!"
      let address ← takeAddress
      pure (Token.tag (some handle) address)
  expectGap
  pure tag

/-- Whether a plain scalar can start with a character that another follows. -/
private def startsPlain (inFlow : Bool) (c next : Char) : Bool :=
  !(endsWord c || "-?:,[]\x7b\x7d#&*!|>'\"%@\x60".toList.contains c) ||
    (!endsWord next && (c == '-' || (!inFlow && (c == '?' || c == ':'))))

/-- A block that is a scalar. -/
private def blockToken (isFolded : Bool) : Scanning Unit := do
  allowKey true
  forgetKeyStart
  let text ← blockScalar isFolded
  emit (.scalar text false)

/-- Finds the next token or tokens; whether the document goes on behind them. -/
private def nextToken : Scanning Bool := do
  passBlanks (← stepBound)
  forgetStale
  let s ← get
  closeBlocks s.column
  let inFlow := s.flowLevel != 0
  let c ← peek
  let next ← peekAt 1
  let goOn (step : Scanning Unit) : Scanning Bool := do step; pure true
  if s.rest.isEmpty then do
    endDocument
    pure false
  else if c == '%' && s.column == 0 then goOn directive
  else if s.column == 0 && (← atMark '-') then goOn (documentMark .documentStart)
  else if s.column == 0 && (← atMark '.') then goOn (documentMark .documentEnd)
  else if c == '[' then goOn (openBracket .flowSequence)
  else if c == '\x7b' then goOn (openBracket .flowMapping)
  else if c == ']' then goOn (closeBracket .flowSequenceEnd)
  else if c == '\x7d' then goOn (closeBracket .flowMappingEnd)
  else if c == ',' then goOn flowEntry
  else if c == '-' && endsWord next then goOn blockEntry
  else if c == '?' && (inFlow || endsWord next) then goOn explicitKey
  else if c == ':' && (inFlow || endsWord next) then goOn mappingValue
  else if c == '*' then goOn (nodePart (Token.reference <$> takeName))
  else if c == '&' then goOn (nodePart (Token.anchor <$> takeName))
  else if c == '!' then goOn (nodePart takeTag)
  else if c == '|' && !inFlow then goOn (blockToken false)
  else if c == '>' && !inFlow then goOn (blockToken true)
  else if c == '\'' || c == '"' then
    goOn (nodePart do pure (Token.scalar (← quotedScalar c) false))
  else if startsPlain inFlow c next then
    -- a plain scalar says itself whether a key may follow
    goOn do
      noteKeyStart
      allowKey false
      let text ← plainScalar
      emit (.scalar text true)
  else malformed

/-- The state behind the tokens of a document, and the fault that finding them ended with, in the state
in front of that fault. `fuel` bounds the number of tokens. -/
private def scanFrom : Nat → Scan → Scan × Option ReadFault
  | 0, s => (s, some .malformed)
  | fuel + 1, s =>
    match nextToken.run s with
    | .ok (true, s) => scanFrom fuel s
    | .ok (false, s) => (s, none)
    | .error f => (s, some f)

/-- The number of tokens in a state that nothing behind them can change: a colon could still put marks
in front of one that could start a key. -/
private def settledCount (s : Scan) : Nat :=
  ((s.keyStarts.filter fun e => !isStale s e.2).map fun e => e.2.number).foldl min s.tokens.size

/-- The tokens of a document, and the fault behind them if there is one. -/
structure Tokens where
  tokens : List Token
  fault : Option ReadFault

/-- The tokens of a document. -/
def tokens (text : List Char) : Tokens :=
  if !text.all isAllowed then ⟨[], some .malformed⟩
  else
    match scanFrom (text.length + 2) (Scan.start text) with
    | (s, none) => ⟨s.tokens.toList, none⟩
    | (s, some f) => ⟨s.tokens.toList.take (settledCount s), some f⟩

end RouteHelpers.Yaml
