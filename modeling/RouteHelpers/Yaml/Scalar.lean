import RouteHelpers.Text.Hex
import RouteHelpers.Yaml.Token

/-!
The text of scalars.

A scalar is written plainly, between quotes, or as an indented block. In the first two forms a single
line break inside stands for a space and further ones for themselves; in a block this is so only if it
is marked as folded.
-/

namespace RouteHelpers.Yaml

/-! ### Quoted -/

/-- What a character behind a backslash stands for. -/
private def escapeOf? (c : Char) : Option Char :=
  List.lookup c
    [('0', '\x00'), ('a', '\x07'), ('b', '\x08'), ('t', '\t'), ('\t', '\t'), ('n', '\n'),
      ('v', '\x0b'), ('f', '\x0c'), ('r', '\r'), ('e', '\x1b'), (' ', ' '), ('"', '"'),
      ('\\', '\\'), ('/', '/'), ('N', '\x85'), ('_', '\xa0'), ('L', '\u2028'), ('P', '\u2029')]

/-- How many hexadecimal digits follow a character behind a backslash. -/
private def escapeDigits? (c : Char) : Option Nat :=
  List.lookup c [('x', 2), ('u', 4), ('U', 8)]

/-- The empty lines inside a quoted scalar; `fuel` bounds them. -/
private def quotedBreaksFrom : Nat → Scanning (List Char)
  | 0 => malformed
  | fuel + 1 => do
    if ← atDocumentMark then malformed
    else do
      let _ ← takeWhile fun c => c == ' ' || c == '\t'
      let b ← takeBreak
      if b.isEmpty then pure []
      else do
        let more ← quotedBreaksFrom fuel
        pure (b ++ more)

/-- The empty lines inside a quoted scalar. -/
private def quotedBreaks : Scanning (List Char) := do
  quotedBreaksFrom (← stepBound)

/-- A line break as a text, with the empty lines behind it. -/
private def folded (first empty : List Char) : List Char :=
  if first != ['\n'] then first ++ empty
  else if empty.isEmpty then [' ']
  else empty

/-- The blanks and line breaks between two words of a quoted scalar. -/
private def quotedBlanks : Scanning (List Char) := do
  let blanks ← takeWhile fun c => c == ' ' || c == '\t'
  let c ← peek
  if c == endMark then malformed
  else if isBreak c then do
    let b ← takeBreak
    let empty ← quotedBreaks
    pure (folded b empty)
  else pure blanks

/-- The character that the next `n` digits name. -/
private def namedCharacter (n : Nat) : Scanning Char := do
  let digits := (← get).rest.take n
  match (if digits.length == n then Text.hexNumber? digits else none) with
  | none => malformed
  | some code =>
    if 0x80000000 ≤ code then throw .farFromCharacter
    else if 0x110000 ≤ code then throw .noCharacter
    else do
      advance n
      pure (Char.ofNat code)

/-- The words of a quoted scalar up to the next blank or the quote; `fuel` bounds the pieces. -/
private def quotedWordFrom (double : Bool) : Nat → Scanning (List Char)
  | 0 => malformed
  | fuel + 1 => do
    let plain ← takeWhile fun c => !("'\"\\".toList.contains c || endsWord c)
    let c ← peek
    let continued (piece : List Char) : Scanning (List Char) := do
      let more ← quotedWordFrom double fuel
      pure (plain ++ piece ++ more)
    if !double && c == '\'' && (← peekAt 1) == '\'' then do
      advance 2
      continued ['\'']
    else if (double && c == '\'') || (!double && (c == '"' || c == '\\')) then do
      advance 1
      continued [c]
    else if double && c == '\\' then do
      advance 1
      let e ← peek
      match escapeOf? e, escapeDigits? e with
      | some d, _ => do advance 1; continued [d]
      | none, some n => do
        advance 1
        let d ← namedCharacter n
        continued [d]
      | none, none =>
        if isBreak e then do
          let _ ← takeBreak
          let empty ← quotedBreaks
          continued empty
        else malformed
    else pure plain

/-- The words of a quoted scalar up to the next blank or the quote. -/
private def quotedWord (double : Bool) : Scanning (List Char) := do
  quotedWordFrom double (← stepBound)

/-- The rest of a quoted scalar behind its first word; `fuel` bounds the words. -/
private def quotedRest (quote : Char) : Nat → Scanning (List Char)
  | 0 => malformed
  | fuel + 1 => do
    if (← peek) == quote then do advance 1; pure []
    else do
      let blanks ← quotedBlanks
      let word ← quotedWord (quote == '"')
      let more ← quotedRest quote fuel
      pure (blanks ++ word ++ more)

/-- A scalar between quotes. -/
def quotedScalar (quote : Char) : Scanning String := do
  advance 1
  let word ← quotedWord (quote == '"')
  let more ← quotedRest quote (← stepBound)
  pure (String.ofList (word ++ more))

/-! ### Plain -/

/-- The empty lines inside a plain scalar, or nothing where a mark parts two documents; `fuel` bounds
them. -/
private def plainBreaksFrom : Nat → Scanning (Option (List Char))
  | 0 => malformed
  | fuel + 1 => do
    let _ ← takeWhile (· == ' ')
    let b ← takeBreak
    if b.isEmpty then pure (some [])
    else if ← atDocumentMark then pure none
    else do
      let more ← plainBreaksFrom fuel
      pure (more.map (b ++ ·))

/-- The blanks and line breaks between two words of a plain scalar; nothing where it ends. -/
private def plainBlanks : Scanning (List Char) := do
  let blanks ← takeWhile (· == ' ')
  let b ← takeBreak
  if b.isEmpty then pure blanks
  else do
    modify fun s => { s with keyAllowed := true }
    if ← atDocumentMark then pure []
    else
      match ← plainBreaksFrom (← stepBound) with
      | none => pure []
      | some empty => pure (folded b empty)

/-- The length of the word of a plain scalar that a text starts with. -/
private def plainWordLength (inFlow : Bool) : List Char → Nat
  | [] => 0
  | c :: rest =>
    let next := rest.headD endMark
    if endsWord c then 0
    else if c == ':' && (endsWord next || (inFlow && ",[]\x7b\x7d".toList.contains next)) then 0
    else if inFlow && ",?[]\x7b\x7d".toList.contains c then 0
    else plainWordLength inFlow rest + 1

/-- A plain scalar behind the blanks in `blanks`; `fuel` bounds the words. -/
private def plainFrom (indent : Int) : Nat → List Char → Scanning (List Char)
  | 0, _ => malformed
  | fuel + 1, blanks => do
    let s ← get
    let length := plainWordLength (s.flowLevel != 0) s.rest
    if s.rest.head? == some '#' || length == 0 then pure []
    else do
      let word := s.rest.take length
      advance length
      modify fun s => { s with keyAllowed := false }
      let next ← plainBlanks
      let s ← get
      if next.isEmpty || s.rest.head? == some '#' || (s.flowLevel == 0 && (s.column : Int) < indent)
      then pure (blanks ++ word)
      else do
        let more ← plainFrom indent fuel next
        pure (blanks ++ word ++ more)

/-- A plain scalar. -/
def plainScalar : Scanning String := do
  let s ← get
  let text ← plainFrom (s.indent + 1) (s.rest.length + 1) []
  pure (String.ofList text)

/-! ### Blocks -/

/-- What becomes of the line breaks at the end of a block. -/
private inductive Chomping where
  | clip
  | strip
  | keep

/-- The marks behind the start of a block: what becomes of its end, and its indentation. -/
private def blockMarks : Scanning (Chomping × Option Nat) := do
  let chomping? : Scanning (Option Chomping) := do
    let c ← peek
    if c == '+' then do advance 1; pure (some .keep)
    else if c == '-' then do advance 1; pure (some .strip)
    else pure none
  let digit? : Scanning (Option Nat) := do
    let c ← peek
    if c == '0' then malformed
    else if c.isDigit then do advance 1; pure (some (c.toNat - '0'.toNat))
    else pure none
  let first ← chomping?
  let digit ← digit?
  let second ← if first.isNone && digit.isSome then chomping? else pure none
  let c ← peek
  if c == ' ' || endsLine c then pure ((first.or second).getD .clip, digit) else malformed

/-- The rest of a line that holds nothing but a comment. -/
private def commentLine : Scanning Unit := do
  let _ ← takeWhile (· == ' ')
  if (← peek) == '#' then do
    let _ ← takeWhile fun c => !endsLine c
  else pure ()
  if endsLine (← peek) then do
    let _ ← takeBreak
  else malformed

/-- The empty lines in front of a block, and the widest of their indentations and that of the first
line that holds something; `fuel` bounds the characters. -/
private def blockIndentationFrom : Nat → Nat → Scanning (List Char × Nat)
  | 0, _ => malformed
  | fuel + 1, widest => do
    let c ← peek
    if c == ' ' then do
      advance 1
      blockIndentationFrom fuel (max widest (← get).column)
    else do
      let b ← takeBreak
      if b.isEmpty then pure ([], widest)
      else do
        let (more, widest) ← blockIndentationFrom fuel widest
        pure (b ++ more, widest)

/-- Takes the spaces of an indentation. -/
private def takeIndentation (indent : Nat) : Scanning Unit := do
  let s ← get
  advance ((s.rest.take (indent - s.column)).takeWhile (· == ' ')).length

/-- The empty lines inside a block, and the indentation of the line behind them; `fuel` bounds the
lines. -/
private def blockBreaksFrom (indent : Nat) : Nat → Scanning (List Char)
  | 0 => malformed
  | fuel + 1 => do
    takeIndentation indent
    let b ← takeBreak
    if b.isEmpty then pure []
    else do
      let more ← blockBreaksFrom indent fuel
      pure (b ++ more)

/-- The lines of a block from one that holds something on, behind the given empty lines; then the
last line break and the empty lines behind it. `fuel` bounds the lines. -/
private def blockLines (isFolded : Bool) (indent : Nat) :
    Nat → List Char → Scanning (List Char × List Char × List Char)
  | 0, _ => malformed
  | fuel + 1, empty => do
    let startsBlank (c : Char) : Bool := c == ' ' || c == '\t'
    let leads := !startsBlank (← peek)
    let line ← takeWhile fun c => !endsLine c
    let b ← takeBreak
    let behind ← blockBreaksFrom indent (← stepBound)
    let s ← get
    if s.column == indent && !s.rest.isEmpty then do
      let glue :=
        if isFolded && b == ['\n'] && leads && !startsBlank (← peek) then
          if behind.isEmpty then [' '] else []
        else b
      let (more, ending) ← blockLines isFolded indent fuel behind
      pure (empty ++ line ++ glue ++ more, ending)
    else pure (empty ++ line, b, behind)

/-- A scalar that is an indented block. -/
def blockScalar (isFolded : Bool) : Scanning String := do
  advance 1
  let (chomping, width) ← blockMarks
  commentLine
  let least := ((← get).indent + 1).toNat.max 1
  let (empty, indent) ← match width with
    | some n => do
      let indent := least + n - 1
      let empty ← blockBreaksFrom indent (← stepBound)
      pure (empty, indent)
    | none => do
      let (empty, widest) ← blockIndentationFrom (← stepBound) 0
      pure (empty, max least widest)
  let s ← get
  let (text, lastBreak, behind) ←
    if s.column == indent && !s.rest.isEmpty then blockLines isFolded indent (← stepBound) empty
    else pure ([], [], empty)
  pure <| String.ofList <| match chomping with
    | .clip => text ++ lastBreak
    | .strip => text
    | .keep => text ++ lastBreak ++ behind

end RouteHelpers.Yaml
