import RouteHelpers.RouteFile.Cursor
import RouteHelpers.Text.Hex

/-!
What stands between tokens.

Blanks, comments and continued lines stand between tokens without meaning; a line end ends a statement
where a statement can end, and is a blank elsewhere. The body of a heredoc begins with the line end
behind its opening. Comments and bodies are nodes all the same: they are left with the cursor until a
construct around them takes them up.
-/

namespace RouteHelpers.RouteFile

/-! ### Escapes and interpolations -/

/-- The length of the escape that a text starts with. -/
def escapeLength (cs : List Char) : Nat :=
  match cs with
  | '\\' :: 'x' :: rest => 2 + ((rest.take 2).takeWhile fun c => (Text.hexValue? c).isSome).length
  | '\\' :: 'u' :: '\x7b' :: rest => 4 + (rest.takeWhile (· != '\x7d')).length
  | '\\' :: 'u' :: _ => 6
  | '\\' :: c :: rest =>
    if '0' ≤ c && c ≤ '7' then 2 + ((rest.take 2).takeWhile fun d => '0' ≤ d && d ≤ '7').length
    else 2
  | _ => 1

/-- The length of the variable behind a number sign that is interpolated without braces. -/
def shortInterpolation? (cs : List Char) : Option Nat :=
  let startsVariable (c : Char) : Bool := startsName c
  match cs with
  | '@' :: '@' :: c :: rest => if startsVariable c then some (3 + (rest.takeWhile isNameChar).length) else none
  | '@' :: c :: rest => if startsVariable c then some (2 + (rest.takeWhile isNameChar).length) else none
  | '$' :: '-' :: c :: _ => if startsVariable c then some 3 else none
  | '$' :: c :: rest =>
    if isNameChar c then some (2 + (rest.takeWhile isNameChar).length)
    else if "!@&`'+~=/\\,;.<>*$?:\"".toList.contains c then some 2
    else none
  | _ => none

/-! ### Comments -/

/-- The length of a line without its end. -/
def lineLength (cs : List Char) : Nat :=
  (cs.takeWhile (· != '\n')).length

/-- The length of the rest of a block comment. Its ending may stand anywhere in a line and takes that
line with it. An equals sign that starts no ending takes what has matched of one along. -/
def blockCommentRest? : List Char → Option Nat
  | [] => none
  | '=' :: 'e' :: 'n' :: 'd' :: rest => some (4 + lineLength rest)
  | '=' :: 'e' :: 'n' :: _ :: rest => (blockCommentRest? rest).map (· + 4)
  | '=' :: 'e' :: _ :: rest => (blockCommentRest? rest).map (· + 3)
  | '=' :: _ :: rest => (blockCommentRest? rest).map (· + 2)
  | _ :: rest => (blockCommentRest? rest).map (· + 1)

/-- The length of the comment that a text starts with. -/
def commentLength? (cs : List Char) : Option Nat :=
  match cs with
  | '#' :: _ => some (lineLength cs)
  | '=' :: _ =>
    if "=begin".toList.isPrefixOf cs then
      let first := lineLength cs + 1
      (blockCommentRest? (cs.drop first)).map (· + first)
    else none
  | _ => none

/-- Leaves a node with the cursor. -/
def leave (n : Node) : Reader Unit :=
  modify fun c => { c with asides := c.asides ++ [n] }

/-! ### Bodies of heredocs -/

/-- Whether nothing but blanks stands before the next line end. -/
def endsLine (cs : List Char) : Bool :=
  match cs.dropWhile fun c => c == ' ' || c == '\t' with
  | c :: _ => c == '\n' || c == '\r'
  | [] => true

/-- The parts of the body of a heredoc. The ending can stand at the start of a line and right behind an
escape or an interpolation, as `mayEnd` tells; `fuel` bounds the characters. -/
def bodyFrom (h : Heredoc) : Nat → Bool → Reader (List Node)
  | 0, _ => pure []
  | fuel + 1, mayEnd => do
    let rest := (← get).rest
    let goOn (length : Nat) (mayEnd : Bool) : Reader (List Node) := do
      advance length
      bodyFrom h fuel mayEnd
    if mayEnd && h.ending.isPrefixOf rest then
      if endsLine (rest.drop h.ending.length) then do advance h.ending.length; pure []
      else goOn h.ending.length true
    else
      match rest with
      | [] => pure []
      | '\n' :: below =>
        let indent := (below.takeWhile fun c => c == ' ' || c == '\t').length
        goOn (1 + indent) (h.indented || indent == 0)
      | '\\' :: _ =>
        if h.interpolates then goOn (escapeLength rest) true else goOn 1 false
      | '#' :: '\x7b' :: _ =>
        if h.interpolates then do
          let inner ← attempt do
            advance 2
            let parts ← innerStatements
            expect "\x7d"
            pure parts
          match inner with
          | some parts => do
            let more ← bodyFrom h fuel true
            pure (parts ++ more)
          | none => goOn 2 false
        else goOn 2 false
      | '#' :: more =>
        match shortInterpolation? more with
        | some n => if h.interpolates then goOn (1 + n) true else goOn 1 false
        | none => goOn 1 false
      | _ => goOn 1 false

/-- Reads the body of the heredoc that was opened first, if one waits and can begin. -/
def heredocBody? : Reader Bool := do
  let start ← get
  match start.heredocs with
  | [] => pure false
  | h :: others =>
    if start.insideBody then pure false
    else do
      set { start with heredocs := others, insideBody := true }
      let parts ← bodyFrom h (start.rest.length + 1) false
      let body ← close start .heredocBody parts
      modify fun c => { c with insideBody := false }
      leave body
      pure true

/-! ### Blanks -/

/-- Passes blanks, continued lines and comments; line ends too if `lines` is set, and before them the
bodies of heredocs. `fuel` bounds the characters. -/
def blanksFrom (lines : Bool) : Nat → Reader Unit
  | 0 => pure ()
  | fuel + 1 => do
    let rest := (← get).rest
    match rest with
    | [] => pure ()
    | '\n' :: _ =>
      if !lines then pure ()
      else do
        if ← heredocBody? then pure () else advance 1
        blanksFrom lines fuel
    | '\\' :: '\n' :: _ => do advance 2; blanksFrom lines fuel
    | '\\' :: '\r' :: '\n' :: _ => do advance 3; blanksFrom lines fuel
    | d :: _ =>
      if Text.isBlank d then do
        advanceWhile fun c => c != '\n' && Text.isBlank c
        blanksFrom lines fuel
      else
        match commentLength? rest with
        | none => pure ()
        | some n => do
          leave (← plainForm .remark n)
          blanksFrom lines fuel

/-- Passes blanks and comments; line ends too if `lines` is set. -/
def blanks (lines : Bool) : Reader Unit := do
  blanksFrom lines ((← get).rest.length + 1)

/-- Passes the ends of statements; `fuel` bounds the semicolons. -/
def endsFrom : Nat → Reader Unit
  | 0 => pure ()
  | fuel + 1 => do
    blanks true
    if ← accept ";" then endsFrom fuel else pure ()

/-- Passes the ends of statements. -/
def passEnds : Reader Unit := do
  endsFrom ((← get).rest.length + 1)

/-- Reads the bodies of heredocs that the end of the line brings, and leaves the line end. -/
def bodiesAtLineEnd : Reader Unit := do
  let _ ← many do
    blanks false
    if ← ahead fun cs => cs.head? == some '\n' then do
      if ← heredocBody? then pure (some ()) else pure none
    else pure none

/-- Whether a text starts with the point of a call. -/
def startsCall : List Char → Bool
  | '.' :: d :: _ => d != '.'
  | '&' :: '.' :: _ => true
  | _ => false

/-- Passes what may stand between an operand and an operator: blanks, and line ends if `lines` is set
or the next line starts with the point of a call. -/
def passToOperator (lines : Bool) : Reader Unit := do
  blanks lines
  let here ← get
  match here.rest with
  | '\n' :: _ => do
    blanks true
    if ← ahead startsCall then pure () else set here
  | _ => pure ()

end RouteHelpers.RouteFile
