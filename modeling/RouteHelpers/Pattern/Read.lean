import RouteHelpers.Pattern.Match
import RouteHelpers.Text.CharacterName
import RouteHelpers.Text.Numeral
import RouteHelpers.Text.Quoted

/-!
Reading regular expressions.

A pattern is cut into tokens, single characters and escapes of two. Reading goes from left to right
with one token of lookahead, and a fault names a position in the pattern. Flags set in the pattern
are settled on the way, so the terms that come out carry none.

The reader keeps the widths of the groups it has closed: what a lookbehind looks back over must have
one width.
-/

namespace RouteHelpers

namespace Pattern

/-! ### Faults -/

/-- Why a pattern cannot be read. -/
inductive Cause where
  | danglingEscape
  | badEscape (escape : String)
  | incompleteEscape (escape : String)
  | octalTooLarge (escape : String)
  | missingBrace
  | unknownCharacterName (name : String)
  | invalidReference (number : Nat)
  | openGroup
  | groupInLookbehind
  | unterminatedSet
  | badRange (low high : String)
  | minAboveMax
  | nothingToRepeat
  | multipleRepeat
  | unexpectedEnd
  | unterminatedGroup
  | unterminatedComment
  | unbalanced
  | unknownExtension (text : String)
  | missingName (what : String)
  | unterminatedName (terminator : String)
  | badGroupName (name : String)
  | unknownGroupName (name : String)
  | redefinedGroup (name : String) (number earlier : Nat)
  | badGroupNumber
  | tooManyBranches
  | flagsNotAtStart
  | flagL
  | incompatibleFlags
  | missingFlagEnd
  | unknownFlag
  | missingFlag
  | missingColon
  | cannotTurnOn
  | cannotTurnOff
  | cannotTurnOffGlobal
  | onAndOff
  | variableLookbehind
  deriving DecidableEq, Repr

/-- What a reader is told about a cause. -/
def Cause.message : Cause → String
  | danglingEscape => "bad escape (end of pattern)"
  | badEscape escape => "bad escape " ++ escape
  | incompleteEscape escape => "incomplete escape " ++ escape
  | octalTooLarge escape => "octal escape value " ++ escape ++ " outside of range 0-0o377"
  | missingBrace => "missing \x7b"
  | unknownCharacterName name => "undefined character name " ++ Text.quoted name
  | invalidReference number => "invalid group reference " ++ toString number
  | openGroup => "cannot refer to an open group"
  | groupInLookbehind => "cannot refer to group defined in the same lookbehind subpattern"
  | unterminatedSet => "unterminated character set"
  | badRange low high => "bad character range " ++ low ++ "-" ++ high
  | minAboveMax => "min repeat greater than max repeat"
  | nothingToRepeat => "nothing to repeat"
  | multipleRepeat => "multiple repeat"
  | unexpectedEnd => "unexpected end of pattern"
  | unterminatedGroup => "missing ), unterminated subpattern"
  | unterminatedComment => "missing ), unterminated comment"
  | unbalanced => "unbalanced parenthesis"
  | unknownExtension text => "unknown extension " ++ text
  | missingName what => "missing " ++ what
  | unterminatedName terminator => "missing " ++ terminator ++ ", unterminated name"
  | badGroupName name => "bad character in group name " ++ Text.quoted name
  | unknownGroupName name => "unknown group name " ++ Text.quoted name
  | redefinedGroup name number earlier =>
    "redefinition of group name " ++ Text.quoted name ++ " as group " ++ toString number ++
      "; was group " ++ toString earlier
  | badGroupNumber => "bad group number"
  | tooManyBranches => "conditional backref with more than two branches"
  | flagsNotAtStart => "global flags not at the start of the expression"
  | flagL => "bad inline flags: cannot use 'L' flag with a str pattern"
  | incompatibleFlags => "bad inline flags: flags 'a', 'u' and 'L' are incompatible"
  | missingFlagEnd => "missing -, : or )"
  | unknownFlag => "unknown flag"
  | missingFlag => "missing flag"
  | missingColon => "missing :"
  | cannotTurnOn => "bad inline flags: cannot turn on global flag"
  | cannotTurnOff => "bad inline flags: cannot turn off flags 'a', 'u' and 'L'"
  | cannotTurnOffGlobal => "bad inline flags: cannot turn off global flag"
  | onAndOff => "bad inline flags: flag turned on and off"
  | variableLookbehind => "look-behind requires fixed-width pattern"

/-- A cause, with the position it was found at where it has one, or a count that is too large to be
handled at all or even to be read. -/
inductive Fault where
  | malformed (cause : Cause) (position : Option Nat)
  | countTooLarge
  | numeral (f : Text.NumeralFault)
  deriving DecidableEq, Repr

/-- What a reader of the given pattern is told. In a pattern of several lines the place is given by
line and column as well. -/
def Fault.message (source : List Char) : Fault → String
  | .countTooLarge => "the repetition number is too large"
  | .numeral f => f.message
  | .malformed cause none => cause.message
  | .malformed cause (some position) =>
    let before := source.take position
    let line := before.count '\n' + 1
    let column := (before.reverse.takeWhile (· != '\n')).length + 1
    let place := cause.message ++ " at position " ++ toString position
    if source.contains '\n' then
      place ++ " (line " ++ toString line ++ ", column " ++ toString column ++ ")"
    else place

/-! ### Tokens -/

/-- A character, or a backslash and the character behind it, with its position. -/
structure Token where
  chars : List Char
  position : Nat

/-- The tokens of a pattern from a position on, and the position of a backslash with nothing behind
it. -/
private def tokensFrom (position : Nat) : List Char → List Token × Option Nat
  | [] => ([], none)
  | ['\\'] => ([], some position)
  | '\\' :: c :: rest =>
    let (ts, dangling) := tokensFrom (position + 2) rest
    (⟨['\\', c], position⟩ :: ts, dangling)
  | c :: rest =>
    let (ts, dangling) := tokensFrom (position + 1) rest
    (⟨[c], position⟩ :: ts, dangling)

/-! ### State -/

/-- The flags in force. -/
structure Flags where
  ignoreCase : Bool
  multiLine : Bool
  dotAll : Bool
  asciiOnly : Bool
  verbose : Bool

/-- The number that stands for repetition without end. Counts stay below it. -/
def endless : Nat := 4294967295

/-- The least and the greatest number of characters that a term matches. Beyond bounds they are not
told apart: the least is never `endless`, and the greatest is never above it. -/
structure Width where
  low : Nat
  high : Nat
  deriving DecidableEq

namespace Width

/-- The width between two numbers, held within bounds. -/
def between (low high : Nat) : Width :=
  ⟨min low (endless - 1), min high endless⟩

/-- The width of one thing after another. -/
def plus (a b : Width) : Width :=
  between (a.low + b.low) (a.high + b.high)

/-- The width of one thing or another. -/
def join (a b : Width) : Width :=
  between (min a.low b.low) (max a.high b.high)

/-- The width of a repetition. -/
def times (low : Nat) (high : Option Nat) (w : Width) : Width :=
  between (w.low * low) (w.high * high.getD endless)

end Width

/-- What is left to read and what was learned on the way. -/
structure ReadState where
  tokens : List Token
  dangling : Option Nat
  ending : Nat
  flags : Flags
  /-- The widths of the groups opened so far, in order; none for a group that is still open. -/
  groups : List (Option Width)
  names : List (String × Nat)
  /-- How many groups there were when the outermost lookbehind was entered. -/
  lookbehindGroups : Option Nat
  /-- The groups that conditions ask about, with the place of their first mention. -/
  asked : List (Nat × Nat)
  /-- Whether a lookbehind was read that has no one width. -/
  variableLookbehind : Bool

abbrev Reader := StateT ReadState (Except Fault)

namespace Reader

/-- The position of the next token. -/
def position : Reader Nat := do
  let s ← get
  pure ((s.tokens.head?.map (·.position)).getD s.ending)

/-- Fails at a position. -/
def failAt {α : Type} (cause : Cause) (position : Nat) : Reader α :=
  throw (.malformed cause (some position))

/-- Fails `offset` characters before the next token. -/
def failBack {α : Type} (cause : Cause) (offset : Nat) : Reader α := do
  failAt cause ((← position) - offset)

/-- The next token, without taking it. -/
def peek : Reader (Option (List Char)) := do
  pure ((← get).tokens.head?.map (·.chars))

/-- Fails if a backslash with nothing behind it comes next. -/
def checkDangling : Reader Unit := do
  let s ← get
  match s.tokens, s.dangling with
  | [], some position => failAt .danglingEscape position
  | _, _ => pure ()

/-- Takes the next token. -/
def take : Reader (Option (List Char)) := do
  let s ← get
  match s.tokens with
  | [] => pure none
  | t :: rest => do
    set { s with tokens := rest }
    checkDangling
    pure (some t.chars)

/-- Takes the next token if it is a given character. -/
def accept (c : Char) : Reader Bool := do
  if (← peek) == some [c] then do
    let _ ← take
    pure true
  else pure false

/-- Takes up to `n` characters of a class. -/
def takeClass (p : Char → Bool) : Nat → Reader (List Char)
  | 0 => pure []
  | n + 1 => do
    match ← peek with
    | some [c] =>
      if p c then do
        let _ ← take
        let more ← takeClass p n
        pure (c :: more)
      else pure []
    | _ => pure []

/-- Takes everything up to a terminator, and the terminator; `fuel` bounds the tokens. -/
def takeUntil (terminator : Char) (what : String) : Nat → List Char → Reader (List Char)
  | 0, done => pure done
  | fuel + 1, done => do
    match ← take with
    | none =>
      if done.isEmpty then failBack (.missingName what) 0
      else failBack (.unterminatedName (String.singleton terminator)) done.length
    | some t =>
      if t == [terminator] then
        if done.isEmpty then failBack (.missingName what) 1 else pure done
      else takeUntil terminator what fuel (done ++ t)

/-- The number of tokens left, as a bound for loops. -/
def bound : Reader Nat := do
  pure ((← get).tokens.length + 1)

end Reader

open Reader

/-! ### Escapes -/

private def isOctal (c : Char) : Bool :=
  '0' ≤ c && c ≤ '7'

private def isHex (c : Char) : Bool :=
  (Text.hexValue? c).isSome

private def octalNumber (cs : List Char) : Nat :=
  cs.foldl (fun n c => 8 * n + (c.toNat - 0x30)) 0

private def decimalNumber (cs : List Char) : Nat :=
  cs.foldl (fun n c => 10 * n + (c.toNat - 0x30)) 0

/-- The control character that a letter stands for. -/
private def control? : Char → Option Char
  | 'a' => some '\x07'
  | 'b' => some '\x08'
  | 'f' => some '\x0c'
  | 'n' => some '\n'
  | 'r' => some '\r'
  | 't' => some '\t'
  | 'v' => some '\x0b'
  | '\\' => some '\\'
  | _ => none

/-- The class that a letter stands for. -/
private def category? (flags : Flags) : Char → Option Member
  | 'd' => some (.category .digit false flags.asciiOnly)
  | 'D' => some (.category .digit true flags.asciiOnly)
  | 's' => some (.category .space false flags.asciiOnly)
  | 'S' => some (.category .space true flags.asciiOnly)
  | 'w' => some (.category .word false flags.asciiOnly)
  | 'W' => some (.category .word true flags.asciiOnly)
  | _ => none

/-- An escape of exactly `count` hexadecimal digits. -/
private def hexEscape (letter : Char) (count : Nat) : Reader Char := do
  let digits ← takeClass isHex count
  let escape := '\\' :: letter :: digits
  if digits.length != count then
    failBack (.incompleteEscape (String.ofList escape)) escape.length
  else
    let n := (Text.hexNumber? digits).getD 0
    if 0x110000 ≤ n then failBack (.badEscape (String.ofList escape)) escape.length
    else pure (Char.ofNat n)

/-- An escape by the name of a character. -/
private def nameEscape : Reader Char := do
  if ← accept '{' then do
    let name ← takeUntil '}' "character name" (← bound) []
    match Text.codePointNamed? name with
    | some n => pure (Char.ofNat n)
    | none => failBack (.unknownCharacterName (String.ofList name)) (name.length + 4)
  else failBack .missingBrace 0

/-- The character that an escape without a meaning of its own stands for. -/
private def plainEscape (c : Char) : Reader Char :=
  if c.isAlpha then failBack (.badEscape (String.ofList ['\\', c])) 2 else pure c

/-- A member of a set, from an escape whose backslash and character were taken. -/
private def setEscape (flags : Flags) (c : Char) : Reader Member := do
  match control? c, category? flags c with
  | some d, _ => pure (.char d)
  | none, some m => pure m
  | none, none =>
    if c == 'x' then .char <$> hexEscape c 2
    else if c == 'u' then .char <$> hexEscape c 4
    else if c == 'U' then .char <$> hexEscape c 8
    else if c == 'N' then .char <$> nameEscape
    else if isOctal c then do
      let digits := c :: (← takeClass isOctal 2)
      if 0xff < octalNumber digits then
        failBack (.octalTooLarge (String.ofList ('\\' :: digits))) (digits.length + 1)
      else pure (.char (Char.ofNat (octalNumber digits)))
    else if c.isDigit then failBack (.badEscape (String.ofList ['\\', c])) 2
    else .char <$> plainEscape c

/-- How letters are compared under flags. -/
private def foldingOf (flags : Flags) : Folding :=
  if flags.ignoreCase then (if flags.asciiOnly then .ascii else .unicode) else .exact

/-- What an item of a sequence is to a repetition behind it. -/
inductive Role where
  | place
  | repetition
  | other
  deriving DecidableEq

/-- A term as part of a sequence. -/
structure Item where
  term : Term
  width : Width
  role : Role

/-- An item for a set of characters. -/
private def setItem (flags : Flags) (negated : Bool) (members : List Member) : Item :=
  ⟨.one ⟨negated, members, foldingOf flags⟩, ⟨1, 1⟩, .other⟩

/-- An item for a place. -/
private def anchorItem (a : Anchor) : Item :=
  ⟨.anchor a, ⟨0, 0⟩, .place⟩

/-- The width of a group that was closed. -/
private def closedWidth? (s : ReadState) (number : Nat) : Option Width :=
  if number = 0 then none else (s.groups[number - 1]?).join

/-- Fails if a group may not be referred to from inside the lookbehind that is being read. -/
private def checkLookbehind (number : Nat) : Reader Unit := do
  let s ← get
  match s.lookbehindGroups with
  | none => pure ()
  | some count => do
    if (closedWidth? s number).isNone then failBack .openGroup 0
    if count ≤ number then failBack .groupInLookbehind 0

/-- An item for a reference to a group; `length` is how long the reference is in the pattern. -/
private def referenceItem (flags : Flags) (number length : Nat) : Reader Item := do
  match closedWidth? (← get) number with
  | none => failBack .openGroup length
  | some w => do
    checkLookbehind number
    pure ⟨.reference number (foldingOf flags), w, .other⟩

/-- An escape that starts with a digit other than zero: three octal digits, or a reference. -/
private def digitEscape (flags : Flags) (c : Char) : Reader Item := do
  let second ← takeClass Char.isDigit 1
  let third ← match second with
    | [d] => if isOctal c && isOctal d then takeClass isOctal 1 else pure []
    | _ => pure []
  let digits := c :: second ++ third
  if third.length = 1 then
    if 0xff < octalNumber digits then
      failBack (.octalTooLarge (String.ofList ('\\' :: digits))) (digits.length + 1)
    else pure (setItem flags false [.char (Char.ofNat (octalNumber digits))])
  else
    let number := decimalNumber digits
    if number < (← get).groups.length + 1 then referenceItem flags number (digits.length + 1)
    else failBack (.invalidReference number) digits.length

/-- An item from an escape whose backslash and character were taken. -/
private def escapeItem (flags : Flags) (c : Char) : Reader Item := do
  let single (d : Char) : Item := setItem flags false [.char d]
  if c == 'A' then pure (anchorItem .textStart)
  else if c == 'Z' then pure (anchorItem .textEnd)
  else if c == 'b' then pure (anchorItem (.wordBoundary false flags.asciiOnly))
  else if c == 'B' then pure (anchorItem (.wordBoundary true flags.asciiOnly))
  else
    match category? flags c, control? c with
    | some m, _ => pure (setItem flags false [m])
    | none, some d => pure (single d)
    | none, none =>
      if c == 'x' then single <$> hexEscape c 2
      else if c == 'u' then single <$> hexEscape c 4
      else if c == 'U' then single <$> hexEscape c 8
      else if c == 'N' then single <$> nameEscape
      else if c == '0' then do
        let digits ← takeClass isOctal 2
        pure (single (Char.ofNat (octalNumber digits)))
      else if c.isDigit then digitEscape flags c
      else single <$> plainEscape c

/-! ### Sets -/

/-- A member of a set, from its first token. -/
private def setMember (flags : Flags) : List Char → Reader Member
  | ['\\', c] => setEscape flags c
  | c :: _ => pure (.char c)
  | [] => pure .any

/-- The members of a set up to its closing bracket; `start` is where the set was opened. -/
private def setMembers (flags : Flags) (start : Nat) :
    Nat → List Member → Reader (List Member)
  | 0, done => pure done
  | fuel + 1, done => do
    match ← take with
    | none => failAt .unterminatedSet start
    | some first =>
      if first == [']'] && !done.isEmpty then pure done
      else do
        let low ← setMember flags first
        if ← accept '-' then
          match ← take with
          | none => failAt .unterminatedSet start
          | some second =>
            if second == [']'] then pure (done ++ [low, .char '-'])
            else do
              let high ← setMember flags second
              let bad : Reader (List Member) :=
                failBack (.badRange (String.ofList first) (String.ofList second))
                  (first.length + 1 + second.length)
              match low, high with
              | .char a, .char b =>
                if b < a then bad else setMembers flags start fuel (done ++ [.range a b])
              | _, _ => bad
        else setMembers flags start fuel (done ++ [low])

/-! ### Repetitions -/

/-- The counts of a repetition in braces, from behind the opening one; none if the braces hold
something else. -/
private def bracedCounts? : Reader (Option (Nat × Option Nat)) := do
  let saved ← get
  let here ← position
  let low ← takeClass Char.isDigit (← bound)
  let comma ← accept ','
  let high ← if comma then takeClass Char.isDigit (← bound) else pure low
  if ← accept '}' then do
    let check (ds : List Char) : Reader Unit := do
      if Text.digitLimit < ds.length then throw (.numeral (.tooLongToRead ds.length))
      if endless ≤ decimalNumber ds then throw .countTooLarge
    check low
    if comma then check high
    if !high.isEmpty && decimalNumber high < decimalNumber low then failAt .minAboveMax here
    pure (some (decimalNumber low, if high.isEmpty then none else some (decimalNumber high)))
  else do
    set saved
    pure none

/-- Puts a repetition in place of the last of several items, which are given in reverse. -/
private def repeatLast (position low : Nat) (high : Option Nat) (items : List Item) :
    Reader (List Item) := do
  match items with
  | [] => failAt .nothingToRepeat position
  | item :: rest =>
    match item.role with
    | .place => failAt .nothingToRepeat position
    | .repetition => failAt .multipleRepeat position
    | .other => do
      let isLazy ← accept '?'
      let isPossessive ← if isLazy then pure false else accept '+'
      let greed : Greed :=
        if isLazy then .lazy else if isPossessive then .possessive else .greedy
      pure (⟨.repeated low high greed item.term, item.width.times low high, .repetition⟩ :: rest)

/-! ### Flags -/

/-- Changes of flags that a group asks for. -/
private structure FlagChange where
  letters : List Char
  removed : List Char

private def isFlag (c : Char) : Bool :=
  ['i', 'L', 'm', 's', 'x', 'a', 't', 'u'].contains c

/-- The flags after a change. -/
private def FlagChange.apply (change : FlagChange) (flags : Flags) : Flags :=
  let on (c : Char) (now : Bool) := (now || change.letters.contains c) && !change.removed.contains c
  { ignoreCase := on 'i' flags.ignoreCase
    multiLine := on 'm' flags.multiLine
    dotAll := on 's' flags.dotAll
    verbose := on 'x' flags.verbose
    asciiOnly :=
      if change.letters.contains 'a' then true
      else if change.letters.contains 'u' then false
      else flags.asciiOnly }

/-- The letters that turn flags on, and the token behind them. -/
private def flagsOn : Nat → List Char → Char → Reader (List Char × Char)
  | 0, done, c => pure (done, c)
  | fuel + 1, done, c => do
    if c == 'L' then failBack .flagL 0
    let done := done ++ [c]
    if done.contains 'a' && done.contains 'u' then failBack .incompatibleFlags 0
    match ← take with
    | none => failBack .missingFlagEnd 0
    | some [d] =>
      if d == ')' || d == '-' || d == ':' then pure (done, d)
      else if isFlag d then flagsOn fuel done d
      else failBack (if Text.isLetter d then .unknownFlag
        else .missingFlagEnd) 1
    | some t => failBack .missingFlagEnd t.length

/-- The letters that turn flags off, up to the colon. -/
private def flagsOff : Nat → List Char → Char → Reader (List Char)
  | 0, done, _ => pure done
  | fuel + 1, done, c => do
    if c == 'a' || c == 'u' || c == 'L' then failBack .cannotTurnOff 0
    let done := done ++ [c]
    match ← take with
    | none => failBack .missingColon 0
    | some [d] =>
      if d == ':' then pure done
      else if isFlag d then flagsOff fuel done d
      else failBack (if Text.isLetter d then .unknownFlag
        else .missingColon) 1
    | some t => failBack .missingColon t.length

/-- A change of flags, from its first letter; the flag tells whether it holds for the whole
pattern. -/
private def flagChange (first : Char) : Reader (FlagChange × Bool) := do
  let fuel ← bound
  let (letters, stop) ← if first == '-' then pure ([], '-') else flagsOn fuel [] first
  if stop == ')' then pure (⟨letters, []⟩, true)
  else do
    if letters.contains 't' then failBack .cannotTurnOn 1
    let removed ←
      if stop == '-' then do
        match ← take with
        | none => failBack .missingFlag 0
        | some [d] =>
          if isFlag d then flagsOff fuel [] d
          else failBack (if Text.isLetter d then .unknownFlag
            else .missingFlag) 1
        | some t => failBack .missingFlag t.length
      else pure []
    if removed.contains 't' then failBack .cannotTurnOffGlobal 1
    if letters.any removed.contains then failBack .onAndOff 1
    pure (⟨letters, removed⟩, false)

/-! ### Groups -/

/-- The name of a group up to a terminator. -/
private def groupName (terminator : Char) : Reader String := do
  let name ← takeUntil terminator "group name" (← bound) []
  if Text.isIdentifier name then pure (String.ofList name)
  else failBack (.badGroupName (String.ofList name)) (name.length + 1)

/-- Opens a group and gives its number. -/
private def openGroup (name : Option String) : Reader Nat := do
  let s ← get
  let number := s.groups.length + 1
  match name with
  | none => set { s with groups := s.groups ++ [none] }
  | some name => do
    match s.names.find? (fun n => n.1 == name) with
    | some (_, earlier) =>
      failBack (.redefinedGroup name number earlier) (name.length + 1)
    | none => set { s with groups := s.groups ++ [none], names := s.names ++ [(name, number)] }
  pure number

/-- Closes a group that has the given width. -/
private def closeGroup (number : Nat) (width : Width) : Reader Unit :=
  modify fun s => { s with groups := s.groups.set (number - 1) (some width) }

/-- A reference by name, from behind `(?P=`. -/
private def namedReference (flags : Flags) : Reader Item := do
  let name ← groupName ')'
  match (← get).names.find? (fun n => n.1 == name) with
  | none => failBack (.unknownGroupName name) (name.length + 1)
  | some (_, number) => referenceItem flags number (name.length + 1)

/-- The group that a condition asks about, from behind `(?(`. -/
private def askedGroup : Reader Nat := do
  let name ← takeUntil ')' "group name" (← bound) []
  let text := String.ofList name
  let bad : Reader Nat := failBack (.badGroupName text) (name.length + 1)
  if Text.isIdentifier name then
    match (← get).names.find? (fun n => n.1 == text) with
    | none => failBack (.unknownGroupName text) (name.length + 1)
    | some (_, number) => pure number
  else
    match Text.numeralParts? name with
    | none => bad
    | some (negative, digits) => do
    let number := Text.ofDigits digits
    if Text.digitLimit < digits.length || (negative && number != 0) then return ← bad
    if number = 0 then failBack .badGroupNumber (name.length + 1)
    if 1073741823 ≤ number then failBack (.invalidReference number) (name.length + 1)
    let place := (← position) - name.length - 1
    modify fun s =>
      if s.asked.any (fun a => a.1 == number) then s
      else { s with asked := s.asked ++ [(number, place)] }
    pure number

/-- Skips a comment, from behind `(?#`. -/
private def skipComment (start : Nat) : Nat → Reader Unit
  | 0 => pure ()
  | fuel + 1 => do
    match ← take with
    | none => failAt .unterminatedComment start
    | some t => if t == [')'] then pure () else skipComment start fuel

/-- Skips a comment of verbose patterns, up to the end of its line. -/
private def skipLine : Nat → Reader Unit
  | 0 => pure ()
  | fuel + 1 => do
    match ← take with
    | none => pure ()
    | some t => if t == ['\n'] then pure () else skipLine fuel

/-- The items of a sequence, given in reverse, as one item. -/
private def sequence (items : List Item) : Item :=
  let join (acc item : Item) : Item := ⟨.seq item.term acc.term, item.width.plus acc.width, .other⟩
  match items with
  | [] => ⟨.empty, ⟨0, 0⟩, .other⟩
  | [item] => { item with role := .other }
  | last :: rest => rest.foldl join { last with role := .other }

/-- Takes the parenthesis that closes a group opened at `start`. -/
private def close (start : Nat) : Reader Unit := do
  if ← accept ')' then pure () else failAt .unterminatedGroup start

mutual

/-- Alternatives up to the end of their group. -/
private def alternatives : Nat → Bool → Flags → Reader Item
  | 0, _, _ => failBack .unexpectedEnd 0
  | fuel + 1, nested, flags => do
    let first ← sequenceItems fuel (!nested) flags []
    moreAlternatives fuel nested flags (sequence first)

/-- The alternatives behind a first one. -/
private def moreAlternatives : Nat → Bool → Flags → Item → Reader Item
  | 0, _, _, _ => failBack .unexpectedEnd 0
  | fuel + 1, nested, flags, done => do
    if ← accept '|' then do
      let flags ← if nested then pure flags else pure (← get).flags
      let next := sequence (← sequenceItems fuel false flags [])
      let rest ← moreAlternatives fuel nested flags next
      pure ⟨.alt done.term rest.term, done.width.join rest.width, .other⟩
    else pure done

/-- The items of a sequence in reverse, behind those in `done`; `first` tells whether flags for the
whole pattern may still come. -/
private def sequenceItems : Nat → Bool → Flags → List Item → Reader (List Item)
  | 0, _, _, _ => failBack .unexpectedEnd 0
  | fuel + 1, first, flags, done => do
    let start ← position
    match ← peek with
    | none => pure done
    | some token => do
      if token == ['|'] || token == [')'] then pure done
      else do
        let _ ← take
        let goOn (item : Item) := sequenceItems fuel first flags (item :: done)
        match token with
        | ['\\', c] => goOn (← escapeItem flags c)
        | [c] =>
          if flags.verbose && [' ', '\t', '\n', '\r', '\x0b', '\x0c'].contains c then
            sequenceItems fuel first flags done
          else if flags.verbose && c == '#' then do
            skipLine (← bound)
            sequenceItems fuel first flags done
          else if c == '[' then do
            let negated ← accept '^'
            let members ← setMembers flags start (← bound) []
            goOn (setItem flags negated members)
          else if c == '?' then
            sequenceItems fuel first flags (← repeatLast start 0 (some 1) done)
          else if c == '*' then
            sequenceItems fuel first flags (← repeatLast start 0 none done)
          else if c == '+' then
            sequenceItems fuel first flags (← repeatLast start 1 none done)
          else if c == '{' then do
            if (← peek) == some ['}'] then goOn (setItem flags false [.char c])
            else
              match ← bracedCounts? with
              | none => goOn (setItem flags false [.char c])
              | some (low, high) =>
                sequenceItems fuel first flags (← repeatLast start low high done)
          else if c == '.' then
            goOn (if flags.dotAll then setItem flags false [.any]
              else setItem flags true [.char '\n'])
          else if c == '^' then goOn (anchorItem (if flags.multiLine then .lineStart else .textStart))
          else if c == '$' then
            goOn (anchorItem (if flags.multiLine then .lineEnd else .textEndOrNewline))
          else if c == '(' then do
            if ← accept '?' then extension fuel first flags start done
            else do
              let number ← openGroup none
              let body ← alternatives fuel true flags
              close start
              closeGroup number body.width
              goOn ⟨.group number body.term, body.width, .other⟩
          else goOn (setItem flags false [.char c])
        | _ => pure done

/-- A group that starts with `(?`, and the items behind it. -/
private def extension : Nat → Bool → Flags → Nat → List Item → Reader (List Item)
  | 0, _, _, _, _ => failBack .unexpectedEnd 0
  | fuel + 1, first, flags, start, done => do
    let goOn (item : Item) := sequenceItems fuel first flags (item :: done)
    match ← take with
    | none => failBack .unexpectedEnd 0
    | some token =>
      let unknown : Reader (List Item) :=
        failBack (.unknownExtension (String.ofList ('?' :: token))) (token.length + 1)
      match token with
      | ['P'] =>
        if ← accept '<' then do
          let name ← groupName '>'
          let number ← openGroup (some name)
          let body ← alternatives fuel true flags
          close start
          closeGroup number body.width
          goOn ⟨.group number body.term, body.width, .other⟩
        else if ← accept '=' then goOn (← namedReference flags)
        else
          match ← take with
          | none => failBack .unexpectedEnd 0
          | some t => failBack (.unknownExtension ("?P" ++ String.ofList t)) (t.length + 2)
      | [':'] => do
        let body ← alternatives fuel true flags
        close start
        goOn body
      | ['>'] => do
        let body ← alternatives fuel true flags
        close start
        goOn ⟨.atomic body.term, body.width, .other⟩
      | ['#'] => do
        skipComment start (← bound)
        sequenceItems fuel first flags done
      | ['='] | ['!'] => do
        let body ← alternatives fuel true flags
        close start
        goOn ⟨.ahead (token == ['!']) body.term, ⟨0, 0⟩, .other⟩
      | ['<'] =>
        match ← take with
        | none => failBack .unexpectedEnd 0
        | some t =>
          if t == ['='] || t == ['!'] then do
            let outer := (← get).lookbehindGroups
            modify fun s =>
              { s with lookbehindGroups := some (outer.getD (s.groups.length + 1)) }
            let body ← alternatives fuel true flags
            modify fun s => { s with lookbehindGroups := outer }
            close start
            -- the width is checked when the whole pattern has been read
            let oneWidth := body.width.high == body.width.low
            modify fun s => { s with variableLookbehind := s.variableLookbehind || !oneWidth }
            goOn ⟨.behind body.width.low (t == ['!']) body.term, ⟨0, 0⟩, .other⟩
          else
            failBack (.unknownExtension ("?<" ++ String.ofList t)) (t.length + 2)
      | ['('] => do
        let number ← askedGroup
        checkLookbehind number
        let yes := sequence (← sequenceItems fuel false flags [])
        let hasNo ← accept '|'
        let no ← if hasNo then sequence <$> sequenceItems fuel false flags [] else pure (sequence [])
        if hasNo && (← peek) == some ['|'] then failBack .tooManyBranches 0
        close start
        let width : Width :=
          if hasNo then yes.width.join no.width else ⟨0, yes.width.high⟩
        goOn ⟨.ifGroup number yes.term no.term, width, .other⟩
      | [c] =>
        if isFlag c || c == '-' then do
          let (change, whole) ← flagChange c
          if whole then do
            modify fun s => { s with flags := change.apply s.flags }
            if !first || !done.isEmpty then failAt .flagsNotAtStart start
            sequenceItems fuel first (← get).flags done
          else do
            let body ← alternatives fuel true (change.apply flags)
            close start
            goOn body
        else unknown
      | _ => unknown

end

/-- A whole pattern. -/
private def wholePattern (fuel : Nat) : Reader Term := do
  checkDangling
  let item ← alternatives fuel false (← get).flags
  if (← peek).isSome then failBack .unbalanced 0
  let s ← get
  match s.asked.find? (fun a => s.groups.length < a.1) with
  | some (number, place) => failAt (.invalidReference number) place
  | none => pure ()
  if s.variableLookbehind then throw (.malformed .variableLookbehind none)
  pure item.term

/-- The term that a pattern stands for. -/
def read (source : List Char) : Except Fault Term :=
  let (tokens, dangling) := tokensFrom 0 source
  let start : ReadState := {
    tokens, dangling
    ending := source.length
    flags := ⟨false, false, false, false, false⟩
    groups := [], names := [], lookbehindGroups := none, asked := []
    variableLookbehind := false }
  ((wholePattern (4 * source.length + 8)).run start).map (·.1)

end Pattern

/-- A pattern as it was written, with the term it stands for. -/
structure Pattern where
  source : String
  term : Pattern.Term

namespace Pattern

/-- Reads a pattern. -/
def compile (source : String) : Except Fault Pattern :=
  (read source.toList).map fun term => ⟨source, term⟩

/-- Whether a pattern matches anywhere in a text. -/
def occursIn (p : Pattern) (s : String) : Bool :=
  p.term.occursIn s

end Pattern
end RouteHelpers
