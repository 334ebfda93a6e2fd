import RouteHelpers.Value.Basic

/-!
Reading JSON documents.

A fault names what was expected and where; its message counts lines and columns from one and
characters from zero. How deep lists and mappings may be nested is up to the host. Beside the standard
grammar the numbers `NaN`, `Infinity` and `-Infinity` are read. A number without fraction and exponent is
an integer of any size, every other a floating-point number. Of two entries under one key the first keeps
its place and the last gives the value.
-/

namespace RouteHelpers.Json

/-- Why a document cannot be read. -/
inductive Cause where
  | value
  | extraData
  | propertyName
  | colon
  | comma
  | controlCharacter
  | unterminated
  | escape
  | unicodeEscape
  | byteOrderMark
  /-- An integer is too long; this has no place. -/
  | numeral (f : Text.NumeralFault)
  /-- Lists and mappings are nested deeper than the reader goes; this has no place. -/
  | tooDeep (collection : String)
  deriving DecidableEq, Repr

/-- A cause and the position, in characters, that it was found at. -/
structure ReadFault where
  cause : Cause
  position : Nat
  deriving DecidableEq, Repr

/-- What a reader is told about a cause. -/
def Cause.message : Cause → String
  | value => "Expecting value"
  | extraData => "Extra data"
  | propertyName => "Expecting property name enclosed in double quotes"
  | colon => "Expecting ':' delimiter"
  | comma => "Expecting ',' delimiter"
  | controlCharacter => "Invalid control character at"
  | unterminated => "Unterminated string starting at"
  | escape => "Invalid \\escape"
  | unicodeEscape => "Invalid \\uXXXX escape"
  | byteOrderMark => "Unexpected UTF-8 BOM (decode using utf-8-sig)"
  | numeral f => f.message
  | tooDeep collection =>
    "maximum recursion depth exceeded while decoding a JSON " ++ collection ++ " from a unicode string"

/-- What a reader of the given document is told. -/
def ReadFault.message (document : List Char) (f : ReadFault) : String :=
  let before := document.take f.position
  let line := before.count '\n' + 1
  let column := (before.reverse.takeWhile (· != '\n')).length + 1
  match f.cause with
  | .numeral fault => fault.message
  | .tooDeep collection => (Cause.tooDeep collection).message
  | cause => cause.message ++ ": line " ++ toString line ++ " column " ++ toString column ++
    " (char " ++ toString f.position ++ ")"

/-- What is left to read, and how many characters were read before it. -/
structure Cursor where
  rest : List Char
  position : Nat

namespace Cursor

/-- A cursor after its next `n` characters. -/
def advance (n : Nat) (c : Cursor) : Cursor :=
  ⟨c.rest.drop n, c.position + n⟩

/-- The fault of a cause at a cursor. -/
def fault {α : Type} (cause : Cause) (c : Cursor) : Except ReadFault α :=
  .error ⟨cause, c.position⟩

/-- A cursor after the blanks that follow it. -/
def skipBlanks (c : Cursor) : Cursor :=
  let blanks := c.rest.takeWhile fun x => x == ' ' || x == '\t' || x == '\n' || x == '\r'
  c.advance blanks.length

end Cursor

/-! ### Texts -/

/-- The character that a letter stands for after a backslash. -/
private def shortEscape? : Char → Option Char
  | '"' => some '"'
  | '\\' => some '\\'
  | '/' => some '/'
  | 'b' => some '\x08'
  | 'f' => some '\x0c'
  | 'n' => some '\n'
  | 'r' => some '\r'
  | 't' => some '\t'
  | _ => none

/-- The low half of a surrogate pair that an escape at the start of a list gives. -/
private def lowSurrogate? : List Char → Except Unit (Option Nat)
  | '\\' :: 'u' :: rest =>
    match rest.drop 4 with
    | [] => .ok none
    | _ :: _ =>
      match Text.hexNumber? (rest.take 4) with
      | none => .error ()
      | some n => .ok (if 0xdc00 ≤ n && n < 0xe000 then some n else none)
  | _ => .ok none

/-- The rest of a text whose opening quote stood at `start`; `done` is what was read, in reverse. The
first argument bounds the characters that are left. -/
private def readTextFrom (start : Nat) :
    Nat → List Char → Cursor → Except ReadFault (String × Cursor)
  | 0, _, _ => .error ⟨.unterminated, start⟩
  | fuel + 1, done, c =>
    match c.rest with
    | [] => .error ⟨.unterminated, start⟩
    | '"' :: _ => .ok (String.ofList done.reverse, c.advance 1)
    | '\\' :: 'u' :: rest =>
      if rest.length < 5 then (c.advance 1).fault .unicodeEscape
      else
        match Text.hexNumber? (rest.take 4) with
        | none => (c.advance 1).fault .unicodeEscape
        | some n =>
          if 0xd800 ≤ n && n < 0xdc00 then
            match lowSurrogate? (rest.drop 4) with
            | .error () => (c.advance 7).fault .unicodeEscape
            | .ok (some low) =>
              let joined := 0x10000 + (n - 0xd800) * 0x400 + (low - 0xdc00)
              readTextFrom start fuel (Char.ofNat joined :: done) (c.advance 12)
            | .ok none => readTextFrom start fuel ('\ufffd' :: done) (c.advance 6)
          else if 0xdc00 ≤ n && n < 0xe000 then
            readTextFrom start fuel ('\ufffd' :: done) (c.advance 6)
          else readTextFrom start fuel (Char.ofNat n :: done) (c.advance 6)
    | '\\' :: letter :: _ =>
      match shortEscape? letter with
      | none => c.fault .escape
      | some x => readTextFrom start fuel (x :: done) (c.advance 2)
    | ['\\'] => .error ⟨.unterminated, start⟩
    | x :: _ =>
      if x.toNat < 0x20 then c.fault .controlCharacter
      else readTextFrom start fuel (x :: done) (c.advance 1)

/-- A text, from behind its opening quote. -/
private def readText (c : Cursor) : Except ReadFault (String × Cursor) :=
  readTextFrom (c.position - 1) (c.rest.length + 1) [] c

/-! ### Numbers -/

/-- The value of a decimal digit. -/
private def digitValue (c : Char) : Nat :=
  c.toNat - 0x30

/-- The natural number that decimal digits write. -/
private def natOfDigits (digits : List Char) : Nat :=
  Text.ofDigits (digits.map digitValue)

/-- The parts of a number at the start of a list: sign, whole digits, the digits after the point, and
the exponent. -/
private structure NumberParts where
  negative : Bool
  whole : List Char
  fraction : Option (List Char)
  exponent : Option Int
  length : Nat

/-- The longest number at the start of a list. A point or exponent mark without digits is not part
of it. -/
private def numberParts? (cs : List Char) : Option NumberParts :=
  let negative := cs.head? == some '-'
  let unsigned := if negative then cs.drop 1 else cs
  let digits := unsigned.takeWhile Char.isDigit
  let whole := if unsigned.head? == some '0' then ['0'] else digits
  if whole.isEmpty then none
  else
    let rest := unsigned.drop whole.length
    let fraction := match rest with
      | '.' :: more =>
        let ds := more.takeWhile Char.isDigit
        if ds.isEmpty then none else some ds
      | _ => none
    let rest := (fraction.map fun ds => rest.drop (ds.length + 1)).getD rest
    let exponent : Option (Int × Nat) := match rest with
      | e :: more =>
        if e == 'e' || e == 'E' then
          let signed := more.head? == some '+' || more.head? == some '-'
          let ds := (if signed then more.drop 1 else more).takeWhile Char.isDigit
          let n : Int := natOfDigits ds
          if ds.isEmpty then none
          else some (if more.head? == some '-' then -n else n, ds.length + (if signed then 2 else 1))
        else none
      | [] => none
    some {
      negative
      whole
      fraction
      exponent := exponent.map (·.1)
      length := (if negative then 1 else 0) + whole.length +
        ((fraction.map fun ds => ds.length + 1).getD 0) + ((exponent.map (·.2)).getD 0) }

/-- The value of a number. -/
private def NumberParts.value (p : NumberParts) : Except Text.NumeralFault Value :=
  match p.fraction, p.exponent with
  | none, none => do
    let n ← Text.readDigits (p.whole.map digitValue)
    .ok (.int (if p.negative then -(n : Int) else n))
  | fraction, exponent =>
    let places := fraction.getD []
    .ok <| .float <| .ofDecimal p.negative (natOfDigits (p.whole ++ places))
      (exponent.getD 0 - places.length)

/-! ### Values -/

/-- A value that is a word or a number, if there is one at the cursor. -/
private def readPlain (c : Cursor) : Except ReadFault (Value × Cursor) :=
  let words : List (String × Value) :=
    [("null", .null), ("true", .bool true), ("false", .bool false), ("NaN", .float .notANumber),
      ("Infinity", .float (.infinite false)), ("-Infinity", .float (.infinite true))]
  match words.find? (fun w => w.1.toList.isPrefixOf c.rest) with
  | some w => .ok (w.2, c.advance w.1.length)
  | none =>
    match numberParts? c.rest with
    | some p =>
      match p.value with
      | .ok v => .ok (v, c.advance p.length)
      | .error f => c.fault (.numeral f)
    | none => c.fault .value

mutual

/-- The value at a cursor. The first argument bounds the steps that are left, the second how deep lists and
mappings may still be nested. -/
private def readValue : Nat → Nat → Cursor → Except ReadFault (Value × Cursor)
  | 0, _, c => c.fault .value
  | fuel + 1, depth, c =>
    match c.rest with
    | '"' :: _ => do
      let (s, c) ← readText (c.advance 1)
      .ok (.text s, c)
    | '[' :: _ =>
      let inner := (c.advance 1).skipBlanks
      match depth, inner.rest with
      | 0, _ => c.fault (.tooDeep "array")
      | _, ']' :: _ => .ok (.list [], inner.advance 1)
      | depth + 1, _ => readItems fuel depth [] inner
    | '{' :: _ =>
      let inner := (c.advance 1).skipBlanks
      match depth, inner.rest with
      | 0, _ => c.fault (.tooDeep "object")
      | _, '}' :: _ => .ok (.map [], inner.advance 1)
      | depth + 1, _ => readMembers fuel depth [] inner
    | _ => readPlain c

/-- The rest of a list, from the start of an item; `done` holds the items read, in reverse. -/
private def readItems : Nat → Nat → List Value → Cursor → Except ReadFault (Value × Cursor)
  | 0, _, _, c => c.fault .value
  | fuel + 1, depth, done, c => do
    let (v, c) ← readValue fuel depth c
    let c := c.skipBlanks
    match c.rest with
    | ']' :: _ => .ok (.list (v :: done).reverse, c.advance 1)
    | ',' :: _ => readItems fuel depth (v :: done) (c.advance 1).skipBlanks
    | _ => c.fault .comma

/-- The rest of a mapping, from the start of a key; `done` holds the entries read. -/
private def readMembers : Nat → Nat → Entries → Cursor → Except ReadFault (Value × Cursor)
  | 0, _, _, c => c.fault .value
  | fuel + 1, depth, done, c =>
    match c.rest with
    | '"' :: _ => do
      let (key, c) ← readText (c.advance 1)
      let c := c.skipBlanks
      match c.rest with
      | ':' :: _ =>
        let (v, c) ← readValue fuel depth (c.advance 1).skipBlanks
        let c := c.skipBlanks
        let done := done.set (.text key) v
        match c.rest with
        | '}' :: _ => .ok (.map done, c.advance 1)
        | ',' :: _ => readMembers fuel depth done (c.advance 1).skipBlanks
        | _ => c.fault .comma
      | _ => c.fault .colon
    | _ => c.fault .propertyName

end

/-- The value of a document. Lists and mappings nested deeper than `depth` are not read. -/
def read (depth : Nat) (document : List Char) : Except ReadFault Value :=
  if document.head? == some '\ufeff' then .error ⟨.byteOrderMark, 0⟩
  else do
    let start : Cursor := ⟨document, 0⟩
    let (v, c) ← readValue (2 * document.length + 4) depth start.skipBlanks
    let c := c.skipBlanks
    if c.rest.isEmpty then .ok v else c.fault .extraData

end RouteHelpers.Json
