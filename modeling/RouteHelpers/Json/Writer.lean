import RouteHelpers.Value.Basic

/-!
JSON text of values, in compact form.

Texts are written in one of two alphabets: in full, or with every character beyond ASCII as an
escape. A value that JSON has no form for, such as a date, is refused with the kind of the value, and so
are a collection that holds itself and an integer that is too long.
-/

namespace RouteHelpers.Json

/-- The characters that may stand in written text. -/
inductive Alphabet where
  | full
  | ascii
  deriving DecidableEq, Repr

/-- Why a value has no JSON form. -/
inductive WriteFault where
  | value (kind : String)
  | key (kind : String)
  | numeral (f : Text.NumeralFault)
  /-- A collection holds itself. -/
  | circular
  deriving DecidableEq, Repr

namespace WriteFault

/-- What a reader is told. -/
def message : WriteFault → String
  | value kind => "Object of type " ++ kind ++ " is not JSON serializable"
  | key kind => "keys must be str, int, float, bool or None, not " ++ kind
  | numeral f => f.message
  | circular => "Circular reference detected"

end WriteFault

/-! ### Texts -/

/-- An escape of four digits. -/
private def unitEscape (n : Nat) : List Char :=
  ['\\', 'u'] ++ Text.hex 4 n

/-- A character beyond ASCII as one escape, or as two where it needs a surrogate pair. -/
private def wideEscape (c : Char) : List Char :=
  let n := c.toNat
  if n < 0x10000 then unitEscape n
  else unitEscape (0xd800 + (n - 0x10000) / 0x400) ++ unitEscape (0xdc00 + (n - 0x10000) % 0x400)

/-- A character inside a JSON text. -/
def writeChar (alphabet : Alphabet) (c : Char) : List Char :=
  if c = '"' then ['\\', '"']
  else if c = '\\' then ['\\', '\\']
  else if c = '\n' then ['\\', 'n']
  else if c = '\r' then ['\\', 'r']
  else if c = '\t' then ['\\', 't']
  else if c = '\x0c' then ['\\', 'f']
  else if c = '\x08' then ['\\', 'b']
  else if c.toNat < 0x20 then unitEscape c.toNat
  else if alphabet = .ascii && 0x7f ≤ c.toNat then wideEscape c
  else [c]

/-- A text between double quotes. -/
def writeText (alphabet : Alphabet) (s : String) : String :=
  String.ofList ('"' :: s.toList.flatMap (writeChar alphabet) ++ ['"'])

/-! ### Values -/

/-- Text of a floating-point number. -/
def writeFloat : Binary64 → String
  | .notANumber => "NaN"
  | .infinite false => "Infinity"
  | .infinite true => "-Infinity"
  | x => x.text

/-- Text of an integer. -/
def writeInteger (i : Int) : Except WriteFault String :=
  (Text.writeInteger i).mapError .numeral

/-- The text that a key is written as. -/
def keyText : Value → Except WriteFault String
  | .text s => .ok s
  | .null => .ok "null"
  | .bool true => .ok "true"
  | .bool false => .ok "false"
  | .int i => writeInteger i
  | .float x => .ok (writeFloat x)
  | v => .error (.key v.fullKind)

mutual

/-- A value as JSON text without blanks. -/
def write (alphabet : Alphabet) : Value → Except WriteFault String
  | .null => .ok "null"
  | .bool true => .ok "true"
  | .bool false => .ok "false"
  | .int i => writeInteger i
  | .float x => .ok (writeFloat x)
  | .text s => .ok (writeText alphabet s)
  | .list items => do
    let parts ← writeItems alphabet items
    .ok ("[" ++ Text.joinWith "," parts ++ "]")
  | .tuple items => do
    let parts ← writeItems alphabet items
    .ok ("[" ++ Text.joinWith "," parts ++ "]")
  | .map entries => do
    let parts ← writeEntries alphabet entries
    .ok ("\x7b" ++ Text.joinWith "," parts ++ "\x7d")
  | .again .. => .error .circular
  | v => .error (.value v.kind)

/-- Several values as JSON texts. -/
def writeItems (alphabet : Alphabet) : List Value → Except WriteFault (List String)
  | [] => .ok []
  | v :: rest => do
    let first ← write alphabet v
    let more ← writeItems alphabet rest
    .ok (first :: more)

/-- The entries of a mapping as JSON texts. -/
def writeEntries (alphabet : Alphabet) : List (Value × Value) → Except WriteFault (List String)
  | [] => .ok []
  | (k, v) :: rest => do
    let key ← keyText k
    let value ← write alphabet v
    let more ← writeEntries alphabet rest
    .ok ((writeText alphabet key ++ ":" ++ value) :: more)

end

end RouteHelpers.Json
