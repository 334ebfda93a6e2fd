import RouteHelpers.Text.Table.Letter
import RouteHelpers.Text.Table.Digit
import RouteHelpers.Text.Table.Identifier
import RouteHelpers.Text.Table.Unprintable

/-!
Character classes.

Every class is decided by a plain rule on ASCII and by a table of closed ranges beyond it, so that a
statement about ASCII text never has to look into a table. `isWord_of_ascii` and its companions are
the ASCII halves.
-/

namespace RouteHelpers.Text

/-- Whether a code point lies in one of the closed ranges. -/
def inRanges (table : Array (Nat × Nat)) (n : Nat) : Bool :=
  table.any fun r => r.1 ≤ n && n ≤ r.2

/-- Whether a character is one of the 128 ASCII characters. -/
def isAscii (c : Char) : Bool :=
  c.toNat < 0x80

/-- Letters and numbers of any script. -/
def isAlphanumeric (c : Char) : Bool :=
  if isAscii c then c.isAlphanum else inRanges Table.alphanumeric c.toNat

/-- Characters of a word: letters and numbers of any script, and the underscore. -/
def isWord (c : Char) : Bool :=
  c == '_' || isAlphanumeric c

/-- Letters of any script. -/
def isLetter (c : Char) : Bool :=
  if isAscii c then c.isAlpha else isAlphanumeric c && !inRanges Table.numeral c.toNat

/-- Characters that an identifier can start with. -/
def startsIdentifier (c : Char) : Bool :=
  if isAscii c then c == '_' || c.isAlpha
  else (isLetter c && !inRanges Table.innerLetter c.toNat) || inRanges Table.letterlike c.toNat

/-- Characters that an identifier can go on with. -/
def continuesIdentifier (c : Char) : Bool :=
  if isAscii c then c == '_' || c.isAlphanum
  else startsIdentifier c || inRanges Table.identifierTail c.toNat

/-- Whether a text is an identifier. -/
def isIdentifier : List Char → Bool
  | [] => false
  | c :: rest => startsIdentifier c && rest.all continuesIdentifier

/-- Decimal digits of any script. -/
def isDecimal (c : Char) : Bool :=
  if isAscii c then c.isDigit else inRanges Table.decimal c.toNat

/-- The value of a decimal digit of any script. The digits of a script follow each other from zero, and
a range of the table holds the digits of one script or of several. -/
def decimalValue? (c : Char) : Option Nat :=
  if isAscii c then if c.isDigit then some (c.toNat - 0x30) else none
  else (Table.decimal.find? fun r => r.1 ≤ c.toNat && c.toNat ≤ r.2).map fun r =>
    (c.toNat - r.1) % 10

/-- Characters with a digit value: decimal digits, superscripts, circled digits and the like. -/
def isDigit (c : Char) : Bool :=
  if isAscii c then c.isDigit else inRanges Table.digit c.toNat

/-- White space: the ASCII blanks, the four ASCII separators, and the blanks of other scripts. -/
def isBlank (c : Char) : Bool :=
  let n := c.toNat
  (0x09 ≤ n && n ≤ 0x0d) || (0x1c ≤ n && n ≤ 0x20) || n == 0x85 || n == 0xa0 || n == 0x1680 ||
    (0x2000 ≤ n && n ≤ 0x200a) || n == 0x2028 || n == 0x2029 || n == 0x202f || n == 0x205f ||
    n == 0x3000

/-- Characters with a visible form; of the separators, only the ASCII space. -/
def isPrintable (c : Char) : Bool :=
  if isAscii c then 0x20 ≤ c.toNat && c.toNat < 0x7f else !inRanges Table.unprintable c.toNat

/-- On ASCII a word character is a letter, a digit or the underscore. -/
theorem isWord_of_ascii {c : Char} (h : isAscii c = true) :
    isWord c = (c == '_' || c.isAlphanum) := by
  simp [isWord, isAlphanumeric, h]

end RouteHelpers.Text
