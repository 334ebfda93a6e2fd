import RouteHelpers.Text.Hex

/-!
Percent-encoding of a component of a URL: the unreserved ASCII characters stand for themselves, and
every other character is written as the octets of its UTF-8 form.
-/

namespace RouteHelpers.Text

/-- The octets of a character in UTF-8. -/
def utf8Octets (c : Char) : List Nat :=
  let n := c.toNat
  if n < 0x80 then [n]
  else if n < 0x800 then [0xc0 + n / 0x40, 0x80 + n % 0x40]
  else if n < 0x10000 then [0xe0 + n / 0x1000, 0x80 + n / 0x40 % 0x40, 0x80 + n % 0x40]
  else [0xf0 + n / 0x40000, 0x80 + n / 0x1000 % 0x40, 0x80 + n / 0x40 % 0x40, 0x80 + n % 0x40]

/-- The characters that stand for themselves: ASCII letters and digits and `-_.!~*'()`. -/
def isUnreserved (c : Char) : Bool :=
  c.isAlphanum || ['-', '_', '.', '!', '~', '*', '\'', '(', ')'].contains c

/-- An octet as a percent sign and two digits. -/
def percentOctet (n : Nat) : List Char :=
  '%' :: hexUpper 2 n

/-- A character as it stands in a component of a URL. -/
def percentChar (c : Char) : List Char :=
  if isUnreserved c then [c] else (utf8Octets c).flatMap percentOctet

/-- A text as a component of a URL. -/
def percentEncode (s : String) : String :=
  String.ofList (s.toList.flatMap percentChar)

end RouteHelpers.Text
