import RouteHelpers.Text.Character
import RouteHelpers.Text.Hex

/-!
Texts quoted for a reader, as messages show them.

The quotes are single ones unless the text holds a single and no double quote. What has no visible
form is written as an escape, the shortest of `\x`, `\u` and `\U` that holds it. Octets are quoted by the
same rules, with a `b` in front; those beyond ASCII have no visible form.
-/

namespace RouteHelpers.Text

/-- The quote that surrounds a text. -/
def quoteFor (cs : List Char) : Char :=
  if cs.contains '\'' && !cs.contains '"' then '"' else '\''

/-- A character as it stands between the given quotes. -/
def quotedChar (quote c : Char) : List Char :=
  if c == quote || c == '\\' then ['\\', c]
  else if c == '\n' then ['\\', 'n']
  else if c == '\r' then ['\\', 'r']
  else if c == '\t' then ['\\', 't']
  else if isPrintable c then [c]
  else if c.toNat < 0x100 then ['\\', 'x'] ++ hex 2 c.toNat
  else if c.toNat < 0x10000 then ['\\', 'u'] ++ hex 4 c.toNat
  else ['\\', 'U'] ++ hex 8 c.toNat

/-- A text in quotes. -/
def quoted (s : String) : String :=
  let quote := quoteFor s.toList
  String.ofList ([quote] ++ s.toList.flatMap (quotedChar quote) ++ [quote])

/-- An octet as it stands between the given quotes. -/
def quotedOctet (quote : Char) (n : Nat) : List Char :=
  if n < 0x80 then quotedChar quote (Char.ofNat n) else ['\\', 'x'] ++ hex 2 n

/-- Octets in quotes. -/
def quotedOctets (octets : List Nat) : String :=
  let quote := quoteFor (octets.map Char.ofNat)
  String.ofList (['b', quote] ++ octets.flatMap (quotedOctet quote) ++ [quote])

end RouteHelpers.Text
