import RouteHelpers.Text.Utf8

/-!
Text among octets that are none.

`marked` reads octets as text as far as they are text. An octet that belongs to no character becomes a
mark, a character of the last 256, and so does each octet of a character of that range: so every list
of octets has a marked text, and `unmarked` gives it back. `withoutMarks` is the text that a marked
text stands for, if its octets are text after all.
-/

namespace RouteHelpers.Text

/-- The first of the characters that stand for octets. -/
def firstMark : Nat := 0x10ff00

/-- Whether a character stands for an octet. -/
def isMark (c : Char) : Bool :=
  firstMark ≤ c.toNat

/-- The character that stands for an octet. -/
def markOf (octet : Nat) : Char :=
  Char.ofNat (firstMark + octet)

/-- The octets of a character, which may stand for one. -/
def octetsOf (c : Char) : List Nat :=
  if isMark c then [c.toNat - firstMark] else utf8Octets c

/-- The marked text of octets; `fuel` bounds their number. -/
def markedFrom : Nat → List Nat → List Char
  | 0, _ => []
  | _, [] => []
  | fuel + 1, n :: rest =>
    match firstChar? (n :: rest) with
    | some (c, more) => if isMark c then markOf n :: markedFrom fuel rest else c :: markedFrom fuel more
    | none => markOf n :: markedFrom fuel rest

/-- The marked text of octets. -/
def marked (octets : List Nat) : List Char :=
  markedFrom octets.length octets

/-- The octets of a marked text. -/
def unmarked (cs : List Char) : List Nat :=
  cs.flatMap octetsOf

/-- The text that a marked text stands for. -/
def withoutMarks (s : String) : Except Utf8Fault String :=
  if s.toList.any isMark then (decodeUtf8 (unmarked s.toList)).map String.ofList else .ok s

end RouteHelpers.Text
