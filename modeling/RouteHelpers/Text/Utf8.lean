import RouteHelpers.Text.Hex
import RouteHelpers.Text.Percent

/-!
Octets as UTF-8 text.

`decode` reads character by character and stops at the first octets that no character has; the fault
says which those are. Every octet sequence of a character is accepted in its shortest form only, and
surrogates are refused.
-/

namespace RouteHelpers.Text

/-- What is wrong with octets. -/
inductive Utf8Cause where
  | startByte
  | continuationByte
  | endOfData
  deriving DecidableEq, Repr

/-- Octets that are no text: the position of the first of them, all that belong to the fault, and
what is wrong. -/
structure Utf8Fault where
  position : Nat
  octets : List Nat
  cause : Utf8Cause
  deriving DecidableEq, Repr

/-- What a reader is told. -/
def Utf8Fault.message (f : Utf8Fault) : String :=
  let cause := match f.cause with
    | .startByte => "invalid start byte"
    | .continuationByte => "invalid continuation byte"
    | .endOfData => "unexpected end of data"
  let place := match f.octets with
    | [n] => "byte 0x" ++ String.ofList (hex 2 n) ++ " in position " ++ toString f.position
    | ns =>
      "bytes in position " ++ toString f.position ++ "-" ++ toString (f.position + ns.length - 1)
  "'utf-8' codec can't decode " ++ place ++ ": " ++ cause

/-- How many octets follow a first one, and between which bounds the second one lies. -/
def shapeOf? (n : Nat) : Option (Nat × Nat × Nat) :=
  if n < 0x80 then some (0, 0, 0)
  else if 0xc2 ≤ n && n ≤ 0xdf then some (1, 0x80, 0xbf)
  else if n == 0xe0 then some (2, 0xa0, 0xbf)
  else if n == 0xed then some (2, 0x80, 0x9f)
  else if 0xe1 ≤ n && n ≤ 0xef then some (2, 0x80, 0xbf)
  else if n == 0xf0 then some (3, 0x90, 0xbf)
  else if 0xf1 ≤ n && n ≤ 0xf3 then some (3, 0x80, 0xbf)
  else if n == 0xf4 then some (3, 0x80, 0x8f)
  else none

/-- The octets at the start of a list that continue a character, of which `count` are wanted; the
first of them lies between the bounds. -/
def continuing (count low high : Nat) : List Nat → List Nat
  | [] => []
  | n :: rest =>
    match count with
    | 0 => []
    | count + 1 =>
      if low ≤ n && n ≤ high then n :: continuing count 0x80 0xbf rest else []

/-- The code point that a first octet and the ones behind it write. -/
def codePoint (first : Nat) (more : List Nat) : Nat :=
  let lead := match more.length with
    | 0 => first
    | 1 => first - 0xc0
    | 2 => first - 0xe0
    | _ => first - 0xf0
  more.foldl (fun n m => n * 0x40 + (m - 0x80)) lead

/-- The character that a first octet and those behind it write, and how many of those belong to it;
otherwise what of them belongs together and what is wrong. -/
def charOf (n : Nat) (rest : List Nat) : Except (List Nat × Utf8Cause) (Char × Nat) :=
  match shapeOf? n with
  | none => .error ([n], .startByte)
  | some (count, low, high) =>
    let more := continuing count low high rest
    if more.length = count then .ok (Char.ofNat (codePoint n more), count)
    else .error (n :: more, if (rest.drop more.length).isEmpty then .endOfData else .continuationByte)

/-- The character that octets start with, and the octets behind it. -/
def firstChar? : List Nat → Option (Char × List Nat)
  | [] => none
  | n :: rest =>
    match charOf n rest with
    | .ok (c, count) => some (c, rest.drop count)
    | .error _ => none

/-- The text of octets from a position on; `fuel` bounds their number. -/
def decodeFrom (position : Nat) : Nat → List Nat → Except Utf8Fault (List Char)
  | 0, _ => .ok []
  | _, [] => .ok []
  | fuel + 1, n :: rest =>
    match charOf n rest with
    | .error (octets, cause) => .error ⟨position, octets, cause⟩
    | .ok (c, count) => do
      let cs ← decodeFrom (position + count + 1) fuel (rest.drop count)
      .ok (c :: cs)

/-- The text of octets. -/
def decodeUtf8 (octets : List Nat) : Except Utf8Fault (List Char) :=
  decodeFrom 0 octets.length octets

/-- The octets of a text. -/
def encodeUtf8 (s : String) : List Nat :=
  s.toList.flatMap utf8Octets

end RouteHelpers.Text
