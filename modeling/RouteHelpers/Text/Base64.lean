/-!
Octets written with 64 characters.

Characters outside the alphabet are passed over. Four characters give three octets; a group may be cut
short by equals signs, which end the text.
-/

namespace RouteHelpers.Text

/-- The value of a character of the alphabet. -/
def base64Value? (c : Char) : Option Nat :=
  if 'A' ≤ c && c ≤ 'Z' then some (c.toNat - 'A'.toNat)
  else if 'a' ≤ c && c ≤ 'z' then some (c.toNat - 'a'.toNat + 26)
  else if '0' ≤ c && c ≤ '9' then some (c.toNat - '0'.toNat + 52)
  else if c == '+' then some 62
  else if c == '/' then some 63
  else none

/-- The octets behind `filled` characters of a group, of which `left` holds the bits that are not
yet written and `pads` equals signs have come. -/
private def decodeBase64From (filled left pads : Nat) : List Char → Option (List Nat)
  | [] => if filled = 0 then some [] else none
  | c :: rest =>
    if c == '=' then
      if 2 ≤ filled then
        if 4 ≤ filled + pads + 1 then some [] else decodeBase64From filled left (pads + 1) rest
      else decodeBase64From filled left pads rest
    else
      match base64Value? c with
      | none => decodeBase64From filled left pads rest
      | some v =>
        match filled with
        | 0 => decodeBase64From 1 v 0 rest
        | 1 => (decodeBase64From 2 (v % 16) 0 rest).map ((left * 4 + v / 16) :: ·)
        | 2 => (decodeBase64From 3 (v % 4) 0 rest).map ((left * 16 + v / 4) :: ·)
        | _ => (decodeBase64From 0 0 0 rest).map ((left * 64 + v) :: ·)

/-- The octets that a text writes; nothing if its last group is incomplete. -/
def decodeBase64 (cs : List Char) : Option (List Nat) :=
  decodeBase64From 0 0 0 cs

end RouteHelpers.Text
