import RouteHelpers.Text.Basic
import RouteHelpers.Text.Character
import RouteHelpers.Text.Hex
import RouteHelpers.Text.Table.CharacterName

/-!
Characters by name.

The syllables of Hangul are named by their letters and the unified ideographs by their numbers; all other
names are in a table, which is gone through entry by entry. Case does not matter in a name from the table.
-/

namespace RouteHelpers.Text

/-! ### Names by rule -/

/-- The letters that can start a syllable. -/
def leadingJamo : List String :=
  ["G", "GG", "N", "D", "DD", "R", "M", "B", "BB", "S", "SS", "", "J", "JJ", "C", "K", "T", "P", "H"]

/-- The vowels of syllables. -/
def vowelJamo : List String :=
  ["A", "AE", "YA", "YAE", "EO", "E", "YEO", "YE", "O", "WA", "WAE", "OE", "YO", "U", "WEO", "WE", "WI",
    "YU", "EU", "YI", "I"]

/-- The letters that can end a syllable. -/
def trailingJamo : List String :=
  ["", "G", "GG", "GS", "N", "NJ", "NH", "D", "L", "LG", "LM", "LB", "LS", "LT", "LP", "LH", "M", "B",
    "BS", "S", "SS", "NG", "J", "C", "K", "T", "P", "H"]

/-- The longest of several starts that a text has: its number among them, and what follows it. -/
private def longestStart? (starts : List String) (cs : List Char) : Option (Nat × List Char) :=
  let fitting := starts.zipIdx.filter fun s => s.1.toList.isPrefixOf cs
  let longest := fitting.foldl
    (fun best s => match best with
      | none => some s
      | some b => if b.1.length < s.1.length then some s else some b)
    none
  longest.map fun s => (s.2, cs.drop s.1.length)

/-- The code point of the syllable with the given letters. -/
private def syllable? (letters : List Char) : Option Nat := do
  let (leading, rest) ← longestStart? leadingJamo letters
  let (vowel, rest) ← longestStart? vowelJamo rest
  let (trailing, rest) ← longestStart? trailingJamo rest
  if rest.isEmpty then
    some (0xac00 + (leading * vowelJamo.length + vowel) * trailingJamo.length + trailing)
  else none

/-- The code point of the unified ideograph with the given number. -/
private def ideograph? (digits : List Char) : Option Nat := do
  let n ← hexNumber? digits
  if (digits.length == 4 || digits.length == 5) && !digits.any Char.isLower &&
      inRanges Table.ideograph n then some n
  else none

/-! ### Names from the table -/

/-- The value of a digit to the base 36. -/
private def sharedWords (c : Char) : Nat :=
  if c.isDigit then c.toNat - 0x30 else c.toNat - 0x57

/-- How far the table has been gone through: the code point and the words of the last entry, the
characters of the one that is being read in reverse, and the code point that was looked for. -/
private structure Search where
  code : Nat
  words : List (List Char)
  entry : List Char
  found : Option Nat

/-- A search behind the end of an entry. -/
private def Search.endEntry (target : List (List Char)) (s : Search) : Search :=
  let (code, name) := match cutList '=' s.entry.reverse with
    | (digits, some name) => ((hexNumber? digits).getD 0, name)
    | (name, none) => (s.code + 1, name)
  match name with
  | [] => { s with entry := [] }
  | shared :: rest =>
    let own := if rest.isEmpty then [] else splitList ' ' rest
    let words := s.words.take (sharedWords shared) ++ own
    { code, words, entry := [], found := if words == target then some code else s.found }

/-- A search behind a character of the table. -/
private def Search.next (target : List (List Char)) (s : Search) (c : Char) : Search :=
  if s.found.isSome then s
  else if c == ';' || c == '\n' then s.endEntry target
  else { s with entry := c :: s.entry }

/-- The code point of the character with a name from the table. -/
private def fromTable? (name : List Char) : Option Nat :=
  let target := splitList ' ' (name.map Char.toUpper)
  let last := Table.characterNames.foldl (Search.next target) ⟨0, [], [], none⟩
  match last.found with
  | some code => some code
  | none => (last.endEntry target).found

/-- The code point of the character with a name. -/
def codePointNamed? (name : List Char) : Option Nat :=
  let behind (start : String) : Option (List Char) :=
    if start.toList.isPrefixOf name then some (name.drop start.length) else none
  match behind "HANGUL SYLLABLE ", behind "CJK UNIFIED IDEOGRAPH-" with
  | some letters, _ => syllable? letters
  | none, some digits => ideograph? digits
  | none, none => fromTable? name

end RouteHelpers.Text
