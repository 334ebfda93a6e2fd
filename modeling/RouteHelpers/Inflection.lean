import RouteHelpers.Pattern.Term
import RouteHelpers.Text.Basic
import RouteHelpers.Text.Lines

/-!
The singular of a noun, as resource names need it.

Some nouns have no singular, some have one of their own, and the others change their ending. A rule
applies where its ending follows one of its stems; the stem stays as it is written, and the first
rule that applies decides. Letters are compared without regard to case, and a line feed at the very
end of a word is not part of it.
-/

namespace RouteHelpers.Inflection

/-- Nouns that are singular and plural at once. -/
def uncountable : List String :=
  ["equipment", "information", "rice", "money", "species", "series", "fish", "sheep", "jeans",
    "police", "data", "feedback", "status", "metadata", "news"]

/-- Nouns with a singular of their own. -/
def irregular : List (String × String) :=
  [("people", "person"), ("children", "child"), ("men", "man"), ("women", "woman"),
    ("teeth", "tooth"), ("feet", "foot"), ("mice", "mouse"), ("geese", "goose"), ("oxen", "ox")]

/-- What stands before an ending. -/
inductive Stem where
  | anything
  | letters (s : String)
  /-- Any character but the given ones. -/
  | noneOf (s : String)
  deriving DecidableEq, Repr

/-- An ending that a plural has, after one of several stems, and what the singular has instead. -/
structure Rule where
  stems : List Stem
  ending : String
  singular : String
  deriving DecidableEq, Repr

/-- A rule whose stems are given letters. -/
private def after (stems : List String) (ending singular : String) : Rule :=
  ⟨stems.map .letters, ending, singular⟩

/-- The rules, the first that applies deciding. -/
def rules : List Rule :=
  [after ["database"] "s" "",
    after ["quiz"] "zes" "",
    after ["matr"] "ices" "ix",
    after ["vert", "ind"] "ices" "ex",
    after ["alias", "status"] "es" "",
    after ["octop", "vir"] "i" "us",
    after ["cris", "ax", "test"] "es" "is",
    after ["shoe"] "s" "",
    after ["o"] "es" "",
    after ["bus"] "es" "",
    after ["m", "l"] "ice" "ouse",
    after ["x", "ch", "ss", "sh"] "es" "",
    after ["m"] "ovies" "ovie",
    ⟨[.noneOf "aeiouy", .letters "qu"], "ies", "y"⟩,
    after ["l", "r"] "ves" "f",
    after ["tive"] "s" "",
    after ["hive"] "s" "",
    ⟨[.noneOf "f"], "ves", "fe"⟩,
    after ["analy", "diagno", "parenthe", "progno", "synop", "the"] "ses" "sis",
    after ["t", "i"] "a" "um",
    ⟨[.anything], "ss", "ss"⟩,
    ⟨[.anything], "s", ""⟩]

/-- Whether two characters are spellings of one letter. -/
def sameLetter (a b : Char) : Bool :=
  Pattern.Folding.unicode.same (Pattern.Folding.unicode.apply a) (Pattern.Folding.unicode.apply b)

/-- What remains of a reversed word without given letters at its end. -/
def withoutEnding? (word : List Char) : List Char → Option (List Char)
  | [] => some word
  | c :: rest =>
    match word with
    | [] => none
    | d :: word => if sameLetter c d then withoutEnding? word rest else none

/-- Whether a reversed text ends with a stem. -/
def Stem.precedes (word : List Char) : Stem → Bool
  | anything => true
  | letters s => (withoutEnding? word s.toList.reverse).isSome
  | noneOf s => word.head?.any fun c => !s.toList.any (sameLetter c)

/-- The singular of a word by one rule, if it applies. -/
def Rule.singularOf? (r : Rule) (word : List Char) : Option (List Char) :=
  match withoutEnding? word.reverse r.ending.toList.reverse with
  | none => none
  | some rest =>
    if r.stems.any (·.precedes rest) then some (rest.reverse ++ r.singular.toList) else none

/-- The singular of a word; a word that no rule applies to stays as it is. -/
def singularize (word : String) : String :=
  let lower := Text.lower word
  if uncountable.contains lower then word
  else
    match irregular.lookup lower with
    | some singular => singular
    | none =>
      let (letters, newline) := Text.cutFinalNewline word.toList
      match rules.findSome? (·.singularOf? letters) with
      | some singular => String.ofList (singular ++ newline)
      | none => word

end RouteHelpers.Inflection
