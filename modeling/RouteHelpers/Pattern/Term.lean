import RouteHelpers.Text.Case

/-!
Terms of regular expressions.

Flags such as "ignore case" are settled when a pattern is read: each term carries what it needs, so a
term has one meaning wherever it stands. A repetition says how it chooses among its counts; the
choice matters where groups are captured and referred to.
-/

namespace RouteHelpers.Pattern

/-- Which letters count as one. -/
inductive Folding where
  | exact
  | ascii
  | unicode
  deriving DecidableEq, Repr

/-- Classes of characters with a letter of their own. -/
inductive Category where
  | digit
  | space
  | word
  deriving DecidableEq, Repr

/-- A member of a set of characters. -/
inductive Member where
  | any
  | char (c : Char)
  | range (low high : Char)
  | category (k : Category) (negated asciiOnly : Bool)
  deriving DecidableEq, Repr

/-- A test of one character. -/
structure CharTest where
  negated : Bool
  members : List Member
  folding : Folding
  deriving DecidableEq, Repr

/-- A place in a text that no character is needed for. -/
inductive Anchor where
  | textStart
  | textEnd
  | textEndOrNewline
  | lineStart
  | lineEnd
  | wordBoundary (negated asciiOnly : Bool)
  deriving DecidableEq, Repr

/-- How a repetition chooses its count: the most first, the least first, or the most only. -/
inductive Greed where
  | greedy
  | lazy
  | possessive
  deriving DecidableEq, Repr

/-- A regular expression. -/
inductive Term where
  | empty
  | one (test : CharTest)
  | seq (first second : Term)
  | alt (first second : Term)
  | repeated (low : Nat) (high : Option Nat) (greed : Greed) (body : Term)
  | group (number : Nat) (body : Term)
  | reference (number : Nat) (folding : Folding)
  | ifGroup (number : Nat) (yes no : Term)
  | ahead (negated : Bool) (body : Term)
  | behind (width : Nat) (negated : Bool) (body : Term)
  | atomic (body : Term)
  | anchor (a : Anchor)
  deriving Repr

/-! ### Characters -/

/-- Lower-case letters that share their upper case, as classes. -/
def sameUpper : List (List Char) :=
  [['i', 'ı'], ['s', 'ſ'], ['µ', 'μ'], ['\u0345', 'ι', '\u1fbe'], ['ΐ', '\u1fd3'], ['ΰ', '\u1fe3'],
    ['β', 'ϐ'], ['ε', 'ϵ'], ['θ', 'ϑ'], ['κ', 'ϰ'], ['π', 'ϖ'], ['ρ', 'ϱ'], ['ς', 'σ'], ['φ', 'ϕ'],
    ['в', '\u1c80'], ['д', '\u1c81'], ['о', '\u1c82'], ['с', '\u1c83'], ['т', '\u1c84', '\u1c85'],
    ['ъ', '\u1c86'], ['ѣ', '\u1c87'], ['\u1c88', 'ꙋ'], ['ṡ', 'ẛ'], ['ﬅ', 'ﬆ']]

/-- The one character that stands for all spellings of a letter in lower and upper case. -/
def lowerOne (c : Char) : Char :=
  match Text.lowerChar c with
  | d :: _ => d
  | [] => c

/-- A character under a folding. -/
def Folding.apply : Folding → Char → Char
  | exact, c => c
  | ascii, c => if Text.isAscii c then c.toLower else c
  | unicode, c => lowerOne c

/-- Whether a folded character is a spelling of another folded one. -/
def Folding.same (f : Folding) (a b : Char) : Bool :=
  a == b || (f == unicode && sameUpper.any fun cls => cls.contains a && cls.contains b)

/-- The spellings that a folded character may have in a range. -/
def Folding.spellings (f : Folding) (c : Char) : List Char :=
  match f with
  | exact => [c]
  | ascii => [c, c.toUpper]
  | unicode =>
    let lowers := c :: (sameUpper.filter fun cls => cls.contains c).flatten
    lowers ++ lowers.flatMap Text.upperChar ++ lowers.flatMap Text.titleChar

/-- Whether a character belongs to a class. -/
def Category.holds (k : Category) (asciiOnly : Bool) (c : Char) : Bool :=
  let inClass := match k with
    | digit => Text.isDecimal c
    | space => Text.isBlank c
    | word => Text.isWord c
  if asciiOnly then
    Text.isAscii c && inClass && !(k == space && 0x1c ≤ c.toNat && c.toNat ≤ 0x1f)
  else inClass

/-- Whether a folded character is a member. -/
def Member.holds (f : Folding) (c : Char) : Member → Bool
  | any => true
  | char d => f.same (f.apply d) c
  | range low high => (f.spellings c).any fun d => low ≤ d && d ≤ high && f.same (f.apply d) c
  | category k negated asciiOnly => k.holds asciiOnly c != negated

/-- Whether a character passes a test. -/
def CharTest.holds (t : CharTest) (c : Char) : Bool :=
  let folded := t.folding.apply c
  (t.members.any fun m => m.holds t.folding folded) != t.negated

end RouteHelpers.Pattern
