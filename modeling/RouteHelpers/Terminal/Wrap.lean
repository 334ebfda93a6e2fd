import RouteHelpers.Terminal.Width
import RouteHelpers.Text.Basic

/-!
Breaking a text into lines of a terminal.

Lines are broken before words, and a word keeps the blanks that follow it, so a line may end in
blanks. A word that is longer than a line is folded onto several lines or cut off with an ellipsis,
as the caller asks.
-/

namespace RouteHelpers.Terminal

/-- What happens to a word that is longer than a line. -/
inductive Overflow where
  | fold
  | ellipsis
  deriving DecidableEq, Repr

/-- Characters that a terminal would act upon rather than show. -/
def isControl (c : Char) : Bool :=
  c == '\x07' || c == '\x08' || c == '\x0b' || c == '\x0c' || c == '\r'

/-- A text without such characters. -/
def withoutControls (cs : List Char) : List Char :=
  cs.filter fun c => !isControl c

/-! ### Tabulators -/

/-- The distance of tabulator stops. -/
def tabSize : Nat := 8

/-- A line with its tabulators replaced by spaces up to the next stop; at least one is used. -/
def expandTabs (line : List Char) : List Char :=
  match Text.splitList '\t' line with
  | [] => []
  | [whole] => whole
  | pieces => (pieces.dropLast.flatMap fill) ++ pieces.getLastD []
where
  /-- A piece with the spaces that stand for the tabulator behind it. -/
  fill (piece : List Char) : List Char :=
    let used := width piece + 1
    piece ++ List.replicate (1 + (tabSize - used % tabSize) % tabSize) ' '

/-! ### Breaks -/

/-- The words of a text, each with the blanks behind it and the first also with those in front.
`fuel` bounds their number. -/
private def wordsFrom : Nat → List Char → List (List Char)
  | 0, _ => []
  | fuel + 1, cs =>
    let blanks := cs.takeWhile Text.isBlank
    let rest := cs.dropWhile Text.isBlank
    let body := rest.takeWhile fun c => !Text.isBlank c
    let rest := rest.dropWhile fun c => !Text.isBlank c
    if body.isEmpty then []
    else (blanks ++ body ++ rest.takeWhile Text.isBlank) ::
      wordsFrom fuel (rest.dropWhile Text.isBlank)

/-- The words of a text, each with the blanks behind it and the first also with those in front. -/
def words (cs : List Char) : List (List Char) :=
  wordsFrom (cs.length + 1) cs

/-- The breaks inside a word that is folded into pieces from a position on, and the width of its last
piece. A break at the start of the text is none. -/
def foldBreaks (start : Nat) : List (List Char) → List Nat × Nat
  | [] => ([], 0)
  | [last] => (if start = 0 then [] else [start], width last)
  | piece :: rest =>
    let (breaks, used) := foldBreaks (start + piece.length) rest
    (if start = 0 then breaks else start :: breaks, used)

/-- The positions at which words are broken into lines; `start` is the position of the first of them
and `used` the width of the line so far. -/
def breaksFrom (overflow : Overflow) (columns start used : Nat) : List (List Char) → List Nat
  | [] => []
  | word :: rest =>
    let next := start + word.length
    let needed := width (Text.dropEndList Text.isBlank word)
    if used + needed ≤ columns then
      breaksFrom overflow columns next (used + width word) rest
    else if columns < needed then
      match overflow with
      | .fold =>
        match chop columns word with
        | [] => breaksFrom overflow columns next used rest
        | pieces =>
          let (breaks, used) := foldBreaks start pieces
          breaks ++ breaksFrom overflow columns next used rest
      | .ellipsis =>
        let breaks := if start = 0 then [] else [start]
        breaks ++ breaksFrom overflow columns next (width word) rest
    else if used ≠ 0 && start ≠ 0 then
      start :: breaksFrom overflow columns next (width word) rest
    else breaksFrom overflow columns next used rest

/-- A text cut at increasing positions, the first of which is counted from `start`. -/
def cutAt (start : Nat) (cs : List Char) : List Nat → List (List Char)
  | [] => [cs]
  | p :: rest => cs.take (p - start) :: cutAt p (cs.drop (p - start)) rest

/-- A line without the blanks at its end that are beyond a number of characters. -/
def dropBlanksBeyond (size : Nat) (line : List Char) : List Char :=
  let blanks := (line.reverse.takeWhile Text.isBlank).length
  line.take (line.length - min blanks (line.length - size))

/-- A line that is no wider than a number of columns. -/
def truncate (overflow : Overflow) (columns : Nat) (line : List Char) : List Char :=
  if width line ≤ columns then line
  else
    match overflow with
    | .fold => fit columns line
    | .ellipsis => fit (columns - 1) line ++ ['…']

/-- The lines of a text, before they are cut to the width. -/
private def rawLines (overflow : Overflow) (columns : Nat) (cs : List Char) : List (List Char) :=
  (Text.splitList '\n' cs).flatMap fun line =>
    let line := expandTabs line
    (cutAt 0 line (breaksFrom overflow columns 0 0 (words line))).map (dropBlanksBeyond columns)

/-- The lines of a text. -/
def wrap (overflow : Overflow) (columns : Nat) (cs : List Char) : List (List Char) :=
  (rawLines overflow columns cs).map (truncate overflow columns)

/-- The lines of a text, each filled up with spaces. -/
def wrapLeft (overflow : Overflow) (columns : Nat) (cs : List Char) : List (List Char) :=
  (wrap overflow columns cs).map (fit columns)

/-- The lines of a text, each in the middle between spaces. -/
def wrapCentred (columns : Nat) (cs : List Char) : List (List Char) :=
  (rawLines .fold columns cs).map fun line =>
    let line := truncate .fold columns (Text.dropEndList Text.isBlank line)
    fit columns (List.replicate ((columns - width line) / 2) ' ' ++ line)

end RouteHelpers.Terminal
