import RouteHelpers.Text.Character
import RouteHelpers.Text.Table.Width

/-!
How many columns of a terminal a text takes up, and cutting texts by columns.

A text falls into clusters, the pieces that no cut parts: a character, the marks that join it, and
what a joiner ties to it. A cluster takes up as many columns as its first character, or one more when
a selector asks for the pictograph of a narrow character.

`fit` gives a text an exact width, `chop` cuts it into pieces of at most a width.
-/

namespace RouteHelpers.Terminal

/-- The number of columns of a character that stands alone. -/
def charWidth (c : Char) : Nat :=
  let n := c.toNat
  if n < 0x20 || (0x7f ≤ n && n < 0xa0) then 0
  else if n < 0x7f then 1
  else if Text.inRanges Text.Table.zeroWidth n then 0
  else if Text.inRanges Text.Table.wide n then 2
  else 1

/-- The character that ties the next one to the cluster before it. -/
def joiner : Char := '\u200d'

/-- The character that asks for a pictograph. -/
def pictographSelector : Char := '\ufe0f'

/-- Whether a character of one column has a pictograph of two. -/
def isWidened (c : Char) : Bool :=
  Text.inRanges Text.Table.widened c.toNat

/-- A piece of a text that no cut parts. -/
structure Cluster where
  chars : List Char
  width : Nat
  deriving DecidableEq, Repr

/-- The clusters found so far, the last one first, and the last character that has a width and has not
been widened. -/
private structure Clustering where
  done : List Cluster
  measured : Option Char

/-- Characters put at the end of the last cluster; at the start of a text they are one without
width. -/
private def Clustering.join (s : Clustering) (cs : List Char) (extra : Nat) : Clustering :=
  match s.done with
  | [] => { s with done := [⟨cs, 0⟩] }
  | last :: done => { s with done := ⟨last.chars ++ cs, last.width + extra⟩ :: done }

/-- The clusters of a text behind those found so far. -/
private def cluster (s : Clustering) : List Char → Clustering
  | [] => s
  | [c] => step s c
  | c :: d :: rest =>
    if c == joiner && !s.done.isEmpty then cluster (s.join [c, d] 0) rest
    else cluster (step s c) (d :: rest)
where
  /-- The clusters with one more character. -/
  step (s : Clustering) (c : Char) : Clustering :=
    if c == joiner then s.join [c] 0
    else if c == pictographSelector then
      match s.done, s.measured with
      | _ :: _, some m =>
        if isWidened m then { s.join [c] 1 with measured := none } else s.join [c] 0
      | _, _ => s.join [c] 0
    else if charWidth c = 0 then s.join [c] 0
    else ⟨⟨[c], charWidth c⟩ :: s.done, some c⟩

/-- The clusters of a text. -/
def clusters (cs : List Char) : List Cluster :=
  (cluster ⟨[], none⟩ cs).done.reverse

/-- The sum of several numbers of columns. -/
def total (columns : List Nat) : Nat :=
  columns.foldr (· + ·) 0

/-- The number of columns that clusters take up. -/
def clustersWidth (ks : List Cluster) : Nat :=
  total (ks.map (·.width))

/-- The number of columns of a text. -/
def width (cs : List Char) : Nat :=
  clustersWidth (clusters cs)

/-! ### Cutting -/

/-- The start of a text that fills a number of columns. A cluster that the end would cut is replaced
by a space. -/
def cutClusters (columns : Nat) : List Cluster → List Char
  | [] => []
  | k :: rest =>
    if columns = 0 then []
    else if k.width ≤ columns then k.chars ++ cutClusters (columns - k.width) rest
    else [' ']

/-- A text of exactly a number of columns: cut off, or filled up with spaces. -/
def fit (columns : Nat) (cs : List Char) : List Char :=
  let ks := clusters cs
  if clustersWidth ks ≤ columns then cs ++ List.replicate (columns - clustersWidth ks) ' '
  else cutClusters columns ks

/-- Cuts clusters into pieces of at most a number of columns; `piece` is what the current one holds
and `used` its width. -/
def chopFrom (columns : Nat) (piece : List Char) (used : Nat) : List Cluster → List (List Char)
  | [] => if used = 0 then [] else [piece]
  | k :: rest =>
    if columns < used + k.width then piece :: chopFrom columns k.chars k.width rest
    else chopFrom columns (piece ++ k.chars) (used + k.width) rest

/-- A text in pieces of at most a number of columns. -/
def chop (columns : Nat) (cs : List Char) : List (List Char) :=
  chopFrom columns [] 0 (clusters cs)

end RouteHelpers.Terminal
