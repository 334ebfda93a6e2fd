import RouteHelpers.Console
import RouteHelpers.Number.Binary64
import RouteHelpers.Terminal.Markup
import RouteHelpers.Text.Lines

/-!
Tables drawn with lines.

A column is as wide as its widest cell and one blank on each side, unless it has a fixed width. Where
the columns do not fit the terminal, the widest of them shrink first, evenly, down to the next widest;
those of a fixed width shrink only when nothing else is left. A cell that is wider than its column is
broken into lines.

The heading is set off by heavy lines. `Table.print` gives the whole table, with its title in the
middle above it.
-/

namespace RouteHelpers.Terminal

namespace Table

open Console (Column)

/-- The blanks around the text of a cell. -/
def padding : Nat := 2

/-! ### Widths -/

/-- The width of the longest line of a text. -/
def textWidth (cs : List Char) : Nat :=
  ((Text.lines (String.ofList cs)).map fun line => width line.toList).foldl max 0

/-- The width that a cell asks for when a number of columns is there. -/
def cellWidth (limit : Nat) (cs : List Char) : Nat :=
  if limit ≤ padding then limit else min (textWidth cs + padding) limit

/-- The width that a column asks for when a number of columns is there. -/
def columnWidth (limit : Nat) (c : Column) (cells : List (List Char)) : Nat :=
  match c.fixedWidth with
  | some w => min (w + padding) limit
  | none =>
    let widest := (cells.map (cellWidth limit)).foldl max 0
    match c.maxWidth with
    | some w => min widest (w + padding)
    | none => widest

/-- Values made smaller by a total amount, in equal shares among those that are marked, and each by no
more than its own bound. A share is rounded to nearest, a half going to the even neighbour. -/
def reduce (amount : Nat) (marked : List Bool) (bounds values : List Nat) : List Nat :=
  go amount (marked.countP id) (marked.zip (bounds.zip values))
where
  /-- The reduced values, where `left` of them are marked. -/
  go (amount left : Nat) : List (Bool × Nat × Nat) → List Nat
    | [] => []
    | (true, bound, value) :: rest =>
      let share := min bound (Binary64.roundQuotient amount left)
      (value - share) :: go (amount - share) (left - 1) rest
    | (false, _, value) :: rest => value :: go amount left rest

/-- Widths of which the largest that may shrink are made smaller until the total fits; `fuel` bounds
the number of steps. -/
def shrink (flexible : List Bool) (limit : Nat) : Nat → List Nat → List Nat
  | 0, widths => widths
  | fuel + 1, widths =>
    if total widths ≤ limit then widths
    else
      let mine := (flexible.zip widths).filter (·.1) |>.map (·.2)
      let largest := mine.foldl max 0
      let second := (mine.filter (· != largest)).foldl max 0
      let excess := total widths - limit
      if largest = second then widths
      else
        let marked := (flexible.zip widths).map fun (f, w) => f && w == largest
        let bound := min excess (largest - second)
        shrink flexible limit fuel
          (reduce excess marked (widths.map fun _ => bound) widths)

/-- The widths of columns, each with its cells, when a number of columns is there. -/
def columnWidths (limit : Nat) (columns : List (Column × List (List Char))) : List Nat :=
  let asked := columns.map fun c => max 1 (columnWidth limit c.1 c.2)
  if total asked ≤ limit then asked
  else
    let flexible := columns.map fun c => c.1.fixedWidth.isNone
    let shrunk := shrink flexible limit (total asked + 1) asked
    let shrunk := if total shrunk ≤ limit then shrunk
      else reduce (total shrunk - limit) (shrunk.map (0 < ·)) shrunk shrunk
    (columns.zip shrunk).map fun (c, w) => columnWidth w c.1 c.2

/-! ### Drawing -/

/-- A line across a table: its left end, the stroke, the crossing with a line between columns, and
its right end. -/
structure Rule where
  left : Char
  stroke : Char
  crossing : Char
  right : Char

/-- The line above a table. -/
def topRule : Rule := ⟨'┏', '━', '┳', '┓'⟩

/-- The line below the heading. -/
def headRule : Rule := ⟨'┡', '━', '╇', '┩'⟩

/-- The line below a table. -/
def bottomRule : Rule := ⟨'└', '─', '┴', '┘'⟩

/-- A line across columns of the given widths. -/
def Rule.draw (r : Rule) (widths : List Nat) : List Char :=
  r.left :: Text.joinList [r.crossing] (widths.map fun w => List.replicate w r.stroke) ++ [r.right]

/-- The lines of a cell in a column of a width. A column that holds no more than the blanks shows
nothing. -/
def cellLines (columns : Nat) (cs : List Char) : List (List Char) :=
  if columns ≤ padding then []
  else (wrapLeft .ellipsis (columns - padding) cs).map fun line => ' ' :: line ++ [' ']

/-- The lines of a row, between strokes. -/
def rowLines (stroke : Char) (cells : List (Nat × List Char)) : List (List Char) :=
  let drawn := cells.map fun c => (c.1, cellLines c.1 c.2)
  let height := (drawn.map (·.2.length)).foldl max 1
  (List.range height).map fun i =>
    let parts := drawn.map fun (w, lines) => lines.getD i (List.replicate w ' ')
    stroke :: Text.joinList [stroke] parts ++ [stroke]

/-- The lines of a row of the heading, whose texts stand at the bottom. -/
def headLines (stroke : Char) (cells : List (Nat × List Char)) : List (List Char) :=
  let drawn := cells.map fun c => (c.1, cellLines c.1 c.2)
  let height := (drawn.map (·.2.length)).foldl max 1
  (List.range height).map fun i =>
    let parts := drawn.map fun (w, lines) =>
      if i + lines.length < height then List.replicate w ' '
      else lines.getD (i + lines.length - height) []
    stroke :: Text.joinList [stroke] parts ++ [stroke]

/-- The cells of a column in all rows. -/
def cellsOf (t : Console.Table) (index : Nat) : List String :=
  t.rows.map fun row => row.getD index ""

/-- The columns with their texts, the header first. Texts that have no room in any column are not
looked at. -/
def texts (limit : Nat) (t : Console.Table) : Except Markup.Fault (List (Column × List (List Char))) :=
  t.columns.zipIdx.mapM fun (c, index) => do
    let cells := c.header :: cellsOf t index
    .ok (c, ← if limit ≤ padding then .ok (cells.map fun _ => []) else cells.mapM Markup.plain)

/-- A table as it is printed on a terminal of a number of columns. -/
def print (columns : Nat) (t : Console.Table) : Except Markup.Fault String := do
  let strokes := t.columns.length + 1
  let limit := columns - strokes
  let texts ← texts limit t
  let title ← Markup.plain t.title
  let widths := columnWidths limit texts
  (t.columns.map (·.header) :: t.rows).forM fun cells =>
    (widths.zip cells).forM fun c => if c.1 ≤ padding then .ok () else Markup.checkStyles c.2
  let whole := total widths + strokes
  let row (i : Nat) : List (Nat × List Char) :=
    widths.zip (texts.map fun c => c.2.getD i [])
  let body := (List.range t.rows.length).flatMap fun i => rowLines '│' (row (i + 1))
  let lines := wrapCentred whole title ++ [topRule.draw widths] ++ headLines '┃' (row 0) ++
    [headRule.draw widths] ++ body ++ [bottomRule.draw widths]
  .ok (unlines (lines.map (truncate .fold columns)))

end Table
end RouteHelpers.Terminal
