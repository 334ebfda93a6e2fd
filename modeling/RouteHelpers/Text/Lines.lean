/-!
Lines of a text.

Two rules are in use. Reading a text file turns each of the three line ends `\n`, `\r`, `\r\n` into
`\n`. Laying out a text breaks it at every line boundary of Unicode.
-/

namespace RouteHelpers.Text

/-- Whether a character ends a line: the ASCII controls that do, the next-line control, and the line
and paragraph separators. -/
def isLineBreak (c : Char) : Bool :=
  let n := c.toNat
  (0x0a ≤ n && n ≤ 0x0d) || (0x1c ≤ n && n ≤ 0x1e) || n == 0x85 || n == 0x2028 || n == 0x2029

/-- The lines of a list of characters, each without its line break; `line` is the line so far, in
reverse. -/
private def linesFrom (line : List Char) : List Char → List (List Char)
  | [] => if line.isEmpty then [] else [line.reverse]
  | '\r' :: '\n' :: rest => line.reverse :: linesFrom [] rest
  | c :: rest =>
    if isLineBreak c then line.reverse :: linesFrom [] rest else linesFrom (c :: line) rest

/-- The lines of a text without their line breaks. A final line break opens no further line. -/
def lines (s : String) : List String :=
  (linesFrom [] s.toList).map String.ofList

/-- A list of characters with each of `\r\n` and `\r` replaced by `\n`. -/
def plainNewlinesList : List Char → List Char
  | [] => []
  | '\r' :: '\n' :: rest => '\n' :: plainNewlinesList rest
  | '\r' :: rest => '\n' :: plainNewlinesList rest
  | c :: rest => c :: plainNewlinesList rest

/-- What precedes the end of a text or a single line feed at its end, and that line feed if there is
one. -/
def cutFinalNewline (cs : List Char) : List Char × List Char :=
  if cs.getLast? = some '\n' then (cs.dropLast, ['\n']) else (cs, [])

theorem cutFinalNewline_append (cs : List Char) :
    (cutFinalNewline cs).1 ++ (cutFinalNewline cs).2 = cs := by
  unfold cutFinalNewline
  split
  next h =>
    obtain ⟨body, rfl⟩ := List.getLast?_eq_some_iff.1 h
    simp
  next => simp

end RouteHelpers.Text
