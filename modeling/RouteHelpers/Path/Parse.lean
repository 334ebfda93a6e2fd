import RouteHelpers.Path.Segment
import RouteHelpers.Text.Basic
import RouteHelpers.Text.Lines

/-!
Parsing route paths such as `/users/:id(.:format)`.

A path is cut at its slashes, and each piece that is not empty becomes segments of its own: a
literal wrapped in slashes, or a slash followed by a slot. A piece with a parenthesis must have the
form `head(inner)`; one that has not is a literal. Adjacent literals are merged afterwards and runs
of slashes collapsed, so the result never holds two literals in a row.

The shape of `head(inner)` ignores a single line feed behind the closing parenthesis, and allows no
line feed in `inner`.
-/

namespace RouteHelpers.Path

/-! ### Merging literals -/

/-- A list of characters with every run of slashes collapsed to one. -/
def squeezeList : List Char → List Char
  | [] => []
  | '/' :: '/' :: rest => squeezeList ('/' :: rest)
  | c :: rest => c :: squeezeList rest

/-- A text with every run of slashes collapsed to one. -/
def squeeze (s : String) : String :=
  String.ofList (squeezeList s.toList)

/-- Puts a segment in front of normalized ones, merging two literals that meet. -/
def consSegment : Segment → List Segment → List Segment
  | .literal s, .literal t :: rest => .literal (squeeze (s ++ t)) :: rest
  | .literal s, rest => .literal (squeeze s) :: rest
  | s, rest => s :: rest

/-- Merges adjacent literals and collapses their runs of slashes. -/
def normalize (segments : List Segment) : List Segment :=
  segments.foldr consSegment []

/-! ### Pieces -/

/-- The segments of a piece without a parenthesis. -/
def plainPiece (piece : String) : List Segment :=
  match piece.toList with
  | ':' :: name => [.literal "/", .param (String.ofList name)]
  | '*' :: name => [.literal "/", .glob (String.ofList name)]
  | _ => [.literal ("/" ++ piece ++ "/")]

/-- The head and the inside of a piece of the form `head(inner)`. -/
def headAndInner? (piece : String) : Option (String × String) :=
  match Text.cutList '(' piece.toList with
  | (_, none) => none
  | (head, some behind) =>
    let body := (Text.cutFinalNewline behind).1
    -- the group ends with the piece, so what is inside may hold parentheses itself
    match body.getLast? with
    | some ')' =>
      let inner := body.dropLast
      if inner.contains '\n' then none else some (String.ofList head, String.ofList inner)
    | _ => none

/-- The members of a group with the given inside. -/
def groupMembers (inner : String) : List Segment :=
  match inner.toList with
  | '.' :: ':' :: name => [.literal ".", .param (String.ofList name)]
  | ':' :: name => [.param (String.ofList name)]
  | [] => []
  | _ => [.literal inner]

/-- The segments of the head of a group. The group attaches directly to a literal head. -/
def headSegments (head : String) : List Segment :=
  match head.toList with
  | ':' :: _ => plainPiece head
  | '*' :: _ => plainPiece head
  | _ => [.literal ("/" ++ head)]

/-- The segments of a piece. -/
def pieceSegments (piece : String) : List Segment :=
  if Text.hasChar '(' piece then
    match headAndInner? piece with
    | some (head, inner) => headSegments head ++ [.group (normalize (groupMembers inner))]
    | none => [.literal ("/" ++ piece ++ "/")]
  else plainPiece piece

/-- The pieces of a path that are not empty. -/
def pieces (path : String) : List String :=
  (Text.split '/' path).filter (fun piece => !piece.isEmpty)

/-- The segments of a path. -/
def parse (path : String) : List Segment :=
  normalize ((pieces path).flatMap pieceSegments)

/-- The pieces of a path that hold a parenthesis without being of the form `head(inner)`. -/
def unbalancedPieces (path : String) : List String :=
  (pieces path).filter fun piece => Text.hasChar '(' piece && (headAndInner? piece).isNone

end RouteHelpers.Path
