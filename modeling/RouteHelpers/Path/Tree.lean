import RouteHelpers.Path.Segment
import RouteHelpers.Value.Basic

/-!
The tree form of a path: the data that the emitted code builds a URL from.

A literal is its text; the other segments are lists of a tag and what it applies to:
`["param", name]`, `["glob", name]`, `["optional", [...]]`.
-/

namespace RouteHelpers.Path

mutual

/-- A segment as data. -/
def node : Segment → Value
  | .literal s => .text s
  | .param name => .list [.text "param", .text name]
  | .glob name => .list [.text "glob", .text name]
  | .group children => .list [.text "optional", .list (nodes children)]

/-- Several segments as data. -/
def nodes : List Segment → List Value
  | [] => []
  | s :: rest => node s :: nodes rest

end

mutual

/-- The segment that a node stands for. -/
def segment? : Value → Option Segment
  | .text s => some (.literal s)
  | .list [.text "param", .text name] => some (.param name)
  | .list [.text "glob", .text name] => some (.glob name)
  | .list [.text "optional", .list children] => (segments? children).map .group
  | _ => none

/-- The segments that several nodes stand for, if all stand for one. -/
def segments? : List Value → Option (List Segment)
  | [] => some []
  | v :: rest =>
    match segment? v, segments? rest with
    | some s, some more => some (s :: more)
    | _, _ => none

end

mutual

/-- Reading a node back gives the segment it was made from. -/
theorem segment?_node (s : Segment) : segment? (node s) = some s := by
  cases s with
  | literal => simp [node, segment?]
  | param => simp [node, segment?]
  | glob => simp [node, segment?]
  | group children => simp [node, segment?, segments?_nodes children]

theorem segments?_nodes (segments : List Segment) :
    segments? (nodes segments) = some segments := by
  cases segments with
  | nil => simp [nodes, segments?]
  | cons s rest => simp [nodes, segments?, segment?_node s, segments?_nodes rest]

end

end RouteHelpers.Path
