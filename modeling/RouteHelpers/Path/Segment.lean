/-!
Segments of a route path.

A parsed path is a list of segments. Parameters and globs are slots for values; a group is rendered
only when its own parameters are bound.
-/

namespace RouteHelpers

/-- A piece of a route path. -/
inductive Segment where
  /-- Text that stands for itself. -/
  | literal (text : String)
  /-- A slot whose value is percent-encoded. -/
  | param (name : String)
  /-- A slot whose value is inserted as it is. -/
  | glob (name : String)
  /-- A part that may be left out. -/
  | group (children : List Segment)
  deriving Repr, Inhabited

namespace Segment

/-- Adds names at the end of a list, each only if it is not there yet. -/
def addNew (names more : List String) : List String :=
  more.foldl (fun acc n => if acc.contains n then acc else acc ++ [n]) names

mutual

/-- The parameters inside a group, at any depth, in order and with repetitions. Globs do not count:
a group never waits for one. -/
def groupNames : Segment → List String
  | literal _ => []
  | param name => [name]
  | glob _ => []
  | group children => groupNamesOfAll children

/-- The parameters inside several members of a group. -/
def groupNamesOfAll : List Segment → List String
  | [] => []
  | s :: rest => groupNames s ++ groupNamesOfAll rest

end

/-- The names of the slots outside every group, each at its first occurrence. -/
def requiredNames (segments : List Segment) : List String :=
  addNew [] (segments.filterMap fun
    | param name => some name
    | glob name => some name
    | _ => none)

/-- The names of the parameters inside groups, each at its first occurrence. A name may be required
as well. -/
def optionalNames (segments : List Segment) : List String :=
  addNew [] (segments.flatMap fun
    | group children => groupNamesOfAll children
    | _ => [])

end Segment
end RouteHelpers
