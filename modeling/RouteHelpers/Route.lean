import RouteHelpers.Naming
import RouteHelpers.Path.Parse
import RouteHelpers.Path.Tree
import RouteHelpers.Record

/-!
Routes: records with their path parsed and their helpers named, ready for code generation.
-/

namespace RouteHelpers

/-- A route. -/
structure Route where
  name : String
  verb : String
  path : String
  segments : List Segment
  required : List String
  optional : List String
  defaults : Entries
  helper : String
  urlName : String
  action : Option String
  deriving Repr, Inhabited

/-- A parameter of a route, with its place in calls. -/
structure Parameter where
  name : String
  required : Bool
  deriving DecidableEq, Repr

namespace Route

/-- The route of a record whose helper has the given name. -/
def named (naming : Naming) (helper : String) (r : Record) : Route :=
  let segments := Path.parse r.path
  { name := naming.pathName helper
    verb := Text.upper r.verb
    path := r.path
    segments
    required := Segment.requiredNames segments
    optional := Segment.optionalNames segments
    defaults := r.defaults
    helper
    urlName := naming.urlName helper
    action := r.action }

/-- The route of a record. -/
def ofRecord (naming : Naming) (r : Record) : Route :=
  named naming (r.helper.getD "") r

/-- What a user is told when a record becomes a route. -/
def pathNotices (r : Record) : List Notice :=
  (Path.unbalancedPieces r.path).map .unbalancedGroup

/-- The route with another helper, its names made anew. -/
def rename (naming : Naming) (helper : String) (r : Route) : Route :=
  { r with helper, name := naming.pathName helper, urlName := naming.urlName helper }

/-- The path helper's name in snake case, whatever the naming. -/
def helperName (r : Route) : String :=
  if r.helper.isEmpty then r.name else r.helper ++ "_path"

/-- The method as the emitted code spells it. -/
def method (r : Route) : String :=
  Text.lower r.verb

/-- The parameters of a route, required ones first, without repetition. -/
def parameters (r : Route) : List Parameter :=
  r.required.map (⟨·, true⟩) ++
    (r.optional.filter fun name => !r.required.contains name).map (⟨·, false⟩)

/-! ### Data for the emitted code -/

/-- What is said about each parameter: that it is required, its default, or nothing. A name that is
required and occurs in a group as well counts as required. -/
def parameterTable (r : Route) : Entries :=
  Entries.ofTexts <|
    r.required.map (fun name => (name, .map (Entries.ofTexts [("required", .bool true)]))) ++
    (r.optional.filter fun name => !r.required.contains name).map fun name =>
      (name, .map (Entries.ofTexts ((r.defaults.getText? name).map (("default", ·))).toList))

/-- What a user is told when the parameter table is made. -/
def parameterNotices (r : Route) : List Notice :=
  (r.optional.filter r.required.contains).map (.requiredAndOptional r.name)

/-- The path of a route as data. -/
def tree (r : Route) : List Value :=
  Path.nodes r.segments

end Route
end RouteHelpers
