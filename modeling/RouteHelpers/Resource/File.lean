import RouteHelpers.Resource.Group
import RouteHelpers.Script.Runtime

/-!
Files of resources: one constant per action, an object that holds them all, and the exports.

An action is bound under its own name where that can be bound, and under another where the resource
already has the name.
-/

namespace RouteHelpers

/-- A file to be written below the output directory. -/
structure SourceFile where
  path : String
  content : String
  deriving DecidableEq, Repr

namespace Resource

/-- The module that every resource file imports, below the output directory. -/
def runtimeModule : String := "lib/wayfinder"

/-- The names that a resource file imports. -/
def importedNames : List String := ["route", "Route", "RouteOptions", "Param"]

/-- The way from a directory `depth` levels down to the output directory. -/
def wayUp (depth : Nat) : String :=
  if depth = 0 then "./" else Text.repeated depth "../"

/-- The module that the file of a resource imports, as the file names it. -/
def runtimeImport (r : Resource) : String :=
  wayUp r.scope.length ++ runtimeModule

/-! ### Actions -/

/-- The name under which a file binds an action of a resource. -/
def binding (r : Resource) (action : String) : String :=
  let own := Script.safeName action
  -- the object that holds the actions is bound as well, under the name of the resource
  if own == Script.safeName r.name then Script.safeName (action ++ "_action") else own

/-- The type argument that tells the parameters of an action. -/
def parameterType (params : List Parameter) : String :=
  if params.isEmpty then ""
  else
    let member (p : Parameter) : String :=
      Script.key p.name ++ (if p.required then "" else "?") ++ ": Param"
    "<\x7b " ++ Text.joinWith "; " (params.map member) ++ " \x7d>"

/-- The documentation comment of an action. -/
def actionDocumentation (a : ResourceAction) : List String :=
  Script.comment [a.route.verb ++ " " ++ a.route.path, "@action :" ++ a.name]

/-- The constant of an action, under a name. -/
def actionText (documented : Bool) (a : ResourceAction) (binding : String) : String :=
  let call := "const " ++ binding ++ " = route" ++ parameterType a.params ++ "(" ++
    Script.singleQuoted a.route.path ++ ", " ++ Script.singleQuoted a.route.method ++ ");"
  if documented then Script.unlines (actionDocumentation a ++ [call]) else call

/-- A property of the object of a resource. -/
def property (action binding : String) : String :=
  if binding == action then action else Script.key action ++ ": " ++ binding

/-! ### Files -/

/-- The text of a resource's file. -/
def fileText (documented : Bool) (r : Resource) : String :=
  let bound := r.actions.map fun a => (a, binding r a.name)
  Script.unlines <|
    ["import \x7b route, type Route, type RouteOptions, type Param \x7d from '" ++ runtimeImport r ++
      "';", ""] ++
    bound.flatMap (fun (a, name) => [actionText documented a name, ""]) ++
    ["export const " ++ Script.safeName r.name ++ " = \x7b"] ++
    bound.map (fun (a, name) => "  " ++ property a.name name ++ ",") ++
    ["\x7d as const;",
      "",
      "export \x7b " ++ Text.joinWith ", " (bound.map (·.2)) ++ " \x7d;",
      ""]

/-- The file of a resource. -/
def file {ε : Type} (documented : Bool) (r : Resource) : Traced ε SourceFile := do
  Traced.tell (.resourceActions r.path r.actions.length)
  pure ⟨r.path, fileText documented r⟩

/-- The file of the module that resource files import. -/
def runtimeFile (withForms : Bool) : SourceFile :=
  ⟨runtimeModule ++ fileEnding, Script.unlines (Script.Runtime.wayfinder withForms) ++ "\n"⟩

end Resource
end RouteHelpers
