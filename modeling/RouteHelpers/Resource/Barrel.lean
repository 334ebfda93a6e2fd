import RouteHelpers.Resource.File

/-!
Barrels: the files that re-export what a directory holds.

A barrel names each resource of its directory by a binding of its own and each scope by a namespace.
A scope whose name a resource has taken is exported under another name, and two things that cannot be
told apart are a collision.
-/

namespace RouteHelpers

/-- Two things of one directory that would be exported under one name. -/
structure BindingCollision where
  name : String
  paths : List String
  deriving DecidableEq, Repr

/-- A re-export: the name it gets, and the module it comes from. -/
structure ReExport where
  binding : String
  module : String
  deriving DecidableEq, Repr

/-- What a barrel re-exports: the objects of resources, and scopes as namespaces. -/
structure Barrel where
  resources : List ReExport
  namespaces : List ReExport
  deriving DecidableEq, Repr

namespace Barrel

/-- The names taken so far, each with the place that took it. -/
abbrev Taken := List (String × String)

/-- The place that took a name. -/
def Taken.find? (taken : Taken) (name : String) : Option String :=
  (List.find? (fun t => t.1 == name) taken).map (·.2)

/-- The re-exports of resources, and the names they take. -/
def resourceExports (taken : Taken) :
    List Resource → Except BindingCollision (List ReExport × Taken)
  | [] => .ok ([], taken)
  | r :: rest =>
    let binding := Script.safeName r.name
    match taken.find? binding with
    | some first => .error ⟨binding, [first, r.path]⟩
    | none => do
      let (more, taken) ← resourceExports (taken ++ [(binding, r.path)]) rest
      .ok (⟨binding, r.key.name⟩ :: more, taken)

/-- The place of a scope's barrel, seen from the directory above it. -/
def scopeModule (scope : String) : String :=
  scope ++ "/index"

/-- The re-exports of scopes. -/
def scopeExports (taken : Taken) : List String → Traced BindingCollision (List ReExport)
  | [] => pure []
  | scope :: rest => do
    let place := scopeModule scope ++ Resource.fileEnding
    let own := Script.safeName scope
    let binding ←
      if (taken.find? own).isNone then pure own
      -- resources come first, so it is the scope that gets another name
      else do
        let other := Script.safeName (scope ++ "_scope")
        Traced.tell (.scopeRenamed scope other)
        match taken.find? other with
        | some first => Traced.fail ⟨other, [first, place]⟩
        | none => pure other
    let more ← scopeExports (taken ++ [(binding, place)]) rest
    pure (⟨binding, scopeModule scope⟩ :: more)

/-- The barrel of a directory with the given resources and scopes. -/
def of (resources : List Resource) (scopes : List String) : Traced BindingCollision Barrel := do
  let (exports, taken) ← Traced.lift (resourceExports [] resources)
  let namespaces ← scopeExports taken scopes
  pure ⟨exports, namespaces⟩

/-! ### Layout -/

/-- The lines that re-export the types of the runtime. -/
def runtimeTypeLines : List String :=
  ["",
    "// Runtime types",
    "export type \x7b Route, RouteOptions, FormAttrs, Param, Method \x7d from './" ++
      Resource.runtimeModule ++ "';"]

/-- The text of a barrel; the barrel of the output directory re-exports the types of the runtime as
well. -/
def text (withTypes : Bool) (b : Barrel) : String :=
  let lines :=
    b.resources.map (fun e => "export \x7b " ++ e.binding ++ " \x7d from './" ++ e.module ++ "';") ++
    b.namespaces.map (fun e => "export * as " ++ e.binding ++ " from './" ++ e.module ++ "';") ++
    (if withTypes then runtimeTypeLines else [])
  -- an empty barrel starts with its types
  String.join ((lines.dropWhile (·.isEmpty)).map (· ++ "\n"))

/-- The barrel of the output directory. -/
def topLevel (resources : List Resource) : Traced BindingCollision SourceFile := do
  let direct := resources.filter (·.scope.isEmpty)
  let scopes := Text.sorted (Text.distinct (resources.filterMap (·.scope.head?)))
  let b ← of direct scopes
  pure ⟨"index" ++ Resource.fileEnding, b.text true⟩

/-- The barrel of a scope with the given resources and scopes below it. -/
def ofScope (words : List String) (resources : List Resource) (subscopes : List String) :
    Traced BindingCollision SourceFile := do
  let b ← of resources subscopes
  pure ⟨Text.joinWith "/" words ++ "/index" ++ Resource.fileEnding, b.text false⟩

end Barrel

namespace Resource

/-- Every file of the output directory: the runtime, the resources, and the barrels. -/
def files (s : Settings) (routes : List Route) : Traced BindingCollision (List SourceFile) := do
  let resources ← ofRoutes s.grouping routes
  let own ← Traced.mapEach (file s.documentation) resources
  let top ← if s.includeIndex then (fun f => [f]) <$> Barrel.topLevel resources else pure []
  let barrels ← Traced.mapEach (fun (scope : Scope) =>
    Barrel.ofScope scope.words scope.members scope.subscopes) (scopes resources)
  pure (runtimeFile s.withForms :: own ++ top ++ barrels)

end Resource
end RouteHelpers
