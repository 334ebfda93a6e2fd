import RouteHelpers.Script.Rich
import RouteHelpers.Script.Runtime
import RouteHelpers.Script.Simple

/-!
Classic modules: one script that holds every helper.

The body of a module is a list of parts, each with the names it declares at the top level. A module
also lists the names it exports. The wrapping depends on the module format; the parts do not.
-/

namespace RouteHelpers.Script

/-- A part of a module's body. -/
structure Part where
  declares : List String
  text : String
  deriving Repr

/-- A module: its parts, the helpers it exports, and the functions of its own that it exports as
well. -/
structure Module where
  parts : List Part
  exports : List String
  functionExports : List String
  deriving Repr

/-- The comment that every emitted file starts with. -/
def header : List String :=
  ["/**", " * Route helpers generated by routes-js. Do not edit manually.", " */"]

/-- The name under which formats without modules publish the helpers. -/
def globalName : String := "Routes"

namespace Module

/-! ### Parts -/

/-- The class that builds URLs, with its helper functions. -/
def routeBuilderPart : Part :=
  ⟨["RouteBuilder", "RESERVED_OPTIONS", "isPlainObject", "toParam", "pick"],
    unlines Runtime.routeBuilder⟩

/-- The builder of a module, made with the options for absolute URLs. -/
def builderPart (s : Settings) : Except Json.WriteFault Part := do
  let options ← Json.write .full (.map (Entries.ofTexts [("defaultUrlOptions", s.defaultUrlOptions)]))
  .ok ⟨["_builder"], "const _builder = new RouteBuilder(" ++ options ++ ");"⟩

/-- The function that changes the options of the builder. -/
def configurePart : Part :=
  ⟨["configure"], unlines Runtime.configure⟩

/-- The functions that rich helpers call. -/
def richHelpersPart : Part :=
  ⟨["_buildQueryString", "_buildUrl"], unlines Runtime.richHelpers⟩

/-- The function that form helpers call. -/
def formHelperPart : Part :=
  ⟨["_buildFormAction"], unlines Runtime.formHelper⟩

/-- What simple helpers a route gets. -/
def targets (s : Settings) (r : Route) : List Target :=
  if s.urlHelpers && !r.urlName.isEmpty then [.path, .url] else [.path]

/-- The parts of a route's simple helpers. -/
def simpleParts (s : Settings) (r : Route) : Traced Json.WriteFault (List Part) :=
  Traced.mapEach (fun target => do
    let text ← Simple.render s r target
    pure ⟨[Simple.name r target], text⟩) (targets s r)

/-- The part of a route's rich helper. -/
def richPart (s : Settings) (r : Route) : Part :=
  ⟨[r.name], Rich.render s r⟩

/-! ### Modules -/

/-- The module of the simple variant. -/
def simple (s : Settings) (routes : List Route) : Traced Json.WriteFault Module := do
  let builder ← Traced.lift (builderPart s)
  let helpers ← Traced.mapEach (simpleParts s) routes
  pure {
    parts := [routeBuilderPart, builder, configurePart] ++ helpers.flatten
    exports := "configure" :: routes.flatMap fun r => (targets s r).map (Simple.name r)
    functionExports := [] }

/-- The module of the rich variant. -/
def rich (s : Settings) (routes : List Route) : Module where
  parts := [richHelpersPart] ++ (if s.withForms then [formHelperPart] else []) ++
    routes.map (richPart s)
  exports := routes.map (·.name)
  functionExports :=
    if s.moduleFormat == .esm then
      ["_buildUrl"] ++ (if s.withForms then ["_buildFormAction"] else [])
    else []

/-- The module of several routes. -/
def ofRoutes (s : Settings) (routes : List Route) : Traced Json.WriteFault Module := do
  Traced.tellAll s.checkNotices
  match s.variant with
  | .simple => simple s routes
  | .rich => do
    if s.urlHelpers then Traced.tell .urlsNeedSimple
    pure (rich s routes)

/-! ### Layout -/

/-- The body of a module: its parts with an empty line between each two. -/
def body (m : Module) : String :=
  Text.joinWith "\n\n" (m.parts.map (·.text))

/-- The exported helpers, one to a line. -/
def exportLines (depth : Nat) (m : Module) : List String :=
  m.exports.map fun name => Text.repeated (2 * depth) " " ++ name ++ ","

/-- The text of a module in a format. -/
def text (format : ModuleFormat) (m : Module) : String :=
  let lines := match format with
    | .esm =>
      header ++ ["", m.body, "", "export \x7b"] ++ exportLines 1 m ++ ["\x7d;"] ++
        (if m.functionExports.isEmpty then []
          else ["export \x7b " ++ Text.joinWith ", " m.functionExports ++ " \x7d;"])
    | .cjs =>
      header ++ ["", m.body, "", "module.exports = \x7b"] ++ exportLines 1 m ++ ["\x7d;"]
    | .umd =>
      header ++
      ["(function (root, factory) \x7b",
        "  if (typeof define === 'function' && define.amd) \x7b",
        "    define([], factory);",
        "  \x7d else if (typeof module === 'object' && module.exports) \x7b",
        "    module.exports = factory();",
        "  \x7d else \x7b",
        "    root." ++ globalName ++ " = factory();",
        "  \x7d",
        "\x7d)(typeof self !== 'undefined' ? self : this, function () \x7b",
        m.body,
        "",
        "  return \x7b"] ++ exportLines 2 m ++
      ["  \x7d;", "\x7d);"]
    | .globalNamespace =>
      header ++
      ["(function (root) \x7b",
        m.body,
        "",
        "  root." ++ globalName ++ " = \x7b"] ++ exportLines 2 m ++
      ["  \x7d;",
        "\x7d)(typeof globalThis !== 'undefined' ? globalThis : this);"]
  unlines lines ++ "\n"

end Module

/-- The text of the module that holds the helpers of several routes. -/
def generate (s : Settings) (routes : List Route) : Traced Json.WriteFault String := do
  let m ← Module.ofRoutes s routes
  pure (m.text s.moduleFormat)

end RouteHelpers.Script
