import RouteHelpers.Script.Module

/-!
Type declarations of classic modules.

A declaration has a kind, a name and what follows the name. Modules export every declaration; the
global format puts them into one namespace.
-/

namespace RouteHelpers.Script

/-- The kind of a declaration. -/
inductive DeclarationKind where
  | typeAlias
  | interface
  | function
  | const
  deriving DecidableEq, Repr

/-- The keyword of a kind. -/
def DeclarationKind.keyword : DeclarationKind → String
  | typeAlias => "type"
  | interface => "interface"
  | function => "function"
  | const => "const"

/-- Whether declarations of a kind declare a value. -/
def DeclarationKind.isValue : DeclarationKind → Bool
  | function | const => true
  | typeAlias | interface => false

/-- A declaration: `rest` follows the name. -/
structure Declaration where
  kind : DeclarationKind
  name : String
  rest : String
  deriving DecidableEq, Repr

namespace Declaration

/-- The name with what follows it. -/
def text (d : Declaration) : String :=
  d.name ++ d.rest

/-! ### Fixed declarations -/

/-- The type of a parameter's value. -/
def routeParam : Declaration :=
  ⟨.typeAlias, "RouteParam", " = string | number | \x7b id: string | number \x7d;"⟩

/-- The declarations that every simple module has. -/
def simpleFixed : List Declaration :=
  [routeParam,
    ⟨.interface, "RouteOptions", unlines [
      " \x7b",
      "  anchor?: string;",
      "  trailing_slash?: boolean;",
      "  scheme?: string;",
      "  host?: string;",
      "  port?: string | number;",
      "  [param: string]: unknown;",
      "\x7d"]⟩,
    ⟨.interface, "UrlOptions", unlines [
      " \x7b",
      "  scheme?: string;",
      "  host?: string;",
      "  port?: string | number;",
      "\x7d"]⟩,
    ⟨.interface, "RouteHelperInfo", unlines [
      " \x7b",
      "  requiredParams(): string[];",
      "  toString(): string;",
      "\x7d"]⟩,
    ⟨.function, "configure",
      "(options: \x7b defaultUrlOptions?: UrlOptions; trailingSlash?: boolean \x7d): void;"⟩]

/-- The declarations that every rich module has. -/
def richFixed : List Declaration :=
  [routeParam,
    ⟨.interface, "RouteOptions", unlines [
      " \x7b",
      "  query?: Record<string, unknown>;",
      "  mergeQuery?: Record<string, unknown>;",
      "  anchor?: string;",
      "  [param: string]: unknown;",
      "\x7d"]⟩,
    ⟨.interface, "RouteResult", unlines [
      "<M extends string = string> \x7b",
      "  url: string;",
      "  method: M;",
      "\x7d"]⟩,
    ⟨.interface, "FormAttrs", unlines [
      " \x7b",
      "  action: string;",
      "  method: 'get' | 'post';",
      "\x7d"]⟩,
    ⟨.function, "_buildUrl",
      "(pattern: string, params?: Record<string, unknown>, options?: RouteOptions): string;"⟩]

/-- The declaration of the function that form helpers call. -/
def formFixed : Declaration :=
  ⟨.function, "_buildFormAction",
    "(pattern: string, params?: Record<string, unknown>, method?: string, " ++
      "options?: RouteOptions): string;"⟩

/-! ### Helpers -/

/-- The names of the arguments of a helper. -/
def argNames (r : Route) : List String :=
  r.required.map safeName ++ ["options"]

/-- The arguments of a helper with their types. -/
def signature (r : Route) : String :=
  Text.joinWith ", " (r.required.map (fun name => safeName name ++ ": RouteParam") ++
    ["options?: RouteOptions"])

/-- The declaration of a simple helper with the given name. -/
def simple (name : String) (r : Route) : Declaration :=
  ⟨.const, name, ": ((" ++ signature r ++ ") => string) & RouteHelperInfo;"⟩

/-- The type that a function of a rich helper returns. -/
def returnType : Returned → String
  | .url => "string"
  | .route method => "RouteResult<'" ++ method ++ "'>"
  | .form _ => "FormAttrs"

/-- A member of a rich helper: its name, what it returns, and its variants. -/
structure Member where
  name : String
  returned : Returned
  variants : List (String × Returned)
  deriving DecidableEq, Repr

/-- The members that the type of a rich helper has. -/
def richMembers (s : Settings) (r : Route) : List Member :=
  let mutation := Verb.mutations.contains r.verb
  let method (m : String) : Member := ⟨m, .route m, []⟩
  (if s.withMethods then
    [⟨"url", .url, []⟩, method "get", method "head"] ++ (if mutation then [method r.method] else [])
  else []) ++
  (if s.withForms && mutation then
    [⟨"form", .form r.method, [("patch", .form "patch"), ("put", .form "put"),
      ("delete", .form "delete")]⟩]
  else [])

/-- A function with a name in the type of a rich helper. -/
def methodText (r : Route) (name : String) (returned : Returned) : String :=
  name ++ "(" ++ signature r ++ "): " ++ returnType returned ++ ";"

/-- The type of a function without a name. -/
def functionType (r : Route) (returned : Returned) : String :=
  "((" ++ signature r ++ ") => " ++ returnType returned ++ ")"

/-- A member in the type of a rich helper. -/
def memberText (r : Route) (m : Member) : String :=
  if m.variants.isEmpty then methodText r m.name m.returned
  else
    m.name ++ ": " ++ functionType r m.returned ++ " & \x7b " ++
      Text.joinWith " " (m.variants.map fun v => methodText r v.1 v.2) ++ " \x7d;"

/-- The declaration of a rich helper. -/
def rich (s : Settings) (r : Route) : Declaration :=
  let call := functionType r (.route r.method)
  match richMembers s r with
  | [] => ⟨.const, r.name, ": " ++ call ++ ";"⟩
  | ms =>
    ⟨.const, r.name,
      ": " ++ call ++ " & \x7b\n" ++ unlines (ms.map fun m => "  " ++ memberText r m) ++ "\n\x7d;"⟩

/-! ### Whole files -/

/-- The declarations of a module. -/
def ofRoutes (s : Settings) (routes : List Route) : List Declaration :=
  match s.variant with
  | .rich => richFixed ++ (if s.withForms then [formFixed] else []) ++ routes.map (rich s)
  | .simple =>
    simpleFixed ++ routes.flatMap fun r =>
      simple r.name r ::
        (if s.urlHelpers && !r.urlName.isEmpty then [simple r.urlName r] else [])

/-- A declaration as a module exports it. -/
def exported (d : Declaration) : String :=
  (if d.kind.isValue then "export declare " else "export ") ++ d.kind.keyword ++ " " ++ d.text

/-- A declaration as the lines of a namespace. -/
def namespaceLines (d : Declaration) : List String :=
  (Text.lines (d.kind.keyword ++ " " ++ d.text)).map ("  " ++ ·)

/-- Blocks of lines with an empty line between each two. -/
def separated : List (List String) → List String
  | [] => []
  | [block] => block
  | block :: rest => block ++ [""] ++ separated rest

/-- The text of declarations in a format, without the header. -/
def layOut (format : ModuleFormat) (ds : List Declaration) : String :=
  match format with
  | .globalNamespace =>
    unlines (["declare namespace " ++ globalName ++ " \x7b"] ++ separated (ds.map namespaceLines) ++
      ["\x7d"])
  | .umd =>
    Text.joinWith "\n\n" (ds.map exported) ++ "\n\nexport as namespace " ++ globalName ++ ";"
  | _ => Text.joinWith "\n\n" (ds.map exported)

end Declaration

/-- The text of the type declarations for several routes. -/
def generateTypes {ε : Type} (s : Settings) (routes : List Route) : Traced ε String := do
  Traced.tellAll s.checkNotices
  let body := Declaration.layOut s.moduleFormat (Declaration.ofRoutes s routes)
  pure (unlines header ++ "\n\n" ++ body ++ "\n")

end RouteHelpers.Script
