import RouteHelpers.Route
import RouteHelpers.Script.Identifier

/-!
Helpers of the rich variant: each is a function that returns a URL with its method, and may carry
further functions as members. A member can have variants of its own: the form functions for each
method that forms cannot send.

A helper is built as data first, `members`, and laid out afterwards.
-/

namespace RouteHelpers.Script

/-- What a function of a rich helper returns. -/
inductive Returned where
  /-- The URL alone. -/
  | url
  /-- The URL with a method. -/
  | route (method : String)
  /-- The action and method of a form that stands for a method. -/
  | form (method : String)
  deriving DecidableEq, Repr

/-- A function of a rich helper. -/
structure RichFunction where
  args : List String
  returned : Returned
  deriving DecidableEq, Repr

/-- A member of a rich helper, with its variants by name. -/
structure RichMember where
  name : String
  function : RichFunction
  variants : List (String × RichFunction)
  deriving DecidableEq, Repr

namespace Rich

/-! ### A helper as data -/

/-- The names of the arguments of every function of a route. -/
def args (r : Route) : List String :=
  r.required.map safeName ++ ["options"]

/-- The function of a route that returns the given. -/
def function (r : Route) (returned : Returned) : RichFunction :=
  ⟨args r, returned⟩

/-- The methods that forms of a route have variants for. -/
def formMethods : List String := ["patch", "put", "delete"]

/-- The members for methods: the URL alone, and the URL with each method that makes sense. -/
def methodMembers (r : Route) : List RichMember :=
  let methods := ["get", "head"] ++ (if Verb.isMutation r.verb then [r.method] else [])
  ⟨"url", function r .url, []⟩ :: methods.map fun m => ⟨m, function r (.route m), []⟩

/-- The member for forms. -/
def formMember (r : Route) : RichMember :=
  ⟨"form", function r (.form r.method), formMethods.map fun m => (m, function r (.form m))⟩

/-- The members of a route's helper. -/
def members (s : Settings) (r : Route) : List RichMember :=
  (if s.withMethods then methodMembers r else []) ++
    (if s.withForms && Verb.isMutation r.verb then [formMember r] else [])

/-! ### Layout -/

/-- The required parameters as an object, each under its own name. -/
def parameterObject (r : Route) : String :=
  if r.required.isEmpty then "\x7b\x7d"
  else
    let entry (name : String) : String :=
      if safeName name == name then name else doubleQuoted name ++ ": " ++ safeName name
    "\x7b " ++ Text.joinWith ", " (r.required.map entry) ++ " \x7d"

/-- The lines of a function. -/
def functionLines (r : Route) (f : RichFunction) : List String :=
  let head := "function(" ++ Text.joinWith ", " f.args ++ ") \x7b"
  let target := doubleQuoted r.path ++ ", " ++ parameterObject r
  match f.returned with
  | .url => [head, "  return _buildUrl(" ++ target ++ ", options);", "\x7d"]
  | .route method =>
    [head,
      "  return \x7b",
      "    url: _buildUrl(" ++ target ++ ", options),",
      "    method: " ++ doubleQuoted method ++ ",",
      "  \x7d;",
      "\x7d"]
  | .form method =>
    let sent := if method == "get" || method == "post" then method else "post"
    [head,
      "  return \x7b",
      "    action: _buildFormAction(" ++ target ++ ", " ++ doubleQuoted method ++ ", options),",
      "    method: " ++ doubleQuoted sent ++ ",",
      "  \x7d;",
      "\x7d"]

/-- The lines of a function with functions attached to it. -/
def assignLines (function attached : List String) : List String :=
  indent 1 (endWith "," function) ++ attached

/-- The lines of a member. -/
def memberLines (r : Route) (m : RichMember) : List String :=
  let own := functionLines r m.function
  if m.variants.isEmpty then startWith (m.name ++ ": ") own
  else
    let variant (v : String × RichFunction) : List String :=
      indent 2 (endWith "," (startWith (v.1 ++ ": ") (functionLines r v.2)))
    [m.name ++ ": Object.assign("] ++
      assignLines own (["  \x7b"] ++ m.variants.flatMap variant ++ ["  \x7d"]) ++ [")"]

/-- The documentation comment of a helper. -/
def documentation (r : Route) : List String :=
  comment <|
    [r.verb ++ " " ++ r.path] ++
    r.required.map ("@param \x7bstring|number|\x7bid: string|number\x7d\x7d " ++ ·) ++
    ["@param \x7bobject\x7d [options] query, mergeQuery, anchor and optional params",
      "@returns \x7b\x7burl: string, method: string\x7d\x7d"]

/-- A helper. -/
def render (s : Settings) (r : Route) : String :=
  let own := functionLines r (function r (.route r.method))
  let attached := match members s r with
    | [] => ["  \x7b\x7d"]
    | ms => ["  \x7b"] ++ ms.flatMap (fun m => indent 2 (endWith "," (memberLines r m))) ++ ["  \x7d"]
  unlines <|
    (if s.documentation then documentation r else []) ++
    ["const " ++ r.name ++ " = Object.assign("] ++ assignLines own attached ++ [");"]

end Rich
end RouteHelpers.Script
