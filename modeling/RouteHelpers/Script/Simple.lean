import RouteHelpers.Route
import RouteHelpers.Script.Identifier

/-!
Helpers of the simple variant: each is one call of the route builder with a table of parameters and
the tree of the path, and returns a path or an absolute URL.
-/

namespace RouteHelpers.Script

/-- What a simple helper returns. -/
inductive Target where
  | path
  | url
  deriving DecidableEq, Repr

namespace Simple

/-- The name of a route's helper for a target. -/
def name (r : Route) : Target → String
  | .path => r.name
  | .url => r.urlName

/-- The documentation comment of a helper. -/
def documentation (r : Route) (target : Target) : List String :=
  comment <|
    [r.verb ++ " " ++ r.path] ++
    r.required.map ("@param \x7bstring|number\x7d " ++ ·) ++
    ["@param \x7bobject\x7d [options] Optional params, query params, anchor, trailing_slash",
      "@returns \x7bstring\x7d " ++ (match target with
        | .path => "Path"
        | .url => "Absolute URL")]

/-- The declaration of a helper, without its comment. -/
def declaration (r : Route) (target : Target) : Except Json.WriteFault String := do
  let parameters ← Json.write .full (.map r.parameterTable)
  let tree ← Json.write .full (.list r.tree)
  let flag := match target with
    | .path => "false"
    | .url => "true"
  .ok ("const " ++ name r target ++ " = /*#__PURE__*/ _builder.route(" ++ parameters ++ ", " ++ tree ++
    ", " ++ flag ++ ");")

/-- A helper: its comment, if comments are wanted, and its declaration. -/
def render (s : Settings) (r : Route) (target : Target) : Traced Json.WriteFault String := do
  Traced.tellAll r.parameterNotices
  let code ← Traced.lift (declaration r target)
  pure (if s.documentation then unlines (documentation r target) ++ "\n" ++ code else code)

end Simple
end RouteHelpers.Script
