import RouteHelpers.Settings
import RouteHelpers.Text.Case

/-!
Names of the emitted helpers.

A helper `user` gives the path helper `user_path` and the URL helper `user_url`. Compact naming drops
the suffix of path helpers; camel case applies to the whole name.
-/

namespace RouteHelpers

/-- A name in snake case turned into camel case: the words after the first are capitalized. -/
def camelCased (name : String) : String :=
  match Text.split '_' name with
  | [] => ""
  | first :: words => first ++ Text.joinWith "" (words.map Text.capitalize)

namespace Naming

/-- A name in the case that is asked for. -/
def cased (n : Naming) (name : String) : String :=
  if n.camelCase then camelCased name else name

/-- The name of the path helper. -/
def pathName (n : Naming) (helper : String) : String :=
  n.cased (if n.compact then helper else helper ++ "_path")

/-- The name of the URL helper. -/
def urlName (n : Naming) (helper : String) : String :=
  n.cased (helper ++ "_url")

end Naming

/-- A text made fit for a name: each run of other characters than those of words becomes an
underscore, and none is left at the ends. -/
def wordToken (s : String) : String :=
  Text.strip (· == '_') (Text.replaceRuns (fun c => !Text.isWord c) "_" s)

end RouteHelpers
