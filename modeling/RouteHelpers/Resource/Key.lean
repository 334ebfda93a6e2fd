import RouteHelpers.Action
import RouteHelpers.Script.Identifier

/-!
Keys of resources: what a route belongs to.

A key is a list of words, of which the last names the resource and the others its scope. It comes
either from the helper's name, less the words for actions and scope, or from the static components of
the path.
-/

namespace RouteHelpers

/-- A key: the words of the scope, and the name of the resource. -/
structure ResourceKey where
  scope : List String
  name : String
  deriving DecidableEq, Repr, Inhabited

namespace ResourceKey

/-- The words of a key. -/
def words (k : ResourceKey) : List String :=
  k.scope ++ [k.name]

/-- The key with the given words; the name is `root` if there are none. -/
def ofWords (ws : List String) : ResourceKey :=
  ⟨ws.dropLast, ws.getLast?.getD "root"⟩

/-- The place of a resource's file, below the output directory. -/
def path (extension : String) (k : ResourceKey) : String :=
  Text.joinWith "/" k.words ++ extension

/-! ### Scope -/

/-- The version of a path such as `/api/v2/users`. -/
def apiVersion? (path : String) : Option String :=
  match Text.afterStart? "/api/v" path with
  | none => none
  | some rest =>
    let digits := rest.toList.takeWhile Text.isDecimal
    if !digits.isEmpty && (rest.toList.drop digits.length).head? == some '/' then
      some (String.ofList digits)
    else none

/-- The scope that the start of a path tells. -/
def scopeOfPath (path : String) : List String :=
  if Text.startsWith "/admin/" path then ["admin"]
  else
    match apiVersion? path with
    | some version => ["api", "v" ++ version]
    | none => if Text.startsWith "/api/" path then ["api"] else []

/-! ### Names -/

/-- A plural that is good enough for file names. -/
def pluralize (word : String) : String :=
  if Text.endsWith "s" word then word
  else
    match Text.beforeEnding? "y" word with
    | some stem => stem ++ "ies"
    | none => word ++ "s"

/-- A text without the first of several endings that it has; a line feed at its very end is not
counted and stays. -/
def dropEnding (endings : List String) (s : String) : String :=
  let (cs, newline) := Text.cutFinalNewline s.toList
  match endings.findSome? (fun e => Text.beforeEnding? e (String.ofList cs)) with
  | some stem => stem ++ String.ofList newline
  | none => s

/-- A text without the first of several starts that it has. -/
def dropStart (starts : List String) (s : String) : String :=
  (starts.findSome? fun start => Text.afterStart? start s).getD s

/-- The starts of helper names that name an action. -/
def actionStarts : List String :=
  ["new_", "edit_", "create_", "update_", "delete_", "restore_"]

/-- The endings of helper names that name an action. -/
def actionEndings : List String :=
  ["_index", "_show", "_new", "_edit", "_create", "_update", "_delete", "_confirm", "_restore",
    "_confirm_email"]

/-- A name in snake case whose second word is dropped if it repeats the first. -/
def collapseRepeat (name : String) : String :=
  match Text.split '_' name with
  | first :: second :: rest =>
    if first = second then Text.joinWith "_" (first :: rest) else name
  | _ => name

/-- A name without the words of a scope at its start. -/
def dropScope (scope : List String) (name : String) : String :=
  if scope.isEmpty then name
  else (Text.afterStart? (Text.joinWith "_" scope ++ "_") name).getD name

/-- A word made of a text, or `root` if none is left. -/
def wordOrRoot (s : String) : String :=
  let word := wordToken s
  if word.isEmpty then "root" else word

/-- The key that a helper's name tells, at a path that tells the scope. -/
def ofHelper (r : Route) : ResourceKey :=
  let scope := scopeOfPath r.path
  let name := dropEnding ["_path", "_url"] r.helperName
  let name := dropEnding actionEndings (dropStart actionStarts name)
  -- the repeat goes first, so that of a scope named twice nothing is left
  let name := wordOrRoot (dropScope scope (collapseRepeat name))
  ⟨scope, pluralize name⟩

/-- The key that the static components of a path tell. -/
def ofPath (r : Route) : ResourceKey :=
  let isStatic (c : String) : Bool :=
    !c.isEmpty && !Text.startsWith ":" c && !Text.startsWith "*" c
  ofWords (((Text.split '/' (Action.dropGroups r.path)).filter isStatic).map wordOrRoot)

/-- The key of a route. Records name no controller, so grouping by it goes by the helper. -/
def ofRoute (g : Grouping) (r : Route) : ResourceKey :=
  match g with
  | .scope => ofPath r
  | .resource => ofHelper r
  | .controller => ofHelper r

end ResourceKey
end RouteHelpers
