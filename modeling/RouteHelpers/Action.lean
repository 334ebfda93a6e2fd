import RouteHelpers.Route

/-!
Actions: what a route does to its resource.

An action is inferred from the helper's name if the name follows a convention, else from the shape of
the path, else from the verb: a `GET` alone cannot tell a list from a form.
-/

namespace RouteHelpers.Action

/-- The actions in the order in which a resource lists them. -/
def order : List String :=
  ["index", "new", "create", "show", "edit", "update", "delete", "restore", "confirm"]

/-- The place of an action in that order; other names come last. -/
def rank (action : String) : Nat :=
  (order.idxOf? action).getD order.length

/-! ### Shapes of names and paths -/

/-- The starts of helper names that tell an action. -/
def namedStarts : List (String × String) :=
  [("new_", "new"), ("edit_", "edit"), ("create_", "create"), ("update_", "update"),
    ("delete_", "delete"), ("restore_", "restore")]

/-- The words before `_path` or `_url` that tell an action. -/
def namedEndings : List String :=
  ["restore", "confirm", "new", "index", "show"]

/-- A text without a line feed at its very end: the endings below are looked for before it. -/
def body (s : String) : String :=
  String.ofList (Text.cutFinalNewline s.toList).1

/-- The action that a helper's name tells. -/
def ofName? (name : String) : Option String :=
  match namedStarts.find? (fun p => Text.startsWith p.1 name) with
  | some p => some p.2
  | none =>
    namedEndings.find? fun word =>
      Text.endsWith ("_" ++ word ++ "_path") (body name) ||
        Text.endsWith ("_" ++ word ++ "_url") (body name)

/-- A list of characters without its parenthesized groups, none of which holds a closing parenthesis
inside. `opened` is what was read since an opening parenthesis, in reverse. -/
def dropGroupsFrom (opened : Option (List Char)) : List Char → List Char
  | [] =>
    match opened with
    | none => []
    | some cs => cs.reverse
  | c :: rest =>
    match opened with
    | none => if c = '(' then dropGroupsFrom (some [c]) rest else c :: dropGroupsFrom none rest
    | some cs => if c = ')' then dropGroupsFrom none rest else dropGroupsFrom (some (c :: cs)) rest

/-- A path without its optional groups. -/
def dropGroups (path : String) : String :=
  String.ofList (dropGroupsFrom none path.toList)

/-- Whether a text ends in a slash and a parameter whose name is a word. -/
def endsInParameter (s : String) : Bool :=
  let name := (s.toList.reverse.takeWhile Text.isWord)
  !name.isEmpty && [':', '/'].isPrefixOf (s.toList.reverse.drop name.length)

/-- Whether a text ends in a parameter and a given member action. -/
def endsInMember (action s : String) : Bool :=
  match Text.beforeEnding? ("/" ++ action) s with
  | some before => endsInParameter before
  | none => false

/-- The action that the shape of a path without groups tells. -/
def ofPath? (verb path : String) : Option String :=
  let path := body path
  if Text.endsWith "/new" path then some "new"
  else if Text.endsWith "/create" path && verb == "GET" then some "new"
  else if endsInMember "edit" path then some "edit"
  else if endsInMember "restore" path then some "restore"
  else if endsInMember "confirm" path then some "confirm"
  else none

/-- The action that a verb tells. -/
def ofVerb? : String → Option String
  | "POST" => some "create"
  | "PATCH" => some "update"
  | "PUT" => some "update"
  | "DELETE" => some "delete"
  | _ => none

/-- The action of a route with the given helper name, verb and path. -/
def infer (name verb path : String) : String :=
  let bare := dropGroups path
  match ofName? name with
  | some action => action
  | none =>
    match ofPath? verb bare with
    | some action => action
    | none =>
      match ofVerb? verb with
      | some action => action
      | none => if verb == "GET" && endsInParameter (body bare) then "show" else "index"

/-- The action of a route. -/
def ofRoute (r : Route) : String :=
  infer r.helperName (Text.upper r.verb) r.path

/-- The word that the action of a route contributes to a name: the action that the record gives, if
anything of it fits into a name, else the inferred one. -/
def token (r : Route) : String :=
  let given := r.action.getD ""
  let word := wordToken (if given.isEmpty then ofRoute r else given)
  if word.isEmpty then ofRoute r else word

end RouteHelpers.Action
