import RouteHelpers.RouteFile.Node
import RouteHelpers.Inflection
import RouteHelpers.Text.Lines

/-!
Where a route is declared, and the arguments it is declared with.

A scope carries what the declarations around a route add to it: the path in front, the parts of the
helper's name in front, what is known of the resource that the route belongs to, and default values. What
is known of a resource stays in a scope that belongs to none, and may be out of date there; it is looked at
through `Scope.resource`, which is nothing then. Paths are joined by `joinPath` and names by `joinNames`, so
that no declaration can bring an empty component in.
-/

namespace RouteHelpers.RouteFile

/-- Which of the routes of a resource a declaration adds to: those of one member, or those of the
whole collection. -/
inductive Level where
  | member
  | collection
  deriving DecidableEq, Repr

/-- The resource around a declaration. -/
structure Enclosing where
  singular : String
  plural : String
  /-- The name of the parameter that tells the members apart; empty if there is none. -/
  param : String
  /-- Whether there is one member only, which no parameter tells apart. -/
  alone : Bool
  level : Option Level
  deriving Repr

/-- The declarations around a route. The fields from `singular` to `level` are about the resource that it
belongs to, and count only where `singular` is a name. -/
structure Scope where
  path : String := ""
  names : List String := []
  singular : Option String := none
  plural : Option String := none
  param : String := "id"
  alone : Bool := false
  level : Option Level := none
  defaults : List (String × String) := []
  deriving Repr

/-- The resource that a scope belongs to. One whose members no parameter tells apart may have the parameter
of a resource around it, which is not looked at. -/
def Scope.resource (s : Scope) : Option Enclosing :=
  match s.singular with
  | none | some "" => none
  | some singular =>
    some ⟨singular, s.plural.getD "", if s.alone then "" else s.param, s.alone, s.level⟩

/-! ### Paths and names -/

/-- A path without the slashes at its end. -/
def dropEndSlashes (path : String) : String :=
  Text.dropEnd (· == '/') path

/-- A path below another. -/
def joinPath (base path : String) : String :=
  if path.isEmpty || path == "/" then (if base.isEmpty then "/" else base)
  else dropEndSlashes base ++ "/" ++ Text.strip (· == '/') path

/-- The name that consists of several parts, empty ones left out. -/
def joinNames (parts : List String) : String :=
  Text.joinWith "_" (parts.filter (!·.isEmpty))

/-- The name that a path of plain words suggests; nothing for other paths. -/
def nameOfPath? (path : String) : Option String :=
  let candidate := Text.strip (· == '/') path
  let (word, _) := Text.cutFinalNewline candidate.toList
  let isPlain (c : Char) : Bool := Text.isWord c || c == '-' || c == '/'
  if !word.isEmpty && word.all isPlain then
    some (Text.flatMap (fun c => if c == '/' || c == '-' then ['_'] else [c]) candidate)
  else none

namespace Scope

/-- The path of one member of a resource at a path. -/
def memberPath (path param : String) (alone : Bool) : String :=
  if alone then path else path ++ "/:" ++ param

/-- The path of what belongs to one member of a resource at a path. -/
def nestedPath (path : String) (r : Enclosing) : String :=
  if r.alone then path else path ++ "/:" ++ r.singular ++ "_" ++ r.param

/-- The names and the path in front of a resource that is declared in a scope. -/
def nesting (s : Scope) : List String × String :=
  match s.resource with
  | none => (s.names, s.path)
  | some r =>
    -- in its own block a member goes by `:id`, in front of what is nested by `:post_id`
    match r.level with
    | some .member => (s.names ++ [r.singular], memberPath s.path r.param r.alone)
    | some .collection => (s.names ++ [r.plural], s.path)
    | none => (s.names ++ [r.singular], nestedPath s.path r)

/-- The scope of declarations that add to one level of the resource around them. -/
def atLevel (l : Level) (s : Scope) : Scope :=
  { s with level := some l }

/-- The scope of the declarations inside a resource. -/
def inside (s : Scope) (path : String) (names : List String) (r : Enclosing) : Scope :=
  { s with
    path
    names
    singular := some r.singular
    plural := some r.plural
    param := if r.alone then s.param else r.param
    alone := r.alone
    level := r.level }

/-- Values by key with one set. -/
def setDefault {α : Type} (defaults : List (String × α)) (key : String) (value : α) :
    List (String × α) :=
  if defaults.any (·.1 == key) then
    defaults.map fun d => if d.1 == key then (key, value) else d
  else defaults ++ [(key, value)]

end Scope

/-! ### Arguments -/

/-- The options that are lists. -/
def listKeys : List String := ["only", "except", "via", "concerns"]

/-- The arguments of a declaration: its name and its options, later ones counting. The text of an
option is nothing if the option is set to nothing. -/
structure Arguments where
  name : Option String
  texts : List (String × Option String)
  lists : List (String × List String)

namespace Arguments

/-- Arguments with an option added. -/
def addOption (a : Arguments) (key : String) (value : Node) : Except Text.Utf8Fault Arguments :=
  if listKeys.contains key then
    value.values.map fun elements => { a with lists := a.lists ++ [(key, elements)] }
  else if value.isNil then .ok { a with texts := a.texts ++ [(key, none)] }
  else value.value.map fun text => { a with texts := a.texts ++ [(key, some text)] }

/-- Arguments with a pair added. Where no name was given, a text in front of an arrow is the name and
its value the target. -/
def addPair (a : Arguments) (pair : Node) : Except Text.Utf8Fault Arguments :=
  match pair.keyValue? with
  | none => .ok a
  | some (keyNode, value) => do
    let key ← keyNode.value
    if keyNode.isString && a.name.isNone then addOption { a with name := some key } "to" value
    else addOption a key value

/-- The name and the options among several arguments. -/
def ofNodes (args : List Node) : Except Text.Utf8Fault Arguments := do
  let name ← (args.find? fun n => n.isSymbol || n.isString).mapM Node.value
  (args.flatMap Node.pairs).foldlM addPair ⟨name, [], []⟩

/-- The text of an option: nothing inside if the option is set to nothing. -/
def text? (a : Arguments) (key : String) : Option (Option String) :=
  (a.texts.reverse.find? fun o => o.1 == key).map (·.2)

/-- The text of an option, or what stands for it where the option is not given; nothing counts as
empty. -/
def textOr (a : Arguments) (key default : String) : String :=
  ((a.text? key).getD (some default)).getD ""

/-- The elements of an option that is a list. -/
def list? (a : Arguments) (key : String) : Option (List String) :=
  (a.lists.reverse.find? fun o => o.1 == key).map (·.2)

end Arguments

/-! ### Scopes that declarations open -/

/-- The resource with many members that a declaration with some options names. -/
def Enclosing.many (a : Arguments) (plural : String) : Enclosing :=
  ⟨Inflection.singularize plural, plural, ((a.text? "param").getD (some "id")).getD "None", false,
    none⟩

/-- The resource with one member of a name. -/
def Enclosing.one (singular : String) : Enclosing :=
  ⟨singular, singular, "", true, none⟩

namespace Scope

/-- The scope inside a resource that is declared under a name. -/
def inResource (a : Arguments) (name : String) (r : Enclosing) (s : Scope) : Scope :=
  let (names, base) := s.nesting
  s.inside (joinPath base (a.textOr "path" name)) names r

/-- The scope of a block with a path and a name in front of everything, which belongs to no
resource. -/
def inNameSpace (a : Arguments) (name : String) (s : Scope) : Scope :=
  { s with
    path := joinPath s.path (a.textOr "path" name)
    names := s.names ++ [a.textOr "as" name]
    singular := none
    plural := none
    param := "id"
    alone := false
    level := none }

/-- The scope of a block with a path or a name in front of everything. -/
def inScope (a : Arguments) (s : Scope) : Scope :=
  let path := a.textOr "path" (a.name.getD "")
  let name := a.textOr "as" ""
  { s with
    path := if path.isEmpty then s.path else joinPath s.path path
    names := if name.isEmpty then s.names else s.names ++ [name] }

/-- The scope of a block with default values for everything. -/
def withDefaults (given : List (String × String)) (s : Scope) : Scope :=
  { s with defaults := given.foldl (fun done p => setDefault done p.1 p.2) s.defaults }

end Scope
end RouteHelpers.RouteFile
