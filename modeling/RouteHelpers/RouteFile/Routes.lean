import RouteHelpers.RouteFile.Scope
import RouteHelpers.Files.Tree
import RouteHelpers.Record

/-!
The routes that a routes file declares.

A reading goes through the tree in the order of the text. Each declaration adds records, defines a
concern, or goes on inside its block with another scope; a call that declares nothing has its block
gone through, and anything else all its parts. Routes are handed over as a `Declaration`, under the
name they ask for, and `declare` is the only place where they become records: a helper's name belongs
to the first route that claims it, and later routes of that name have none. A reading is given
`declare`, so that it can be compared with readings that enter routes in another way.

Concerns and drawn files are gone through by the reading of a lower depth. What includes itself comes to
no end, so a reading breaks off where they are too deep inside each other. A reading that breaks off keeps
what it has come to.
-/

namespace RouteHelpers.RouteFile

/-- Why a reading cannot go on. -/
inductive ReadFault where
  | file (f : Files.FileFault)
  | notText (f : Text.Utf8Fault)
  /-- A resource is renamed to nothing. -/
  | namelessResource
  /-- The target of a route is set to nothing. -/
  | missingTarget
  /-- Concerns and drawn files are too deep inside each other. -/
  | tooDeep
  deriving DecidableEq, Repr

/-- What a reader is told. -/
def ReadFault.message : ReadFault → String
  | file f => f.message
  | notText f => f.message
  | namelessResource => "unsupported operand type(s) for +: 'NoneType' and 'str'"
  | missingTarget => "argument of type 'NoneType' is not iterable"
  | tooDeep => "maximum recursion depth exceeded"

/-- What a reading has come to: the records in the order of declaration, the names that are taken,
and the concerns that are defined, the latest first. -/
structure State where
  records : List Record := []
  claimed : List String := []
  concerns : List (String × List Node) := []

/-- Where a reading broke off: why, and what it had come to. -/
structure Interruption where
  fault : ReadFault
  reached : State

/-- A step of a reading. -/
abbrev Step := State → Traced Interruption State

/-- The step that changes nothing. -/
def Step.skip : Step := fun st => pure st

/-- The step that breaks off. -/
def Step.fail (f : ReadFault) : Step := fun st => Traced.fail ⟨f, st⟩

/-- One step after another. -/
def Step.followedBy (a b : Step) : Step := fun st => a st >>= b

/-- Several steps, one after the other. -/
def Step.all : List Step → Step
  | [] => skip
  | s :: rest => s.followedBy (all rest)

/-- A step for each element, one after the other. -/
def Step.forEach {α : Type} (f : α → Step) (xs : List α) : Step :=
  all (xs.map f)

/-- A notice and nothing else. -/
def Step.tell (n : Notice) : Step := fun st => do
  Traced.tell n
  pure st

/-- The step that a result leads to; a fault breaks off. -/
def Step.given {α : Type} (x : Except ReadFault α) (f : α → Step) : Step :=
  match x with
  | .ok a => f a
  | .error e => fail e

/-- The step that what is read of a node leads to. -/
def Step.reading {α : Type} (x : Except Text.Utf8Fault α) (f : α → Step) : Step :=
  given (x.mapError .notText) f

/-! ### Adding records -/

/-- A route as it is declared, under the name that it asks for. -/
structure Declaration where
  verb : String
  path : String
  helper : Option String
  action : Option String
  defaults : List (String × String)

/-- The optional extension at the end of every path but the root. -/
def formatEnding : String := "(.:format)"

/-- The record of a declared route with a helper. -/
def Declaration.record (d : Declaration) (helper : Option String) : Record where
  verb := d.verb
  path := if d.path == "/" then d.path else dropEndSlashes d.path ++ formatEnding
  helper
  action := d.action
  live := false
  defaults := Entries.ofTexts (d.defaults.map fun p => (p.1, .text p.2))

/-- The helper that a declared route gets: the name that it asks for, unless that is taken. -/
def Declaration.ownHelper (d : Declaration) (claimed : List String) : Option String :=
  d.helper.filter fun h => !claimed.contains h

/-- A state with the record of a declared route added. A name is claimed unless it is empty. -/
def State.add (st : State) (d : Declaration) : State :=
  let helper := d.ownHelper st.claimed
  { st with
    records := st.records ++ [d.record helper]
    claimed := st.claimed ++ (helper.filter (!·.isEmpty)).toList }

@[simp] theorem State.records_add (st : State) (d : Declaration) :
    (st.add d).records = st.records ++ [d.record (d.ownHelper st.claimed)] := rfl

@[simp] theorem State.claimed_add (st : State) (d : Declaration) :
    (st.add d).claimed
      = st.claimed ++ ((d.ownHelper st.claimed).filter (!·.isEmpty)).toList := rfl

/-- Adds the record of a declared route. -/
def declare (d : Declaration) : Step := fun st => pure (st.add d)

/-- What a declaration can be gone through with: how a route is entered, the steps of its block in a
scope, those of other nodes, and those of a drawn file. -/
structure Surroundings where
  enter : Declaration → Step
  block : Scope → Step
  nodes : List Node → Scope → Step
  drawn : String → Scope → Step

/-- Enters a route for each of several verbs. -/
def enterAll (u : Surroundings) (verbs : List String) (path : String) (helper action : Option String)
    (s : Scope) : Step :=
  Step.forEach (fun verb => u.enter ⟨verb, path, helper, action, s.defaults⟩) verbs

/-! ### Actions of resources -/

/-- The actions of a resource, in the order of declaration. -/
inductive StandardAction where
  | index
  | create
  | new
  | edit
  | view
  | update
  | destroy
  deriving DecidableEq, Repr

namespace StandardAction

/-- The name of an action. -/
def name : StandardAction → String
  | index => "index"
  | create => "create"
  | new => "new"
  | edit => "edit"
  | view => "show"
  | update => "update"
  | destroy => "destroy"

/-- The verbs of an action. -/
def verbs : StandardAction → List String
  | create => ["POST"]
  | update => ["PATCH", "PUT"]
  | destroy => ["DELETE"]
  | _ => ["GET"]

/-- The actions of a resource with many members. -/
def ofMany : List StandardAction := [index, create, new, edit, view, update, destroy]

/-- The actions of a resource with one member. -/
def ofOne : List StandardAction := [create, new, edit, view, update, destroy]

/-- The actions that the options leave. -/
def chosen (a : Arguments) (actions : List StandardAction) : List StandardAction :=
  match a.list? "only", a.list? "except" with
  | some only, _ => actions.filter fun x => only.contains x.name
  | none, some except => actions.filter fun x => !except.contains x.name
  | none, none => actions

end StandardAction

/-! ### Declarations -/

/-- Goes through concerns by name. -/
def replay (u : Surroundings) (names : List String) (s : Scope) : Step :=
  Step.forEach
    (fun name st =>
      match st.concerns.lookup name with
      | some body => u.nodes body s st
      | none => Step.tell (.concernNotDefined name) st)
    names

/-- The path and the helper of an action of a resource with many members, in the scope inside it. -/
def manyPlace (r : Enclosing) (inner : Scope) (x : StandardAction) : String × String :=
  let memberPath := Scope.memberPath inner.path r.param r.alone
  -- where one word stands for both, the list and its members would share a helper
  let collectionName := if r.singular == r.plural then r.plural ++ "_index" else r.plural
  match x with
  | .index | .create => (inner.path, joinNames (inner.names ++ [collectionName]))
  | .new => (inner.path ++ "/new", joinNames ("new" :: inner.names ++ [r.singular]))
  | .edit => (memberPath ++ "/edit", joinNames ("edit" :: inner.names ++ [r.singular]))
  | .view | .update | .destroy => (memberPath, joinNames (inner.names ++ [r.singular]))

/-- The path and the helper of an action of a resource with one member, in the scope inside it. -/
def onePlace (r : Enclosing) (inner : Scope) (x : StandardAction) : String × String :=
  match x with
  | .new | .edit =>
    (inner.path ++ "/" ++ x.name, joinNames (x.name :: inner.names ++ [r.singular]))
  | _ => (inner.path, joinNames (inner.names ++ [r.singular]))

/-- The routes for actions of a resource, the concerns that an option names, and then the block. -/
def resourceSteps (u : Surroundings) (a : Arguments) (place : StandardAction → String × String)
    (actions : List StandardAction) (inner : Scope) : Step :=
  let enterAction (x : StandardAction) : Step :=
    enterAll u x.verbs (place x).1 (some (place x).2) (some x.name) inner
  (Step.forEach enterAction (StandardAction.chosen a actions)).followedBy
    ((replay u ((a.list? "concerns").getD []) inner).followedBy (u.block inner))

/-- A resource with many members. -/
def manyResource (u : Surroundings) (args : List Node) (s : Scope) : Step :=
  Step.reading (Arguments.ofNodes args) fun a =>
  match a.name with
  | none | some "" => Step.skip
  | some name =>
    match a.text? "as" with
    | some none => Step.fail .namelessResource
    | renamed =>
      -- a new name is for helpers and parameters, and the path keeps the declared one
      let r := Enclosing.many a ((renamed.getD none).getD name)
      let inner := s.inResource a name r
      resourceSteps u a (manyPlace r inner) StandardAction.ofMany inner

/-- A resource with one member. -/
def oneResource (u : Surroundings) (args : List Node) (s : Scope) : Step :=
  Step.reading (Arguments.ofNodes args) fun a =>
  match a.name with
  | none | some "" => Step.skip
  | some name =>
    let r := Enclosing.one (a.textOr "as" name)
    let inner := s.inResource a name r
    resourceSteps u a (onePlace r inner) StandardAction.ofOne inner

/-- A path and a name in front of everything in a block, which belongs to no resource. -/
def nameSpace (u : Surroundings) (args : List Node) (s : Scope) : Step :=
  Step.reading (Arguments.ofNodes args) fun a =>
  match a.name with
  | none | some "" => Step.skip
  | some name => u.block (s.inNameSpace a name)

/-- A path or a name in front of everything in a block. -/
def innerScope (u : Surroundings) (args : List Node) (s : Scope) : Step :=
  Step.reading (Arguments.ofNodes args) fun a => u.block (s.inScope a)

/-- The definition of a concern. -/
def defineConcern (args : List Node) (hasBlock : Bool) (body : List Node) : Step :=
  match args with
  | [] => Step.skip
  | arg :: _ =>
    if hasBlock then
      Step.reading arg.value fun name st =>
        pure (if name.isEmpty then st else { st with concerns := (name, body) :: st.concerns })
    else Step.skip

/-- The action in a target: what follows its first number sign. -/
def actionOfTarget? (target : String) : Option String :=
  (Text.cut '#' target).2

/-- The target of the root route: that of its options, or the first text among its arguments. -/
def rootTarget? (args : List Node) : Except Text.Utf8Fault (Option String) := do
  let a ← Arguments.ofNodes args
  match a.text? "to" with
  | some (some target) => pure (some target)
  | _ => (args.find? Node.isString).mapM Node.value

/-- The root route. -/
def root (u : Surroundings) (args : List Node) (s : Scope) : Step :=
  Step.reading (rootTarget? args) fun target =>
  let action := (target.bind actionOfTarget?).getD "root"
  u.enter ⟨"GET", if s.path.isEmpty then "/" else s.path, some (joinNames (s.names ++ ["root"])),
    some action, s.defaults⟩

/-- The helper of a route that belongs to no resource. -/
def plainHelper (a : Arguments) (path : String) (s : Scope) : Option String :=
  match a.text? "as" with
  | some name =>
    match name with
    | none | some "" => none
    | some name => some (joinNames (s.names ++ [name]))
  | none => (nameOfPath? path).map fun name => joinNames (s.names ++ [name])

/-- The path and the helper of a route with a name of its own. -/
def placeOf (a : Arguments) (name : String) (s : Scope) : String × Option String :=
  match s.resource with
  | none => (joinPath s.path name, plainHelper a name s)
  | some r =>
    -- the option counts more than the block around
    let level := match a.text? "on" with
      | some (some "member") => some Level.member
      | some (some "collection") => some Level.collection
      | _ => r.level
    let own := a.textOr "as" name
    match level with
    | some .member =>
      (joinPath (Scope.memberPath s.path r.param r.alone) name,
        some (joinNames (own :: s.names ++ [r.singular])))
    | some .collection => (joinPath s.path name, some (joinNames (own :: s.names ++ [r.plural])))
    | none => (joinPath (Scope.nestedPath s.path r) name,
        some (joinNames (s.names ++ [r.singular, own])))

/-- The action of a route: that of its options, that of its target, or the symbol it is named by. -/
def actionOf (a : Arguments) (isSymbol : Bool) (name : String) : Except ReadFault (Option String) := do
  let named := match a.text? "action" with
    | some (some x) => if x.isEmpty then none else some x
    | _ => none
  -- where an action is named, the target is not looked at
  let action ← match named, a.text? "to" with
    | some x, _ => .ok (some x)
    | none, some none => .error .missingTarget
    | none, some (some target) => .ok (actionOfTarget? target)
    | none, none => .ok none
  .ok (if action.isNone && isSymbol then some name else action)

/-- Routes for several verbs. -/
def verbRoutes (u : Surroundings) (verbs : List String) (args : List Node) (s : Scope) : Step :=
  Step.reading (Arguments.ofNodes args) fun a =>
  match a.name with
  | none | some "" => Step.skip
  | some name =>
    Step.given (actionOf a (args.head?.any Node.isSymbol) name) fun action =>
    let place := placeOf a name s
    enterAll u verbs place.1 place.2 action s

/-- The verbs that one declaration can stand for. -/
def verbMethods : List String := ["get", "post", "put", "patch", "delete"]

/-- A route for the verbs of an option; for every verb if none is named. -/
def matchRoutes (u : Surroundings) (args : List Node) (s : Scope) : Step :=
  Step.reading (Arguments.ofNodes args) fun a =>
  let via := match a.list? "via" with
    | none | some [] => ["all"]
    | some via => via
  let verbs := if via.contains "all" then verbMethods else via
  verbRoutes u (verbs.map Text.upper) args s

/-- The default values that arguments bring. The keys are read before the values, and of each key only
the value that was written last. -/
def givenDefaults (args : List Node) : Except Text.Utf8Fault (List (String × String)) := do
  let given ← ((args.flatMap Node.pairs).filterMap Node.keyValue?).mapM fun p => do
    pure (← p.1.value, p.2)
  let last := (given.filter (!·.1.isEmpty)).foldl (fun done p => Scope.setDefault done p.1 p.2) []
  last.mapM fun p => do
    pure (p.1, ← p.2.value)

/-- Default values for everything in a block. -/
def defaultValues (u : Surroundings) (args : List Node) (s : Scope) : Step :=
  Step.reading (givenDefaults args) fun given => u.block (s.withDefaults given)

/-- Routes of another file, or the block of a route table. -/
def draw (u : Surroundings) (args : List Node) (s : Scope) : Step :=
  match args with
  | [] => u.block s
  | arg :: _ => Step.reading arg.value fun name => u.drawn name s

/-- The step of a call. -/
def callStep (u : Surroundings) (text method : String) (args : List Node) (hasBlock : Bool)
    (body : List Node) (s : Scope) : Step :=
  if verbMethods.contains method then verbRoutes u [Text.upper method] args s
  else
    match method with
    | "resources" => manyResource u args s
    | "resource" => oneResource u args s
    | "namespace" => nameSpace u args s
    | "scope" => innerScope u args s
    | "member" => u.block (s.atLevel .member)
    | "collection" => u.block (s.atLevel .collection)
    | "concern" => defineConcern args hasBlock body
    | "concerns" =>
      Step.reading (args.mapM Node.concernNames) fun names => replay u names.flatten s
    | "root" => root u args s
    | "match" => matchRoutes u args s
    | "defaults" => defaultValues u args s
    | "draw" => draw u args s
    | "mount" => Step.reading (Text.withoutMarks text) fun text => Step.tell (.mountedEngine text)
    | _ => u.block s

/-! ### Reading -/

mutual

/-- The step of a node, where routes are entered and other nodes and drawn files gone through as
given. -/
def nodeStep (enter : Declaration → Step) (nodes : List Node → Scope → Step)
    (drawn : String → Scope → Step) : Node → Scope → Step
  | .call _ text method args hasBlock body, s =>
    callStep ⟨enter, fun inner => nodesStep enter nodes drawn body inner, nodes, drawn⟩ text method
      args hasBlock body s
  | .form _ _ _ parts, s => nodesStep enter nodes drawn parts s

/-- The steps of several nodes, one after the other. -/
def nodesStep (enter : Declaration → Step) (nodes : List Node → Scope → Step)
    (drawn : String → Scope → Step) : List Node → Scope → Step
  | [], _ => Step.skip
  | n :: rest, s =>
    (nodeStep enter nodes drawn n s).followedBy (nodesStep enter nodes drawn rest s)

end

/-- The files that a reading finds: which paths are files, and the statements of each. -/
structure Sources where
  isFile : String → Bool
  statements : String → Except ReadFault (List Node)

/-- The statements of a file of a tree, as a parser of its text gives them. -/
def statementsOf (parser : List Char → List Node) (t : Files.Tree) (path : String) :
    Except ReadFault (List Node) := do
  let content ← (t.read path).mapError .file
  pure (parser (Text.marked content.toOctets))

/-- The files of a tree. -/
def Sources.ofTree (parser : List Char → List Node) (t : Files.Tree) : Sources :=
  ⟨t.isFile, statementsOf parser t⟩

/-- The file that a routes file draws under a name. -/
def drawnFile (path name : String) : String :=
  Files.join (Files.join (Files.directory path) "routes") (name ++ ".rb")

/-- The steps of several nodes of the routes file at a path, in which concerns and drawn files are
inside each other no deeper than given. -/
def walk (enter : Declaration → Step) (files : Sources) (path : String) :
    Nat → List Node → Scope → Step
  | 0, _, _ => Step.fail .tooDeep
  | depth + 1, nodes, s =>
    let drawn (name : String) (s : Scope) : Step := fun st =>
      let file := drawnFile path name
      if files.isFile file then
        Step.given (files.statements file) (fun nodes => walk enter files path depth nodes s) st
      else Step.tell (.drawnFileNotFound name file) st
    -- the block of a call is part of its node: only concerns and drawn files cost a level
    nodesStep enter (walk enter files path depth) drawn nodes s

/-- How deep concerns and drawn files can be inside each other. -/
def depthLimit : Nat := 500

/-- A reading of the routes file at a path that enters routes as given. -/
def readingOf (enter : Declaration → Step) (files : Sources) (path : String) : Step :=
  Step.given (files.statements path) fun nodes =>
  (walk enter files path depthLimit nodes {}).followedBy fun st =>
    Step.tell (.readRoutes st.records.length path) st

/-- Reads the routes file at a path, behind what has been read before. -/
def read (parser : List Char → List Node) (t : Files.Tree) (path : String) (st : State) :
    Traced ReadFault State :=
  (readingOf declare (Sources.ofTree parser t) path st).mapError (·.fault)

end RouteHelpers.RouteFile
