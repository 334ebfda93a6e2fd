import RouteHelpers.Extract
import RouteHelpers.Resource.Key
import RouteHelpers.Text.Order

/-!
Resources: routes grouped by their keys, with one route for each action.

Of the routes of a resource that have one action the first stands for it, and the others are dropped
with a warning. Resources are listed by name, then by key.
-/

namespace RouteHelpers

/-- An action of a resource, with the route that stands for it. -/
structure ResourceAction where
  name : String
  route : Route
  params : List Parameter
  deriving Repr, Inhabited

/-- A resource. -/
structure Resource where
  key : ResourceKey
  actions : List ResourceAction
  routes : List Route
  deriving Repr, Inhabited

/-- The ending of the files of resources. -/
def Resource.fileEnding : String := ".ts"

namespace Resource

/-- The name of a resource. -/
def name (r : Resource) : String :=
  r.key.name

/-- The scope of a resource. -/
def scope (r : Resource) : List String :=
  r.key.scope

/-- The place of a resource's file, below the output directory. -/
def path (r : Resource) : String :=
  r.key.path fileEnding

/-! ### Actions -/

/-- The first route with each action, in the order of the routes. -/
def firstOfEach (routes : List Route) : List Route :=
  (Extract.groupBy Action.ofRoute routes).filterMap List.head?

/-- The action that a route stands for. -/
def actionOf (r : Route) : ResourceAction :=
  ⟨Action.ofRoute r, r, r.parameters⟩

/-- The actions of a resource, in the order in which a resource lists them. -/
def actionsOf (routes : List Route) : List ResourceAction :=
  ((firstOfEach routes).map actionOf).mergeSort fun a b => Action.rank a.name ≤ Action.rank b.name

/-- What a user is told about the routes of a resource that stand for no action; `done` are the routes
before them. -/
def dropNotices (key : ResourceKey) (done : List Route) : List Route → List Notice
  | [] => []
  | r :: rest =>
    let action := Action.ofRoute r
    let told := match done.find? (fun d => Action.ofRoute d == action) with
      | some taken =>
        [Notice.droppedRoute (Text.joinWith "/" key.words) r.verb r.path action taken.path]
      | none => []
    told ++ dropNotices key (done ++ [r]) rest

/-! ### Grouping -/

/-- Whether a resource is listed before another: by name, then by key. -/
def le (a b : Resource) : Bool :=
  Text.listLe (a.name :: a.key.words) (b.name :: b.key.words)

/-- The routes of each key, the keys in the order of their first routes. -/
def groups (g : Grouping) (routes : List Route) : List (List Route) :=
  Extract.groupBy (ResourceKey.ofRoute g) routes

/-- The key of the routes of a group. -/
def groupKey (g : Grouping) (group : List Route) : ResourceKey :=
  (group.head?.map (ResourceKey.ofRoute g)).getD default

/-- The resource of the routes with one key. -/
def ofGroup (g : Grouping) (group : List Route) : Resource :=
  ⟨groupKey g group, actionsOf group, group⟩

/-- The resources of several routes. -/
def ofRoutes {ε : Type} (g : Grouping) (routes : List Route) : Traced ε (List Resource) := do
  let gs := groups g routes
  Traced.tellAll (gs.flatMap fun group => dropNotices (groupKey g group) [] group)
  pure ((gs.map (ofGroup g)).mergeSort le)

/-! ### Scopes -/

/-- The initial segments of a list that are not empty, shortest first. -/
def initials : List String → List (List String)
  | [] => []
  | w :: rest => [w] :: (initials rest).map (w :: ·)

/-- A scope with the resources directly in it and the names of the scopes directly below it. -/
structure Scope where
  words : List String
  members : List Resource
  subscopes : List String
  deriving Repr

/-- The names of the scopes directly below a scope. -/
def subscopesOf (resources : List Resource) (words : List String) : List String :=
  Text.sorted (Text.distinct (resources.filterMap fun r =>
    if words.isPrefixOf r.scope then r.scope[words.length]? else none))

/-- Every scope that resources are in or below, in order. -/
def scopes (resources : List Resource) : List Scope :=
  let words := Text.sortedLists (Text.distinct (resources.flatMap fun r => initials r.scope))
  words.map fun ws => ⟨ws, resources.filter (·.scope == ws), subscopesOf resources ws⟩

end Resource
end RouteHelpers
