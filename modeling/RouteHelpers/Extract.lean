import RouteHelpers.Action

/-!
From route entries to uniquely named routes.

Entries become records, records that cannot or shall not have a helper are left out, and a `PUT` that
repeats a `PATCH` is dropped. Routes that share a name are told apart by their actions, and where that
is not enough by the static part of their paths as well. If names still collide, there is no result.
-/

namespace RouteHelpers

/-- Why no routes come out. -/
inductive ExtractFault where
  | defaults (f : EntryFault)
  | collision (name : String) (paths : List String)
  deriving DecidableEq, Repr

/-- What a reader is told when several things have one name. -/
def collisionMessage (name : String) (paths : List String) : String :=
  "Duplicate route helper name '" ++ name ++ "' for paths: " ++ Text.joinWith ", " paths

namespace Extract

/-! ### Filters -/

/-- Whether the helper of a record passes the patterns. -/
def passes (s : Settings) (r : Record) : Bool :=
  let helper := r.helper.getD ""
  (s.included.isEmpty || s.included.any (·.occursIn helper)) &&
    !s.excluded.any (·.occursIn helper)

/-- Whether a record has a helper. -/
def hasHelper (r : Record) : Bool :=
  !(r.helper.getD "").isEmpty

/-- Whether a record gets a route. -/
def isKept (s : Settings) (r : Record) : Bool :=
  hasHelper r && (!r.live || s.includeLive) && passes s r

/-- What a user is told about one record. -/
def recordNotices (s : Settings) (r : Record) : List Notice :=
  if !hasHelper r then [.withoutHelper r.verb r.path]
  else if r.live && !s.includeLive then [.skippedLive r.path]
  else if !passes s r then []
  else Route.pathNotices r

/-- The routes of the records that get one. -/
def routesOf (s : Settings) (records : List Record) : List Route :=
  (records.filter (isKept s)).map (Route.ofRecord s.naming)

/-! ### Repeated updates -/

/-- What a `PUT` and a `PATCH` that are one update have in common. -/
def updateKey (r : Route) : String × String × String :=
  (r.helper, r.path, Action.token r)

/-- Whether a route is a `PUT` that repeats a `PATCH` among several routes. -/
def isRepeatedPut (routes : List Route) (r : Route) : Bool :=
  r.verb == "PUT" && routes.any fun p => p.verb == "PATCH" && updateKey p == updateKey r

/-- Routes without the `PUT`s that repeat a `PATCH`, wherever that stands. -/
def collapsePuts (routes : List Route) : List Route :=
  routes.filter fun r => !isRepeatedPut routes r

/-- What a user is told about the routes that are dropped. -/
def putNotices (routes : List Route) : List Notice :=
  (routes.filter (isRepeatedPut routes)).map fun r => .skippedPut r.path

/-! ### Shared names -/

/-- The static components of a path before its first parameter, those in front excepted. `found`
tells whether there was a static one. -/
def staticComponents (found : Bool) : List String → List String
  | [] => []
  | c :: rest =>
    let head := (Text.cut '(' c).1
    -- a component that is a group alone is passed over like an empty one
    if head.isEmpty then staticComponents found rest
    else if Text.startsWith ":" head || Text.startsWith "*" head then
      if found then [] else staticComponents found rest
    else head :: staticComponents true rest

/-- A word made of the static components of a path. -/
def scopeToken (path : String) : String :=
  let token := wordToken (Text.joinWith "_" (staticComponents false (Text.split '/' path)))
  if token.isEmpty then "root" else token

/-- The members of a list grouped by a key, the groups in the order of their first members. -/
def groupBy {α κ : Type} [BEq κ] (key : α → κ) (xs : List α) : List (List α) :=
  (Text.distinct (xs.map key)).map fun k => xs.filter fun x => key x == k

/-- The route with its action added to its helper. -/
def withAction (n : Naming) (r : Route) : Route :=
  r.rename n (r.helper ++ "_" ++ Action.token r)

/-- The route with its scope put in front of its helper. -/
def withScope (n : Naming) (r : Route) : Route :=
  r.rename n (scopeToken r.path ++ "_" ++ r.helper)

/-- The routes of a group that shares a name, told apart. -/
def tellApart (n : Naming) (group : List Route) : List Route :=
  let renamed := group.map (withAction n)
  renamed.map fun r =>
    -- counted among the new names of this group; a clash with another one is left to `collision?`
    if 1 < renamed.countP (·.name == r.name) then withScope n r else r

/-- The routes of a group, told apart if there are several. -/
def settleGroup (n : Naming) (group : List Route) : List Route :=
  match group with
  | [r] => [r]
  | _ => tellApart n group

/-- Routes with different names where their own names and actions and scopes allow it. -/
def disambiguate (n : Naming) (routes : List Route) : List Route :=
  (groupBy (·.name) routes).flatMap (settleGroup n)

/-- What a user is told about the routes that are renamed. -/
def renameNotices (n : Naming) (routes : List Route) : List Notice :=
  (groupBy (·.name) routes).flatMap fun group =>
    match group with
    | [_] => []
    | _ =>
      (group.zip (tellApart n group)).map fun (before, after) =>
        .renamed before.name after.name after.path

/-! ### Unique names -/

/-- The names that routes emit, each with the path of its route. -/
def emittedNames (s : Settings) (routes : List Route) : List (String × String) :=
  routes.flatMap fun r =>
    (r.name, r.path) ::
      (if s.urlHelpers && !r.urlName.isEmpty then [(r.urlName, r.path)] else [])

/-- The name that is emitted more than once, the first one to be emitted if there are several, with
the paths that emit it. -/
def collision? (s : Settings) (routes : List Route) : Option (String × List String) :=
  let groups := groupBy (·.1) (emittedNames s routes)
  (groups.find? fun g => 1 < g.length).bind fun g =>
    g.head?.map fun first => (first.1, g.map (·.2))

/-! ### The whole way -/

/-- The uniquely named routes of records. -/
def ofRecords (s : Settings) (records : List Record) : Traced ExtractFault (List Route) := do
  Traced.tellAll (records.flatMap (recordNotices s))
  let routes := routesOf s records
  Traced.tellAll (putNotices routes)
  let collapsed := collapsePuts routes
  Traced.tellAll (renameNotices s.naming collapsed)
  let settled := disambiguate s.naming collapsed
  match collision? s settled with
  | some (name, paths) => Traced.fail (.collision name paths)
  | none => do
    Traced.tell (.extracted settled.length)
    pure settled

/-- The uniquely named routes of route entries. -/
def ofEntries (s : Settings) (entries : List Entry) : Traced ExtractFault (List Route) := do
  Traced.tellAll s.checkNotices
  let records ← (Record.ofEntries entries).mapError .defaults
  ofRecords s records

end Extract
end RouteHelpers
