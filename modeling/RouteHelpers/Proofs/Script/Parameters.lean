import RouteHelpers.Proofs.Path.Slots
import RouteHelpers.Proofs.Script.Arguments
import RouteHelpers.Script.Simple

/-!
What the views of a route say about its parameters.

A path is parsed once, and then its parameters are told in several places: by the table and the tree of
a simple helper, by the list that resources take, by the comments of both kinds of helpers, and by the
signature in type declarations. Each of them goes over the segments in its own way. They tell the same
(`ParametersAgree`): the same names in the same order without repetition, the required ones first, which
are those of slots outside of groups.

There is one difference. Signatures declare bindings, so they have the safe name of a parameter where
the others have the name itself (`argumentNames_signature_ne`).
-/

namespace RouteHelpers

/-! ### Tables -/

namespace Entries

/-- The value under a text that no other entry has. -/
theorem getText?_ofTexts {ps : List (String × Value)} (hnodup : (ps.map (·.1)).Nodup)
    {p : String × Value} (hp : p ∈ ps) : (ofTexts ps).getText? p.1 = some p.2 := by
  induction ps with
  | nil => cases hp
  | cons q ps ih =>
    obtain ⟨hq, hnodup⟩ := List.nodup_cons.1 hnodup
    rw [getText?, ofTexts, List.map_cons, get?]
    rcases List.mem_cons.1 hp with rfl | hp
    · rw [if_pos (by simp [Value.sameKey])]
    · have hne : q.1 ≠ p.1 := fun heq => hq (List.mem_map.2 ⟨p, hp, heq.symm⟩)
      rw [if_neg (by simpa [Value.sameKey] using hne)]
      exact ih hnodup hp

end Entries

namespace Route

/-! ### The list of parameters -/

/-- What a table says about a parameter. -/
def entryOf (defaults : Entries) (p : Parameter) : Entries :=
  if p.required then Entries.ofTexts [("required", .bool true)]
  else Entries.ofTexts ((defaults.getText? p.name).map (("default", ·))).toList

/-- The table has an entry for each parameter. -/
theorem parameterTable_eq (r : Route) : r.parameterTable
    = Entries.ofTexts (r.parameters.map fun p => (p.name, .map (entryOf r.defaults p))) := by
  rw [parameterTable, parameters, List.map_append, List.map_map, List.map_map]
  rfl

/-- The required parameters. -/
def requiredParameters (r : Route) : List Parameter :=
  r.required.map (⟨·, true⟩)

/-- The other parameters. -/
def otherParameters (r : Route) : List Parameter :=
  (r.optional.filter fun name => !r.required.contains name).map (⟨·, false⟩)

theorem map_name_requiredParameters (r : Route) :
    r.requiredParameters.map (·.name) = r.required := by
  rw [requiredParameters, List.map_map]
  exact List.map_id _

theorem nodup_map_name_parameters {r : Route} (hrequired : r.required.Nodup)
    (hoptional : r.optional.Nodup) : (r.parameters.map (·.name)).Nodup := by
  have hnames : r.parameters.map (·.name)
      = r.required ++ r.optional.filter fun name => !r.required.contains name := by
    simp [parameters, Function.comp_def]
  rw [hnames, List.nodup_append]
  refine ⟨hrequired, hoptional.filter _, ?_⟩
  rintro name hname _ hother rfl
  simpa [hname] using (List.mem_filter.1 hother).2

/-- A name is that of a parameter if it is required or in a group. -/
theorem exists_parameter_iff {r : Route} {name : String} :
    (∃ p ∈ r.parameters, p.name = name) ↔ name ∈ r.required ∨ name ∈ r.optional := by
  simp only [parameters, List.mem_append, List.mem_map, List.mem_filter]
  constructor
  · rintro ⟨p, (⟨n, hn, rfl⟩ | ⟨n, ⟨hn, -⟩, rfl⟩), rfl⟩
    · exact .inl hn
    · exact .inr hn
  · -- a name that is required and in a group is listed as the required parameter
    intro h
    by_cases hrequired : name ∈ r.required
    · exact ⟨_, .inl ⟨name, hrequired, rfl⟩, rfl⟩
    · exact ⟨_, .inr ⟨name, ⟨h.resolve_left hrequired, by simpa using hrequired⟩, rfl⟩, rfl⟩

/-- A parameter is required if its name is. -/
theorem required_iff {r : Route} {p : Parameter} (hp : p ∈ r.parameters) :
    p.required = true ↔ p.name ∈ r.required := by
  simp only [parameters, List.mem_append, List.mem_map, List.mem_filter] at hp
  rcases hp with ⟨name, hname, rfl⟩ | ⟨name, ⟨-, hname⟩, rfl⟩
  · simpa using hname
  · simpa using hname

end Route

namespace Script

/-! ### Comments -/

/-- The start of the line that documents an argument of a type. -/
def paramStart (type : String) : String :=
  " * " ++ ("@param \x7b" ++ type ++ "\x7d ")

/-- The names that a comment documents as arguments of a type. The first two lines open the comment and
tell the route. -/
def documented (type : String) (lines : List String) : List String :=
  (lines.drop 2).filterMap (Text.afterStart? (paramStart type))

/-- The names that a comment documents are read back, if no other line documents one. -/
theorem documented_comment (type first : String) (names : List String) {rest : List String}
    (hrest : ∀ line ∈ rest.map (" * " ++ ·) ++ [" */"],
      Text.afterStart? (paramStart type) line = none) :
    documented type (comment ([first] ++ names.map ("@param \x7b" ++ type ++ "\x7d " ++ ·) ++ rest))
      = names := by
  have hlines : (comment ([first] ++ names.map ("@param \x7b" ++ type ++ "\x7d " ++ ·) ++ rest)).drop 2
      = names.map (paramStart type ++ ·) ++ (rest.map (" * " ++ ·) ++ [" */"]) := by
    simp [comment, paramStart, Function.comp_def, String.append_assoc]
  have hnames : (names.map (paramStart type ++ ·)).filterMap (Text.afterStart? (paramStart type))
      = names := by
    rw [List.filterMap_map]
    refine (List.filterMap_congr fun name _ => ?_).trans List.filterMap_some
    exact Text.afterStart?_start _ _
  rw [documented, hlines, List.filterMap_append, hnames, List.filterMap_eq_nil_iff.2 hrest,
    List.append_nil]

variable {route : Route}

theorem documented_simple (route : Route) (target : Target) :
    documented "string|number" (Simple.documentation route target) = route.required := by
  unfold Simple.documentation
  refine documented_comment "string|number" _ _ ?_
  cases target <;> decide +kernel

theorem documented_rich (route : Route) :
    documented "string|number|\x7bid: string|number\x7d" (Rich.documentation route)
      = route.required := by
  unfold Rich.documentation
  exact documented_comment "string|number|\x7bid: string|number\x7d" _ _ (by decide +kernel)

/-! ### All views -/

/-- The views of a route's parameters agree, with each other and with the defaults of its record. -/
structure ParametersAgree (defaults : Entries) (route : Route) : Prop where
  /-- The table has the parameters in their order … -/
  keys : route.parameterTable.map (·.1) = route.parameters.map fun p => .text p.name
  /-- … each once. -/
  nodup : (route.parameters.map (·.name)).Nodup
  /-- The table says of a parameter that it is required if it is … -/
  required : ∀ p ∈ route.parameters,
    route.parameterTable.getText? p.name = some (.map [(.text "required", .bool true)]) ↔
      p.required = true
  /-- … and otherwise what its default is, if it has one. -/
  default : ∀ p ∈ route.parameters, ∀ v,
    (route.parameterTable.getText? p.name).bind (Value.field? "default") = some v ↔
      p.required = false ∧ defaults.getText? p.name = some v
  /-- The required parameters come first. They are the arguments that comments document, and under
  their safe names those of the signature. -/
  first : ∃ before after, route.parameters = before ++ after ∧
    (∀ p ∈ before, p.required = true) ∧ (∀ p ∈ after, p.required = false) ∧
    (∀ target, documented "string|number" (Simple.documentation route target)
      = before.map (·.name)) ∧
    documented "string|number|\x7bid: string|number\x7d" (Rich.documentation route)
      = before.map (·.name) ∧
    argumentNames (Declaration.signature route)
      = (before.map fun p => safeName p.name) ++ ["options"]
  /-- The parameters are the names of slots in the tree, at any depth. -/
  occurs : ∀ name, (∃ p ∈ route.parameters, p.name = name) ↔ Path.Occurs name route.tree
  /-- Those outside of groups are required. -/
  outside : ∀ p ∈ route.parameters,
    p.required = true ↔ ∃ node ∈ route.tree, Path.IsSlot p.name node

theorem getText?_parameterTable (hnodup : (route.parameters.map (·.name)).Nodup) {p : Parameter}
    (hp : p ∈ route.parameters) :
    route.parameterTable.getText? p.name = some (.map (Route.entryOf route.defaults p)) := by
  have hkeys : ((route.parameters.map fun p =>
      (p.name, Value.map (Route.entryOf route.defaults p))).map (·.1)).Nodup := by
    rwa [List.map_map]
  rw [Route.parameterTable_eq]
  exact Entries.getText?_ofTexts hkeys (List.mem_map_of_mem hp)

/-- An entry has a default if the parameter is not required and has one. -/
theorem getText?_entryOf {defaults : Entries} {p : Parameter} {v : Value} :
    (Route.entryOf defaults p).getText? "default" = some v ↔
      p.required = false ∧ defaults.getText? p.name = some v := by
  unfold Route.entryOf
  cases p.required with
  | true => simp [Entries.ofTexts, Entries.getText?, Entries.get?, Value.sameKey]
  | false =>
    cases defaults.getText? p.name <;>
      simp [Entries.ofTexts, Entries.getText?, Entries.get?, Value.sameKey]

theorem entryOf_eq_required_iff {defaults : Entries} {p : Parameter} :
    Route.entryOf defaults p = [(.text "required", .bool true)] ↔ p.required = true := by
  unfold Route.entryOf
  cases p.required with
  | true => simp [Entries.ofTexts]
  | false => cases defaults.getText? p.name <;> simp [Entries.ofTexts]

/-- **The views of the parameters of a record's route agree**, whatever its path and its defaults are and
however it is named. -/
theorem parametersAgree (naming : Naming) (helper : String) (r : Record) :
    ParametersAgree r.defaults (Route.named naming helper r) := by
  have hnodup := Route.nodup_map_name_parameters (r := Route.named naming helper r)
    (Segment.nodup_addNew List.nodup_nil _) (Segment.nodup_addNew List.nodup_nil _)
  constructor
  case keys =>
    rw [Route.parameterTable_eq, Entries.ofTexts, List.map_map, List.map_map]
    rfl
  case nodup => exact hnodup
  case required =>
    intro p hp
    rw [getText?_parameterTable hnodup hp, Option.some_inj, Value.map.injEq]
    exact entryOf_eq_required_iff
  case default =>
    intro p hp v
    rw [getText?_parameterTable hnodup hp]
    exact getText?_entryOf
  case first =>
    -- the list is put together from the two kinds, and the other views show the first of them
    refine ⟨(Route.named naming helper r).requiredParameters,
      (Route.named naming helper r).otherParameters, rfl, ?_, ?_, ?_, ?_, ?_⟩
    · exact List.forall_mem_map.2 fun _ _ => rfl
    · exact List.forall_mem_map.2 fun _ _ => rfl
    · intro target
      rw [documented_simple, Route.map_name_requiredParameters]
    · rw [documented_rich, Route.map_name_requiredParameters]
    · rw [argumentNames_signature, Declaration.argNames, Route.requiredParameters, List.map_map]
      rfl
  case occurs =>
    intro name
    rw [Route.exists_parameter_iff]
    exact (Path.occurs_nodes_parse r.path).symm
  case outside =>
    intro p hp
    rw [Route.required_iff hp]
    exact Segment.mem_requiredNames.trans Path.exists_slot_iff.symm

/-- A record with a parameter whose name is a reserved word. -/
def newPost : Record :=
  ⟨"GET", "/posts/:new", some "post", none, false, default⟩

/-- Signatures do not have the names of parameters themselves. -/
theorem argumentNames_signature_ne :
    ((Route.ofRecord Settings.default.naming newPost).parameters.filter (·.required)).map (·.name)
        = ["new"] ∧
      argumentNames (Declaration.signature (Route.ofRecord Settings.default.naming newPost))
        ≠ ["new"] ++ ["options"] := by
  decide +kernel

end Script
end RouteHelpers
