import RouteHelpers.Proofs.Resource.Distinctness

/-!
The names at the top level of the file of a resource.

The file imports four names, binds one constant for each action, and declares the object of the resource.
An action is bound under its own safe name, or with `_action` behind it where the object has that name.
Which names constants have is therefore known: actions are few and fixed, so that the constants differ from
each other and from what is imported, and by the change of names they differ from the object
(`nodup_bindings`).

The object is called what the resource is called. Nothing compares this with the imports, so all names of
the file differ exactly if the resource is not called like one of them (`nodup_topLevelNames_iff`). A path
may be called anything. A helper gives a plural, and of the imports only `RouteOptions` is one.
-/

namespace RouteHelpers

/-! ### What files say -/

namespace SourceFile

/-- The names that the first import of a file names in braces. What stands before a name tells its kind. -/
def imported (f : SourceFile) : List String :=
  let inside := (f.content.toList.takeWhile (· != '\x7d')).dropWhile (· != '\x7b')
  (Text.split ',' (String.ofList inside.tail)).filterMap fun piece =>
    (Text.split ' ' (Text.strip (· == ' ') piece)).getLast?

/-- The file binds a name to a route. -/
def Binds (f : SourceFile) (name : String) : Prop :=
  ("const " ++ name ++ " = route").toList <:+: f.content.toList

end SourceFile

namespace ResourceKey

/-- The name of a resource is bare, wherever it comes from. -/
theorem isBare_name (g : Grouping) (r : Route) : Script.IsBare (ofRoute g r).name := by
  by_cases hg : g = .scope
  · subst hg
    have hmem : (ofRoute .scope r).name ∈ (ofPath r).words :=
      List.mem_append_right _ (List.mem_singleton_self _)
    obtain ⟨s, hname⟩ := exists_of_mem_words_ofPath hmem
    rw [← hname]
    exact isBare_wordOrRoot s
  · exact isBare_of_mem_words hg (List.mem_append_right _ (List.mem_singleton_self _))

end ResourceKey

namespace Resource

variable {g : Grouping} {routes : List Route} {r : Resource}

/-- The names at the top level of the file of a resource: those that it imports, a constant for each
action, and the object. -/
def topLevelNames (r : Resource) : List String :=
  importedNames ++ (r.actions.map fun a => binding r a.name) ++ [r.objectName]

/-- A file has the names of a resource. -/
structure IsNamedAfter (f : SourceFile) (r : Resource) : Prop where
  imports : f.imported = importedNames
  binds : ∀ a ∈ r.actions, f.Binds (binding r a.name)
  exports : f.Exports r.objectName

theorem imported_source (documented : Bool) (r : Resource) :
    (r.source documented).imported = importedNames := by
  have hline (module : String) :
      "import \x7b route, type Route, type RouteOptions, type Param \x7d from '" ++ module ++ "';"
        = "import \x7b route, type Route, type RouteOptions, type Param " ++
          ("\x7d" ++ (" from '" ++ module ++ "';")) := by
    have hcut : "import \x7b route, type Route, type RouteOptions, type Param \x7d from '"
        = "import \x7b route, type Route, type RouteOptions, type Param " ++ ("\x7d" ++ " from '") := by
      decide +kernel
    rw [hcut]
    simp only [String.append_assoc]
  have hstart : ∃ rest : String, fileText documented r
      = "import \x7b route, type Route, type RouteOptions, type Param " ++ ("\x7d" ++ rest) := by
    rw [fileText, Script.unlines, hline, List.append_assoc, List.append_assoc, List.append_assoc,
      List.cons_append, ← Text.append_joinWith_cons, ← Text.append_joinWith_cons]
    exact ⟨_, rfl⟩
  obtain ⟨rest, hrest⟩ := hstart
  have hopen : "import \x7b route, type Route, type RouteOptions, type Param ".toList.all
      (· != '\x7d') = true := by
    decide
  -- the braces are closed in the first line, and nothing behind that is read
  have hbehind : ("\x7d" ++ rest).toList = '\x7d' :: rest.toList := by
    rw [String.toList_append]
    rfl
  rw [SourceFile.imported, source, hrest, String.toList_append, hbehind,
    List.takeWhile_append_of_pos (List.all_eq_true.1 hopen), List.takeWhile_cons_of_neg (by decide),
    List.append_nil]
  decide +kernel

theorem binds_source (documented : Bool) {a : ResourceAction} (h : a ∈ r.actions) :
    (r.source documented).Binds (binding r a.name) := by
  -- the line of the call is the last of the action, with or without a comment in front
  have hcall : ("const " ++ binding r a.name ++ " = route").toList <:+:
      (actionText documented a (binding r a.name)).toList := by
    have hline (rest : String) : ("const " ++ binding r a.name ++ " = route").toList <:+:
        ("const " ++ binding r a.name ++ " = route" ++ rest).toList :=
      Text.isInfix_append_left _ rest
    simp only [actionText]
    split
    · refine List.IsInfix.trans ?_ (Text.isInfix_joinWith "\n" (List.mem_append_right _
        (List.mem_singleton_self _)))
      simp only [String.append_assoc] at hline ⊢
      exact hline _
    · simp only [String.append_assoc] at hline ⊢
      exact hline _
  refine hcall.trans (Text.isInfix_joinWith "\n" ?_)
  simp only [List.flatMap_map, List.mem_append, List.mem_flatMap]
  exact .inl (.inl (.inl (.inr ⟨a, h, List.mem_cons_self⟩)))

/-! ### Names of constants -/

/-- The names that an action can be bound under. -/
def bindingNames (action : String) : List String :=
  [Script.safeName action, Script.safeName (action ++ "_action")]

theorem binding_mem_bindingNames (r : Resource) (action : String) :
    binding r action ∈ bindingNames action := by
  simp only [binding, bindingNames]
  split <;> simp

theorem bindingNames_disjoint : ∀ x ∈ Action.order, ∀ y ∈ Action.order,
    (∃ name ∈ bindingNames x, name ∈ bindingNames y) → x = y := by
  decide +kernel

theorem not_mem_importedNames : ∀ x ∈ Action.order, ∀ name ∈ bindingNames x,
    name ∉ importedNames := by
  decide +kernel

theorem safeName_append_action_ne : ∀ x ∈ Action.order,
    Script.safeName (x ++ "_action") ≠ Script.safeName x := by
  decide +kernel

/-- An action is not bound under the name of the object. -/
theorem binding_ne_objectName (r : Resource) {action : String} (h : action ∈ Action.order) :
    binding r action ≠ r.objectName := by
  simp only [binding, objectName]
  split
  next hown => exact fun heq => safeName_append_action_ne action h (heq.trans (eq_of_beq hown).symm)
  next hown => exact fun heq => hown (beq_iff_eq.2 heq)

/-- The constants of a file differ from each other, from the imports and from the object. -/
theorem nodup_bindings (hactions : ∀ a ∈ r.actions, a.name ∈ Action.order)
    (hnodup : (r.actions.map (·.name)).Nodup) :
    (r.actions.map fun a => binding r a.name).Nodup ∧
      ∀ name ∈ r.actions.map fun a => binding r a.name, name ∉ importedNames ∧ name ≠ r.objectName := by
  constructor
  · -- two actions bound to one name have a possible name in common
    rw [List.Nodup, List.pairwise_map] at hnodup ⊢
    refine hnodup.imp_of_mem fun {a b} ha hb hne heq => hne ?_
    have hown := binding_mem_bindingNames r a.name
    rw [heq] at hown
    exact bindingNames_disjoint _ (hactions a ha) _ (hactions b hb)
      ⟨_, hown, binding_mem_bindingNames r b.name⟩
  · intro name hname
    obtain ⟨a, ha, rfl⟩ := List.mem_map.1 hname
    exact ⟨not_mem_importedNames _ (hactions a ha) _ (binding_mem_bindingNames r a.name),
      binding_ne_objectName r (hactions a ha)⟩

/-! ### The name of the object -/

/-- A resource is called like an import if its object is. -/
theorem objectName_mem_importedNames_iff (h : Script.IsBare r.name) :
    r.objectName ∈ importedNames ↔ r.name ∈ importedNames := by
  have hown : ∀ name ∈ importedNames, Script.safeName name = name := by decide +kernel
  have hstrip : ∀ name ∈ importedNames, Text.strip (· == '_') name = name := by decide +kernel
  constructor
  · intro hmem
    -- the name is read back from that of the object, which has no underscores at its ends
    have hname := h.strip_safeName
    rw [← objectName, hstrip _ hmem] at hname
    rw [← hname]
    exact hmem
  · intro hmem
    rw [objectName, hown _ hmem]
    exact hmem

/-- Of the imports only one is a plural. -/
theorem mem_importedNames_iff_of_endsWith {name : String} (h : Text.endsWith "s" name = true) :
    name ∈ importedNames ↔ name = "RouteOptions" := by
  have hplural : ∀ name ∈ importedNames, Text.endsWith "s" name = true → name = "RouteOptions" := by
    decide +kernel
  refine ⟨fun hmem => hplural name hmem h, ?_⟩
  rintro rfl
  decide

/-! ### All names -/

theorem nodup_topLevelNames_iff_objectName (hactions : ∀ a ∈ r.actions, a.name ∈ Action.order)
    (hnodup : (r.actions.map (·.name)).Nodup) :
    (topLevelNames r).Nodup ↔ r.objectName ∉ importedNames := by
  obtain ⟨hbindings, hother⟩ := nodup_bindings hactions hnodup
  have himports : importedNames.Nodup := by decide
  rw [topLevelNames, List.nodup_append, List.nodup_append]
  -- of the three kinds of names only the imports and the object can meet
  constructor
  · rintro ⟨-, -, hobject⟩ hmem
    exact hobject _ (List.mem_append_left _ hmem) _ (List.mem_singleton_self _) rfl
  · intro hfree
    refine ⟨⟨himports, hbindings, ?_⟩, List.nodup_singleton _, ?_⟩
    · rintro name himport _ hbinding rfl
      exact (hother name hbinding).1 himport
    · rintro name hname _ hobject rfl
      obtain rfl := List.mem_singleton.1 hobject
      exact (List.mem_append.1 hname).elim hfree fun hbinding => (hother _ hbinding).2 rfl

/-- What is in the list of resources has the actions of routes, and is named by a route. -/
theorem nodup_topLevelNames_iff_name (h : r ∈ listed g routes) :
    (topLevelNames r).Nodup ↔ r.name ∉ importedNames := by
  obtain ⟨q, -, hkey, -, hactions⟩ := exists_of_mem_listed h
  have hbare : Script.IsBare r.name := by
    rw [name, hkey]
    exact ResourceKey.isBare_name g q
  rw [← objectName_mem_importedNames_iff hbare]
  refine nodup_topLevelNames_iff_objectName ?_ ?_ <;> rw [hactions]
  · exact fun a => name_mem_order
  · exact nodup_map_name_actionsOf _

/-- **The names at the top level of a resource's file are all different** exactly if the resource is not
called like one of the imports. A resource that a helper names can be called like one of them only. -/
theorem nodup_topLevelNames_iff {ε : Type} (g : Grouping) (routes : List Route) (documented : Bool) :
    ∃ resources, (ofRoutes g routes : Traced ε (List Resource)).outcome = .ok resources ∧
      ∀ r ∈ resources, (∃ f, (file documented r : Traced ε SourceFile).outcome = .ok f ∧
          IsNamedAfter f r) ∧
        ((topLevelNames r).Nodup ↔ r.name ∉ importedNames) ∧
        (g ≠ .scope → ((topLevelNames r).Nodup ↔ r.name ≠ "RouteOptions")) := by
  refine ⟨listed g routes, outcome_ofRoutes g routes, fun r hr => ?_⟩
  have hnames := nodup_topLevelNames_iff_name hr
  refine ⟨⟨r.source documented, rfl, ?_⟩, hnames, fun hg => ?_⟩
  · exact ⟨imported_source documented r, fun a => binds_source documented,
      exports_source documented r⟩
  · obtain ⟨q, -, hkey, -⟩ := exists_of_mem_listed hr
    have hplural : Text.endsWith "s" r.name = true := by
      rw [name, hkey]
      exact ResourceKey.endsWith_name hg q
    rw [hnames, mem_importedNames_iff_of_endsWith hplural]

theorem nodup_topLevelNames_productRoute :
    ∃ r ∈ listed .scope [productRoute], r.actions.map (·.name) = ["show"] ∧
      (topLevelNames r).Nodup := by
  obtain ⟨resources, hresources, hnames⟩ :=
    nodup_topLevelNames_iff (ε := BindingCollision) .scope [productRoute] true
  obtain rfl := Except.ok.inj hresources
  have hmem : ofGroup .scope [productRoute] ∈ listed .scope [productRoute] := by
    rw [listed_singleton]
    exact List.mem_singleton_self _
  refine ⟨_, hmem, by decide +kernel, (hnames _ hmem).2.1.2 ?_⟩
  decide +kernel

/-- A route with a helper, at a path. -/
def namedRoute (helper path : String) : Route :=
  Route.ofRecord Settings.default.naming ⟨"GET", path, some helper, none, false, default⟩

/-- A path and a helper that give a resource the name of an import. -/
theorem not_nodup_topLevelNames_namedRoute :
    (∃ r ∈ listed .scope [namedRoute "route" "/route"], ¬ (topLevelNames r).Nodup) ∧
    (∃ r ∈ listed .resource [namedRoute "RouteOptions" "/options"], ¬ (topLevelNames r).Nodup) := by
  rw [listed_singleton, listed_singleton]
  refine ⟨⟨_, List.mem_singleton_self _, ?_⟩, ⟨_, List.mem_singleton_self _, ?_⟩⟩
  · decide +kernel
  · decide +kernel

end Resource
end RouteHelpers
