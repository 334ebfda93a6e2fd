import RouteHelpers.Proofs.Extract.Grouping
import RouteHelpers.Proofs.Resource.Place
import RouteHelpers.Proofs.Tracing

/-!
What the files of the output tree are made of.

`files` builds the barrel of the output directory and the barrels of scopes in two ways: the first
looks at the resources only, the others come from `scopes`. Both are one function of a directory,
`barrelIn`: the resources whose scope the directory is, and the next words of the scopes below it.
`tree` has the barrels as data beside the directories they are for, and

    (files s routes).outcome = (tree s routes).map (Tree.files s)

so whatever is stated about a tree holds of the files that are written.
-/

namespace RouteHelpers

namespace Resource

/-! ### Resources -/

/-- The resources of several routes, in the order in which they are listed. -/
def listed (g : Grouping) (routes : List Route) : List Resource :=
  ((groups g routes).map (ofGroup g)).mergeSort le

theorem outcome_ofRoutes {ε : Type} (g : Grouping) (routes : List Route) :
    (ofRoutes g routes : Traced ε (List Resource)).outcome = .ok (listed g routes) := rfl

/-- The members of a group have one key. -/
theorem map_groupKey_groups (g : Grouping) (routes : List Route) :
    (groups g routes).map (groupKey g) = Text.distinct (routes.map (ResourceKey.ofRoute g)) := by
  rw [groups, Extract.groupBy, List.map_map]
  refine (List.map_congr_left fun k hk => ?_).trans (List.map_id _)
  -- the key of a group is read off its first member, which it has as the key occurs
  obtain ⟨r, hr, hkey⟩ := List.mem_map.1 (Text.mem_distinct.1 hk)
  have hne : (routes.filter fun r => ResourceKey.ofRoute g r == k) ≠ [] :=
    List.ne_nil_of_mem (List.mem_filter.2 ⟨hr, by simpa using hkey⟩)
  have hhead := List.head_mem hne
  rw [Function.comp_apply, groupKey, List.head?_eq_some_head hne]
  exact eq_of_beq (List.mem_filter.1 hhead).2

/-- The keys of the resources are those of the routes, each once. -/
theorem map_key_listed_perm (g : Grouping) (routes : List Route) :
    ((listed g routes).map (·.key)).Perm (Text.distinct (routes.map (ResourceKey.ofRoute g))) := by
  refine ((List.mergeSort_perm _ _).map _).trans (List.Perm.of_eq ?_)
  rw [List.map_map, ← map_groupKey_groups]
  rfl

theorem nodup_map_key_listed (g : Grouping) (routes : List Route) :
    ((listed g routes).map (·.key)).Nodup :=
  (map_key_listed_perm g routes).nodup_iff.2 (Text.nodup_distinct _)

theorem exists_mem_listed_iff {g : Grouping} {routes : List Route} {p : ResourceKey → Prop} :
    (∃ r ∈ listed g routes, p r.key) ↔ ∃ route ∈ routes, p (ResourceKey.ofRoute g route) := by
  have hmem : ∀ k, k ∈ (listed g routes).map (·.key) ↔ k ∈ routes.map (ResourceKey.ofRoute g) :=
    fun k => (map_key_listed_perm g routes).mem_iff.trans Text.mem_distinct
  constructor
  · rintro ⟨r, hr, hp⟩
    obtain ⟨route, hroute, hkey⟩ := List.mem_map.1 ((hmem r.key).1 (List.mem_map_of_mem hr))
    exact ⟨route, hroute, hkey ▸ hp⟩
  · rintro ⟨route, hroute, hp⟩
    obtain ⟨r, hr, hkey⟩ := List.mem_map.1 ((hmem _).2 (List.mem_map_of_mem hroute))
    exact ⟨r, hr, hkey ▸ hp⟩

/-! ### Scopes -/

theorem mem_initials {ws l : List String} : ws ∈ initials l ↔ ws ≠ [] ∧ ws <+: l := by
  induction l generalizing ws with
  | nil => simp [initials]
  | cons w l ih =>
    rw [initials, List.mem_cons, List.mem_map, List.prefix_cons_iff]
    constructor
    · rintro (rfl | ⟨vs, hvs, rfl⟩)
      · exact ⟨List.cons_ne_nil _ _, .inr ⟨[], rfl, List.nil_prefix⟩⟩
      · exact ⟨List.cons_ne_nil _ _, .inr ⟨vs, rfl, (ih.1 hvs).2⟩⟩
    · rintro ⟨hne, hnil | ⟨vs, rfl, hvs⟩⟩
      · exact absurd hnil hne
      · by_cases hvs' : vs = []
        · exact .inl (by rw [hvs'])
        · exact .inr ⟨vs, ih.2 ⟨hvs', hvs⟩, rfl⟩

variable {resources : List Resource} {directory : List String}

theorem map_words_scopes (resources : List Resource) :
    (scopes resources).map (·.words)
      = Text.sortedLists (Text.distinct (resources.flatMap fun r => initials r.scope)) := by
  rw [scopes, List.map_map]
  exact List.map_id _

/-- The scopes are those that a resource is in or below. -/
theorem mem_map_words_scopes :
    directory ∈ (scopes resources).map (·.words) ↔
      directory ≠ [] ∧ ∃ r ∈ resources, directory <+: r.scope := by
  rw [map_words_scopes, Text.sortedLists, List.mem_mergeSort, Text.mem_distinct,
    List.mem_flatMap]
  simp only [mem_initials]
  constructor
  · rintro ⟨r, hr, hne, hscope⟩
    exact ⟨hne, r, hr, hscope⟩
  · rintro ⟨hne, r, hr, hscope⟩
    exact ⟨r, hr, hne, hscope⟩

theorem nodup_map_words_scopes (resources : List Resource) :
    ((scopes resources).map (·.words)).Nodup := by
  rw [map_words_scopes]
  exact (List.mergeSort_perm _ _).nodup_iff.2 (Text.nodup_distinct _)

/-- What goes with a scope is found by its words. -/
theorem eq_of_mem_scopes {scope : Scope} (h : scope ∈ scopes resources) :
    scope = ⟨scope.words, resources.filter (·.scope == scope.words),
      subscopesOf resources scope.words⟩ := by
  obtain ⟨ws, -, rfl⟩ := List.mem_map.1 h
  rfl

/-- The subscopes of a directory are the words that follow it in a scope. -/
theorem mem_subscopesOf {w : String} :
    w ∈ subscopesOf resources directory ↔ ∃ r ∈ resources, directory ++ [w] <+: r.scope := by
  rw [subscopesOf, Text.sorted, List.mem_mergeSort, Text.mem_distinct,
    List.mem_filterMap]
  refine exists_congr fun r => and_congr_right fun _ => ?_
  rw [Option.ite_none_right_eq_some, List.isPrefixOf_iff_prefix]
  constructor
  · rintro ⟨⟨rest, hrest⟩, hw⟩
    rw [← hrest, List.getElem?_append_right (Nat.le_refl _), Nat.sub_self] at hw
    cases rest with
    | nil => cases hw
    | cons v rest =>
      cases hw
      exact ⟨rest, by rw [← hrest]; simp⟩
  · rintro ⟨rest, hrest⟩
    rw [← hrest]
    exact ⟨⟨w :: rest, by simp⟩, by simp⟩

/-- A directory is a scope or above one if it is the start of a key and not all of it. -/
theorem isPrefix_scope_iff {r : Resource} :
    directory <+: r.scope ↔ directory <+: r.key.words ∧ directory ≠ r.key.words := by
  rw [ResourceKey.words, List.prefix_concat_iff]
  constructor
  · intro h
    refine ⟨.inr h, ?_⟩
    rintro rfl
    exact absurd h.length_le (by simp [scope])
  · rintro ⟨heq | h, hne⟩
    · exact absurd heq hne
    · exact h

/-! ### Barrels -/

/-- A barrel, and the directory that it is for. -/
structure PlacedBarrel where
  directory : List String
  barrel : Barrel

namespace PlacedBarrel

/-- The path of a barrel. -/
def path (b : PlacedBarrel) : String :=
  place b.directory "index"

/-- The file of a barrel; that of the output directory re-exports the types of the runtime as well. -/
def file (b : PlacedBarrel) : SourceFile :=
  ⟨b.path, b.barrel.text b.directory.isEmpty⟩

end PlacedBarrel

/-- The barrel of a directory. -/
def barrelIn (resources : List Resource) (directory : List String) :
    Traced BindingCollision PlacedBarrel := do
  let b ← Barrel.of (resources.filter (·.scope == directory)) (subscopesOf resources directory)
  pure ⟨directory, b⟩

theorem outcome_barrelIn (resources : List Resource) (directory : List String) :
    (barrelIn resources directory).outcome
      = (Barrel.of (resources.filter (·.scope == directory))
          (subscopesOf resources directory)).outcome.map (⟨directory, ·⟩) := by
  rw [barrelIn, Traced.outcome_bind]
  cases (Barrel.of _ _).outcome <;> rfl

/-- The barrel of the output directory is for the resources and scopes that are directly in it. -/
theorem topLevel_eq (resources : List Resource) :
    Barrel.topLevel resources = (do
      let b ← Barrel.of (resources.filter (·.scope == [])) (subscopesOf resources [])
      pure ⟨"index" ++ fileEnding, b.text true⟩) := by
  have hdirect : (fun r : Resource => r.scope.isEmpty) = fun r => r.scope == [] := by
    funext r
    cases r.scope <;> rfl
  have hscopes : Text.sorted (Text.distinct (resources.filterMap (·.scope.head?)))
      = subscopesOf resources [] := by
    simp [subscopesOf, List.head?_eq_getElem?]
  rw [Barrel.topLevel, hdirect, hscopes]

theorem outcome_topLevel (resources : List Resource) :
    (Barrel.topLevel resources).outcome = (barrelIn resources []).outcome.map (·.file) := by
  rw [topLevel_eq, Traced.outcome_bind, outcome_barrelIn]
  cases (Barrel.of _ _).outcome <;> rfl

theorem outcome_ofScope (h : directory ≠ []) :
    (Barrel.ofScope directory (resources.filter (·.scope == directory))
        (subscopesOf resources directory)).outcome
      = (barrelIn resources directory).outcome.map (·.file) := by
  rw [Barrel.ofScope, Traced.outcome_bind, outcome_barrelIn]
  cases (Barrel.of _ _).outcome with
  | error e => rfl
  | ok b =>
    have hpath : Text.joinWith "/" directory ++ "/index" ++ fileEnding = place directory "index" := by
      have hindex : "/index" = "/" ++ "index" := rfl
      rw [place, Text.joinWith_concat _ h, hindex, String.append_assoc, String.append_assoc,
        String.append_assoc, String.append_assoc]
    have htypes : directory.isEmpty = false := by simpa using h
    refine congrArg Except.ok ?_
    show _ = (⟨place directory "index", b.text directory.isEmpty⟩ : SourceFile)
    rw [hpath, htypes]

/-! ### The tree -/

/-- The file of a resource. -/
def source (documented : Bool) (r : Resource) : SourceFile :=
  ⟨r.path, fileText documented r⟩

/-- What the files of the output directory are made of. -/
structure Tree where
  resources : List Resource
  barrels : List PlacedBarrel

/-- The directories with a barrel. -/
def directories (s : Settings) (resources : List Resource) : List (List String) :=
  (if s.includeIndex then [[]] else []) ++ (scopes resources).map (·.words)

/-- The resources and barrels of routes. -/
def tree (s : Settings) (routes : List Route) : Except BindingCollision Tree :=
  let resources := listed s.grouping routes
  (Traced.mapEach (barrelIn resources) (directories s resources)).outcome.map (⟨resources, ·⟩)

/-- The files of a tree. -/
def Tree.files (s : Settings) (t : Tree) : List SourceFile :=
  runtimeFile s.withForms :: t.resources.map (source s.documentation) ++ t.barrels.map (·.file)

/-- The file of the output directory's own barrel, if it has one. -/
def rootFiles (s : Settings) (resources : List Resource) : Traced BindingCollision (List SourceFile) :=
  if s.includeIndex then (fun f => [f]) <$> Barrel.topLevel resources else pure []

theorem files_eq (s : Settings) (routes : List Route) :
    files s routes = (do
      let resources ← ofRoutes s.grouping routes
      let own ← Traced.mapEach (file s.documentation) resources
      let top ← rootFiles s resources
      let barrels ← Traced.mapEach (fun (scope : Scope) =>
        Barrel.ofScope scope.words scope.members scope.subscopes) (scopes resources)
      pure (runtimeFile s.withForms :: own ++ top ++ barrels)) := by
  simp only [files, rootFiles]
  cases s.includeIndex <;> rfl

theorem outcome_rootFiles (s : Settings) (resources : List Resource) :
    (rootFiles s resources).outcome
      = (Traced.mapEach (barrelIn resources) (if s.includeIndex then [[]] else [])).outcome.map
          (List.map PlacedBarrel.file) := by
  rw [rootFiles]
  cases s.includeIndex with
  | false => rfl
  | true =>
    rw [if_pos rfl, if_pos rfl, Traced.outcome_map, outcome_topLevel, Traced.mapEach,
      Traced.outcome_bind]
    cases (barrelIn resources []).outcome <;> rfl

/-- The files of the barrels of scopes. -/
theorem outcome_scopeFiles (resources : List Resource) :
    (Traced.mapEach (fun scope : Scope =>
        Barrel.ofScope scope.words scope.members scope.subscopes) (scopes resources)).outcome
      = (Traced.mapEach (barrelIn resources) ((scopes resources).map (·.words))).outcome.map
          (List.map PlacedBarrel.file) := by
  refine Traced.outcome_mapEach_map fun scope hscope => ?_
  rw [eq_of_mem_scopes hscope]
  exact outcome_ofScope (mem_map_words_scopes.1 (List.mem_map_of_mem hscope)).1

/-- **The files are those of the tree.** -/
theorem outcome_files (s : Settings) (routes : List Route) :
    (files s routes).outcome = (tree s routes).map (Tree.files s) := by
  have hown : ∀ r ∈ listed s.grouping routes,
      (file (ε := BindingCollision) s.documentation r).outcome
        = .ok (source s.documentation r) := fun _ _ => rfl
  rw [files_eq, Traced.outcome_bind_ok (outcome_ofRoutes _ _),
    Traced.outcome_bind_ok (Traced.outcome_mapEach hown), Traced.outcome_bind, outcome_rootFiles,
    tree, directories, Traced.outcome_mapEach_append]
  -- of the directories the one for the output comes first, and a fault there ends both sides
  cases (Traced.mapEach (barrelIn (listed s.grouping routes))
      (if s.includeIndex then [[]] else [])).outcome with
  | error e => rfl
  | ok top =>
    simp only [Except.map, Except.ok_bind, Traced.outcome_bind, outcome_scopeFiles]
    cases (Traced.mapEach (barrelIn (listed s.grouping routes))
        ((scopes (listed s.grouping routes)).map (·.words))).outcome with
    | error e => rfl
    | ok barrels =>
      refine congrArg Except.ok ?_
      show _ ++ _ ++ _ = _ ++ (top ++ barrels).map PlacedBarrel.file
      rw [List.map_append, ← List.append_assoc]

/-! ### What a tree consists of -/

theorem mem_directories {s : Settings} :
    directory ∈ directories s resources ↔
      directory = [] ∧ s.includeIndex = true ∨
        directory ≠ [] ∧ ∃ r ∈ resources, directory <+: r.scope := by
  rw [directories, List.mem_append, mem_map_words_scopes]
  refine or_congr_left ?_
  cases s.includeIndex <;> simp

theorem nodup_directories (s : Settings) (resources : List Resource) :
    (directories s resources).Nodup := by
  refine List.nodup_append.2 ⟨?_, nodup_map_words_scopes resources, ?_⟩
  · cases s.includeIndex <;> simp
  · rintro a ha b hb rfl
    refine (mem_map_words_scopes.1 hb).1 ?_
    revert ha
    cases s.includeIndex <;> simp

theorem barrelIn_eq_ok {b : PlacedBarrel} :
    (barrelIn resources directory).outcome = .ok b ↔
      b.directory = directory ∧
        (Barrel.of (resources.filter (·.scope == b.directory))
          (subscopesOf resources b.directory)).outcome = .ok b.barrel := by
  rw [barrelIn, Traced.outcome_bind_eq_ok]
  constructor
  · rintro ⟨barrel, hbarrel, h⟩
    cases h
    exact ⟨rfl, hbarrel⟩
  · rintro ⟨rfl, hbarrel⟩
    exact ⟨b.barrel, hbarrel, rfl⟩

/-- The tree holds the resources of the routes and one barrel for each directory. -/
structure Tree.IsOf (s : Settings) (routes : List Route) (t : Tree) : Prop where
  resources : t.resources = listed s.grouping routes
  directories : t.barrels.map (·.directory) = directories s t.resources
  barrels : ∀ b ∈ t.barrels, (Barrel.of (t.resources.filter (·.scope == b.directory))
    (subscopesOf t.resources b.directory)).outcome = .ok b.barrel

variable {s : Settings} {routes : List Route} {t : Tree}

theorem isOf_of_tree (h : tree s routes = .ok t) : t.IsOf s routes := by
  obtain ⟨barrels, hbarrels, rfl⟩ := Except.map_eq_ok.1 h
  obtain ⟨hmap, heach⟩ := Traced.mapEach_eq_ok PlacedBarrel.directory
    (fun directory b hb => (barrelIn_eq_ok.1 hb).1) hbarrels
  exact ⟨rfl, hmap, fun b hb => (barrelIn_eq_ok.1 (heach b hb)).2⟩

namespace Tree.IsOf

variable (h : t.IsOf s routes)
include h

theorem isComponent_words {r : Resource} (hr : r ∈ t.resources) :
    ∀ w ∈ r.key.words, IsComponent w := by
  rw [h.resources] at hr
  obtain ⟨route, -, hkey⟩ := exists_mem_listed_iff.1 ⟨r, hr, rfl⟩
  intro w hw
  rw [hkey] at hw
  exact ResourceKey.isComponent_of_mem_words hw

theorem isComponent_scope {r : Resource} (hr : r ∈ t.resources) : ∀ w ∈ r.scope, IsComponent w :=
  fun w hw => h.isComponent_words hr w (List.mem_append_left _ hw)

theorem isComponent_name {r : Resource} (hr : r ∈ t.resources) : IsComponent r.name :=
  h.isComponent_words hr _ (List.mem_append_right _ (List.mem_singleton_self _))

theorem nodup_map_directory : (t.barrels.map (·.directory)).Nodup :=
  h.directories ▸ nodup_directories s t.resources

/-- The directories with a barrel are the output directory, if it has one, and the scopes that a
resource is in or below. -/
theorem exists_barrel_iff {directory : List String} :
    (∃ b ∈ t.barrels, b.directory = directory) ↔
      directory = [] ∧ s.includeIndex = true ∨
        directory ≠ [] ∧ ∃ r ∈ t.resources, directory <+: r.scope := by
  rw [← mem_directories, ← h.directories, List.mem_map]

theorem isComponent_directory {b : PlacedBarrel} (hb : b ∈ t.barrels) :
    ∀ w ∈ b.directory, IsComponent w := by
  rcases h.exists_barrel_iff.1 ⟨b, hb, rfl⟩ with ⟨hnil, -⟩ | ⟨-, r, hr, hscope⟩
  · rw [hnil]
    exact fun w hw => absurd hw List.not_mem_nil
  · exact fun w hw => h.isComponent_scope hr w (hscope.subset hw)

end Tree.IsOf

/-- The files that come out are those of a tree. -/
theorem exists_tree_of_files {fs : List SourceFile} (h : (files s routes).outcome = .ok fs) :
    ∃ t, tree s routes = .ok t ∧ t.files s = fs :=
  Except.map_eq_ok.1 (outcome_files s routes ▸ h)

/-! ### A single route -/

theorem listed_singleton (g : Grouping) (r : Route) : listed g [r] = [ofGroup g [r]] := by
  have hgroups : groups g [r] = [[r]] := by
    simp [groups, Extract.groupBy, Text.distinct]
  rw [listed, hgroups]
  exact List.mergeSort_singleton _

/-- A resource by itself has at most one thing to re-export in a directory. -/
theorem exists_barrelIn_singleton (r : Resource) (directory : List String) :
    ∃ b, (barrelIn [r] directory).outcome = .ok b := by
  have hof : ∃ barrel, (Barrel.of ([r].filter (·.scope == directory))
      (subscopesOf [r] directory)).outcome = .ok barrel := by
    -- the resource is in the directory, and then in no scope below it, or it is not
    by_cases hscope : r.scope = directory
    · have hnone : subscopesOf [r] directory = [] := by
        refine List.eq_nil_iff_forall_not_mem.2 fun w hw => ?_
        obtain ⟨r', hr', hw⟩ := mem_subscopesOf.1 hw
        rw [List.mem_singleton.1 hr', hscope] at hw
        exact absurd hw.length_le (by simp)
      rw [hnone, List.filter_cons_of_pos (by simpa using hscope)]
      exact ⟨_, rfl⟩
    · rw [List.filter_cons_of_neg (by simpa using hscope), List.filter_nil, subscopesOf,
        List.filterMap_cons, List.filterMap_nil]
      split
      next =>
        have hnone : Text.sorted (Text.distinct []) = [] := List.mergeSort_nil
        rw [hnone]
        exact ⟨_, rfl⟩
      next w _ =>
        have hone : Text.sorted (Text.distinct [w]) = [w] := List.mergeSort_singleton w
        rw [hone]
        exact ⟨_, rfl⟩
  obtain ⟨barrel, hbarrel⟩ := hof
  exact ⟨⟨directory, barrel⟩, barrelIn_eq_ok.2 ⟨rfl, hbarrel⟩⟩

/-- Files come out for a single route, whatever it is. -/
theorem exists_files_singleton (s : Settings) (r : Route) :
    ∃ fs, (files s [r]).outcome = .ok fs := by
  rw [outcome_files, tree, listed_singleton]
  have heach : ∀ directory ∈ directories s [ofGroup s.grouping [r]],
      ∃ b, (barrelIn [ofGroup s.grouping [r]] directory).outcome = .ok b :=
    fun directory _ => exists_barrelIn_singleton _ directory
  obtain ⟨barrels, hbarrels⟩ := Traced.exists_mapEach heach
  rw [hbarrels]
  exact ⟨_, rfl⟩

/-- A route to a resource two scopes deep. -/
def productRoute : Route :=
  Route.ofRecord Settings.default.naming
    ⟨"GET", "/api/v1/products/:id", some "api_v1_product", none, false, default⟩

end Resource
end RouteHelpers
