import RouteHelpers.Proofs.Resource.Conservation

/-!
The output tree does not depend on the order of the routes.

Of a resource the files show its key and its actions, and nothing of the routes that it was made of
(`withoutRoutes`). Keys are those of the routes in any order. Actions are those of the first members
that have them, so in another order another member may stand for an action; where no two members have
one action, every member stands for its own, and sorting leaves one order of them only:

    (listed g routes').map withoutRoutes = (listed g routes).map withoutRoutes

Resources are in strict order as well, so the two lists are equal as soon as they have the same members.
-/

namespace RouteHelpers

namespace Resource

variable {g : Grouping} {s : Settings} {routes routes' : List Route} {resources : List Resource}

/-! ### What files show of a resource -/

/-- A resource without the routes that it was made of. -/
def withoutRoutes (r : Resource) : Resource :=
  { r with routes := [] }

/-- The files of several resources. -/
def filesOf (s : Settings) (resources : List Resource) :
    Except BindingCollision (List SourceFile) :=
  (Traced.mapEach (barrelIn resources) (directories s resources)).outcome.map fun barrels =>
    (Tree.mk resources barrels).files s

section
variable {f : Resource → Resource} (hkey : ∀ r, (f r).key = r.key)
include hkey

theorem scope_of_key (r : Resource) : (f r).scope = r.scope :=
  congrArg ResourceKey.scope (hkey r)

/-- Of a resource a barrel shows its key. -/
theorem resourceExports_map (taken : Barrel.Taken) (resources : List Resource) :
    Barrel.resourceExports taken (resources.map f) = Barrel.resourceExports taken resources := by
  induction resources generalizing taken with
  | nil => rfl
  | cons r resources ih =>
    have hname : (f r).name = r.name := congrArg ResourceKey.name (hkey r)
    have hpath : (f r).path = r.path := congrArg (ResourceKey.path fileEnding) (hkey r)
    rw [List.map_cons, Barrel.resourceExports, Barrel.resourceExports, hname, hpath, hkey]
    simp only [ih]

theorem barrelIn_map (resources : List Resource) :
    barrelIn (resources.map f) = barrelIn resources := by
  funext directory
  have hdirect : ((resources.map f).filter (·.scope == directory))
      = (resources.filter (·.scope == directory)).map f := by
    rw [List.filter_map]
    refine congrArg _ (List.filter_congr fun r _ => ?_)
    rw [Function.comp_apply, scope_of_key hkey]
  have hscopes : subscopesOf (resources.map f) directory = subscopesOf resources directory := by
    rw [subscopesOf, List.filterMap_map, subscopesOf]
    simp only [Function.comp_def, scope_of_key hkey]
  rw [barrelIn, barrelIn, hdirect, hscopes, Barrel.of, Barrel.of, resourceExports_map hkey]

theorem directories_map (s : Settings) (resources : List Resource) :
    directories s (resources.map f) = directories s resources := by
  rw [directories, directories, map_words_scopes, map_words_scopes, List.flatMap_map]
  simp only [scope_of_key hkey]

/-- Where keys and texts of resources stay, the files stay. -/
theorem filesOf_map (s : Settings) (resources : List Resource)
    (hsource : ∀ r ∈ resources, source s.documentation (f r) = source s.documentation r) :
    filesOf s (resources.map f) = filesOf s resources := by
  have hown : ∀ barrels, (Tree.mk (resources.map f) barrels).files s
      = (Tree.mk resources barrels).files s := by
    intro barrels
    rw [Tree.files, Tree.files, List.map_map]
    exact congrArg (runtimeFile s.withForms :: · ++ _) (List.map_congr_left hsource)
  simp only [filesOf, barrelIn_map hkey, directories_map hkey, hown]

end

/-- The files show nothing of the routes that resources were made of. -/
theorem filesOf_withoutRoutes (s : Settings) (resources : List Resource) :
    filesOf s (resources.map withoutRoutes) = filesOf s resources :=
  filesOf_map (f := withoutRoutes) (fun _ => rfl) s resources fun _ _ => rfl

theorem outcome_files_eq_filesOf (s : Settings) (routes : List Route) :
    (files s routes).outcome = filesOf s (listed s.grouping routes) := by
  rw [outcome_files, tree, filesOf]
  cases (Traced.mapEach _ _).outcome <;> rfl

/-! ### The same resources in another order of the routes -/

/-- Members with different actions give the same actions in any order. -/
theorem actionsOf_eq_of_perm (h : routes.Perm routes')
    (hdiffer : (routes.map Action.ofRoute).Nodup) : actionsOf routes = actionsOf routes' := by
  have hdiffer' : (routes'.map Action.ofRoute).Nodup := (h.map _).nodup_iff.1 hdiffer
  -- both are all members sorted, as each member stands for its own action
  have hperm : (actionsOf routes).Perm (actionsOf routes') := by
    rw [actionsOf, actionsOf, firstOfEach_eq_firsts, firstOfEach_eq_firsts,
      Extract.firsts_of_nodup hdiffer, Extract.firsts_of_nodup hdiffer']
    exact (List.mergeSort_perm _ _).trans ((h.map actionOf).trans (List.mergeSort_perm _ _).symm)
  exact hperm.eq_of_pairwise (fun a b _ _ hab hba => absurd hab (Nat.lt_asymm hba))
    (pairwise_rank_actionsOf routes) (pairwise_rank_actionsOf routes')

/-- A key that a resource has in one order of the routes is that of a resource in another. -/
theorem exists_key_eq {r : Resource} (h : routes.Perm routes') (hr : r ∈ listed g routes) :
    ∃ r' ∈ listed g routes', r.key = r'.key := by
  obtain ⟨q, hq, hkey⟩ := exists_mem_listed_iff.1 ⟨r, hr, rfl⟩
  exact exists_mem_listed_iff.2 ⟨q, h.mem_iff.1 hq, hkey⟩

/-- Resources of one key show the same, whatever the order of the routes. -/
theorem withoutRoutes_eq {r r' : Resource} (h : routes.Perm routes') (hr : r ∈ listed g routes)
    (hr' : r' ∈ listed g routes') (hkey : r.key = r'.key)
    (hdiffer : (r.routes.map Action.ofRoute).Nodup) : withoutRoutes r = withoutRoutes r' := by
  have hmembers : r.routes.Perm r'.routes := by
    rw [routes_eq_membersOf hr, routes_eq_membersOf hr', hkey]
    exact h.filter _
  have hactions : r.actions = r'.actions := by
    rw [actions_eq_actionsOf hr, actions_eq_actionsOf hr']
    exact actionsOf_eq_of_perm hmembers hdiffer
  rw [withoutRoutes, withoutRoutes, hkey, hactions]

/-- The resources show the same in the same order, whatever the order of the routes. -/
theorem map_withoutRoutes_listed (h : routes.Perm routes')
    (hdiffer : ∀ r ∈ listed g routes, (r.routes.map Action.ofRoute).Nodup) :
    (listed g routes').map withoutRoutes = (listed g routes).map withoutRoutes := by
  have hnodup : ∀ routes : List Route, ((listed g routes).map withoutRoutes).Nodup := by
    intro routes
    refine List.Nodup.of_map (·.key) ?_
    rw [List.map_map]
    exact nodup_map_key_listed g routes
  have hordered : ∀ routes : List Route, ((listed g routes).map withoutRoutes).Pairwise fun a b =>
      a.name < b.name ∨ a.name = b.name ∧ a.key.words < b.key.words :=
    fun routes => List.pairwise_map.2 (pairwise_lt_listed g routes)
  have hmem : ∀ x, x ∈ (listed g routes').map withoutRoutes ↔
      x ∈ (listed g routes).map withoutRoutes := by
    intro x
    constructor
    · intro hx
      obtain ⟨r', hr', rfl⟩ := List.mem_map.1 hx
      obtain ⟨r, hr, hkey⟩ := exists_key_eq h.symm hr'
      exact List.mem_map.2 ⟨r, hr, withoutRoutes_eq h hr hr' hkey.symm (hdiffer r hr)⟩
    · intro hx
      obtain ⟨r, hr, rfl⟩ := List.mem_map.1 hx
      obtain ⟨r', hr', hkey⟩ := exists_key_eq h hr
      exact List.mem_map.2 ⟨r', hr', (withoutRoutes_eq h hr hr' hkey (hdiffer r hr)).symm⟩
  -- the same members without repetition are permuted, and a strict order allows one arrangement
  refine List.Perm.eq_of_pairwise ?_ (hordered routes') (hordered routes)
    ((List.perm_ext_iff_of_nodup (hnodup routes') (hnodup routes)).2 hmem)
  rintro a b - - (hab | ⟨hname, hab⟩) (hba | ⟨hname', hba⟩)
  · exact absurd hba (lt_asymm hab)
  · exact absurd hab (hname' ▸ lt_irrefl _)
  · exact absurd hba (hname ▸ lt_irrefl _)
  · exact absurd hba (lt_asymm hab)

/-- **The order of the routes does not matter**: where no two routes of a resource have one action, the
same files come out in the same order, or the same collision does. -/
theorem files_eq_of_perm (s : Settings) (h : routes.Perm routes')
    (hdiffer : ∀ r ∈ listed s.grouping routes, (r.routes.map Action.ofRoute).Nodup) :
    (files s routes').outcome = (files s routes).outcome := by
  rw [outcome_files_eq_filesOf, outcome_files_eq_filesOf, ← filesOf_withoutRoutes,
    map_withoutRoutes_listed h hdiffer, filesOf_withoutRoutes]

/-- Routes to three resources, one of them in a scope, and an action that each of them has. -/
def shopRoutes : List Route :=
  [("GET", "/users", "users"), ("POST", "/users", "create_user"), ("GET", "/admin/users", "admin_users"),
    ("GET", "/products", "products")].map fun (verb, path, helper) =>
      Route.ofRecord Settings.default.naming ⟨verb, path, some helper, none, false, default⟩

theorem files_shopRoutes_reverse :
    shopRoutes.Perm shopRoutes.reverse ∧
    (∀ r ∈ listed Settings.default.grouping shopRoutes, (r.routes.map Action.ofRoute).Nodup) ∧
    (files Settings.default shopRoutes.reverse).outcome
      = (files Settings.default shopRoutes).outcome := by
  have hperm : shopRoutes.Perm shopRoutes.reverse := (List.reverse_perm _).symm
  have hall : ∀ q ∈ shopRoutes, ((membersOf Settings.default.grouping shopRoutes
      (ResourceKey.ofRoute Settings.default.grouping q)).map Action.ofRoute).Nodup := by
    decide +kernel
  have hdiffer : ∀ r ∈ listed Settings.default.grouping shopRoutes,
      (r.routes.map Action.ofRoute).Nodup := by
    intro r hr
    obtain ⟨q, hq, hkey, hroutes, -⟩ := exists_of_mem_listed hr
    rw [hroutes, hkey]
    exact hall q hq
  exact ⟨hperm, hdiffer, files_eq_of_perm Settings.default hperm hdiffer⟩

end Resource
end RouteHelpers
