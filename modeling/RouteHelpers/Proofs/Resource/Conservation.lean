import RouteHelpers.Proofs.Extract.Firsts
import RouteHelpers.Proofs.Extract.Naming
import RouteHelpers.Proofs.Resource.Tree
import RouteHelpers.Proofs.Text.Order

/-!
No route is lost on the way into resources.

A route belongs to the resource with its key and to no other. There it stands for its action if it is
the first with that action; otherwise it is dropped, and a user is told of it and of the route that is
kept (`dropWarning`). So the members of a resource are those that stand for its actions together with
those that one is warned of, and what is told is just these warnings (`IsGrouping.conserved`,
`IsGrouping.warned`).

Which members are kept and which are dropped is a matter of `Extract.firsts` and `Extract.repeats`:

    firstOfEach routes = firsts Action.ofRoute routes
    dropNotices key [] routes = (repeats Action.ofRoute routes).map (dropWarning key)
-/

namespace RouteHelpers.Resource

variable {g : Grouping} {routes : List Route} {r : Resource} {a : ResourceAction}

/-! ### The members of a resource -/

/-- The routes with a key. -/
def membersOf (g : Grouping) (routes : List Route) (k : ResourceKey) : List Route :=
  routes.filter fun q => ResourceKey.ofRoute g q == k

theorem mem_membersOf {k : ResourceKey} {q : Route} :
    q ∈ membersOf g routes k ↔ q ∈ routes ∧ ResourceKey.ofRoute g q = k := by
  rw [membersOf, List.mem_filter, beq_iff_eq]

/-- A resource has a key that occurs, and is made of the routes with it. -/
theorem exists_of_mem_listed (h : r ∈ listed g routes) :
    ∃ q ∈ routes, r.key = ResourceKey.ofRoute g q ∧ r.routes = membersOf g routes r.key ∧
      r.actions = actionsOf r.routes := by
  obtain ⟨group, hgroup, rfl⟩ := List.mem_map.1 (List.mem_mergeSort.1 h)
  obtain ⟨q, hq, rfl⟩ := Extract.mem_groupBy hgroup
  have hkey : groupKey g (membersOf g routes (ResourceKey.ofRoute g q))
      = ResourceKey.ofRoute g q := by
    have hmem : q ∈ membersOf g routes (ResourceKey.ofRoute g q) := mem_membersOf.2 ⟨hq, rfl⟩
    have hne := List.ne_nil_of_mem hmem
    rw [groupKey, List.head?_eq_some_head hne]
    exact (mem_membersOf.1 (List.head_mem hne)).2
  refine ⟨q, hq, hkey, ?_, rfl⟩
  show _ = membersOf g routes (groupKey g (membersOf g routes (ResourceKey.ofRoute g q)))
  rw [hkey]
  rfl

theorem routes_eq_membersOf (h : r ∈ listed g routes) : r.routes = membersOf g routes r.key := by
  obtain ⟨-, -, -, hroutes, -⟩ := exists_of_mem_listed h
  exact hroutes

theorem actions_eq_actionsOf (h : r ∈ listed g routes) : r.actions = actionsOf r.routes := by
  obtain ⟨-, -, -, -, hactions⟩ := exists_of_mem_listed h
  exact hactions

theorem eq_of_key_eq {r' : Resource} (h : r ∈ listed g routes) (h' : r' ∈ listed g routes)
    (hkey : r.key = r'.key) : r = r' :=
  List.inj_on_of_nodup_map (nodup_map_key_listed g routes) h h' hkey

/-- A route is a member of the resource with its key, and of no other. -/
theorem exists_own_resource {q : Route} (hq : q ∈ routes) :
    ∃ r ∈ listed g routes, r.key = ResourceKey.ofRoute g q ∧
      ∀ r' ∈ listed g routes, q ∈ r'.routes ↔ r' = r := by
  obtain ⟨r, hr, hkey⟩ :=
    (exists_mem_listed_iff (p := fun k => k = ResourceKey.ofRoute g q)).2 ⟨q, hq, rfl⟩
  refine ⟨r, hr, hkey, fun r' hr' => ?_⟩
  rw [routes_eq_membersOf hr', mem_membersOf, ← hkey]
  constructor
  · rintro ⟨-, hkey'⟩
    exact eq_of_key_eq hr' hr hkey'.symm
  · rintro rfl
    exact ⟨hq, rfl⟩

/-- Resources are in strict order by name and then by key. -/
theorem pairwise_lt_listed (g : Grouping) (routes : List Route) :
    (listed g routes).Pairwise fun a b =>
      a.name < b.name ∨ a.name = b.name ∧ a.key.words < b.key.words := by
  have hnodup : (((groups g routes).map (ofGroup g)).map fun r => r.name :: r.key.words).Nodup := by
    have hkeys : (((groups g routes).map (ofGroup g)).map (·.key)).Nodup := by
      rw [List.map_map]
      exact map_groupKey_groups g routes ▸ Text.nodup_distinct _
    rw [List.Nodup, List.pairwise_map] at hkeys ⊢
    refine hkeys.imp fun hne heq => hne ?_
    -- the words of a key tell the key
    obtain ⟨-, hwords⟩ := List.cons.inj heq
    obtain ⟨hscope, hname⟩ := List.append_inj' hwords rfl
    obtain ⟨hname, -⟩ := List.cons.inj hname
    exact congrArg₂ ResourceKey.mk hscope hname
  refine (Text.pairwise_lt_mergeSort hnodup).imp fun h => ?_
  exact List.cons_lt_cons_iff.1 h

/-! ### The actions of a resource -/

theorem firstOfEach_eq_firsts (routes : List Route) :
    firstOfEach routes = Extract.firsts Action.ofRoute routes :=
  Extract.heads_groupBy Action.ofRoute routes

theorem mem_actionsOf : a ∈ actionsOf routes ↔
    ∃ q ∈ Extract.firsts Action.ofRoute routes, a = actionOf q := by
  rw [actionsOf, List.mem_mergeSort, firstOfEach_eq_firsts, List.mem_map]
  simp only [eq_comm]

/-- The routes that stand for actions are the first ones with them. -/
theorem map_route_actionsOf_perm (routes : List Route) :
    ((actionsOf routes).map (·.route)).Perm (Extract.firsts Action.ofRoute routes) := by
  refine ((List.mergeSort_perm _ _).map _).trans (List.Perm.of_eq ?_)
  rw [firstOfEach_eq_firsts, List.map_map]
  exact List.map_id _

/-- Different actions have different places in their order. -/
theorem rank_inj {x y : String} (hx : x ∈ Action.order) (hy : y ∈ Action.order)
    (h : Action.rank x = Action.rank y) : x = y :=
  (by decide : ∀ x ∈ Action.order, ∀ y ∈ Action.order, Action.rank x = Action.rank y → x = y)
    x hx y hy h

theorem ofRoute_mem_order (q : Route) : Action.ofRoute q ∈ Action.order :=
  Action.infer_mem_order _ _ _

theorem name_mem_order (h : a ∈ actionsOf routes) : a.name ∈ Action.order := by
  obtain ⟨q, -, rfl⟩ := mem_actionsOf.1 h
  exact ofRoute_mem_order q

/-- No action is listed twice. -/
theorem nodup_map_name_actionsOf (routes : List Route) :
    ((actionsOf routes).map (·.name)).Nodup := by
  refine ((List.mergeSort_perm _ _).map _).nodup_iff.2 ?_
  rw [firstOfEach_eq_firsts, List.map_map]
  exact (Extract.map_key_firsts Action.ofRoute routes).symm ▸ Text.nodup_distinct _

/-- The actions of a resource are in strict order. -/
theorem pairwise_rank_actionsOf (routes : List Route) :
    (actionsOf routes).Pairwise fun a b => Action.rank a.name < Action.rank b.name := by
  have hsorted : (actionsOf routes).Pairwise fun a b =>
      decide (Action.rank a.name ≤ Action.rank b.name) = true :=
    List.pairwise_mergeSort (fun a b c => by simpa using Nat.le_trans)
      (fun a b => by simpa using Nat.le_total _ _) _
  refine (hsorted.and (List.pairwise_map.1 (nodup_map_name_actionsOf routes))).imp_of_mem ?_
  rintro a b ha hb ⟨hle, hne⟩
  refine Nat.lt_of_le_of_ne (of_decide_eq_true hle) fun hrank => hne ?_
  exact rank_inj (name_mem_order ha) (name_mem_order hb) hrank

/-- The route of an action is the first with it. -/
theorem find?_of_mem_actionsOf (h : a ∈ actionsOf routes) :
    (routes.find? fun q => Action.ofRoute q == a.name) = some a.route := by
  obtain ⟨q, hq, rfl⟩ := mem_actionsOf.1 h
  have hfirst := Extract.mem_firsts.1 hq
  simpa only [actionOf] using hfirst

/-! ### What is told -/

/-- What a user is told about a member of a resource that stands for no action, and about the member
that stands for it. -/
def dropWarning (k : ResourceKey) (e : Route × Route) : Notice :=
  .droppedRoute (Text.joinWith "/" k.words) e.1.verb e.1.path (Action.ofRoute e.1) e.2.path

theorem dropNotices_eq (k : ResourceKey) (done rest : List Route) :
    dropNotices k done rest
      = ((rest.inits.map (done ++ ·)).zip rest).filterMap fun e =>
          (Extract.earlier? Action.ofRoute e).map fun first => dropWarning k (e.2, first) := by
  induction rest generalizing done with
  | nil => rfl
  | cons q rest ih =>
    have hinits : (q :: rest).inits.map (done ++ ·) = done :: rest.inits.map (done ++ [q] ++ ·) := by
      simp
    rw [dropNotices, ih, hinits, List.zip_cons_cons, List.filterMap_cons]
    simp only [Extract.earlier?]
    cases done.find? fun d => Action.ofRoute d == Action.ofRoute q <;> simp [dropWarning]

theorem dropNotices_nil (k : ResourceKey) (routes : List Route) :
    dropNotices k [] routes = (Extract.repeats Action.ofRoute routes).map (dropWarning k) := by
  rw [dropNotices_eq, Extract.repeats, List.map_filterMap, Extract.withEarlier]
  simp [Function.comp_def]

/-- What is told of resources is one warning for each member that is dropped. -/
theorem notices_ofRoutes {ε : Type} (g : Grouping) (routes : List Route) :
    (ofRoutes g routes : Traced ε (List Resource)).notices.Perm
      ((listed g routes).flatMap fun r =>
        (Extract.repeats Action.ofRoute r.routes).map (dropWarning r.key)) := by
  have hnotices : (ofRoutes g routes : Traced ε (List Resource)).notices
      = (groups g routes).flatMap fun group => dropNotices (groupKey g group) [] group :=
    List.append_nil _
  have hgroups : ((groups g routes).flatMap fun group => dropNotices (groupKey g group) [] group)
      = ((groups g routes).map (ofGroup g)).flatMap fun r =>
          (Extract.repeats Action.ofRoute r.routes).map (dropWarning r.key) := by
    rw [List.flatMap_map]
    exact List.flatMap_congr fun group _ => dropNotices_nil _ _
  -- the groups are told of before they are sorted
  rw [hnotices, hgroups]
  exact (List.mergeSort_perm _ _).symm.flatMap_right _

/-! ### Nothing is lost -/

/-- The resources are those of the routes, and the notices tell which routes are dropped. -/
structure IsGrouping (g : Grouping) (routes : List Route) (resources : List Resource)
    (notices : List Notice) : Prop where
  /-- No key occurs twice. -/
  keys : (resources.map (·.key)).Nodup
  /-- Resources are listed by name, and then by key. -/
  ordered : resources.Pairwise fun a b =>
    a.name < b.name ∨ a.name = b.name ∧ a.key.words < b.key.words
  /-- A route belongs to the resource with its key, and to no other. -/
  placed : ∀ q ∈ routes, ∃ r ∈ resources, r.key = ResourceKey.ofRoute g q ∧
    ∀ r' ∈ resources, q ∈ r'.routes ↔ r' = r
  /-- The members of a resource are in the order of the routes. -/
  members : ∀ r ∈ resources, r.routes ≠ [] ∧
    r.routes = routes.filter fun q => ResourceKey.ofRoute g q == r.key
  /-- The actions of a resource are different and in order. -/
  actions : ∀ r ∈ resources, (r.actions.map (·.name)).Nodup ∧
    (∀ a ∈ r.actions, a.name ∈ Action.order) ∧
    r.actions.Pairwise fun a b => Action.rank a.name < Action.rank b.name
  /-- The first member with an action stands for it. -/
  first : ∀ r ∈ resources, ∀ a ∈ r.actions,
    (r.routes.find? fun q => Action.ofRoute q == a.name) = some a.route ∧
      a.params = a.route.parameters
  /-- A member stands for an action, or it repeats the action of a member that does. -/
  conserved : ∀ r ∈ resources,
    r.routes.Perm (r.actions.map (·.route) ++ (Extract.repeats Action.ofRoute r.routes).map (·.1)) ∧
    ∀ e ∈ Extract.repeats Action.ofRoute r.routes,
      ∃ a ∈ r.actions, a.name = Action.ofRoute e.1 ∧ a.route = e.2
  /-- There is one warning for each member that repeats an action, and nothing else is told. -/
  warned : notices.Perm (resources.flatMap fun r =>
      (Extract.repeats Action.ofRoute r.routes).map (dropWarning r.key)) ∧
    ∀ n ∈ notices, n.level = .warning

/-- **Grouping loses no route silently**: each route is a member of the one resource with its key, and
there it stands for its action or a user is warned that it is dropped for the route that does. -/
theorem isGrouping_ofRoutes {ε : Type} (g : Grouping) (routes : List Route) :
    ∃ resources, (ofRoutes g routes : Traced ε (List Resource)).outcome = .ok resources ∧
      IsGrouping g routes resources (ofRoutes g routes : Traced ε (List Resource)).notices := by
  refine ⟨listed g routes, outcome_ofRoutes g routes, ?_⟩
  constructor
  case keys => exact nodup_map_key_listed g routes
  case ordered => exact pairwise_lt_listed g routes
  case placed => exact fun q => exists_own_resource
  case members =>
    intro r hr
    obtain ⟨q, hq, hkey, hroutes, -⟩ := exists_of_mem_listed hr
    exact ⟨List.ne_nil_of_mem (hroutes ▸ mem_membersOf.2 ⟨hq, hkey.symm⟩), hroutes⟩
  case actions =>
    intro r hr
    rw [actions_eq_actionsOf hr]
    exact ⟨nodup_map_name_actionsOf _, fun a => name_mem_order, pairwise_rank_actionsOf _⟩
  case first =>
    intro r hr a ha
    rw [actions_eq_actionsOf hr] at ha
    refine ⟨find?_of_mem_actionsOf ha, ?_⟩
    obtain ⟨q, -, rfl⟩ := mem_actionsOf.1 ha
    rfl
  case conserved =>
    intro r hr
    rw [actions_eq_actionsOf hr]
    refine ⟨?_, fun e he => ?_⟩
    · -- actions are the first members, though listed in another order
      exact (Extract.perm_firsts_append_repeats _ _).trans
        ((map_route_actionsOf_perm r.routes).symm.append_right _)
    · obtain ⟨hkey, hfirst⟩ := Extract.of_mem_repeats he
      exact ⟨actionOf e.2, mem_actionsOf.2 ⟨e.2, hfirst, rfl⟩, hkey, rfl⟩
  case warned =>
    -- each notice is the warning of a member that repeats an action
    refine ⟨notices_ofRoutes g routes, fun n hn => ?_⟩
    obtain ⟨r, -, hn⟩ := List.mem_flatMap.1 ((notices_ofRoutes g routes).mem_iff.1 hn)
    obtain ⟨e, -, rfl⟩ := List.mem_map.1 hn
    rfl

end RouteHelpers.Resource
