import RouteHelpers.Proofs.RouteFile.Claiming
import RouteHelpers.Proofs.RouteFile.Joining
import RouteHelpers.Proofs.RouteFile.NameSpace
import RouteHelpers.Proofs.RouteFile.Naming

/-!
Resources inside resources.

A resource without options has eight routes, and their paths and names can be written down from its own
name and the names of the resources around it:

    /posts/:post_id/comments/:id/edit       edit_post_comment

`standardRoutes` is that table for one resource, and `nestedRoutes` the tables of several, each inside
the one before. Reading a routes file that holds nothing else gives the records of the tables in their
order, each with the name that the table gives it, unless an earlier record has that name
(`readingOf_nested`).

A reading enters the routes of a table one after another (`Step.Enters`), and what is inside a resource is
read in a scope that all that matters about it can be told from the names outside (`IsInside`). The
induction is on the names, from the outside in.
-/

namespace RouteHelpers.RouteFile

open Inflection (singularize)

/-! ### The tables -/

/-- What stands in front of the path of a resource: the resources around it and one member of each. -/
def outerPath (outer : List String) : String :=
  String.join (outer.map fun m => "/" ++ m ++ "/:" ++ singularize m ++ "_id")

/-- The names of the resources around a resource in a name, and the last part of the name. -/
def nestedName (outer : List String) (last : String) : String :=
  Text.joinWith "_" (outer.map singularize ++ [last])

/-- What the routes of all members are called after: a name without a plural is told apart from that of
one member. -/
def collectionWord (n : String) : String :=
  if singularize n = n then n ++ "_index" else n

/-- The record of a route with a path, an action and a name. -/
def tableRoute (verb path action name : String) : Record :=
  ⟨verb, path ++ "(.:format)", some name, some action, false, []⟩

/-- The routes of a resource inside others. -/
def standardRoutes (outer : List String) (n : String) : List Record :=
  let base := outerPath outer ++ "/" ++ n
  let collection := nestedName outer (collectionWord n)
  let member := nestedName outer (singularize n)
  [tableRoute "GET" base "index" collection,
    tableRoute "POST" base "create" collection,
    tableRoute "GET" (base ++ "/new") "new" ("new_" ++ member),
    tableRoute "GET" (base ++ "/:id/edit") "edit" ("edit_" ++ member),
    tableRoute "GET" (base ++ "/:id") "show" member,
    tableRoute "PATCH" (base ++ "/:id") "update" member,
    tableRoute "PUT" (base ++ "/:id") "update" member,
    tableRoute "DELETE" (base ++ "/:id") "destroy" member]

/-- The routes of several resources, each inside the one before and all of them inside others. -/
def nestedRoutes (outer : List String) : List String → List Record
  | [] => []
  | n :: inner => standardRoutes outer n ++ nestedRoutes (outer ++ [n]) inner

/-- There are eight routes on each level. -/
theorem length_nestedRoutes (outer ns : List String) :
    (nestedRoutes outer ns).length = 8 * ns.length := by
  induction ns generalizing outer with
  | nil => rfl
  | cons n inner ih =>
    rw [nestedRoutes, List.length_append, ih, List.length_cons]
    show 8 + 8 * inner.length = 8 * (inner.length + 1)
    omega

/-! ### The statements -/

/-- A node is the statement `resources :n`, with a block or without one. -/
inductive IsResources (n : String) (body : List Node) : Node → Prop
  | intro (place namePlace : Nat) (text : String) (hasBlock : Bool) : IsResources n body
      (.call place text "resources" [.form namePlace .symbol (":" ++ n) []] hasBlock body)

/-- Statements are resources, each the only statement in the block of the one before. -/
inductive AreNested : List String → List Node → Prop
  | nil : AreNested [] []
  | cons {n : String} {inner : List String} {node : Node} {body : List Node} :
      IsResources n body node → AreNested inner body → AreNested (n :: inner) [node]

/-- A word that names the members of a resource: there is a word for one of them. -/
structure IsResourceName (n : String) : Prop where
  nonempty : n ≠ ""
  isWord : IsWord n
  singular : singularize n ≠ ""

instance (n : String) : Decidable (IsResourceName n) :=
  decidable_of_iff (n ≠ "" ∧ IsWord n ∧ singularize n ≠ "")
    ⟨fun ⟨h₁, h₂, h₃⟩ => ⟨h₁, h₂, h₃⟩, fun ⟨h₁, h₂, h₃⟩ => ⟨h₁, h₂, h₃⟩⟩

/-! ### Steps that enter routes -/

/-- A step enters some routes, in their order, and does nothing else. -/
def Step.Enters (f : Step) (ds : List Declaration) : Prop :=
  ∀ st, (f st).outcome = .ok (ds.foldl State.add st)

namespace Step

variable {f g : Step} {ds es : List Declaration}

theorem enters_skip : Enters skip [] := fun _ => rfl

theorem enters_declare (d : Declaration) : Enters (declare d) [d] := fun _ => rfl

theorem Enters.followedBy (hf : f.Enters ds) (hg : g.Enters es) :
    (f.followedBy g).Enters (ds ++ es) := by
  intro st
  rw [Step.followedBy, Traced.outcome_bind_ok (hf st), hg, List.foldl_append]

theorem enters_forEach {α : Type} {f : α → Step} {ds : α → List Declaration}
    (h : ∀ a, (f a).Enters (ds a)) (xs : List α) : (forEach f xs).Enters (xs.flatMap ds) := by
  induction xs with
  | nil => exact enters_skip
  | cons x xs ih => exact (h x).followedBy ih

end Step

/-- The routes of the actions of a resource. -/
def actionRoutes (place : StandardAction → String × String) (inner : Scope) (x : StandardAction) :
    List Declaration :=
  x.verbs.map fun verb => ⟨verb, (place x).1, some (place x).2, some x.name, inner.defaults⟩

/-- A resource without options enters the routes of all its actions, and goes on in its block. -/
theorem enters_resourceSteps {u : Surroundings} (hu : u.enter = declare) (name : Option String)
    (place : StandardAction → String × String) (actions : List StandardAction) {inner : Scope}
    {ds : List Declaration} (hblock : (u.block inner).Enters ds) :
    (resourceSteps u ⟨name, [], []⟩ place actions inner).Enters
      (actions.flatMap (actionRoutes place inner) ++ ds) := by
  have henter (x : StandardAction) :
      (enterAll u x.verbs (place x).1 (some (place x).2) (some x.name) inner).Enters
        (actionRoutes place inner x) := by
    rw [enterAll, hu, actionRoutes, List.map_eq_flatMap]
    exact Step.enters_forEach (fun verb => Step.enters_declare _) _
  have hreplay : (replay u [] inner).Enters [] := Step.enters_skip
  exact (Step.enters_forEach henter actions).followedBy (hreplay.followedBy hblock)

/-! ### Paths and names -/

/-- A path has no slash at its end. -/
structure HasPlainEnd (path : String) : Prop where
  ending : ∃ c, path.toList.getLast? = some c ∧ c ≠ '/'

theorem HasPlainEnd.append {path : String} (h : HasPlainEnd path) (before : String) :
    HasPlainEnd (before ++ path) := by
  obtain ⟨c, hlast, hc⟩ := h.ending
  exact ⟨c, by rw [String.toList_append, List.getLast?_append, hlast, Option.some_or], hc⟩

theorem HasPlainEnd.dropEndSlashes_eq {path : String} (h : HasPlainEnd path) :
    dropEndSlashes path = path := by
  obtain ⟨c, hlast, hc⟩ := h.ending
  exact dropEndSlashes_of_getLast? hlast hc

/-- A route that asks for a name gets the record of the table under this name. -/
theorem record_eq_tableRoute {path : String} (h : HasPlainEnd path) (verb action name : String) :
    (Declaration.mk verb path (some name) (some action) []).record (some name)
      = tableRoute verb path action name := by
  have hslash : path ≠ "/" := by
    rintro rfl
    obtain ⟨c, hlast, hc⟩ := h.ending
    exact hc (Option.some.inj hlast).symm
  simp only [Declaration.record, tableRoute, beq_eq_false_iff_ne.2 hslash, Bool.false_eq_true,
    if_false, h.dropEndSlashes_eq]
  rfl

theorem joinNames_of_forall {parts : List String} (h : ∀ w ∈ parts, w ≠ "") :
    joinNames parts = Text.joinWith "_" parts := by
  rw [joinNames, List.filter_eq_self.2 fun w hw => by simpa using h w hw]

namespace IsResourceName

variable {n : String}

theorem slash_not_mem (h : IsResourceName n) : '/' ∉ n.toList :=
  fun hmem => absurd (h.isWord _ hmem) (by decide)

theorem hasPlainEnd (h : IsResourceName n) : HasPlainEnd n := by
  have hnil : n.toList ≠ [] := fun hnil => h.nonempty (String.toList_eq_nil_iff.1 hnil)
  refine ⟨_, List.getLast?_eq_some_getLast hnil, fun hlast => h.slash_not_mem ?_⟩
  exact hlast ▸ List.getLast_mem hnil

theorem strip_eq (h : IsResourceName n) : Text.strip (· == '/') n = n := by
  have hnil : n.toList ≠ [] := fun hnil => h.nonempty (String.toList_eq_nil_iff.1 hnil)
  have hother {c : Char} (hc : c ∈ n.toList) : (c == '/') = false :=
    beq_eq_false_iff_ne.2 fun heq => h.slash_not_mem (heq ▸ hc)
  exact Text.strip_eq_self (List.head?_eq_some_head hnil) (hother (List.head_mem hnil))
    (List.getLast?_eq_some_getLast hnil) (hother (List.getLast_mem hnil))

end IsResourceName

theorem outerPath_concat (outer : List String) (n : String) :
    outerPath (outer ++ [n]) = outerPath outer ++ "/" ++ n ++ "/:" ++ singularize n ++ "_id" := by
  simp [outerPath, String.append_assoc]

theorem dropEndSlashes_outerPath (outer : List String) :
    dropEndSlashes (outerPath outer) = outerPath outer := by
  rcases List.eq_nil_or_concat outer with rfl | ⟨outer, n, rfl⟩
  · rfl
  · rw [List.concat_eq_append, outerPath_concat]
    have hend : HasPlainEnd "_id" := ⟨'d', by decide⟩
    exact (hend.append _).dropEndSlashes_eq

theorem joinPath_outerPath {n : String} (h : IsResourceName n) (outer : List String) :
    joinPath (outerPath outer) n = outerPath outer ++ "/" ++ n := by
  have hslash : n ≠ "/" := fun heq => h.slash_not_mem (heq ▸ by decide)
  rw [joinPath_of_ne h.nonempty hslash, dropEndSlashes_outerPath, h.strip_eq,
    String.append_assoc]

/-! ### Inside resources -/

/-- A scope is inside the resources of given names, and a resource in it has nothing else in front. -/
structure Scope.IsInside (s : Scope) (outer : List String) : Prop where
  nesting : s.nesting = (outer.map singularize, outerPath outer)
  defaults : s.defaults = []

/-- The resource of a name, without options. -/
def plainResource (n : String) : Enclosing :=
  .many ⟨some n, [], []⟩ n

/-- The scope inside the resource of a name. -/
def Scope.inPlainResource (n : String) (s : Scope) : Scope :=
  s.inResource ⟨some n, [], []⟩ n (plainResource n)

section Inside

variable {s : Scope} {outer : List String} {n : String}

theorem inPlainResource_eq (h : s.IsInside outer) (hn : IsResourceName n) :
    s.inPlainResource n
      = { path := outerPath outer ++ "/" ++ n, names := outer.map singularize,
          singular := some (singularize n), plural := some n } := by
  have hpath : (Arguments.mk (some n) [] []).textOr "path" n = n := rfl
  simp only [Scope.inPlainResource, Scope.inResource, Scope.inside, h.nesting, h.defaults, hpath,
    joinPath_outerPath hn]
  rfl

theorem resource_inPlainResource (s : Scope) (hn : IsResourceName n) :
    (s.inPlainResource n).resource = some (plainResource n) := by
  have hsingular : (s.inPlainResource n).singular = some (singularize n) := rfl
  unfold Scope.resource
  split
  next hnone => exact absurd (hsingular.symm.trans hnone) (Option.some_ne_none _)
  next hempty => exact absurd (Option.some.inj (hsingular.symm.trans hempty)) hn.singular
  next hsome =>
    rw [← Option.some.inj (hsingular.symm.trans hsome)]
    rfl

/-- What is declared in a resource has one more resource around it. -/
theorem isInside_inPlainResource (h : s.IsInside outer) (hn : IsResourceName n) :
    (s.inPlainResource n).IsInside (outer ++ [n]) := by
  have hnesting : (s.inPlainResource n).nesting = ((s.inPlainResource n).names ++ [singularize n],
      Scope.nestedPath (s.inPlainResource n).path (plainResource n)) := by
    rw [Scope.nesting, resource_inPlainResource s hn]
    rfl
  rw [inPlainResource_eq h hn] at hnesting ⊢
  refine ⟨hnesting.trans (Prod.ext ?_ ?_), rfl⟩
  · rw [List.map_append, List.map_singleton]
  · rw [outerPath_concat]
    show outerPath outer ++ "/" ++ n ++ "/:" ++ singularize n ++ "_" ++ "id" = _
    simp only [String.append_assoc]
    rfl

/-- The names of resources around a resource leave no gap in a name. -/
theorem joinNames_outer (houter : ∀ m ∈ outer, IsResourceName m) {last : String} (hlast : last ≠ "") :
    joinNames (outer.map singularize ++ [last]) = nestedName outer last := by
  refine joinNames_of_forall (List.forall_mem_append.2 ⟨List.forall_mem_map.2 fun m hm => ?_, ?_⟩)
  · exact (houter m hm).singular
  · exact List.forall_mem_singleton.2 hlast

theorem joinNames_action (houter : ∀ m ∈ outer, IsResourceName m) {action last : String}
    (haction : action ≠ "") (hlast : last ≠ "") :
    joinNames (action :: outer.map singularize ++ [last])
      = action ++ "_" ++ nestedName outer last := by
  have hrest : ∀ w ∈ outer.map singularize ++ [last], w ≠ "" :=
    List.forall_mem_append.2 ⟨List.forall_mem_map.2 fun m hm => (houter m hm).singular,
      List.forall_mem_singleton.2 hlast⟩
  rw [List.cons_append, joinNames_of_forall (List.forall_mem_cons.2 ⟨haction, hrest⟩),
    Text.joinWith_cons _ _ (List.concat_ne_nil _ _)]
  rfl

/-- The path and the name of an action in the table of a resource. -/
def tablePlace (outer : List String) (n : String) : StandardAction → String × String
  | .index | .create => (outerPath outer ++ "/" ++ n, nestedName outer (collectionWord n))
  | .new => (outerPath outer ++ "/" ++ n ++ "/new", "new_" ++ nestedName outer (singularize n))
  | .edit => (outerPath outer ++ "/" ++ n ++ "/:id/edit", "edit_" ++ nestedName outer (singularize n))
  | .view | .update | .destroy =>
    (outerPath outer ++ "/" ++ n ++ "/:id", nestedName outer (singularize n))

theorem hasPlainEnd_tablePlace (hn : IsResourceName n) (x : StandardAction) :
    HasPlainEnd (tablePlace outer n x).1 := by
  cases x with
  | index | create => exact hn.hasPlainEnd.append _
  | new => exact (⟨'w', by decide⟩ : HasPlainEnd "/new").append _
  | edit => exact (⟨'t', by decide⟩ : HasPlainEnd "/:id/edit").append _
  | view | update | destroy => exact (⟨'d', by decide⟩ : HasPlainEnd "/:id").append _

theorem collectionWord_ne_empty (hn : IsResourceName n) : collectionWord n ≠ "" := by
  unfold collectionWord
  split
  · exact fun heq => by simpa using congrArg String.toList heq
  · exact hn.nonempty

/-- The place of an action is that of the table. -/
theorem manyPlace_eq (h : s.IsInside outer) (houter : ∀ m ∈ outer, IsResourceName m)
    (hn : IsResourceName n) (x : StandardAction) :
    manyPlace (plainResource n) (s.inPlainResource n) x = tablePlace outer n x := by
  have hword : (if singularize n == n then n ++ "_index" else n) = collectionWord n := by
    simp [collectionWord]
  have hmember (path : String) : Scope.memberPath path "id" false = path ++ "/:id" :=
    String.append_assoc
  have hedit (path : String) : path ++ "/:id" ++ "/edit" = path ++ "/:id/edit" :=
    String.append_assoc
  rw [inPlainResource_eq h hn]
  cases x with
  | index | create =>
    -- the path is the resource's own, and the name shows whether there is a plural
    refine Prod.ext rfl ?_
    show joinNames (outer.map singularize ++ [if singularize n == n then n ++ "_index" else n]) = _
    rw [hword, joinNames_outer houter (collectionWord_ne_empty hn)]
    rfl
  | new => exact Prod.ext rfl (joinNames_action houter (by decide) hn.singular)
  | edit =>
    refine Prod.ext ?_ (joinNames_action houter (by decide) hn.singular)
    show Scope.memberPath _ "id" false ++ "/edit" = _
    rw [hmember, hedit]
    rfl
  | view | update | destroy => exact Prod.ext (hmember _) (joinNames_outer houter hn.singular)

/-- **The routes of a resource** ask for the records of its table. -/
theorem map_record_actionRoutes (h : s.IsInside outer) (houter : ∀ m ∈ outer, IsResourceName m)
    (hn : IsResourceName n) :
    (StandardAction.ofMany.flatMap (actionRoutes (manyPlace (plainResource n) (s.inPlainResource n))
        (s.inPlainResource n))).map (fun d => d.record d.helper) = standardRoutes outer n := by
  have hdefaults : (s.inPlainResource n).defaults = [] := by
    rw [inPlainResource_eq h hn]
  have hrows (x : StandardAction) :
      (actionRoutes (manyPlace (plainResource n) (s.inPlainResource n)) (s.inPlainResource n) x).map
          (fun d => d.record d.helper)
        = x.verbs.map fun verb =>
          tableRoute verb (tablePlace outer n x).1 x.name (tablePlace outer n x).2 := by
    rw [actionRoutes, List.map_map, manyPlace_eq h houter hn, hdefaults]
    exact List.map_congr_left fun verb _ => record_eq_tableRoute (hasPlainEnd_tablePlace hn x) _ _ _
  rw [List.map_flatMap]
  simp only [hrows]
  rfl

end Inside

/-! ### Names that are taken -/

namespace Settled

variable {st noted : State}

/-- Routes that are entered one after another leave each name with the first that asks for it. -/
theorem foldl (h : Settled st noted) (ds : List Declaration) :
    Settled (ds.foldl State.add st)
      { noted with records := noted.records ++ ds.map fun d => d.record d.helper } := by
  induction ds generalizing st noted with
  | nil => simpa using h
  | cons d ds ih => simpa using ih (h.add d)

/-- An earlier record has a name if one asks for it: the first that does. -/
theorem mem_take_helpers_iff (hs : Settled st noted) {h : String} (hne : h ≠ "") (i : Nat) :
    some h ∈ st.helpers.take i ↔ some h ∈ noted.helpers.take i := by
  constructor
  · intro hmem
    obtain ⟨j, hj⟩ := List.mem_iff_getElem?.1 hmem
    by_cases hlt : j < i
    · -- a record that has the name asks for it
      rw [List.getElem?_take_of_lt hlt] at hj
      refine List.mem_iff_getElem?.2 ⟨j, ?_⟩
      rw [List.getElem?_take_of_lt hlt]
      exact ((hs.helpers_eq_some_iff hne j).1 hj).1
    · rw [List.getElem?_take_eq_none (by omega)] at hj
      cases hj
  · intro hmem
    -- the first record that asks for the name is among those in front, and it gets the name
    have hasked : some h ∈ noted.helpers := List.mem_of_mem_take hmem
    have hlt : noted.helpers.idxOf (some h) < i := (List.mem_take_iff_idxOf_lt hasked).1 hmem
    have hfirst : some h ∉ noted.helpers.take (noted.helpers.idxOf (some h)) := fun hin =>
      Nat.lt_irrefl _ ((List.mem_take_iff_idxOf_lt hasked).1 hin)
    have hown := (hs.helpers_eq_some_iff hne _).2 ⟨List.getElem?_idxOf hasked, hfirst⟩
    rw [← List.getElem?_take_of_lt hlt] at hown
    exact List.mem_of_getElem? hown

/-- **A record** is the one that is asked for, with the name unless an earlier record has it. -/
theorem getElem?_records (hs : Settled st noted) {i : Nat} {r : Record} {h : String} (hne : h ≠ "")
    (hi : noted.records[i]? = some r) (hr : r.helper = some h) :
    st.records[i]? = some
      { r with helper := if r.helper ∈ st.helpers.take i then none else r.helper } := by
  have hunnamed : (st.records.map Record.unnamed)[i]? = some r.unnamed := by
    rw [hs.unnamed, List.getElem?_map, hi, Option.map_some]
  obtain ⟨own, hown, hsame⟩ : ∃ own, st.records[i]? = some own ∧ own.unnamed = r.unnamed := by
    simpa using hunnamed
  have hhelper : own.helper = if r.helper ∈ st.helpers.take i then none else r.helper := by
    have hnamed : noted.helpers[i]? = some (some h) := by
      rw [State.helpers, List.getElem?_map, hi, Option.map_some, hr]
    have hsettled := hs.helpers i _ hnamed
    rw [State.helpers, List.getElem?_map, hown, Option.map_some, Option.some_inj] at hsettled
    rw [hsettled, hr]
    simp only [hs.mem_take_helpers_iff hne]
    by_cases htaken : some h ∈ noted.helpers.take i
    · rw [if_pos htaken]
      exact Option.filter_eq_none_iff.2 fun _ heq => by simp_all
    · rw [if_neg htaken]
      exact (ownName_eq_some_iff hne).2 ⟨rfl, htaken⟩
  -- a record is told by its helper and by the rest of it
  have hrest : own = { own.unnamed with helper := own.helper } := rfl
  rw [hsame] at hrest
  rw [hown, ← hhelper, hrest]
  rfl

end Settled

/-! ### Readings -/

section Readings

variable {nodes : List Node → Scope → Step} {drawn : String → Scope → Step}

/-- Whatever its block is gone through with, a statement is the resource of its name. -/
theorem nodeStep_resources {n : String} {body : List Node} {node : Node} (hn : IsResourceName n)
    (hnode : IsResources n body node) (s : Scope) :
    nodeStep declare nodes drawn node s
      = resourceSteps ⟨declare, fun inner => nodesStep declare nodes drawn body inner, nodes, drawn⟩
          ⟨some n, [], []⟩ (manyPlace (plainResource n) (s.inPlainResource n)) StandardAction.ofMany
          (s.inPlainResource n) := by
  obtain ⟨place, namePlace, text, hasBlock⟩ := hnode
  have hmethod : verbMethods.contains "resources" = false := by decide
  rw [nodeStep, callStep, hmethod, if_neg Bool.false_ne_true]
  show manyResource _ _ s = _
  rw [manyResource, ofNodes_nameSpace hn.nonempty hn.isWord, Step.reading_ok]
  split
  next h => cases h
  next h => exact absurd (Option.some.inj h) hn.nonempty
  next h =>
    obtain rfl := Option.some.inj h
    rfl

/-- **Resources inside resources** enter the routes of their tables, from the outside in. -/
theorem exists_enters_nested {ns : List String} {statements : List Node}
    (hnested : AreNested ns statements) (hns : ∀ n ∈ ns, IsResourceName n) {s : Scope}
    {outer : List String} (h : s.IsInside outer) (houter : ∀ m ∈ outer, IsResourceName m) :
    ∃ ds, (nodesStep declare nodes drawn statements s).Enters ds ∧
      ds.map (fun d => d.record d.helper) = nestedRoutes outer ns := by
  induction hnested generalizing s outer with
  | nil =>
    rw [nodesStep]
    exact ⟨[], Step.enters_skip, rfl⟩
  | @cons n inner node body hnode _ ih =>
    -- the block is read in the scope of the resource, which has one more name around it
    obtain ⟨hn, hinner⟩ := List.forall_mem_cons.1 hns
    obtain ⟨ds, hds, htable⟩ := ih hinner (isInside_inPlainResource h hn)
      (List.forall_mem_append.2 ⟨houter, List.forall_mem_singleton.2 hn⟩)
    rw [nodesStep, nodesStep, nodeStep_resources hn hnode]
    refine ⟨_, (enters_resourceSteps rfl _ _ _ hds).followedBy Step.enters_skip, ?_⟩
    rw [List.append_nil, List.map_append, map_record_actionRoutes h houter hn, htable, nestedRoutes]

theorem exists_enters_walk {ns : List String} {statements : List Node}
    (hnested : AreNested ns statements) (hns : ∀ n ∈ ns, IsResourceName n) (files : Sources)
    (path : String) (depth : Nat) :
    ∃ ds, (walk declare files path (depth + 1) statements {}).Enters ds ∧
      ds.map (fun d => d.record d.helper) = nestedRoutes [] ns := by
  have hstart : Scope.IsInside {} [] := { nesting := rfl, defaults := rfl }
  rw [walk]
  exact exists_enters_nested hnested hns hstart fun m hm => absurd hm List.not_mem_nil

end Readings

theorem nestedName_ne_empty (outer : List String) {last : String} (h : last ≠ "") :
    nestedName outer last ≠ "" := by
  rw [nestedName]
  rcases List.eq_nil_or_concat outer with rfl | ⟨outer, n, rfl⟩
  · exact h
  · rw [Text.joinWith_concat _ (by simp)]
    exact fun heq => by simpa using congrArg String.toList heq

/-- Every route of a table has a name. -/
theorem exists_name_of_mem_nestedRoutes {outer ns : List String} (hns : ∀ n ∈ ns, IsResourceName n)
    {r : Record} (hr : r ∈ nestedRoutes outer ns) : ∃ h, r.helper = some h ∧ h ≠ "" := by
  induction ns generalizing outer with
  | nil => cases hr
  | cons n inner ih =>
    obtain ⟨hn, hinner⟩ := List.forall_mem_cons.1 hns
    rcases List.mem_append.1 hr with hr | hr
    · have hcollection := nestedName_ne_empty outer (collectionWord_ne_empty hn)
      have hmember := nestedName_ne_empty outer hn.singular
      have hbehind (start : String) : start ++ nestedName outer (singularize n) ≠ "" :=
        fun heq => hmember (String.append_eq_empty_iff.1 heq).2
      -- four routes of the collection and of pages, and four of a member under its own name
      simp only [standardRoutes, List.mem_cons, List.not_mem_nil, or_false] at hr
      rcases hr with rfl | rfl | rfl | rfl | hr
      · exact ⟨_, rfl, hcollection⟩
      · exact ⟨_, rfl, hcollection⟩
      · exact ⟨_, rfl, hbehind "new_"⟩
      · exact ⟨_, rfl, hbehind "edit_"⟩
      · rcases hr with rfl | rfl | rfl | rfl <;> exact ⟨_, rfl, hmember⟩
    · exact ih hinner hr

/-- **Resources inside resources have the names that their tables give them**: a routes file that holds
nothing but resources of some names, each the only statement in the block of the one before, is read to
its end and gives eight records for each of them. These are the records of the tables in their order, and
each has the name that its table gives it, unless an earlier record has that name. -/
theorem readingOf_nested {ns : List String} {statements : List Node}
    (hns : ∀ n ∈ ns, IsResourceName n) (hnested : AreNested ns statements) {files : Sources}
    {path : String} (hfile : files.statements path = .ok statements) :
    ∃ last, (readingOf declare files path {}).outcome = .ok last ∧
      last.records.length = 8 * ns.length ∧
      ∀ (i : Nat) (r : Record), (nestedRoutes [] ns)[i]? = some r → last.records[i]? = some
        { r with helper := if r.helper ∈ last.helpers.take i then none else r.helper } := by
  obtain ⟨ds, hds, htable⟩ := exists_enters_walk hnested hns files path 499
  have hstart : Settled {} {} := ⟨rfl, rfl, by simp [State.helpers], by simp [State.helpers]⟩
  have hsettled := hstart.foldl ds
  rw [htable] at hsettled
  refine ⟨ds.foldl State.add {}, ?_, ?_, fun i r hi => ?_⟩
  · rw [readingOf, hfile]
    show ((walk declare files path 500 statements {}).followedBy _ {}).outcome = _
    rw [Step.followedBy, Traced.outcome_bind_ok (hds {})]
    rfl
  · rw [← State.length_helpers, hsettled.length_eq, State.length_helpers]
    exact length_nestedRoutes [] ns
  · obtain ⟨h, hname, hne⟩ := exists_name_of_mem_nestedRoutes hns (List.mem_of_getElem? hi)
    exact hsettled.getElem?_records hne hi hname

/-- A resource without a plural, and in it one whose name is that of an action. -/
def newsStatements : List Node :=
  [.call 0 "" "resources" [.form 0 .symbol ":news" []] true
    [.call 0 "" "resources" [.form 0 .symbol ":index" []] false []]]

/-- The members of the inner resource are called what the outer resource is called. -/
theorem readingOf_nested_newsStatements :
    let ns := ["news", "index"]
    let files : Sources := ⟨fun _ => false, fun _ => .ok newsStatements⟩
    (∀ n ∈ ns, IsResourceName n) ∧ AreNested ns newsStatements ∧
    ((readingOf declare files "").reached {}).records.map (fun r => (r.path, r.helper)) =
      [("/news(.:format)", some "news_index"), ("/news(.:format)", none),
        ("/news/new(.:format)", some "new_news"), ("/news/:id/edit(.:format)", some "edit_news"),
        ("/news/:id(.:format)", some "news"), ("/news/:id(.:format)", none),
        ("/news/:id(.:format)", none), ("/news/:id(.:format)", none),
        ("/news/:news_id/index(.:format)", some "news_index_index"),
        ("/news/:news_id/index(.:format)", none),
        ("/news/:news_id/index/new(.:format)", some "new_news_index"),
        ("/news/:news_id/index/:id/edit(.:format)", some "edit_news_index"),
        ("/news/:news_id/index/:id(.:format)", none), ("/news/:news_id/index/:id(.:format)", none),
        ("/news/:news_id/index/:id(.:format)", none),
        ("/news/:news_id/index/:id(.:format)", none)] ∧
    ∃ last, (readingOf declare files "" {}).outcome = .ok last ∧
      last.records.length = 8 * ns.length ∧
      ∀ (i : Nat) (r : Record), (nestedRoutes [] ns)[i]? = some r → last.records[i]? = some
        { r with helper := if r.helper ∈ last.helpers.take i then none else r.helper } := by
  intro ns files
  have hns : ∀ n ∈ ns, IsResourceName n := by decide +kernel
  have hnested : AreNested ns newsStatements :=
    .cons (.intro 0 0 "" true) (.cons (.intro 0 0 "" false) .nil)
  exact ⟨hns, hnested, by decide +kernel, readingOf_nested hns hnested rfl⟩

end RouteHelpers.RouteFile
