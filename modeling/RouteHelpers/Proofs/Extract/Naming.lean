import RouteHelpers.Proofs.Extract.Grouping
import RouteHelpers.Proofs.Text.Cutting

/-!
The names that telling routes apart gives them.

`settledHelper` says for each route on its own what its helper becomes, from the routes that share its
name: nothing changes for a route whose name is its own; the word of its action is added if that alone
makes the name its own among them; and otherwise the word of its scope is put in front as well. Telling
the routes apart group by group comes to renaming each route so and regrouping the list
(`disambiguate_eq_map`).

Of the two names that a helper gives, neither is empty and they are never the same
(`pathName_ne_urlName`): they end in different words, whatever the case.
-/

namespace RouteHelpers

/-! ### Camel case -/

theorem Text.joinWith_empty_concat (xs : List String) (x : String) :
    Text.joinWith "" (xs ++ [x]) = Text.joinWith "" xs ++ x := by
  induction xs with
  | nil => simp [Text.joinWith]
  | cons y ys ih =>
    cases ys with
    | nil => simp [Text.joinWith]
    | cons z zs =>
      rw [List.cons_append] at ih
      rw [List.cons_append, List.cons_append, Text.joinWith, ih, Text.joinWith]
      simp [String.append_assoc]

/-- The last word of a name is capitalized on its own. -/
theorem camelCased_append_word (name word : String) (h : '_' ∉ word.toList) :
    camelCased (name ++ ("_" ++ word)) = camelCased name ++ Text.capitalize word := by
  have hsplit : Text.split '_' (name ++ ("_" ++ word)) = Text.split '_' name ++ [word] := by
    have hlist := Text.splitList_append_sep '_' name.toList word.toList
    rw [Text.splitList_of_not_mem h] at hlist
    simp [Text.split, hlist]
  rw [camelCased, hsplit, camelCased]
  rcases h : Text.split '_' name with - | ⟨first, words⟩
  · exact absurd (List.map_eq_nil_iff.1 h) (Text.splitList_ne_nil _ _)
  · simp [Text.joinWith_empty_concat, String.append_assoc]

namespace Naming

theorem camelCased_append_path (helper : String) :
    camelCased (helper ++ "_path") = camelCased helper ++ "Path" :=
  camelCased_append_word helper "path" (by decide)

theorem camelCased_append_url (helper : String) :
    camelCased (helper ++ "_url") = camelCased helper ++ "Url" :=
  camelCased_append_word helper "url" (by decide)

/-- A name that is not compact ends like the word for paths. -/
theorem endsWith_pathName {n : Naming} (h : n.compact = false) (helper : String) :
    Text.endsWith "ath" (n.pathName helper) = true := by
  rw [Text.endsWith, List.isSuffixOf_iff_suffix, pathName, h, cased]
  cases n.camelCase with
  | true => exact ⟨(camelCased helper).toList ++ ['P'], by simp [camelCased_append_path]⟩
  | false => exact ⟨helper.toList ++ ['_', 'p'], by simp⟩

/-- A URL name ends like the word for URLs. -/
theorem endsWith_urlName (n : Naming) (helper : String) :
    Text.endsWith "rl" (n.urlName helper) = true := by
  rw [Text.endsWith, List.isSuffixOf_iff_suffix, urlName, cased]
  cases n.camelCase with
  | true => exact ⟨(camelCased helper).toList ++ ['U'], by simp [camelCased_append_url]⟩
  | false => exact ⟨helper.toList ++ ['_', 'u'], by simp⟩

/-- A helper's path name and its URL name differ. -/
theorem pathName_ne_urlName (n : Naming) (helper : String) :
    n.pathName helper ≠ n.urlName helper := by
  intro e
  have hlist := congrArg String.toList e
  rcases n with ⟨camelCase, compact⟩
  cases camelCase <;> cases compact <;>
    simp [pathName, urlName, cased, camelCased_append_path, camelCased_append_url] at hlist

/-- No helper has an empty URL name. -/
theorem urlName_ne_empty (n : Naming) (helper : String) : n.urlName helper ≠ "" := by
  intro e
  have hends := n.endsWith_urlName helper
  rw [e] at hends
  exact absurd hends (by decide)

end Naming

/-! ### Words of actions -/

namespace Action

theorem ofName?_mem_order {name action : String} (h : ofName? name = some action) :
    action ∈ order := by
  unfold ofName? at h
  split at h
  next p hp =>
    obtain rfl := Option.some.inj h
    exact (by decide : ∀ p ∈ namedStarts, p.2 ∈ order) p (List.mem_of_find?_eq_some hp)
  next =>
    exact (by decide : ∀ word ∈ namedEndings, word ∈ order) action (List.mem_of_find?_eq_some h)

theorem ofPath?_mem_order {verb path action : String} (h : ofPath? verb path = some action) :
    action ∈ order := by
  simp only [ofPath?] at h
  repeat' split at h
  all_goals cases h <;> decide

theorem ofVerb?_mem_order {verb action : String} (h : ofVerb? verb = some action) :
    action ∈ order := by
  unfold ofVerb? at h
  split at h <;> cases h <;> decide

/-- An inferred action is one of those that a resource lists. -/
theorem infer_mem_order (name verb path : String) : infer name verb path ∈ order := by
  simp only [infer]
  split
  next action h => exact ofName?_mem_order h
  next =>
    split
    next action h => exact ofPath?_mem_order h
    next =>
      split
      next action h => exact ofVerb?_mem_order h
      next => split <;> decide

/-- Each of these is a word of its own. -/
theorem wordToken_of_mem_order {action : String} (h : action ∈ order) :
    wordToken action = action ∧ action ≠ "" :=
  (by decide : ∀ a ∈ order, wordToken a = a ∧ a ≠ "") action h

/-- The word of an action: what of the record's action fits into a name, or the inferred action if that
is nothing. -/
theorem token_eq (r : Route) :
    token r = if wordToken (r.action.getD "") = "" then ofRoute r else wordToken (r.action.getD "") := by
  obtain ⟨hword, hne⟩ := wordToken_of_mem_order (infer_mem_order r.helperName (Text.upper r.verb) r.path)
  by_cases h : r.action.getD "" = ""
  · have hempty : wordToken "" = "" := by decide
    simp [token, h, ofRoute, hword, hempty]
  · simp [token, h]

end Action

namespace Extract

/-! ### Telling routes apart, one by one -/

/-- The helper of a route with its action added: what of the record's action fits into a name, or the
inferred action if that is nothing. -/
def helperWithAction (r : Route) : String :=
  let word := wordToken (r.action.getD "")
  r.helper ++ "_" ++ (if word = "" then Action.ofRoute r else word)

/-- What the helper of a route becomes among several routes: it stays if no other route has the name,
the action is added if the name is then unique among those that shared it, and otherwise the scope is
put in front as well. -/
def settledHelper (n : Naming) (routes : List Route) (r : Route) : String :=
  let sharing := routes.filter fun q => q.name == r.name
  if sharing.length = 1 then r.helper
  else if (sharing.countP fun q =>
      n.pathName (helperWithAction q) == n.pathName (helperWithAction r)) = 1 then
    helperWithAction r
  else scopeToken r.path ++ "_" ++ helperWithAction r

theorem settledHelper_cases (n : Naming) (routes : List Route) (r : Route) :
    settledHelper n routes r = r.helper ∨ settledHelper n routes r = helperWithAction r ∨
      settledHelper n routes r = scopeToken r.path ++ "_" ++ helperWithAction r := by
  simp only [settledHelper]
  split_ifs
  · exact .inl rfl
  · exact .inr (.inl rfl)
  · exact .inr (.inr rfl)

/-- A route with its settled helper, and the names made anew from it. -/
def settle (n : Naming) (routes : List Route) (r : Route) : Route :=
  r.rename n (settledHelper n routes r)

theorem withAction_eq (n : Naming) (r : Route) :
    withAction n r = r.rename n (helperWithAction r) := by
  rw [withAction, Action.token_eq, helperWithAction]

/-- A route that has its names from its helper keeps them if it keeps the helper. -/
def IsNamed (n : Naming) (r : Route) : Prop :=
  r.rename n r.helper = r

theorem isNamed_ofRecord (n : Naming) (r : Record) : IsNamed n (Route.ofRecord n r) := rfl

theorem isNamed_settle (n : Naming) (routes : List Route) (r : Route) :
    IsNamed n (settle n routes r) := rfl

theorem IsNamed.names {n : Naming} {r : Route} (h : IsNamed n r) :
    r.name = n.pathName r.helper ∧ r.urlName = n.urlName r.helper :=
  ⟨congrArg Route.name h.symm, congrArg Route.urlName h.symm⟩

/-- The members of a group share their name with the group. -/
theorem settle_of_mem {n : Naming} {routes group : List Route} {x r : Route}
    (hgroup : group = routes.filter fun q => q.name == x.name) (hr : r ∈ group) :
    settle n routes r = r.rename n (
      if group.length = 1 then r.helper
      else if (group.countP fun q =>
          n.pathName (helperWithAction q) == n.pathName (helperWithAction r)) = 1 then
        helperWithAction r
      else scopeToken r.path ++ "_" ++ helperWithAction r) := by
  have hname : r.name = x.name := by
    rw [hgroup] at hr
    exact eq_of_beq (List.mem_filter.1 hr).2
  rw [settle, settledHelper, hname, ← hgroup]

/-- Among routes with their actions added, those of one name are counted by their helpers. -/
theorem countP_withAction (n : Naming) (group : List Route) (r : Route) :
    ((group.map (withAction n)).countP fun q => q.name == (withAction n r).name)
      = group.countP fun q =>
          n.pathName (helperWithAction q) == n.pathName (helperWithAction r) := by
  rw [List.countP_map]
  refine List.countP_congr fun q _ => ?_
  rw [Function.comp_apply, withAction_eq, withAction_eq]
  rfl

/-- Several routes that share a name are each renamed as they would be on their own. -/
theorem tellApart_eq_map {n : Naming} {routes group : List Route} {x : Route}
    (hgroup : group = routes.filter fun q => q.name == x.name) (hlength : group.length ≠ 1) :
    tellApart n group = group.map (settle n routes) := by
  rw [tellApart, List.map_map]
  refine List.map_congr_left fun r hr => ?_
  rw [settle_of_mem hgroup hr, if_neg hlength, Function.comp_apply, countP_withAction]
  -- the route itself is counted, so the count is one or more
  have hpos : 0 < group.countP fun q =>
      n.pathName (helperWithAction q) == n.pathName (helperWithAction r) :=
    List.countP_pos_iff.2 ⟨r, hr, beq_self_eq_true _⟩
  split
  next h =>
    rw [if_neg (by omega), withScope, withAction_eq]
    rfl
  next h => rw [if_pos (by omega), withAction_eq]

/-- Settling a group renames each member as it would be on its own. -/
theorem settleGroup_eq_map {n : Naming} {routes group : List Route} {x : Route}
    (hgroup : group = routes.filter fun q => q.name == x.name)
    (hnamed : ∀ r ∈ routes, IsNamed n r) :
    settleGroup n group = group.map (settle n routes) := by
  unfold settleGroup
  split
  next r =>
    have hr : r ∈ routes := by
      have : r ∈ routes.filter fun q => q.name == x.name := by
        rw [← hgroup]
        exact List.mem_singleton_self r
      exact List.mem_of_mem_filter this
    rw [List.map_singleton, settle_of_mem hgroup (List.mem_singleton_self r),
      if_pos List.length_singleton, hnamed r hr]
  next hne =>
    refine tellApart_eq_map hgroup fun h => ?_
    obtain ⟨r, hr⟩ := List.length_eq_one_iff.1 h
    exact hne r hr

/-- **Telling routes apart is renaming each** by what it shares its name with, and regrouping. -/
theorem disambiguate_eq_map {n : Naming} {routes : List Route}
    (hnamed : ∀ r ∈ routes, IsNamed n r) :
    disambiguate n routes = (regrouped (·.name) routes).map (settle n routes) := by
  refine flatMap_groupBy _ _ fun group hgroup => ?_
  obtain ⟨x, -, rfl⟩ := mem_groupBy hgroup
  exact settleGroup_eq_map rfl hnamed

end Extract
end RouteHelpers
