import RouteHelpers.Proofs.Extract.RouteTable
import RouteHelpers.Resource.Key

/-!
Where a renamed route belongs.

The key of a route is told by its helper, and telling routes apart changes helpers. A key takes one
start and one ending off that name an action, so it often finds what a route was called before; but it
knows nothing of the components that are put in front of a helper where the action is not enough.
`ofHelper_settledRoute` says for each record which way it goes: a route that keeps its helper keeps its
key, and one that is renamed keeps it if and only if the same name remains of both helpers.

What remains is `core` of a helper, and of a renamed helper `coreBefore` its action
(`core_append_action`): the ending that was added is the one that is taken off, while a start is taken
off as before, unless the helper was the very word of one.
-/

namespace RouteHelpers

/-! ### Starts and endings -/

namespace Text

/-- What precedes an ending that was put behind it. -/
theorem beforeEnding?_append (stem ending : String) :
    beforeEnding? ending (stem ++ ending) = some stem := by
  have hends : endsWith ending (stem ++ ending) = true := by
    rw [endsWith, List.isSuffixOf_iff_suffix, String.toList_append]
    exact List.suffix_append _ _
  rw [beforeEnding?, if_pos hends, String.length_append, Nat.add_sub_cancel, String.toList_append,
    ← String.length_toList, List.take_left, String.ofList_toList]

/-- A word and a separator start a text if the text is cut behind the word. -/
theorem afterStart?_eq_cut {word : String} (h : '_' ∉ word.toList) (s : String) :
    afterStart? (word ++ "_") s = if (cut '_' s).1 = word then (cut '_' s).2 else none := by
  by_cases hstart : startsWith (word ++ "_") s = true
  · obtain ⟨rest, hrest⟩ := List.isPrefixOf_iff_prefix.1 hstart
    have hcut : cutList '_' s.toList = (word.toList, some rest) := by
      rw [← hrest, String.toList_append]
      simpa using cutList_append h rest
    have hdrop : s.toList.drop (word ++ "_").length = rest := by
      rw [← hrest, ← String.length_toList, List.drop_left]
    rw [afterStart?, if_pos hstart, hdrop, cut, hcut]
    simp
  · rw [afterStart?, if_neg hstart]
    split
    next hword =>
      -- a text that is the word and has a rest would start with both
      rcases hcut : (cutList '_' s.toList) with ⟨before, after⟩
      rw [cut, hcut] at hword
      cases after with
      | none => simp [cut, hcut]
      | some rest =>
        refine absurd ?_ hstart
        rw [startsWith, List.isPrefixOf_iff_prefix, (cutList_eq_some_iff.1 hcut).1, ← hword]
        exact ⟨rest, by simp⟩
    next => rfl

theorem cut_eq_some {s before after : String} (h : cut '_' s = (before, some after)) :
    s = before ++ "_" ++ after ∧ '_' ∉ before.toList := by
  rcases hcut : cutList '_' s.toList with ⟨front, back⟩
  rw [cut, hcut] at h
  cases back with
  | none => simp at h
  | some rest =>
    obtain ⟨hlist, hfront⟩ := cutList_eq_some_iff.1 hcut
    simp only [Option.map_some, Prod.mk.injEq, Option.some.injEq] at h
    obtain ⟨rfl, rfl⟩ := h
    refine ⟨String.toList_injective ?_, by simpa using hfront⟩
    simp [hlist]

theorem not_mem_of_cut_eq_none {s before : String} (h : cut '_' s = (before, none)) :
    '_' ∉ s.toList := by
  intro hmem
  obtain ⟨a, b, hlist, ha⟩ := List.eq_append_cons_of_mem hmem
  rw [cut, hlist, cutList_append ha] at h
  simp at h

theorem eq_of_cut_eq_none {s before : String} (h : cut '_' s = (before, none)) : before = s := by
  rw [cut, cutList_of_not_mem (not_mem_of_cut_eq_none h)] at h
  simpa using (Prod.mk.inj h).1.symm

theorem cut_append {before : String} (h : '_' ∉ before.toList) (after : String) :
    cut '_' (before ++ "_" ++ after) = (before, some after) := by
  rw [cut, String.append_assoc, String.toList_append, String.toList_append]
  simp [cutList_append h]

/-- A text is cut at the first separator that it has, whatever is put behind it. -/
theorem cut_append_sep (s rest : String) :
    cut '_' (s ++ "_" ++ rest) = ((cut '_' s).1, some (match (cut '_' s).2 with
      | some after => after ++ "_" ++ rest
      | none => rest)) := by
  rcases hcut : cut '_' s with ⟨before, after⟩
  cases after with
  | none =>
    obtain rfl := eq_of_cut_eq_none hcut
    exact cut_append (not_mem_of_cut_eq_none hcut) rest
  | some after =>
    obtain ⟨rfl, hbefore⟩ := cut_eq_some hcut
    have hassoc : before ++ "_" ++ after ++ "_" ++ rest
        = before ++ "_" ++ (after ++ "_" ++ rest) := by
      simp only [String.append_assoc]
    rw [hassoc]
    exact cut_append hbefore _

end Text

namespace ResourceKey

/-- An ending that was put behind a text is taken off again, if the text has no other then. -/
theorem dropEnding_append {endings : List String} {ending stem : String} (hmem : ending ∈ endings)
    (hlast : ending.toList.getLast?.any (· ≠ '\n') = true)
    (honly : ∀ e ∈ endings, Text.endsWith e (stem ++ ending) = true → e = ending) :
    dropEnding endings (stem ++ ending) = stem := by
  have hcut : Text.cutFinalNewline (stem ++ ending).toList = ((stem ++ ending).toList, []) := by
    obtain ⟨c, hc, hne⟩ := (Option.any_eq_true _ _).1 hlast
    obtain ⟨init, hinit⟩ := List.getLast?_eq_some_iff.1 hc
    rw [String.toList_append, hinit, ← List.append_assoc]
    exact Text.cutFinalNewline_of_ne (of_decide_eq_true hne) _
  have hfind : endings.findSome? (fun e => Text.beforeEnding? e (stem ++ ending)) = some stem := by
    rcases hfind : endings.findSome? (fun e => Text.beforeEnding? e (stem ++ ending)) with - | found
    · have hnone := List.findSome?_eq_none_iff.1 hfind ending hmem
      rw [Text.beforeEnding?_append] at hnone
      cases hnone
    · obtain ⟨e, he, hfound⟩ := List.exists_of_findSome?_eq_some hfind
      -- the first ending that is found need not be the one that was put there, but it is one the text has
      have hends : Text.endsWith e (stem ++ ending) = true := by
        rw [Text.beforeEnding?, Option.ite_none_right_eq_some] at hfound
        exact hfound.1
      rw [honly e he hends, Text.beforeEnding?_append] at hfound
      exact hfound.symm
  simp only [dropEnding, hcut, String.ofList_toList, hfind, String.append_empty, String.ofList_nil]

/-! ### What remains of a helper -/

/-- The actions that a name starts with. -/
def startActions : List String :=
  ["new", "edit", "create", "update", "delete", "restore"]

/-- The actions of a resource's routes. -/
def resourceActions : List String :=
  ["index", "show", "new", "edit", "create", "update", "delete"]

/-- What remains of a helper without a start and an ending that name an action. -/
def core (helper : String) : String :=
  dropEnding actionEndings (dropStart actionStarts helper)

/-- What remains of a name that an action is put behind. If the name is the word of an action itself,
then the action is what remains. -/
def coreBefore (action name : String) : String :=
  if name ∈ startActions then action else dropStart actionStarts name

/-- The name of a resource, told by what remains of a helper in a scope. -/
def nameIn (scope : List String) (core : String) : String :=
  pluralize (wordOrRoot (dropScope scope (collapseRepeat core)))

theorem dropStart_actionStarts (name : String) :
    dropStart actionStarts name
      = if (Text.cut '_' name).1 ∈ startActions then (Text.cut '_' name).2.getD name else name := by
  have hstarts : actionStarts = startActions.map (· ++ "_") := by decide
  have hbare : ∀ word ∈ startActions, '_' ∉ word.toList := by decide
  have hfind : ∀ words : List String, (∀ word ∈ words, '_' ∉ word.toList) →
      (words.map (· ++ "_")).findSome? (fun start => Text.afterStart? start name)
        = if (Text.cut '_' name).1 ∈ words then (Text.cut '_' name).2 else none := by
    intro words hwords
    induction words with
    | nil => rfl
    | cons word words ih =>
      rw [List.forall_mem_cons] at hwords
      rw [List.map_cons, List.findSome?_cons, Text.afterStart?_eq_cut hwords.1, ih hwords.2]
      by_cases hword : (Text.cut '_' name).1 = word
      · cases (Text.cut '_' name).2 <;> simp [hword]
      · simp [hword]
  rw [dropStart, hstarts, hfind _ hbare]
  split <;> rfl

theorem dropStart_append_action (name action : String) :
    dropStart actionStarts (name ++ "_" ++ action)
      = if name ∈ startActions then action else dropStart actionStarts name ++ "_" ++ action := by
  have hbare : ∀ word ∈ startActions, '_' ∉ word.toList := by decide
  rw [dropStart_actionStarts, dropStart_actionStarts, Text.cut_append_sep]
  rcases hcut : Text.cut '_' name with ⟨before, after⟩
  cases after with
  | none =>
    -- the name is a single word, and the action may become what the start is taken off from
    obtain rfl : before = name := Text.eq_of_cut_eq_none hcut
    split_ifs <;> rfl
  | some after =>
    -- the name has a separator of its own, so it is not the word of an action
    obtain ⟨rfl, -⟩ := Text.cut_eq_some hcut
    have hname : before ++ "_" ++ after ∉ startActions := fun hmem =>
      hbare _ hmem (by simp)
    rw [if_neg hname]
    split_ifs <;> rfl

/-- The last word of a text shows which ending it has. -/
theorem eq_of_endsWith {e stem word : String} (hword : '_' ∉ word.toList)
    (hsep : (Text.cutList '_' e.toList.reverse).2.isSome = true)
    (h : Text.endsWith e (stem ++ "_" ++ word) = true) :
    (Text.cutList '_' e.toList.reverse).1 = word.toList.reverse := by
  rw [Text.endsWith, List.isSuffixOf_iff_suffix] at h
  obtain ⟨front, hfront⟩ := h
  rcases hcut : Text.cutList '_' e.toList.reverse with ⟨last, before⟩
  rw [hcut] at hsep
  obtain ⟨before, rfl⟩ := Option.isSome_iff_exists.1 hsep
  obtain ⟨he, hlast⟩ := Text.cutList_eq_some_iff.1 hcut
  -- both ways to write the text in reverse are cut at its last separator
  have hreverse : last ++ '_' :: (before ++ front.reverse)
      = word.toList.reverse ++ '_' :: stem.toList.reverse := by
    have hlist := congrArg List.reverse hfront
    rw [List.reverse_append, he] at hlist
    simpa using hlist
  have hcuts := congrArg (Text.cutList '_') hreverse
  rw [Text.cutList_append hlast, Text.cutList_append (by simpa using hword)] at hcuts
  exact (Prod.mk.inj hcuts).1

/-- **The action that was put behind a helper is what is taken off**, and not an ending before it. -/
theorem core_append_action {action : String} (h : action ∈ resourceActions) (name : String) :
    core (name ++ "_" ++ action) = coreBefore action name := by
  have hbare : ∀ a ∈ resourceActions, '_' ∉ a.toList ∧ "_" ++ a ∈ actionEndings ∧
      ("_" ++ a).toList.getLast?.any (· ≠ '\n') = true ∧ dropEnding actionEndings a = a := by
    decide
  have hendings : ∀ e ∈ actionEndings, (Text.cutList '_' e.toList.reverse).2.isSome = true ∧
      ∀ a ∈ resourceActions, (Text.cutList '_' e.toList.reverse).1 = a.toList.reverse →
        e = "_" ++ a := by
    decide
  obtain ⟨hword, hmem, hlast, hkept⟩ := hbare action h
  rw [core, dropStart_append_action, coreBefore]
  split_ifs
  · exact hkept
  · rw [String.append_assoc]
    refine dropEnding_append hmem hlast fun e he hends => ?_
    rw [← String.append_assoc] at hends
    exact (hendings e he).2 action h (eq_of_endsWith hword (hendings e he).1 hends)

theorem ofHelper_eq {r : Route} (h : r.helper ≠ "") :
    ofHelper r = ⟨scopeOfPath r.path, nameIn (scopeOfPath r.path) (core r.helper)⟩ := by
  have hname : dropEnding ["_path", "_url"] r.helperName = r.helper := by
    rw [Route.helperName, if_neg (by simpa using h)]
    refine dropEnding_append (by decide) (by decide) fun e he hends => ?_
    have hpath : Text.endsWith e (r.helper ++ "_" ++ "path") = true := by
      rwa [String.append_assoc]
    have hwords : ∀ e ∈ ["_path", "_url"], (Text.cutList '_' e.toList.reverse).2.isSome = true ∧
        ((Text.cutList '_' e.toList.reverse).1 = "path".toList.reverse → e = "_path") := by
      decide
    exact (hwords e he).2 (eq_of_endsWith (by decide) (hwords e he).1 hpath)
  rw [ofHelper, hname]
  rfl

end ResourceKey

namespace Extract

open ResourceKey

variable {s : Settings} {records : List Record} {routes : List Route}

/-- An action of a resource is the word that it contributes to a name. -/
theorem helperWithAction_of_mem {r : Route} {action : String} (haction : r.action = some action)
    (hmem : action ∈ resourceActions) : helperWithAction r = r.helper ++ "_" ++ action := by
  have hword : ∀ a ∈ resourceActions, wordToken a = a ∧ a ≠ "" := by decide
  obtain ⟨hsame, hne⟩ := hword action hmem
  simp [helperWithAction, haction, hsame, hne]

/-- The key of a renamed route is the one it had if the same name remains. -/
theorem ofHelper_rename_iff {n : Naming} {r : Route} {action : String} (name : String)
    (hhelper : r.helper ≠ "") (hmem : action ∈ resourceActions) :
    ofHelper (r.rename n (name ++ "_" ++ action)) = ofHelper r ↔
      nameIn (scopeOfPath r.path) (coreBefore action name)
        = nameIn (scopeOfPath r.path) (core r.helper) := by
  have hne : name ++ "_" ++ action ≠ "" := by
    intro hempty
    have hmem : '_' ∈ (name ++ "_" ++ action).toList := by simp
    rw [hempty] at hmem
    cases hmem
  have hrenamed : (r.rename n (name ++ "_" ++ action)).helper ≠ "" := hne
  rw [ofHelper_eq hhelper, ofHelper_eq hrenamed]
  show ResourceKey.mk _ (nameIn _ (core (name ++ "_" ++ action))) = _ ↔ _
  rw [core_append_action hmem]
  simp [Route.rename]

/-- **When a route stays with its resource.** It does if it keeps its helper. If its action is put
behind a name, which is the helper or the helper behind its scope, then it stays if and only if the same
name of a resource is told by what remains before the action and by what remains of the helper. -/
theorem ofHelper_settledRoute (hok : (ofEntries s (records.map .record)).outcome = .ok routes) :
    routes.Perm ((survivors s records).map (settledRoute s records)) ∧
    ∀ q ∈ survivors s records, ∀ action ∈ resourceActions, q.action = some action →
      let built := Route.ofRecord s.naming q
      let r := settledRoute s records q
      let scope := scopeOfPath q.path
      (r.helper = built.helper ∧ ofHelper r = ofHelper built) ∨
      ∃ name ∈ [built.helper, scopeToken q.path ++ "_" ++ built.helper],
        r.helper = name ++ "_" ++ action ∧
        (ofHelper r = ofHelper built ↔
          nameIn scope (coreBefore action name) = nameIn scope (core built.helper)) := by
  refine ⟨eq_settledRoutes_of_ok hok ▸ settledRoutes_perm_map s records, ?_⟩
  intro q hq action hmem haction built r scope
  have hhelper : built.helper ≠ "" := (mem_survivors.1 hq).2.1.1
  have hrename : r = built.rename s.naming r.helper := rfl
  have hcases : r.helper = built.helper ∨ r.helper = helperWithAction built ∨
      r.helper = scopeToken q.path ++ "_" ++ helperWithAction built := settledHelper_cases _ _ _
  rw [helperWithAction_of_mem haction hmem] at hcases
  rcases hcases with h | h | h
  · left
    rw [hrename, h]
    exact ⟨rfl, rfl⟩
  · -- the action stands behind the helper
    right
    rw [hrename, h]
    exact ⟨built.helper, by simp, rfl, ofHelper_rename_iff _ hhelper hmem⟩
  · -- the action stands behind the helper, and the scope in front of both
    right
    have hassoc : scopeToken q.path ++ "_" ++ (built.helper ++ "_" ++ action)
        = scopeToken q.path ++ "_" ++ built.helper ++ "_" ++ action := by
      simp only [String.append_assoc]
    rw [hrename, h, hassoc]
    exact ⟨scopeToken q.path ++ "_" ++ built.helper, by simp, rfl,
      ofHelper_rename_iff _ hhelper hmem⟩

/-- Two pages of a manual that share a helper. -/
def helpTable : List Record :=
  [⟨"GET", "/help", some "help", some "index", false, []⟩,
   ⟨"GET", "/help/:id", some "help", some "show", false, []⟩]

theorem ofHelper_settledRoute_helpTable :
    ∃ routes, (ofEntries Settings.default (helpTable.map .record)).outcome = .ok routes ∧
      routes.Perm ((survivors Settings.default helpTable).map
        (settledRoute Settings.default helpTable)) ∧
      ∀ q ∈ survivors Settings.default helpTable, ∀ action ∈ resourceActions,
        q.action = some action →
        let built := Route.ofRecord Settings.default.naming q
        let r := settledRoute Settings.default helpTable q
        let scope := scopeOfPath q.path
        (r.helper = built.helper ∧ ofHelper r = ofHelper built) ∨
        ∃ name ∈ [built.helper, scopeToken q.path ++ "_" ++ built.helper],
          r.helper = name ++ "_" ++ action ∧
          (ofHelper r = ofHelper built ↔
            nameIn scope (coreBefore action name) = nameIn scope (core built.helper)) := by
  have hok : (ofEntries Settings.default (helpTable.map .record)).outcome.toOption.isSome = true := by
    decide +kernel
  obtain ⟨routes, h⟩ := Except.exists_eq_ok hok
  exact ⟨routes, h, ofHelper_settledRoute h⟩

example : nameIn [] (coreBefore "index" "help") = nameIn [] (core "help") := by
  decide

/-- A page of the administration and a page of the same helper outside of it. -/
def pageTable : List Record :=
  [⟨"GET", "/admin/pages/:id", some "page", some "show", false, []⟩,
   ⟨"GET", "/pages/:id", some "page", some "show", false, []⟩]

/-- Both pages are moved: their scopes are put in front of the helper, and stay in their keys. -/
theorem ofHelper_pageTable :
    ∃ routes, (ofEntries Settings.default (pageTable.map .record)).outcome = .ok routes ∧
      routes.map ofHelper = [⟨["admin"], "pages_pages"⟩, ⟨[], "pages_pages"⟩] ∧
      (pageTable.map (Route.ofRecord Settings.default.naming)).map ofHelper
        = [⟨["admin"], "pages"⟩, ⟨[], "pages"⟩] := by
  have hkeys : (ofEntries Settings.default (pageTable.map .record)).outcome.toOption.map
      (fun routes => routes.map ofHelper)
        = some [⟨["admin"], "pages_pages"⟩, ⟨[], "pages_pages"⟩] := by
    decide +kernel
  rcases h : (ofEntries Settings.default (pageTable.map .record)).outcome with e | routes
  · rw [h] at hkeys
    cases hkeys
  rw [h] at hkeys
  exact ⟨routes, rfl, Option.some.inj hkeys, by decide +kernel⟩

end Extract
end RouteHelpers
