import RouteHelpers.Proofs.Extract.Bindable
import RouteHelpers.Proofs.Resource.Confinement
import RouteHelpers.Proofs.Resource.Conservation
import RouteHelpers.Proofs.Resource.Linking
import RouteHelpers.Proofs.Script.SafeName

/-!
Resources that helpers name do not collide.

What stands in one directory is exported under safe names, and those of different resources and scopes
could meet. They do not where keys are told by helpers. All words of such keys are bare
(`Script.IsBare`), so different words have different safe names. The resources of a directory have
different names, as their keys differ, and so have the scopes below it. And no resource has the name of
a scope, since a resource's is a plural: it ends in an `s`, in which no scope ends.

So each barrel is the plain one, which exports everything under its own safe name
(`Barrel.of_eq_plain`), and nothing is told of a scope under another name.
-/

namespace RouteHelpers

/-! ### Words of keys -/

namespace ResourceKey

theorem isBare_wordOrRoot (s : String) : Script.IsBare (wordOrRoot s) where
  isWord c hc := isWord_of_mem_wordOrRoot hc
  first := by
    simp only [wordOrRoot]
    split
    case isTrue => exact ⟨'r', by decide⟩
    case isFalse h => exact (ends_wordToken (by simpa using h)).1
  last := by
    simp only [wordOrRoot]
    split
    case isTrue => exact ⟨'t', by decide⟩
    case isFalse h => exact (ends_wordToken (by simpa using h)).2

/-- A plural starts as its word does, or with the ending if that is all. -/
theorem head?_pluralize (word : String) :
    (pluralize word).toList.head? = word.toList.head? ∨ (pluralize word).toList.head? = some 'i' ∨
      (pluralize word).toList.head? = some 's' := by
  have hbefore (stem ending : String) : (stem ++ ending).toList.head?
      = stem.toList.head?.or ending.toList.head? := by
    rw [String.toList_append, List.head?_append]
  unfold pluralize
  split
  case isTrue => exact .inl rfl
  case isFalse =>
    split
    next stem hstem =>
      rw [Text.beforeEnding?, Option.ite_none_right_eq_some] at hstem
      obtain rfl := Option.some.inj hstem.2
      -- nothing stands before the ending if the word is the letter that it replaces
      rw [hbefore, String.toList_ofList]
      rcases hcut : word.length - "y".length with - | n
      · exact .inr (.inl rfl)
      · rw [List.head?_take, if_neg n.succ_ne_zero]
        cases hhead : word.toList.head? with
        | none => exact .inr (.inl rfl)
        | some c => exact .inl rfl
    next =>
      rw [hbefore]
      cases hhead : word.toList.head? with
      | none => exact .inr (.inr rfl)
      | some c => exact .inl rfl

theorem isBare_pluralize {word : String} (h : Script.IsBare word) :
    Script.IsBare (pluralize word) where
  isWord _ hc := isWord_of_mem_pluralize h.isWord hc
  first := by
    rcases head?_pluralize word with hhead | hhead | hhead
    · exact hhead ▸ h.first
    · exact ⟨'i', hhead, by decide⟩
    · exact ⟨'s', hhead, by decide⟩
  last := by
    obtain ⟨start, hstart⟩ := List.isSuffixOf_iff_suffix.1 (endsWith_pluralize word)
    exact ⟨'s', by rw [← hstart]; exact List.getLast?_concat, by decide⟩

/-- A word of a scope ends in a letter that is no `s`, or in a digit. -/
theorem getLast?_of_mem_scopeOfPath {path w : String} (h : w ∈ scopeOfPath path) :
    ∃ c, w.toList.getLast? = some c ∧ c ≠ '_' ∧ c ≠ 's' := by
  obtain rfl | rfl | ⟨version, hne, hdecimal, rfl⟩ := mem_scopeOfPath h
  · exact ⟨'n', by decide⟩
  · exact ⟨'i', by decide⟩
  · have hnil : version.toList ≠ [] := fun hnil => hne (String.toList_eq_nil_iff.1 hnil)
    have hlast := hdecimal _ (List.getLast_mem hnil)
    have hother {c : Char} (hc : Text.isDecimal c = false) : version.toList.getLast hnil ≠ c :=
      fun heq => Bool.false_ne_true (hc.symm.trans (heq ▸ hlast))
    refine ⟨version.toList.getLast hnil, ?_, hother (by decide), hother (by decide)⟩
    rw [String.toList_append, List.getLast?_append_of_ne_nil _ hnil,
      List.getLast?_eq_some_getLast hnil]

theorem isBare_of_mem_scopeOfPath {path w : String} (h : w ∈ scopeOfPath path) :
    Script.IsBare w where
  isWord c hc := by
    rcases Bool.or_eq_true_iff.1 (isKeyChar_of_mem_scopeOfPath h hc) with hword | hdigit
    · exact hword
    · exact Text.isWord_of_isDecimal hdigit
  first := by
    obtain rfl | rfl | ⟨version, -, -, rfl⟩ := mem_scopeOfPath h
    · exact ⟨'a', by decide⟩
    · exact ⟨'a', by decide⟩
    · exact ⟨'v', by simp, by decide⟩
  last := by
    obtain ⟨c, hlast, hc, -⟩ := getLast?_of_mem_scopeOfPath h
    exact ⟨c, hlast, hc⟩

/-- A plural is no word of a scope. -/
theorem not_mem_scopeOfPath_of_endsWith {path w : String} (h : Text.endsWith "s" w = true) :
    w ∉ scopeOfPath path := by
  intro hmem
  obtain ⟨c, hlast, -, hc⟩ := getLast?_of_mem_scopeOfPath hmem
  obtain ⟨start, hstart⟩ := List.isSuffixOf_iff_suffix.1 h
  rw [← hstart] at hlast
  exact hc (Option.some.inj (hlast.symm.trans List.getLast?_concat))

variable {g : Grouping}

theorem isBare_of_mem_words (hg : g ≠ .scope) {r : Route} {w : String}
    (h : w ∈ (ofRoute g r).words) : Script.IsBare w := by
  rw [ofRoute_eq_ofHelper hg] at h
  rcases mem_words_ofHelper h with h | ⟨s, rfl⟩
  · exact isBare_of_mem_scopeOfPath h
  · exact isBare_pluralize (isBare_wordOrRoot s)

/-- No name that a helper tells is a word of a scope that a path tells. -/
theorem name_not_mem_scope (hg : g ≠ .scope) (r r' : Route) :
    (ofRoute g r).name ∉ (ofRoute g r').scope := by
  rw [ofRoute_eq_ofHelper hg r', scope_ofHelper]
  exact not_mem_scopeOfPath_of_endsWith (endsWith_name hg r)

end ResourceKey

/-! ### Barrels in which nothing collides -/

namespace Barrel

variable {taken : Taken} {resources : List Resource} {scopes : List String}

theorem find?_eq_none {name : String} (h : name ∉ taken.map (·.1)) : taken.find? name = none := by
  rw [Taken.find?, Option.map_eq_none_iff, List.find?_eq_none]
  intro t ht
  rw [beq_iff_eq]
  rintro rfl
  exact h (List.mem_map_of_mem ht)

/-- The first of several new names is not taken, and once it is, the others are still new. -/
theorem nodup_take {name : String} {names : List String}
    (h : (taken.map (·.1) ++ name :: names).Nodup) : taken.find? name = none ∧
      ∀ path : String, ((taken ++ [(name, path)] : Taken).map (·.1) ++ names).Nodup := by
  rw [List.append_cons] at h
  refine ⟨find?_eq_none fun hmem => ?_, fun path => by rwa [List.map_append]⟩
  have htaken := List.nodup_append.1 (List.nodup_append.1 h).1
  exact htaken.2.2 _ hmem _ List.mem_cons_self rfl

theorem resourceExports_of_nodup (h : (taken.map (·.1) ++ resources.map Resource.objectName).Nodup) :
    resourceExports taken resources = .ok (resources.map fun r => ⟨r.objectName, r.key.name⟩,
      taken ++ resources.map fun r => (r.objectName, r.path)) := by
  induction resources generalizing taken with
  | nil => rw [resourceExports, List.map_nil, List.map_nil, List.append_nil]
  | cons r resources ih =>
    obtain ⟨hfree, hrest⟩ := nodup_take h
    have hown : Script.safeName r.name = r.objectName := rfl
    simp only [resourceExports, hown, hfree, ih (hrest _), Except.ok_bind, List.map_cons,
      List.append_assoc, List.singleton_append]

theorem scopeExports_of_nodup (h : (taken.map (·.1) ++ scopes.map Script.safeName).Nodup) :
    scopeExports taken scopes = pure (scopes.map fun w => ⟨Script.safeName w, scopeModule w⟩) := by
  induction scopes generalizing taken with
  | nil => rfl
  | cons w scopes ih =>
    obtain ⟨hfree, hrest⟩ := nodup_take h
    rw [scopeExports]
    simp only [hfree, Option.isNone_none, if_true, Traced.ok_bind, ih (hrest _), List.map_cons]

/-- The barrel that exports all that it holds under safe names of its own. -/
def plain (resources : List Resource) (scopes : List String) : Barrel :=
  ⟨resources.map fun r => ⟨r.objectName, r.key.name⟩,
    scopes.map fun w => ⟨Script.safeName w, scopeModule w⟩⟩

/-- **Where safe names differ**, the barrel is the plain one, and nothing is told. -/
theorem of_eq_plain (h : (resources.map Resource.objectName ++ scopes.map Script.safeName).Nodup) :
    of resources scopes = pure (plain resources scopes) := by
  have hnone : (([] : Taken).map (·.1) ++ resources.map Resource.objectName).Nodup :=
    (List.nodup_append.1 h).1
  have hresources := resourceExports_of_nodup hnone
  have htaken : ((resources.map fun r => (r.objectName, r.path)).map (·.1)
      ++ scopes.map Script.safeName).Nodup := by
    rwa [List.map_map]
  rw [of, hresources]
  show (scopeExports (resources.map fun r => (r.objectName, r.path)) scopes >>= _) = _
  rw [scopeExports_of_nodup htaken]
  rfl

end Barrel

namespace Resource

variable {g : Grouping} {routes : List Route} {resources : List Resource} {directory : List String}

/-! ### Names in a directory -/

/-- The safe names of the resources in a directory and of the scopes directly below it. -/
def safeNamesIn (resources : List Resource) (directory : List String) : List String :=
  (resources.filter (·.scope == directory)).map objectName ++
    (subscopesOf resources directory).map Script.safeName

theorem nodup_subscopesOf (resources : List Resource) (directory : List String) :
    (subscopesOf resources directory).Nodup :=
  (List.mergeSort_perm _ _).nodup_iff.2 (Text.nodup_distinct _)

/-- The resources of a directory have different names. -/
theorem nodup_map_name_filter (g : Grouping) (routes : List Route) (directory : List String) :
    (((listed g routes).filter (·.scope == directory)).map name).Nodup := by
  have hnodup := nodup_map_key_listed g routes
  refine (hnodup.of_map.filter _).map_on fun r hr r' hr' hname => ?_
  obtain ⟨hr, hscope⟩ := List.mem_filter.1 hr
  obtain ⟨hr', hscope'⟩ := List.mem_filter.1 hr'
  have hkey : r.key = r'.key :=
    congrArg₂ ResourceKey.mk ((eq_of_beq hscope).trans (eq_of_beq hscope').symm) hname
  exact List.inj_on_of_nodup_map hnodup hr hr' hkey

/-- **Where helpers tell the keys, the safe names in a directory differ.** -/
theorem nodup_safeNamesIn (hg : g ≠ .scope) (routes : List Route) (directory : List String) :
    (safeNamesIn (listed g routes) directory).Nodup := by
  have hwords : safeNamesIn (listed g routes) directory
      = (((listed g routes).filter (·.scope == directory)).map name
          ++ subscopesOf (listed g routes) directory).map Script.safeName := by
    rw [List.map_append, List.map_map]
    rfl
  have hbare {r : Resource} (hr : r ∈ listed g routes) : ∀ w ∈ r.key.words, Script.IsBare w := by
    obtain ⟨q, -, hkey, -⟩ := exists_of_mem_listed hr
    exact fun w hw => ResourceKey.isBare_of_mem_words hg (hkey ▸ hw)
  rw [hwords]
  refine Script.IsBare.nodup_map_safeName (fun w hw => ?_) (List.nodup_append.2
    ⟨nodup_map_name_filter g routes directory, nodup_subscopesOf _ directory, ?_⟩)
  · rcases List.mem_append.1 hw with hw | hw
    · obtain ⟨r, hr, rfl⟩ := List.mem_map.1 hw
      exact hbare (List.mem_filter.1 hr).1 _ (List.mem_append_right _ (List.mem_singleton_self _))
    · obtain ⟨r, hr, hscope⟩ := mem_subscopesOf.1 hw
      exact hbare hr w (List.mem_append_left _ (hscope.subset (by simp)))
  · -- a resource has the name of no scope, wherever the scope is
    rintro w hw v hv rfl
    obtain ⟨r, hr, rfl⟩ := List.mem_map.1 hw
    obtain ⟨r', hr', hscope⟩ := mem_subscopesOf.1 hv
    obtain ⟨q, -, hkey, -⟩ := exists_of_mem_listed (List.mem_filter.1 hr).1
    obtain ⟨q', -, hkey', -⟩ := exists_of_mem_listed hr'
    have hmem : r.name ∈ r'.scope := hscope.subset (by simp)
    rw [name, scope, hkey, hkey'] at hmem
    exact ResourceKey.name_not_mem_scope hg q q' hmem

/-! ### The tree -/

/-- The plain barrel of a directory. -/
def plainBarrel (resources : List Resource) (directory : List String) : Barrel :=
  .plain (resources.filter (·.scope == directory)) (subscopesOf resources directory)

theorem barrelIn_eq_plain (h : (safeNamesIn resources directory).Nodup) :
    barrelIn resources directory = pure ⟨directory, plainBarrel resources directory⟩ := by
  rw [barrelIn, Barrel.of_eq_plain h]
  rfl

variable {s : Settings}

theorem tree_eq_plain
    (h : ∀ directory, (safeNamesIn (listed s.grouping routes) directory).Nodup) :
    tree s routes = .ok ⟨listed s.grouping routes, (directories s (listed s.grouping routes)).map
      fun directory => ⟨directory, plainBarrel (listed s.grouping routes) directory⟩⟩ := by
  have heach : ∀ directory ∈ directories s (listed s.grouping routes),
      (barrelIn (listed s.grouping routes) directory).outcome
        = .ok ⟨directory, plainBarrel (listed s.grouping routes) directory⟩ := by
    intro directory _
    rw [barrelIn_eq_plain (h directory)]
    rfl
  rw [tree, Traced.outcome_mapEach heach]
  rfl

/-- The file of a scope has the plain barrel of its directory. -/
theorem ofScope_eq_plain (h : ∀ directory, (safeNamesIn resources directory).Nodup) {scope : Scope}
    (hscope : scope ∈ scopes resources) :
    Barrel.ofScope scope.words scope.members scope.subscopes
      = pure ⟨Text.joinWith "/" scope.words ++ "/index" ++ fileEnding,
          (plainBarrel resources scope.words).text false⟩ := by
  rw [eq_of_mem_scopes hscope]
  dsimp only
  rw [Barrel.ofScope, Barrel.of_eq_plain (h scope.words)]
  rfl

theorem exists_rootFiles_eq (h : ∀ directory, (safeNamesIn resources directory).Nodup) :
    ∃ top, rootFiles s resources = pure top := by
  rw [rootFiles, topLevel_eq, Barrel.of_eq_plain (h [])]
  split <;> exact ⟨_, rfl⟩

/-- The barrels of scopes have nothing to tell. -/
theorem notices_scopes (h : ∀ directory, (safeNamesIn resources directory).Nodup)
    (all : List SourceFile → List SourceFile) : (do
      let barrels ← Traced.mapEach (fun scope : Scope =>
        Barrel.ofScope scope.words scope.members scope.subscopes) (scopes resources)
      pure (all barrels) : Traced BindingCollision (List SourceFile)).notices = [] := by
  have houtcomes := fun scope (hscope : scope ∈ scopes resources) =>
    congrArg Traced.outcome (ofScope_eq_plain h hscope)
  rw [Traced.notices_bind_ok (Traced.outcome_mapEach houtcomes),
    Traced.notices_mapEach houtcomes, Traced.notices_pure, List.append_nil,
    List.flatMap_eq_nil_iff]
  exact fun scope hscope => congrArg Traced.notices (ofScope_eq_plain h hscope)

/-- Where safe names differ, barrels have nothing to tell: only resources have. -/
theorem notices_files_of_nodup
    (h : ∀ directory, (safeNamesIn (listed s.grouping routes) directory).Nodup) :
    (files s routes).notices
      = (ofRoutes s.grouping routes : Traced BindingCollision (List Resource)).notices ++
        (listed s.grouping routes).map fun r => .resourceActions r.path r.actions.length := by
  have hown : ∀ r ∈ listed s.grouping routes,
      (file (ε := BindingCollision) s.documentation r).outcome
        = .ok (source s.documentation r) := fun _ _ => rfl
  obtain ⟨top, htop⟩ := exists_rootFiles_eq (s := s) h
  rw [files_eq, Traced.notices_bind_ok (outcome_ofRoutes _ _),
    Traced.notices_bind_ok (Traced.outcome_mapEach hown), Traced.notices_mapEach hown]
  refine congrArg (_ ++ ·) (Eq.trans ?_ List.map_eq_flatMap.symm)
  rw [htop, Traced.ok_bind, notices_scopes h, List.append_nil]
  rfl

/-- **Where helpers tell the keys, a tree comes out** whatever the routes are: in every directory the safe
names of resources and scopes differ, each barrel exports what it holds under these names, and so no
scope is exported under another. -/
theorem files_of_helpers (hg : s.grouping ≠ .scope) (routes : List Route) :
    ∃ t, tree s routes = .ok t ∧ (files s routes).outcome = .ok (t.files s) ∧
      t.resources = listed s.grouping routes ∧
      (∀ directory, (safeNamesIn t.resources directory).Nodup) ∧
      (∀ b ∈ t.barrels, b.barrel = plainBarrel t.resources b.directory) ∧
      ∀ scope binding, .scopeRenamed scope binding ∉ (files s routes).notices := by
  have hnodup := nodup_safeNamesIn hg routes
  refine ⟨_, tree_eq_plain hnodup, by rw [outcome_files, tree_eq_plain hnodup]; rfl, rfl, hnodup,
    ?_, ?_⟩
  · intro b hb
    obtain ⟨directory, -, rfl⟩ := List.mem_map.1 hb
    rfl
  · intro scope binding hmem
    rw [notices_files_of_nodup hnodup] at hmem
    rcases List.mem_append.1 hmem with hmem | hmem
    · obtain ⟨r, -, hmem⟩ := List.mem_flatMap.1 ((notices_ofRoutes _ _).mem_iff.1 hmem)
      obtain ⟨e, -, he⟩ := List.mem_map.1 hmem
      cases he
    · obtain ⟨r, -, hr⟩ := List.mem_map.1 hmem
      cases hr

/-- Routes to a resource whose name is nearly that of a scope, and to one in that scope. -/
def adminRoutes : List Route :=
  [Route.ofRecord Settings.default.naming
      ⟨"GET", "/admin", some "admin", none, false, default⟩,
    Route.ofRecord Settings.default.naming
      ⟨"GET", "/admin/reports", some "admin_reports", none, false, default⟩]

theorem files_of_helpers_adminRoutes :
    Settings.default.grouping ≠ .scope ∧
      adminRoutes.map (fun r => (ResourceKey.ofRoute Settings.default.grouping r).words)
        = [["admins"], ["admin", "reports"]] ∧
      ∃ t, tree Settings.default adminRoutes = .ok t ∧
        (files Settings.default adminRoutes).outcome = .ok (t.files Settings.default) ∧
        t.resources = listed Settings.default.grouping adminRoutes ∧
        (∀ directory, (safeNamesIn t.resources directory).Nodup) ∧
        (∀ b ∈ t.barrels, b.barrel = plainBarrel t.resources b.directory) ∧
        ∀ scope binding, .scopeRenamed scope binding
          ∉ (files Settings.default adminRoutes).notices :=
  ⟨by decide, by decide +kernel, files_of_helpers (by decide) adminRoutes⟩

end Resource
end RouteHelpers
