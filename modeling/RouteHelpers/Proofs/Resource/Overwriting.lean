import RouteHelpers.Proofs.Resource.Tree

/-!
Whether one file of the output tree overwrites another.

Files of resources share their directories with files that have fixed names: the barrel of a directory
is called `index` there, and the runtime is `lib/wayfinder`. Nothing keeps a resource from having such
a name, so the paths are pairwise different just if no key is that of a fixed file (`IsReserved`).

A key that comes from a helper ends in a plural, which neither `index` nor `wayfinder` is. Only keys
that are made of paths can be reserved, and they are if the path says so.
-/

namespace RouteHelpers.Resource

variable {s : Settings} {routes : List Route} {t : Tree} {fs : List SourceFile}

/-- The key is that of a file that is written beside the resources: the runtime, or the barrel of a
directory that has one. -/
def IsReserved (s : Settings) (k : ResourceKey) : Prop :=
  k = ⟨["lib"], "wayfinder"⟩ ∨ k.name = "index" ∧ (k.scope = [] → s.includeIndex = true)

instance (s : Settings) : DecidablePred (IsReserved s) := fun k => by
  unfold IsReserved; infer_instance

/-! ### The keys of all files -/

/-- The key under which each file of a tree stands. -/
def Tree.fileKeys (t : Tree) : List ResourceKey :=
  ⟨["lib"], "wayfinder"⟩ :: t.resources.map (·.key) ++ t.barrels.map fun b => ⟨b.directory, "index"⟩

theorem map_path_files (s : Settings) (t : Tree) :
    (t.files s).map (·.path) = t.fileKeys.map fun k => place k.scope k.name := by
  simp only [Tree.files, Tree.fileKeys, List.map_append, List.map_cons, List.map_map,
    runtimeFile_path]
  rfl

/-- What holds of the words of all keys of routes, and of the names of the fixed files, holds of the words
under which files stand. -/
theorem Tree.IsOf.of_mem_fileKeys (h : t.IsOf s routes) {P : String → Prop}
    (hfixed : ∀ w ∈ ["lib", "wayfinder", "index"], P w)
    (hroutes : ∀ route ∈ routes, ∀ w ∈ (ResourceKey.ofRoute s.grouping route).words, P w)
    {k : ResourceKey} (hk : k ∈ t.fileKeys) : ∀ w ∈ k.words, P w := by
  have hresource {r : Resource} (hr : r ∈ t.resources) : ∀ w ∈ r.key.words, P w := by
    rw [h.resources] at hr
    obtain ⟨route, hroute, hkey⟩ := exists_mem_listed_iff.1 ⟨r, hr, rfl⟩
    exact hkey ▸ hroutes route hroute
  rcases List.mem_append.1 hk with hk | hk
  · rcases List.mem_cons.1 hk with rfl | hk
    · -- the runtime stands under fixed words
      have hwords : (⟨["lib"], "wayfinder"⟩ : ResourceKey).words ⊆ ["lib", "wayfinder", "index"] := by
        decide
      exact fun w hw => hfixed w (hwords hw)
    · obtain ⟨r, hr, rfl⟩ := List.mem_map.1 hk
      exact hresource hr
  · obtain ⟨b, hb, rfl⟩ := List.mem_map.1 hk
    intro w hw
    rcases List.mem_append.1 hw with hw | hw
    · -- a directory other than the output directory is the scope of a resource or above it
      rcases h.exists_barrel_iff.1 ⟨b, hb, rfl⟩ with ⟨hnil, -⟩ | ⟨-, r, hr, hscope⟩
      · exact absurd (hnil ▸ hw) List.not_mem_nil
      · exact hresource hr w (List.mem_append_left _ (hscope.subset hw))
    · obtain rfl : w = "index" := List.mem_singleton.1 hw
      exact hfixed _ (by decide)

theorem Tree.IsOf.isComponent_of_mem_fileKeys (h : t.IsOf s routes) {k : ResourceKey}
    (hk : k ∈ t.fileKeys) : (∀ w ∈ k.scope, IsComponent w) ∧ IsComponent k.name := by
  have hwords := h.of_mem_fileKeys (by decide) (fun _ _ _ => ResourceKey.isComponent_of_mem_words) hk
  exact ⟨fun w hw => hwords w (List.mem_append_left _ hw),
    hwords _ (List.mem_append_right _ (List.mem_singleton_self _))⟩

/-- Files with different keys have different paths. -/
theorem Tree.IsOf.nodup_map_path_iff (h : t.IsOf s routes) :
    ((t.files s).map (·.path)).Nodup ↔ t.fileKeys.Nodup := by
  rw [map_path_files]
  refine ⟨fun hnodup => hnodup.of_map _, fun hnodup => hnodup.map_on fun k hk k' hk' heq => ?_⟩
  have hc := h.isComponent_of_mem_fileKeys hk
  have hc' := h.isComponent_of_mem_fileKeys hk'
  obtain ⟨hscope, hname⟩ := (place_inj hc.1 hc.2 hc'.1 hc'.2).1 heq
  cases k
  cases k'
  simp_all

/-! ### Keys of fixed files -/

/-- A resource has the key of a barrel if it is called `index` in a directory that has one. -/
theorem Tree.IsOf.exists_barrel_key_iff (h : t.IsOf s routes) {r : Resource}
    (hr : r ∈ t.resources) :
    (∃ b ∈ t.barrels, r.key = ⟨b.directory, "index"⟩) ↔
      r.key.name = "index" ∧ (r.key.scope = [] → s.includeIndex = true) := by
  have hbarrel : (∃ b ∈ t.barrels, r.key = ⟨b.directory, "index"⟩) ↔
      r.key.name = "index" ∧ ∃ b ∈ t.barrels, b.directory = r.key.scope := by
    constructor
    · rintro ⟨b, hb, hkey⟩
      rw [hkey]
      exact ⟨rfl, b, hb, rfl⟩
    · rintro ⟨hname, b, hb, hscope⟩
      refine ⟨b, hb, ?_⟩
      rw [hscope, ← hname]
  rw [hbarrel, h.exists_barrel_iff]
  refine and_congr_right fun _ => ?_
  by_cases hscope : r.key.scope = []
  · simp [hscope]
  · simp only [hscope, false_and, false_or, false_implies, iff_true]
    exact ⟨hscope, r, hr, List.prefix_refl _⟩

theorem Tree.IsOf.nodup_fileKeys_iff (h : t.IsOf s routes) :
    t.fileKeys.Nodup ↔ ∀ r ∈ t.resources, ¬ IsReserved s r.key := by
  have hresources : (t.resources.map (·.key)).Nodup := h.resources ▸ nodup_map_key_listed _ _
  have hbarrels : (t.barrels.map fun b => (⟨b.directory, "index"⟩ : ResourceKey)).Nodup := by
    have hmap : t.barrels.map (fun b => (⟨b.directory, "index"⟩ : ResourceKey))
        = (t.barrels.map (·.directory)).map fun d => ⟨d, "index"⟩ := by
      rw [List.map_map]
      rfl
    rw [hmap]
    exact h.nodup_map_directory.map fun a b heq => (ResourceKey.mk.inj heq).1
  -- resources differ among themselves, and so do barrels: only keys of two kinds can be equal
  rw [Tree.fileKeys, List.cons_append, List.nodup_cons, List.nodup_append]
  constructor
  · rintro ⟨hruntime, -, -, hdisjoint⟩ r hr (hkey | hindex)
    · exact hruntime (List.mem_append_left _ (hkey ▸ List.mem_map_of_mem hr))
    · obtain ⟨b, hb, hkey⟩ := (h.exists_barrel_key_iff hr).2 hindex
      exact hdisjoint _ (List.mem_map_of_mem hr) _ (List.mem_map_of_mem hb) hkey
  · intro hfree
    refine ⟨fun hruntime => ?_, hresources, hbarrels, fun k hk k' hk' heq => ?_⟩
    · -- the runtime can only be met by a resource, since no barrel is called `wayfinder`
      rcases List.mem_append.1 hruntime with hk | hk
      · obtain ⟨r, hr, hkey⟩ := List.mem_map.1 hk
        exact hfree r hr (.inl hkey)
      · obtain ⟨b, -, hkey⟩ := List.mem_map.1 hk
        exact absurd (ResourceKey.mk.inj hkey).2 (by decide)
    · obtain ⟨r, hr, rfl⟩ := List.mem_map.1 hk
      obtain ⟨b, hb, rfl⟩ := List.mem_map.1 hk'
      exact hfree r hr (.inr ((h.exists_barrel_key_iff hr).1 ⟨b, hb, heq⟩))

/-- A plural is not the name of a fixed file. -/
theorem not_isReserved_of_endsWith {k : ResourceKey} (h : Text.endsWith "s" k.name = true) :
    ¬ IsReserved s k := by
  rintro (rfl | ⟨hname, -⟩)
  · exact absurd h (by decide)
  · rw [hname] at h
    exact absurd h (by decide)

/-! ### Paths -/

theorem nodup_paths_iff_forall_route (h : (files s routes).outcome = .ok fs) :
    (fs.map (·.path)).Nodup ↔
      ∀ route ∈ routes, ¬ IsReserved s (ResourceKey.ofRoute s.grouping route) := by
  obtain ⟨t, htree, rfl⟩ := exists_tree_of_files h
  have ht := isOf_of_tree htree
  have hkeys : (∃ r ∈ listed s.grouping routes, IsReserved s r.key) ↔
      ∃ route ∈ routes, IsReserved s (ResourceKey.ofRoute s.grouping route) := exists_mem_listed_iff
  rw [ht.nodup_map_path_iff, ht.nodup_fileKeys_iff, ht.resources]
  simpa using not_congr hkeys

/-- **No file overwrites another**, unless resources are grouped by scope and the path of a route
spells the name of a barrel or of the runtime. -/
theorem nodup_paths_iff (h : (files s routes).outcome = .ok fs) :
    (fs.map (·.path)).Nodup ↔
      (s.grouping = .scope → ∀ route ∈ routes, ¬ IsReserved s (ResourceKey.ofPath route)) := by
  rw [nodup_paths_iff_forall_route h]
  by_cases hg : s.grouping = .scope
  · simp only [hg, forall_const]
    rfl
  · simp only [hg, false_implies, iff_true]
    exact fun route _ => not_isReserved_of_endsWith (ResourceKey.endsWith_name hg route)

/-- The settings of a tree whose directories follow the paths of the routes. -/
def scopeGrouped : Settings :=
  Configuration.settings { style := .text "resource", groupBy := .text "scope" }

theorem nodup_paths_productRoute :
    ∃ fs, (files scopeGrouped [productRoute]).outcome = .ok fs ∧ (fs.map (·.path)).Nodup := by
  obtain ⟨fs, h⟩ := exists_files_singleton scopeGrouped productRoute
  refine ⟨fs, h, (nodup_paths_iff h).2 fun _ => ?_⟩
  decide +kernel

/-- A route whose path spells the name of the barrel of the output directory. -/
def indexRoute : Route :=
  Route.ofRecord scopeGrouped.naming ⟨"GET", "/index", some "index", none, false, default⟩

theorem not_nodup_paths_indexRoute :
    ∃ fs, (files scopeGrouped [indexRoute]).outcome = .ok fs ∧ ¬ (fs.map (·.path)).Nodup := by
  obtain ⟨fs, h⟩ := exists_files_singleton scopeGrouped indexRoute
  refine ⟨fs, h, fun hnodup => ?_⟩
  refine (nodup_paths_iff_forall_route h).1 hnodup indexRoute (List.mem_singleton_self _) ?_
  decide +kernel

end RouteHelpers.Resource
