import Mathlib.Logic.ExistsUnique
import RouteHelpers.Proofs.Resource.Specifier

/-!
How the files of the output tree are linked.

Every module that a file names anywhere in its text is a file of the tree, and declares what is taken from it:
resources name the runtime, and barrels name resources and the barrels of scopes (`Tree.IsLinked`). The
other way round, each resource is re-exported by the barrel of its scope and by no other, and going down
from `index.ts` along the words of its scope leads to that barrel.

A path can get out of the comment that it is told in, and then it can name what no file is
(`not_closed_importRoute`); it is all that can (`files_isLinked`).

What a barrel re-exports is known without regard to the names it binds: the modules are those of the
resources in its directory and of the subscopes, in order (`of_eq_ok`). Where they lead is settled by
`resolve?_below`, as all words are components.
-/

namespace RouteHelpers

/-! ### Texts with a given part -/

namespace Text

theorem isInfix_append_left (s after : String) : s.toList <:+: (s ++ after).toList := by
  rw [String.toList_append]
  exact (List.prefix_append _ _).isInfix

/-- Each of several texts is part of what they are joined to. -/
theorem isInfix_joinWith (sep : String) {ws : List String} {w : String} (h : w ∈ ws) :
    w.toList <:+: (joinWith sep ws).toList := by
  induction ws with
  | nil => cases h
  | cons v ws ih =>
    cases ws with
    | nil =>
      obtain rfl := List.mem_singleton.1 h
      exact List.infix_refl _
    | cons u ws =>
      rw [joinWith, String.toList_append, String.toList_append]
      rcases List.mem_cons.1 h with rfl | h
      · exact ⟨[], sep.toList ++ (joinWith sep (u :: ws)).toList, by simp⟩
      · exact (ih h).trans (List.suffix_append _ _).isInfix

end Text

/-! ### What files say -/

namespace SourceFile

/-- The file declares an object and exports it under a name. -/
def Exports (f : SourceFile) (name : String) : Prop :=
  ("export const " ++ name ++ " = \x7b").toList <:+: f.content.toList

/-- The file does so in its code: what stands before the declaration leaves no comment or literal open. -/
def Declares (f : SourceFile) (name : String) : Prop :=
  ∃ before after : String, f.content = before ++ ("export const " ++ name ++ " = \x7b") ++ after ∧
    (Script.Scan.start.read before.toList).mode = .code

end SourceFile

namespace Resource

variable {s : Settings} {routes : List Route} {t : Tree} {r : Resource} {b : PlacedBarrel}

theorem exports_source (documented : Bool) (r : Resource) :
    (r.source documented).Exports r.objectName := by
  refine Text.isInfix_joinWith "\n" ?_
  simp [objectName]

theorem declares_source {documented : Bool} (h : r.IsPasteable documented) :
    (r.source documented).Declares r.objectName := by
  obtain ⟨hidle, -⟩ := ((gives_headLines h).append Script.gives_lineFeed) _ Script.Scan.isIdle_start
  refine ⟨_, "\n" ++ Script.unlines (restLines r), ?_, hidle.mode⟩
  rw [source, fileText_eq]
  exact String.append_assoc

/-! ### What barrels re-export -/

theorem fst_of_resourceExports {taken : Barrel.Taken} {resources : List Resource}
    {out : List ReExport × Barrel.Taken} (h : Barrel.resourceExports taken resources = .ok out) :
    out.1 = resources.map fun r => ⟨r.objectName, r.key.name⟩ := by
  induction resources generalizing taken out with
  | nil =>
    cases h
    rfl
  | cons r resources ih =>
    rw [Barrel.resourceExports] at h
    split at h
    · cases h
    · obtain ⟨more, hmore, h⟩ := Except.bind_eq_ok.1 h
      cases h
      rw [List.map_cons, ← ih hmore]
      rfl

/-- Scopes are exported in order, each under a name that is made safe. -/
theorem scopeExports_eq_ok {taken : Barrel.Taken} {scopes : List String}
    {exports : List ReExport} (h : (Barrel.scopeExports taken scopes).outcome = .ok exports) :
    exports.map (·.module) = scopes.map Barrel.scopeModule ∧
      ∀ e ∈ exports, ∃ name, e.binding = Script.safeName name := by
  induction scopes generalizing taken exports with
  | nil =>
    cases h
    exact ⟨rfl, nofun⟩
  | cons scope scopes ih =>
    -- whatever the scope is bound to, its module is the first
    have hbound : ∀ name, (do
          let more ← Barrel.scopeExports
            (taken ++ [(Script.safeName name, Barrel.scopeModule scope ++ fileEnding)]) scopes
          pure (⟨Script.safeName name, Barrel.scopeModule scope⟩ :: more)
            : Traced BindingCollision (List ReExport)).outcome = .ok exports →
        exports.map (·.module) = (scope :: scopes).map Barrel.scopeModule ∧
          ∀ e ∈ exports, ∃ name, e.binding = Script.safeName name := by
      intro name h
      obtain ⟨more, hmore, h⟩ := Traced.outcome_bind_eq_ok.1 h
      cases h
      obtain ⟨hmodules, hbindings⟩ := ih hmore
      exact ⟨by rw [List.map_cons, List.map_cons, hmodules],
        List.forall_mem_cons.2 ⟨⟨name, rfl⟩, hbindings⟩⟩
    rw [Barrel.scopeExports] at h
    split at h
    · exact hbound scope h
    · obtain ⟨-, -, h⟩ := Traced.outcome_bind_eq_ok.1 h
      split at h
      · cases h
      · exact hbound (scope ++ "_scope") h

/-- A barrel re-exports the objects of its resources, and its scopes, in order. -/
theorem of_eq_ok {resources : List Resource} {scopes : List String} {barrel : Barrel}
    (h : (Barrel.of resources scopes).outcome = .ok barrel) :
    barrel.resources = resources.map (fun r => ⟨r.objectName, r.key.name⟩) ∧
      barrel.namespaces.map (·.module) = scopes.map Barrel.scopeModule ∧
      ∀ e ∈ barrel.namespaces, ∃ name, e.binding = Script.safeName name := by
  obtain ⟨⟨exports, taken⟩, hexports, h⟩ := Traced.outcome_bind_eq_ok.1 h
  obtain ⟨namespaces, hnamespaces, h⟩ := Traced.outcome_bind_eq_ok.1 h
  cases h
  exact ⟨fst_of_resourceExports hexports, scopeExports_eq_ok hnamespaces⟩

namespace Tree.IsOf

variable (h : t.IsOf s routes) (hb : b ∈ t.barrels)
include h hb

theorem mem_barrel_resources {e : ReExport} :
    e ∈ b.barrel.resources ↔
      ∃ r ∈ t.resources, r.scope = b.directory ∧ e = ⟨r.objectName, r.key.name⟩ := by
  rw [(of_eq_ok (h.barrels b hb)).1, List.mem_map]
  simp only [List.mem_filter, beq_iff_eq, and_assoc, eq_comm (a := e)]

theorem exists_namespace_iff {module : String} :
    (∃ e ∈ b.barrel.namespaces, e.module = module) ↔
      ∃ w, (∃ r ∈ t.resources, b.directory ++ [w] <+: r.scope) ∧
        Barrel.scopeModule w = module := by
  rw [← List.mem_map, (of_eq_ok (h.barrels b hb)).2.1, List.mem_map]
  simp only [mem_subscopesOf]

/-! ### What barrels name -/

/-- What a barrel re-exports is written as it is meant. -/
theorem isWritable {e : ReExport} (he : e ∈ b.barrel.resources ++ b.barrel.namespaces) :
    e.IsWritable := by
  have hword {r : Resource} (hr : r ∈ t.resources) {w : String} (hw : w ∈ r.key.words) :
      Script.IsBody '\'' w.toList := by
    rw [h.resources] at hr
    obtain ⟨route, -, hkey⟩ := exists_mem_listed_iff.1 ⟨r, hr, rfl⟩
    exact isBody_of_isKeyChar fun c hc => ResourceKey.isKeyChar_of_mem_words (hkey ▸ hw) hc
  have hup : Script.IsBody '\'' "./".toList := .of_all (by decide)
  rcases List.mem_append.1 he with he | he
  · obtain ⟨r, hr, -, rfl⟩ := (h.mem_barrel_resources hb).1 he
    refine ⟨Script.isPlain_safeName _, ?_⟩
    rw [ReExport.specifier, String.toList_append]
    exact hup.append (hword hr (List.mem_append_right _ (List.mem_singleton_self _)))
  · obtain ⟨name, hname⟩ := (of_eq_ok (h.barrels b hb)).2.2 e he
    obtain ⟨w, ⟨r, hr, hscope⟩, hmodule⟩ := (h.exists_namespace_iff hb).1 ⟨e, he, rfl⟩
    have hindex : Script.IsBody '\'' "/index".toList := .of_all (by decide)
    have hw : w ∈ r.key.words := List.mem_append_left _ (hscope.subset (by simp))
    refine ⟨hname ▸ Script.isPlain_safeName name, ?_⟩
    rw [ReExport.specifier, ← hmodule, Barrel.scopeModule, String.toList_append, String.toList_append]
    exact hup.append ((hword hr hw).append hindex)

/-- The file of a barrel names the modules of the barrel. -/
theorem modules_file : b.file.modules = b.barrel.modules b.directory.isEmpty :=
  (Barrel.gives_text _ fun _ he => h.isWritable hb he).specifiers_eq

theorem mem_modules {e : ReExport} (he : e ∈ b.barrel.resources ++ b.barrel.namespaces) :
    e.specifier ∈ b.file.modules := by
  rw [h.modules_file hb]
  exact List.mem_append_left _ (List.mem_map_of_mem he)

theorem mem_modules_of_root (hroot : b.directory = []) : "./" ++ runtimeModule ∈ b.file.modules := by
  rw [h.modules_file hb, hroot]
  exact List.mem_append_right _ (List.mem_singleton_self _)

/-! ### Where imports lead -/

/-- The re-export of a resource leads to the file with its name in the directory of the barrel. -/
theorem resolve?_resource (hr : r ∈ t.resources) :
    resolve? b.path ("./" ++ r.key.name) = some (place b.directory r.name) := by
  have hnone : ∀ w ∈ ([] : List String), IsComponent w := fun w hw => absurd hw List.not_mem_nil
  have hplace := resolve?_below (h.isComponent_directory hb) isComponent_index hnone
    (h.isComponent_name hr)
  rwa [List.append_nil] at hplace

/-- The re-export of a scope leads to its barrel. -/
theorem resolve?_scope {w : String} (hw : IsComponent w) :
    resolve? b.path ("./" ++ Barrel.scopeModule w) = some (place (b.directory ++ [w]) "index") := by
  have hone : ∀ v ∈ [w], IsComponent v := fun v hv => List.mem_singleton.1 hv ▸ hw
  have hmodule : Barrel.scopeModule w = Text.joinWith "/" ([w] ++ ["index"]) := by
    have hsuffix : "/index" = "/" ++ "index" := rfl
    rw [Barrel.scopeModule, hsuffix, ← String.append_assoc]
    rfl
  rw [hmodule]
  exact resolve?_below (h.isComponent_directory hb) isComponent_index hone isComponent_index

/-- The re-export of an object leads to a resource that exports it. -/
theorem exists_object {e : ReExport} (he : e ∈ b.barrel.resources) :
    ∃ r ∈ t.resources, resolve? b.path e.specifier = some r.path ∧ e.binding = r.objectName ∧
      (r.source s.documentation).Exports e.binding := by
  obtain ⟨r, hr, hscope, rfl⟩ := (h.mem_barrel_resources hb).1 he
  refine ⟨r, hr, ?_, rfl, exports_source _ r⟩
  rw [ReExport.specifier, h.resolve?_resource hb hr, path_eq_place, hscope]

/-- The re-export of a scope leads to the barrel of the scope. -/
theorem exists_scope {e : ReExport} (he : e ∈ b.barrel.namespaces) :
    ∃ b' ∈ t.barrels, b'.directory ≠ [] ∧ resolve? b.path e.specifier = some b'.path := by
  obtain ⟨w, ⟨r, hr, hscope⟩, hmodule⟩ := (h.exists_namespace_iff hb).1 ⟨e, he, rfl⟩
  have hne : b.directory ++ [w] ≠ [] := List.concat_ne_nil w b.directory
  obtain ⟨b', hb', hdirectory⟩ := h.exists_barrel_iff.2 (.inr ⟨hne, r, hr, hscope⟩)
  have hw : IsComponent w := h.isComponent_scope hr w (hscope.subset (by simp))
  refine ⟨b', hb', hdirectory ▸ hne, ?_⟩
  rw [ReExport.specifier, ← hmodule, h.resolve?_scope hb hw, PlacedBarrel.path, hdirectory]

/-- The types of the runtime are where the barrel of the output directory takes them from. -/
theorem resolve?_types (hroot : b.directory = []) :
    resolve? b.path ("./" ++ runtimeModule) = some (runtimeFile s.withForms).path := by
  rw [runtimeModule_eq, runtimeFile_path, PlacedBarrel.path,
    resolve?_below (h.isComponent_directory hb) isComponent_index isComponent_lib
      isComponent_wayfinder, hroot, List.nil_append]

omit hb in
/-- The runtime is where each resource imports it from. -/
theorem resolve?_runtime (hr : r ∈ t.resources) :
    resolve? r.path r.runtimeImport = some (runtimeFile s.withForms).path := by
  rw [runtimeImport, runtimeModule_eq, runtimeFile_path, path_eq_place,
    resolve?_wayUp (h.isComponent_scope hr) (h.isComponent_name hr) isComponent_lib
      isComponent_wayfinder]

end Tree.IsOf

/-! ### Re-exports of a resource -/

/-- The barrel re-exports the object of a resource from its file. -/
def PlacedBarrel.Reexports (b : PlacedBarrel) (r : Resource) : Prop :=
  ∃ e ∈ b.barrel.resources, e.binding = r.objectName ∧ resolve? b.path e.specifier = some r.path

/-- A resource is re-exported where it stands. -/
theorem Tree.IsOf.reexports_iff (h : t.IsOf s routes) (hb : b ∈ t.barrels) (hr : r ∈ t.resources) :
    b.Reexports r ↔ b.directory = r.scope := by
  constructor
  · rintro ⟨e, he, -, hpath⟩
    -- whichever resource the re-export is of, its path is found in the directory of the barrel
    obtain ⟨r', hr', -, rfl⟩ := (h.mem_barrel_resources hb).1 he
    rw [ReExport.specifier, h.resolve?_resource hb hr', Option.some_inj, path_eq_place,
      place_inj (h.isComponent_directory hb) (h.isComponent_name hr') (h.isComponent_scope hr)
        (h.isComponent_name hr)] at hpath
    exact hpath.1
  · intro hscope
    refine ⟨_, (h.mem_barrel_resources hb).2 ⟨r, hr, hscope.symm, rfl⟩, rfl, ?_⟩
    rw [ReExport.specifier, h.resolve?_resource hb hr, hscope, path_eq_place]

/-- The scope of a resource has a barrel; only the output directory can be without one. -/
theorem Tree.IsOf.exists_own_barrel (h : t.IsOf s routes) (hr : r ∈ t.resources)
    (hindex : r.scope = [] → s.includeIndex = true) : ∃ b ∈ t.barrels, b.directory = r.scope := by
  refine h.exists_barrel_iff.2 ?_
  by_cases hscope : r.scope = []
  · exact .inl ⟨hscope, hindex hscope⟩
  · exact .inr ⟨hscope, r, hr, List.prefix_refl _⟩

/-! ### The way down -/

/-- Re-exports of scopes, one after the other, lead from a barrel to a path. -/
inductive Tree.Leads (t : Tree) : List ReExport → String → String → Prop
  | nil (path : String) : t.Leads [] path path
  | cons {b : PlacedBarrel} {e : ReExport} {es : List ReExport} {path target : String} :
    b ∈ t.barrels → e ∈ b.barrel.namespaces → resolve? b.path e.specifier = some path →
      t.Leads es path target → t.Leads (e :: es) b.path target

/-- The words between a directory and the scope of a resource lead down from its barrel. -/
theorem Tree.IsOf.exists_leads (h : t.IsOf s routes) (hr : r ∈ t.resources) {words : List String}
    (hb : b ∈ t.barrels) (hscope : b.directory ++ words = r.scope) :
    ∃ es : List ReExport, es.map (·.module) = words.map Barrel.scopeModule ∧
      t.Leads es b.path (place r.scope "index") := by
  -- one word goes down to the barrel of the next scope, which is there as the resource is below it
  induction words generalizing b with
  | nil =>
    rw [List.append_nil] at hscope
    exact ⟨[], rfl, hscope ▸ .nil _⟩
  | cons w words ih =>
    have hbelow : b.directory ++ [w] <+: r.scope := ⟨words, by rw [← hscope]; simp⟩
    obtain ⟨e, he, hmodule⟩ := (h.exists_namespace_iff hb).2 ⟨w, ⟨r, hr, hbelow⟩, rfl⟩
    obtain ⟨b', hb', hdirectory⟩ := h.exists_barrel_iff.2
      (.inr ⟨List.concat_ne_nil w b.directory, r, hr, hbelow⟩)
    obtain ⟨es, hes, hleads⟩ := ih hb' (by rw [hdirectory, ← hscope]; simp)
    have hw : IsComponent w := h.isComponent_scope hr w (hbelow.subset (by simp))
    refine ⟨e :: es, by rw [List.map_cons, hmodule, hes, List.map_cons], .cons hb he ?_ hleads⟩
    rw [ReExport.specifier, hmodule, h.resolve?_scope hb hw, ← hdirectory]
    rfl

/-! ### The whole tree -/

/-- The files of the tree are linked: imports lead to files that are there, every scope has a barrel,
and every resource is found where its key says. -/
structure Tree.IsLinked (s : Settings) (t : Tree) : Prop where
  /-- Whatever module a file names is a file of the tree, if all that the file tells of routes can be pasted
  into it. -/
  closed : ∀ f ∈ t.files s,
    (∀ r ∈ t.resources, f = r.source s.documentation → r.IsPasteable s.documentation) →
    ∀ module ∈ f.modules, ∃ f' ∈ t.files s, resolve? f.path module = some f'.path
  /-- Each resource imports the runtime. -/
  runtime : ∀ r ∈ t.resources, r.runtimeImport ∈ (r.source s.documentation).modules ∧
    resolve? r.path r.runtimeImport = some (runtimeFile s.withForms).path
  /-- The barrel of the output directory re-exports the types of the runtime. -/
  types : ∀ b ∈ t.barrels, b.directory = [] → "./" ++ runtimeModule ∈ b.file.modules ∧
    resolve? b.path ("./" ++ runtimeModule) = some (runtimeFile s.withForms).path
  /-- Each other re-export is that of an object that a resource exports under the name … -/
  objects : ∀ b ∈ t.barrels, ∀ e ∈ b.barrel.resources, e.specifier ∈ b.file.modules ∧
    ∃ r ∈ t.resources, resolve? b.path e.specifier = some r.path ∧ e.binding = r.objectName ∧
      (r.source s.documentation).Exports e.binding
  /-- … or leads to the barrel of a scope. -/
  namespaces : ∀ b ∈ t.barrels, ∀ e ∈ b.barrel.namespaces, e.specifier ∈ b.file.modules ∧
    ∃ b' ∈ t.barrels, b'.directory ≠ [] ∧ resolve? b.path e.specifier = some b'.path
  /-- The export of an object stands in code. -/
  declared : ∀ r ∈ t.resources, r.IsPasteable s.documentation →
    (r.source s.documentation).Declares r.objectName
  /-- The scopes with a barrel are the starts of keys. -/
  scopes : ∀ directory ≠ [], (∃ b ∈ t.barrels, b.directory = directory) ↔
    ∃ r ∈ t.resources, directory <+: r.key.words ∧ directory ≠ r.key.words
  /-- No barrel but that of its scope re-exports a resource, … -/
  own : ∀ r ∈ t.resources, ∀ b ∈ t.barrels, b.Reexports r → b.directory = r.scope
  /-- … which does, if it is there. -/
  once : ∀ r ∈ t.resources, (r.scope = [] → s.includeIndex = true) →
    ∃! b, b ∈ t.barrels ∧ b.Reexports r
  /-- The words of its scope lead to a resource from the barrel of the output directory. -/
  reachable : s.includeIndex = true → ∀ r ∈ t.resources, ∃ es : List ReExport, ∃ b ∈ t.barrels,
    es.map (·.module) = r.scope.map Barrel.scopeModule ∧
      t.Leads es (place [] "index") b.path ∧ b.Reexports r

theorem Tree.mem_files {f : SourceFile} : f ∈ t.files s ↔ f = runtimeFile s.withForms ∨
    (∃ r ∈ t.resources, r.source s.documentation = f) ∨ ∃ b ∈ t.barrels, b.file = f := by
  rw [Tree.files, List.cons_append, List.mem_cons, List.mem_append, List.mem_map, List.mem_map]

/-- **Every module that a file names** is a file of the tree. -/
theorem Tree.IsOf.exists_file (h : t.IsOf s routes) {f : SourceFile} (hf : f ∈ t.files s)
    (hpasteable : ∀ r ∈ t.resources, f = r.source s.documentation → r.IsPasteable s.documentation)
    {module : String} (hmodule : module ∈ f.modules) :
    ∃ f' ∈ t.files s, resolve? f.path module = some f'.path := by
  have hruntime : runtimeFile s.withForms ∈ t.files s := Tree.mem_files.2 (.inl rfl)
  rcases Tree.mem_files.1 hf with rfl | ⟨r, hr, rfl⟩ | ⟨b, hb, rfl⟩
  · rw [modules_runtimeFile] at hmodule
    cases hmodule
  · rw [modules_source (hpasteable r hr rfl), List.mem_singleton] at hmodule
    exact ⟨_, hruntime, hmodule ▸ h.resolve?_runtime hr⟩
  · rw [h.modules_file hb, Barrel.modules, List.mem_append, List.mem_map] at hmodule
    rcases hmodule with ⟨e, he, rfl⟩ | htypes
    · rcases List.mem_append.1 he with he | he
      · obtain ⟨r, hr, hpath, -⟩ := h.exists_object hb he
        exact ⟨_, Tree.mem_files.2 (.inr (.inl ⟨r, hr, rfl⟩)), hpath⟩
      · obtain ⟨b', hb', -, hpath⟩ := h.exists_scope hb he
        exact ⟨_, Tree.mem_files.2 (.inr (.inr ⟨b', hb', rfl⟩)), hpath⟩
    · split at htypes
      next hroot =>
        rw [List.mem_singleton] at htypes
        exact ⟨_, hruntime, htypes ▸ h.resolve?_types hb (by simpa using hroot)⟩
      next => cases htypes

/-- **The files of a tree are linked.** -/
theorem Tree.IsOf.isLinked (h : t.IsOf s routes) : t.IsLinked s where
  closed f hf hpasteable module hmodule := h.exists_file hf hpasteable hmodule
  runtime r hr := ⟨mem_specifiers_fileText _ r, h.resolve?_runtime hr⟩
  types b hb hroot := ⟨h.mem_modules_of_root hb hroot, h.resolve?_types hb hroot⟩
  objects b hb e he := ⟨h.mem_modules hb (List.mem_append_left _ he), h.exists_object hb he⟩
  namespaces b hb e he := ⟨h.mem_modules hb (List.mem_append_right _ he), h.exists_scope hb he⟩
  declared r hr hpasteable := declares_source hpasteable
  scopes directory hne := by
    rw [h.exists_barrel_iff]
    simp only [hne, false_and, false_or, not_false_eq_true, true_and, ne_eq, isPrefix_scope_iff]
  own r hr b hb := (h.reexports_iff hb hr).1
  once r hr hindex := by
    obtain ⟨b, hb, hscope⟩ := h.exists_own_barrel hr hindex
    refine ⟨b, ⟨hb, (h.reexports_iff hb hr).2 hscope⟩, fun b' ⟨hb', hreexports⟩ => ?_⟩
    have hscope' := (h.reexports_iff hb' hr).1 hreexports
    exact List.inj_on_of_nodup_map h.nodup_map_directory hb' hb (hscope'.trans hscope.symm)
  reachable hindex r hr := by
    obtain ⟨root, hroot, hnil⟩ := h.exists_barrel_iff.2 (.inl ⟨rfl, hindex⟩)
    obtain ⟨b, hb, hscope⟩ := h.exists_own_barrel hr fun _ => hindex
    obtain ⟨es, hes, hleads⟩ := h.exists_leads hr hroot (by rw [hnil]; rfl)
    refine ⟨es, b, hb, hes, ?_, (h.reexports_iff hb hr).2 hscope⟩
    rw [PlacedBarrel.path, hnil] at hleads
    rwa [PlacedBarrel.path, hscope]

/-- The files that come out are those of a linked tree. -/
theorem files_isLinked {fs : List SourceFile} (h : (files s routes).outcome = .ok fs) :
    ∃ t, tree s routes = .ok t ∧ t.files s = fs ∧ t.IsLinked s := by
  obtain ⟨t, htree, hfiles⟩ := exists_tree_of_files h
  exact ⟨t, htree, hfiles, (isOf_of_tree htree).isLinked⟩

/-- The route is the only action of its resource. -/
theorem actions_ofGroup_singleton (g : Grouping) (q : Route) :
    (ofGroup g [q]).actions = [actionOf q] := by
  have hfirst : firstOfEach [q] = [q] := by simp [firstOfEach, Extract.groupBy, Text.distinct]
  show actionsOf [q] = _
  rw [actionsOf, hfirst]
  exact List.mergeSort_singleton _

theorem isPasteable_productRoute :
    (ofGroup Settings.default.grouping [productRoute]).IsPasteable true := by
  intro a ha
  rw [actions_ofGroup_singleton, List.mem_singleton] at ha
  subst ha
  have htold : Script.IsTellable
      ⟨"GET", "/api/v1/products/:id", some "api_v1_product", none, false, default⟩ :=
    ⟨by decide +kernel, by decide⟩
  exact ⟨by decide +kernel, by decide +kernel, fun _ => (Script.isComment_action_iff _ _ _).2 htold⟩

theorem files_isLinked_productRoute :
    listed Settings.default.grouping [productRoute]
        = [ofGroup Settings.default.grouping [productRoute]] ∧
      (ofGroup Settings.default.grouping [productRoute]).path = "api/v1/products.ts" ∧
      (ofGroup Settings.default.grouping [productRoute]).IsPasteable Settings.default.documentation ∧
      ∃ fs, (files Settings.default [productRoute]).outcome = .ok fs ∧
        ∃ t, tree Settings.default [productRoute] = .ok t ∧ t.files Settings.default = fs ∧
          t.IsLinked Settings.default := by
  obtain ⟨fs, h⟩ := exists_files_singleton Settings.default productRoute
  exact ⟨listed_singleton _ _, by decide +kernel, isPasteable_productRoute, fs, h, files_isLinked h⟩

/-- A route whose path closes a comment, with an import behind it. -/
def importRoute : Route :=
  Route.ofRecord Settings.default.naming
    ⟨"GET", "/a*/import './nowhere';/*", some "a", none, false, default⟩

/-- The resource of the route. -/
def importResource : Resource :=
  ofGroup Settings.default.grouping [importRoute]

/-- What follows the comment in its path is read as code. -/
theorem mem_modules_importResource : "./nowhere" ∈ (importResource.source true).modules := by
  have hcomment : Script.Gives (Script.unlines (actionDocumentation (actionOf importRoute)))
      ["./nowhere"] := .of_start (by decide +kernel) (by decide +kernel)
  have hfront := (gives_import importResource).append (Script.gives_lineFeed.append Script.gives_lineFeed)
  obtain ⟨rest, hrest⟩ : ∃ rest : String, fileText true importResource
      = "import \x7b route, type Route, type RouteOptions, type Param \x7d from '" ++
          runtimeImport importResource ++ "';" ++ ("\n" ++ "\n") ++
        Script.unlines (actionDocumentation (actionOf importRoute)) ++ rest := by
    have hactions : importResource.actions = [actionOf importRoute] := actions_ofGroup_singleton _ _
    rw [fileText_eq, headLines, hactions]
    simp only [List.flatMap_cons, List.flatMap_nil, List.append_nil, Script.unlines, Text.joinWith,
      Script.actionText_documented, String.append_assoc, String.empty_append]
    exact ⟨_, rfl⟩
  show _ ∈ Script.specifiers (fileText true importResource)
  rw [hrest]
  exact (hfront.append hcomment).mem_specifiers_append (by simp) rest

/-- The file of its resource names a module that is no file. -/
theorem not_closed_importRoute : ∃ fs, (files Settings.default [importRoute]).outcome = .ok fs ∧
    ∃ f ∈ fs, "./nowhere" ∈ f.modules ∧ resolve? f.path "./nowhere" = some "nowhere.ts" ∧
      ∀ f' ∈ fs, f'.path ≠ "nowhere.ts" := by
  obtain ⟨fs, h⟩ := exists_files_singleton Settings.default importRoute
  obtain ⟨t, htree, rfl⟩ := exists_tree_of_files h
  have hof := isOf_of_tree htree
  have hresources : t.resources = [importResource] := hof.resources.trans (listed_singleton _ _)
  have hpath : importResource.path = "as.ts" := by decide +kernel
  have hmem : importResource.source true ∈ t.files Settings.default :=
    Tree.mem_files.2 (.inr (.inl ⟨importResource, by simp [hresources], rfl⟩))
  refine ⟨_, h, _, hmem, mem_modules_importResource, ?_, ?_⟩
  · show resolve? importResource.path _ = _
    rw [hpath]
    decide +kernel
  · intro f hf
    have hnowhere : "nowhere.ts" = place [] "nowhere" := by decide
    rcases Tree.mem_files.1 hf with rfl | ⟨r, hr, rfl⟩ | ⟨b, hb, rfl⟩
    · rw [runtimeFile_path]
      decide +kernel
    · obtain rfl : r = importResource := by simpa [hresources] using hr
      show importResource.path ≠ _
      rw [hpath]
      decide
    · intro hplace
      rw [hnowhere] at hplace
      have hname := (place_inj (hof.isComponent_directory hb) isComponent_index
        (fun _ h => absurd h List.not_mem_nil) (by decide)).1 hplace
      exact absurd hname.2 (by decide)

end Resource
end RouteHelpers
