import RouteHelpers.Proofs.Extract.Compactness
import RouteHelpers.Proofs.Generation
import RouteHelpers.Proofs.Resource.Renaming
import RouteHelpers.Proofs.Resource.Reordering

/-!
Compact names do not show in the files of resources.

A resource is found by the helper and the path of a route, and so is an action; the files show verbs,
paths and parameters. Names of path helpers occur in none of it, so where routes are named again the same
resources come out, of routes that are named again (`listed_inNaming`), and the same files.

Together with the way from entries to routes, which takes compact and full names alike, generating with
either ends in the same way.
-/

namespace RouteHelpers

variable {n : Naming} {g : Grouping} {s : Settings} {r : Route} {routes : List Route}

/-! ### Resources of routes that are named again -/

theorem ResourceKey.ofRoute_inNaming (h : r.helper ≠ "") :
    ofRoute g (r.inNaming n) = ofRoute g r := by
  have hhelper : ofHelper (r.inNaming n) = ofHelper r := by
    rw [ofHelper, ofHelper, Route.helperName_inNaming h]
    rfl
  cases g with
  | scope => rfl
  | resource => exact hhelper
  | controller => exact hhelper

/-- An action of a route that is named again. -/
def ResourceAction.inNaming (n : Naming) (a : ResourceAction) : ResourceAction :=
  { a with route := a.route.inNaming n }

namespace Resource

/-- A resource of routes that are named again. -/
def inNaming (n : Naming) (r : Resource) : Resource :=
  { r with
    actions := r.actions.map (·.inNaming n)
    routes := r.routes.map (·.inNaming n) }

/-- The file of a resource shows no names of path helpers. -/
theorem source_inNaming (documented : Bool) (r : Resource) :
    source documented (r.inNaming n) = source documented r := by
  have htext : fileText documented (r.inNaming n) = fileText documented r := by
    simp only [fileText, inNaming, ResourceAction.inNaming, List.map_map, List.flatMap_map]
    rfl
  rw [source, source, htext]
  rfl

/-- The routes that stand for actions are the same, as an action does not show the naming. -/
theorem firstOfEach_inNaming (h : ∀ r ∈ routes, r.helper ≠ "") :
    firstOfEach (routes.map (·.inNaming n)) = (firstOfEach routes).map (·.inNaming n) := by
  have hgroups : Extract.groupBy Action.ofRoute (routes.map (·.inNaming n))
      = (Extract.groupBy Action.ofRoute routes).map (List.map (·.inNaming n)) :=
    Extract.groupBy_map _ routes fun q hq r hr => by
      rw [Action.ofRoute_inNaming (h q hq), Action.ofRoute_inNaming (h r hr)]
  rw [firstOfEach, firstOfEach, hgroups, List.filterMap_map, List.map_filterMap]
  refine List.filterMap_congr fun group _ => ?_
  rw [Function.comp_apply, List.head?_map]

theorem actionsOf_inNaming (h : ∀ r ∈ routes, r.helper ≠ "") :
    actionsOf (routes.map (·.inNaming n))
      = (actionsOf routes).map (·.inNaming n) := by
  have hmem : ∀ r ∈ firstOfEach routes, r ∈ routes := by
    intro r hr
    rw [firstOfEach_eq_firsts] at hr
    exact List.mem_of_find?_eq_some (Extract.mem_firsts.1 hr)
  have hactions : (firstOfEach (routes.map (·.inNaming n))).map actionOf
      = ((firstOfEach routes).map actionOf).map (·.inNaming n) := by
    rw [firstOfEach_inNaming h, List.map_map, List.map_map]
    refine List.map_congr_left fun r hr => ?_
    rw [Function.comp_apply, Function.comp_apply, actionOf, actionOf,
      Action.ofRoute_inNaming (h r (hmem r hr))]
    rfl
  -- they are sorted by the order of actions, which a naming does not change
  rw [actionsOf, actionsOf, hactions]
  refine (List.map_mergeSort ?_).symm
  exact fun _ _ _ _ => rfl

theorem ofGroup_inNaming (h : ∀ r ∈ routes, r.helper ≠ "") :
    ofGroup g (routes.map (·.inNaming n)) = (ofGroup g routes).inNaming n := by
  have hkey : groupKey g (routes.map (·.inNaming n)) = groupKey g routes := by
    cases routes with
    | nil => rfl
    | cons r rest => exact ResourceKey.ofRoute_inNaming (h r List.mem_cons_self)
  rw [ofGroup, hkey, actionsOf_inNaming h]
  rfl

/-- **The resources** are the same, of routes that are named again. -/
theorem listed_inNaming (h : ∀ r ∈ routes, r.helper ≠ "") :
    listed g (routes.map (·.inNaming n)) = (listed g routes).map (inNaming n) := by
  have hgroups : groups g (routes.map (·.inNaming n))
      = (groups g routes).map (List.map (·.inNaming n)) :=
    Extract.groupBy_map _ routes fun q hq r hr => by
      rw [ResourceKey.ofRoute_inNaming (h q hq), ResourceKey.ofRoute_inNaming (h r hr)]
  have hresources : ((groups g routes).map (List.map (·.inNaming n))).map (ofGroup g)
      = ((groups g routes).map (ofGroup g)).map (inNaming n) := by
    rw [List.map_map, List.map_map]
    refine List.map_congr_left fun group hgroup => ?_
    obtain ⟨x, -, rfl⟩ := Extract.mem_groupBy hgroup
    exact ofGroup_inNaming fun r hr => h r (List.mem_of_mem_filter hr)
  rw [listed, listed, hgroups, hresources]
  refine (List.map_mergeSort ?_).symm
  exact fun _ _ _ _ => rfl

/-- **The files of resources** show no names of path helpers. -/
theorem outcome_files_inNaming (h : ∀ r ∈ routes, r.helper ≠ "") :
    (files s (routes.map (·.inNaming n))).outcome = (files s routes).outcome := by
  rw [outcome_files_eq_filesOf, outcome_files_eq_filesOf, listed_inNaming h]
  exact filesOf_map (f := inNaming n) (fun _ => rfl) s _ fun r _ => source_inNaming _ r

end Resource

/-! ### Generating -/

namespace Generation

variable {entries : List Entry}

/-- The files of routes that are named again go to the same places. -/
theorem outcome_resourceFiles_inNaming (h : ∀ r ∈ routes, r.helper ≠ "") :
    (resourceFiles { s with naming := n } (routes.map (·.inNaming n))).outcome
      = (resourceFiles s routes).outcome := by
  have hfiles : (Resource.files { s with naming := n } (routes.map (·.inNaming n))).outcome
      = (Resource.files s routes).outcome := Resource.outcome_files_inNaming h
  rw [outcome_resourceFiles, outcome_resourceFiles, hfiles]

/-- Files of resources come out, bindings collide, or the output directory is no text. -/
theorem resourceFiles_cases (s : Settings) (routes : List Route) :
    (∃ files, (resourceFiles s routes).outcome = .ok files) ∨
      (∃ name paths, (resourceFiles s routes).outcome = .error (.collision name paths)) ∨
      (∀ path, s.outputDirectory ≠ .text path) ∧
        ∃ f, (resourceFiles s routes).outcome = .error (.badName f) := by
  rw [outcome_resourceFiles]
  rcases (Resource.files s routes).outcome with c | files
  · exact .inr (.inl ⟨c.name, c.paths, rfl⟩)
  · simp only [Except.mapError, Except.ok_bind]
    rcases hbelow : files.mapM (belowOutput s.outputDirectory) with e | placed
    · obtain ⟨f, -, hf⟩ := Except.exists_of_mapM_eq_error hbelow
      refine .inr (.inr ?_)
      unfold belowOutput at hf
      split at hf
      · cases hf
      next hdirectory =>
        cases hf
        exact ⟨fun path h => Value.noConfusion (hdirectory.symm.trans h), _, rfl⟩
      next hdirectory _ =>
        cases hf
        exact ⟨hdirectory, _, rfl⟩
    · exact .inl ⟨placed, rfl⟩

/-- **Compact names do not show in the resource style**, where no URL helpers are emitted: with compact
names and with full ones, names collide, or the same files come out, or the same thing cannot be read,
which is an entry or the output directory. -/
theorem ofEntries_compact (s : Settings) (hstyle : s.style = .resource) (hurl : s.urlHelpers = false)
    (entries : List Entry) :
    let compact := (ofEntries { s with naming := ⟨s.naming.camelCase, true⟩ } entries).outcome
    let full := (ofEntries { s with naming := ⟨s.naming.camelCase, false⟩ } entries).outcome
    ((∃ name paths, compact = .error (.collision name paths)) ∧
      ∃ name paths, full = .error (.collision name paths)) ∨
    (∃ files routes routes', compact = .ok ⟨files, routes⟩ ∧ full = .ok ⟨files, routes'⟩) ∨
    (∃ f, (Record.ofEntries entries).outcome = .error f ∧
      compact = .error (.defaults f) ∧ full = .error (.defaults f)) ∨
    ((∀ path, s.outputDirectory ≠ .text path) ∧
      ∃ f, compact = .error (.badName f) ∧ full = .error (.badName f)) := by
  intro compact full
  have hextract := Extract.outcome_ofEntries_inNaming
    (s := { s with naming := ⟨s.naming.camelCase, true⟩ }) hurl
    (Naming.agreesWith_full s.naming.camelCase) entries
  have hstyled (naming : Naming) (routes : List Route) :
      filesOf { s with naming } routes = resourceFiles { s with naming } routes := by
    rw [filesOf, hstyle]
  have hcompact : compact = _ := outcome_ofEntries _ entries
  have hfull : full = _ := outcome_ofEntries _ entries
  simp only [hstyled] at hcompact hfull
  rcases hextract with ⟨f, hf, hc, hd⟩ | ⟨⟨name, paths, hc⟩, name', paths', hd⟩ | ⟨routes, hhelper, hc, hd⟩
  · -- an entry cannot be read
    refine .inr (.inr (.inl ⟨f, hf, ?_, ?_⟩))
    · rw [hcompact, hc]
      rfl
    · rw [hfull, hd]
      rfl
  · -- names of path helpers collide, in both namings
    refine .inl ⟨⟨name, paths, ?_⟩, name', paths', ?_⟩
    · rw [hcompact, hc]
      rfl
    · rw [hfull, hd]
      rfl
  · -- the routes that come out have helpers, by which resources are found in both namings
    have hfiles := outcome_resourceFiles_inNaming
      (s := { s with naming := ⟨s.naming.camelCase, true⟩ }) (n := ⟨s.naming.camelCase, false⟩) hhelper
    rw [hc] at hcompact
    rw [hd] at hfull
    simp only [Except.mapError, Except.ok_bind] at hcompact hfull
    rw [hfiles] at hfull
    rcases resourceFiles_cases { s with naming := ⟨s.naming.camelCase, true⟩ } routes with
      ⟨files, h⟩ | ⟨name, paths, h⟩ | ⟨hdirectory, f, h⟩
    · rw [h] at hcompact hfull
      exact .inr (.inl ⟨files, _, _, hcompact, hfull⟩)
    · rw [h] at hcompact hfull
      exact .inl ⟨⟨name, paths, hcompact⟩, name, paths, hfull⟩
    · rw [h] at hcompact hfull
      exact .inr (.inr (.inr ⟨hdirectory, f, hcompact, hfull⟩))

/-- The settings of a tree of resources whose helpers have names in camel case. -/
def camelTree : Settings :=
  Configuration.settings { style := .text "resource", camelCase := .bool true }

/-- The names of the path helpers that come out. -/
def emittedPathNames (naming : Naming) (records : List Record) : Option (List String) :=
  (Extract.ofEntries { camelTree with naming } (records.map .record)).outcome.toOption.map
    fun routes => routes.map (·.name)

/-- Two routes that share a name are told apart, and none of the names stays the same. -/
theorem ofEntries_compact_helpTable :
    camelTree.style = .resource ∧ camelTree.urlHelpers = false ∧
    emittedPathNames ⟨true, true⟩ Extract.helpTable = some ["helpIndex", "helpShow"] ∧
    emittedPathNames ⟨true, false⟩ Extract.helpTable = some ["helpIndexPath", "helpShowPath"] ∧
    let entries := Extract.helpTable.map Entry.record
    let compact := (ofEntries { camelTree with naming := ⟨true, true⟩ } entries).outcome
    let full := (ofEntries { camelTree with naming := ⟨true, false⟩ } entries).outcome
    ((∃ name paths, compact = .error (.collision name paths)) ∧
      ∃ name paths, full = .error (.collision name paths)) ∨
    (∃ files routes routes', compact = .ok ⟨files, routes⟩ ∧ full = .ok ⟨files, routes'⟩) ∨
    (∃ f, (Record.ofEntries entries).outcome = .error f ∧
      compact = .error (.defaults f) ∧ full = .error (.defaults f)) ∨
    ((∀ path, camelTree.outputDirectory ≠ .text path) ∧
      ∃ f, compact = .error (.badName f) ∧ full = .error (.badName f)) :=
  ⟨rfl, rfl, by decide +kernel, by decide +kernel, ofEntries_compact camelTree rfl rfl _⟩

/-- An entry whose defaults are a number. -/
def numberDefaults : Entry :=
  .mapping [(.text "helper", .text "x"), (.text "path", .text "/x"), (.text "verb", .text "GET"),
    (.text "defaults", .int 5)]

/-- Neither names collide nor files come out where an entry cannot be read. -/
theorem not_ofEntries_compact_numberDefaults :
    let compact := (ofEntries { camelTree with naming := ⟨true, true⟩ } [numberDefaults]).outcome
    let full := (ofEntries { camelTree with naming := ⟨true, false⟩ } [numberDefaults]).outcome
    ¬ (((∃ name paths, compact = .error (.collision name paths)) ∧
        ∃ name paths, full = .error (.collision name paths)) ∨
      ∃ files routes routes', compact = .ok ⟨files, routes⟩ ∧ full = .ok ⟨files, routes'⟩) := by
  intro compact full
  have hread : (Record.ofEntries [numberDefaults]).outcome = .error (.notSequence "int") := by
    rfl
  have hcompact : compact = .error (.defaults (.notSequence "int")) := by
    rw [show compact = _ from outcome_ofEntries _ _, Extract.ofEntries,
      Traced.outcome_bind_ok (a := ()) rfl, Traced.outcome_bind, Traced.mapError, hread]
    rfl
  rw [hcompact]
  rintro (⟨⟨name, paths, h⟩, -⟩ | ⟨files, routes, routes', h, -⟩) <;> cases h

end Generation
end RouteHelpers
