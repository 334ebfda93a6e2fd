import RouteHelpers.CommandLine.Run
import RouteHelpers.Proofs.Extract.RouteTable
import RouteHelpers.Proofs.Files.Fault
import RouteHelpers.Proofs.Resource.Overwriting
import RouteHelpers.Proofs.Script.Writing

/-!
What can be wrong with generating.

Records give files unless names collide, where the data in the files has a JSON form and the places that
the settings name are texts. The files go to these places or to ones below them, and what is put behind a
directory has no characters but those of words, digits, slashes and the ending.

Generating goes in steps: routes are extracted, the style makes files of them, and these get their places.
`outcome_ofEntries` and `outcome_resourceFiles` take the outcome apart into those of the steps.
-/

namespace RouteHelpers

/-- A name that a file can have, and that stands in a line as it is. -/
structure IsPlace (path : String) : Prop where
  nullFree : Files.IsNullFree path
  no_bracket : '[' ∉ path.toList

namespace IsPlace

theorem of_forall_mem {path path' : String} (h : IsPlace path)
    (hmem : ∀ c ∈ path'.toList, c ∈ path.toList ∨ c ≠ '\x00' ∧ c ≠ '[') : IsPlace path' where
  nullFree hnull := (hmem _ hnull).elim h.nullFree fun hne => hne.1 rfl
  no_bracket hbracket := (hmem _ hbracket).elim h.no_bracket fun hne => hne.2 rfl

theorem join {directory path : String} (h : IsPlace directory)
    (hpath : ∀ c ∈ path.toList, c ≠ '\x00' ∧ c ≠ '[') : IsPlace (Files.join directory path) := by
  refine h.of_forall_mem fun c hc => ?_
  rcases Files.mem_of_mem_join hc with hc | rfl | hc
  · exact .inl hc
  · exact .inr (by decide)
  · exact .inr (hpath c hc)

end IsPlace

/-! ### The files of the resource style -/

namespace Resource

theorem ne_of_isKeyChar {c : Char} (h : ResourceKey.isKeyChar c = true) : c ≠ '\x00' ∧ c ≠ '[' := by
  constructor <;> rintro rfl <;> exact absurd h (by decide)

theorem ne_of_mem_place {directory : List String} {name : String}
    (h : ∀ w ∈ directory ++ [name], ∀ c ∈ w.toList, ResourceKey.isKeyChar c = true) :
    ∀ c ∈ (place directory name).toList, c ≠ '\x00' ∧ c ≠ '[' := by
  have hending : ∀ c ∈ fileEnding.toList, c ≠ '\x00' ∧ c ≠ '[' := by simp [fileEnding]
  intro c hc
  rw [place, String.toList_append] at hc
  rcases List.mem_append.1 hc with hc | hc
  · rcases Text.mem_joinWith hc with hc | ⟨w, hw, hc⟩
    · obtain rfl : c = '/' := by simpa using hc
      decide
    · exact ne_of_isKeyChar (h w hw c hc)
  · exact hending c hc

variable {s : Settings} {routes : List Route}

/-- **The files of the output directory** have plain names. -/
theorem ne_of_mem_path {fs : List SourceFile} (h : (files s routes).outcome = .ok fs) :
    ∀ f ∈ fs, ∀ c ∈ f.path.toList, c ≠ '\x00' ∧ c ≠ '[' := by
  obtain ⟨t, ht, rfl⟩ := exists_tree_of_files h
  intro f hf
  have hpath : f.path ∈ (t.files s).map (·.path) := List.mem_map_of_mem hf
  rw [map_path_files] at hpath
  obtain ⟨k, hk, hpath⟩ := List.mem_map.1 hpath
  rw [← hpath]
  have hfixed : ∀ w ∈ ["lib", "wayfinder", "index"], w.toList.all ResourceKey.isKeyChar = true := by
    decide
  exact ne_of_mem_place ((isOf_of_tree ht).of_mem_fileKeys (fun w hw => List.all_eq_true.1 (hfixed w hw))
    (fun _ _ _ hw _ => ResourceKey.isKeyChar_of_mem_words hw) hk)

end Resource

/-! ### Generating -/

namespace Settings

/-- The places that the settings name are texts, in the style that they ask for. -/
structure HavePlaces (s : Settings) : Prop where
  script : s.style = .classic → ∃ path, s.outputFile = .text path ∧ IsPlace path
  types : s.style = .classic → s.generateTypes = true →
    ∃ path, s.typesPath = .ok (.text path) ∧ IsPlace path
  directory : s.style = .resource → ∃ path, s.outputDirectory = .text path ∧ IsPlace path

/-- The data in the emitted code has a JSON form. -/
def HaveData (s : Settings) (routes : List Route) : Prop :=
  s.style = .classic → s.variant = .simple →
    Json.IsWritable s.defaultUrlOptions ∧ ∀ r ∈ routes, r.HasWritableDefaults

end Settings

namespace Generation

variable {s : Settings} {routes : List Route}

theorem outcome_ofEntries (s : Settings) (entries : List Entry) :
    (ofEntries s entries).outcome
      = ((Extract.ofEntries s entries).outcome.mapError .ofExtract >>= fun routes =>
          (filesOf s routes).outcome.map fun files => ⟨files, routes⟩) := by
  rw [ofEntries, Traced.outcome_bind_ok (a := ()) rfl, Traced.outcome_bind]
  show (_ >>= fun routes => (filesOf s routes >>= _).outcome) = _
  refine congrArg _ (funext fun routes => ?_)
  rw [Traced.outcome_bind]
  cases (filesOf s routes).outcome <;> rfl

theorem outcome_resourceFiles (s : Settings) (routes : List Route) :
    (resourceFiles s routes).outcome
      = ((Resource.files s routes).outcome.mapError .ofBinding >>= fun files =>
          files.mapM (belowOutput s.outputDirectory)) := by
  rw [resourceFiles, Traced.outcome_bind]
  rfl

/-- The two files of the classic style go to the places that are named. -/
theorem exists_classicFiles (hstyle : s.style = .classic) (hplaces : s.HavePlaces)
    (hdata : s.HaveData routes) :
    ∃ fs, (classicFiles s routes).outcome = .ok fs ∧ ∀ f ∈ fs, f.destination.IsNamed IsPlace := by
  obtain ⟨path, hpath, hplace⟩ := hplaces.script hstyle
  obtain ⟨code, hcode⟩ := Script.exists_generate (hdata hstyle)
  have hscript : ((Script.generate s routes).mapError GenerateFault.notJson).outcome = .ok code := by
    rw [Traced.mapError, hcode]
    rfl
  rw [classicFiles, Traced.outcome_bind_ok hscript, hpath]
  cases htypes : s.generateTypes with
  | true =>
    obtain ⟨place, hname, htypesPlace⟩ := hplaces.types hstyle htypes
    rw [hname]
    refine ⟨_, rfl, fun f hf => ?_⟩
    rcases List.mem_pair.1 hf with rfl | rfl
    · exact hplace
    · exact htypesPlace
  | false =>
    refine ⟨_, rfl, fun f hf => ?_⟩
    obtain rfl := List.mem_singleton.1 hf
    exact hplace

/-- Files of resources go below the directory that is named, unless bindings collide. -/
theorem resourceFiles_places (hstyle : s.style = .resource) (hplaces : s.HavePlaces) :
    (∃ fs, (resourceFiles s routes).outcome = .ok fs ∧ ∀ f ∈ fs, f.destination.IsNamed IsPlace) ∨
      ∃ name paths, (resourceFiles s routes).outcome = .error (.collision name paths) := by
  obtain ⟨directory, hdirectory, hplace⟩ := hplaces.directory hstyle
  rw [outcome_resourceFiles]
  rcases hfiles : (Resource.files s routes).outcome with c | fs
  · exact .inr ⟨c.name, c.paths, rfl⟩
  · left
    have hbelow : fs.mapM (belowOutput s.outputDirectory)
        = .ok (fs.map fun f => ⟨.named (Files.join directory f.path), f.content⟩) := by
      rw [hdirectory]
      exact Except.mapM_eq_ok fun f _ => rfl
    refine ⟨_, hbelow, fun f hf => ?_⟩
    obtain ⟨file, hfile, rfl⟩ := List.mem_map.1 hf
    exact hplace.join (Resource.ne_of_mem_path hfiles file hfile)

/-- Files come out with their places, or bindings collide. -/
theorem filesOf_cases (hplaces : s.HavePlaces) (hdata : s.HaveData routes) :
    (∃ fs, (filesOf s routes).outcome = .ok fs ∧ ∀ f ∈ fs, f.destination.IsNamed IsPlace) ∨
      ∃ name paths, (filesOf s routes).outcome = .error (.collision name paths) := by
  cases hstyle : s.style with
  | classic =>
    rw [filesOf, hstyle]
    exact .inl (exists_classicFiles hstyle hplaces hdata)
  | resource =>
    rw [filesOf, hstyle]
    exact resourceFiles_places hstyle hplaces

/-- **Generating for records** comes to files with their places and to the routes of the records, or names
collide. -/
theorem ofEntries_cases {records : List Record} (hplaces : s.HavePlaces)
    (hdata : s.HaveData (Extract.settledRoutes s records)) :
    (∃ fs, (ofEntries s (records.map .record)).outcome = .ok ⟨fs, Extract.settledRoutes s records⟩ ∧
        ∀ f ∈ fs, f.destination.IsNamed IsPlace) ∨
      ∃ name paths, (ofEntries s (records.map .record)).outcome = .error (.collision name paths) := by
  rw [outcome_ofEntries, Extract.outcome_ofEntries]
  split
  next name paths _ => exact .inr ⟨name, paths, rfl⟩
  · simp only [Except.mapError, Except.ok_bind]
    rcases filesOf_cases hplaces hdata with ⟨fs, hfs, hnamed⟩ | ⟨name, paths, hfault⟩
    · exact .inl ⟨fs, by rw [hfs]; rfl, hnamed⟩
    · exact .inr ⟨name, paths, by rw [hfault]; rfl⟩

end Generation
end RouteHelpers
