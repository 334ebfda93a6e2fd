import RouteHelpers.Proofs.Resource.Overwriting

/-!
Where the files of the output tree are.

Whatever helpers and paths of routes say, the words of a key are made of the characters of words. So the
path of a file goes down through directories with such names and ends in such a name with the ending:
it leads nowhere but below the output directory. As an ending is what the names of directories never
have, no file stands where another needs a directory, and all files can be written.
-/

namespace RouteHelpers

/-! ### Names -/

/-- The decimal digits of every script are characters of words. -/
theorem Text.isWord_of_isDecimal {c : Char} (h : Text.isDecimal c = true) : Text.isWord c = true := by
  -- beyond ASCII, each range of digits lies in a range of letters and numbers
  have hranges : Text.Table.decimal.toList.all (fun d =>
      Text.Table.alphanumeric.toList.any fun a => a.1 ≤ d.1 && d.2 ≤ a.2) = true := by
    decide +kernel
  rw [Text.isWord, Text.isAlphanumeric, Bool.or_eq_true]
  refine .inr ?_
  unfold Text.isDecimal at h
  split at h
  next hascii => rw [if_pos hascii, Char.isAlphanum, h, Bool.or_true]
  next hascii =>
    rw [if_neg hascii]
    simp only [Text.inRanges, Array.any_eq_true', Bool.and_eq_true, decide_eq_true_eq] at h ⊢
    obtain ⟨d, hd, hlow, hhigh⟩ := h
    have hin := List.all_eq_true.1 hranges d (Array.mem_toList_iff.2 hd)
    obtain ⟨a, ha, hda⟩ := List.any_eq_true.1 hin
    simp only [Bool.and_eq_true, decide_eq_true_eq] at hda
    exact ⟨a, Array.mem_toList_iff.1 ha, by omega, by omega⟩

/-- A text of the characters of words, with at least one. -/
structure IsPlainName (w : String) : Prop where
  nonempty : w ≠ ""
  isWord : ∀ c ∈ w.toList, Text.isWord c = true

instance (w : String) : Decidable (IsPlainName w) :=
  decidable_of_iff (w ≠ "" ∧ w.toList.all Text.isWord = true)
    ⟨fun ⟨h₁, h₂⟩ => ⟨h₁, List.all_eq_true.1 h₂⟩, fun ⟨h₁, h₂⟩ => ⟨h₁, List.all_eq_true.2 h₂⟩⟩

theorem IsPlainName.not_mem {w : String} (h : IsPlainName w) {c : Char} (hc : Text.isWord c = false) :
    c ∉ w.toList :=
  fun hmem => absurd (h.isWord c hmem) (by rw [hc]; decide)

/-- **The words of a key are plain names.** -/
theorem ResourceKey.isPlainName_of_mem_words {g : Grouping} {r : Route} {w : String}
    (h : w ∈ (ofRoute g r).words) : IsPlainName w where
  nonempty := ne_empty_of_mem_words h
  isWord c hc := by
    rcases Bool.or_eq_true_iff.1 (isKeyChar_of_mem_words h hc) with hword | hdigit
    · exact hword
    · exact Text.isWord_of_isDecimal hdigit

namespace Resource

variable {s : Settings} {routes : List Route} {fs : List SourceFile}

/-! ### Paths -/

/-- A path that goes down through plain names to a file whose name is plain but for the ending. -/
def IsConfined (path : String) : Prop :=
  ∃ directory name, (∀ w ∈ directory, IsPlainName w) ∧ IsPlainName name ∧
    Text.split '/' path = directory ++ [name ++ fileEnding]

theorem isConfined_of_mem_files (h : (files s routes).outcome = .ok fs) {f : SourceFile} (hf : f ∈ fs) :
    IsConfined f.path := by
  obtain ⟨t, ht, rfl⟩ := exists_tree_of_files h
  have hpath : f.path ∈ (t.files s).map (·.path) := List.mem_map_of_mem hf
  rw [map_path_files] at hpath
  obtain ⟨k, hk, hpath⟩ := List.mem_map.1 hpath
  have hwords : ∀ w ∈ k.words, IsPlainName w :=
    (isOf_of_tree ht).of_mem_fileKeys (by decide)
      (fun _ _ _ hw => ResourceKey.isPlainName_of_mem_words hw) hk
  have hscope : ∀ w ∈ k.scope, IsPlainName w := fun w hw => hwords w (List.mem_append_left _ hw)
  have hname : IsPlainName k.name := hwords _ (List.mem_append_right _ (List.mem_singleton_self _))
  refine ⟨k.scope, k.name, hscope, hname, ?_⟩
  rw [← hpath]
  exact split_place (fun w hw => (hscope w hw).not_mem (by decide)) (hname.not_mem (by decide))

namespace IsConfined

variable {path path' w : String}

/-- A component is a plain name, or one with the ending. -/
theorem cases_component (h : IsConfined path) (hw : w ∈ Text.split '/' path) :
    IsPlainName w ∨ ∃ name, IsPlainName name ∧ w = name ++ fileEnding := by
  obtain ⟨directory, name, hdirectory, hname, hsplit⟩ := h
  rw [hsplit, List.mem_append, List.mem_singleton] at hw
  exact hw.imp (hdirectory w) fun hw => ⟨name, hname, hw⟩

/-- A component says neither to stay nor to go up, nor to start at the root. -/
theorem not_mem_split (h : IsConfined path) (hw : w ∈ ["", ".", ".."]) : w ∉ Text.split '/' path := by
  intro hmem
  rcases h.cases_component hmem with hplain | ⟨name, hname, rfl⟩
  · have hnone : ∀ w ∈ ["", ".", ".."], ¬ IsPlainName w := by decide
    exact hnone w hw hplain
  · -- what is longer than the ending by a name is longer than all of these
    have hshort : ∀ w ∈ ["", ".", ".."], w.length ≤ fileEnding.length := by decide
    have hle := hshort _ hw
    rw [String.length_append] at hle
    have hpos : name.length ≠ 0 := fun hzero => hname.nonempty (String.length_eq_zero_iff.1 hzero)
    omega

theorem not_startsWith_slash (h : IsConfined path) : Text.startsWith "/" path = false := by
  refine Bool.eq_false_iff.2 fun hstart => h.not_mem_split (w := "") (by decide) ?_
  obtain ⟨rest, hrest⟩ := List.isPrefixOf_iff_prefix.1 hstart
  have hpath : path = "" ++ String.singleton '/' ++ String.ofList rest := by
    rw [← String.toList_inj]
    simpa using hrest.symm
  rw [hpath, Text.split_append_sep]
  exact List.mem_append_left _ (by decide)

/-- What has an ending is no directory of a path. -/
theorem not_startsWith_directory (h : IsConfined path) (h' : IsConfined path') :
    Text.startsWith (path ++ "/") path' = false := by
  refine Bool.eq_false_iff.2 fun hstart => ?_
  obtain ⟨rest, hrest⟩ := List.isPrefixOf_iff_prefix.1 hstart
  have hpath : path' = path ++ String.singleton '/' ++ String.ofList rest := by
    rw [← String.toList_inj]
    simpa using hrest.symm
  obtain ⟨directory, name, hdirectory, -, hsplit⟩ := h'
  obtain ⟨_, own, -, -, hown⟩ := h
  rw [hpath, Text.split_append_sep, hown] at hsplit
  -- the file's name is in front of what the other path goes on with, so it is one of its directories
  have hne : Text.split '/' (String.ofList rest) ≠ [] := by
    simpa [Text.split] using Text.splitList_ne_nil '/' rest
  have hdropped := congrArg List.dropLast hsplit
  rw [List.dropLast_append_of_ne_nil hne, List.dropLast_concat] at hdropped
  have hmem : own ++ fileEnding ∈ directory := by
    rw [← hdropped]
    simp
  refine (hdirectory _ hmem).not_mem (c := '.') (by decide) ?_
  rw [String.toList_append]
  exact List.mem_append_right _ (by decide)

end IsConfined

/-- **Files stay inside the output tree and can all be written**: the directories of a path have plain
names and so has the file, but for its ending; no path starts at the root, stays in place or goes up;
and no file stands where another has a directory. -/
theorem files_isConfined (h : (files s routes).outcome = .ok fs) :
    (∀ f ∈ fs, ∃ directory name, (∀ w ∈ directory, IsPlainName w) ∧ IsPlainName name ∧
      Text.split '/' f.path = directory ++ [name ++ ".ts"]) ∧
    (∀ f ∈ fs, Text.startsWith "/" f.path = false ∧ "." ∉ Text.split '/' f.path ∧
      ".." ∉ Text.split '/' f.path) ∧
    ∀ f ∈ fs, ∀ g ∈ fs, Text.startsWith (f.path ++ "/") g.path = false := by
  have hconfined : ∀ f ∈ fs, IsConfined f.path := fun f hf => isConfined_of_mem_files h hf
  refine ⟨hconfined, fun f hf => ?_, fun f hf g hg => ?_⟩
  · exact ⟨(hconfined f hf).not_startsWith_slash, (hconfined f hf).not_mem_split (by decide),
      (hconfined f hf).not_mem_split (by decide)⟩
  · exact (hconfined f hf).not_startsWith_directory (hconfined g hg)

/-- A route whose path and helper are full of what leads elsewhere. -/
def strayRoute : Route :=
  Route.ofRecord Settings.default.naming
    ⟨"GET", "/api/v2/../:id//x y/", some "../../etc/'passwd'.ts", none, false, default⟩

theorem files_isConfined_strayRoute :
    ∃ fs, (files scopeGrouped [strayRoute]).outcome = .ok fs ∧
      (fs.map (·.path)).contains "api/v2/root/x_y.ts" = true ∧
      (∀ f ∈ fs, ∃ directory name, (∀ w ∈ directory, IsPlainName w) ∧ IsPlainName name ∧
        Text.split '/' f.path = directory ++ [name ++ ".ts"]) ∧
      (∀ f ∈ fs, Text.startsWith "/" f.path = false ∧ "." ∉ Text.split '/' f.path ∧
        ".." ∉ Text.split '/' f.path) ∧
      ∀ f ∈ fs, ∀ g ∈ fs, Text.startsWith (f.path ++ "/") g.path = false := by
  obtain ⟨fs, h⟩ := exists_files_singleton scopeGrouped strayRoute
  refine ⟨fs, h, ?_, files_isConfined h⟩
  obtain ⟨t, ht, rfl⟩ := exists_tree_of_files h
  have hpath : (ofGroup scopeGrouped.grouping [strayRoute]).path = "api/v2/root/x_y.ts" := by
    decide +kernel
  rw [List.contains_iff_mem, Tree.files, (isOf_of_tree ht).resources, listed_singleton, ← hpath]
  simp [source]

end Resource
end RouteHelpers
