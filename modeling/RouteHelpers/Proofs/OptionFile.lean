import RouteHelpers.OptionFile
import RouteHelpers.Proofs.Depth
import RouteHelpers.Proofs.Files.Fault
import RouteHelpers.Proofs.Tracing

/-!
What can be wrong with options.

A fault of an option file is one of the configuration, which a user is told of, unless its reader has a fault
of its own, such as a scalar that lacks the form its tag asks for, or a name that no option has is no text. A
configuration that is not valid has such a fault as well, unless one of its values is too long to be shown or
a pattern of it counts too high or goes too deep.
-/

namespace RouteHelpers

namespace OptionFile

/-- The option file with a text has its scalars in form, texts for names, and nothing too deep in it. -/
structure IsSound (yaml : List Char → Except Yaml.ReadFault Value) (file s : String) : Prop where
  scalars : ∀ f, yaml (Text.plainNewlinesList s.toList) = .error f → f = .malformed
  names : ∀ v entries, yaml (Text.plainNewlinesList s.toList) = .ok v →
    mapping file v = .ok entries → ∀ e ∈ entries, ∃ name, e.1 = .text name
  depth : ∀ v, yaml (Text.plainNewlinesList s.toList) = .ok v → v.IsWithin nestingLimit

variable {yaml : List Char → Except Yaml.ReadFault Value} {file s : String} {f : ReadFault}

theorem known_eq_error {entries : Entries} (h : ∀ e ∈ entries, ∃ name, e.1 = .text name)
    (hf : known file entries = .error f) : ∃ c, f = .configuration c := by
  unfold known at hf
  dsimp only at hf
  split at hf
  · cases hf
  next first rest hunknown =>
    -- as every name is a text, so is every unknown one
    have htexts : ∀ k ∈ first :: rest, ∃ name, k = .text name := fun k hk => by
      rw [← hunknown] at hk
      obtain ⟨e, he, rfl⟩ := List.mem_map.1 (List.mem_of_mem_filter hk)
      exact h e he
    split at hf
    · exact ⟨_, (Except.error.inj hf).symm⟩
    next hlength =>
      refine absurd ?_ hlength
      rw [hunknown, List.length_filterMap_eq_countP, List.countP_eq_length]
      intro k hk
      obtain ⟨name, rfl⟩ := htexts k hk
      rfl

theorem mapping_eq_error {v : Value} (hf : mapping file v = .error f) :
    f = .configuration (.notOptions file) := by
  unfold mapping at hf
  split at hf
  · split at hf <;> cases hf
  · exact (Except.error.inj hf).symm

/-- **A fault of an option file** with texts for names is one of the configuration. -/
theorem options_eq_error (h : IsSound yaml file s) (hf : options yaml file (.text s) = .error f) :
    ∃ c, f = .configuration c := by
  rw [options, document] at hf
  -- the text is no document, or the document is no mapping, or a name in it is unknown
  rcases Except.bind_eq_error.1 hf with hf | ⟨v, hv, hf⟩
  · obtain ⟨text, htext, hf⟩ := (Except.bind_eq_error.1 hf).resolve_left nofun
    obtain rfl : Text.plainNewlinesList s.toList = text := Except.ok.inj htext
    obtain ⟨g, hg, rfl⟩ := Except.mapError_eq_error.1 hf
    obtain rfl := h.scalars g hg
    exact ⟨_, rfl⟩
  · obtain ⟨text, htext, hv⟩ := Except.bind_eq_ok.1 hv
    obtain rfl : Text.plainNewlinesList s.toList = text := Except.ok.inj htext
    rw [Except.mapError_eq_ok] at hv
    rcases Except.bind_eq_error.1 hf with hf | ⟨entries, hentries, hf⟩
    · exact ⟨_, mapping_eq_error hf⟩
    · exact known_eq_error (h.names v entries hv hentries) hf

/-- A fault of reading an option file is one of the file system or of the configuration. -/
theorem read_eq_error {t : Files.Tree} {name : String} (hname : Files.IsNullFree name)
    (htext : ∀ content, t.read name = .ok content → ∃ s, content = .text s ∧ IsSound yaml name s)
    (hf : read yaml t name = .error f) :
    (∃ g : Files.FileFault, f = .file g ∧ g.kind ≠ .nullCharacter) ∨ ∃ c, f = .configuration c := by
  rcases Except.bind_eq_error.1 hf with hf | ⟨content, hcontent, hf⟩
  · obtain ⟨g, hg, rfl⟩ := Except.mapError_eq_error.1 hf
    exact .inl ⟨g, rfl, Files.Tree.kind_of_read hname hg⟩
  · rw [Except.mapError_eq_ok] at hcontent
    obtain ⟨s, rfl, hs⟩ := htext content hcontent
    exact .inr (options_eq_error hs hf)

end OptionFile

namespace Configuration

/-- A configuration whose faults can be told: what is shown is short enough, and no pattern counts higher
than anything can or has groups nested too deep. -/
structure IsSound (c : Configuration) : Prop where
  shown : ∀ v ∈ [c.moduleType, c.variant, c.style, c.groupBy], v.isWritable = true
  patterns : ∀ v ∈ [c.included, c.excluded], ∀ items, v = .list items ∨ v = .tuple items →
    ∀ source, .text source ∈ items →
      ∀ f, Pattern.compile source = .error f → f ≠ .countTooLarge ∧ ∀ g, f ≠ .numeral g
  depth : ∀ v ∈ [c.included, c.excluded], ∀ items, v = .list items ∨ v = .tuple items →
    ∀ source, .text source ∈ items → Pattern.IsWithin nestingLimit source

variable {c : Configuration} {f : ValidationFault}

theorem faultShowing_eq {show' : String → ConfigurationFault} {v : Value} (h : v.isWritable = true) :
    faultShowing show' v = .configuration (show' v.literal) :=
  if_pos h

theorem isWritable_normalizeModuleType {v : Value} (h : v.isWritable = true) :
    (normalizeModuleType v).isWritable = true := by
  unfold normalizeModuleType
  split
  · split <;> rfl
  · exact h

theorem choiceFault?_eq_some (h : ∀ v ∈ [c.moduleType, c.variant, c.style, c.groupBy],
    v.isWritable = true) (hf : c.choiceFault? = some f) : ∃ g, f = .configuration g := by
  obtain ⟨hmodule, hvariant, hstyle, hgroup⟩ : c.moduleType.isWritable = true ∧
      c.variant.isWritable = true ∧ c.style.isWritable = true ∧ c.groupBy.isWritable = true := by
    simpa using h
  unfold choiceFault? at hf
  split at hf
  · exact ⟨_, (Option.some.inj hf).symm.trans (faultShowing_eq hmodule)⟩
  · split at hf
    · exact ⟨_, (Option.some.inj hf).symm.trans (faultShowing_eq hvariant)⟩
    · split at hf
      · exact ⟨_, (Option.some.inj hf).symm.trans (faultShowing_eq hstyle)⟩
      · split at hf
        · exact ⟨_, (Option.some.inj hf).symm.trans (faultShowing_eq hgroup)⟩
        · cases hf

theorem compilePattern_eq_error {option : String} {v : Value}
    (h : ∀ source, v = .text source → ∀ f, Pattern.compile source = .error f →
      f ≠ .countTooLarge ∧ ∀ g, f ≠ .numeral g)
    (hf : compilePattern option v = .error f) : ∃ g, f = .configuration g := by
  unfold compilePattern at hf
  split at hf
  · cases hf
  next source =>
    split at hf
    · cases hf
    next hcount => exact absurd rfl (h source rfl _ hcount).1
    next g hnumeral => exact absurd rfl ((h source rfl _ hnumeral).2 g)
    next => exact ⟨_, (Except.error.inj hf).symm⟩
  · exact ⟨_, (Except.error.inj hf).symm⟩

theorem compilePatterns_eq_error {option : String} {v : Value}
    (h : ∀ items, v = .list items ∨ v = .tuple items → ∀ source, .text source ∈ items →
      ∀ f, Pattern.compile source = .error f → f ≠ .countTooLarge ∧ ∀ g, f ≠ .numeral g)
    (hf : compilePatterns option v = .error f) : ∃ g, f = .configuration g := by
  have hmapM (items : List Value) (hitems : v = .list items ∨ v = .tuple items)
      (hf : (items.mapM (compilePattern option)).map Value.list = .error f) :
      ∃ g, f = .configuration g := by
    obtain ⟨item, hitem, hf⟩ := Except.exists_of_mapM_eq_error (Except.map_eq_error.1 hf)
    exact compilePattern_eq_error (fun source hsource => h items hitems source (hsource ▸ hitem)) hf
  unfold compilePatterns at hf
  split at hf
  next items => exact hmapM items (.inl rfl) hf
  next items => exact hmapM items (.inr rfl) hf
  · exact ⟨_, (Except.error.inj hf).symm⟩

/-- **A fault of a configuration** that can be told is told. -/
theorem validate_fault (h : c.IsSound) (hf : c.validate.fault = some f) : ∃ g, f = .configuration g := by
  unfold validate at hf
  dsimp only at hf
  split at hf
  next g hg =>
    refine choiceFault?_eq_some ?_ (hg.trans hf)
    obtain ⟨hmodule, hothers⟩ := List.forall_mem_cons.1 h.shown
    exact List.forall_mem_cons.2 ⟨isWritable_normalizeModuleType hmodule, hothers⟩
  · split at hf
    next g hg =>
      exact compilePatterns_eq_error (h.patterns c.included (by simp))
        (hg.trans (congrArg Except.error (Option.some.inj hf)))
    · split at hf
      next g hg =>
        exact compilePatterns_eq_error (h.patterns c.excluded (by simp))
          (hg.trans (congrArg Except.error (Option.some.inj hf)))
      · split at hf
        · cases hf
        · exact ⟨_, (Option.some.inj hf).symm⟩

/-- A fault of options is one of the configuration that they give. -/
theorem ofOptions_eq_error {given : List (String × Value)} (h : (assignAll {} given).IsSound)
    (hf : ofOptions given = .error f) : ∃ g, f = .configuration g := by
  unfold ofOptions merge at hf
  split at hf
  · unfold valid at hf
    dsimp only at hf
    split at hf
    · cases hf
    next g hg => exact validate_fault h (hg.trans (congrArg some (Except.error.inj hf)))
  · exact ⟨_, (Except.error.inj hf).symm⟩

end Configuration
end RouteHelpers
