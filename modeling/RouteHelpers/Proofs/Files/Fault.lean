import RouteHelpers.Generate
import RouteHelpers.Proofs.Text.Cutting
import RouteHelpers.Proofs.Tracing

/-!
What can go wrong with a file.

A name that holds the null character is one that no file can have. Any other name leads to a fault of the
file system or to none, in reading as in writing: the directories that are made on the way have names
that are parts of the one given, so they hold no null character either.
-/

namespace RouteHelpers.Files

/-- A name that a file can have. -/
def IsNullFree (name : String) : Prop :=
  '\x00' ∉ name.toList

instance (name : String) : Decidable (IsNullFree name) :=
  inferInstanceAs (Decidable ('\x00' ∉ name.toList))

variable {name : String}

/-! ### Parts of names -/

theorem mem_of_mem_directory {c : Char} (h : c ∈ (directory name).toList) : c ∈ name.toList := by
  have hhead : (cutAtLastSlash name.toList).1 <+: name.toList := List.take_prefix _ _
  unfold directory at h
  dsimp only at h
  split at h
  · rw [String.toList_ofList] at h
    exact hhead.subset h
  · rw [String.toList_ofList] at h
    exact hhead.subset ((Text.dropEndList_isPrefix _ _).subset h)

theorem mem_of_mem_join {a b : String} {c : Char} (h : c ∈ (join a b).toList) :
    c ∈ a.toList ∨ c = '/' ∨ c ∈ b.toList := by
  unfold join at h
  split at h
  · exact .inr (.inr h)
  · split at h
    · rw [String.toList_append] at h
      exact (List.mem_append.1 h).imp_right .inr
    · simp only [String.toList_append, List.mem_append] at h
      rcases h with (h | h) | h
      · exact .inl h
      · exact .inr (.inl (by simpa using h))
      · exact .inr (.inr h)

theorem IsNullFree.directory (h : IsNullFree name) : IsNullFree (directory name) :=
  fun hmem => h (mem_of_mem_directory hmem)

/-! ### Faults -/

namespace Tree

theorem follow_ne_nullCharacter (t : Tree) (p : Place) (cs : List String) :
    t.follow p cs ≠ .error .nullCharacter := by
  induction cs generalizing p with
  | nil => exact nofun
  | cons c rest ih =>
    unfold follow
    split
    · exact nofun
    · exact nofun
    · split
      · exact ih p
      · split
        · exact ih p.dropLast
        · split
          · exact nofun
          · exact ih (p ++ [c])

theorem locate_ne_nullCharacter (t : Tree) (h : IsNullFree name) :
    t.locate name ≠ .error .nullCharacter := by
  unfold locate
  split
  · exact nofun
  · split
    next hnull => exact absurd (List.contains_iff_mem.1 hnull) h
    · exact follow_ne_nullCharacter _ _ _

theorem lookUp_ne_nullCharacter (t : Tree) (h : IsNullFree name) :
    t.lookUp name ≠ .error .nullCharacter := by
  intro hfault
  unfold lookUp at hfault
  rcases Except.bind_eq_error.1 hfault with hfault | ⟨p, -, hfault⟩
  · exact locate_ne_nullCharacter t h hfault
  · split at hfault <;> cases hfault

variable {t : Tree} {f : FileFault}

/-- What is a file can be read. -/
theorem exists_read (h : t.isFile name = true) : ∃ content, t.read name = .ok content := by
  unfold isFile at h
  split at h
  next content hlook => exact ⟨content, by rw [read, hlook]⟩
  · cases h

/-- The files of a tree are texts. -/
def HoldsTexts (t : Tree) : Prop :=
  ∀ place octets, (place, Item.file (.octets octets)) ∉ t.items

theorem exists_place_of_at {p : Place} {content : Content} (h : t.at? p = some (.file content)) :
    ∃ place, (place, Item.file content) ∈ t.items := by
  unfold at? at h
  split at h
  · cases h
  · obtain ⟨⟨place, item⟩, hitem, rfl⟩ := Option.map_eq_some_iff.1 h
    exact ⟨place, List.mem_of_find?_eq_some hitem⟩

/-- What is read stands in the tree. -/
theorem exists_place_of_read {content : Content} (h : t.read name = .ok content) :
    ∃ place, (place, Item.file content) ∈ t.items := by
  unfold read at h
  split at h
  next hlook =>
    obtain rfl := Except.ok.inj h
    unfold lookUp at hlook
    obtain ⟨p, -, hp⟩ := Except.bind_eq_ok.1 hlook
    split at hp
    next hat =>
      obtain rfl := Except.ok.inj hp
      exact exists_place_of_at hat
    · cases hp
  · cases h
  · cases h

theorem HoldsTexts.exists_text {content : Content} (ht : t.HoldsTexts) (h : t.read name = .ok content) :
    ∃ s, content = .text s := by
  obtain ⟨place, hplace⟩ := exists_place_of_read h
  cases content with
  | text s => exact ⟨s, rfl⟩
  | octets octets => exact absurd hplace (ht place octets)

theorem kind_of_read (h : IsNullFree name) (hf : t.read name = .error f) :
    f.kind ≠ .nullCharacter := by
  unfold read at hf
  split at hf
  · cases hf
  · cases hf
    exact nofun
  next kind hkind =>
    cases hf
    exact fun hnull => lookUp_ne_nullCharacter t h (hnull ▸ hkind)

theorem kind_of_openFile (h : IsNullFree name) (hf : t.openFile name = .error f) :
    f.kind ≠ .nullCharacter := by
  unfold openFile at hf
  split at hf
  next kind hkind =>
    cases hf
    exact fun hnull => locate_ne_nullCharacter t h (hnull ▸ hkind)
  · split at hf
    · cases hf
      exact nofun
    · cases hf
    · split at hf
      · cases hf
        exact nofun
      · cases hf

/-- A name that a file can have is not what a disk refuses. -/
theorem kind_of_write {disk : Disk} {t' : Tree} {content : String} (h : IsNullFree name)
    (hf : t.write disk name content = (t', some f)) : f.kind ≠ .nullCharacter := by
  unfold write at hf
  split at hf
  next g hopen =>
    obtain rfl := Option.some.inj (Prod.mk.inj hf).2
    exact kind_of_openFile h hopen
  next =>
    split at hf
    · cases hf
    · obtain rfl := Option.some.inj (Prod.mk.inj hf).2
      exact nofun

theorem kind_of_makeDirectory (h : IsNullFree name) (hf : t.makeDirectory name = .error f) :
    f.kind ≠ .nullCharacter := by
  unfold makeDirectory at hf
  split at hf
  next kind hkind =>
    cases hf
    exact fun hnull => locate_ne_nullCharacter t h (hnull ▸ hkind)
  · split at hf <;> cases hf
    exact nofun

/-- **Making the directories of a name** makes those above it first, if they are wanted, and then the
directory itself, unless something went wrong above or there is nothing to do. -/
theorem makeDirectoriesFrom_cases {fuel : Nat} {t t' : Tree} {name : String} {fault : Option FileFault}
    (h : makeDirectoriesFrom (fuel + 1) t name = (t', fault)) :
    ∃ above t₁ fault₁, (above = directory name ∨ above = directory (directory name)) ∧
      ((t, none) = (t₁, fault₁) ∨ makeDirectoriesFrom fuel t above = (t₁, fault₁)) ∧
      ((t₁, none) = (t', fault) ∨ (t₁, fault₁) = (t', fault) ∨
        (t₁.makeDirectory name = .ok t' ∧ fault = none) ∨
        ∃ f, t₁.makeDirectory name = .error f ∧ (t₁, some f) = (t', fault)) := by
  unfold makeDirectoriesFrom at h
  dsimp only at h
  rcases hcut : (if (cutLast name).2.isEmpty = true then cutLast (cutLast name).1
    else ((cutLast name).1, (cutLast name).2)) with ⟨above, last⟩
  have habove : above = directory name ∨ above = directory (directory name) := by
    have hhead (name : String) : (cutLast name).1 = directory name := rfl
    have habove := congrArg Prod.fst hcut
    rw [apply_ite Prod.fst, hhead, hhead] at habove
    split at habove
    · exact .inr habove.symm
    · exact .inl habove.symm
  rw [hcut] at h
  dsimp only at h
  generalize (above.isEmpty || last.isEmpty || t.hasItem above) = hasAbove at h
  -- first those above, unless they are there
  rcases hmade : (if hasAbove = true then (t, none) else makeDirectoriesFrom fuel t above)
    with ⟨t₁, fault₁⟩
  refine ⟨above, t₁, fault₁, habove, ?_, ?_⟩
  · split at hmade
    · exact .inl hmade
    · exact .inr hmade
  -- then the directory, but not behind a fault, or where it is there already
  rw [hmade] at h
  dsimp only at h
  split at h
  case h_3 => exact .inr (.inl h)
  all_goals
    split at h
    · exact .inl h
    · split at h
      next hmake => exact .inr (.inr (.inl ⟨(Prod.mk.inj h).1 ▸ hmake, (Prod.mk.inj h).2.symm⟩))
      next f hmake =>
        split at h
        · exact .inl h
        · exact .inr (.inr (.inr ⟨f, hmake, h⟩))

theorem kind_of_makeDirectoriesFrom {fuel : Nat} {t t' : Tree} {name : String} {f : FileFault}
    (h : IsNullFree name) (hf : makeDirectoriesFrom fuel t name = (t', some f)) :
    f.kind ≠ .nullCharacter := by
  induction fuel generalizing t t' name f with
  | zero => cases hf
  | succ fuel ih =>
    obtain ⟨above, t₁, fault, habove, hmade, hend⟩ := makeDirectoriesFrom_cases hf
    have hfree : IsNullFree above := by
      rcases habove with habove | habove
      all_goals rw [habove]
      · exact h.directory
      · exact h.directory.directory
    -- the fault is one from above, or one of making the directory itself
    rcases hend with hend | hend | hend | hend
    · cases hend
    · cases hend
      rcases hmade with hmade | hmade
      · cases hmade
      · exact ih hfree hmade
    · cases hend.2
    · obtain ⟨g, hmake, hend⟩ := hend
      cases hend
      exact kind_of_makeDirectory h hmake

/-- The directories of a name that a file can have. -/
theorem kind_of_makeDirectories {t t' : Tree} (h : IsNullFree name)
    (hf : t.makeDirectories name = (t', some f)) : f.kind ≠ .nullCharacter :=
  kind_of_makeDirectoriesFrom h hf

end Tree
end RouteHelpers.Files

namespace RouteHelpers

open Files

/-- What holds of every place named. -/
def Destination.IsNamed (P : String → Prop) : Destination → Prop
  | named path => P path
  | _ => False

namespace Writing

variable {disk : Disk} {t t' : Tree}

theorem kind_of_writeOne {path content : String} {f : FileFault} (h : IsNullFree path)
    (hf : writeOne disk t path content = (t', some f)) : f.kind ≠ .nullCharacter := by
  unfold writeOne at hf
  dsimp only at hf
  rcases hmade : (if (directory path).isEmpty = true then (t, none)
    else t.makeDirectories (directory path)) with ⟨t₁, fault⟩
  rw [hmade] at hf
  dsimp only at hf
  split at hf
  next g =>
    -- nothing is written where the directories could not be made
    obtain rfl := Option.some.inj (Prod.mk.inj hf).2
    split at hmade
    · cases hmade
    · exact Tree.kind_of_makeDirectories h.directory hmade
  next => exact Tree.kind_of_write h hf

/-- **Writing files** under names that files can have comes to the faults of the file system and to no
others, and the places that are told are those names. -/
theorem writeFiles_of_named {P : String → Prop} (hP : ∀ path, P path → IsNullFree path)
    {files : List OutputFile} (h : ∀ f ∈ files, f.destination.IsNamed P) {written done : List String}
    {fault : Option WriteFault} (hdone : ∀ path ∈ done, P path)
    (hw : writeFiles disk t done files = (t', written, fault)) :
    (∀ path ∈ written, P path) ∧
      ∀ w, fault = some w → ∃ f : FileFault, w = .file f ∧ f.kind ≠ .nullCharacter := by
  induction files generalizing t done with
  | nil =>
    cases hw
    exact ⟨hdone, nofun⟩
  | cons f files ih =>
    obtain ⟨hf, hfiles⟩ := List.forall_mem_cons.1 h
    obtain ⟨path, hpath⟩ : ∃ path, f.destination = .named path := by
      rcases hplace : f.destination with path | path | g
      · exact ⟨path, rfl⟩
      all_goals rw [hplace] at hf; exact absurd hf id
    rw [hpath] at hf
    rw [writeFiles, hpath, writeTo] at hw
    rcases hone : writeOne disk t path f.content with ⟨t₁, - | g⟩
    · rw [hone] at hw
      refine ih hfiles (fun p hp => ?_) hw
      rcases List.mem_append.1 hp with hp | hp
      · exact hdone p hp
      · exact List.mem_singleton.1 hp ▸ hf
    · rw [hone] at hw
      cases hw
      refine ⟨hdone, fun w hw => ⟨g, (Option.some.inj hw).symm, ?_⟩⟩
      exact kind_of_writeOne (hP path hf) hone

end Writing
end RouteHelpers
