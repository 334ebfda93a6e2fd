import RouteHelpers.Proofs.Files.Fault

/-!
What a run of writes leaves behind.

Files are written one after the other, and two names may lead to one place. So what stands at a place
afterwards is the content of the last of the files that lead there, and what stood there before if none
does (`AreWritten`):

    t'.fileAt? p = (lastContent? t' files p).or (t.fileAt? p)

Names are followed in the tree that is left. They lead to the same places as when they were written:
directories are only ever added (`Keeps`). A write that fails has come no further than to directories,
unless its file was opened and the disk did not take the text: then that one file is cut (`IsCut`), and no
other is touched. So `AreWritten` of no files says what a failure may have done before a file is open, and
runs are put together by `AreWritten.append`.

The hooks are called behind the last write. They share one list, so what the second one sees is up to the
first one. Hooks that leave the list as they find it all see the places of all files
(`callHooks_of_observes`).
-/

namespace RouteHelpers

open Files

/-! ### Trees -/

namespace Files.Tree

variable {t t' t'' : Tree} {p q : Place}

/-- The file at a place. -/
def fileAt? (t : Tree) (p : Place) : Option Content :=
  match t.at? p with
  | some (.file content) => some content
  | _ => none

/-- Places are told by their items alone, the root excepted. -/
theorem at?_of_ne_nil (t : Tree) (h : q ≠ []) :
    t.at? q = (t.items.find? fun x => x.1 == q).map (·.2) := by
  rw [at?, if_neg (by simpa using h)]

theorem at?_put (t : Tree) (hp : p ≠ []) (i : Item) (q : Place) :
    (t.put p i).at? q = if q = p then some i else t.at? q := by
  by_cases hq : q = []
  · subst hq
    rw [if_neg hp.symm]
    rfl
  rw [at?_of_ne_nil _ hq, at?_of_ne_nil _ hq, put]
  split
  next hthere =>
    -- the items at the place are replaced, and the items keep their places
    have hplace : ((fun x : Place × Item => x.1 == q) ∘ fun x => if x.1 == p then (p, i) else x)
        = fun x => x.1 == q := by
      funext x
      by_cases hx : x.1 = p <;> simp [hx]
    rw [List.find?_map, hplace]
    rcases hfind : t.items.find? fun x => x.1 == q with - | x
    · have hne : q ≠ p := by
        rintro rfl
        obtain ⟨x, hx, hxp⟩ := List.any_eq_true.1 hthere
        exact List.find?_eq_none.1 hfind x hx hxp
      rw [hfind, if_neg hne]
      rfl
    · have hx : x.1 = q := by simpa using List.find?_some hfind
      rw [hfind]
      by_cases hqp : q = p <;> simp [hx, hqp]
  next hnone =>
    -- the item comes behind the others, none of which stands at the place
    rw [List.find?_append]
    by_cases hqp : q = p
    · have hfind : (t.items.find? fun x => x.1 == q) = none :=
        List.find?_eq_none.2 fun x hx hxp =>
          hnone (List.any_eq_true.2 ⟨x, hx, by simpa [hqp] using hxp⟩)
      rw [hfind]
      simp [hqp]
    · simp [hqp, Ne.symm hqp]

theorem fileAt?_put (t : Tree) (hp : p ≠ []) (i : Item) (q : Place) :
    (t.put p i).fileAt? q =
      if q = p then (match i with | .file content => some content | .directory => none)
      else t.fileAt? q := by
  rw [fileAt?, at?_put t hp]
  by_cases hqp : q = p
  · rw [if_pos hqp, if_pos hqp]
    cases i <;> rfl
  · rw [if_neg hqp, if_neg hqp]
    rfl

/-- Of two items that are put at one place, the later one stays. -/
theorem put_put (t : Tree) (p : Place) (i j : Item) : (t.put p i).put p j = t.put p j := by
  by_cases hthere : t.items.any (fun x => x.1 == p) = true
  · have hthere' : ((t.items.map fun x => if x.1 == p then (p, i) else x).any fun x => x.1 == p)
        = true := by
      obtain ⟨x, hx, hxp⟩ := List.any_eq_true.1 hthere
      exact List.any_eq_true.2 ⟨_, List.mem_map.2 ⟨x, hx, rfl⟩, by rw [if_pos hxp]; simp⟩
    simp only [put, if_pos hthere, if_pos hthere', List.map_map]
    congr 1
    refine List.map_congr_left fun x _ => ?_
    by_cases hx : x.1 = p <;> simp [hx]
  · have hne : ∀ x ∈ t.items, x.1 ≠ p := fun x hx hxp =>
      hthere (List.any_eq_true.2 ⟨x, hx, by simpa using hxp⟩)
    have hsame : t.items.map (fun x => if x.1 = p then (p, j) else x) = t.items :=
      (List.map_congr_left fun x hx => if_neg (hne x hx)).trans (List.map_id t.items)
    simp [put, if_neg hthere, List.map_append, hsame]

/-- The root is a directory. -/
theorem ne_nil_of_at? (h : t.at? p ≠ some .directory) : p ≠ [] := by
  rintro rfl
  exact h rfl

/-! ### Directories that stay -/

/-- What was a directory still is one. -/
structure Keeps (t t' : Tree) : Prop where
  workingDirectory : t'.workingDirectory = t.workingDirectory
  directory : ∀ p, t.at? p = some .directory → t'.at? p = some .directory

namespace Keeps

theorem refl (t : Tree) : Keeps t t :=
  ⟨rfl, fun _ => id⟩

theorem trans (h : Keeps t t') (h' : Keeps t' t'') : Keeps t t'' :=
  ⟨h'.workingDirectory.trans h.workingDirectory, fun p hp => h'.directory p (h.directory p hp)⟩

/-- An item can be put where no directory is. -/
theorem put (h : t.at? p ≠ some .directory) (i : Item) : Keeps t (t.put p i) where
  workingDirectory := by
    unfold Tree.put
    split <;> rfl
  directory q hq := by
    have hne : q ≠ p := by
      rintro rfl
      exact h hq
    rw [at?_put t (ne_nil_of_at? h), if_neg hne, hq]

/-- What leads to a place goes on leading there. -/
theorem follow (h : Keeps t t') {components : List String} (hp : t.follow p components = .ok q) :
    t'.follow p components = .ok q := by
  induction components generalizing p with
  | nil => exact hp
  | cons c rest ih =>
    unfold Tree.follow at hp ⊢
    split at hp
    · cases hp
    · cases hp
    next hdirectory =>
      -- a step is made in a directory only, and that is one in the later tree as well
      rw [h.directory p hdirectory]
      dsimp only
      split at hp
      next hc =>
        rw [if_pos hc]
        exact ih hp
      next hc =>
        rw [if_neg hc]
        split at hp
        next hc =>
          rw [if_pos hc]
          exact ih hp
        next hc =>
          rw [if_neg hc]
          split at hp
          · cases hp
          next hc =>
            rw [if_neg hc]
            exact ih hp

theorem locate (h : Keeps t t') {name : String} (hp : t.locate name = .ok p) :
    t'.locate name = .ok p := by
  unfold Tree.locate at hp ⊢
  split at hp
  · cases hp
  next hempty =>
    rw [if_neg hempty]
    split at hp
    · cases hp
    next hnull =>
      rw [if_neg hnull, h.workingDirectory]
      exact h.follow hp

end Keeps
end Files.Tree

/-! ### Files that are written -/

namespace Destination

/-- The name of a destination, if it has one. -/
def name? : Destination → Option String
  | named path => some path
  | octets path => some path
  | unusable _ => none

/-- The place that a destination leads to. -/
def place? (t : Tree) (d : Destination) : Option Place :=
  d.name?.bind fun name => (t.locate name).toOption

/-- How messages tell a destination. -/
def shown : Destination → String
  | named path => path
  | octets path => octetsLiteral path
  | unusable _ => ""

theorem place?_of_keeps {t t' : Tree} (h : t.Keeps t') {d : Destination} {p : Place}
    (hp : d.place? t = some p) : d.place? t' = some p := by
  obtain ⟨name, hname, hlocate⟩ := Option.bind_eq_some_iff.1 hp
  rw [place?, hname, Option.bind_some]
  rcases hok : t.locate name with kind | q
  · rw [hok] at hlocate
    cases hlocate
  · rw [hok] at hlocate
    rw [h.locate hok]
    exact hlocate

end Destination

/-- A hook that leaves the list and the tree as it finds them. What else there is may change. -/
def Hook.Observes {σ ε : Type} (h : Hook σ ε) : Prop :=
  ∀ places t world, ∃ world', h places (t, world) = (.ok places, t, world')

/-- A disk that takes whatever is stored. -/
def Files.Disk.StoresAll (disk : Disk) : Prop :=
  ∀ t p content, disk t p content = none

namespace Writing

variable {disk : Disk} {t t' t'' : Tree} {files more : List OutputFile}

/-- The content of the last of several files that lead to a place. -/
def lastContent? (t : Tree) (files : List OutputFile) (p : Place) : Option String :=
  (files.filter fun f => f.destination.place? t == some p).getLast?.map (·.content)

theorem lastContent?_append (t : Tree) (files more : List OutputFile) (p : Place) :
    lastContent? t (files ++ more) p = (lastContent? t more p).or (lastContent? t files p) := by
  rw [lastContent?, List.filter_append, List.getLast?_append, Option.map_or]
  rfl

theorem lastContent?_congr (p : Place)
    (h : ∀ f ∈ files, f.destination.place? t = f.destination.place? t') :
    lastContent? t files p = lastContent? t' files p := by
  have hfilter : (files.filter fun f => f.destination.place? t == some p)
      = files.filter fun f => f.destination.place? t' == some p :=
    List.filter_congr fun f hf => by rw [h f hf]
  rw [lastContent?, lastContent?, hfilter]

/-- **Files are written** in a tree: each of them leads to a place, at each place is the content of the
last of them that leads there, and the file that was there before if none does. Directories may be there
that were not, but none has gone. -/
structure AreWritten (t : Tree) (files : List OutputFile) (t' : Tree) : Prop where
  keeps : t.Keeps t'
  leads : ∀ f ∈ files, ∃ p, f.destination.place? t' = some p
  file : ∀ p, t'.fileAt? p = ((lastContent? t' files p).map Content.text).or (t.fileAt? p)

namespace AreWritten

theorem refl (t : Tree) : AreWritten t [] t :=
  ⟨.refl t, nofun, fun _ => rfl⟩

theorem append (h : AreWritten t files t') (h' : AreWritten t' more t'') :
    AreWritten t (files ++ more) t'' where
  keeps := h.keeps.trans h'.keeps
  leads f hf := by
    rcases List.mem_append.1 hf with hf | hf
    · obtain ⟨p, hp⟩ := h.leads f hf
      exact ⟨p, Destination.place?_of_keeps h'.keeps hp⟩
    · exact h'.leads f hf
  file p := by
    -- names that led to a place still lead there when the later files have been written
    have hsame : lastContent? t' files p = lastContent? t'' files p := by
      refine lastContent?_congr p fun f hf => ?_
      obtain ⟨q, hq⟩ := h.leads f hf
      rw [hq, Destination.place?_of_keeps h'.keeps hq]
    rw [h'.file, h.file, hsame, lastContent?_append, Option.map_or, Option.or_assoc]

/-- Directories that are made leave all files as they are. -/
theorem of_directory {p : Place} (h : t.at? p = none) : AreWritten t [] (t.put p .directory) where
  keeps := .put (by simp [h]) _
  leads := nofun
  file q := by
    have hp : p ≠ [] := Tree.ne_nil_of_at? (t := t) (by simp [h])
    rw [Tree.fileAt?_put t hp]
    split
    next hq =>
      rw [hq, Tree.fileAt?, h]
      rfl
    next => rfl

/-- A file that is not as it was is one that was written. -/
theorem exists_of_fileAt?_ne (h : AreWritten t files t') {q : Place}
    (hq : t'.fileAt? q ≠ t.fileAt? q) : ∃ f ∈ files, f.destination.place? t' = some q := by
  by_contra hnone
  have hfilter : (files.filter fun f => f.destination.place? t' == some q) = [] :=
    List.filter_eq_nil_iff.2 fun f hf hplace => hnone ⟨f, hf, by simpa using hplace⟩
  rw [h.file, lastContent?, hfilter] at hq
  exact hq rfl

/-- A file is put where no directory is. -/
theorem of_file {f : OutputFile} {p : Place} (hplace : f.destination.place? t = some p)
    (h : t.at? p ≠ some .directory) : AreWritten t [f] (t.put p (.file (.text f.content))) := by
  have hkeeps : t.Keeps (t.put p (.file (.text f.content))) := .put h _
  have hplace' := Destination.place?_of_keeps hkeeps hplace
  refine ⟨hkeeps, fun g hg => ⟨p, by rw [List.mem_singleton.1 hg, hplace']⟩, fun q => ?_⟩
  rw [Tree.fileAt?_put t (Tree.ne_nil_of_at? h), lastContent?, List.filter_singleton, hplace']
  by_cases hqp : q = p
  · simp [hqp]
  · have hne : (some p == some q) = false := by simpa using Ne.symm hqp
    simp [hqp, hne]

end AreWritten

/-! ### One file -/

/-- A file was opened, and the disk did not take its text: it holds what the disk has left in it, and
nothing else is touched. -/
structure IsCut (disk : Disk) (t : Tree) (f : OutputFile) (t' : Tree) : Prop where
  cut : ∃ p s, f.destination.place? t = some p ∧ t.at? p ≠ some .directory ∧
    disk (t.put p (.file (.text ""))) p f.content = some s ∧ t' = t.put p (.file s.left)

theorem IsCut.keeps {f : OutputFile} (h : IsCut disk t f t') : t.Keeps t' := by
  obtain ⟨p, s, -, hp, -, rfl⟩ := h.cut
  exact .put hp _

/-- A file that is cut is the only one that is not as it was. -/
theorem IsCut.fileAt?_of_ne {f : OutputFile} (h : IsCut disk t f t') {q : Place}
    (hq : f.destination.place? t ≠ some q) : t'.fileAt? q = t.fileAt? q := by
  obtain ⟨p, s, hplace, hp, -, rfl⟩ := h.cut
  have hne : q ≠ p := by
    rintro rfl
    exact hq hplace
  rw [Tree.fileAt?_put t (Tree.ne_nil_of_at? hp), if_neg hne]

/-- A file that is opened is empty, where no directory was. -/
theorem openFile_eq_ok {name : String} {p : Place} (h : t.openFile name = .ok (t', p)) :
    t.locate name = .ok p ∧ t.at? p ≠ some .directory ∧ t' = t.put p (.file (.text "")) := by
  unfold Tree.openFile at h
  split at h
  · cases h
  next q hlocate =>
    split at h
    · cases h
    next hfile =>
      cases h
      exact ⟨hlocate, by simp [hfile], rfl⟩
    next hnone =>
      split at h
      · cases h
      · cases h
        exact ⟨hlocate, by simp [hnone], rfl⟩

/-- What has become of a tree where a file could not be written: directories at most, or the file is
cut. -/
def IsLeft (disk : Disk) (t : Tree) (f : OutputFile) (t' : Tree) : Prop :=
  AreWritten t [] t' ∨ ∃ before, AreWritten t [] before ∧ IsCut disk before f t'

/-- A file is written, or it is not for a fault that leaves it cut at most. -/
theorem areWritten_write {f : OutputFile} {name : String} {fault : Option FileFault}
    (hname : f.destination.name? = some name) (h : t.write disk name f.content = (t', fault)) :
    if fault.isNone then AreWritten t [f] t' else IsLeft disk t f t' := by
  unfold Tree.write at h
  split at h
  next =>
    obtain ⟨rfl, rfl⟩ := Prod.mk.inj h
    exact .inl (.refl t)
  next t₁ p hopen =>
    obtain ⟨hlocate, hp, rfl⟩ := openFile_eq_ok hopen
    have hplace : f.destination.place? t = some p := by
      rw [Destination.place?, hname, Option.bind_some, hlocate]
      rfl
    split at h
    next =>
      obtain ⟨rfl, rfl⟩ := Prod.mk.inj h
      rw [Tree.put_put]
      exact .of_file hplace hp
    next s hs =>
      obtain ⟨rfl, rfl⟩ := Prod.mk.inj h
      rw [Tree.put_put]
      exact .inr ⟨t, .refl t, p, s, hplace, hp, hs, rfl⟩

theorem areWritten_makeDirectory {name : String} (h : t.makeDirectory name = .ok t') :
    AreWritten t [] t' := by
  unfold Tree.makeDirectory at h
  split at h
  · cases h
  · split at h
    · cases h
    next hnone =>
      obtain rfl := Except.ok.inj h
      exact .of_directory hnone

/-- Making directories leaves all files as they are, even where it fails. -/
theorem areWritten_makeDirectoriesFrom {fuel : Nat} {name : String} {fault : Option FileFault}
    (h : Tree.makeDirectoriesFrom fuel t name = (t', fault)) : AreWritten t [] t' := by
  induction fuel generalizing t t' name fault with
  | zero => exact (Prod.mk.inj h).1 ▸ .refl t
  | succ fuel ih =>
    obtain ⟨above, t₁, fault₁, -, hmade, hend⟩ := Tree.makeDirectoriesFrom_cases h
    have habove : AreWritten t [] t₁ := by
      rcases hmade with hmade | hmade
      · exact (Prod.mk.inj hmade).1 ▸ .refl t
      · exact ih hmade
    rcases hend with hend | hend | ⟨hmake, -⟩ | ⟨f, -, hend⟩
    · exact (Prod.mk.inj hend).1 ▸ habove
    · exact (Prod.mk.inj hend).1 ▸ habove
    · exact habove.append (areWritten_makeDirectory hmake)
    · exact (Prod.mk.inj hend).1 ▸ habove

/-- The directories above a file are made first, and where that fails, the file is not opened. -/
theorem areWritten_writeOne {f : OutputFile} {name : String} {fault : Option FileFault}
    (hname : f.destination.name? = some name) (h : writeOne disk t name f.content = (t', fault)) :
    if fault.isNone then AreWritten t [f] t' else IsLeft disk t f t' := by
  unfold writeOne at h
  dsimp only at h
  rcases hmade : (if (directory name).isEmpty = true then (t, none)
    else t.makeDirectories (directory name)) with ⟨t₁, fault₁⟩
  have hdirectories : AreWritten t [] t₁ := by
    split at hmade
    · exact (Prod.mk.inj hmade).1 ▸ .refl t
    · exact areWritten_makeDirectoriesFrom hmade
  rw [hmade] at h
  dsimp only at h
  split at h
  next =>
    obtain ⟨rfl, rfl⟩ := Prod.mk.inj h
    exact .inl hdirectories
  next =>
    have hfile := areWritten_write hname h
    cases fault with
    | none => exact hdirectories.append hfile
    | some g =>
      rcases hfile with hfile | ⟨before, hbefore, hcut⟩
      · exact .inl (hdirectories.append hfile)
      · exact .inr ⟨before, hdirectories.append hbefore, hcut⟩

theorem areWritten_writeTo {f : OutputFile} {outcome : Except WriteFault String}
    (h : writeTo disk t f.content f.destination = (t', outcome)) :
    (∀ name, outcome = .ok name → name = f.destination.shown ∧ AreWritten t [f] t') ∧
      ∀ e, outcome = .error e → IsLeft disk t f t' := by
  rcases hdestination : f.destination with path | path | nameFault
  all_goals rw [hdestination, writeTo] at h
  case named | octets =>
    rcases hone : writeOne disk t path f.content with ⟨t₁, - | fault⟩
    all_goals
      have htree := areWritten_writeOne (by rw [hdestination]; rfl) hone
      rw [hone] at h
      obtain ⟨rfl, rfl⟩ := Prod.mk.inj h
    · refine ⟨fun _ hname => ⟨(Except.ok.inj hname).symm, htree⟩, fun _ he => ?_⟩
      cases he
    · refine ⟨fun _ hname => ?_, fun _ _ => htree⟩
      cases hname
  case unusable =>
    obtain ⟨rfl, rfl⟩ := Prod.mk.inj h
    refine ⟨fun _ hname => ?_, fun _ _ => .inl (.refl t)⟩
    cases hname

/-! ### Files in a row -/

/-- A file that could not be written: those before it were, and it left directories at most, unless it was
opened and is cut. -/
structure StopsAt (disk : Disk) (t : Tree) (done : List OutputFile) (f : OutputFile)
    (fault : WriteFault) (t' : Tree) : Prop where
  tree : AreWritten t done t' ∨ ∃ before, AreWritten t done before ∧ IsCut disk before f t'
  faulty : ∃ before, AreWritten t done before ∧
    writeTo disk before f.content f.destination = (t', .error fault)

/-- Whatever the disk does, no file has changed but those before and the one that could not be written. -/
theorem StopsAt.exists_of_fileAt?_ne {done : List OutputFile} {f : OutputFile} {fault : WriteFault}
    (h : StopsAt disk t done f fault t') {q : Place} (hq : t'.fileAt? q ≠ t.fileAt? q) :
    ∃ g ∈ done ++ [f], g.destination.place? t' = some q := by
  rcases h.tree with hdone | ⟨before, hbefore, hcut⟩
  · obtain ⟨g, hg, hplace⟩ := hdone.exists_of_fileAt?_ne hq
    exact ⟨g, List.mem_append_left _ hg, hplace⟩
  · by_cases hf : f.destination.place? before = some q
    · exact ⟨f, List.mem_append_right _ List.mem_cons_self, Destination.place?_of_keeps hcut.keeps hf⟩
    · rw [hcut.fileAt?_of_ne hf] at hq
      obtain ⟨g, hg, hplace⟩ := hbefore.exists_of_fileAt?_ne hq
      exact ⟨g, List.mem_append_left _ hg, Destination.place?_of_keeps hcut.keeps hplace⟩

/-- **Files that are written** one after the other are all written, or all up to one that could not be. -/
theorem writeFiles_outcome {written written' : List String} {fault : Option WriteFault}
    (h : writeFiles disk t written files = (t', written', fault)) :
    match fault with
    | none => AreWritten t files t' ∧ written' = written ++ files.map (·.destination.shown)
    | some fault => ∃ done f rest, files = done ++ f :: rest ∧ StopsAt disk t done f fault t' ∧
        written' = written ++ done.map (·.destination.shown) := by
  induction files generalizing t written with
  | nil =>
    cases h
    exact ⟨.refl _, by simp⟩
  | cons f rest ih =>
    unfold writeFiles at h
    split at h
    next t₁ path hone =>
      -- the file is written, and goes in front of what the rest of the run has done
      obtain ⟨rfl, hf⟩ := (areWritten_writeTo hone).1 path rfl
      have hrest := ih h
      cases fault with
      | none =>
        obtain ⟨hwritten, rfl⟩ := hrest
        exact ⟨hf.append hwritten, by simp⟩
      | some fault =>
        obtain ⟨done, g, rest, rfl, hstop, rfl⟩ := hrest
        obtain ⟨before, hbefore, hfaulty⟩ := hstop.faulty
        refine ⟨f :: done, g, rest, rfl, ⟨?_, before, hf.append hbefore, hfaulty⟩, by simp⟩
        exact hstop.tree.imp hf.append fun ⟨before, hbefore, hcut⟩ =>
          ⟨before, hf.append hbefore, hcut⟩
    next t₁ fault₁ hone =>
      cases h
      have hleft := (areWritten_writeTo hone).2 _ rfl
      exact ⟨[], f, rest, rfl, ⟨hleft, t, .refl t, hone⟩, by simp⟩

/-! ### Hooks -/

variable {σ ε : Type}

/-- Hooks that observe are all called, one after the other, with one list and one tree. -/
theorem callHooks_of_observes {hooks : List (Hook σ ε)} (h : ∀ hook ∈ hooks, hook.Observes)
    (places : List String) (t : Tree) (world : σ) :
    callHooks hooks places (t, world)
      = (.ok places, t, hooks.foldl (fun world hook => (hook places (t, world)).2.2) world) := by
  induction hooks generalizing world with
  | nil => rfl
  | cons hook rest ih =>
    obtain ⟨hhook, hrest⟩ := List.forall_mem_cons.1 h
    obtain ⟨world', hcall⟩ := hhook places t world
    rw [callHooks, hcall, List.foldl_cons, hcall]
    exact ih hrest world'

/-! ### Runs -/

/-- All files of a run were written, and then the hooks were called with the names of all of them. Hooks
that observe were each called once, in order, with all names and in the tree that was left, and all names
are given back. -/
structure IsComplete (hooks : List (Hook σ ε)) (t : Tree) (world : σ) (files : List OutputFile)
    (w : Writing σ ε) (places : List String) : Prop where
  called : ∃ t', AreWritten t files t' ∧
    callHooks hooks (files.map (·.destination.shown)) (t', world) = (.ok places, w.tree, w.world)
  observed : (∀ hook ∈ hooks, hook.Observes) →
    AreWritten t files w.tree ∧ places = files.map (·.destination.shown) ∧
      w.world = hooks.foldl (fun world hook => (hook places (w.tree, world)).2.2) world

/-- A run stopped at one of its files: those before it were written, and no hook was called. No file was
made or changed but those before and itself, and itself neither if the disk takes whatever is stored. -/
structure IsStopped (disk : Disk) (t : Tree) (world : σ) (files : List OutputFile) (fault : WriteFault)
    (w : Writing σ ε) : Prop where
  stops : ∃ done f rest, files = done ++ f :: rest ∧ StopsAt disk t done f fault w.tree ∧
    w.written = done.map (·.destination.shown) ∧ (disk.StoresAll → AreWritten t done w.tree) ∧
    ∀ q, w.tree.fileAt? q ≠ t.fileAt? q → ∃ g ∈ done ++ [f], g.destination.place? w.tree = some q
  world : w.world = world

/-- A hook that writes down what it is given. -/
def recorder (name : String) : Hook (List (String × List String)) Empty :=
  fun places (t, calls) => (.ok places, t, calls ++ [(name, places)])

theorem observes_recorder (name : String) : (recorder name).Observes :=
  fun places _ calls => ⟨calls ++ [(name, places)], rfl⟩

/-- Two names of one file. -/
def twiceNamed : List OutputFile :=
  [⟨.named "out/a.js", "1"⟩, ⟨.named "out/../out/a.js", "2"⟩]

/-- A disk that is full leaves the file empty that it stops at, and the one before it whole. -/
example :
    let full : Disk := fun _ p _ => if p = ["b"] then some ⟨.text "", 28, "No space left on device"⟩ else none
    let w := run full [recorder "hook"] ⟨[], [(["b"], .file (.text "old"))]⟩ []
      [⟨.named "a", "1"⟩, ⟨.named "b", "2"⟩]
    w.written = ["a"] ∧ w.world = [] ∧ w.tree.fileAt? ["a"] = some (.text "1") ∧
      w.tree.fileAt? ["b"] = some (.text "") := by
  decide +kernel

end Writing
end RouteHelpers
