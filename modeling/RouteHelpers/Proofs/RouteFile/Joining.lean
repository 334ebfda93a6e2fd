import RouteHelpers.Proofs.Inflection
import RouteHelpers.Proofs.Path.Slashes
import RouteHelpers.Proofs.RouteFile.Containment
import RouteHelpers.Proofs.RouteFile.Origin
import RouteHelpers.Proofs.RouteFile.Spelling

/-!
Where paths are joined.

The path of a route opens with a slash and is a bare slash or ends with the optional extension, whatever
the declarations around it spell out. Its slashes are single if those of what is spelled out are, but for
one case: the paths of resources are not joined by `joinPath` but put together as they are, with a slash
in front of each further part. A path that such a part is put behind must not end with a slash
(`IsClosed`), and the paths that `joinPath` makes do not, unless they are a bare slash (`IsJoined`). So
two slashes in a row take a resource at a bare slash, or one with a parameter that ends in a slash
(`Call.DoublesSlash`).
-/

namespace RouteHelpers.RouteFile

/-! ### Paths that go on -/

/-- A path that a slash may be put behind: its slashes are single, and it ends with something else. -/
structure IsClosed (path : String) : Prop where
  slashes : Path.HasSingleSlashes path.toList
  ending : ∃ c, path.toList.getLast? = some c ∧ c ≠ '/'

/-- The path of a scope: nothing, a bare slash, or a path that a slash may be put behind. -/
def IsJoined (path : String) : Prop :=
  path = "" ∨ path = "/" ∨ IsClosed path

theorem IsJoined.slashes {path : String} (h : IsJoined path) : Path.HasSingleSlashes path.toList := by
  rcases h with rfl | rfl | h
  · decide
  · decide
  · exact h.slashes

theorem IsClosed.append {path more : String} (h : IsClosed path)
    (hslashes : Path.HasSingleSlashes more.toList) (hending : more.toList.getLast? ≠ some '/') :
    IsClosed (path ++ more) := by
  obtain ⟨c, hlast, hc⟩ := h.ending
  refine ⟨?_, ?_⟩
  · rw [String.toList_append, Path.hasSingleSlashes_append_iff]
    exact ⟨h.slashes, hslashes,
      fun hslash => absurd (Option.some.inj (hlast.symm.trans hslash)) hc⟩
  · rw [String.toList_append, List.getLast?_append]
    rcases hmore : more.toList.getLast? with - | d
    · exact ⟨c, hlast, hc⟩
    · exact ⟨d, rfl, fun hd => hending (hmore.trans (congrArg some hd))⟩

theorem dropEndSlashes_of_getLast? {path : String} {c : Char} (h : path.toList.getLast? = some c)
    (hc : c ≠ '/') : dropEndSlashes path = path := by
  rw [dropEndSlashes, Text.dropEnd, Text.dropEndList_of_getLast? h (by simpa using hc),
    String.ofList_toList]

theorem IsClosed.dropEndSlashes_eq {path : String} (h : IsClosed path) :
    dropEndSlashes path = path := by
  obtain ⟨c, hlast, hc⟩ := h.ending
  exact dropEndSlashes_of_getLast? hlast hc

/-- What is left of a path without the slashes around it goes behind a slash. -/
theorem isClosed_slash_append_strip {path : String} (h : Path.HasSingleSlashes path.toList)
    (hne : path ≠ "") (hslash : path ≠ "/") : IsClosed ("/" ++ Text.strip (· == '/') path) := by
  have hleft : Text.stripList (· == '/') path.toList ≠ [] := by
    intro hnil
    have hall := Text.all_of_stripList_eq_nil hnil
    -- a path of nothing but slashes has two in a row, or it is one of the two that were excluded
    rcases hchars : path.toList with - | ⟨a, - | ⟨b, rest⟩⟩
    · exact hne (String.toList_eq_nil_iff.1 hchars)
    · rw [hchars] at hall
      obtain rfl : a = '/' := by simpa using hall
      exact hslash (String.toList_inj.1 hchars)
    · rw [hchars] at hall h
      obtain ⟨rfl, rfl, -⟩ : a = '/' ∧ b = '/' ∧ _ := by simpa using hall
      exact h ⟨[], rest, rfl⟩
  have hinside := h.of_isInfix (Text.stripList_isInfix (· == '/') path.toList)
  have hlist : ("/" ++ Text.strip (· == '/') path).toList
      = ['/'] ++ Text.stripList (· == '/') path.toList := by
    simp [Text.strip]
  refine ⟨?_, ?_⟩
  · rw [hlist, Path.hasSingleSlashes_append_iff]
    refine ⟨Path.hasSingleSlashes_of_length_le (by decide), hinside, fun _ hhead => ?_⟩
    have hstart := Text.head?_stripList hhead
    simp at hstart
  · rw [hlist, List.getLast?_append_of_ne_nil _ hleft]
    refine ⟨_, List.getLast?_eq_some_getLast hleft, fun hlast => ?_⟩
    have hend := Text.getLast?_dropEndList (List.getLast?_eq_some_getLast hleft)
    simp [hlast] at hend

/-- A path with a part of its own is joined with one slash. -/
theorem joinPath_of_ne {more : String} (hne : more ≠ "") (hslash : more ≠ "/") (base : String) :
    joinPath base more = dropEndSlashes base ++ ("/" ++ Text.strip (· == '/') more) := by
  have hpart : ¬(more.isEmpty || more == "/") = true := by simp [hne, hslash]
  rw [joinPath, if_neg hpart, String.append_assoc]

theorem joinPath_of_eq {more : String} (h : more = "" ∨ more = "/") (base : String) :
    joinPath base more = if base.isEmpty then "/" else base := by
  have hpart : (more.isEmpty || more == "/") = true := by simpa using h
  rw [joinPath, if_pos hpart]

theorem IsClosed.joinPath {base more : String} (h : IsClosed base)
    (hmore : Path.HasSingleSlashes more.toList) : IsClosed (joinPath base more) := by
  by_cases hpart : more = "" ∨ more = "/"
  · rw [joinPath_of_eq hpart]
    split
    next hempty =>
      -- nothing that is empty ends with something
      obtain ⟨c, hlast, -⟩ := h.ending
      rw [String.isEmpty_iff.1 hempty] at hlast
      cases hlast
    next => exact h
  · rw [not_or] at hpart
    have hclosed := isClosed_slash_append_strip hmore hpart.1 hpart.2
    obtain ⟨c, hlast, hc⟩ := hclosed.ending
    rw [joinPath_of_ne hpart.1 hpart.2, h.dropEndSlashes_eq]
    refine h.append hclosed.slashes fun hslash => hc ?_
    exact Option.some.inj (hlast.symm.trans hslash)

theorem IsJoined.joinPath {base more : String} (h : IsJoined base)
    (hmore : Path.HasSingleSlashes more.toList) : IsJoined (joinPath base more) := by
  by_cases hpart : more = "" ∨ more = "/"
  · rw [joinPath_of_eq hpart]
    split
    · exact .inr (.inl rfl)
    · exact h
  · rcases or_assoc.2 h with hbase | h
    · -- a base that has no part of its own leaves nothing in front of the slash
      have hnone : dropEndSlashes base = "" := by rcases hbase with rfl | rfl <;> decide
      rw [not_or] at hpart
      rw [joinPath_of_ne hpart.1 hpart.2, hnone, String.empty_append]
      exact .inr (.inr (isClosed_slash_append_strip hmore hpart.1 hpart.2))
    · exact .inr (.inr (h.joinPath hmore))

theorem joinPath_ne_empty (base more : String) : joinPath base more ≠ "" := by
  unfold joinPath
  split
  · split
    · decide
    next hbase => exact fun h => hbase (String.isEmpty_iff.2 h)
  · intro h
    rw [String.append_eq_empty_iff, String.append_eq_empty_iff] at h
    exact absurd h.1.2 (by decide)

theorem IsClosed.memberPath {path param : String} (h : IsClosed path)
    (hslashes : Path.HasSingleSlashes param.toList) (hending : param.toList.getLast? ≠ some '/')
    (alone : Bool) : IsClosed (Scope.memberPath path param alone) := by
  unfold Scope.memberPath
  split
  · exact h
  · exact (h.append (by decide) (by decide)).append hslashes hending

/-! ### Resources that keep slashes apart -/

/-- A resource whose names and parameter hold no two slashes in a row, and whose parameter does not end
with one. -/
structure Enclosing.IsTidy (r : Enclosing) : Prop where
  singular : Path.HasSingleSlashes r.singular.toList
  param : Path.HasSingleSlashes r.param.toList
  ending : r.param.toList.getLast? ≠ some '/'

theorem IsClosed.nestedPath {path : String} {r : Enclosing} (h : IsClosed path) (hr : r.IsTidy) :
    IsClosed (Scope.nestedPath path r) := by
  unfold Scope.nestedPath
  split
  · exact h
  · -- a singular may end with a slash, but the parameter comes behind an underscore
    have hsingular : Path.HasSingleSlashes (r.singular ++ "_").toList := by
      rw [String.toList_append, Path.hasSingleSlashes_append_iff]
      exact ⟨hr.singular, by decide, fun _ => by decide⟩
    have hending : (r.singular ++ "_").toList.getLast? ≠ some '/' := by
      rw [String.toList_append, List.getLast?_append]
      exact fun h => absurd (Option.some.inj h) (by decide)
    have hparts : path ++ "/:" ++ r.singular ++ "_" = path ++ "/:" ++ (r.singular ++ "_") :=
      String.append_assoc
    rw [hparts]
    exact ((h.append (by decide) (by decide)).append hsingular hending).append hr.param hr.ending

theorem hasSingleSlashes_singularize {word : String} (h : Path.HasSingleSlashes word.toList) :
    Path.HasSingleSlashes (Inflection.singularize word).toList := by
  obtain ⟨stem, more, hsingular, hstem, hmore⟩ := Inflection.singularize_eq word
  -- no ending of a singular brings a slash along
  have hslash : '/' ∉ more := by
    intro hin
    rcases hmore '/' hin with hlower | ⟨hnewline, -⟩
    · exact absurd hlower (by decide)
    · exact absurd hnewline (by decide)
  rw [hsingular, Path.hasSingleSlashes_append_iff]
  exact ⟨h.of_isInfix hstem.isInfix, Path.hasSingleSlashes_of_not_mem hslash,
    fun _ hhead => hslash (List.mem_of_head? hhead)⟩

/-- A call declares a resource at a bare slash, or one with a parameter that ends in a slash: a further
part comes with a slash of its own. -/
def Call.DoublesSlash (c : Call) (s : Scope) : Prop :=
  ∃ a name r, c.HasResource a name r ∧
    ((s.inResource a name r).path = "/" ∨ r.param.toList.getLast? = some '/')

/-- What a call spells out has single slashes. -/
def Call.IsTidy (c : Call) : Prop :=
  ∀ v, c.Spells v → Path.HasSingleSlashes v.toList

namespace Call

variable {c : Call} {a : Arguments} {name : String} {r : Enclosing}

theorem IsNamed.hasSingleSlashes (hc : c.IsTidy) (h : c.IsNamed a name) :
    Path.HasSingleSlashes name.toList :=
  hc _ ((Arguments.spelledBy_ofNodes h.arguments).name h.given)

theorem IsTidy.textOr (hc : c.IsTidy) (ha : Arguments.ofNodes c.args = .ok a) {key default : String}
    (hkey : key ∈ partKeys) (hdefault : Path.HasSingleSlashes default.toList) :
    Path.HasSingleSlashes (a.textOr key default).toList :=
  Arguments.textOr_induction (P := fun v => Path.HasSingleSlashes v.toList)
    (fun v hv => hc v ((Arguments.spelledBy_ofNodes ha).text? hkey hv)) hdefault (by decide)

theorem HasResource.isTidy (hc : c.IsTidy) (h : c.HasResource a name r)
    (hending : r.param.toList.getLast? ≠ some '/') : r.IsTidy := by
  have hown := hc.textOr h.isNamed.arguments (by decide : "as" ∈ partKeys)
    (h.isNamed.hasSingleSlashes hc)
  cases h with
  | many _ hnamed =>
    have hsingular := hasSingleSlashes_singularize hown
    unfold Enclosing.many at hending ⊢
    refine ⟨hsingular, ?_, hending⟩
    dsimp only
    rcases hparam : a.text? "param" with - | - | v
    · exact by decide
    · exact by decide
    · exact hc v ((Arguments.spelledBy_ofNodes hnamed.arguments).text? (by decide) hparam)
  | one _ hnamed => exact ⟨hown, Path.hasSingleSlashes_of_length_le (Nat.zero_le 1), hending⟩

end Call

/-! ### Scopes that keep slashes apart -/

/-- A scope whose path was joined, and whose resource is at a path that goes on. -/
structure Scope.IsTidy (s : Scope) : Prop where
  path : IsJoined s.path
  resource {r : Enclosing} : s.resource = some r → IsClosed s.path ∧ r.IsTidy

namespace Scope.IsTidy

variable {s t : Scope} {c : Call}

theorem nesting (h : s.IsTidy) : IsJoined s.nesting.2 := by
  unfold Scope.nesting
  split
  · exact h.path
  next r hr =>
    obtain ⟨hpath, htidy⟩ := h.resource hr
    split
    · exact .inr (.inr (hpath.memberPath htidy.param htidy.ending _))
    · exact h.path
    · exact .inr (.inr (hpath.nestedPath htidy))

/-- A resource goes on, unless its slashes double. -/
theorem inResource (h : s.IsTidy) (hc : c.IsTidy) (hsingle : ¬c.DoublesSlash s) {a : Arguments}
    {name : String} {r : Enclosing} (hr : c.HasResource a name r) :
    IsClosed (s.inResource a name r).path ∧ r.IsTidy := by
  have hending : r.param.toList.getLast? ≠ some '/' := fun hend =>
    hsingle ⟨a, name, r, hr, .inr hend⟩
  refine ⟨?_, hr.isTidy hc hending⟩
  have hown := hc.textOr hr.isNamed.arguments (by decide : "path" ∈ partKeys)
    (hr.isNamed.hasSingleSlashes hc)
  rcases h.nesting.joinPath hown with hempty | hslash | hclosed
  · exact absurd hempty (joinPath_ne_empty _ _)
  · exact absurd ⟨a, name, r, hr, .inl hslash⟩ hsingle
  · exact hclosed

theorem inside {path : String} {names : List String} {r : Enclosing} (h : IsClosed path)
    (hr : r.IsTidy) : (s.inside path names r).IsTidy := by
  refine ⟨.inr (.inr h), fun hresource => ⟨h, ?_⟩⟩
  obtain rfl := Scope.resource_inside hresource
  refine ⟨hr.singular, ?_, ?_⟩
  · dsimp only
    split
    · exact by decide
    · exact hr.param
  · dsimp only
    split
    · exact by decide
    · exact hr.ending

/-- **Opening a scope** keeps slashes apart. -/
theorem opens (h : s.IsTidy) (hc : c.IsTidy) (hsingle : ¬c.DoublesSlash s) (hopens : c.Opens s t) :
    t.IsTidy := by
  cases hopens with
  | resource hresource =>
    obtain ⟨hpath, hr⟩ := h.inResource hc hsingle hresource
    exact inside hpath hr
  | nameSpace _ hnamed =>
    refine ⟨h.path.joinPath ?_, fun hresource => nomatch hresource⟩
    exact hc.textOr hnamed.arguments (by decide) (hnamed.hasSingleSlashes hc)
  | @inner a _ harguments =>
    have hname : Path.HasSingleSlashes (a.name.getD "").toList := by
      rcases hname : a.name with - | v
      · exact by decide
      · exact hc v ((Arguments.spelledBy_ofNodes harguments).name hname)
    have hown := hc.textOr harguments (by decide : "path" ∈ partKeys) hname
    -- the resource around the scope stays, at a path that goes on as before
    unfold Scope.inScope
    dsimp only
    split
    · exact ⟨h.path, h.resource⟩
    · exact ⟨h.path.joinPath hown, fun hr => ⟨(h.resource hr).1.joinPath hown, (h.resource hr).2⟩⟩
  | member _ | collection _ =>
    refine ⟨h.path, fun hresource => ?_⟩
    rw [Scope.resource_atLevel] at hresource
    obtain ⟨r, hr, rfl⟩ := Option.map_eq_some_iff.1 hresource
    obtain ⟨hpath, htidy⟩ := h.resource hr
    exact ⟨hpath, htidy.singular, htidy.param, htidy.ending⟩
  | defaults given _ => exact ⟨h.path, h.resource⟩

end Scope.IsTidy

/-- A scope lies inside a resource that doubles its slash. -/
def Scope.IsDoubled (calls : Call → Prop) (s : Scope) : Prop :=
  ∃ u c t, Scope.LeadsTo calls {} u ∧ calls c ∧ c.DoublesSlash u ∧ c.Opens u t ∧
    Scope.LeadsTo calls t s

/-- Scopes keep slashes apart, but for those inside a resource that doubles its own. -/
theorem Scope.LeadsTo.isTidy_or {calls : Call → Prop} (hcalls : ∀ c, calls c → c.IsTidy) {s : Scope}
    (h : Scope.LeadsTo calls {} s) : s.IsTidy ∨ s.IsDoubled calls := by
  have hstart : Scope.IsTidy {} := ⟨.inl rfl, fun hresource => nomatch hresource⟩
  refine h.preserves (P := fun s => s.IsTidy ∨ s.IsDoubled calls) (.inl hstart) ?_
  rintro t c u ht hc hopens (htidy | ⟨u', c', t', hu', hc', hdouble, hopens', ht'⟩)
  · by_cases hdouble : c.DoublesSlash t
    · exact .inr ⟨t, c, u, ht, hc, hdouble, hopens, .refl⟩
    · exact .inl (htidy.opens (hcalls c hc) hdouble hopens)
  · exact .inr ⟨u', c', t', hu', hc', hdouble, hopens', ht'.tail ⟨c, hc, hopens⟩⟩

/-! ### Paths of routes -/

/-- **The path of a route** has single slashes in a scope that keeps them apart. -/
theorem Call.Declares.hasSingleSlashes {c : Call} {s : Scope} {d : Declaration} (h : c.Declares s d)
    (hs : s.IsTidy) (hc : c.IsTidy) (hsingle : ¬c.DoublesSlash s) :
    Path.HasSingleSlashes d.path.toList := by
  cases h with
  | @many a name r inner x verb hmethod hnamed hr hinner =>
    subst hr hinner
    -- an action has the path of the resource or of a member, and a word may stand behind it
    obtain ⟨hpath, hr⟩ := hs.inResource hc hsingle (.many hmethod hnamed)
    have hmember := hpath.memberPath hr.param hr.ending
    unfold manyPlace
    cases x with
    | index | create => exact hpath.slashes
    | new => exact (hpath.append (by decide) (by decide)).slashes
    | edit => exact ((hmember _).append (by decide) (by decide)).slashes
    | view | update | destroy => exact (hmember _).slashes
  | @one a name r inner x verb hmethod hnamed hr hinner =>
    subst hr hinner
    obtain ⟨hpath, -⟩ := hs.inResource hc hsingle (.one hmethod hnamed)
    unfold onePlace
    cases x with
    | new | edit =>
      dsimp only
      rw [String.append_assoc]
      exact (hpath.append (by decide) (by decide)).slashes
    | index | create | view | update | destroy => exact hpath.slashes
  | root action _ =>
    dsimp only
    split
    · decide
    · exact hs.path.slashes
  | route verb action _ hnamed =>
    have hname := hnamed.hasSingleSlashes hc
    unfold placeOf
    split
    · exact (hs.path.joinPath hname).slashes
    next r hr =>
      -- at each level the path that the route is joined to goes on from that of the resource
      obtain ⟨hpath, htidy⟩ := hs.resource hr
      dsimp only
      split
      · exact ((hpath.memberPath htidy.param htidy.ending _).joinPath hname).slashes
      · exact (hpath.joinPath hname).slashes
      · exact ((hpath.nestedPath htidy).joinPath hname).slashes

theorem hasSingleSlashes_record {d : Declaration} (h : Path.HasSingleSlashes d.path.toList)
    (helper : Option String) : Path.HasSingleSlashes (d.record helper).path.toList := by
  have hending : '/' ∉ formatEnding.toList := by decide
  unfold Declaration.record
  dsimp only
  split
  · exact h
  · rw [String.toList_append, Path.hasSingleSlashes_append_iff, toList_dropEndSlashes]
    exact ⟨h.of_isInfix (Text.dropEndList_isPrefix _ _).isInfix,
      Path.hasSingleSlashes_of_not_mem hending, fun _ hhead => hending (List.mem_of_head? hhead)⟩

/-! ### The start and the end of paths -/

/-- A path of a route: there is something in it, and more than slashes unless it is a bare slash. -/
structure IsRoutePath (path : String) : Prop where
  plain : Scope.IsPlain path
  ne_empty : path ≠ ""

theorem isRoutePath_joinPath {base : String} (h : Scope.IsPlain base) (more : String) :
    IsRoutePath (joinPath base more) :=
  ⟨h.joinPath more, joinPath_ne_empty base more⟩

theorem isRoutePath_append (path : String) {more : String}
    (h : ¬more.toList.all (· == '/') = true) : IsRoutePath (path ++ more) := by
  refine ⟨Scope.isPlain_append_of_not_all h, fun hempty => h ?_⟩
  rw [(String.append_eq_empty_iff.1 hempty).2]
  rfl

theorem IsRoutePath.memberPath {path : String} (h : IsRoutePath path) (param : String) (alone : Bool) :
    IsRoutePath (Scope.memberPath path param alone) := by
  refine ⟨h.plain.memberPath param alone, ?_⟩
  unfold Scope.memberPath
  split
  · exact h.ne_empty
  · simp

theorem isRoutePath_inResource {s : Scope} (hs : s.IsReachable) (a : Arguments) (name : String)
    (r : Enclosing) : IsRoutePath (s.inResource a name r).path :=
  ⟨(Scope.Opens.inResource s a name r).isPlain hs.isPlain, joinPath_ne_empty _ _⟩

theorem Call.Declares.isRoutePath {c : Call} {s : Scope} {d : Declaration} (h : c.Declares s d)
    (hs : s.IsReachable) : IsRoutePath d.path := by
  -- a word put behind a path is more than slashes, and what is joined stays plain
  cases h with
  | @many a name r inner x verb _ _ _ hinner =>
    subst hinner
    have hinner := isRoutePath_inResource hs a name r
    unfold manyPlace
    cases x with
    | index | create => exact hinner
    | new | edit => exact isRoutePath_append _ (by decide)
    | view | update | destroy => exact hinner.memberPath _ _
  | @one a name r inner x verb _ _ _ hinner =>
    subst hinner
    unfold onePlace
    cases x with
    | new | edit => exact isRoutePath_append _ (by decide)
    | index | create | view | update | destroy => exact isRoutePath_inResource hs a name r
  | root action _ =>
    dsimp only
    split
    · exact ⟨fun _ => .inr rfl, by decide⟩
    next hpath => exact ⟨hs.isPlain, fun hempty => hpath (String.isEmpty_iff.2 hempty)⟩
  | route verb action _ _ =>
    unfold placeOf
    split
    · exact isRoutePath_joinPath hs.isPlain _
    · dsimp only
      split
      · exact isRoutePath_joinPath (hs.isPlain.memberPath _ _) _
      · exact isRoutePath_joinPath hs.isPlain _
      · exact isRoutePath_joinPath (hs.isPlain.nestedPath _) _

/-- The path of a record opens with a slash, and ends with the optional extension unless it is a bare
slash. -/
theorem path_record_form {d : Declaration} (hbelow : Below "" d.path) (hpath : IsRoutePath d.path)
    (helper : Option String) :
    (d.record helper).path.toList.head? = some '/' ∧
      ((d.record helper).path = "/" ∨ Text.endsWith formatEnding (d.record helper).path = true) := by
  unfold Declaration.record
  dsimp only
  split
  next hslash =>
    rw [eq_of_beq hslash]
    exact ⟨rfl, .inl rfl⟩
  next hslash =>
    -- what the extension is put behind opens with a slash, if anything is left of it
    obtain ⟨rest, hrest, hstart⟩ := hbelow.dropEnd
    have hbase : (dropEndSlashes "").toList = [] := by decide
    rw [hbase, List.nil_append] at hrest
    rcases hstart with rfl | hstart
    · -- nothing is left of a path of slashes only, and the only such path is the bare slash
      rw [toList_dropEndSlashes] at hrest
      have hall := List.all_eq_true.2 (List.rdropWhile_eq_nil_iff.1 hrest)
      rcases hpath.plain hall with hempty | hbare
      · exact absurd hempty hpath.ne_empty
      · exact absurd (beq_iff_eq.2 hbare) hslash
    · refine ⟨?_, .inr ?_⟩
      · rw [String.toList_append, hrest, List.head?_append, hstart]
        rfl
      · rw [Text.endsWith, List.isSuffixOf_iff_suffix, String.toList_append]
        exact List.suffix_append _ _

/-! ### All records -/

/-- A call in a scope brings a record: it is that of a route which the call declares there, or which
another one declares inside a scope that the call opens. -/
def Call.Brings (calls : Call → Prop) (c : Call) (u : Scope) (r : Record) : Prop :=
  ∃ s c' d helper, r = d.record helper ∧ c'.Declares s d ∧
    (c' = c ∧ s = u ∨ calls c' ∧ ∃ t, c.Opens u t ∧ Scope.LeadsTo calls t s)

/-- **Every path of a reader** opens with a slash and is a bare slash or ends with the optional
extension. Where all that the calls spell out has single slashes, so has the path, unless a resource that
doubles its slash brings the record. -/
theorem path_records_readerAfter (path : String) (readings : List Sources) :
    ∀ r ∈ (readerAfter declare path readings).records,
      r.path.toList.head? = some '/' ∧
      (r.path = "/" ∨ Text.endsWith formatEnding r.path = true) ∧
      ((∀ c, OccursIn path readings c → c.IsTidy) →
        Path.HasSingleSlashes r.path.toList ∨
        ∃ u c, Scope.LeadsTo (OccursIn path readings) {} u ∧ OccursIn path readings c ∧
          c.DoublesSlash u ∧ c.Brings (OccursIn path readings) u r) := by
  refine forall_records_readerAfter fun s c d hs hc hd helper _ => ?_
  have hbelow : Below "" d.path := by
    obtain ⟨t, ht, hdecl⟩ := hd.declares
    have hcontinues := Scope.Encloses.continues (hs.encloses.trans ht)
    exact hcontinues.path.trans hdecl.below
  obtain ⟨hstart, hending⟩ := path_record_form hbelow (hd.isRoutePath hs.encloses) helper
  refine ⟨hstart, hending, fun hcalls => ?_⟩
  -- the call itself doubles its slash, or it stands inside one that does
  by_cases hdouble : c.DoublesSlash s
  · exact .inr ⟨s, c, hs, hc, hdouble, s, c, d, helper, rfl, hd, .inl ⟨rfl, rfl⟩⟩
  · rcases hs.isTidy_or hcalls with htidy | ⟨u, c', t, hu, hc', hdouble', hopens, ht⟩
    · left
      exact hasSingleSlashes_record (hd.hasSingleSlashes htidy (hcalls c hc) hdouble) helper
    · exact .inr ⟨u, c', hu, hc', hdouble', s, c, d, helper, rfl, hd, .inr ⟨hc, t, hopens, ht⟩⟩

/-- The resource of users under a path of its own. -/
def usersAt (own : String) : Node :=
  .call 0 "" "resources"
    [.form 0 .symbol ":users" [],
      .form 0 .pair "" [.form 0 .label "path" [], .form 0 (.string own) "" []]] false []

/-- The reading of a routes file that declares the resource of users. -/
def usersReadings (own : String) : List Sources :=
  [⟨fun _ => false, fun _ => .ok [usersAt own]⟩]

theorem isTidy_usersReadings {own : String} (hown : Text.withoutMarks own = .ok own)
    (hslashes : Path.HasSingleSlashes own.toList) :
    ∀ c, OccursIn "" (usersReadings own) c → c.IsTidy := by
  intro c hc v hv
  obtain ⟨n, hn, hcall⟩ := exists_of_occursIn_singleton hc
  rw [List.mem_singleton.1 hn, usersAt, Node.hasCall_call] at hcall
  obtain rfl := hcall.resolve_right (by simp)
  cases hv with
  | @positional n v hmem hkind hvalue =>
    -- of the two arguments only the name of the resource is positional
    rcases List.mem_pair.1 hmem with rfl | rfl
    · have husers : Node.value (.form 0 .symbol ":users" []) = .ok "users" := by decide +kernel
      rw [husers] at hvalue
      cases hvalue
      decide
    · exact absurd hkind (by simp [Node.isSymbol, Node.isString, Node.kind])
  | key hp hkv hstring hvalue =>
    -- the key of the option is a label
    obtain rfl := List.mem_singleton.1 hp
    cases hkv
    cases hstring
  | option hp hkv hkey hpart hnil hvalue =>
    obtain rfl := List.mem_singleton.1 hp
    cases hkv
    rw [Node.value] at hvalue
    cases hown.symm.trans hvalue
    exact hslashes

theorem path_records_readerAfter_people :
    (∀ c, OccursIn "" (usersReadings "people") c → c.IsTidy) ∧
    let records := (readerAfter declare "" (usersReadings "people")).records
    records.map (·.path) = ["/people(.:format)", "/people(.:format)", "/people/new(.:format)",
      "/people/:id/edit(.:format)", "/people/:id(.:format)", "/people/:id(.:format)",
      "/people/:id(.:format)", "/people/:id(.:format)"] ∧
    ∀ r ∈ records,
      r.path.toList.head? = some '/' ∧
      (r.path = "/" ∨ Text.endsWith formatEnding r.path = true) ∧
      (Path.HasSingleSlashes r.path.toList ∨
        ∃ u c, Scope.LeadsTo (OccursIn "" (usersReadings "people")) {} u ∧
          OccursIn "" (usersReadings "people") c ∧ c.DoublesSlash u ∧
          c.Brings (OccursIn "" (usersReadings "people")) u r) := by
  have hcalls : ∀ c, OccursIn "" (usersReadings "people") c → c.IsTidy :=
    isTidy_usersReadings (by decide +kernel) (by decide +kernel)
  refine ⟨hcalls, by decide +kernel, fun r hr => ?_⟩
  obtain ⟨hstart, hending, hsingle⟩ := path_records_readerAfter "" (usersReadings "people") r hr
  exact ⟨hstart, hending, hsingle hcalls⟩

/-- A resource at a bare slash has two slashes in front of its further parts. -/
theorem not_hasSingleSlashes_usersAtSlash :
    (∀ c, OccursIn "" (usersReadings "/") c → c.IsTidy) ∧
    ∃ r ∈ (readerAfter declare "" (usersReadings "/")).records,
      r.path = "//new(.:format)" ∧ ¬Path.HasSingleSlashes r.path.toList := by
  refine ⟨isTidy_usersReadings (by decide +kernel) (by decide +kernel), ?_⟩
  have hmem : "//new(.:format)" ∈
      (readerAfter declare "" (usersReadings "/")).records.map (·.path) := by
    decide +kernel
  obtain ⟨r, hr, hpath⟩ := List.mem_map.1 hmem
  refine ⟨r, hr, hpath, fun h => h ⟨[], "new(.:format)".toList, ?_⟩⟩
  rw [hpath]
  rfl

end RouteHelpers.RouteFile
