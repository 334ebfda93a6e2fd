import RouteHelpers.Proofs.Inflection
import RouteHelpers.Proofs.RouteFile.Containment
import RouteHelpers.Proofs.RouteFile.Origin
import RouteHelpers.Proofs.RouteFile.Spelling

/-!
Helpers that are words.

The name of a helper is joined from the names of the scopes around a route, the names of resources and
the route's own. Where the calls name resources and name spaces by words, all of these are words but one:
the path of a route that has no name of its own. Outside of resources `nameOfPath?` makes a word of it; in
a resource it goes into the name as it is written, with its dashes and slashes (`Call.NamesByPath`). So a
helper is a word exactly if no such path is part of it.
-/

namespace RouteHelpers

namespace Text

theorem isWord_of_isLower {c : Char} (h : c.isLower = true) : isWord c = true := by
  have hletter : c.isAlphanum = true := by
    show (c.isUpper || c.isLower || c.isDigit) = true
    rw [h, Bool.or_true, Bool.true_or]
  have hascii : isAscii c = true := by
    have hle : c.toNat ≤ 122 := of_decide_eq_true (Bool.and_eq_true_iff.1 h).2
    exact decide_eq_true (by omega)
  rw [isWord_of_ascii hascii, hletter, Bool.or_true]

end Text

namespace RouteFile

/-! ### Words -/

/-- A text that consists of the characters of words. -/
def IsWord (s : String) : Prop :=
  ∀ c ∈ s.toList, Text.isWord c = true

instance (s : String) : Decidable (IsWord s) :=
  decidable_of_iff (s.toList.all Text.isWord = true) List.all_eq_true

theorem IsWord.append {s t : String} (hs : IsWord s) (ht : IsWord t) : IsWord (s ++ t) := by
  intro c hc
  rw [String.toList_append, List.mem_append] at hc
  exact hc.elim (hs c) (ht c)

theorem isWord_joinNames {parts : List String} (h : ∀ w ∈ parts, IsWord w) :
    IsWord (joinNames parts) := by
  have hfilled : ∀ w ∈ parts.filter (!·.isEmpty), IsWord w := by
    intro w hw
    exact h w (List.mem_of_mem_filter hw)
  unfold joinNames
  generalize parts.filter (!·.isEmpty) = filled at hfilled
  induction filled with
  | nil => exact fun c hc => absurd hc List.not_mem_nil
  | cons w rest ih =>
    rw [List.forall_mem_cons] at hfilled
    -- the underscore between two parts is a character of words as well
    cases rest with
    | nil => exact hfilled.1
    | cons v rest => exact (hfilled.1.append (by decide)).append (ih hfilled.2)

theorem isWord_joinNames_concat {ws : List String} {w : String} (hws : ∀ v ∈ ws, IsWord v)
    (hw : IsWord w) : IsWord (joinNames (ws ++ [w])) :=
  isWord_joinNames (List.forall_mem_append.2 ⟨hws, List.forall_mem_singleton.2 hw⟩)

theorem isWord_joinNames_around {ws : List String} {v w : String} (hv : IsWord v)
    (hws : ∀ u ∈ ws, IsWord u) (hw : IsWord w) : IsWord (joinNames (v :: ws ++ [w])) :=
  isWord_joinNames_concat (List.forall_mem_cons.2 ⟨hv, hws⟩) hw

/-- A part of a name that is not empty stands in the name. -/
theorem isInfix_joinNames {w : String} (hne : w ≠ "") (before after : List String) :
    w.toList <:+: (joinNames (before ++ w :: after)).toList := by
  have hkept : (w :: after).filter (!·.isEmpty) = [w] ++ after.filter (!·.isEmpty) := by
    simp [hne]
  rw [joinNames, List.filter_append, hkept, ← List.append_assoc]
  exact Text.joinWith_isInfix "_" _ [w] _

theorem isWord_singularize {word : String} (h : IsWord word) : IsWord (Inflection.singularize word) := by
  obtain ⟨stem, more, hsingular, hstem, hmore⟩ := Inflection.singularize_eq word
  intro c hc
  rw [hsingular, List.mem_append] at hc
  rcases hc with hc | hc
  · exact h c (hstem.subset hc)
  · exact (hmore c hc).elim Text.isWord_of_isLower fun hin => h c hin.2

/-- The characters of a path that a name can be made from. -/
def IsNameable (path : String) : Prop :=
  ∀ c ∈ path.toList, Text.isWord c = true ∨ c = '-' ∨ c = '/'

instance (path : String) : Decidable (IsNameable path) :=
  decidable_of_iff (path.toList.all (fun c => Text.isWord c || c == '-' || c == '/') = true)
    (by simp [IsNameable, or_assoc])

theorem isWord_nameOfPath? {path name : String} (h : IsNameable path)
    (hname : nameOfPath? path = some name) : IsWord name := by
  unfold nameOfPath? at hname
  dsimp only at hname
  split at hname
  · obtain rfl := Option.some.inj hname
    intro c hc
    rw [Text.flatMap, String.toList_ofList, List.mem_flatMap] at hc
    obtain ⟨x, hx, hc⟩ := hc
    rw [Text.strip, String.toList_ofList] at hx
    have hpath := h x ((Text.stripList_isInfix _ _).subset hx)
    -- a dash or a slash has become an underscore; anything else was a character of words before
    split at hc
    · rw [List.mem_singleton.1 hc]
      decide
    next hmark =>
      simp only [Bool.or_eq_true, beq_iff_eq, not_or] at hmark
      rw [List.mem_singleton.1 hc]
      exact hpath.resolve_right fun hx => hx.elim hmark.2 hmark.1
  · cases hname

/-- Of a path that is no word, a dash or a slash is the reason. -/
theorem isWord_or_of_isNameable {path : String} (h : IsNameable path) :
    IsWord path ∨ '-' ∈ path.toList ∨ '/' ∈ path.toList := by
  refine Classical.or_iff_not_imp_right.2 fun hnone c hc => (h c hc).resolve_right ?_
  rintro (rfl | rfl)
  · exact hnone (.inl hc)
  · exact hnone (.inr hc)

/-! ### Calls that name by words -/

/-- The arguments of a call of a method name by words: resources and name spaces have words for names,
what is renamed is renamed to a word, and routes have paths that a name can be made from. -/
structure Arguments.NameByWords (a : Arguments) (method : String) : Prop where
  name : method ∈ ["resources", "resource", "namespace"] → ∀ n ∈ a.name, IsWord n
  renamed : ∀ o ∈ a.text? "as", ∀ n ∈ o, IsWord n
  path : method ∈ verbMethods ∨ method = "match" → ∀ n ∈ a.name, IsNameable n

instance (a : Arguments) (method : String) : Decidable (a.NameByWords method) :=
  decidable_of_iff
    ((method ∈ ["resources", "resource", "namespace"] → ∀ n ∈ a.name, IsWord n) ∧
      (∀ o ∈ a.text? "as", ∀ n ∈ o, IsWord n) ∧
      (method ∈ verbMethods ∨ method = "match" → ∀ n ∈ a.name, IsNameable n))
    ⟨fun h => ⟨h.1, h.2.1, h.2.2⟩, fun h => ⟨h.name, h.renamed, h.path⟩⟩

/-- A call names by words, as far as it names at all. -/
def Call.NamesByWords (c : Call) : Prop :=
  ∀ a, Arguments.ofNodes c.args = .ok a → a.NameByWords c.method

instance (c : Call) : Decidable c.NamesByWords :=
  match h : Arguments.ofNodes c.args with
  | .error _ => .isTrue fun _ ha => nomatch h.symm.trans ha
  | .ok a =>
    decidable_of_iff (a.NameByWords c.method)
      ⟨fun hwords _ ha => Except.ok.inj (h.symm.trans ha) ▸ hwords, fun hwords => hwords a h⟩

/-- A call declares a route in a resource that has a path with a dash or a slash, and no name of its
own beside the path. -/
structure Call.NamesByPath (c : Call) (s : Scope) (path : String) : Prop where
  method : c.method ∈ verbMethods ∨ c.method = "match"
  inside : s.resource.isSome = true
  named : ∃ a, c.IsNamed a path ∧ a.text? "as" = none
  marked : '-' ∈ path.toList ∨ '/' ∈ path.toList

namespace Call

variable {c : Call} {a : Arguments} {name : String}

theorem IsNamed.isWord (hc : c.NamesByWords) (h : c.IsNamed a name)
    (hmethod : c.method ∈ ["resources", "resource", "namespace"]) : IsWord name :=
  (hc a h.arguments).name hmethod name h.given

/-- What a call is renamed to is a word, if what stands for that is one. -/
theorem NamesByWords.isWord_textOr (hc : c.NamesByWords) (ha : Arguments.ofNodes c.args = .ok a)
    {default : String} (hdefault : IsWord default) : IsWord (a.textOr "as" default) :=
  Arguments.textOr_induction (fun v hv => (hc a ha).renamed _ hv v rfl) hdefault (by decide)

end Call

/-! ### Scopes that are named by words -/

/-- A resource whose names are words. -/
structure Enclosing.IsWordy (r : Enclosing) : Prop where
  singular : IsWord r.singular
  plural : IsWord r.plural

/-- A resource that a call names by words has words for names. -/
theorem Call.HasResource.isWordy {c : Call} {a : Arguments} {name : String} {r : Enclosing}
    (h : c.HasResource a name r) (hc : c.NamesByWords) : r.IsWordy := by
  have hown (hmethod : c.method ∈ ["resources", "resource", "namespace"]) :
      IsWord (a.textOr "as" name) :=
    hc.isWord_textOr h.isNamed.arguments (h.isNamed.isWord hc hmethod)
  cases h with
  | many hmethod _ =>
    have hplural := hown (by simp [hmethod])
    have hsingular := isWord_singularize hplural
    unfold Enclosing.many
    exact ⟨hsingular, hplural⟩
  | one hmethod _ =>
    have hsingular := hown (by simp [hmethod])
    unfold Enclosing.one
    exact ⟨hsingular, hsingular⟩

/-- A scope in which all names in front and those of the resource are words. -/
structure Scope.IsWordy (s : Scope) : Prop where
  names : ∀ w ∈ s.names, IsWord w
  resource {r : Enclosing} : s.resource = some r → r.IsWordy

namespace Scope.IsWordy

variable {s t : Scope} {c : Call}

theorem nesting (h : s.IsWordy) : ∀ w ∈ s.nesting.1, IsWord w := by
  unfold Scope.nesting
  split
  · exact h.names
  next r hr =>
    have hwordy := h.resource hr
    split
    · exact List.forall_mem_append.2 ⟨h.names, List.forall_mem_singleton.2 hwordy.singular⟩
    · exact List.forall_mem_append.2 ⟨h.names, List.forall_mem_singleton.2 hwordy.plural⟩
    · exact List.forall_mem_append.2 ⟨h.names, List.forall_mem_singleton.2 hwordy.singular⟩

theorem inResource (h : s.IsWordy) (a : Arguments) (name : String) {r : Enclosing}
    (hr : r.IsWordy) : (s.inResource a name r).IsWordy := by
  refine ⟨h.nesting, fun hresource => ?_⟩
  obtain rfl := Scope.resource_inside hresource
  exact ⟨hr.singular, hr.plural⟩

/-- **Opening a scope** names by words what a call names by words. -/
theorem opens (h : s.IsWordy) (hc : c.NamesByWords) (hopens : c.Opens s t) : t.IsWordy := by
  cases hopens with
  | resource hresource => exact h.inResource _ _ (hresource.isWordy hc)
  | nameSpace hmethod hnamed =>
    have hname := hc.isWord_textOr hnamed.arguments (hnamed.isWord hc (by simp [hmethod]))
    refine ⟨?_, fun hresource => nomatch hresource⟩
    exact List.forall_mem_append.2 ⟨h.names, List.forall_mem_singleton.2 hname⟩
  | inner _ harguments =>
    -- the name of a scope is its path, and only an option names it
    have hname := hc.isWord_textOr harguments (by decide : IsWord "")
    unfold Scope.inScope
    refine ⟨?_, h.resource⟩
    dsimp only
    split
    · exact h.names
    · exact List.forall_mem_append.2 ⟨h.names, List.forall_mem_singleton.2 hname⟩
  | member _ | collection _ =>
    -- the resource is another one only in its level
    refine ⟨h.names, fun hresource => ?_⟩
    rw [Scope.resource_atLevel] at hresource
    obtain ⟨r, hr, rfl⟩ := Option.map_eq_some_iff.1 hresource
    obtain ⟨hsingular, hplural⟩ := h.resource hr
    exact ⟨hsingular, hplural⟩
  | defaults given _ => exact ⟨h.names, h.resource⟩

theorem leadsTo {calls : Call → Prop} (hcalls : ∀ c, calls c → c.NamesByWords)
    (h : Scope.LeadsTo calls {} s) : s.IsWordy :=
  h.preserves ⟨fun _ hw => absurd hw List.not_mem_nil, fun hresource => nomatch hresource⟩
    fun _ c _ _ hc hopens hwordy => hwordy.opens (hcalls c hc) hopens

end Scope.IsWordy

/-! ### Names of routes -/

theorem isWord_manyPlace {r : Enclosing} {inner : Scope} (hnames : ∀ w ∈ inner.names, IsWord w)
    (hr : r.IsWordy) (x : StandardAction) : IsWord (manyPlace r inner x).2 := by
  have hcollection :
      IsWord (if r.singular == r.plural then r.plural ++ "_index" else r.plural) := by
    split
    · exact hr.plural.append (by decide)
    · exact hr.plural
  unfold manyPlace
  cases x with
  | index | create => exact isWord_joinNames_concat hnames hcollection
  | new | edit => exact isWord_joinNames_around (by decide) hnames hr.singular
  | view | update | destroy => exact isWord_joinNames_concat hnames hr.singular

theorem isWord_onePlace {r : Enclosing} {inner : Scope} (hnames : ∀ w ∈ inner.names, IsWord w)
    (hr : r.IsWordy) (x : StandardAction) : IsWord (onePlace r inner x).2 := by
  unfold onePlace
  cases x with
  | new | edit => exact isWord_joinNames_around (by decide) hnames hr.singular
  | index | create | view | update | destroy => exact isWord_joinNames_concat hnames hr.singular

theorem isWord_plainHelper {s : Scope} {a : Arguments} {name helper : String}
    (hnames : ∀ w ∈ s.names, IsWord w) (hrenamed : ∀ o ∈ a.text? "as", ∀ n ∈ o, IsWord n)
    (hname : IsNameable name) (h : plainHelper a name s = some helper) : IsWord helper := by
  unfold plainHelper at h
  split at h
  next o ho =>
    split at h
    · cases h
    · cases h
    next v _ =>
      obtain rfl := Option.some.inj h
      exact isWord_joinNames_concat hnames (hrenamed _ ho v rfl)
  next =>
    obtain ⟨w, hw, rfl⟩ := Option.map_eq_some_iff.1 h
    exact isWord_joinNames_concat hnames (isWord_nameOfPath? hname hw)

/-- The name of a route in a resource is joined from words and what the route calls itself. -/
theorem exists_joinNames_of_inside {s : Scope} {a : Arguments} {name helper : String} {r : Enclosing}
    (hs : s.IsWordy) (hr : s.resource = some r) (h : (placeOf a name s).2 = some helper) :
    ∃ before after, (∀ w ∈ before, IsWord w) ∧ (∀ w ∈ after, IsWord w) ∧
      helper = joinNames (before ++ a.textOr "as" name :: after) := by
  have hwordy := hs.resource hr
  have hbehind {w : String} (hw : IsWord w) : ∀ v ∈ s.names ++ [w], IsWord v :=
    List.forall_mem_append.2 ⟨hs.names, List.forall_mem_singleton.2 hw⟩
  unfold placeOf at h
  rw [hr] at h
  dsimp only at h
  split at h
  · obtain rfl := Option.some.inj h
    exact ⟨[], _, by simp, hbehind hwordy.singular, rfl⟩
  · obtain rfl := Option.some.inj h
    exact ⟨[], _, by simp, hbehind hwordy.plural, rfl⟩
  · obtain rfl := Option.some.inj h
    exact ⟨_, [], hbehind hwordy.singular, by simp, by simp⟩

/-- What a route in a resource calls itself is a word, unless it is named by its path. -/
theorem isWord_textOr_or {c : Call} {s : Scope} {a : Arguments} {name : String}
    (hc : c.NamesByWords) (hmethod : c.method ∈ verbMethods ∨ c.method = "match")
    (hnamed : c.IsNamed a name) (hinside : s.resource.isSome = true) :
    IsWord (a.textOr "as" name) ∨ a.textOr "as" name = name ∧ c.NamesByPath s name := by
  have hwords := hc a hnamed.arguments
  -- an option that names the route takes the place of the path, even if it is empty
  rcases has : a.text? "as" with - | o
  · have htext : a.textOr "as" name = name := by simp [Arguments.textOr, has]
    rw [htext]
    refine (isWord_or_of_isNameable (hwords.path hmethod name hnamed.given)).imp_right fun hmark => ?_
    exact ⟨rfl, hmethod, hinside, ⟨a, hnamed, has⟩, hmark⟩
  · left
    rw [Arguments.textOr, has]
    cases o with
    | none => exact (by decide : IsWord "")
    | some v => exact hwords.renamed _ has v rfl

/-- **The name of a route** is a word or has the path in it that the route is named by. -/
theorem Call.Declares.isWord_or {c : Call} {s : Scope} {d : Declaration} {helper : String}
    (h : c.Declares s d) (hs : s.IsWordy) (hc : c.NamesByWords) (hd : d.helper = some helper) :
    IsWord helper ∨ ∃ path, c.NamesByPath s path ∧ path.toList <:+: helper.toList := by
  cases h with
  | @many a name r inner x verb hmethod hnamed hr hinner =>
    subst hr hinner
    obtain rfl := Option.some.inj hd
    have hresource : c.HasResource a name (.many a (a.textOr "as" name)) := .many hmethod hnamed
    exact .inl (isWord_manyPlace hs.nesting (hresource.isWordy hc) x)
  | @one a name r inner x verb hmethod hnamed hr hinner =>
    subst hr hinner
    obtain rfl := Option.some.inj hd
    have hresource : c.HasResource a name (.one (a.textOr "as" name)) := .one hmethod hnamed
    exact .inl (isWord_onePlace hs.nesting (hresource.isWordy hc) x)
  | root action _ =>
    obtain rfl := Option.some.inj hd
    exact .inl (isWord_joinNames_concat hs.names (by decide))
  | @route a name verb action hmethod hnamed =>
    rcases hr : s.resource with - | r
    · -- outside of resources the name is made from the path, by words only
      have hwords := hc a hnamed.arguments
      have hhelper : plainHelper a name s = some helper := by simpa [placeOf, hr] using hd
      exact .inl (isWord_plainHelper hs.names hwords.renamed (hwords.path hmethod name hnamed.given)
        hhelper)
    · -- all parts are words but what the route calls itself, so that part decides
      obtain ⟨before, after, hbefore, hafter, rfl⟩ := exists_joinNames_of_inside hs hr hd
      have hinside : s.resource.isSome = true := by simp [hr]
      refine (isWord_textOr_or hc hmethod hnamed hinside).imp (fun hown => ?_) fun hown => ?_
      · exact isWord_joinNames (List.forall_mem_append.2
          ⟨hbefore, List.forall_mem_cons.2 ⟨hown, hafter⟩⟩)
      · rw [hown.1]
        exact ⟨name, hown.2, isInfix_joinNames hnamed.ne_empty before after⟩

/-! ### All records -/

variable {path : String} {readings : List Sources}

/-- **Every helper of a reader** is a word, where the calls name by words, exactly if no route in a
resource brings a path with a dash or a slash into it. -/
theorem isWord_helper_readerAfter (hcalls : ∀ c, OccursIn path readings c → c.NamesByWords) :
    ∀ r ∈ (readerAfter declare path readings).records, ∀ helper, r.helper = some helper →
      (IsWord helper ↔ ∀ s c name, Scope.LeadsTo (OccursIn path readings) {} s →
        OccursIn path readings c → c.NamesByPath s name → ¬name.toList <:+: helper.toList) := by
  refine forall_records_readerAfter fun s c d hs hc hd own hown helper hhelper => ?_
  obtain rfl : own = some helper := hhelper
  constructor
  · -- a path that stands in a word is one, and then it has no mark
    intro hword s' c' name _ _ hname hin
    have hmark (x : Char) (hx : x ∈ name.toList) : Text.isWord x = true := hword x (hin.subset hx)
    rcases hname.marked with hdash | hslash
    · exact absurd (hmark '-' hdash) (by decide)
    · exact absurd (hmark '/' hslash) (by decide)
  · -- the call that declares the route is the only one that could bring such a path
    intro hnone
    have hwordy : s.IsWordy := Scope.IsWordy.leadsTo hcalls hs
    refine (hd.isWord_or hwordy (hcalls c hc) (hown helper rfl)).resolve_right ?_
    rintro ⟨name, hname, hin⟩
    exact hnone s c name hs hc hname hin

/-- A route of a user for signing out, with options beside. -/
def signOut (options : List Node) : Call where
  method := "get"
  args :=
    [.form 0 (.string "sign-out") "" [],
      .form 0 .pair "" [.form 0 .label "on" [], .form 0 .symbol ":member" []]] ++ options

/-- The reading of a routes file in which users have no route but one for signing out. -/
def signOutReadings (options : List Node) : List Sources :=
  let none : Node := .form 0 .pair "" [.form 0 .label "only" [], .form 0 .array "[]" []]
  let route : Node := .call 0 "" (signOut options).method (signOut options).args false []
  [⟨fun _ => false, fun _ => .ok
    [.call 0 "" "resources" [.form 0 .symbol ":users" [], none] true [route]]⟩]

/-- The option that renames a route to a word. -/
def asLeave : Node :=
  .form 0 .pair "" [.form 0 .label "as" [], .form 0 .symbol ":leave" []]

theorem namesByWords_signOutReadings {options : List Node} (h : (signOut options).NamesByWords) :
    ∀ c, OccursIn "" (signOutReadings options) c → c.NamesByWords := by
  intro c hc
  obtain ⟨n, hn, hcall⟩ := exists_of_occursIn_singleton hc
  rw [List.mem_singleton.1 hn, Node.hasCall_call] at hcall
  rcases hcall with rfl | ⟨route, hroute, hcall⟩
  · decide +kernel
  · rw [List.mem_singleton.1 hroute, Node.hasCall_call] at hcall
    rw [hcall.resolve_right (by simp)]
    exact h

theorem isWord_helper_readerAfter_signOut :
    (∀ c, OccursIn "" (signOutReadings [asLeave]) c → c.NamesByWords) ∧
    let records := (readerAfter declare "" (signOutReadings [asLeave])).records
    records.map (fun r => (r.path, r.helper))
      = [("/users/:id/sign-out(.:format)", some "leave_user")] ∧
    ∀ r ∈ records, ∀ helper, r.helper = some helper →
      (IsWord helper ↔ ∀ s c name, Scope.LeadsTo (OccursIn "" (signOutReadings [asLeave])) {} s →
        OccursIn "" (signOutReadings [asLeave]) c → c.NamesByPath s name →
          ¬name.toList <:+: helper.toList) := by
  have hcalls : ∀ c, OccursIn "" (signOutReadings [asLeave]) c → c.NamesByWords :=
    namesByWords_signOutReadings (by decide +kernel)
  exact ⟨hcalls, by decide +kernel, isWord_helper_readerAfter hcalls⟩

/-- A path with a dash goes into the helper of a route of one member. -/
theorem not_isWord_helper_signOut :
    (∀ c, OccursIn "" (signOutReadings []) c → c.NamesByWords) ∧
    ∃ r ∈ (readerAfter declare "" (signOutReadings [])).records,
      r.helper = some "sign-out_user" ∧ ¬IsWord "sign-out_user" := by
  refine ⟨namesByWords_signOutReadings (by decide +kernel), ?_⟩
  have hmem : some "sign-out_user" ∈
      (readerAfter declare "" (signOutReadings [])).records.map (·.helper) := by
    decide +kernel
  obtain ⟨r, hr, hhelper⟩ := List.mem_map.1 hmem
  exact ⟨r, hr, hhelper, by decide⟩

end RouteFile
end RouteHelpers
