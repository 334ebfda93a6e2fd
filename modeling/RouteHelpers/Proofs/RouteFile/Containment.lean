import Mathlib.Data.List.DropRight
import Mathlib.Data.List.Infix
import RouteHelpers.Proofs.RouteFile.Walk
import RouteHelpers.Proofs.Text.Cutting

/-!
Routes stay inside their scopes.

A scope that another opens continues it (`Scope.Continues`): its path lies below the other's, its names
start with the other's, and it has default values for the same keys at least. A route that is declared
in a scope lies below the scope's path, has the scope's names in its own, and the scope's default
values. So the record of a route is contained in each scope around the route (`Scope.Contains`), how
deep ever it was declared: in blocks, in concerns or in drawn files.

A path lies below another if it starts with the other, less its final slashes, and goes on with a
slash or not at all (`Below`).
-/

namespace RouteHelpers

namespace Text

/-! ### Ends of lists -/

/-- Nothing is left where nothing but what is dropped is left. -/
theorem dropEndList_eq_nil {p : Char → Bool} {cs : List Char}
    (h : (dropEndList p cs).all p = true) : dropEndList p cs = [] := by
  have hnil : dropEndList p (dropEndList p cs) = [] :=
    List.rdropWhile_eq_nil_iff.2 (List.all_eq_true.1 h)
  exact (List.rdropWhile_idempotent p cs).symm.trans hnil

/-! ### Joined texts -/

theorem joinWith_isPrefix (sep : String) (xs ys : List String) :
    (joinWith sep xs).toList <+: (joinWith sep (xs ++ ys)).toList := by
  induction xs with
  | nil => simp [joinWith]
  | cons x xs ih =>
    rcases xs with - | ⟨x', xs⟩
    · rcases ys with - | ⟨y, ys⟩
      · exact List.prefix_refl _
      · simp [joinWith]
    · simp only [List.cons_append, joinWith, String.toList_append]
      exact (List.prefix_append_right_inj _).2 ih

theorem joinWith_isSuffix (sep : String) (xs ys : List String) :
    (joinWith sep ys).toList <:+ (joinWith sep (xs ++ ys)).toList := by
  induction xs with
  | nil => exact List.suffix_refl _
  | cons x xs ih =>
    refine ih.trans ?_
    rw [List.cons_append]
    rcases xs ++ ys with - | ⟨z, zs⟩
    · simp [joinWith]
    · simp only [joinWith, String.toList_append]
      exact List.suffix_append _ _

/-- A part of the texts that are joined is joined inside. -/
theorem joinWith_isInfix (sep : String) (xs ys zs : List String) :
    (joinWith sep ys).toList <:+: (joinWith sep (xs ++ ys ++ zs)).toList :=
  (joinWith_isSuffix sep xs ys).isInfix.trans (joinWith_isPrefix sep (xs ++ ys) zs).isInfix

end Text

namespace RouteFile

/-! ### Paths below a path -/

theorem toList_dropEndSlashes (path : String) :
    (dropEndSlashes path).toList = Text.dropEndList (· == '/') path.toList := by
  simp [dropEndSlashes, Text.dropEnd]

theorem dropEndSlashes_eq_empty {path : String}
    (h : (dropEndSlashes path).toList.all (· == '/') = true) : dropEndSlashes path = "" := by
  rw [toList_dropEndSlashes] at h
  rw [← String.toList_eq_nil_iff, toList_dropEndSlashes]
  exact Text.dropEndList_eq_nil h

/-- A path starts with a base, less the slashes at its end, and goes on with a slash or not at all. -/
def Below (base path : String) : Prop :=
  ∃ rest : List Char, path.toList = (dropEndSlashes base).toList ++ rest ∧
    (rest = [] ∨ rest.head? = some '/')

namespace Below

variable {base path path' : String}

theorem refl (base : String) : Below base base := by
  refine ⟨base.toList.rtakeWhile (· == '/'), ?_, ?_⟩
  · rw [toList_dropEndSlashes]
    exact List.rdropWhile_append_rtakeWhile.symm
  · rcases h : base.toList.rtakeWhile (· == '/') with - | ⟨c, rest⟩
    · exact .inl rfl
    · have hc : (c == '/') = true :=
        List.mem_rtakeWhile_imp (p := (· == '/')) (l := base.toList) (by rw [h]; simp)
      rw [eq_of_beq hc]
      exact .inr rfl

/-- Less its final slashes, a path still starts with the base less its own. -/
theorem dropEnd (h : Below base path) : Below base (dropEndSlashes path) := by
  obtain ⟨rest, hpath, hrest⟩ := h
  by_cases hall : rest.all (· == '/') = true
  · -- all that goes on is lost, and nothing more of the base than it had lost already
    refine ⟨[], ?_, .inl rfl⟩
    rw [toList_dropEndSlashes, hpath, Text.dropEndList_append, if_pos hall, toList_dropEndSlashes,
      List.append_nil]
    exact List.rdropWhile_idempotent _ _
  · refine ⟨Text.dropEndList (· == '/') rest, ?_, ?_⟩
    · rw [toList_dropEndSlashes, hpath, Text.dropEndList_append, if_neg hall]
    · -- the first slash stays, as something other than a slash comes behind it
      rcases rest with - | ⟨c, rest⟩
      · exact absurd rfl hall
      · obtain rfl : c = '/' := by simpa using hrest
        have hmore : ¬rest.all (· == '/') = true := by simpa using hall
        rw [← List.singleton_append, Text.dropEndList_append, if_neg hmore]
        exact .inr rfl

theorem trans (h : Below base path) (h' : Below path path') : Below base path' := by
  obtain ⟨rest, hpath, hrest⟩ := h.dropEnd
  obtain ⟨rest', hpath', hrest'⟩ := h'
  refine ⟨rest ++ rest', by rw [hpath', hpath, List.append_assoc], ?_⟩
  rcases hrest with rfl | hrest
  · exact hrest'
  · rcases rest with - | ⟨c, rest⟩
    · exact hrest'
    · exact .inr hrest

/-- A path goes on with a slash. -/
theorem append (h : Below base path) {more : String} (hmore : more.toList.head? = some '/') :
    Below base (path ++ more) := by
  obtain ⟨rest, hpath, hrest⟩ := h
  refine ⟨rest ++ more.toList, by rw [String.toList_append, hpath, List.append_assoc], .inr ?_⟩
  rcases hrest with rfl | hrest
  · exact hmore
  · rcases rest with - | ⟨c, rest⟩
    · exact hmore
    · exact hrest

theorem joinPath (h : Below base path) (more : String) : Below base (joinPath path more) := by
  unfold RouteFile.joinPath
  split
  · split
    next hempty =>
      -- a base that an empty path lies below is empty but for slashes
      rw [String.isEmpty_iff] at hempty
      obtain ⟨rest, hpath, -⟩ := h
      rw [hempty] at hpath
      have hbase : (dropEndSlashes base).toList = [] :=
        (List.append_eq_nil_iff.1 hpath.symm).1
      exact ⟨['/'], by rw [hbase]; rfl, .inr rfl⟩
    next => exact h
  · rw [String.append_assoc]
    exact h.dropEnd.append (by simp)

theorem memberPath (h : Below base path) (param : String) (alone : Bool) :
    Below base (Scope.memberPath path param alone) := by
  unfold Scope.memberPath
  split
  · exact h
  · rw [String.append_assoc]
    exact h.append (by simp)

theorem nestedPath (h : Below base path) (r : Enclosing) : Below base (Scope.nestedPath path r) := by
  unfold Scope.nestedPath
  split
  · exact h
  · rw [String.append_assoc, String.append_assoc, String.append_assoc]
    exact h.append (by simp)

/-- Only a base without more than slashes has a single slash below it. -/
theorem all_slash (h : Below base "/") : base.toList.all (· == '/') = true := by
  obtain ⟨rest, hpath, -⟩ := h
  have hall : ("/".toList).all (· == '/') = true := rfl
  rw [hpath, List.all_append, Bool.and_eq_true] at hall
  have hnil := dropEndSlashes_eq_empty hall.1
  rw [← String.toList_eq_nil_iff, toList_dropEndSlashes] at hnil
  exact List.all_eq_true.2 (List.rdropWhile_eq_nil_iff.1 hnil)

end Below

/-! ### Scopes that continue a scope -/

/-- A scope goes on from another: with its path, its names, and default values for its keys. -/
structure Scope.Continues (s t : Scope) : Prop where
  path : Below s.path t.path
  names : s.names <+: t.names
  defaults : ∀ key ∈ s.defaults.map (·.1), key ∈ t.defaults.map (·.1)

namespace Scope

theorem Continues.refl (s : Scope) : Continues s s :=
  ⟨.refl s.path, List.prefix_refl _, fun _ h => h⟩

theorem Continues.trans {s t u : Scope} (h : Continues s t) (h' : Continues t u) :
    Continues s u :=
  ⟨h.path.trans h'.path, h.names.trans h'.names, fun key hkey => h'.defaults key (h.defaults key hkey)⟩

theorem below_nesting (s : Scope) : Below s.path s.nesting.2 := by
  unfold nesting
  split
  · exact .refl _
  · split
    · exact (Below.refl _).memberPath _ _
    · exact .refl _
    · exact (Below.refl _).nestedPath _

theorem names_nesting (s : Scope) : s.names <+: s.nesting.1 := by
  unfold nesting
  split
  · exact List.prefix_refl _
  · split <;> exact List.prefix_append _ _

theorem mem_keys_setDefault {defaults : List (String × String)} {key : String} (k v : String)
    (h : key ∈ defaults.map (·.1)) : key ∈ (setDefault defaults k v).map (·.1) := by
  unfold setDefault
  split
  · obtain ⟨d, hd, rfl⟩ := List.mem_map.1 h
    rw [List.map_map]
    refine List.mem_map.2 ⟨d, hd, ?_⟩
    dsimp only [Function.comp_apply]
    split
    next heq => exact (eq_of_beq heq).symm
    next => rfl
  · rw [List.map_append]
    exact List.mem_append_left _ h

theorem mem_keys_withDefaults {s : Scope} {key : String} (given : List (String × String))
    (h : key ∈ s.defaults.map (·.1)) : key ∈ (s.withDefaults given).defaults.map (·.1) := by
  show key ∈ (given.foldl _ s.defaults).map _
  generalize s.defaults = defaults at h ⊢
  induction given generalizing defaults with
  | nil => exact h
  | cons p given ih => exact ih _ (mem_keys_setDefault p.1 p.2 h)

/-- **Opening a scope** goes on from the scope around it. -/
theorem Opens.continues {s t : Scope} (h : Opens s t) : Continues s t := by
  cases h with
  | inResource a name r =>
    exact ⟨s.below_nesting.joinPath _, s.names_nesting, fun _ h => h⟩
  | inNameSpace a name =>
    exact ⟨(Below.refl _).joinPath _, List.prefix_append _ _, fun _ h => h⟩
  | inScope a =>
    unfold Scope.inScope
    refine ⟨?_, ?_, fun _ h => h⟩
    · dsimp only
      split
      · exact .refl _
      · exact (Below.refl _).joinPath _
    · dsimp only
      split
      · exact List.prefix_refl _
      · exact List.prefix_append _ _
  | atLevel l => exact ⟨.refl _, List.prefix_refl _, fun _ h => h⟩
  | withDefaults given =>
    exact ⟨.refl _, List.prefix_refl _, fun _ h => mem_keys_withDefaults given h⟩

theorem Encloses.continues {s t : Scope} (h : s.Encloses t) : Continues s t := by
  induction h with
  | refl => exact .refl s
  | tail _ hopens ih => exact ih.trans hopens.continues

/-! ### Routes in a scope -/

namespace Declares

variable {s : Scope} {d : Declaration}

theorem defaults (h : s.Declares d) : d.defaults = s.defaults := by
  cases h <;> rfl

theorem below (h : s.Declares d) : Below s.path d.path := by
  cases h with
  | many r x verb =>
    unfold manyPlace
    cases x with
    | index | create => exact .refl _
    | new => exact (Below.refl _).append (by simp)
    | edit => exact ((Below.refl _).memberPath _ _).append (by simp)
    | view | update | destroy => exact (Below.refl _).memberPath _ _
  | one r x verb =>
    unfold onePlace
    cases x with
    | new | edit =>
      dsimp only
      rw [String.append_assoc]
      exact (Below.refl _).append (by simp)
    | index | create | view | update | destroy => exact .refl _
  | root action =>
    dsimp only
    split
    next hempty =>
      rw [String.isEmpty_iff] at hempty
      rw [hempty]
      exact ⟨['/'], rfl, .inr rfl⟩
    next => exact .refl _
  | route a name verb action =>
    unfold placeOf
    split
    · exact (Below.refl _).joinPath _
    · dsimp only
      split
      · exact ((Below.refl _).memberPath _ _).joinPath _
      · exact (Below.refl _).joinPath _
      · exact ((Below.refl _).nestedPath _).joinPath _

theorem names_plainHelper {a : Arguments} {name helper : String}
    (h : plainHelper a name s = some helper) :
    ∃ before after, helper = joinNames (before ++ s.names ++ after) := by
  unfold plainHelper at h
  split at h
  · split at h
    · cases h
    · cases h
    · obtain rfl := Option.some.inj h
      exact ⟨[], _, rfl⟩
  · obtain ⟨_, -, rfl⟩ := Option.map_eq_some_iff.1 h
    exact ⟨[], _, rfl⟩

/-- The name of a route has the names of its scope in it, one after the other. -/
theorem names (h : s.Declares d) {helper : String} (hd : d.helper = some helper) :
    ∃ before after, helper = joinNames (before ++ s.names ++ after) := by
  -- an action or the name of the route may stand in front, and the name of a resource behind
  cases h with
  | many r x verb =>
    obtain rfl := Option.some.inj hd
    unfold manyPlace
    cases x with
    | index | create => exact ⟨[], _, rfl⟩
    | new => exact ⟨["new"], _, rfl⟩
    | edit => exact ⟨["edit"], _, rfl⟩
    | view | update | destroy => exact ⟨[], _, rfl⟩
  | one r x verb =>
    obtain rfl := Option.some.inj hd
    unfold onePlace
    cases x with
    | new | edit => exact ⟨[_], _, rfl⟩
    | index | create | view | update | destroy => exact ⟨[], _, rfl⟩
  | root action =>
    obtain rfl := Option.some.inj hd
    exact ⟨[], _, rfl⟩
  | route a name verb action =>
    change (placeOf a name s).2 = some helper at hd
    unfold placeOf at hd
    split at hd
    · exact names_plainHelper hd
    · dsimp only at hd
      split at hd
      · obtain rfl := Option.some.inj hd
        exact ⟨[_], _, rfl⟩
      · obtain rfl := Option.some.inj hd
        exact ⟨[_], _, rfl⟩
      · obtain rfl := Option.some.inj hd
        exact ⟨[], _, rfl⟩

end Declares

/-! ### Records in a scope -/

/-- A record lies in a scope: its path starts with the scope's, less final slashes, and goes on with a
slash or the optional extension, being a bare slash only in a scope without a path; it has default
values for the scope's keys; and its helper, if it has one, has the scope's names in it. -/
structure Contains (s : Scope) (r : Record) : Prop where
  path : ∃ rest : List Char, r.path.toList = (dropEndSlashes s.path).toList ++ rest ∧
    (rest.head? = some '/' ∨ rest.head? = some '(')
  bare : r.path = "/" → s.path = "" ∨ s.path = "/"
  defaults : ∀ key ∈ s.defaults.map (·.1), Value.text key ∈ r.defaults.map (·.1)
  names : ∀ helper, r.helper = some helper → helper ≠ "" →
    (joinNames s.names).toList <:+: helper.toList

/-- The path of a record goes on from the base that its route lies below. -/
theorem path_record {base : String} {d : Declaration} (h : Below base d.path)
    (helper : Option String) :
    ∃ rest : List Char, (d.record helper).path.toList = (dropEndSlashes base).toList ++ rest ∧
      (rest.head? = some '/' ∨ rest.head? = some '(') := by
  unfold Declaration.record
  dsimp only
  split
  next heq =>
    rw [eq_of_beq heq] at h ⊢
    obtain ⟨rest, hpath, hrest⟩ := h
    refine ⟨rest, hpath, .inl (hrest.resolve_left ?_)⟩
    rintro rfl
    -- the base would end with a slash that it was to lose
    rw [List.append_nil] at hpath
    have hnil : dropEndSlashes base = "" := dropEndSlashes_eq_empty (by rw [← hpath]; rfl)
    rw [hnil] at hpath
    cases hpath
  next =>
    obtain ⟨rest, hpath, hrest⟩ := h.dropEnd
    refine ⟨rest ++ formatEnding.toList, ?_, ?_⟩
    · rw [String.toList_append, hpath, List.append_assoc]
    · rcases hrest with rfl | hrest
      · exact .inr rfl
      · rcases rest with - | ⟨c, rest⟩
        · exact .inr rfl
        · exact .inl hrest

/-- Only a route at a single slash has a record there. -/
theorem path_eq_slash {d : Declaration} {helper : Option String}
    (h : (d.record helper).path = "/") : d.path = "/" := by
  unfold Declaration.record at h
  dsimp only at h
  split at h
  next heq => exact eq_of_beq heq
  next =>
    -- the extension alone is longer
    have hlength := congrArg (·.toList.length) h
    rw [String.toList_append, List.length_append] at hlength
    have hending : formatEnding.toList.length = 10 := rfl
    have hslash : ("/".toList).length = 1 := rfl
    omega

/-! ### Scopes that can be reached -/

/-- A scope that some declarations open one inside the other, in no scope at first. -/
def IsReachable (s : Scope) : Prop :=
  Encloses {} s

/-- A path that holds more than slashes, unless it is empty or a single slash. -/
def IsPlain (path : String) : Prop :=
  path.toList.all (· == '/') = true → path = "" ∨ path = "/"

theorem isPlain_append_of_not_all {path more : String} (h : ¬more.toList.all (· == '/') = true) :
    IsPlain (path ++ more) := by
  intro hall
  rw [String.toList_append, List.all_append, Bool.and_eq_true] at hall
  exact absurd hall.2 h

theorem IsPlain.joinPath {base : String} (h : IsPlain base) (more : String) :
    IsPlain (joinPath base more) := by
  unfold RouteFile.joinPath
  split
  · split
    · exact fun _ => .inr rfl
    · exact h
  · intro hall
    simp only [String.toList_append, List.all_append, Bool.and_eq_true] at hall
    obtain ⟨⟨hbase, -⟩, hmore⟩ := hall
    rw [Text.strip, String.toList_ofList] at hmore
    rw [dropEndSlashes_eq_empty hbase, Text.strip, Text.stripList, Text.dropEndList_eq_nil hmore]
    exact .inr rfl

theorem IsPlain.memberPath {path : String} (h : IsPlain path) (param : String) (alone : Bool) :
    IsPlain (memberPath path param alone) := by
  unfold Scope.memberPath
  split
  · exact h
  · rw [String.append_assoc]
    exact isPlain_append_of_not_all (by simp)

theorem IsPlain.nestedPath {path : String} (h : IsPlain path) (r : Enclosing) :
    IsPlain (nestedPath path r) := by
  unfold Scope.nestedPath
  split
  · exact h
  · rw [String.append_assoc, String.append_assoc, String.append_assoc]
    exact isPlain_append_of_not_all (by simp)

theorem IsPlain.nesting {s : Scope} (h : IsPlain s.path) : IsPlain s.nesting.2 := by
  unfold Scope.nesting
  split
  · exact h
  · split
    · exact h.memberPath _ _
    · exact h
    · exact h.nestedPath _

theorem Opens.isPlain {s t : Scope} (h : Opens s t) (hs : IsPlain s.path) : IsPlain t.path := by
  cases h with
  | inResource a name r => exact hs.nesting.joinPath _
  | inNameSpace a name => exact hs.joinPath _
  | inScope a =>
    unfold Scope.inScope
    dsimp only
    split
    · exact hs
    · exact hs.joinPath _
  | atLevel l => exact hs
  | withDefaults given => exact hs

theorem IsReachable.isPlain {s : Scope} (h : IsReachable s) : IsPlain s.path := by
  induction h with
  | refl => exact fun _ => .inl rfl
  | tail _ hopens ih => exact hopens.isPlain ih

/-! ### Containment -/

/-- The record of a route that is declared in a scope, or in one inside it, lies in the scope. -/
theorem contains_record {s t : Scope} {d : Declaration} (hs : IsReachable s) (ht : s.Encloses t)
    (hd : t.Declares d) {helper : Option String} (hhelper : d.Allows helper) :
    s.Contains (d.record helper) where
  path := path_record (ht.continues.path.trans hd.below) helper
  bare h := by
    have hbelow := ht.continues.path.trans hd.below
    rw [path_eq_slash h] at hbelow
    exact hs.isPlain hbelow.all_slash
  defaults key hkey := by
    have hmem := ht.continues.defaults key hkey
    rw [← hd.defaults] at hmem
    obtain ⟨p, hp, rfl⟩ := List.mem_map.1 hmem
    simp only [Declaration.record, Entries.ofTexts, List.map_map]
    exact List.mem_map.2 ⟨p, hp, rfl⟩
  names name hname _ := by
    obtain ⟨before, after, rfl⟩ := hd.names (hhelper name hname)
    obtain ⟨inner, hinner⟩ := ht.continues.names
    rw [← hinner, joinNames, joinNames, List.filter_append, List.filter_append, List.filter_append,
      ← List.append_assoc, List.append_assoc]
    exact Text.joinWith_isInfix "_" _ _ _

/-- **Routes stay inside their scopes**: whatever statements are gone through in a scope that can be
reached, every record that they add lies in the scope. -/
theorem walk_contained {s : Scope} (hs : IsReachable s) (files : Sources) (path : String)
    (depth : Nat) (ns : List Node) (st : State) :
    ∃ added, ((walk declare files path depth ns s).reached st).records = st.records ++ added ∧
      ∀ r ∈ added, s.Contains r :=
  walk_adds files path depth ns s st fun _ _ ht hd _ hhelper => contains_record hs ht hd hhelper

/-- The scope of a name space with default values. -/
def adminScope : Scope :=
  (Scope.inNameSpace ⟨some "admin", [], []⟩ "admin" {}).withDefaults [("format", "json")]

/-- A resource with a route in its block. -/
def usersResource : Node :=
  .call 0 "" "resources" [.form 0 .symbol ":users" []] true
    [.call 0 "" "get" [.form 0 (.string "stats") "'stats'" []] false []]

theorem walk_contained_adminScope :
    IsReachable adminScope ∧
    (((walk declare ⟨fun _ => false, fun _ => .ok []⟩ "" 1 [usersResource] adminScope).reached
      {}).records.map fun r => (r.path, r.helper)).getLast?
        = some ("/admin/users/:user_id/stats(.:format)", some "admin_user_stats") ∧
    ∃ added, ((walk declare ⟨fun _ => false, fun _ => .ok []⟩ "" 1 [usersResource]
        adminScope).reached {}).records = [] ++ added ∧
      ∀ r ∈ added, adminScope.Contains r := by
  have hreach : IsReachable adminScope :=
    .tail (.single (.inNameSpace _ _ _)) (.withDefaults _ _)
  refine ⟨hreach, ?_, walk_contained hreach _ _ _ _ _⟩
  decide +kernel

end Scope
end RouteFile
end RouteHelpers
