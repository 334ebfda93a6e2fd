import RouteHelpers.Proofs.RouteFile.Alike
import RouteHelpers.Proofs.RouteFile.Walk
import RouteHelpers.Proofs.Text.Cutting
import RouteHelpers.Proofs.Text.Octet
import RouteHelpers.Proofs.Tracing

/-!
A name space is a scope with a path and a name.

`namespace :admin` puts a path and a name in front of everything in its block, and takes the block out
of the resource around it: what the scope keeps of one is cleared. `scope '/admin', module: :admin,
as: :admin` does the first two and leaves the rest as it is, so that a block in no resource may still
keep a plural, a parameter and a level.

The two scopes are not equal then, but they are alike (`alike_inScope_inNameSpace`), for neither belongs
to a resource. So whatever the block is, with all that it opens and uses, the two statements read alike
(`walk_nameSpace_eq_innerScope`).
-/

namespace RouteHelpers

/-! ### Characters of words -/

namespace Text

/-- A character of words is no white space, and stands for itself. -/
theorem isBlank_of_isWord {c : Char} (h : isWord c = true) :
    isBlank c = false ∧ isMark c = false := by
  by_cases hascii : isAscii c = true
  · have hall : ∀ n < 0x80, isWord (Char.ofNat n) = true →
        isBlank (Char.ofNat n) = false ∧ isMark (Char.ofNat n) = false := by decide +kernel
    have hc := hall c.toNat (by simpa [isAscii] using hascii)
    rw [Char.ofNat_toNat] at hc
    exact hc h
  · -- beyond ASCII, each range of letters and numbers is clear of blanks and marks
    have hranges : ∀ r ∈ Table.alphanumeric.toList, r.2 < firstMark ∧
        ∀ b ∈ [(0x85, 0x85), (0xa0, 0xa0), (0x1680, 0x1680), (0x2000, 0x200a), (0x2028, 0x2029),
          (0x202f, 0x202f), (0x205f, 0x205f), (0x3000, 0x3000)], r.2 < b.1 ∨ b.2 < r.1 := by
      decide +kernel
    have hin : inRanges Table.alphanumeric c.toNat = true := by
      rw [isWord, isAlphanumeric, if_neg hascii, Bool.or_eq_true, beq_iff_eq] at h
      refine h.resolve_left ?_
      rintro rfl
      exact hascii (by decide)
    simp only [inRanges, Array.any_eq_true', Bool.and_eq_true, decide_eq_true_eq] at hin
    obtain ⟨r, hr, hlow, hhigh⟩ := hin
    obtain ⟨hmark, hblanks⟩ := hranges r (Array.mem_toList_iff.2 hr)
    simp only [List.mem_cons, List.not_mem_nil, or_false, forall_eq_or_imp, forall_eq] at hblanks
    have hsize : 0x80 ≤ c.toNat := by simpa [isAscii] using hascii
    constructor
    · simp only [isBlank, Bool.or_eq_false_iff, Bool.and_eq_false_iff, decide_eq_false_iff_not,
        beq_eq_false_iff_ne]
      omega
    · simp only [isMark, decide_eq_false_iff_not]
      omega

end Text

namespace RouteFile

open Scope.Alike (Unmoved unmoved_nodesStep)

/-! ### Paths and values -/

/-- A slash in front of a path makes no difference below another. -/
theorem joinPath_slash {n : String} (hne : n ≠ "") (hslash : '/' ∉ n.toList) (base : String) :
    joinPath base ("/" ++ n) = joinPath base n := by
  have hstrip : Text.strip (· == '/') ("/" ++ n) = Text.strip (· == '/') n := by
    rw [Text.strip, Text.strip, String.toList_append]
    rfl
  have hpath : n ≠ "/" := fun h => hslash (by rw [h]; decide)
  have hlong : "/" ++ n ≠ "/" := fun h => hne (by simpa using congrArg String.toList h)
  have hfilled : "/" ++ n ≠ "" := fun h => by simpa using congrArg String.toList h
  rw [joinPath, joinPath, hstrip, if_neg (by simp [hlong, hfilled]), if_neg (by simp [hpath, hne])]

variable {n : String} {body : List Node} {s : Scope}

/-- A text has no marks in it and no blanks at its ends. -/
structure IsClear (text : String) : Prop where
  marks : ∀ c ∈ text.toList, Text.isMark c = false
  first : ∃ c, text.toList.head? = some c ∧ Text.isBlank c = false
  last : ∃ c, text.toList.getLast? = some c ∧ Text.isBlank c = false

/-- What a node without quotes says is its text, if that is clear. -/
theorem value_form (kind : Kind) (hkind : ∀ content, kind ≠ .string content) {text : String}
    (h : IsClear text) (place : Nat) :
    (Node.form place kind text []).value = .ok (Node.unquoted text) := by
  obtain ⟨first, hfirst, hf⟩ := h.first
  obtain ⟨last, hlast, hl⟩ := h.last
  have hplain : (Node.form place kind text []).value
      = (Text.withoutMarks text).map fun t => Node.unquoted (Text.strip Text.isBlank t) := by
    cases kind with
    | string content => exact absurd rfl (hkind content)
    | _ => rfl
  rw [hplain, Text.withoutMarks_of_forall h.marks, Except.map,
    Text.strip_eq_self hfirst hf hlast hl]

section Words

variable (hne : n ≠ "") (hword : ∀ c ∈ n.toList, Text.isWord c = true)
include hne hword

theorem isClear_word : IsClear n := by
  have hnil : n.toList ≠ [] := fun h => hne (String.toList_eq_nil_iff.1 h)
  have hblank {c : Char} (hc : c ∈ n.toList) : Text.isBlank c = false :=
    (Text.isBlank_of_isWord (hword c hc)).1
  exact ⟨fun c hc => (Text.isBlank_of_isWord (hword c hc)).2,
    ⟨_, List.head?_eq_some_head hnil, hblank (List.head_mem hnil)⟩,
    ⟨_, List.getLast?_eq_some_getLast hnil, hblank (List.getLast_mem hnil)⟩⟩

/-- A symbol is read as the word behind its colon. -/
theorem value_symbol (place : Nat) :
    (Node.form place .symbol (":" ++ n) []).value = .ok n := by
  have hlist : (":" ++ n).toList = ':' :: n.toList := by
    rw [String.toList_append]
    rfl
  obtain ⟨last, hlast, hblank⟩ := (isClear_word hne hword).last
  have hclear : IsClear (":" ++ n) := by
    refine ⟨?_, ⟨':', by rw [hlist]; rfl, by decide⟩, ⟨last, ?_, hblank⟩⟩
    · rw [hlist]
      exact List.forall_mem_cons.2 ⟨by decide, (isClear_word hne hword).marks⟩
    · rw [hlist, List.getLast?_cons, hlast]
      rfl
  rw [value_form .symbol nofun hclear, Node.unquoted, hlist]
  simp

/-- A label is read as the word that it is. -/
theorem value_label (place : Nat) : (Node.form place .label n []).value = .ok n := by
  rw [value_form .label nofun (isClear_word hne hword)]
  obtain ⟨c, cs, hlist⟩ := List.exists_cons_of_ne_nil fun h => hne (String.toList_eq_nil_iff.1 h)
  have hother {d : Char} (hd : Text.isWord d = false) : (c == d) = false := by
    rw [beq_eq_false_iff_ne]
    rintro rfl
    exact Bool.false_ne_true (hd.symm.trans (hword _ (hlist ▸ List.mem_cons_self)))
  simp only [Node.unquoted, hlist, hother (by decide : Text.isWord '\'' = false),
    hother (by decide : Text.isWord '"' = false), hother (by decide : Text.isWord ':' = false),
    Bool.or_self, Bool.false_eq_true, if_false]

end Words

/-- What is read goes on to the next step. -/
theorem Step.reading_ok {α : Type} (a : α) (f : α → Step) : Step.reading (.ok a) f = f a :=
  rfl

/-! ### The two statements -/

/-- The keys of the options of the second statement. -/
def optionKeys : List String :=
  ["module", "as"]

/-- The option `key: :n`. -/
def optionNode (key n text : String) (place keyPlace valuePlace : Nat) : Node :=
  .form place .pair text [.form keyPlace .label key [], .form valuePlace .symbol (":" ++ n) []]

/-- A node is the statement `namespace :n` with a block. -/
inductive IsNameSpace (n : String) (body : List Node) : Node → Prop
  | intro (place namePlace : Nat) (text : String) : IsNameSpace n body
      (.call place text "namespace" [.form namePlace .symbol (":" ++ n) []] true body)

/-- A node is the statement `scope '/n', module: :n, as: :n` with a block. -/
inductive IsInnerScope (n : String) (body : List Node) : Node → Prop
  | intro (place pathPlace : Nat) (text literal : String) {moduleOption asOption : Node} :
      (∃ t p q r, moduleOption = optionNode "module" n t p q r) →
      (∃ t p q r, asOption = optionNode "as" n t p q r) → IsInnerScope n body
        (.call place text "scope"
          [.form pathPlace (.string ("/" ++ n)) literal [], moduleOption, asOption] true body)

section Readings

variable (hne : n ≠ "") (hword : ∀ c ∈ n.toList, Text.isWord c = true)
include hne hword

theorem ofNodes_nameSpace (place : Nat) :
    Arguments.ofNodes [.form place .symbol (":" ++ n) []] = .ok ⟨some n, [], []⟩ := by
  have hname : ([Node.form place .symbol (":" ++ n) []].find? fun m => m.isSymbol || m.isString)
      = some (.form place .symbol (":" ++ n) []) := rfl
  rw [Arguments.ofNodes, hname]
  simp only [Option.mapM_some, value_symbol hne hword]
  rfl

/-- An option is added under its key. -/
theorem addPair_option {key : String} (hkey : key ∈ optionKeys) (a : Arguments)
    (text : String) (place keyPlace valuePlace : Nat) :
    a.addPair (optionNode key n text place keyPlace valuePlace)
      = .ok { a with texts := a.texts ++ [(key, some n)] } := by
  have hpair : (optionNode key n text place keyPlace valuePlace).keyValue?
      = some (.form keyPlace .label key [], .form valuePlace .symbol (":" ++ n) []) := rfl
  have hlist : listKeys.contains key = false :=
    (by decide : ∀ key ∈ optionKeys, listKeys.contains key = false) key hkey
  have hkeys : ∀ key ∈ optionKeys, key ≠ "" ∧ key.toList.all Text.isWord = true := by decide
  have hstring : (Node.form keyPlace .label key []).isString = false := rfl
  have hnil : (Node.form valuePlace .symbol (":" ++ n) []).isNil = false := rfl
  -- the key is a label, and the value is a symbol and no list
  rw [Arguments.addPair, hpair]
  dsimp only
  rw [value_label (hkeys key hkey).1 (List.all_eq_true.1 (hkeys key hkey).2), Except.ok_bind,
    hstring, Bool.false_and, if_neg Bool.false_ne_true, Arguments.addOption, hlist,
    if_neg Bool.false_ne_true, hnil, if_neg Bool.false_ne_true, value_symbol hne hword]
  rfl

theorem ofNodes_innerScope {pathPlace : Nat} {literal : String} {moduleOption asOption : Node}
    (hmodule : ∃ t p q r, moduleOption = optionNode "module" n t p q r)
    (has : ∃ t p q r, asOption = optionNode "as" n t p q r) :
    Arguments.ofNodes [.form pathPlace (.string ("/" ++ n)) literal [], moduleOption, asOption]
      = .ok ⟨some ("/" ++ n), [("module", some n), ("as", some n)], []⟩ := by
  obtain ⟨t, p, q, r, rfl⟩ := hmodule
  obtain ⟨t', p', q', r', rfl⟩ := has
  have hmarks : ∀ c ∈ ("/" ++ n).toList, Text.isMark c = false := by
    rw [String.toList_append]
    exact List.forall_mem_cons.2 ⟨by decide, fun c hc => (Text.isBlank_of_isWord (hword c hc)).2⟩
  have hpath : (Node.form pathPlace (.string ("/" ++ n)) literal []).value = .ok ("/" ++ n) :=
    Text.withoutMarks_of_forall hmarks
  have hname : ([Node.form pathPlace (.string ("/" ++ n)) literal [], optionNode "module" n t p q r,
      optionNode "as" n t' p' q' r'].find? fun m => m.isSymbol || m.isString)
      = some (.form pathPlace (.string ("/" ++ n)) literal []) := rfl
  have hpairs : [Node.form pathPlace (.string ("/" ++ n)) literal [], optionNode "module" n t p q r,
      optionNode "as" n t' p' q' r'].flatMap Node.pairs
      = [optionNode "module" n t p q r, optionNode "as" n t' p' q' r'] := rfl
  -- the string is the name, and the pairs are added in their order
  rw [Arguments.ofNodes, hname, hpairs]
  simp only [Option.mapM_some, hpath]
  show List.foldlM Arguments.addPair ⟨some ("/" ++ n), [], []⟩ _ = _
  rw [List.foldlM_cons, addPair_option hne hword (by decide), Except.ok_bind, List.foldlM_cons,
    addPair_option hne hword (by decide)]
  rfl

omit hword in
/-- Outside of resources, the two statements open scopes that are alike. -/
theorem alike_inScope_inNameSpace (hslash : '/' ∉ n.toList)
    (hs : s.singular = none ∨ s.singular = some "") :
    (s.inNameSpace ⟨some n, [], []⟩ n).Alike
      (s.inScope ⟨some ("/" ++ n), [("module", some n), ("as", some n)], []⟩) := by
  have hfilled : "/" ++ n ≠ "" := fun h => by simpa using congrArg String.toList h
  have hpath : (Arguments.mk (some ("/" ++ n)) [("module", some n), ("as", some n)] []).textOr "path"
      ("/" ++ n) = "/" ++ n := by
    simp [Arguments.textOr, Arguments.text?]
  have has : (Arguments.mk (some ("/" ++ n)) [("module", some n), ("as", some n)] []).textOr "as" ""
      = n := by
    simp [Arguments.textOr, Arguments.text?]
  have hplain (key : String) : (Arguments.mk (some n) [] []).textOr key n = n := rfl
  constructor
  case path =>
    simp only [Scope.inScope, Scope.inNameSpace, Option.getD_some, hpath, hplain,
      String.isEmpty_iff, hfilled, if_false, joinPath_slash hne hslash]
  case names =>
    simp only [Scope.inScope, Scope.inNameSpace, has, hplain, String.isEmpty_iff, hne, if_false]
  case resource =>
    -- the one has no singular any more, and the other has that of the scope around
    rcases hs with hs | hs <;> simp [Scope.resource, Scope.inScope, Scope.inNameSpace, hs]
  case defaults => rfl

/-- The first statement goes on in the scope that it opens. -/
theorem nameSpace_eq (u : Surroundings) (place : Nat) (s : Scope) :
    nameSpace u [.form place .symbol (":" ++ n) []] s
      = u.block (s.inNameSpace ⟨some n, [], []⟩ n) := by
  rw [nameSpace, ofNodes_nameSpace hne hword, Step.reading_ok]
  split
  next h => cases h
  next h => exact absurd (Option.some.inj h) hne
  next h => rw [Option.some.inj h]

/-- The second statement goes on in the scope that it opens. -/
theorem innerScope_eq (u : Surroundings) {pathPlace : Nat} {literal : String}
    {moduleOption asOption : Node} (hmodule : ∃ t p q r, moduleOption = optionNode "module" n t p q r)
    (has : ∃ t p q r, asOption = optionNode "as" n t p q r) (s : Scope) :
    innerScope u [.form pathPlace (.string ("/" ++ n)) literal [], moduleOption, asOption] s
      = u.block (s.inScope ⟨some ("/" ++ n), [("module", some n), ("as", some n)], []⟩) := by
  rw [innerScope, ofNodes_innerScope hne hword hmodule has, Step.reading_ok]

/-- Where concerns and drawn files are the same in scopes that are alike, the two statements are the
same step. -/
theorem nodeStep_eq (hs : s.singular = none ∨ s.singular = some "") {first second : Node}
    (hfirst : IsNameSpace n body first) (hsecond : IsInnerScope n body second)
    (enter : Declaration → Step) {nodes : List Node → Scope → Step} {drawn : String → Scope → Step}
    (hnodes : ∀ ns, Unmoved (nodes ns)) (hdrawn : ∀ name, Unmoved (drawn name)) :
    nodeStep enter nodes drawn first s = nodeStep enter nodes drawn second s := by
  obtain ⟨place, namePlace, text⟩ := hfirst
  obtain ⟨place', pathPlace, text', literal, hmodule, has⟩ := hsecond
  have hmethod : verbMethods.contains "namespace" = false ∧ verbMethods.contains "scope" = false := by
    decide
  have hslash : '/' ∉ n.toList := fun h => absurd (hword _ h) (by decide)
  rw [nodeStep, nodeStep, callStep, callStep, hmethod.1, hmethod.2, if_neg Bool.false_ne_true,
    if_neg Bool.false_ne_true]
  show nameSpace _ _ s = innerScope _ _ s
  rw [nameSpace_eq hne hword, innerScope_eq hne hword _ hmodule has]
  exact unmoved_nodesStep hnodes hdrawn body _ _ (alike_inScope_inNameSpace hne hslash hs)

end Readings

theorem nodesStep_congr {s : Scope} {first second : Node} {enter : Declaration → Step}
    {nodes : List Node → Scope → Step} {drawn : String → Scope → Step}
    (h : nodeStep enter nodes drawn first s = nodeStep enter nodes drawn second s)
    (before after : List Node) :
    nodesStep enter nodes drawn (before ++ first :: after) s
      = nodesStep enter nodes drawn (before ++ second :: after) s := by
  induction before with
  | nil => rw [List.nil_append, List.nil_append, nodesStep, nodesStep, h]
  | cons n before ih => rw [List.cons_append, List.cons_append, nodesStep, nodesStep, ih]

/-- **A name space is a scope with a path and a name**: outside of resources, `namespace :n` can be
replaced by `scope '/n', module: :n, as: :n` among any statements. Whatever the block is and whatever
has been read before, the reading adds the same records, claims the same names and defines the same
concerns, and tells the same. -/
theorem walk_nameSpace_eq_innerScope (hne : n ≠ "") (hword : ∀ c ∈ n.toList, Text.isWord c = true)
    (hs : s.singular = none ∨ s.singular = some "") {first second : Node} (hfirst : IsNameSpace n body first)
    (hsecond : IsInnerScope n body second) (before after : List Node) (files : Sources)
    (path : String) (depth : Nat) (st : State) :
    walk declare files path depth (before ++ first :: after) s st
      = walk declare files path depth (before ++ second :: after) s st := by
  cases depth with
  | zero => rw [walk, walk]
  | succ depth =>
    rw [walk, walk]
    -- concerns and drawn files are gone through by the reading of the depth below
    refine congrFun (nodesStep_congr (nodeStep_eq hne hword hs hfirst hsecond _
      (fun ns t t' h => Scope.Alike.walk_eq files path depth ns h) fun name t t' h => ?_)
      before after) st
    simp only [Scope.Alike.walk_eq files path depth _ h]

/-- A block with a resource and a route after it. -/
def accountBlock : List Node :=
  [.call 0 "" "resource" [.form 0 .symbol ":account" []] false [],
    .call 0 "" "get" [.form 0 (.string "stats") "'stats'" []] false []]

/-- The block in a name space. -/
def accountNameSpace : Node :=
  .call 0 "" "namespace" [.form 0 .symbol ":admin" []] true accountBlock

/-- The block in a scope with a path and a name. -/
def accountInnerScope : Node :=
  .call 0 "" "scope"
    [.form 0 (.string "/admin") "'/admin'" [], optionNode "module" "admin" "" 0 0 0,
      optionNode "as" "admin" "" 0 0 0] true accountBlock

/-- A scope that belongs to no resource and keeps what was said of one. -/
def staleScope : Scope :=
  { path := "/api", names := ["api"], plural := some "users", param := "slug", alone := true,
    level := some .member }

theorem walk_nameSpace_eq_innerScope_account :
    let files : Sources := ⟨fun _ => false, fun _ => .ok []⟩
    let s : Scope := staleScope
    s.inScope ⟨some "/admin", [("module", some "admin"), ("as", some "admin")], []⟩
      ≠ s.inNameSpace ⟨some "admin", [], []⟩ "admin" ∧
    (s.singular = none ∨ s.singular = some "") ∧
    ((walk declare files "" 1 [accountNameSpace] s).reached {}).claimed
      = ["api_admin_account", "new_api_admin_account", "edit_api_admin_account",
        "api_admin_stats"] ∧
    ∀ st, walk declare files "" 1 ([] ++ accountNameSpace :: []) s st
      = walk declare files "" 1 ([] ++ accountInnerScope :: []) s st := by
  intro files s
  have hword : "admin".toList.all Text.isWord = true := by decide
  have hstale : (s.inScope ⟨some "/admin", [("module", some "admin"), ("as", some "admin")], []⟩).level
      ≠ (s.inNameSpace ⟨some "admin", [], []⟩ "admin").level := by decide
  exact ⟨fun h => hstale (congrArg Scope.level h), .inl rfl, by decide +kernel,
    fun st => walk_nameSpace_eq_innerScope (by decide) (List.all_eq_true.1 hword) (.inl rfl)
    (.intro 0 0 "")
    (.intro 0 0 "" "'/admin'" ⟨"", 0, 0, 0, rfl⟩ ⟨"", 0, 0, 0, rfl⟩) [] [] files "" 1 st⟩

end RouteFile
end RouteHelpers
