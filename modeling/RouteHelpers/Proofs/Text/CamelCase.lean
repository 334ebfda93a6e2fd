import RouteHelpers.Naming
import RouteHelpers.Proofs.Text.Cutting

/-!
Camel case, read from left to right.

Camel case is defined by cutting a name at its underscores and capitalizing the words behind the first.
On ASCII the same comes of a single pass over the name (`toList_camelCased`): underscores are dropped,
the character behind one is raised, and those behind that are lowered. From the pass one can read off
how a name in camel case starts, and when nothing but lower-case letters is left in it.
-/

namespace RouteHelpers

namespace Text

/-! ### ASCII characters -/

/-- What holds of 128 characters holds of all of ASCII. -/
theorem forall_ascii {P : Char → Prop} (h : ∀ k < 0x80, P (Char.ofNat k)) {c : Char}
    (hc : isAscii c = true) : P c := by
  have hk := h c.toNat (of_decide_eq_true hc)
  rwa [Char.ofNat_toNat] at hk

/-- A character that a name in ASCII is made of. -/
def IsNameChar (c : Char) : Prop :=
  isAscii c = true ∧ isWord c = true

instance : DecidablePred IsNameChar := fun _ => inferInstanceAs (Decidable (_ ∧ _))

theorem isAlphanum_of_isNameChar {c : Char} (h : IsNameChar c) (hne : c ≠ '_') :
    c.isAlphanum = true := by
  have hword := h.2
  rw [isWord_of_ascii h.1, Bool.or_eq_true, beq_iff_eq] at hword
  exact hword.resolve_left hne

/-- Letters and digits stay such in either case, and none is of lower case once it is raised. -/
theorem isAlphanum_cases {c : Char} (h : IsNameChar c) (hne : c ≠ '_') :
    c.toUpper.isAlphanum = true ∧ c.toLower.isAlphanum = true ∧ c.toUpper.isLower = false ∧
      (c.toUpper.isDigit = c.isDigit) :=
  forall_ascii (P := fun c => c.isAlphanum = true →
    c.toUpper.isAlphanum = true ∧ c.toLower.isAlphanum = true ∧ c.toUpper.isLower = false ∧
      (c.toUpper.isDigit = c.isDigit)) (by decide) h.1 (isAlphanum_of_isNameChar h hne)

end Text

/-! ### The pass -/

/-- Where a pass over a name is: in its first word, at the start of another word, or inside one. -/
inductive WordPlace where
  | first
  | start
  | inside
  deriving DecidableEq, Repr

namespace WordPlace

/-- A character as it is written in a place. -/
def cased : WordPlace → Char → Char
  | first, c => c
  | start, c => c.toUpper
  | inside, c => c.toLower

/-- The place behind a character of a word. -/
def next : WordPlace → WordPlace
  | first => first
  | start => inside
  | inside => inside

/-- The characters of a word that starts in a place. -/
def onWord (place : WordPlace) : List Char → List Char
  | [] => []
  | c :: rest => place.cased c :: rest.map place.next.cased

theorem onWord_cons (place : WordPlace) (c : Char) (rest : List Char) :
    place.onWord (c :: rest) = place.cased c :: place.next.onWord rest := by
  cases rest <;> cases place <;> rfl

theorem onWord_first (word : List Char) : first.onWord word = word := by
  cases word with
  | nil => rfl
  | cons c rest => exact congrArg (c :: ·) (List.map_id rest)

end WordPlace

/-- The characters of a name in camel case, from a place on. -/
def camelFrom (place : WordPlace) : List Char → List Char
  | [] => []
  | c :: rest =>
    if c = '_' then camelFrom .start rest else place.cased c :: camelFrom place.next rest

/-- The pass goes over the words of a name, one after the other. -/
theorem camelFrom_eq (place : WordPlace) (cs : List Char) :
    ∃ word words, Text.splitList '_' cs = word :: words ∧
      camelFrom place cs = place.onWord word ++ words.flatMap WordPlace.start.onWord := by
  induction cs generalizing place with
  | nil => exact ⟨[], [], rfl, rfl⟩
  | cons c rest ih =>
    by_cases hc : c = '_'
    · obtain ⟨word, words, hsplit, hcamel⟩ := ih .start
      refine ⟨[], word :: words, ?_, ?_⟩
      · rw [Text.splitList, hsplit]
        exact if_pos hc
      · rw [camelFrom, if_pos hc, hcamel]
        rfl
    · obtain ⟨word, words, hsplit, hcamel⟩ := ih place.next
      refine ⟨c :: word, words, ?_, ?_⟩
      · rw [Text.splitList, hsplit]
        exact if_neg hc
      · rw [camelFrom, if_neg hc, hcamel, WordPlace.onWord_cons, List.cons_append]

theorem toList_capitalize {cs : List Char} (h : ∀ c ∈ cs, Text.isAscii c = true) :
    (Text.capitalize (String.ofList cs)).toList = WordPlace.start.onWord cs := by
  cases cs with
  | nil => rfl
  | cons c rest =>
    rw [Text.capitalize_of_ascii h, String.toList_ofList]
    rfl

theorem toList_joinWith_empty (ws : List String) :
    (Text.joinWith "" ws).toList = ws.flatMap String.toList := by
  induction ws with
  | nil => rfl
  | cons w ws ih =>
    by_cases hnil : ws = []
    · simp [hnil, Text.joinWith]
    · rw [Text.joinWith_cons _ _ hnil]
      simp [ih]

/-- **Camel case is a single pass** over a name in ASCII. -/
theorem toList_camelCased {name : String} (h : ∀ c ∈ name.toList, Text.isAscii c = true) :
    (camelCased name).toList = camelFrom .first name.toList := by
  obtain ⟨word, words, hsplit, hcamel⟩ := camelFrom_eq .first name.toList
  have hwords : ((words.map String.ofList).map Text.capitalize).flatMap String.toList
      = words.flatMap WordPlace.start.onWord := by
    rw [List.map_map, List.flatMap_map]
    refine List.flatMap_congr fun w hw => toList_capitalize fun c hc => h c ?_
    exact Text.mem_of_mem_splitList (hsplit ▸ List.mem_cons_of_mem word hw) hc
  rw [hcamel, camelCased, Text.split, hsplit, List.map_cons]
  simp only [String.toList_append, String.toList_ofList, toList_joinWith_empty, hwords,
    WordPlace.onWord_first]

/-! ### What is left of a name -/

/-- Behind underscores a name starts with a capital. -/
theorem head?_camelFrom_start (cs : List Char) :
    (camelFrom .start cs).head? = (cs.dropWhile (· == '_')).head?.map Char.toUpper := by
  induction cs with
  | nil => rfl
  | cons c rest ih =>
    by_cases hc : c = '_'
    · rw [camelFrom, if_pos hc, ih, hc]
      rfl
    · rw [camelFrom, if_neg hc, List.dropWhile_cons_of_neg (by simpa using hc)]
      rfl

/-- The characters of a name in camel case are letters and digits. -/
theorem isAlphanum_of_mem_camelFrom {place : WordPlace} {cs : List Char}
    (h : ∀ c ∈ cs, Text.IsNameChar c) {c : Char} (hc : c ∈ camelFrom place cs) :
    c.isAlphanum = true := by
  induction cs generalizing place with
  | nil => cases hc
  | cons d rest ih =>
    rw [List.forall_mem_cons] at h
    rw [camelFrom] at hc
    split at hc
    next => exact ih h.2 hc
    next hne =>
      rcases List.mem_cons.1 hc with rfl | hc
      · cases place with
        | first => exact Text.isAlphanum_of_isNameChar h.1 hne
        | start => exact (Text.isAlphanum_cases h.1 hne).1
        | inside => exact (Text.isAlphanum_cases h.1 hne).2.1
      · exact ih h.2 hc

/-- What comes behind underscores is raised, unless nothing does. -/
theorem all_underscore_of_camelFrom_start {cs : List Char} (h : ∀ c ∈ cs, Text.IsNameChar c)
    (hlower : ∀ c ∈ camelFrom .start cs, c.isLower = true) : ∀ c ∈ cs, (c == '_') = true := by
  rcases hfirst : (cs.dropWhile (· == '_')).head? with - | d
  · exact List.dropWhile_eq_nil_iff.1 (List.head?_eq_none_iff.1 hfirst)
  · -- the first character that is no underscore comes out as a capital
    exfalso
    have hne : d ≠ '_' := by
      have hnot := List.head?_dropWhile_not (· == '_') cs
      rw [hfirst] at hnot
      simpa using hnot
    have hmem : d ∈ cs := (List.dropWhile_suffix _).subset (List.mem_of_head? hfirst)
    have hraised : d.toUpper ∈ camelFrom .start cs :=
      List.mem_of_head? ((head?_camelFrom_start cs).trans (by rw [hfirst]; rfl))
    exact absurd (hlower _ hraised) (by simp [(Text.isAlphanum_cases (h d hmem) hne).2.2.1])

theorem camelFrom_start_of_all {cs : List Char} (h : ∀ c ∈ cs, (c == '_') = true) :
    camelFrom .start cs = [] := by
  have hnil : cs.dropWhile (· == '_') = [] := List.dropWhile_eq_nil_iff.2 h
  exact List.head?_eq_none_iff.1 ((head?_camelFrom_start cs).trans (by rw [hnil]; rfl))

/-- **Only underscores at the end leave no trace.** If a name in camel case has nothing but lower-case
letters, or the name itself has nothing else before the underscores at its end, then both are the
same. -/
theorem camelFrom_eq_dropEndList {cs : List Char} (h : ∀ c ∈ cs, Text.IsNameChar c)
    (hlower : (∀ c ∈ camelFrom .first cs, c.isLower = true) ∨
      ∀ c ∈ Text.dropEndList (· == '_') cs, c.isLower = true) :
    camelFrom .first cs = Text.dropEndList (· == '_') cs := by
  induction cs with
  | nil => rfl
  | cons c rest ih =>
    rw [List.forall_mem_cons] at h
    by_cases hc : c = '_'
    · -- an underscore is gone either way, and behind it there is nothing but underscores
      rw [camelFrom, if_pos hc] at hlower ⊢
      have hall : ∀ d ∈ rest, (d == '_') = true := by
        rcases hlower with hlower | hlower
        · exact all_underscore_of_camelFrom_start h.2 hlower
        · by_contra hnot
          -- the underscore in front is kept, and is no letter
          have hkept := Text.dropEndList_append (· == '_') [c] rest
          rw [List.singleton_append, if_neg (by simpa using hnot)] at hkept
          have hunderscore := hlower c (by rw [hkept]; exact List.mem_cons_self)
          rw [hc] at hunderscore
          exact absurd hunderscore (by decide)
      have hdrop : Text.dropEndList (· == '_') (c :: rest) = [] :=
        List.rdropWhile_eq_nil_iff.2 (List.forall_mem_cons.2 ⟨by simp [hc], hall⟩)
      rw [camelFrom_start_of_all hall, hdrop]
    · have hdrop : Text.dropEndList (· == '_') (c :: rest) = c :: Text.dropEndList (· == '_') rest :=
        Text.dropEndList_cons_of_neg (by simpa using hc) rest
      rw [camelFrom, if_neg hc, hdrop] at hlower ⊢
      rw [List.forall_mem_cons, List.forall_mem_cons] at hlower
      exact congrArg (c :: ·) (ih h.2 (hlower.imp And.right And.right))

end RouteHelpers
