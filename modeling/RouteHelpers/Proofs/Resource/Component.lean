import RouteHelpers.Proofs.Text.Cutting
import RouteHelpers.Resource.Key

/-!
The words of a key as components of a path.

A key names a file: its words are written with slashes between them. That works as meant if every word
is a component, which is neither empty nor contains a slash or a period; a component is not `.` or
`..` then, and has no ending.

Users have a say in all words but those of a version, and each of theirs goes through `wordToken`,
which leaves characters of words only. The main result is `ResourceKey.isComponent_of_mem_words`.
-/

namespace RouteHelpers

/-! ### Characters that are left -/

namespace Text

/-- What is left of a list is the filler and the characters that are not replaced. -/
theorem mem_replaceRunsList {p : Char → Bool} {filler cs : List Char} {c : Char}
    (h : c ∈ replaceRunsList p filler cs) : c ∈ filler ∨ c ∈ cs ∧ p c = false := by
  fun_induction replaceRunsList p filler cs with
  | case1 => cases h
  | case2 d hd => exact .inl h
  | case3 d hd e rest he ih => exact (ih h).imp_right fun h => ⟨List.mem_cons_of_mem d h.1, h.2⟩
  | case4 d hd e rest he ih =>
    rcases List.mem_append.1 h with h | h
    · exact .inl h
    · exact (ih h).imp_right fun h => ⟨List.mem_cons_of_mem d h.1, h.2⟩
  | case5 d rest hd ih =>
    rcases List.mem_cons.1 h with rfl | h
    · exact .inr ⟨List.mem_cons_self, Bool.eq_false_iff.2 hd⟩
    · exact (ih h).imp_right fun h => ⟨List.mem_cons_of_mem d h.1, h.2⟩

end Text

/-- A word has underscores and those characters of a text that words have. -/
theorem mem_wordToken {s : String} {c : Char} (h : c ∈ (wordToken s).toList) :
    c = '_' ∨ c ∈ s.toList ∧ Text.isWord c = true := by
  rw [wordToken, Text.strip, String.toList_ofList] at h
  have hmem := (Text.stripList_isInfix _ _).subset h
  rw [Text.replaceRuns, String.toList_ofList] at hmem
  exact (Text.mem_replaceRunsList hmem).imp (by simp) fun hc => ⟨hc.1, by simpa using hc.2⟩

/-- A word is left with characters of words. -/
theorem isWord_of_mem_wordToken {s : String} {c : Char} (h : c ∈ (wordToken s).toList) :
    Text.isWord c = true := by
  rcases mem_wordToken h with rfl | h
  · decide
  · exact h.2

namespace ResourceKey

/-- A character that words of keys can have: one of words, or a digit of any script. -/
def isKeyChar (c : Char) : Bool :=
  Text.isWord c || Text.isDecimal c

theorem isKeyChar_of_isWord {c : Char} (h : Text.isWord c = true) : isKeyChar c = true := by
  rw [isKeyChar, h, Bool.true_or]

end ResourceKey

/-! ### Components -/

/-- The word names one component of a path, below the directory before it. -/
structure IsComponent (w : String) : Prop where
  nonempty : w ≠ ""
  no_slash : '/' ∉ w.toList
  no_period : '.' ∉ w.toList

instance (w : String) : Decidable (IsComponent w) :=
  decidable_of_iff (w ≠ "" ∧ '/' ∉ w.toList ∧ '.' ∉ w.toList)
    ⟨fun ⟨h₁, h₂, h₃⟩ => ⟨h₁, h₂, h₃⟩, fun ⟨h₁, h₂, h₃⟩ => ⟨h₁, h₂, h₃⟩⟩

namespace IsComponent

variable {w : String}

theorem ne_period (h : IsComponent w) : w ≠ "." := by
  rintro rfl
  exact h.no_period (by decide)

theorem ne_periods (h : IsComponent w) : w ≠ ".." := by
  rintro rfl
  exact h.no_period (by decide)

/-- A text that is not empty and has characters of keys only is a component: a slash and a period are no
characters of words, and digits of no script. -/
theorem of_isKeyChar (hne : w ≠ "") (h : ∀ c ∈ w.toList, ResourceKey.isKeyChar c = true) :
    IsComponent w where
  nonempty := hne
  no_slash hmem := absurd (h _ hmem) (by decide)
  no_period hmem := absurd (h _ hmem) (by decide)

end IsComponent

namespace ResourceKey

/-! ### Words that a user has a say in -/

theorem isWord_of_mem_wordOrRoot {s : String} {c : Char} (h : c ∈ (wordOrRoot s).toList) :
    Text.isWord c = true := by
  simp only [wordOrRoot] at h
  split at h
  · have hroot : "root".toList.all Text.isWord = true := by decide
    exact List.all_eq_true.1 hroot c h
  · exact isWord_of_mem_wordToken h

theorem wordOrRoot_ne_empty (s : String) : wordOrRoot s ≠ "" := by
  simp only [wordOrRoot]
  split
  case isTrue => decide
  case isFalse h => simpa using h

/-- A plural ends in an `s`. -/
theorem endsWith_pluralize (word : String) : Text.endsWith "s" (pluralize word) = true := by
  have hend : ∀ (start ending : String), ['s'] <:+ ending.toList →
      Text.endsWith "s" (start ++ ending) = true := by
    intro start ending h
    rw [Text.endsWith, List.isSuffixOf_iff_suffix, String.toList_append]
    exact h.trans (List.suffix_append _ _)
  unfold pluralize
  split
  case isTrue h => exact h
  case isFalse =>
    split
    · exact hend _ "ies" (by decide)
    · exact hend _ "s" (by decide)

theorem pluralize_ne_empty (word : String) : pluralize word ≠ "" := fun hempty =>
  absurd (endsWith_pluralize word) (by rw [hempty]; decide)

theorem mem_pluralize {word : String} {c : Char} (h : c ∈ (pluralize word).toList) :
    c ∈ word.toList ∨ c ∈ "ies".toList := by
  unfold pluralize at h
  split at h
  · exact .inl h
  · split at h
    next stem hstem =>
      rw [Text.beforeEnding?, Option.ite_none_right_eq_some] at hstem
      obtain rfl := Option.some.inj hstem.2
      rw [String.toList_append, List.mem_append, String.toList_ofList] at h
      exact h.imp_left List.mem_of_mem_take
    next =>
      rw [String.toList_append, List.mem_append] at h
      refine h.imp_right fun hc => ?_
      obtain rfl : c = 's' := by simpa using hc
      decide

theorem isWord_of_mem_pluralize {word : String} {c : Char}
    (h : ∀ c ∈ word.toList, Text.isWord c = true) (hc : c ∈ (pluralize word).toList) :
    Text.isWord c = true := by
  have hies : "ies".toList.all Text.isWord = true := by decide
  rcases mem_pluralize hc with hc | hc
  · exact h c hc
  · exact List.all_eq_true.1 hies c hc

/-! ### Words of a scope -/

theorem isDecimal_of_apiVersion? {path version : String} (h : apiVersion? path = some version) :
    ∀ c ∈ version.toList, Text.isDecimal c = true := by
  unfold apiVersion? at h
  split at h
  · cases h
  · obtain rfl := Option.some.inj (Option.ite_none_right_eq_some.1 h).2
    intro c hc
    rw [String.toList_ofList] at hc
    exact List.all_eq_true.1 List.all_takeWhile c hc

theorem ne_empty_of_apiVersion? {path version : String} (h : apiVersion? path = some version) :
    version ≠ "" := by
  unfold apiVersion? at h
  split at h
  · cases h
  · obtain ⟨hfound, hversion⟩ := Option.ite_none_right_eq_some.1 h
    obtain rfl := Option.some.inj hversion
    rw [Bool.and_eq_true] at hfound
    intro hempty
    have hnil := congrArg String.toList hempty
    rw [String.toList_ofList] at hnil
    simp [hnil] at hfound

/-- A word of a scope is one of two fixed words, or names a version. -/
theorem mem_scopeOfPath {path w : String} (h : w ∈ scopeOfPath path) :
    w = "admin" ∨ w = "api" ∨
      ∃ version, version ≠ "" ∧ (∀ c ∈ version.toList, Text.isDecimal c = true) ∧
        w = "v" ++ version := by
  unfold scopeOfPath at h
  split at h
  · exact .inl (List.mem_singleton.1 h)
  · split at h
    next version hversion =>
      rcases List.mem_cons.1 h with rfl | h
      · exact .inr (.inl rfl)
      · exact .inr (.inr ⟨version, ne_empty_of_apiVersion? hversion,
          isDecimal_of_apiVersion? hversion, List.mem_singleton.1 h⟩)
    next =>
      split at h
      · exact .inr (.inl (List.mem_singleton.1 h))
      · cases h

theorem isKeyChar_of_mem_scopeOfPath {path w : String} {c : Char} (h : w ∈ scopeOfPath path)
    (hc : c ∈ w.toList) : isKeyChar c = true := by
  have hfixed : ∀ w ∈ ["admin", "api", "v"], w.toList.all isKeyChar = true := by decide
  have hword {w : String} (hw : w ∈ ["admin", "api", "v"]) (hc : c ∈ w.toList) :
      isKeyChar c = true := List.all_eq_true.1 (hfixed w hw) c hc
  obtain rfl | rfl | ⟨version, -, hdecimal, rfl⟩ := mem_scopeOfPath h
  · exact hword (by decide) hc
  · exact hword (by decide) hc
  · rw [String.toList_append, List.mem_append] at hc
    rcases hc with hc | hc
    · exact hword (by decide) hc
    · rw [isKeyChar, hdecimal c hc, Bool.or_true]

theorem ne_empty_of_mem_scopeOfPath {path w : String} (h : w ∈ scopeOfPath path) : w ≠ "" := by
  obtain rfl | rfl | ⟨version, -, -, rfl⟩ := mem_scopeOfPath h
  · decide
  · decide
  · exact fun hempty => absurd (congrArg String.toList hempty) (by simp)

/-! ### Keys -/

theorem words_ofWords {ws : List String} (h : ws ≠ []) : (ofWords ws).words = ws := by
  rw [words, ofWords, List.getLast?_eq_some_getLast h]
  exact List.dropLast_concat_getLast h

theorem mem_words_ofWords {ws : List String} {w : String} (h : w ∈ (ofWords ws).words) :
    w ∈ ws ∨ w = "root" := by
  by_cases hws : ws = []
  · -- the name stands in for the missing words
    subst hws
    exact .inr (List.mem_singleton.1 h)
  · rw [words_ofWords hws] at h
    exact .inl h

theorem scope_ofHelper (r : Route) : (ofHelper r).scope = scopeOfPath r.path := rfl

/-- The name that a helper tells is the plural of a word. -/
theorem exists_name_ofHelper (r : Route) : ∃ s, (ofHelper r).name = pluralize (wordOrRoot s) := by
  simp only [ofHelper]
  exact ⟨_, rfl⟩

section
variable {g : Grouping} {r : Route} {w : String} {c : Char}

/-- The words of a key that a path tells are those of its components. -/
theorem exists_of_mem_words_ofPath (h : w ∈ (ofPath r).words) : ∃ s, wordOrRoot s = w := by
  rcases mem_words_ofWords h with h | rfl
  · obtain ⟨component, -, rfl⟩ := List.mem_map.1 h
    exact ⟨component, rfl⟩
  · exact ⟨"", by decide⟩

/-- The words of a key that a helper tells are those of a scope, and a plural. -/
theorem mem_words_ofHelper (h : w ∈ (ofHelper r).words) :
    w ∈ scopeOfPath r.path ∨ ∃ s, pluralize (wordOrRoot s) = w := by
  refine (List.mem_append.1 h).imp (scope_ofHelper r ▸ ·) fun h => ?_
  obtain ⟨s, hname⟩ := exists_name_ofHelper r
  exact ⟨s, ((List.mem_singleton.1 h).trans hname).symm⟩

/-- Where keys are not told by paths, they are told by helpers. -/
theorem ofRoute_eq_ofHelper (hg : g ≠ .scope) (r : Route) : ofRoute g r = ofHelper r := by
  cases g with
  | scope => exact absurd rfl hg
  | resource => rfl
  | controller => rfl

theorem mem_words_cases (h : w ∈ (ofRoute g r).words) :
    (∃ s, wordOrRoot s = w) ∨ w ∈ scopeOfPath r.path ∨ ∃ s, pluralize (wordOrRoot s) = w := by
  by_cases hg : g = .scope
  · rw [hg] at h
    exact .inl (exists_of_mem_words_ofPath h)
  · rw [ofRoute_eq_ofHelper hg] at h
    exact .inr (mem_words_ofHelper h)

theorem ne_empty_of_mem_words (h : w ∈ (ofRoute g r).words) : w ≠ "" := by
  rcases mem_words_cases h with ⟨s, rfl⟩ | h | ⟨s, rfl⟩
  · exact wordOrRoot_ne_empty s
  · exact ne_empty_of_mem_scopeOfPath h
  · exact pluralize_ne_empty _

/-- **The words of a key** have no characters but those of words and digits. -/
theorem isKeyChar_of_mem_words (h : w ∈ (ofRoute g r).words) (hc : c ∈ w.toList) :
    isKeyChar c = true := by
  rcases mem_words_cases h with ⟨s, rfl⟩ | h | ⟨s, rfl⟩
  · exact isKeyChar_of_isWord (isWord_of_mem_wordOrRoot hc)
  · exact isKeyChar_of_mem_scopeOfPath h hc
  · exact isKeyChar_of_isWord (isWord_of_mem_pluralize (fun _ => isWord_of_mem_wordOrRoot) hc)

/-- **Every word of a key is a component**, whatever the path and the helper of the route. -/
theorem isComponent_of_mem_words (h : w ∈ (ofRoute g r).words) : IsComponent w :=
  .of_isKeyChar (ne_empty_of_mem_words h) fun _ => isKeyChar_of_mem_words h

/-- A name that a helper tells is a plural. -/
theorem endsWith_name (hg : g ≠ .scope) (r : Route) :
    Text.endsWith "s" (ofRoute g r).name = true := by
  obtain ⟨s, hname⟩ := exists_name_ofHelper r
  rw [ofRoute_eq_ofHelper hg, hname]
  exact endsWith_pluralize _

end

end ResourceKey
end RouteHelpers
