import RouteHelpers.Inflection
import RouteHelpers.Proofs.Text.Cutting

/-!
What a singular is made of.

A rule cuts an ending off and writes another one, so a singular is a start of the word with an ending
behind it that stands in a table (`singularize_eq`). The tables write small letters only; a line feed at
the very end of a word comes back behind them.
-/

namespace RouteHelpers.Inflection

theorem withoutEnding?_isSuffix {word ending rest : List Char}
    (h : withoutEnding? word ending = some rest) : rest <:+ word := by
  induction ending generalizing word with
  | nil =>
    rw [withoutEnding?, Option.some.injEq] at h
    exact h ▸ List.suffix_refl word
  | cons c ending ih =>
    cases word with
    | nil => cases h
    | cons d word =>
      rw [withoutEnding?] at h
      split at h
      · exact (ih h).trans (List.suffix_cons d word)
      · cases h

/-- A rule puts its ending behind a start of the word. -/
theorem Rule.singularOf?_eq_some {r : Rule} {word singular : List Char}
    (h : r.singularOf? word = some singular) :
    ∃ stem, stem <+: word ∧ singular = stem ++ r.singular.toList := by
  unfold singularOf? at h
  split at h
  · cases h
  next rest hrest =>
    split at h
    · refine ⟨rest.reverse, ?_, (Option.some.inj h).symm⟩
      rw [← List.reverse_reverse word]
      exact List.reverse_prefix.2 (withoutEnding?_isSuffix hrest)
    · cases h

/-- The tables write small letters. -/
theorem isLower_of_mem_tables :
    (∀ r ∈ rules, r.singular.toList.all Char.isLower = true) ∧
      ∀ p ∈ irregular, p.2.toList.all Char.isLower = true := by
  decide +kernel

/-- **A singular** is a start of the word with small letters behind it, and with the line feed that the
word may end with. -/
theorem singularize_eq (word : String) :
    ∃ stem more, (singularize word).toList = stem ++ more ∧ stem <+: word.toList ∧
      ∀ c ∈ more, c.isLower = true ∨ c = '\n' ∧ c ∈ word.toList := by
  have hsame : ∃ stem more, word.toList = stem ++ more ∧ stem <+: word.toList ∧
      ∀ c ∈ more, c.isLower = true ∨ c = '\n' ∧ c ∈ word.toList :=
    ⟨word.toList, [], by simp, List.prefix_refl _, by simp⟩
  unfold singularize
  dsimp only
  split
  · exact hsame
  · split
    next singular hsingular =>
      -- a singular of its own keeps nothing of the word
      obtain ⟨before, after, hsplit, -⟩ := List.lookup_eq_some_iff.1 hsingular
      have hmem : (Text.lower word, singular) ∈ irregular := by
        rw [hsplit]
        exact List.mem_append_right _ List.mem_cons_self
      exact ⟨[], singular.toList, rfl, List.nil_prefix,
        fun c hc => .inl (List.all_eq_true.1 (isLower_of_mem_tables.2 _ hmem) c hc)⟩
    next =>
      split
      next singular hrule =>
        -- the rule saw the letters only, and the line feed was set aside
        obtain ⟨r, hr, hsingular⟩ := List.exists_of_findSome?_eq_some hrule
        obtain ⟨stem, hstem, rfl⟩ := Rule.singularOf?_eq_some hsingular
        have hword := Text.cutFinalNewline_append word.toList
        refine ⟨stem, r.singular.toList ++ (Text.cutFinalNewline word.toList).2, ?_,
          hstem.trans ⟨_, hword⟩, fun c hc => ?_⟩
        · rw [String.toList_ofList, List.append_assoc]
        · rcases List.mem_append.1 hc with hletter | hnewline
          · exact .inl (List.all_eq_true.1 (isLower_of_mem_tables.1 r hr) c hletter)
          · refine .inr ⟨?_, hword ▸ List.mem_append_right _ hnewline⟩
            rcases Text.cutFinalNewline_snd word.toList with hcut | hcut
            · rw [hcut] at hnewline
              cases hnewline
            · rw [hcut] at hnewline
              exact List.mem_singleton.1 hnewline
      next => exact hsame

end RouteHelpers.Inflection
