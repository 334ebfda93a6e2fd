import RouteHelpers.Proofs.Configuration.Validation

/-!
Options after a check that failed.

A check changes a configuration between its parts, and where it fails, it leaves what it has changed so
far: the module format may be null in place of a name of the global one, and either list may hold
compiled patterns (`IsNormalizedTo`). None of that is seen by a later check. So a user who corrects
options and checks again is told what one would be told who had given the corrected options at once
(`isNormalizedTo_validate`), however many checks failed in between (`valid_foldl_corrections`).
-/

namespace RouteHelpers.Configuration

/-! ### What a check may change -/

/-- A pattern and its compiled form: itself, or the pattern that a text spells. -/
inductive IsCompiledTo : Value → Value → Prop
  | pattern (source : String) : IsCompiledTo (.pattern source) (.pattern source)
  | text {source : String} {p : Pattern} (h : Pattern.compile source = .ok p) :
    IsCompiledTo (.text source) (.pattern source)

/-- Patterns in a list or a tuple, and the list of their compiled forms, in order. -/
def AreCompiledTo (v w : Value) : Prop :=
  ∃ items compiled, (v = .list items ∨ v = .tuple items) ∧ w = .list compiled ∧
    List.Forall₂ IsCompiledTo items compiled

/-- The second configuration differs from the first one in normal forms at most: null for a name of the
global module format, and compiled patterns. -/
structure IsNormalizedTo (c c' : Configuration) : Prop where
  others : c' = { c with
    moduleType := c'.moduleType, included := c'.included, excluded := c'.excluded }
  moduleType : c'.moduleType = c.moduleType ∨
    ∃ s, c.moduleType = .text s ∧ Text.lower s ∈ globalNames ∧ c'.moduleType = .null
  included : c'.included = c.included ∨ AreCompiledTo c.included c'.included
  excluded : c'.excluded = c.excluded ∨ AreCompiledTo c.excluded c'.excluded

theorem normalizeModuleType_cases (v : Value) :
    normalizeModuleType v = v ∨
      ∃ s, v = .text s ∧ Text.lower s ∈ globalNames ∧ normalizeModuleType v = .null := by
  cases v with
  | text s =>
    by_cases hname : Text.lower s ∈ globalNames
    · exact .inr ⟨s, rfl, hname, by simp [normalizeModuleType, hname]⟩
    · exact .inl (by simp [normalizeModuleType, hname])
  | _ => exact .inl rfl

theorem isCompiledTo_of_compilePattern {option : String} {v w : Value}
    (h : compilePattern option v = .ok w) : IsCompiledTo v w := by
  unfold compilePattern at h
  split at h
  · cases h
    exact .pattern _
  · split at h <;> cases h
    next hcompile => exact .text hcompile
  · cases h

theorem areCompiledTo_of_compilePatterns {option : String} {v w : Value}
    (h : compilePatterns option v = .ok w) : AreCompiledTo v w := by
  obtain ⟨items, compiled, hitems, hcompiled, rfl⟩ := compilePatterns_eq_ok h
  exact ⟨items, compiled, hitems, rfl,
    (Except.forall₂_of_mapM hcompiled).imp fun _ _ => isCompiledTo_of_compilePattern⟩

/-! ### Corrections -/

/-- **A check that fails does no harm.** It leaves normal forms behind at most, and whatever options are
set afterwards, the next check ends as it would have without the one before: with the same valid form, or
with the same fault. -/
theorem isNormalizedTo_validate (c : Configuration) :
    IsNormalizedTo c c.validate.configuration ∧
      ∀ given, (c.validate.configuration.assignAll given).valid = (c.assignAll given).valid := by
  refine ⟨?_, fun given => ((agree_validate c).assignAll given).valid_eq.symm⟩
  obtain ⟨included, excluded, hchecked, hincluded, hexcluded⟩ := validate_cases c
  rw [hchecked]
  exact ⟨rfl, normalizeModuleType_cases c.moduleType,
    hincluded.imp_right areCompiledTo_of_compilePatterns,
    hexcluded.imp_right areCompiledTo_of_compilePatterns⟩

/-- A check that stops at the second list has changed the module format before, and made a list of the
patterns in the first one. -/
example :
    let c : Configuration :=
      { moduleType := .text "Global", included := .tuple [.text "a"], excluded := .text "users" }
    c.validate.fault = some (.configuration (.notPatterns "exclude")) ∧
      c.validate.configuration.moduleType.isNull = true ∧
      c.validate.configuration.included.literal = "[re.compile('a')]" := by
  decide +kernel

/-- **Corrections one after the other**, with a check before each, end as if all of them had been made at
once. -/
theorem valid_foldl_corrections (c : Configuration) (corrections : List (List (String × Value))) :
    (corrections.foldl (fun c given => c.validate.configuration.assignAll given) c).valid
      = (c.assignAll corrections.flatten).valid := by
  suffices h : Agree (c.assignAll corrections.flatten)
      (corrections.foldl (fun c given => c.validate.configuration.assignAll given) c) from
    h.valid_eq.symm
  induction corrections generalizing c with
  | nil => exact fun _ _ => rfl
  | cons given corrections ih =>
    have hhead := ((agree_validate c).assignAll given).assignAll corrections.flatten
    have hall : c.assignAll (given :: corrections).flatten
        = (c.assignAll given).assignAll corrections.flatten := by
      rw [List.flatten_cons, assignAll, List.foldl_append]
      rfl
    rw [hall, List.foldl_cons]
    exact hhead.trans (ih _)

end RouteHelpers.Configuration
