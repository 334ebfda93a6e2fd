import Mathlib.Data.Set.Function
import RouteHelpers.Proofs.Script.Distinctness

/-!
Names that can be used, and safe names as those.

A name is made safe in steps: characters that no identifier has are replaced, an empty name is filled, an
underscore is put in front of a digit, and one behind a reserved word. No step undoes what another one
has done, as a reserved word neither starts nor ends with an underscore. So a safe name can always be
used (`isUsable_safeName`), and the names that can be used are just those that are left as they are:

    safeName name = name ↔ IsUsable name

Different names may have one safe name, as `a-b` and `a_b` do, and `new` and `new_`. Bare words
(`IsBare`) do not.
-/

namespace RouteHelpers.Script

variable {name : String}

/-- A name that code can bind as it is. -/
structure IsUsable (name : String) : Prop extends IsArgumentName name where
  start : startsWithDigit name = false
  notReserved : isReserved name = false

/-- A safe name is that of a name which has the characters of identifiers already. -/
theorem exists_isArgumentName (name : String) :
    ∃ w, IsArgumentName w ∧ safeName name = safeName w := by
  by_cases hempty : name = ""
  · -- an empty name is filled with an underscore, which is left as it is
    exact ⟨"_", by decide, by rw [hempty]; decide +kernel⟩
  · have hchar := forall_mem_map_identifierChar name.toList
    refine ⟨String.ofList (name.toList.map identifierChar), ⟨fun h => hempty ?_, ?_⟩, ?_⟩
    · rw [← String.toList_eq_nil_iff, String.toList_ofList, List.map_eq_nil_iff] at h
      exact String.toList_eq_nil_iff.1 h
    · rwa [String.toList_ofList]
    · simp only [safeName, String.toList_ofList, map_identifierChar_of_forall hchar]

/-- A safe name can be used, whatever it is made from. -/
theorem isUsable_safeName (name : String) : IsUsable (safeName name) := by
  obtain ⟨w, hw, heq⟩ := exists_isArgumentName name
  obtain ⟨hstart, hreserved⟩ := hw.not_changed_safeName
  rw [heq]
  exact ⟨IsArgumentName.safeName w, hstart, hreserved⟩

/-- A name that can be used is left as it is. -/
theorem IsUsable.safeName_eq_self (h : IsUsable name) : safeName name = name := by
  rw [h.toIsArgumentName.safeName_eq, h.start, h.notReserved]
  rfl

/-- **Making names safe is a projection onto the names that can be used**: it ends in them, leaves them
as they are, and does nothing more when it is done again. Bare words it keeps apart. -/
theorem safeName_isProjection :
    (∀ name, IsUsable (safeName name)) ∧
      (∀ name, safeName name = name ↔ IsUsable name) ∧
      (∀ name, safeName (safeName name) = safeName name) ∧
      Set.InjOn safeName {w | IsBare w} := by
  refine ⟨isUsable_safeName, fun name => ⟨fun hkept => ?_, IsUsable.safeName_eq_self⟩,
    fun name => (isUsable_safeName name).safeName_eq_self, fun w hw v hv hmeet => ?_⟩
  · rw [← hkept]
    exact isUsable_safeName name
  · exact IsBare.eq_of_safeName_eq hw hv hmeet

/-- Of words with underscores at their ends, different ones may meet. -/
example : safeName "new" = safeName "new_" ∧ safeName "1st" = safeName "_1st" := by
  decide +kernel

end RouteHelpers.Script
