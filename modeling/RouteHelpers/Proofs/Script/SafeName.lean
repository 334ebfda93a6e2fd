import Mathlib.Data.List.Nodup
import RouteHelpers.Proofs.Text.Cutting
import RouteHelpers.Script.Identifier

/-!
Names that are made safe.

A safe name is made in steps that can meet each other: `a-b` and `a_b` become one name, and so do `new`
and `new_`. On words that have no underscore at their ends they cannot (`IsBare`). All that is done to
such a word is to put an underscore in front of a digit and one behind a reserved word, so the word is
what is left when underscores are taken off the ends again:

    Text.strip (· == '_') (safeName w) = w

and different words have different safe names (`IsBare.eq_of_safeName_eq`).
-/

namespace RouteHelpers

namespace Script

/-- A text of the characters of words that neither starts nor ends with an underscore. -/
structure IsBare (w : String) : Prop where
  isWord : ∀ c ∈ w.toList, Text.isWord c = true
  first : ∃ c, w.toList.head? = some c ∧ c ≠ '_'
  last : ∃ c, w.toList.getLast? = some c ∧ c ≠ '_'

/-- The characters of identifiers stay as they are. -/
theorem map_identifierChar_of_forall {cs : List Char} (h : ∀ c ∈ cs, isIdentifierChar c = true) :
    cs.map identifierChar = cs :=
  (List.map_congr_left fun c hc => if_pos (h c hc)).trans (List.map_id _)

/-- Whatever characters a name has, those that stand for them are characters of identifiers. -/
theorem forall_mem_map_identifierChar (cs : List Char) :
    ∀ c ∈ cs.map identifierChar, isIdentifierChar c = true := by
  refine List.forall_mem_map.2 fun c _ => ?_
  unfold identifierChar
  split
  case isTrue h => exact h
  case isFalse => decide

namespace IsBare

variable {w v : String}

/-- A character of words is one of identifiers. -/
theorem map_identifierChar (h : IsBare w) : w.toList.map identifierChar = w.toList := by
  refine map_identifierChar_of_forall fun c hc => ?_
  rw [isIdentifierChar, h.isWord c hc, Bool.or_true]

/-- A safe name is the word with underscores around it. -/
theorem toList_safeName (h : IsBare w) : ∃ before after : List Char,
    (∀ c ∈ before, c = '_') ∧ (∀ c ∈ after, c = '_') ∧
      (safeName w).toList = before ++ (w.toList ++ after) := by
  obtain ⟨c, hfirst, -⟩ := h.first
  obtain ⟨rest, hw⟩ := List.head?_eq_some_iff.1 hfirst
  -- a digit gets an underscore in front, and a reserved word gets one behind
  have hstart : ∃ before : List Char, (∀ c ∈ before, c = '_') ∧
      safeStart (w.toList.map identifierChar) = before ++ w.toList := by
    rw [h.map_identifierChar, hw, safeStart]
    split
    · exact ⟨['_'], by simp, rfl⟩
    · exact ⟨[], by simp, rfl⟩
  obtain ⟨before, hbefore, hstart⟩ := hstart
  have hend : ∃ after : List Char, (∀ c ∈ after, c = '_') ∧
      (safeName w).toList = safeStart (w.toList.map identifierChar) ++ after := by
    simp only [safeName]
    split
    · exact ⟨['_'], by simp, by simp⟩
    · exact ⟨[], by simp, by simp⟩
  obtain ⟨after, hafter, hend⟩ := hend
  exact ⟨before, after, hbefore, hafter, by rw [hend, hstart, List.append_assoc]⟩

/-- **A word is read back from its safe name.** -/
theorem strip_safeName (h : IsBare w) : Text.strip (· == '_') (safeName w) = w := by
  obtain ⟨before, after, hbefore, hafter, hname⟩ := h.toList_safeName
  obtain ⟨first, hfirst, hf⟩ := h.first
  obtain ⟨last, hlast, hl⟩ := h.last
  have hlist : Text.stripList (· == '_') (safeName w).toList = w.toList := by
    rw [hname]
    refine Text.stripList_append (fun c hc => ?_) (fun c hc => ?_) hfirst ?_ hlast ?_
    · rw [hbefore c hc]
      rfl
    · rw [hafter c hc]
      rfl
    · exact beq_eq_false_iff_ne.2 hf
    · exact beq_eq_false_iff_ne.2 hl
  rw [Text.strip, hlist, String.ofList_toList]

/-- **Different words have different safe names.** -/
theorem eq_of_safeName_eq (hw : IsBare w) (hv : IsBare v) (h : safeName w = safeName v) : w = v := by
  rw [← hw.strip_safeName, h, hv.strip_safeName]

/-- Words that differ have safe names that differ. -/
theorem nodup_map_safeName {ws : List String} (h : ∀ w ∈ ws, IsBare w) (hnodup : ws.Nodup) :
    (ws.map safeName).Nodup :=
  hnodup.map_on fun w hw v hv => eq_of_safeName_eq (h w hw) (h v hv)

end IsBare
end Script
end RouteHelpers
