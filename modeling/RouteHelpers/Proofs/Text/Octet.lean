import RouteHelpers.Proofs.Text.Percent
import RouteHelpers.Text.Octet

/-!
Octets that are those of a text.

What is written in UTF-8 is read back: the first octet of a character says how many follow it and between
which bounds the second one lies, and the others say the rest of its code point
(`firstChar?_utf8Octets`). So the octets of a text have the text for their marked text, as long as no
character of it is one of those that stand for octets (`marked_encodeUtf8`).
-/

namespace RouteHelpers.Text

variable {n count low high : Nat} {rest : List Nat}

theorem continuing_cons (hlow : low ≤ n) (hhigh : n ≤ high) :
    continuing (count + 1) low high (n :: rest) = n :: continuing count 0x80 0xbf rest := by
  rw [continuing]
  simp [hlow, hhigh]

theorem continuing_zero (low high : Nat) (ns : List Nat) : continuing 0 low high ns = [] := by
  cases ns <;> rfl

theorem shapeOf?_two (hlow : 0x80 ≤ n) (hhigh : n < 0x800) :
    shapeOf? (0xc0 + n / 0x40) = some (1, 0x80, 0xbf) := by
  unfold shapeOf?
  rw [if_neg (by omega), if_pos (by simp; omega)]

/-- No surrogate is written by three octets. -/
theorem shapeOf?_three (hlow : 0x800 ≤ n) (hhigh : n < 0x10000) (hvalid : n < 0xd800 ∨ 0xdfff < n) :
    ∃ low high, shapeOf? (0xe0 + n / 0x1000) = some (2, low, high) ∧
      low ≤ 0x80 + n / 0x40 % 0x40 ∧ 0x80 + n / 0x40 % 0x40 ≤ high := by
  simp only [shapeOf?, Bool.and_eq_true, decide_eq_true_eq, beq_iff_eq]
  split_ifs
  all_goals first | exact ⟨_, _, rfl, by omega, by omega⟩ | omega

theorem shapeOf?_four (hlow : 0x10000 ≤ n) (hhigh : n < 0x110000) :
    ∃ low high, shapeOf? (0xf0 + n / 0x40000) = some (3, low, high) ∧
      low ≤ 0x80 + n / 0x1000 % 0x40 ∧ 0x80 + n / 0x1000 % 0x40 ≤ high := by
  simp only [shapeOf?, Bool.and_eq_true, decide_eq_true_eq, beq_iff_eq]
  split_ifs
  all_goals first | exact ⟨_, _, rfl, by omega, by omega⟩ | omega

theorem firstChar?_cons {more : List Nat} (hshape : shapeOf? n = some (more.length, low, high))
    (hmore : continuing more.length low high (more ++ rest) = more) :
    firstChar? (n :: (more ++ rest)) = some (Char.ofNat (codePoint n more), rest) := by
  rw [firstChar?, charOf, hshape]
  simp [hmore]

/-- A character is read off the octets that write it. -/
theorem firstChar?_utf8Octets (c : Char) (rest : List Nat) :
    firstChar? (utf8Octets c ++ rest) = some (c, rest) := by
  have hbound := toNat_lt_bound c
  have hvalid : c.toNat < 0xd800 ∨ 0xdfff < c.toNat := by
    have hvalid : c.toNat.isValidChar := c.valid
    unfold Nat.isValidChar at hvalid
    omega
  have hread {first : Nat} {more : List Nat} (h : codePoint first more = c.toNat)
      (hfirst : firstChar? (first :: (more ++ rest)) =
        some (Char.ofNat (codePoint first more), rest)) :
      firstChar? ((first :: more) ++ rest) = some (c, rest) := by
    rw [List.cons_append, hfirst, h, Char.ofNat_toNat]
  unfold utf8Octets
  generalize c.toNat = n at *
  dsimp only
  -- by the number of octets: the first tells the number, and each further one continues it
  split_ifs with h₁ h₂ h₃
  · have hshape : shapeOf? n = some (0, 0, 0) := if_pos h₁
    exact hread rfl (firstChar?_cons hshape (continuing_zero _ _ _))
  · refine hread ?_ (firstChar?_cons (shapeOf?_two (by omega) h₂) ?_)
    · simp only [codePoint, List.length_singleton, List.foldl_cons, List.foldl_nil]
      omega
    · exact (continuing_cons (by omega) (by omega)).trans (congrArg _ (continuing_zero _ _ _))
  · obtain ⟨low, high, hshape, hlow, hhigh⟩ := shapeOf?_three (by omega) h₃ hvalid
    refine hread ?_ (firstChar?_cons hshape ?_)
    · simp only [codePoint, List.length_cons, List.length_nil, List.foldl_cons, List.foldl_nil]
      omega
    · refine (continuing_cons hlow hhigh).trans (congrArg _ ?_)
      exact (continuing_cons (by omega) (by omega)).trans (congrArg _ (continuing_zero _ _ _))
  · obtain ⟨low, high, hshape, hlow, hhigh⟩ := shapeOf?_four (by omega) hbound
    refine hread ?_ (firstChar?_cons hshape ?_)
    · simp only [codePoint, List.length_cons, List.length_nil, List.foldl_cons, List.foldl_nil]
      omega
    · refine (continuing_cons hlow hhigh).trans (congrArg _ ?_)
      refine (continuing_cons (by omega) (by omega)).trans (congrArg _ ?_)
      exact (continuing_cons (by omega) (by omega)).trans (congrArg _ (continuing_zero _ _ _))

theorem markedFrom_flatMap {cs : List Char} (h : ∀ c ∈ cs, isMark c = false) {fuel : Nat}
    (hfuel : (cs.flatMap utf8Octets).length ≤ fuel) : markedFrom fuel (cs.flatMap utf8Octets) = cs := by
  induction cs generalizing fuel with
  | nil => cases fuel <;> rfl
  | cons c cs ih =>
    obtain ⟨hc, hcs⟩ := List.forall_mem_cons.1 h
    rw [List.flatMap_cons] at hfuel ⊢
    obtain ⟨n, more, hmore⟩ := List.exists_cons_of_ne_nil (utf8Octets_ne_nil c)
    have hfirst := firstChar?_utf8Octets c (cs.flatMap utf8Octets)
    rw [hmore] at hfuel hfirst ⊢
    -- a step takes at least one octet, and so one of the fuel
    rw [List.cons_append, List.length_cons, List.length_append] at hfuel
    obtain ⟨fuel, rfl⟩ := Nat.exists_eq_succ_of_ne_zero (by omega : fuel ≠ 0)
    rw [List.cons_append] at hfirst ⊢
    rw [markedFrom, hfirst]
    simp only [hc, Bool.false_eq_true, if_false]
    rw [ih hcs (by omega)]

/-- **The octets of a text** are read as the text, if no character of it stands for an octet. -/
theorem marked_encodeUtf8 {s : String} (h : ∀ c ∈ s.toList, isMark c = false) :
    marked (encodeUtf8 s) = s.toList :=
  markedFrom_flatMap h (Nat.le_refl _)

theorem withoutMarks_of_forall {s : String} (h : ∀ c ∈ s.toList, isMark c = false) :
    withoutMarks s = .ok s := by
  have hany : s.toList.any isMark = false := by simpa using h
  rw [withoutMarks, hany, if_neg Bool.false_ne_true]

end RouteHelpers.Text
