import Mathlib.Data.List.Nodup
import RouteHelpers.Proofs.Path.Required
import RouteHelpers.Proofs.Script.SafeName
import RouteHelpers.Proofs.Script.Shape

/-!
Arguments of rich helpers that have different names.

The parameters of a path have different names, and each becomes an argument under its safe name. Behind
them stands one more argument, `options`. A name of the characters of identifiers is changed in two ways
only: `1st` becomes `_1st` and `new` becomes `new_` (`IsArgumentName.safeName_cases`). What comes out is
not changed again, so of two names that become one the one has become the other:

    safeName w = safeName v → w = v ∨ safeName w = v ∨ safeName v = w

Nothing looks at what the other arguments are called. So there are two arguments of one name exactly if a
parameter has a name that another one is given, or that of the last argument
(`nodup_argumentNames_iff`).
-/

namespace RouteHelpers.Script

variable {w v : String} {names : List String}

/-! ### Names that are changed -/

/-- Whether a name starts with a digit. -/
def startsWithDigit (name : String) : Bool :=
  name.toList.head?.any Text.isDigit

theorem startsWithDigit_of_head? {c : Char} (h : w.toList.head? = some c) :
    startsWithDigit w = Text.isDigit c := by
  rw [startsWithDigit, h, Option.any_some]

/-- A reserved word starts with a letter and ends in one. -/
theorem ends_of_isReserved (h : isReserved w = true) :
    (∃ c, w.toList.head? = some c ∧ c ≠ '_' ∧ Text.isDigit c = false) ∧
      w.toList.getLast? ≠ some '_' := by
  have hall : ∀ word ∈ reservedWords,
      word.toList.head?.any (fun c => c != '_' && !Text.isDigit c) = true ∧
        word.toList.getLast? ≠ some '_' := by
    decide +kernel
  obtain ⟨hfirst, hlast⟩ := hall w (List.contains_iff_mem.1 h)
  obtain ⟨c, hc, hother⟩ := (Option.any_eq_true _ _).1 hfirst
  exact ⟨⟨c, hc, by simpa using hother⟩, hlast⟩

theorem head?_underscore_append (w : String) : ("_" ++ w).toList.head? = some '_' := by
  rw [String.toList_append]
  rfl

theorem getLast?_append_underscore (w : String) : (w ++ "_").toList.getLast? = some '_' := by
  rw [String.toList_append]
  exact List.getLast?_concat

theorem not_isReserved_underscore_append (w : String) : isReserved ("_" ++ w) = false := by
  refine Bool.eq_false_iff.2 fun h => ?_
  obtain ⟨⟨c, hc, hother, -⟩, -⟩ := ends_of_isReserved h
  exact hother (Option.some.inj (hc.symm.trans (head?_underscore_append w)))

theorem startsWithDigit_of_isReserved (h : isReserved w = true) : startsWithDigit w = false := by
  obtain ⟨⟨c, hc, -, hother⟩, -⟩ := ends_of_isReserved h
  exact (startsWithDigit_of_head? hc).trans hother

namespace IsArgumentName

/-- **How a name is made safe**: an underscore is put in front of a digit or behind a reserved word. -/
theorem safeName_eq (h : IsArgumentName w) : Script.safeName w =
    if startsWithDigit w then "_" ++ w else if isReserved w then w ++ "_" else w := by
  have hplain : w.toList.map identifierChar = w.toList :=
    map_identifierChar_of_forall h.isIdentifierChar
  obtain ⟨c, rest, hw⟩ := List.exists_cons_of_ne_nil (mt String.toList_eq_nil_iff.1 h.nonempty)
  have hstart : String.ofList (safeStart (w.toList.map identifierChar))
      = if Text.isDigit c then "_" ++ w else w := by
    rw [hplain, ← String.toList_inj, String.toList_ofList, hw, safeStart]
    split
    · rw [← hw, String.toList_append]
      rfl
    · exact hw.symm
  rw [startsWithDigit_of_head? (hw ▸ List.head?_cons)]
  simp only [Script.safeName, hstart]
  -- whether a name is reserved is asked last, and one that starts with an underscore is not
  cases Text.isDigit c with
  | true => exact if_neg (Bool.eq_false_iff.1 (not_isReserved_underscore_append w))
  | false => rfl

theorem safeName_of_startsWithDigit (h : IsArgumentName w) (hdigit : startsWithDigit w = true) :
    Script.safeName w = "_" ++ w := by
  rw [h.safeName_eq, if_pos hdigit]

theorem safeName_of_isReserved (h : IsArgumentName w) (hreserved : isReserved w = true) :
    Script.safeName w = w ++ "_" := by
  rw [h.safeName_eq, startsWithDigit_of_isReserved hreserved, if_neg Bool.false_ne_true,
    if_pos hreserved]

theorem safeName_cases (h : IsArgumentName w) :
    (startsWithDigit w = true ∧ Script.safeName w = "_" ++ w) ∨
    (isReserved w = true ∧ Script.safeName w = w ++ "_") ∨
    (startsWithDigit w = false ∧ isReserved w = false ∧ Script.safeName w = w) := by
  rw [h.safeName_eq]
  cases startsWithDigit w <;> cases isReserved w <;> simp

/-- A safe name neither starts with a digit nor is reserved. -/
theorem not_changed_safeName (h : IsArgumentName w) :
    startsWithDigit (Script.safeName w) = false ∧ isReserved (Script.safeName w) = false := by
  -- the underscore that is added stands where a digit or the end of a reserved word would be
  rcases h.safeName_cases with ⟨-, heq⟩ | ⟨hw, heq⟩ | ⟨hdigit, hreserved, heq⟩ <;> rw [heq]
  · refine ⟨?_, not_isReserved_underscore_append w⟩
    rw [startsWithDigit_of_head? (head?_underscore_append w)]
    decide
  · obtain ⟨⟨c, hc, -, hother⟩, -⟩ := ends_of_isReserved hw
    have hfirst : (w ++ "_").toList.head? = some c := by
      rw [String.toList_append, List.head?_append, hc, Option.some_or]
    refine ⟨(startsWithDigit_of_head? hfirst).trans hother, Bool.eq_false_iff.2 fun hreserved => ?_⟩
    exact (ends_of_isReserved hreserved).2 (getLast?_append_underscore w)
  · exact ⟨hdigit, hreserved⟩

/-- A safe name is not changed again. -/
theorem safeName_safeName (h : IsArgumentName w) :
    Script.safeName (Script.safeName w) = Script.safeName w := by
  obtain ⟨hdigit, hreserved⟩ := h.not_changed_safeName
  rcases (IsArgumentName.safeName w).safeName_cases with ⟨hother, -⟩ | ⟨hother, -⟩ | ⟨-, -, heq⟩
  · exact absurd (hdigit.symm.trans hother) Bool.false_ne_true
  · exact absurd (hreserved.symm.trans hother) Bool.false_ne_true
  · exact heq

/-! ### Names that meet -/

/-- A reserved word and a digit are changed into different names. -/
theorem underscore_append_ne (h : isReserved v = true) : "_" ++ w ≠ v ++ "_" := by
  intro heq
  obtain ⟨⟨c, hc, hother, -⟩, -⟩ := ends_of_isReserved h
  have hfirst := head?_underscore_append w
  rw [heq, String.toList_append, List.head?_append, hc, Option.some_or] at hfirst
  exact hother (Option.some.inj hfirst)

/-- **Of two names that become one**, the one has become the other. -/
theorem eq_or_eq_of_safeName_eq (hw : IsArgumentName w) (hv : IsArgumentName v)
    (h : Script.safeName w = Script.safeName v) :
    w = v ∨ Script.safeName w = v ∨ Script.safeName v = w := by
  -- a change can be undone, and the two changes never meet: so one of the names is kept
  rcases hw.safeName_cases with ⟨-, hweq⟩ | ⟨hwreserved, hweq⟩ | ⟨-, -, hweq⟩
  · rcases hv.safeName_cases with ⟨-, hveq⟩ | ⟨hvreserved, hveq⟩ | ⟨-, -, hveq⟩
    · rw [hweq, hveq] at h
      exact .inl ((String.append_right_inj _).1 h)
    · exact absurd (hweq.symm.trans (h.trans hveq)) (underscore_append_ne hvreserved)
    · exact .inr (.inl (h.trans hveq))
  · rcases hv.safeName_cases with ⟨-, hveq⟩ | ⟨-, hveq⟩ | ⟨-, -, hveq⟩
    · exact absurd (hveq.symm.trans (h.symm.trans hweq)) (underscore_append_ne hwreserved)
    · rw [hweq, hveq] at h
      exact .inl ((String.append_left_inj _).1 h)
    · exact .inr (.inl (h.trans hveq))
  · exact .inr (.inr (h.symm.trans hweq))

/-- Only the name itself becomes `options`. -/
theorem safeName_eq_options_iff (h : IsArgumentName w) :
    Script.safeName w = "options" ↔ w = "options" := by
  have hoptions : Script.safeName "options" = "options" := by decide +kernel
  constructor
  · intro heq
    rcases h.safeName_cases with ⟨-, hw⟩ | ⟨-, hw⟩ | ⟨-, -, hw⟩
    · have hfirst := head?_underscore_append w
      rw [← hw, heq] at hfirst
      exact absurd hfirst (by decide)
    · have hlast := getLast?_append_underscore w
      rw [← hw, heq] at hlast
      exact absurd hlast (by decide)
    · exact hw.symm.trans heq
  · rintro rfl
    exact hoptions

end IsArgumentName

/-! ### Names of arguments -/

/-- None of several parameters has the name that another one is given, or that of the last argument. -/
structure IsCollisionFree (names : List String) : Prop where
  options : "options" ∉ names
  digit : ∀ name ∈ names, startsWithDigit name = true → "_" ++ name ∉ names
  reserved : ∀ name ∈ names, isReserved name = true → name ++ "_" ∉ names

/-- A name that is given to a parameter is that of no other. -/
theorem isCollisionFree_iff (h : ∀ name ∈ names, IsArgumentName name) :
    IsCollisionFree names ↔
      "options" ∉ names ∧ ∀ name ∈ names, safeName name ∈ names → safeName name = name := by
  constructor
  · rintro ⟨hoptions, hdigit, hreserved⟩
    refine ⟨hoptions, fun name hname hmem => ?_⟩
    rcases (h name hname).safeName_cases with ⟨hstart, heq⟩ | ⟨hword, heq⟩ | ⟨-, -, heq⟩
    · exact absurd (heq ▸ hmem) (hdigit name hname hstart)
    · exact absurd (heq ▸ hmem) (hreserved name hname hword)
    · exact heq
  · rintro ⟨hoptions, hkept⟩
    -- a name that is changed is none of the others, as a safe name that is one of them is its own
    have hchanged {name : String} (hname : name ∈ names)
        (hany : startsWithDigit name = true ∨ isReserved name = true) : safeName name ∉ names := by
      intro hmem
      obtain ⟨hdigit, hreserved⟩ := (h name hname).not_changed_safeName
      rw [hkept name hname hmem] at hdigit hreserved
      rw [hdigit, hreserved] at hany
      exact hany.elim Bool.false_ne_true Bool.false_ne_true
    refine ⟨hoptions, fun name hname hdigit => ?_, fun name hname hreserved => ?_⟩
    · exact (h name hname).safeName_of_startsWithDigit hdigit ▸ hchanged hname (.inl hdigit)
    · exact (h name hname).safeName_of_isReserved hreserved ▸ hchanged hname (.inr hreserved)

/-- Arguments have different names if no parameter has one that is given to another argument. -/
theorem nodup_safeNames_iff (hnodup : names.Nodup) (h : ∀ name ∈ names, IsArgumentName name) :
    (names.map safeName ++ ["options"]).Nodup ↔ IsCollisionFree names := by
  rw [isCollisionFree_iff h]
  have hlast : "options" ∈ names.map safeName ↔ "options" ∈ names := by
    rw [List.mem_map]
    constructor
    · rintro ⟨name, hname, heq⟩
      exact (h name hname).safeName_eq_options_iff.1 heq ▸ hname
    · exact fun hname => ⟨_, hname, (h _ hname).safeName_eq_options_iff.2 rfl⟩
  have hmap : (names.map safeName).Nodup ↔
      ∀ name ∈ names, safeName name ∈ names → safeName name = name := by
    rw [List.nodup_map_iff_inj_on hnodup]
    -- a name that is given to a parameter and that of another one become the same
    constructor
    · exact fun hinj name hname hmem => hinj _ hmem _ hname (h name hname).safeName_safeName
    · intro hkept w hw v hv heq
      rcases (h w hw).eq_or_eq_of_safeName_eq (h v hv) heq with hwv | hwv | hvw
      · exact hwv
      · exact (hkept w hw (hwv ▸ hv)).symm.trans hwv
      · exact hvw.symm.trans (hkept v hv (hvw ▸ hw))
  rw [← hmap, ← hlast, List.nodup_append]
  simp [and_comm]

/-- **The arguments of a rich helper have different names**, in the code of each of its functions as in
its type, exactly if no parameter has the name that another argument is given. -/
theorem nodup_argumentNames_iff (naming : Naming) (helper : String) (r : Record)
    (h : ∀ name ∈ (Route.named naming helper r).required, IsArgumentName name) :
    ∃ names : List String,
      (∀ returned, (Rich.functionLines (Route.named naming helper r)
        (Rich.function (Route.named naming helper r) returned)).head?.map parameterNames
          = some names) ∧
      argumentNames (Declaration.signature (Route.named naming helper r)) = names ∧
      (names.Nodup ↔ IsCollisionFree (Route.named naming helper r).required) := by
  have hnodup : (Route.named naming helper r).required.Nodup := Segment.nodup_addNew List.nodup_nil _
  exact ⟨_, parameterNames_functionLines _, argumentNames_signature _, nodup_safeNames_iff hnodup h⟩

/-- A record with a parameter whose name is a reserved word, beside another one. -/
def revisionRecord : Record :=
  ⟨"GET", "/posts/:post_id/revisions/:new", some "revision", none, false, default⟩

theorem nodup_argumentNames_revisionRecord :
    (∀ name ∈ (Route.named Settings.default.naming "revision" revisionRecord).required,
      IsArgumentName name) ∧
    (argumentNames (Declaration.signature
      (Route.named Settings.default.naming "revision" revisionRecord))).Nodup := by
  have hrequired : (Route.named Settings.default.naming "revision" revisionRecord).required
      = ["post_id", "new"] := by
    decide +kernel
  have hwords : ∀ name ∈ (Route.named Settings.default.naming "revision" revisionRecord).required,
      IsArgumentName name := by
    rw [hrequired]
    decide
  obtain ⟨names, -, hsignature, hnodup⟩ := nodup_argumentNames_iff _ _ _ hwords
  rw [hrequired] at hnodup
  refine ⟨hwords, ?_⟩
  rw [hsignature, hnodup]
  exact ⟨by decide, by decide, by decide⟩

/-- A record with a parameter that is called like the last argument. -/
def optionsRecord : Record :=
  ⟨"GET", "/items/:options", some "item", none, false, default⟩

theorem not_nodup_argumentNames_optionsRecord :
    (∀ name ∈ (Route.named Settings.default.naming "item" optionsRecord).required,
      IsArgumentName name) ∧
    (∀ method, (Rich.functionLines (Route.named Settings.default.naming "item" optionsRecord)
      (Rich.function (Route.named Settings.default.naming "item" optionsRecord)
        (.route method))).head?.map parameterNames = some ["options", "options"]) ∧
    ¬ (argumentNames (Declaration.signature
      (Route.named Settings.default.naming "item" optionsRecord))).Nodup := by
  refine ⟨by decide +kernel, fun method => ?_, by decide +kernel⟩
  rw [parameterNames_functionLines]
  decide +kernel

end RouteHelpers.Script
