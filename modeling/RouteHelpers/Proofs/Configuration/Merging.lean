import RouteHelpers.Proofs.Configuration.Validation
import RouteHelpers.Proofs.Extract.Grouping
import RouteHelpers.Proofs.Text.Order

/-!
Options on top of options.

Options may come in several sets, one laid over the other: of each name the value counts that the upper
set gives (`IsOverlay`). A valid configuration that is merged with a second set of options is the
configuration of both sets, or has the same fault (`merge_eq_ofOptions`): the names that no option has
are those of the second set, and the first set has left nothing behind but values in normal form.

Where options are given by keyword, the call has parameters of its own. Their names are taken, and each
of the two ways takes another one (`mergeKeywords_eq_iff`).
-/

namespace RouteHelpers

/-- What is sorted without repetitions is told by its members. -/
theorem Text.sorted_distinct_congr {xs ys : List String} (h : ∀ x, x ∈ xs ↔ x ∈ ys) :
    sorted (distinct xs) = sorted (distinct ys) := by
  have hperm : (distinct xs).Perm (distinct ys) :=
    (List.perm_ext_iff_of_nodup (nodup_distinct xs) (nodup_distinct ys)).2 fun x => by simp [h x]
  have htrans (a b c : String) (hab : le a b = true) (hbc : le b c = true) : le a c = true :=
    le_iff.2 (le_trans (le_iff.1 hab) (le_iff.1 hbc))
  have htotal (a b : String) : (le a b || le b a) = true := by
    rw [Bool.or_eq_true, le_iff, le_iff]
    exact le_total a b
  -- lists in order that are made of the same texts are the same
  have hsorted : (sorted (distinct xs)).Perm (sorted (distinct ys)) :=
    (List.mergeSort_perm _ _).trans (hperm.trans (List.mergeSort_perm _ _).symm)
  exact hsorted.eq_of_pairwise (fun a b _ _ hab hba => le_antisymm (le_iff.1 hab) (le_iff.1 hba))
    (List.pairwise_mergeSort htrans htotal _) (List.pairwise_mergeSort htrans htotal _)

namespace Configuration

variable {a b m : List (String × Value)} {c : Configuration}

/-! ### One set of options over another -/

/-- The options of `b` laid over those of `a`: of each name the value that `b` gives, and otherwise the
one that `a` gives. -/
def IsOverlay (a b m : List (String × Value)) : Prop :=
  ∀ name, lastGiven? m name = (lastGiven? b name).or (lastGiven? a name)

/-- Options that are given later are laid over those that are given before. -/
theorem isOverlay_append (a b : List (String × Value)) : IsOverlay a b (a ++ b) :=
  lastGiven?_append a b

namespace IsOverlay

theorem mem_names (h : IsOverlay a b m) {name : String} :
    name ∈ m.map (·.1) ↔ name ∈ a.map (·.1) ∨ name ∈ b.map (·.1) := by
  rw [← not_iff_not, not_or, ← lastGiven?_eq_none, ← lastGiven?_eq_none, ← lastGiven?_eq_none, h name,
    Option.or_eq_none_iff, and_comm]

theorem assignAll_eq (h : IsOverlay a b m) (c : Configuration) :
    c.assignAll m = (c.assignAll a).assignAll b := by
  refine ext_values fun o ho => ?_
  rw [get_assignAll ho, get_assignAll ho, get_assignAll ho, h]
  cases lastGiven? b o.name <;> rfl

/-- Where the lower set has only names of options, the names of no option are those of the upper set. -/
theorem unknownNames_eq (h : IsOverlay a b m) (ha : ∀ name ∈ a.map (·.1), isOption name = true) :
    unknownNames m = unknownNames b := by
  refine Text.sorted_distinct_congr fun name => ?_
  rw [List.mem_filter, List.mem_filter, h.mem_names]
  refine ⟨fun ⟨hmem, hunknown⟩ => ⟨hmem.resolve_left fun hname => ?_, hunknown⟩,
    fun ⟨hmem, hunknown⟩ => ⟨.inr hmem, hunknown⟩⟩
  rw [ha name hname] at hunknown
  cases hunknown

end IsOverlay

/-! ### Merging -/

/-- Options that give a configuration all have names of options, and the configuration is the valid form
of the one that they were set in. -/
theorem ofOptions_eq_ok (h : ofOptions a = .ok c) :
    (∀ name ∈ a.map (·.1), isOption name = true) ∧ (assignAll {} a).valid = .ok c := by
  unfold ofOptions merge at h
  split at h
  next hnone =>
    refine ⟨fun name hname => by_contra fun hunknown => ?_, h⟩
    have hmem : name ∈ unknownNames a := by
      rw [unknownNames, Text.sorted, List.mem_mergeSort, Text.mem_distinct, List.mem_filter]
      exact ⟨hname, by simp [hunknown]⟩
    rw [hnone] at hmem
    exact List.not_mem_nil hmem
  · cases h

/-- **Merging options** with a valid configuration gives what both sets of options give together: the
same configuration or the same fault. -/
theorem merge_eq_ofOptions (ha : ofOptions a = .ok c) (h : IsOverlay a b m) :
    c.merge b = ofOptions m := by
  obtain ⟨hnames, hvalid⟩ := ofOptions_eq_ok ha
  have hset : (c.assignAll b).valid = (assignAll {} m).valid := by
    rw [h.assignAll_eq]
    exact (((agree_of_valid hvalid).assignAll b).valid_eq).symm
  unfold ofOptions merge
  rw [h.unknownNames_eq hnames, hset]

/-! ### Options by keyword -/

section ByKeyword

variable {function parameter : String}
  {f : List (String × Value) → Except ValidationFault Configuration}

theorem byKeyword_of_mem (h : parameter ∈ a.map (·.1)) :
    byKeyword function parameter f a = .error (.alreadyGiven function parameter) :=
  if_pos (by simpa using h)

theorem byKeyword_of_not_mem (h : parameter ∉ a.map (·.1)) :
    byKeyword function parameter f a = (f a).mapError .invalid :=
  if_neg (by simpa using h)

theorem byKeyword_eq_ok (h : byKeyword function parameter f a = .ok c) : f a = .ok c := by
  by_cases hmem : parameter ∈ a.map (·.1)
  · rw [byKeyword_of_mem hmem] at h
    cases h
  · rw [byKeyword_of_not_mem hmem] at h
    exact Except.mapError_eq_ok.1 h

theorem mapError_invalid_ne (x : Except ValidationFault Configuration) :
    x.mapError CallFault.invalid ≠ .error (.alreadyGiven function parameter) := by
  intro h
  obtain ⟨g, -, hg⟩ := Except.mapError_eq_error.1 h
  cases hg

end ByKeyword

/-- **Options by keyword** that are merged with a valid configuration give what they give together with
its own options, unless they go by the name of a parameter of one of the two calls. A valid configuration
does not change when it is checked again. -/
theorem mergeKeywords_eq_iff (ha : ofKeywords a = .ok c) (h : IsOverlay a b m) :
    (c.mergeKeywords b = ofKeywords m ↔ "self" ∉ b.map (·.1) ∧ "cls" ∉ b.map (·.1)) ∧
      c.validate = ⟨c, none⟩ := by
  have hoptions : ofOptions a = .ok c := byKeyword_eq_ok ha
  obtain ⟨hnames, hvalid⟩ := ofOptions_eq_ok hoptions
  have hcls : "cls" ∈ m.map (·.1) ↔ "cls" ∈ b.map (·.1) := by
    rw [h.mem_names, or_iff_right]
    exact fun hmem => absurd (hnames _ hmem) (by decide +kernel)
  refine ⟨?_, validate_of_valid hvalid⟩
  rw [← hcls, mergeKeywords, ofKeywords]
  by_cases hself : "self" ∈ b.map (·.1) <;> by_cases hcls : "cls" ∈ m.map (·.1)
  · -- each call finds a parameter of its own
    rw [byKeyword_of_mem hself, byKeyword_of_mem hcls]
    exact iff_of_false (fun heq => absurd (Except.error.inj heq) (by decide)) fun hno => hno.1 hself
  · rw [byKeyword_of_mem hself, byKeyword_of_not_mem hcls]
    exact iff_of_false (mapError_invalid_ne _).symm fun hno => hno.1 hself
  · rw [byKeyword_of_not_mem hself, byKeyword_of_mem hcls]
    exact iff_of_false (mapError_invalid_ne _) fun hno => hno.2 hcls
  · rw [byKeyword_of_not_mem hself, byKeyword_of_not_mem hcls, merge_eq_ofOptions hoptions h]
    exact iff_of_true rfl ⟨hself, hcls⟩

/-- Options that a check brings into normal form. -/
def adminOptions : List (String × Value) :=
  [("module_type", .text "Global"), ("include", .list [.text "^admin", .pattern "users"])]

/-- Options on top of them, one of which is given again. -/
def richOptions : List (String × Value) :=
  [("include", .list [.text "^api"]), ("variant", .text "rich")]

theorem mergeKeywords_adminOptions :
    ∃ c, ofKeywords adminOptions = .ok c ∧
      c.mergeKeywords richOptions = ofKeywords (adminOptions ++ richOptions) ∧
      c.validate = ⟨c, none⟩ := by
  obtain ⟨c, hc⟩ := Except.exists_eq_ok (x := ofKeywords adminOptions) (by decide +kernel)
  obtain ⟨hiff, hvalidate⟩ := mergeKeywords_eq_iff hc (isOverlay_append adminOptions richOptions)
  exact ⟨c, hc, hiff.2 (by decide), hvalidate⟩

/-- An option that goes by the name of the parameter of `merge` is not reported there. -/
theorem not_mergeKeywords_self :
    let given : List (String × Value) := [("self", .int 1)]
    ∃ c, ofKeywords [] = .ok c ∧
      c.mergeKeywords given = .error (.alreadyGiven "Configuration.merge" "self") ∧
      ofKeywords ([] ++ given) = .error (.invalid (.configuration (.unknownOptions ["self"]))) := by
  intro given
  obtain ⟨c, hc⟩ := Except.exists_eq_ok (x := ofKeywords []) (by decide +kernel)
  refine ⟨c, hc, byKeyword_of_mem (by decide), ?_⟩
  have hnames : unknownNames given = ["self"] := by decide +kernel
  rw [List.nil_append, ofKeywords, byKeyword_of_not_mem (by decide), ofOptions, merge, hnames]
  rfl

end Configuration
end RouteHelpers
