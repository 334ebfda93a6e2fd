import Mathlib.Data.List.Nodup
import Mathlib.Tactic.IntervalCases
import RouteHelpers.Configuration
import RouteHelpers.Proofs.Tracing

/-!
What a check sees of the options.

An option is set without a change to any other (`get_assign`), so a configuration with several options
set has of each the value that was given last (`get_assignAll`). A check reads the values of two kinds of
options in a normal form (`normalForm`) and all others as they are. So configurations that agree in the
normal forms of all values are valid together, with the same valid form and with the same fault
(`Agree.valid_eq`), and setting options leaves them in agreement (`Agree.assignAll`).

A check, whether or not it comes to its end, only replaces values by their normal forms, which are their
own normal forms. So a configuration agrees with what a check makes of it (`agree_validate`).
-/

namespace RouteHelpers.Configuration

/-! ### Options -/

/-- Setting an option replaces its value among the values of all. -/
theorem values_set {i : Nat} (hi : i < fields.length) (v : Value) (c : Configuration) :
    fields.map (·.get (fields[i].set v c)) = (fields.map (·.get c)).set i v := by
  have hlength : i < 20 := hi
  interval_cases i <;> rfl

theorem get_set {i j : Nat} (hi : i < fields.length) (hj : j < fields.length) (v : Value)
    (c : Configuration) :
    fields[j].get (fields[i].set v c) = if i = j then v else fields[j].get c := by
  have hvalues := congrArg (·[j]?) (values_set hi v c)
  simpa [hj, List.getElem_set] using hvalues

/-- Configurations with the same values are the same. -/
theorem ext_values {c c' : Configuration} (h : ∀ o ∈ fields, o.get c = o.get c') : c = c' := by
  have hvalues : fields.map (·.get c) = fields.map (·.get c') := List.map_congr_left h
  cases c
  cases c'
  simpa only [fields, List.map_cons, List.map_nil, List.cons.injEq, and_true,
    Configuration.mk.injEq] using hvalues

theorem nodup_names : (fields.map (·.name)).Nodup := by
  decide +kernel

/-- An option has the value that it was set to, and otherwise the one that it had. -/
theorem get_assign {o : Field} (ho : o ∈ fields) (c : Configuration) (name : String) (v : Value) :
    o.get (c.assign name v) = if o.name = name then v else o.get c := by
  obtain ⟨j, hj, rfl⟩ := List.getElem_of_mem ho
  -- no two options go by one name, so the option that is found is the one that is asked for
  rcases hfind : fields.find? (·.name == name) with - | p
  · have hne : fields[j].name ≠ name := by simpa using List.find?_eq_none.1 hfind _ ho
    rw [assign, hfind, if_neg hne]
  · obtain ⟨i, hi, rfl⟩ := List.getElem_of_mem (List.mem_of_find?_eq_some hfind)
    have hname : fields[i].name = name := by simpa using List.find?_some hfind
    have hsame : fields[j].name = fields[i].name ↔ i = j := by
      refine ⟨fun h => ?_, fun h => by simp only [h]⟩
      have hfield : fields[j] = fields[i] :=
        List.inj_on_of_nodup_map nodup_names ho (List.getElem_mem hi) h
      exact (nodup_names.of_map.getElem_inj_iff.1 hfield).symm
    rw [assign, hfind, ← hname]
    simp only [get_set hi hj, hsame]

/-! ### Several options -/

/-- The value that was given last under a name. -/
def lastGiven? (given : List (String × Value)) (name : String) : Option Value :=
  given.reverse.lookup name

theorem lastGiven?_append (a b : List (String × Value)) (name : String) :
    lastGiven? (a ++ b) name = (lastGiven? b name).or (lastGiven? a name) := by
  rw [lastGiven?, List.reverse_append, List.lookup_append]
  rfl

theorem lastGiven?_singleton (key name : String) (v : Value) :
    lastGiven? [(key, v)] name = if name = key then some v else none := by
  by_cases h : name = key
  · simp [lastGiven?, h]
  · simp [lastGiven?, List.lookup_cons, beq_eq_false_iff_ne.2 h, h]

theorem lastGiven?_eq_none {given : List (String × Value)} {name : String} :
    lastGiven? given name = none ↔ name ∉ given.map (·.1) := by
  rw [lastGiven?, List.lookup_eq_none_iff]
  simp only [List.mem_reverse, List.mem_map, not_exists, not_and, bne_iff_ne]
  exact ⟨fun h p hp hname => h p hp hname.symm, fun h p hp hname => h p hp hname.symm⟩

/-- An option has the value that was given for it last, and otherwise the one that it had. -/
theorem get_assignAll {o : Field} (ho : o ∈ fields) (c : Configuration)
    (given : List (String × Value)) :
    o.get (c.assignAll given) = (lastGiven? given o.name).getD (o.get c) := by
  induction given generalizing c with
  | nil => rfl
  | cons p given ih =>
    show o.get ((c.assign p.1 p.2).assignAll given) = _
    have hlast : lastGiven? (p :: given) o.name
        = (lastGiven? given o.name).or (if o.name = p.1 then some p.2 else none) := by
      rw [← lastGiven?_singleton, ← lastGiven?_append, List.singleton_append]
    rw [ih, get_assign ho, hlast]
    cases lastGiven? given o.name with
    | some v => rfl
    | none => by_cases hname : o.name = p.1 <;> simp [hname]

/-! ### Normal forms -/

/-- What a check makes of the value of an option. -/
def normalForm (name : String) (v : Value) : Except ValidationFault Value :=
  if name = "module_type" then .ok (normalizeModuleType v)
  else if name = "include" ∨ name = "exclude" then compilePatterns name v
  else .ok v

theorem normalForm_of_ne {name : String} (hmodule : name ≠ "module_type") (hincluded : name ≠ "include")
    (hexcluded : name ≠ "exclude") (v : Value) : normalForm name v = .ok v := by
  simp [normalForm, hmodule, hincluded, hexcluded]

@[simp] theorem normalizeModuleType_normalizeModuleType (v : Value) :
    normalizeModuleType (normalizeModuleType v) = normalizeModuleType v := by
  cases v with
  | text s => by_cases h : Text.lower s ∈ globalNames <;> simp [normalizeModuleType, h]
  | _ => rfl

theorem compilePattern_of_compiled {option : String} {v w : Value}
    (h : compilePattern option v = .ok w) : compilePattern option w = .ok w := by
  unfold compilePattern at h
  split at h
  · cases h
    rfl
  · split at h <;> cases h
    rfl
  · cases h

/-- Patterns that compile come as a list or a tuple, and make a list. -/
theorem compilePatterns_eq_ok {option : String} {v w : Value} (h : compilePatterns option v = .ok w) :
    ∃ items compiled, (v = .list items ∨ v = .tuple items) ∧
      items.mapM (compilePattern option) = .ok compiled ∧ w = .list compiled := by
  unfold compilePatterns at h
  split at h
  next items =>
    obtain ⟨compiled, hcompiled, rfl⟩ := Except.map_eq_ok.1 h
    exact ⟨items, compiled, .inl rfl, hcompiled, rfl⟩
  next items =>
    obtain ⟨compiled, hcompiled, rfl⟩ := Except.map_eq_ok.1 h
    exact ⟨items, compiled, .inr rfl, hcompiled, rfl⟩
  · cases h

theorem compilePatterns_of_compiled {option : String} {v w : Value}
    (h : compilePatterns option v = .ok w) : compilePatterns option w = .ok w := by
  obtain ⟨items, compiled, -, hcompiled, rfl⟩ := compilePatterns_eq_ok h
  have hself : ∀ w ∈ compiled, compilePattern option w = .ok (id w) := fun w hw => by
    obtain ⟨v, -, hv⟩ := Except.exists_of_mem_mapM hcompiled hw
    exact compilePattern_of_compiled hv
  rw [compilePatterns, Except.mapM_eq_ok hself, List.map_id]
  rfl

/-- A normal form is its own normal form. -/
theorem normalForm_of_normalForm {name : String} {v w : Value} (h : normalForm name v = .ok w) :
    normalForm name w = .ok w := by
  unfold normalForm at h ⊢
  split at h
  next hname =>
    rw [if_pos hname, ← Except.ok.inj h, normalizeModuleType_normalizeModuleType]
  next hname =>
    rw [if_neg hname]
    split at h
    next hpatterns =>
      rw [if_pos hpatterns]
      exact compilePatterns_of_compiled h
    next hpatterns => rw [if_neg hpatterns]

/-! ### Agreement -/

/-- Configurations whose values a check makes the same of. -/
def Agree (c c' : Configuration) : Prop :=
  ∀ o ∈ fields, normalForm o.name (o.get c) = normalForm o.name (o.get c')

namespace Agree

variable {c c' c'' : Configuration}

theorem trans (h : Agree c c') (h' : Agree c' c'') : Agree c c'' :=
  fun o ho => (h o ho).trans (h' o ho)

/-- Setting options leaves configurations in agreement. -/
theorem assignAll (h : Agree c c') (given : List (String × Value)) :
    Agree (c.assignAll given) (c'.assignAll given) := by
  intro o ho
  rw [get_assignAll ho, get_assignAll ho]
  cases lastGiven? given o.name with
  | none => exact h o ho
  | some v => rfl

/-- The values that a check reads as they are are the same. -/
theorem others_eq (h : Agree c c') (moduleType included excluded : Value) :
    { c with moduleType, included, excluded } = { c' with moduleType, included, excluded } := by
  have hassign (d : Configuration) : { d with moduleType, included, excluded } = d.assignAll
      [("module_type", moduleType), ("include", included), ("exclude", excluded)] := rfl
  rw [hassign, hassign]
  refine ext_values fun o ho => ?_
  rw [get_assignAll ho, get_assignAll ho]
  rcases hlast : lastGiven? _ o.name with - | v
  · have hname := lastGiven?_eq_none.1 hlast
    simp only [List.map_cons, List.map_nil, List.mem_cons, List.not_mem_nil, or_false, not_or]
      at hname
    obtain ⟨hmodule, hincluded, hexcluded⟩ := hname
    have hvalue := h o ho
    rw [normalForm_of_ne hmodule hincluded hexcluded,
      normalForm_of_ne hmodule hincluded hexcluded] at hvalue
    exact Except.ok.inj hvalue
  · rfl

end Agree

/-- The valid form of a configuration, in terms of the normal forms of its values. -/
theorem valid_eq_match (c : Configuration) :
    c.valid =
      (match choiceFault? { c with moduleType := normalizeModuleType c.moduleType } with
      | some f => .error f
      | none => do
        let included ← compilePatterns "include" c.included
        let excluded ← compilePatterns "exclude" c.excluded
        match c.defaultUrlOptions with
        | .map _ =>
          .ok { c with moduleType := normalizeModuleType c.moduleType, included, excluded }
        | _ => .error (.configuration .notUrlOptions)) := by
  unfold valid validate
  dsimp only
  rcases choiceFault? { c with moduleType := normalizeModuleType c.moduleType } with - | f
  · rcases compilePatterns "include" c.included with f | included
    · rfl
    rcases compilePatterns "exclude" c.excluded with f | excluded
    · rfl
    cases c.defaultUrlOptions <;> rfl
  · rfl

/-- **Configurations that agree** are valid together: with the same valid form, or the same fault. -/
theorem Agree.valid_eq {c c' : Configuration} (h : Agree c c') : c.valid = c'.valid := by
  -- of the fields, the first is `module_type`, the fifth and the sixth are `include` and `exclude`
  have hmodule : normalizeModuleType c.moduleType = normalizeModuleType c'.moduleType :=
    Except.ok.inj (h fields[0] (List.getElem_mem _))
  have hincluded : compilePatterns "include" c.included = compilePatterns "include" c'.included :=
    h fields[4] (List.getElem_mem _)
  have hexcluded : compilePatterns "exclude" c.excluded = compilePatterns "exclude" c'.excluded :=
    h fields[5] (List.getElem_mem _)
  have hchoice : choiceFault? { c with moduleType := normalizeModuleType c.moduleType }
      = choiceFault? { c' with moduleType := normalizeModuleType c'.moduleType } := by
    rw [hmodule]
    have hothers := h.others_eq (normalizeModuleType c'.moduleType) .null .null
    have hsame := congrArg choiceFault? hothers
    exact hsame
  have hurl : c.defaultUrlOptions = c'.defaultUrlOptions := by
    have hsame := congrArg defaultUrlOptions (h.others_eq .null .null .null)
    exact hsame
  rw [valid_eq_match, valid_eq_match, hchoice, hincluded, hexcluded, hmodule]
  simp only [h.others_eq]
  rw [hurl]

/-- Replacing a value by its normal form leaves a configuration in agreement. -/
theorem agree_set {i : Nat} (hi : i < fields.length) {c : Configuration} {v : Value}
    (h : normalForm fields[i].name (fields[i].get c) = .ok v) : Agree c (fields[i].set v c) := by
  intro o ho
  obtain ⟨j, hj, rfl⟩ := List.getElem_of_mem ho
  rw [get_set hi hj]
  split
  next hij =>
    subst hij
    rw [h, normalForm_of_normalForm h]
  · rfl

/-- What a check has made of a configuration where it stops: the module format is in normal form, and of
the lists those that it came to the end of. -/
theorem validate_cases (c : Configuration) :
    ∃ included excluded, c.validate.configuration =
        { c with moduleType := normalizeModuleType c.moduleType, included, excluded } ∧
      (included = c.included ∨ compilePatterns "include" c.included = .ok included) ∧
      (excluded = c.excluded ∨ compilePatterns "exclude" c.excluded = .ok excluded) := by
  unfold validate
  dsimp only
  split
  · exact ⟨c.included, c.excluded, rfl, .inl rfl, .inl rfl⟩
  · split
    · exact ⟨c.included, c.excluded, rfl, .inl rfl, .inl rfl⟩
    next included hincluded =>
      split
      · exact ⟨included, c.excluded, rfl, .inr hincluded, .inl rfl⟩
      next excluded hexcluded =>
        refine ⟨included, excluded, ?_, .inr hincluded, .inr hexcluded⟩
        split <;> rfl

/-- **A check**, whether or not it comes to its end, leaves a configuration in agreement. -/
theorem agree_validate (c : Configuration) : Agree c c.validate.configuration := by
  obtain ⟨included, excluded, hchecked, hincluded, hexcluded⟩ := validate_cases c
  rw [hchecked]
  -- one value after the other is replaced by its normal form, or left as it is
  have hmodule : Agree c { c with moduleType := normalizeModuleType c.moduleType } :=
    agree_set (i := 0) (by decide) rfl
  generalize normalizeModuleType c.moduleType = moduleType at hmodule ⊢
  have hincluded : Agree { c with moduleType } { c with moduleType, included } := by
    rcases hincluded with rfl | hincluded
    · exact fun _ _ => rfl
    · exact agree_set (i := 4) (by decide) hincluded
  have hexcluded : Agree { c with moduleType, included } { c with moduleType, included, excluded } := by
    rcases hexcluded with rfl | hexcluded
    · exact fun _ _ => rfl
    · exact agree_set (i := 5) (by decide) hexcluded
  exact (hmodule.trans hincluded).trans hexcluded

theorem valid_eq_ok_iff {c c' : Configuration} : c.valid = .ok c' ↔ c.validate = ⟨c', none⟩ := by
  unfold valid
  rcases c.validate with ⟨checked, - | f⟩ <;> simp

/-- A configuration agrees with its valid form. -/
theorem agree_of_valid {c c' : Configuration} (h : c.valid = .ok c') : Agree c c' := by
  have hvalidate := agree_validate c
  rwa [valid_eq_ok_iff.1 h] at hvalidate

/-- **Checking a valid configuration** changes nothing. -/
theorem validate_of_valid {c c' : Configuration} (h : c.valid = .ok c') :
    c'.validate = ⟨c', none⟩ := by
  rw [← valid_eq_ok_iff, ← (agree_of_valid h).valid_eq, h]

end RouteHelpers.Configuration
