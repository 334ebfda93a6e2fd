import Mathlib.Data.List.Find
import RouteHelpers.Proofs.Path.Rendering
import RouteHelpers.Proofs.Tracing

/-!
What a path cannot be built without.

Two recursions go over the segments of a path: one collects the names that are required, and the other
renders and breaks off at the first slot outside of groups that has no value. They agree on all segments,
parsed or not:

    build (nodes segments) params trailingSlash = .error (.missing name)

says that `name` is the first of the required names without a value (`build_nodes_eq_error_iff`), and a
name that is required twice is listed once, which makes no difference to what comes first
(`find?_addNew`). Nothing inside a group ever breaks off for want of a value, at any depth
(`segmentsText_inGroup_eq_error_iff`).

There is one more thing that rendering breaks off at, inside of groups and outside: a value that is bound
and has no text, since it has an integer that is too long to be written (`not_build_nodes_longNumber`).
`IsWritten` says which values rendering comes to write.
-/

namespace RouteHelpers

/-! ### Required names -/

namespace Segment

/-- The name of a slot outside of groups. -/
def slotName? : Segment → Option String
  | .param name => some name
  | .glob name => some name
  | _ => none

/-- A segment is a slot for a name, so that none of it is inside a group. -/
def HasSlot (segments : List Segment) (name : String) : Prop :=
  .param name ∈ segments ∨ .glob name ∈ segments

theorem requiredNames_eq (segments : List Segment) :
    requiredNames segments = addNew [] (segments.filterMap slotName?) := by
  rw [requiredNames]
  congr 2

theorem mem_addNew {name : String} (names more : List String) :
    name ∈ addNew names more ↔ name ∈ names ∨ name ∈ more := by
  induction more generalizing names with
  | nil => simp [addNew]
  | cons n more ih =>
    rw [addNew, List.foldl_cons, ← addNew, ih]
    split
    next hn =>
      rw [List.contains_iff_mem] at hn
      constructor
      · rintro (h | h)
        · exact .inl h
        · exact .inr (List.mem_cons_of_mem n h)
      · rintro (h | h)
        · exact .inl h
        · rcases List.mem_cons.1 h with rfl | h
          · exact .inl hn
          · exact .inr h
    · rw [List.mem_append, List.mem_singleton, List.mem_cons, or_assoc]

theorem nodup_addNew {names : List String} (h : names.Nodup) (more : List String) :
    (addNew names more).Nodup := by
  induction more generalizing names with
  | nil => exact h
  | cons n more ih =>
    rw [addNew, List.foldl_cons, ← addNew]
    split
    next => exact ih h
    next hn =>
      rw [List.contains_iff_mem] at hn
      exact ih (List.nodup_append.2 ⟨h, by simp, fun a ha b hb hab =>
        hn (List.mem_singleton.1 hb ▸ hab ▸ ha)⟩)

/-- A name that is there already comes no earlier by being added again. -/
theorem find?_addNew (p : String → Bool) (names more : List String) :
    (addNew names more).find? p = (names ++ more).find? p := by
  induction more generalizing names with
  | nil => simp [addNew]
  | cons n more ih =>
    rw [addNew, List.foldl_cons, ← addNew, ih]
    split
    next hn =>
      -- the name is found among those that are there, or it is not one that is looked for
      rw [List.contains_iff_mem] at hn
      rw [List.find?_append, List.find?_append, List.find?_cons]
      cases hfound : names.find? p with
      | some first => rfl
      | none =>
        have hp : p n = false := by simpa using List.find?_eq_none.1 hfound n hn
        rw [hp]
    · rw [List.append_assoc, List.singleton_append]

theorem mem_requiredNames {segments : List Segment} {name : String} :
    name ∈ requiredNames segments ↔ HasSlot segments name := by
  rw [requiredNames_eq, mem_addNew, List.mem_filterMap]
  constructor
  · rintro (h | ⟨s, hs, hname⟩)
    · exact absurd h List.not_mem_nil
    · cases s with
      | literal | group => cases hname
      | param => exact Option.some.inj hname ▸ .inl hs
      | glob => exact Option.some.inj hname ▸ .inr hs
  · rintro (h | h)
    · exact .inr ⟨_, h, rfl⟩
    · exact .inr ⟨_, h, rfl⟩

end Segment

namespace Path

variable {params : Entries}

/-- A name has no value: there is nothing under it, or null. -/
def IsUnbound (params : Entries) (name : String) : Prop :=
  ∀ v, params.getText? name = some v → v = .null

/-- The value of a name, if it has one, can be written. -/
def HasText (params : Entries) (name : String) : Prop :=
  ∀ v, params.getText? name = some v → v.isWritable = true

/-- Rendering comes to write the value of a name: the name is that of a slot, or rendering comes to it in a
group that appears. -/
inductive IsWritten (params : Entries) (name : String) : List Segment → Prop
  | slot {segments : List Segment} : Segment.HasSlot segments name → IsWritten params name segments
  | group {segments children : List Segment} : .group children ∈ segments →
      (∀ n, .param n ∈ children → ¬ IsUnbound params n) → IsWritten params name children →
      IsWritten params name segments

/-- The fault of a value without a text. -/
abbrev BuildFault.unwritten : BuildFault := .numeral .tooLongToWrite

/-! ### Values -/

theorem isNone_boundValue?_iff {name : String} :
    (boundValue? params name).isNone = true ↔ IsUnbound params name := by
  rw [boundValue?, IsUnbound]
  rcases params.getText? name with - | v
  · simp
  · cases v <;> simp [Value.isNull]

theorem boundText?_eq_none_iff_isUnbound {name : String} :
    boundText? params name = .ok none ↔ IsUnbound params name := by
  rw [boundText?_eq_none_iff, ← Option.isNone_iff_eq_none, isNone_boundValue?_iff]

/-- A name has no text to give where its value has none. -/
theorem boundText?_eq_error_iff {name : String} {fault : BuildFault} :
    boundText? params name = .error fault ↔ ¬ HasText params name ∧ fault = .unwritten := by
  rw [boundText?]
  constructor
  · intro h
    split at h
    next => cases h
    next v hv =>
      obtain ⟨hlong, rfl⟩ := writtenText_eq_error_iff.1 (Except.map_eq_error.1 h)
      refine ⟨fun htext => ?_, rfl⟩
      rw [htext v (Option.filter_eq_some_iff.1 hv).1] at hlong
      cases hlong
  · rintro ⟨h, rfl⟩
    simp only [HasText, not_forall, Bool.not_eq_true] at h
    obtain ⟨v, hget, hlong⟩ := h
    -- null can be written, so the value counts as bound
    have hnull : v.isNull = false := by
      cases v with
      | null => cases hlong
      | _ => rfl
    have hbound : boundValue? params name = some v :=
      Option.filter_eq_some_iff.2 ⟨hget, by rw [hnull]; rfl⟩
    rw [hbound]
    exact Except.map_eq_error.2 (writtenText_eq_error_iff.2 ⟨hlong, rfl⟩)

/-! ### What is written -/

theorem isWritten_cons_iff {name : String} {s : Segment} {rest : List Segment} :
    IsWritten params name (s :: rest) ↔
      IsWritten params name [s] ∨ IsWritten params name rest := by
  constructor
  · rintro (h | ⟨hgroup, happears, h⟩)
    · simp only [Segment.HasSlot, List.mem_cons] at h
      rcases h with (h | h) | h | h
      · exact .inl (.slot (.inl (List.mem_singleton.2 h)))
      · exact .inr (.slot (.inl h))
      · exact .inl (.slot (.inr (List.mem_singleton.2 h)))
      · exact .inr (.slot (.inr h))
    · rcases List.mem_cons.1 hgroup with hgroup | hgroup
      · exact .inl (.group (List.mem_singleton.2 hgroup) happears h)
      · exact .inr (.group hgroup happears h)
  · rintro ((h | ⟨hgroup, happears, h⟩) | h | ⟨hgroup, happears, h⟩)
    · exact .slot (h.imp (List.mem_cons.2 ∘ .inl ∘ List.mem_singleton.1)
        (List.mem_cons.2 ∘ .inl ∘ List.mem_singleton.1))
    · exact .group (List.mem_cons.2 (.inl (List.mem_singleton.1 hgroup))) happears h
    · exact .slot (h.imp (List.mem_cons_of_mem s) (List.mem_cons_of_mem s))
    · exact .group (List.mem_cons_of_mem s hgroup) happears h

theorem isWritten_slot_iff {name n : String} {s : Segment} (hs : s.slotName? = some n) :
    IsWritten params name [s] ↔ n = name := by
  constructor
  · rintro (h | ⟨hgroup, -, -⟩)
    · rcases h with h | h
      · rw [← List.mem_singleton.1 h] at hs
        exact (Option.some.inj hs).symm
      · rw [← List.mem_singleton.1 h] at hs
        exact (Option.some.inj hs).symm
    · rw [← List.mem_singleton.1 hgroup] at hs
      cases hs
  · rintro rfl
    cases s with
    | literal | group => cases hs
    | param => exact .slot (.inl (by rw [Option.some.inj hs]; exact List.mem_cons_self))
    | glob => exact .slot (.inr (by rw [Option.some.inj hs]; exact List.mem_cons_self))

theorem isWritten_group_iff {name : String} {children : List Segment} :
    IsWritten params name [.group children] ↔
      (∀ n, .param n ∈ children → ¬ IsUnbound params n) ∧ IsWritten params name children := by
  constructor
  · rintro (h | ⟨hgroup, happears, h⟩)
    · rcases h with h | h <;> cases List.mem_singleton.1 h
    · cases List.mem_singleton.1 hgroup
      exact ⟨happears, h⟩
  · exact fun ⟨happears, h⟩ => .group List.mem_cons_self happears h

/-- Whatever rendering comes to write in some segments has a text. -/
def HasTexts (params : Entries) (segments : List Segment) : Prop :=
  ∀ name, IsWritten params name segments → HasText params name

theorem hasTexts_cons_iff {s : Segment} {rest : List Segment} :
    HasTexts params (s :: rest) ↔ HasTexts params [s] ∧ HasTexts params rest := by
  constructor
  · exact fun h => ⟨fun name hs => h name (isWritten_cons_iff.2 (.inl hs)),
      fun name hrest => h name (isWritten_cons_iff.2 (.inr hrest))⟩
  · exact fun ⟨hs, hrest⟩ name h => (isWritten_cons_iff.1 h).elim (hs name) (hrest name)

theorem hasTexts_slot_iff {n : String} {s : Segment} (hs : s.slotName? = some n) :
    HasTexts params [s] ↔ HasText params n := by
  simp only [HasTexts, isWritten_slot_iff hs, forall_eq']

theorem hasTexts_literal (text : String) : HasTexts params [.literal text] := by
  rintro name (h | ⟨hgroup, -, -⟩)
  · rcases h with h | h <;> cases List.mem_singleton.1 h
  · cases List.mem_singleton.1 hgroup

/-- A group appears where each parameter directly inside it has a value. -/
theorem all_directNames_iff {children : List Segment} :
    ((directNames children).all fun name => (boundValue? params name).isSome) = true ↔
      ∀ n, .param n ∈ children → ¬ IsUnbound params n := by
  induction children with
  | nil => simp [directNames]
  | cons s rest ih =>
    cases s with
    | param name =>
      have hname : (boundValue? params name).isSome = true ↔ ¬ IsUnbound params name := by
        rw [← isNone_boundValue?_iff, Option.isSome_iff_ne_none, Option.isNone_iff_eq_none]
      simp [directNames, ih, hname]
    | literal | glob | group => simp [directNames, ih]

/-! ### Breaking off -/

/-- A row of segments breaks off where its first segment does, or where the rest does. -/
theorem segmentsText_cons_eq_error_iff {inGroup : Bool} {s : Segment} {rest : List Segment}
    {fault : BuildFault} : segmentsText params inGroup (s :: rest) = .error fault ↔
      segmentText params inGroup s = .error fault ∨
        (∃ text, segmentText params inGroup s = .ok text) ∧
          segmentsText params inGroup rest = .error fault := by
  rw [segmentsText]
  cases segmentText params inGroup s with
  | error e => simp [bind, Except.bind]
  | ok text => cases segmentsText params inGroup rest <;> simp [bind, Except.bind]

mutual

theorem segmentText_inGroup_eq_error_iff (params : Entries) (s : Segment) (fault : BuildFault) :
    segmentText params true s = .error fault ↔ ¬ HasTexts params [s] ∧ fault = .unwritten := by
  cases s with
  | literal text => simp [segmentText, hasTexts_literal]
  | param name | glob name =>
    rw [hasTexts_slot_iff rfl, ← boundText?_eq_error_iff, segmentText, slotTextOf]
    rcases boundText? params name with e | - | text <;> simp
  | group children =>
    rw [segmentText]
    split
    next happears =>
      rw [all_directNames_iff] at happears
      rw [segmentsText_inGroup_eq_error_iff params children, HasTexts, HasTexts]
      simp only [isWritten_group_iff, and_iff_right happears]
    next happears =>
      -- the group is left out, and nothing in it is written
      rw [all_directNames_iff] at happears
      have htexts : HasTexts params [.group children] := fun name h =>
        absurd (isWritten_group_iff.1 h).1 happears
      simp [htexts]

/-- **Inside a group** nothing breaks off but a value that has no text. -/
theorem segmentsText_inGroup_eq_error_iff (params : Entries) (segments : List Segment)
    (fault : BuildFault) : segmentsText params true segments = .error fault ↔
      ¬ HasTexts params segments ∧ fault = .unwritten := by
  cases segments with
  | nil =>
    have hnil : HasTexts params [] := by
      rintro name (h | ⟨hgroup, -, -⟩)
      · rcases h with h | h <;> cases h
      · cases hgroup
    simp [segmentsText, hnil]
  | cons s rest =>
    rw [segmentsText_cons_eq_error_iff, segmentText_inGroup_eq_error_iff params s,
      segmentsText_inGroup_eq_error_iff params rest, @hasTexts_cons_iff _ s rest]
    have hfirst : (∃ text, segmentText params true s = .ok text) ↔ HasTexts params [s] := by
      have hs := segmentText_inGroup_eq_error_iff params s
      cases h : segmentText params true s with
      | error e => simpa using ((hs e).1 h).1
      | ok text =>
        have hnot := (hs .unwritten).not.1 (by simp [h])
        simpa using hnot
    rw [hfirst]
    by_cases hs : HasTexts params [s] <;> simp [hs]

end

/-- A segment breaks off if it is a slot outside of groups and its name has no value, or if rendering
comes in it to write a value that has no text. -/
theorem segmentText_eq_error_iff {s : Segment} {fault : BuildFault} :
    segmentText params false s = .error fault ↔
      (∃ name, s.slotName? = some name ∧ IsUnbound params name ∧ fault = .missing name) ∨
        ¬ HasTexts params [s] ∧ fault = .unwritten := by
  cases s with
  | literal text => simp [segmentText, Segment.slotName?, hasTexts_literal]
  | param name | glob name =>
    rw [hasTexts_slot_iff rfl, ← boundText?_eq_error_iff, segmentText, slotTextOf]
    simp only [Segment.slotName?, Option.some.injEq, exists_eq_left',
      ← boundText?_eq_none_iff_isUnbound]
    rcases boundText? params name with e | - | text <;> simp [eq_comm]
  | group children =>
    -- inside a group it makes no difference whether the group is inside another one
    have hgroup : segmentText params false (.group children)
        = segmentText params true (.group children) := by
      rw [segmentText, segmentText]
    rw [hgroup, segmentText_inGroup_eq_error_iff]
    simp [Segment.slotName?]

/-- **Segments break off** at the first slot outside of groups whose name has no value, where each value
that rendering comes to write has a text. -/
theorem segmentsText_eq_error_iff {segments : List Segment} (h : HasTexts params segments)
    {fault : BuildFault} : segmentsText params false segments = .error fault ↔
      ∃ name, (segments.filterMap Segment.slotName?).find? (fun n => (boundValue? params n).isNone)
        = some name ∧ fault = .missing name := by
  induction segments with
  | nil => simp [segmentsText]
  | cons s rest ih =>
    obtain ⟨hfirst, hrest⟩ := hasTexts_cons_iff.1 h
    have hbreaks (e : BuildFault) : segmentText params false s = .error e ↔
        ∃ name, s.slotName? = some name ∧ IsUnbound params name ∧ e = .missing name := by
      rw [segmentText_eq_error_iff]
      simp [hfirst]
    rw [segmentsText_cons_eq_error_iff, ih hrest]
    rcases hname : s.slotName? with - | name
    · -- not a slot: it has a text, and the search passes it over
      rw [List.filterMap_cons_none hname]
      rcases hs : segmentText params false s with e | text
      · simp [hname] at hbreaks
        exact absurd hs (hbreaks e)
      · simp
    · rw [List.filterMap_cons_some hname, List.find?_cons]
      cases hnone : (boundValue? params name).isNone with
      | true =>
        -- the slot breaks off, and what is behind it is not looked at
        have hs := (hbreaks _).2 ⟨name, hname, isNone_boundValue?_iff.1 hnone, rfl⟩
        simp [hs, eq_comm]
      | false =>
        have hbound : ¬ IsUnbound params name := by
          rw [← isNone_boundValue?_iff, hnone]
          exact Bool.false_ne_true
        rcases hs : segmentText params false s with e | text
        · obtain ⟨n, hn, hunbound, -⟩ := (hbreaks e).1 hs
          exact absurd hunbound (Option.some.inj (hname.symm.trans hn) ▸ hbound)
        · simp

/-- **What segments break off at**, whatever the values: a slot outside of groups whose name has no value,
or a value that has no text. -/
theorem segmentsText_fault {segments : List Segment} {fault : BuildFault}
    (h : segmentsText params false segments = .error fault) :
    (∃ name, Segment.HasSlot segments name ∧ IsUnbound params name ∧ fault = .missing name) ∨
      fault = .unwritten ∧ ∃ name, IsWritten params name segments ∧ ¬ HasText params name := by
  induction segments with
  | nil => simp [segmentsText] at h
  | cons s rest ih =>
    rcases segmentsText_cons_eq_error_iff.1 h with hs | ⟨-, hrest⟩
    · rcases segmentText_eq_error_iff.1 hs with ⟨name, hname, hunbound, rfl⟩ | ⟨htexts, rfl⟩
      · refine .inl ⟨name, ?_, hunbound, rfl⟩
        cases s with
        | literal | group => cases hname
        | param => exact .inl (by rw [Option.some.inj hname]; exact List.mem_cons_self)
        | glob => exact .inr (by rw [Option.some.inj hname]; exact List.mem_cons_self)
      · simp only [HasTexts, not_forall] at htexts
        obtain ⟨name, hwritten, htext⟩ := htexts
        exact .inr ⟨rfl, name, isWritten_cons_iff.2 (.inl hwritten), htext⟩
    · rcases ih hrest with ⟨name, hslot, hunbound, rfl⟩ | ⟨rfl, name, hwritten, htext⟩
      · exact .inl ⟨name, hslot.imp (List.mem_cons_of_mem s) (List.mem_cons_of_mem s), hunbound, rfl⟩
      · exact .inr ⟨rfl, name, isWritten_cons_iff.2 (.inr hwritten), htext⟩

/-- Segments that render have written what there is to write. -/
theorem hasTexts_of_segmentsText {segments : List Segment} {text : String}
    (h : segmentsText params false segments = .ok text) : HasTexts params segments := by
  induction segments generalizing text with
  | nil =>
    rintro name ((hslot | hslot) | ⟨hgroup, -, -⟩)
    · cases hslot
    · cases hslot
    · cases hgroup
  | cons s rest ih =>
    rw [segmentsText] at h
    obtain ⟨first, hfirst, h⟩ := Except.bind_eq_ok.1 h
    obtain ⟨more, hmore, -⟩ := Except.bind_eq_ok.1 h
    refine hasTexts_cons_iff.2 ⟨?_, ih hmore⟩
    by_contra htexts
    rw [segmentText_eq_error_iff.2 (.inr ⟨htexts, rfl⟩)] at hfirst
    cases hfirst

/-- A path is not built for want of the first required name that has no value. -/
theorem build_nodes_eq_error {segments : List Segment} (h : HasTexts params segments)
    {trailingSlash : Bool} {fault : BuildFault} :
    build (nodes segments) params trailingSlash = .error fault ↔
      ∃ name, (Segment.requiredNames segments).find? (fun n => (boundValue? params n).isNone)
        = some name ∧ fault = .missing name := by
  rw [build_nodes, Except.map_eq_error, segmentsText_eq_error_iff h, Segment.requiredNames_eq,
    Segment.find?_addNew, List.nil_append]

/-- Which of the required names is missing: the first one that has no value. -/
theorem build_nodes_eq_error_iff_first {segments : List Segment} (h : HasTexts params segments)
    (trailingSlash : Bool) (fault : BuildFault) :
    build (nodes segments) params trailingSlash = .error fault ↔
      ∃ before name after, Segment.requiredNames segments = before ++ name :: after ∧
        (∀ x ∈ before, ¬ IsUnbound params x) ∧ IsUnbound params name ∧ fault = .missing name := by
  rw [build_nodes_eq_error h]
  constructor
  · rintro ⟨name, hname, rfl⟩
    obtain ⟨hnone, before, after, hsplit, hbefore⟩ := List.find?_eq_some_iff_append.1 hname
    refine ⟨before, name, after, hsplit, fun x hx hunbound => ?_, isNone_boundValue?_iff.1 hnone, rfl⟩
    simpa [isNone_boundValue?_iff.2 hunbound] using hbefore x hx
  · rintro ⟨before, name, after, hsplit, hbefore, hname, rfl⟩
    refine ⟨name, List.find?_eq_some_iff_append.2
      ⟨isNone_boundValue?_iff.2 hname, before, after, hsplit, fun x hx => ?_⟩, rfl⟩
    have hx := hbefore x hx
    rw [← isNone_boundValue?_iff, Bool.not_eq_true] at hx
    rw [hx]
    rfl

theorem writeInteger_ofNat_eq_error {n : Nat} (h : Nat.pow 10 Text.digitLimit ≤ n) :
    Text.writeInteger (Int.ofNat n) = .error .tooLongToWrite :=
  if_pos h

/-- A number with one digit more than can be written. -/
def longNumber : Int :=
  Int.ofNat (Nat.pow 10 Text.digitLimit)

/-- The one required name has a value, and yet no path is built: the value has no text. -/
theorem not_build_nodes_longNumber :
    Segment.requiredNames [.param "id"] = ["id"] ∧
      ¬ IsUnbound (Entries.ofTexts [("id", .int longNumber)]) "id" ∧
      build (nodes [.param "id"]) (Entries.ofTexts [("id", .int longNumber)]) false
        = .error .unwritten := by
  have hget : (Entries.ofTexts [("id", .int longNumber)]).getText? "id" = some (.int longNumber) := rfl
  have hlong : (Value.int longNumber).isWritable = false := by
    rw [Value.isWritable, longNumber, writeInteger_ofNat_eq_error (Nat.le_refl _)]
    rfl
  have htext : ¬ HasText (Entries.ofTexts [("id", .int longNumber)]) "id" := fun h => by
    simpa [hlong] using h _ hget
  refine ⟨rfl, fun h => ?_, ?_⟩
  · cases h _ hget
  · have hsegment : segmentText (Entries.ofTexts [("id", .int longNumber)]) false (.param "id")
        = .error .unwritten :=
      segmentText_eq_error_iff.2 (.inr ⟨fun h => htext ((hasTexts_slot_iff rfl).1 h), rfl⟩)
    rw [build_nodes, segmentsText, hsegment]
    rfl

end Path
end RouteHelpers
