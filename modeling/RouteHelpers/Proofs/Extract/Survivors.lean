import RouteHelpers.Extract
import RouteHelpers.Proofs.Tracing

/-!
Which records get a route.

The way from entries to routes leaves records out in several places: an entry with a verb that is none
of HTTP is no record, the filters drop records, and of the routes that are made the `PUT`s that repeat
a `PATCH` are dropped. `survivors` says at once which records come through, on the records as they were
given, and `map_survivors` that just their routes are left before names are told apart.

A `PUT` is dropped for a `PATCH` that comes through itself: nothing drops a `PATCH` that is wanted, so
it makes no difference whether it is looked for among all records or among those that survive
(`survivors_eq_filter`).
-/

namespace RouteHelpers

/-! ### Supported verbs -/

namespace Record

/-- A record with its verb in upper case, if that is a verb of HTTP. -/
def supported? (r : Record) : Option Record :=
  if Verb.all.contains (Text.upper r.verb) then some { r with verb := Text.upper r.verb } else none

theorem outcome_ofEntry_record (r : Record) :
    (ofEntry (.record r)).outcome = .ok r.supported? := by
  unfold ofEntry supported?
  rw [Traced.outcome_bind_ok (a := some r) rfl]
  simp only
  split <;> rfl

/-- Records that arrive as such are taken as they are, those with a supported verb. -/
theorem outcome_ofEntries_records (records : List Record) :
    (ofEntries (records.map .record)).outcome = .ok (records.filterMap supported?) := by
  have h : ∀ e ∈ records.map Entry.record, (ofEntry e).outcome
      = .ok (match e with | .record r => r.supported? | _ => none) := by
    intro e he
    obtain ⟨r, -, rfl⟩ := List.mem_map.1 he
    exact outcome_ofEntry_record r
  rw [ofEntries, Traced.outcome_bind_ok (Traced.outcome_mapEach h), Traced.outcome_pure,
    List.map_map, List.filterMap_map]
  rfl

end Record

/-- A verb in upper case stays as it is. -/
theorem Verb.upper_of_mem {verb : String} (h : verb ∈ Verb.all) : Text.upper verb = verb := by
  have hall : ∀ v ∈ Verb.all, Text.upper v = v := by decide
  exact hall verb h

namespace Extract

/-! ### Which records come through -/

/-- The record is one that routes are made of: it has a helper and a verb of HTTP, it is live only
where live routes are wanted, and its helper passes the patterns. -/
def IsWanted (s : Settings) (r : Record) : Prop :=
  r.helper.getD "" ≠ "" ∧ Text.upper r.verb ∈ Verb.all ∧ (r.live = true → s.includeLive = true) ∧
    (s.included = [] ∨ ∃ p ∈ s.included, p.occursIn (r.helper.getD "") = true) ∧
    ∀ p ∈ s.excluded, p.occursIn (r.helper.getD "") = false

instance (s : Settings) : DecidablePred (IsWanted s) := fun r => by
  unfold IsWanted; infer_instance

/-- The word that the action of a record contributes to a name. -/
def recordToken (n : Naming) (r : Record) : String :=
  Action.token (Route.ofRecord n r)

/-- The record is a `PUT`, and one of several records is a `PATCH` with its helper, path and action. -/
def RepeatsPatch (n : Naming) (records : List Record) (r : Record) : Prop :=
  Text.upper r.verb = "PUT" ∧ ∃ p ∈ records, Text.upper p.verb = "PATCH" ∧
    p.helper = r.helper ∧ p.path = r.path ∧ recordToken n p = recordToken n r

instance (n : Naming) (records : List Record) : DecidablePred (RepeatsPatch n records) := fun r => by
  unfold RepeatsPatch; infer_instance

/-- The records that come through: those that are wanted, without the `PUT`s that repeat a `PATCH`
among them. -/
def survivors (s : Settings) (records : List Record) : List Record :=
  let wanted := records.filter fun r => IsWanted s r
  wanted.filter fun r => ¬ RepeatsPatch s.naming wanted r

theorem mem_survivors {s : Settings} {records : List Record} {r : Record} :
    r ∈ survivors s records ↔ r ∈ records ∧ IsWanted s r ∧
      ¬ RepeatsPatch s.naming (records.filter fun r => IsWanted s r) r := by
  simp only [survivors, List.mem_filter, decide_eq_true_eq, and_assoc]

/-- A `PATCH` repeats no `PATCH`, so it is dropped nowhere. -/
theorem repeatsPatch_survivors {s : Settings} {records : List Record} {r : Record} :
    RepeatsPatch s.naming (survivors s records) r ↔
      RepeatsPatch s.naming (records.filter fun r => IsWanted s r) r := by
  constructor
  · rintro ⟨hput, p, hp, hpatch, hsame⟩
    obtain ⟨hmem, hwanted, -⟩ := mem_survivors.1 hp
    exact ⟨hput, p, by simp [hmem, hwanted], hpatch, hsame⟩
  · rintro ⟨hput, p, hp, hpatch, hsame⟩
    obtain ⟨hmem, hwanted⟩ := List.mem_filter.1 hp
    -- the `PATCH` itself comes through, as it is no `PUT`
    refine ⟨hput, p, mem_survivors.2 ⟨hmem, of_decide_eq_true hwanted, ?_⟩, hpatch, hsame⟩
    rintro ⟨hput', -⟩
    rw [hpatch] at hput'
    exact absurd hput' (by decide)

/-- The records that come through are those that are wanted and do not repeat a `PATCH` that comes
through. -/
theorem survivors_eq_filter (s : Settings) (records : List Record) :
    survivors s records = records.filter fun r =>
      IsWanted s r ∧ ¬ RepeatsPatch s.naming (survivors s records) r := by
  conv => lhs; rw [survivors]
  rw [List.filter_filter]
  refine List.filter_congr fun r _ => ?_
  rw [Bool.eq_iff_iff, Bool.and_eq_true]
  simp only [decide_eq_true_eq, repeatsPatch_survivors]
  exact and_comm

theorem RepeatsPatch.of_perm {n : Naming} {records records' : List Record}
    (h : records.Perm records') {r : Record} (hr : RepeatsPatch n records r) :
    RepeatsPatch n records' r := by
  obtain ⟨hput, p, hp, hsame⟩ := hr
  exact ⟨hput, p, h.mem_iff.1 hp, hsame⟩

/-- In another order the same records come through. -/
theorem survivors_perm (s : Settings) {records records' : List Record}
    (h : records.Perm records') : (survivors s records).Perm (survivors s records') := by
  have hwanted := h.filter fun r => decide (IsWanted s r)
  unfold survivors
  refine (hwanted.filter _).trans (List.Perm.of_eq ?_)
  refine List.filter_congr fun r _ => ?_
  rw [decide_eq_decide]
  exact not_congr ⟨.of_perm hwanted, .of_perm hwanted.symm⟩

/-! ### Their routes -/

theorem isWanted_iff {s : Settings} {r : Record} :
    IsWanted s r ↔ Text.upper r.verb ∈ Verb.all ∧ isKept s r = true := by
  simp only [IsWanted, isKept, hasHelper, passes, Bool.and_eq_true, Bool.or_eq_true,
    Bool.not_eq_true', String.isEmpty_eq_false_iff, List.isEmpty_iff, List.any_eq_true,
    List.any_eq_false, Bool.not_eq_true]
  constructor
  · rintro ⟨hhelper, hverb, hlive, hin, hout⟩
    refine ⟨hverb, ⟨hhelper, ?_⟩, hin, hout⟩
    cases h : r.live with
    | false => exact .inl rfl
    | true => exact .inr (hlive h)
  · rintro ⟨hverb, ⟨hhelper, hlive⟩, hin, hout⟩
    refine ⟨hhelper, hverb, fun h => ?_, hin, hout⟩
    rcases hlive with hlive | hlive
    · rw [h] at hlive
      cases hlive
    · exact hlive

/-- The verb of a record does not decide whether it is kept. -/
theorem isKept_withVerb (s : Settings) (r : Record) (verb : String) :
    isKept s { r with verb } = isKept s r := rfl

/-- A supported record has the route that it has before its verb is changed. -/
theorem ofRecord_withVerb (n : Naming) {r : Record} (h : Text.upper r.verb ∈ Verb.all) :
    Route.ofRecord n { r with verb := Text.upper r.verb } = Route.ofRecord n r := by
  simp [Route.ofRecord, Route.named, Verb.upper_of_mem h]

/-- The routes that are made are those of the records that are wanted. -/
theorem routesOf_supported (s : Settings) (records : List Record) :
    routesOf s (records.filterMap Record.supported?)
      = (records.filter fun r => IsWanted s r).map (Route.ofRecord s.naming) := by
  induction records with
  | nil => rfl
  | cons r records ih =>
    unfold routesOf at ih ⊢
    by_cases hverb : Text.upper r.verb ∈ Verb.all
    · -- its verb is in upper case from here on, which neither the test nor the route shows
      have hr : r.supported? = some { r with verb := Text.upper r.verb } := by
        simp [Record.supported?, hverb]
      rw [List.filterMap_cons_some hr, List.filter_cons, List.filter_cons, isKept_withVerb]
      by_cases hkept : isKept s r = true
      · rw [if_pos hkept, if_pos (by simpa using isWanted_iff.2 ⟨hverb, hkept⟩), List.map_cons,
          List.map_cons, ofRecord_withVerb _ hverb, ih]
      · rw [if_neg hkept, if_neg (by simpa using fun h => hkept (isWanted_iff.1 h).2), ih]
    · have hr : r.supported? = none := by
        simp [Record.supported?, hverb]
      rw [List.filterMap_cons_none hr, ih,
        List.filter_cons_of_neg (by simpa using fun h => hverb (isWanted_iff.1 h).1)]

/-- Among routes of records with helpers, a repeated `PUT` is one of a record that repeats. -/
theorem isRepeatedPut_map {n : Naming} {records : List Record}
    (h : ∀ r ∈ records, r.helper.getD "" ≠ "") {r : Record} (hr : r ∈ records) :
    isRepeatedPut (records.map (Route.ofRecord n)) (Route.ofRecord n r) = true ↔
      RepeatsPatch n records r := by
  -- routes are compared by the texts of helpers, where a missing one and an empty one are the same
  have hhelper : ∀ p ∈ records, p.helper.getD "" = r.helper.getD "" ↔ p.helper = r.helper := by
    intro p hp
    have h₁ := h p hp
    have h₂ := h r hr
    cases e₁ : p.helper <;> cases e₂ : r.helper <;> simp_all
  simp only [isRepeatedPut, RepeatsPatch, List.any_map, Bool.and_eq_true, List.any_eq_true,
    Function.comp_apply, beq_iff_eq, updateKey, Prod.mk.injEq, Route.ofRecord, Route.named,
    recordToken]
  refine and_congr_right fun _ => exists_congr fun p => and_congr_right fun hp => ?_
  rw [hhelper p hp]

/-- **The routes that are left** before names are told apart are those of the records that come
through. -/
theorem map_survivors (s : Settings) (records : List Record) :
    collapsePuts (routesOf s (records.filterMap Record.supported?))
      = (survivors s records).map (Route.ofRecord s.naming) := by
  have hhelper : ∀ r ∈ records.filter fun r => IsWanted s r, r.helper.getD "" ≠ "" := by
    intro r hr
    exact (of_decide_eq_true (List.mem_filter.1 hr).2).1
  rw [routesOf_supported, collapsePuts, List.filter_map, survivors]
  refine congrArg _ (List.filter_congr fun r hr => ?_)
  rw [Function.comp_apply, Bool.eq_iff_iff, Bool.not_eq_true', ← Bool.not_eq_true,
    isRepeatedPut_map hhelper hr, decide_eq_true_eq]

end Extract
end RouteHelpers
