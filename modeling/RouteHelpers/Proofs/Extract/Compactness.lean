import RouteHelpers.Proofs.Extract.Collision

/-!
How much of a naming the way from records to routes depends on.

Names are compared on that way and never taken apart. So two namings that tell the same helpers apart
(`Naming.AgreesWith`) lead to the same groups, the same helpers and the same collisions among path
helpers, and the routes that come out differ in nothing but their names: those of one naming are those
of the other, named again from their helpers (`Route.inNaming`). Every step on the way commutes with
naming again, and the whole way with it (`outcome_ofRecords_inNaming`).

Compact names agree with full ones, in either case: what they leave out is a word of its own at the end,
and camel case keeps that apart from the words before it.
-/

namespace RouteHelpers

/-! ### Namings that agree -/

/-- Two namings tell the same helpers apart. -/
def Naming.AgreesWith (n n' : Naming) : Prop :=
  ∀ helper helper', n'.pathName helper = n'.pathName helper' ↔ n.pathName helper = n.pathName helper'

/-- A full name is the compact one with an ending. -/
theorem Naming.pathName_full (camelCase : Bool) (helper : String) :
    pathName ⟨camelCase, false⟩ helper
      = pathName ⟨camelCase, true⟩ helper ++ if camelCase then "Path" else "_path" := by
  cases camelCase with
  | true => exact camelCased_append_path helper
  | false => rfl

theorem Naming.agreesWith_full (camelCase : Bool) :
    AgreesWith ⟨camelCase, true⟩ ⟨camelCase, false⟩ := by
  intro helper helper'
  rw [pathName_full, pathName_full]
  exact String.append_left_inj _

variable {n n' : Naming} {r : Route} {routes : List Route}

/-! ### Naming routes again -/

/-- The route with its names made anew from its helper. -/
def Route.inNaming (n : Naming) (r : Route) : Route :=
  r.rename n r.helper

theorem Route.helperName_inNaming (h : r.helper ≠ "") : (r.inNaming n).helperName = r.helperName := by
  have hfilled : r.helper.isEmpty = false := String.isEmpty_eq_false_iff.2 h
  have hfilled' : (r.inNaming n).helper.isEmpty = false := hfilled
  rw [helperName, helperName, hfilled, hfilled']
  rfl

theorem Action.ofRoute_inNaming (h : r.helper ≠ "") : ofRoute (r.inNaming n) = ofRoute r := by
  rw [ofRoute, ofRoute, Route.helperName_inNaming h]
  rfl

theorem Action.token_inNaming (h : r.helper ≠ "") : token (r.inNaming n) = token r := by
  rw [token, token, ofRoute_inNaming h]
  rfl

namespace Extract

theorem isNamed_inNaming : IsNamed n (r.inNaming n) := rfl

/-- Where two routes have their names from their helpers, they share them in both namings or in none. -/
theorem name_inNaming_eq_iff (hn : n.AgreesWith n') {q : Route} (hq : IsNamed n q)
    (hr : IsNamed n r) : (q.inNaming n').name = (r.inNaming n').name ↔ q.name = r.name := by
  rw [hq.names.1, hr.names.1]
  exact hn q.helper r.helper

theorem routesOf_inNaming (s : Settings) (records : List Record) :
    routesOf { s with naming := n' } records = (routesOf s records).map (·.inNaming n') := by
  rw [routesOf, routesOf, List.map_map]
  rfl

/-- The routes that are made have helpers. -/
theorem helper_ne_empty_of_mem_routesOf {s : Settings} {records : List Record}
    (h : r ∈ routesOf s records) : r.helper ≠ "" := by
  obtain ⟨q, hq, rfl⟩ := List.mem_map.1 h
  have hkept := (List.mem_filter.1 hq).2
  rw [isKept, Bool.and_eq_true, Bool.and_eq_true, hasHelper, Bool.not_eq_true',
    String.isEmpty_eq_false_iff] at hkept
  exact hkept.1.1

/-! ### Repeated updates -/

/-- What a `PUT` is compared by says nothing of names. -/
theorem collapsePuts_inNaming (h : ∀ r ∈ routes, r.helper ≠ "") :
    collapsePuts (routes.map (·.inNaming n)) = (collapsePuts routes).map (·.inNaming n) := by
  have hkey : ∀ r ∈ routes, updateKey (r.inNaming n) = updateKey r := by
    intro r hr
    rw [updateKey, updateKey, Action.token_inNaming (h r hr)]
    rfl
  have hput : ∀ r ∈ routes,
      isRepeatedPut (routes.map (·.inNaming n)) (r.inNaming n) = isRepeatedPut routes r := by
    intro r hr
    rw [isRepeatedPut, isRepeatedPut, List.any_map, hkey r hr, Bool.eq_iff_iff]
    simp only [Bool.and_eq_true, List.any_eq_true, Function.comp_apply]
    refine and_congr_right fun _ => exists_congr fun p => and_congr_right fun hp => ?_
    rw [hkey p hp]
    rfl
  rw [collapsePuts, collapsePuts, List.filter_map]
  refine congrArg _ (List.filter_congr fun r hr => ?_)
  rw [Function.comp_apply, hput r hr]

/-! ### Telling routes apart -/

theorem withAction_inNaming (h : r.helper ≠ "") :
    withAction n' (r.inNaming n') = (withAction n r).inNaming n' := by
  rw [withAction, Action.token_inNaming h]
  rfl

theorem withScope_inNaming : withScope n' (r.inNaming n') = (withScope n r).inNaming n' := rfl

/-- A group that shares its name is told apart in the same way. -/
theorem tellApart_inNaming (hn : n.AgreesWith n') (h : ∀ r ∈ routes, r.helper ≠ "") :
    tellApart n' (routes.map (·.inNaming n')) = (tellApart n routes).map (·.inNaming n') := by
  have hactions : (routes.map (·.inNaming n')).map (withAction n')
      = (routes.map (withAction n)).map (·.inNaming n') := by
    rw [List.map_map, List.map_map]
    exact List.map_congr_left fun r hr => withAction_inNaming (h r hr)
  have hnamed : ∀ r ∈ routes.map (withAction n), IsNamed n r := by
    intro r hr
    obtain ⟨q, -, rfl⟩ := List.mem_map.1 hr
    rfl
  -- names are shared by as many routes in both namings, so the same routes get their scopes as well
  simp only [tellApart, hactions]
  rw [List.map_map, List.map_map (l := routes.map (withAction n))]
  refine List.map_congr_left fun r hr => ?_
  have hcount : ((routes.map (withAction n)).map (·.inNaming n')).countP
        (fun q => q.name == (r.inNaming n').name)
      = (routes.map (withAction n)).countP fun q => q.name == r.name := by
    rw [List.countP_map]
    refine List.countP_congr fun q hq => ?_
    rw [Function.comp_apply, beq_iff_eq, beq_iff_eq]
    exact name_inNaming_eq_iff hn (hnamed q hq) (hnamed r hr)
  rw [Function.comp_apply, Function.comp_apply, hcount]
  split
  · exact withScope_inNaming
  · rfl

theorem settleGroup_inNaming (hn : n.AgreesWith n') (h : ∀ r ∈ routes, r.helper ≠ "") :
    settleGroup n' (routes.map (·.inNaming n')) = (settleGroup n routes).map (·.inNaming n') := by
  match routes with
  | [] => exact tellApart_inNaming hn h
  | [r] => rfl
  | r :: q :: rest => exact tellApart_inNaming hn h

/-- **Telling routes apart** gives them the same helpers in namings that agree. -/
theorem disambiguate_inNaming (hn : n.AgreesWith n') (hnamed : ∀ r ∈ routes, IsNamed n r)
    (h : ∀ r ∈ routes, r.helper ≠ "") :
    disambiguate n' (routes.map (·.inNaming n')) = (disambiguate n routes).map (·.inNaming n') := by
  have hgroups : groupBy (·.name) (routes.map (·.inNaming n'))
      = (groupBy (·.name) routes).map (List.map (·.inNaming n')) :=
    groupBy_map _ routes fun q hq r hr => name_inNaming_eq_iff hn (hnamed q hq) (hnamed r hr)
  rw [disambiguate, disambiguate, hgroups, List.flatMap_map, List.map_flatMap]
  refine List.flatMap_congr fun group hgroup => ?_
  obtain ⟨x, -, rfl⟩ := mem_groupBy hgroup
  exact settleGroup_inNaming hn fun r hr => h r (List.mem_of_mem_filter hr)

/-- What is put behind a helper or in front of it does not leave it empty. -/
theorem helper_ne_empty_of_mem_disambiguate (hnamed : ∀ r ∈ routes, IsNamed n r)
    (h : ∀ r ∈ routes, r.helper ≠ "") (hr : r ∈ disambiguate n routes) : r.helper ≠ "" := by
  rw [disambiguate_eq_map hnamed] at hr
  obtain ⟨q, hq, rfl⟩ := List.mem_map.1 hr
  have hfilled : q.helper ≠ "" := h q ((regrouped_perm _ _).mem_iff.1 hq)
  have hjoined : ∀ a b : String, a ++ "_" ++ b ≠ "" := by
    intro a b hempty
    simpa using congrArg String.toList hempty
  show settledHelper n routes q ≠ ""
  rcases settledHelper_cases n routes q with hsame | haction | hscope
  · rwa [hsame]
  · rw [haction]
    exact hjoined _ _
  · rw [hscope]
    exact hjoined _ _

/-! ### Collisions -/

/-- Where no URL helpers are emitted, names collide in namings that agree or in none. -/
theorem collision?_inNaming {s : Settings} (hurl : s.urlHelpers = false)
    (hn : s.naming.AgreesWith n') (hnamed : ∀ r ∈ routes, IsNamed s.naming r) :
    collision? { s with naming := n' } (routes.map (·.inNaming n')) = none ↔
      collision? s routes = none := by
  have hemitted (routes : List Route) : routes.flatMap (emitted s) = routes.map (·.name) := by
    have hone : emitted s = fun r => [r.name] := by
      funext r
      rw [emitted, hurl]
      rfl
    rw [hone]
    exact List.map_eq_flatMap.symm
  have hnamed' : ∀ r ∈ routes.map (·.inNaming n'), IsNamed n' r := by
    intro r hr
    obtain ⟨q, -, rfl⟩ := List.mem_map.1 hr
    exact isNamed_inNaming
  -- a collision is a name that is emitted twice, and pairs of routes share names in both or in none
  have hiff {s : Settings} {routes : List Route} (hnamed : ∀ r ∈ routes, IsNamed s.naming r) :
      collision? s routes = none ↔ (routes.flatMap (emitted s)).Nodup := by
    rw [collision?_eq hnamed, Option.map_eq_none_iff, find?_repeated_eq_none_iff]
  rw [hiff (s := { s with naming := n' }) hnamed', hiff hnamed]
  show ((routes.map (·.inNaming n')).flatMap (emitted s)).Nodup ↔ _
  rw [hemitted, hemitted, List.map_map]
  rw [List.nodup_iff_pairwise_ne, List.nodup_iff_pairwise_ne, List.pairwise_map, List.pairwise_map]
  refine List.Pairwise.iff_of_mem fun {q r} hq hr => not_congr ?_
  exact name_inNaming_eq_iff hn (hnamed q hq) (hnamed r hr)

/-! ### The whole way -/

variable {s : Settings}

/-- **From records to routes**, namings that agree lead to collisions or to the same routes but for their
names. -/
theorem outcome_ofRecords_inNaming (hurl : s.urlHelpers = false) (hn : s.naming.AgreesWith n')
    (records : List Record) :
    ((∃ name paths, (ofRecords s records).outcome = .error (.collision name paths)) ∧
      ∃ name paths,
        (ofRecords { s with naming := n' } records).outcome = .error (.collision name paths)) ∨
    ∃ routes, (∀ r ∈ routes, r.helper ≠ "") ∧ (ofRecords s records).outcome = .ok routes ∧
      (ofRecords { s with naming := n' } records).outcome
        = .ok (routes.map (·.inNaming n')) := by
  have hhelper : ∀ r ∈ collapsePuts (routesOf s records), r.helper ≠ "" := fun r hr =>
    helper_ne_empty_of_mem_routesOf (List.mem_of_mem_filter hr)
  have hnamed : ∀ r ∈ collapsePuts (routesOf s records), IsNamed s.naming r :=
    isNamed_of_mem_collapsePuts
  have hsettled : disambiguate n' (collapsePuts (routesOf { s with naming := n' } records))
      = (disambiguate s.naming (collapsePuts (routesOf s records))).map (·.inNaming n') := by
    rw [routesOf_inNaming, collapsePuts_inNaming fun r => helper_ne_empty_of_mem_routesOf,
      disambiguate_inNaming hn hnamed hhelper]
  have hdistinct : ∀ r ∈ disambiguate s.naming (collapsePuts (routesOf s records)),
      IsNamed s.naming r := isNamed_of_mem_disambiguate
  have hcollision := collision?_inNaming hurl hn hdistinct
  -- what is left is whether the routes that were told apart collide
  rw [outcome_ofRecords, outcome_ofRecords]
  dsimp only
  rw [hsettled]
  rcases h : collision? s (disambiguate s.naming (collapsePuts (routesOf s records)))
    with - | ⟨name, paths⟩
  · right
    rw [hcollision.2 h]
    exact ⟨_, fun r hr => helper_ne_empty_of_mem_disambiguate hnamed hhelper hr, rfl, rfl⟩
  · -- both collide, though the names that collide are not the same
    left
    obtain ⟨⟨name', paths'⟩, h'⟩ := Option.ne_none_iff_exists'.1 fun hnone =>
      Option.some_ne_none _ (h.symm.trans (hcollision.1 hnone))
    rw [h']
    exact ⟨⟨name, paths, rfl⟩, name', paths', rfl⟩

/-- **From entries to routes**, in namings that agree: an entry cannot be read, names collide in both,
or the same routes come out but for their names. -/
theorem outcome_ofEntries_inNaming (hurl : s.urlHelpers = false) (hn : s.naming.AgreesWith n')
    (entries : List Entry) :
    (∃ f, (Record.ofEntries entries).outcome = .error f ∧
      (ofEntries s entries).outcome = .error (.defaults f) ∧
      (ofEntries { s with naming := n' } entries).outcome = .error (.defaults f)) ∨
    ((∃ name paths, (ofEntries s entries).outcome = .error (.collision name paths)) ∧
      ∃ name paths,
        (ofEntries { s with naming := n' } entries).outcome = .error (.collision name paths)) ∨
    ∃ routes, (∀ r ∈ routes, r.helper ≠ "") ∧ (ofEntries s entries).outcome = .ok routes ∧
      (ofEntries { s with naming := n' } entries).outcome
        = .ok (routes.map (·.inNaming n')) := by
  have hentries (s : Settings) : (ofEntries s entries).outcome
      = ((Record.ofEntries entries).outcome.mapError .defaults >>= fun records =>
          (ofRecords s records).outcome) := by
    rw [ofEntries, Traced.outcome_bind_ok (a := ()) rfl, Traced.outcome_bind]
    rfl
  rw [hentries, hentries]
  rcases (Record.ofEntries entries).outcome with f | records
  · exact .inl ⟨f, rfl, rfl, rfl⟩
  · simp only [Except.mapError, Except.ok_bind]
    exact .inr (outcome_ofRecords_inNaming hurl hn records)

end Extract
end RouteHelpers
