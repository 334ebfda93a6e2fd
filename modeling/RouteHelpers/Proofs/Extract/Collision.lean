import RouteHelpers.Proofs.Extract.Grouping
import RouteHelpers.Proofs.Extract.Naming
import RouteHelpers.Proofs.Tracing

/-!
Names that collide.

The check for collisions groups all names that are emitted, each with the path of its route, and looks
for a group of several. `emitted` are the names of one route: one or two, and different. With them
the check comes to looking for the first name that is repeated in `routes.flatMap (emitted s)`
(`collision?_eq`), and there is none if and only if that list has no duplicates. So whatever entries
routes come from, the names that they emit are all different (`nodup_emitted_of_ok`).
-/

namespace RouteHelpers.Extract

variable {s : Settings} {routes : List Route}

/-! ### Names that are emitted -/

/-- The names that a route emits. -/
def emitted (s : Settings) (r : Route) : List String :=
  r.name :: if s.urlHelpers then [r.urlName] else []

/-- The first of several texts that occurs more than once. -/
structure IsFirstRepeated (x : String) (xs : List String) : Prop where
  repeated : 1 < xs.count x
  first : ∃ before after, xs = before ++ x :: after ∧ ∀ y ∈ before, xs.count y ≤ 1

theorem find?_repeated_eq_none_iff {xs : List String} :
    xs.find? (fun x => 1 < xs.count x) = none ↔ xs.Nodup := by
  rw [List.find?_eq_none, List.nodup_iff_count_le_one]
  constructor
  · intro h x
    by_cases hx : x ∈ xs
    · simpa using h x hx
    · rw [List.count_eq_zero_of_not_mem hx]
      exact Nat.zero_le 1
  · intro h x _
    simpa using h x

theorem isFirstRepeated_of_find? {x : String} {xs : List String}
    (h : xs.find? (fun x => 1 < xs.count x) = some x) : IsFirstRepeated x xs := by
  obtain ⟨hx, before, after, hxs, hbefore⟩ := List.find?_eq_some_iff_append.1 h
  refine ⟨of_decide_eq_true hx, before, after, hxs, fun y hy => ?_⟩
  simpa using hbefore y hy

/-- A route emits its names together with its path. -/
theorem emittedNames_eq (h : ∀ r ∈ routes, IsNamed s.naming r) :
    emittedNames s routes = routes.flatMap fun r => (emitted s r).map fun name => (name, r.path) := by
  refine List.flatMap_congr fun r hr => ?_
  have hurl : r.urlName.isEmpty = false := by
    rw [String.isEmpty_eq_false_iff, (h r hr).names.2]
    exact s.naming.urlName_ne_empty r.helper
  rw [emitted, hurl]
  cases s.urlHelpers <;> rfl

theorem map_fst_emittedNames (h : ∀ r ∈ routes, IsNamed s.naming r) :
    (emittedNames s routes).map (·.1) = routes.flatMap (emitted s) := by
  rw [emittedNames_eq h, List.map_flatMap]
  refine List.flatMap_congr fun r _ => ?_
  rw [List.map_map]
  exact List.map_id _

/-- A route emits each of its names once. -/
theorem nodup_emitted {r : Route} (h : IsNamed s.naming r) : (emitted s r).Nodup := by
  have hne : r.name ≠ r.urlName := by
    rw [h.names.1, h.names.2]
    exact s.naming.pathName_ne_urlName r.helper
  unfold emitted
  cases s.urlHelpers with
  | true => simpa using hne
  | false => simp

/-- The paths that emit a name are those of the routes that have it. -/
theorem map_snd_filter_emittedNames (h : ∀ r ∈ routes, IsNamed s.naming r) (name : String) :
    ((emittedNames s routes).filter fun e => e.1 == name).map (·.2)
      = (routes.filter fun r => name ∈ emitted s r).map (·.path) := by
  rw [emittedNames_eq h]
  induction routes with
  | nil => rfl
  | cons r routes ih =>
    have hr : (((emitted s r).map fun x => (x, r.path)).filter fun e => e.1 == name).map (·.2)
        = List.replicate ((emitted s r).count name) r.path := by
      rw [List.filter_map, List.map_map, List.count_eq_length_filter]
      exact List.map_const'
    rw [List.flatMap_cons, List.filter_append, List.map_append, hr,
      ih fun q hq => h q (List.mem_cons_of_mem r hq)]
    -- a route that has the name has it once, so its path is listed once
    by_cases hmem : name ∈ emitted s r
    · rw [List.count_eq_one_of_mem (nodup_emitted (h r List.mem_cons_self)) hmem,
        List.filter_cons_of_pos (by simpa using hmem)]
      rfl
    · rw [List.count_eq_zero_of_not_mem hmem, List.filter_cons_of_neg (by simpa using hmem)]
      rfl

/-! ### Collisions -/

theorem length_filter_fst (xs : List (String × String)) (name : String) :
    (xs.filter fun e => e.1 == name).length = (xs.map (·.1)).count name := by
  rw [List.count_eq_length_filter, List.filter_map, List.length_map]
  rfl

/-- The collision is that of the first name that is emitted more than once. -/
theorem collision?_eq (h : ∀ r ∈ routes, IsNamed s.naming r) :
    collision? s routes
      = ((routes.flatMap (emitted s)).find? fun x => 1 < (routes.flatMap (emitted s)).count x).map
          fun name => (name, (routes.filter fun r => name ∈ emitted s r).map (·.path)) := by
  rw [collision?, find?_groupBy]
  simp only [length_filter_fst, map_fst_emittedNames h, ← map_snd_filter_emittedNames h]
  rcases hfind : (routes.flatMap (emitted s)).find? fun x =>
      1 < (routes.flatMap (emitted s)).count x with - | name
  · rfl
  · -- the group of a name that is emitted is not empty, and each of its entries shows the name
    have hmem := List.mem_of_find?_eq_some hfind
    rw [← map_fst_emittedNames h] at hmem
    obtain ⟨e, he, hname⟩ := List.mem_map.1 hmem
    rcases hgroup : (emittedNames s routes).filter fun e => e.1 == name with - | ⟨first, rest⟩
    · exact absurd (by simpa using hname) (List.filter_eq_nil_iff.1 hgroup e he)
    · have hfirst : first ∈ (emittedNames s routes).filter fun e => e.1 == name := by
        rw [hgroup]
        exact List.mem_cons_self
      simp [hgroup, eq_of_beq (List.mem_filter.1 hfirst).2]

/-! ### Routes that come out -/

/-- What is checked for collisions are the routes that were told apart. -/
theorem outcome_ofRecords (s : Settings) (records : List Record) :
    (ofRecords s records).outcome =
      match collision? s (disambiguate s.naming (collapsePuts (routesOf s records))) with
      | some (name, paths) => .error (.collision name paths)
      | none => .ok (disambiguate s.naming (collapsePuts (routesOf s records))) := by
  rw [ofRecords, Traced.outcome_bind_ok (a := ()) rfl]
  show Traced.outcome (Traced.tellAll _ >>= fun _ => Traced.tellAll _ >>= fun _ => _) = _
  rw [Traced.outcome_bind_ok (a := ()) rfl, Traced.outcome_bind_ok (a := ()) rfl]
  cases h : collision? s (disambiguate s.naming (collapsePuts (routesOf s records))) <;>
    simp only [h] <;> rfl

theorem isNamed_of_mem_collapsePuts {records : List Record} :
    ∀ r ∈ collapsePuts (routesOf s records), IsNamed s.naming r := by
  intro r hr
  obtain ⟨q, -, rfl⟩ := List.mem_map.1 (List.mem_of_mem_filter hr)
  exact isNamed_ofRecord _ q

theorem isNamed_of_mem_disambiguate {records : List Record} :
    ∀ r ∈ disambiguate s.naming (collapsePuts (routesOf s records)), IsNamed s.naming r := by
  rw [disambiguate_eq_map isNamed_of_mem_collapsePuts]
  intro r hr
  obtain ⟨q, -, rfl⟩ := List.mem_map.1 hr
  exact isNamed_settle _ _ q

/-- **The names that routes emit are all different**, and the routes have them from their helpers. -/
theorem nodup_emitted_of_ok {entries : List Entry} (h : (ofEntries s entries).outcome = .ok routes) :
    (∀ r ∈ routes, IsNamed s.naming r) ∧ (routes.flatMap (emitted s)).Nodup := by
  obtain ⟨-, -, h⟩ := Traced.outcome_bind_eq_ok.1 h
  obtain ⟨records, -, h⟩ := Traced.outcome_bind_eq_ok.1 h
  rw [outcome_ofRecords] at h
  have hnamed : ∀ r ∈ disambiguate s.naming (collapsePuts (routesOf s records)), IsNamed s.naming r :=
    isNamed_of_mem_disambiguate
  rcases hcollision : collision? s (disambiguate s.naming (collapsePuts (routesOf s records)))
    with - | ⟨name, paths⟩
  · rw [hcollision] at h
    obtain rfl := Except.ok.inj h
    refine ⟨hnamed, find?_repeated_eq_none_iff.1 ?_⟩
    rw [collision?_eq hnamed] at hcollision
    exact Option.map_eq_none_iff.1 hcollision
  · rw [hcollision] at h
    cases h

end RouteHelpers.Extract
