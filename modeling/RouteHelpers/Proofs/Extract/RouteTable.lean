import RouteHelpers.Proofs.Extract.Collision
import RouteHelpers.Proofs.Extract.Survivors

/-!
What a route table comes to.

`settledRoutes` are the routes of the records that come through, regrouped by their names and renamed.
Extracting ends in one of two ways:

    outcome = if the names are all different then settledRoutes else the first name that is repeated

The rest follows from it. Nothing but names is changed on the way, which `bare` leaves out
(`map_bare_settledRoutes`); and but for the order of the result nothing depends on the order of the
records (`settledRoutes_perm`), for the helper of a route is decided by counting.
-/

namespace RouteHelpers.Extract

variable {s : Settings} {routes : List Route} {records records' : List Record}

/-! ### The routes that come out -/

/-- The routes of the records that come through, with the names they are built with. -/
def builtRoutes (s : Settings) (records : List Record) : List Route :=
  (survivors s records).map (Route.ofRecord s.naming)

/-- The routes of the records that come through, told apart. -/
def settledRoutes (s : Settings) (records : List Record) : List Route :=
  (regrouped (·.name) (builtRoutes s records)).map (settle s.naming (builtRoutes s records))

theorem isNamed_of_mem_builtRoutes : ∀ r ∈ builtRoutes s records, IsNamed s.naming r := by
  intro r hr
  obtain ⟨q, -, rfl⟩ := List.mem_map.1 hr
  exact isNamed_ofRecord _ q

theorem disambiguate_eq_settledRoutes (s : Settings) (records : List Record) :
    disambiguate s.naming (collapsePuts (routesOf s (records.filterMap Record.supported?)))
      = settledRoutes s records := by
  rw [map_survivors]
  exact disambiguate_eq_map isNamed_of_mem_builtRoutes

theorem isNamed_of_mem_settledRoutes : ∀ r ∈ settledRoutes s records, IsNamed s.naming r := by
  rw [← disambiguate_eq_settledRoutes]
  exact isNamed_of_mem_disambiguate

/-- What is checked for collisions are the settled routes. -/
theorem outcome_ofEntries (s : Settings) (records : List Record) :
    (ofEntries s (records.map .record)).outcome =
      match collision? s (settledRoutes s records) with
      | some (name, paths) => .error (.collision name paths)
      | none => .ok (settledRoutes s records) := by
  have hrecords : ((Record.ofEntries (records.map .record)).mapError ExtractFault.defaults).outcome
      = .ok (records.filterMap Record.supported?) := by
    rw [Traced.mapError, Record.outcome_ofEntries_records]
    rfl
  have hsettled := outcome_ofRecords s (records.filterMap Record.supported?)
  rw [disambiguate_eq_settledRoutes] at hsettled
  rw [ofEntries, Traced.outcome_bind_ok (a := ()) rfl, Traced.outcome_bind_ok hrecords]
  exact hsettled

theorem outcome_of_nodup (h : ((settledRoutes s records).flatMap (emitted s)).Nodup) :
    (ofEntries s (records.map .record)).outcome = .ok (settledRoutes s records) := by
  rw [outcome_ofEntries, collision?_eq isNamed_of_mem_settledRoutes,
    find?_repeated_eq_none_iff.2 h]
  rfl

theorem outcome_of_not_nodup (h : ¬ ((settledRoutes s records).flatMap (emitted s)).Nodup) :
    ∃ name, IsFirstRepeated name ((settledRoutes s records).flatMap (emitted s)) ∧
      (ofEntries s (records.map .record)).outcome = .error (.collision name
        (((settledRoutes s records).filter fun r => name ∈ emitted s r).map (·.path))) := by
  rcases hfind : ((settledRoutes s records).flatMap (emitted s)).find? fun x =>
      1 < ((settledRoutes s records).flatMap (emitted s)).count x with - | name
  · exact absurd (find?_repeated_eq_none_iff.1 hfind) h
  · refine ⟨name, isFirstRepeated_of_find? hfind, ?_⟩
    rw [outcome_ofEntries, collision?_eq isNamed_of_mem_settledRoutes, hfind]
    rfl

/-- **What names come out.** The routes of the records that come through have the helpers of
`settledHelper`. They come out if their names are all different; else the name that is repeated first
does, with the paths of all routes that emit it. -/
theorem ofEntries_records_spec (s : Settings) (records : List Record) :
    (((settledRoutes s records).flatMap (emitted s)).Nodup ∧
      (ofEntries s (records.map .record)).outcome = .ok (settledRoutes s records)) ∨
    (¬ ((settledRoutes s records).flatMap (emitted s)).Nodup ∧
      ∃ name, IsFirstRepeated name ((settledRoutes s records).flatMap (emitted s)) ∧
        (ofEntries s (records.map .record)).outcome = .error (.collision name
          (((settledRoutes s records).filter fun r => name ∈ emitted s r).map (·.path)))) := by
  by_cases h : ((settledRoutes s records).flatMap (emitted s)).Nodup
  · exact .inl ⟨h, outcome_of_nodup h⟩
  · exact .inr ⟨h, outcome_of_not_nodup h⟩

theorem eq_settledRoutes_of_ok (h : (ofEntries s (records.map .record)).outcome = .ok routes) :
    routes = settledRoutes s records := by
  by_cases hnodup : ((settledRoutes s records).flatMap (emitted s)).Nodup
  · rw [outcome_of_nodup hnodup] at h
    exact (Except.ok.inj h).symm
  · obtain ⟨name, -, hcollision⟩ := outcome_of_not_nodup hnodup
    rw [hcollision] at h
    cases h

/-! ### What stays the same -/

/-- A route without what it is called. -/
def bare (r : Route) : Route :=
  { r with name := "", helper := "", urlName := "" }

theorem map_bare_settledRoutes (s : Settings) (records : List Record) :
    (settledRoutes s records).map bare
      = (regrouped (·.name) (builtRoutes s records)).map bare := by
  rw [settledRoutes, List.map_map]
  rfl

/-- **Nothing is lost, repeated or changed** but names: the routes that come out are those of the
records that come through, with the groups that share a name put together. -/
theorem map_bare_of_ok (h : (ofEntries s (records.map .record)).outcome = .ok routes) :
    (survivors s records = records.filter fun r =>
      IsWanted s r ∧ ¬ RepeatsPatch s.naming (survivors s records) r) ∧
    ∃ together, IsRegrouping (·.name) ((survivors s records).map (Route.ofRecord s.naming)) together ∧
      routes.map bare = together.map bare := by
  refine ⟨survivors_eq_filter s records, regrouped (·.name) (builtRoutes s records), ?_, ?_⟩
  · exact isRegrouping_regrouped (·.name) (builtRoutes s records)
  · rw [eq_settledRoutes_of_ok h]
    exact map_bare_settledRoutes s records

/-- A table with a name that is shared, an update that is repeated and a verb that is none. -/
def usersTable : List Record :=
  [⟨"GET", "/users", some "user", some "index", false, []⟩,
   ⟨"PUT", "/users/:id", some "user", some "update", false, []⟩,
   ⟨"patch", "/users/:id", some "user", some "update", false, []⟩,
   ⟨"TRACE", "/users", some "trace", none, false, []⟩]

theorem map_bare_usersTable :
    ∃ routes, (ofEntries Settings.default (usersTable.map .record)).outcome = .ok routes ∧
      (survivors Settings.default usersTable = usersTable.filter fun r =>
        IsWanted Settings.default r ∧
          ¬ RepeatsPatch Settings.default.naming (survivors Settings.default usersTable) r) ∧
      ∃ together,
        IsRegrouping (·.name) ((survivors Settings.default usersTable).map
          (Route.ofRecord Settings.default.naming)) together ∧
        routes.map bare = together.map bare := by
  have hok : (ofEntries Settings.default (usersTable.map .record)).outcome.toOption.isSome = true := by
    decide +kernel
  obtain ⟨routes, h⟩ := Except.exists_eq_ok hok
  exact ⟨routes, h, map_bare_of_ok h⟩

/-! ### Another order of the records -/

theorem settledHelper_perm (n : Naming) {routes routes' : List Route} (h : routes.Perm routes')
    (r : Route) : settledHelper n routes r = settledHelper n routes' r := by
  have hsharing := h.filter fun q => q.name == r.name
  unfold settledHelper
  simp only [hsharing.length_eq, hsharing.countP_eq]

/-- The route that a record gets: settled among the routes of all records that come through. -/
def settledRoute (s : Settings) (records : List Record) (r : Record) : Route :=
  settle s.naming (builtRoutes s records) (Route.ofRecord s.naming r)

/-- Each record that comes through has its own route among those that come out. -/
theorem settledRoutes_perm_map (s : Settings) (records : List Record) :
    (settledRoutes s records).Perm ((survivors s records).map (settledRoute s records)) := by
  have hmap : (survivors s records).map (settledRoute s records)
      = (builtRoutes s records).map (settle s.naming (builtRoutes s records)) := by
    conv => rhs; arg 2; rw [builtRoutes]
    rw [List.map_map]
    rfl
  rw [hmap]
  exact (regrouped_perm _ _).map _

theorem settledRoute_perm (h : records.Perm records') :
    settledRoute s records = settledRoute s records' := by
  funext r
  have hbuilt : (builtRoutes s records).Perm (builtRoutes s records') := (survivors_perm s h).map _
  rw [settledRoute, settle, settledHelper_perm _ hbuilt]
  rfl

theorem settledRoutes_perm (h : records.Perm records') :
    (settledRoutes s records).Perm (settledRoutes s records') := by
  have hmap : ((survivors s records).map (settledRoute s records)).Perm
      ((survivors s records').map (settledRoute s records')) := by
    rw [settledRoute_perm h]
    exact (survivors_perm s h).map _
  exact (settledRoutes_perm_map s records).trans (hmap.trans (settledRoutes_perm_map s records').symm)

/-- **The order of the records does not matter** but for the order of the result: in each order there
is a collision, or in each order every record has the same route. -/
theorem ofEntries_perm (s : Settings) (h : records.Perm records') :
    ((∃ name paths,
        (ofEntries s (records.map .record)).outcome = .error (.collision name paths)) ∧
      ∃ name paths,
        (ofEntries s (records'.map .record)).outcome = .error (.collision name paths)) ∨
    ∃ routes routes' : List Route,
      (ofEntries s (records.map .record)).outcome = .ok routes ∧
      (ofEntries s (records'.map .record)).outcome = .ok routes' ∧
      routes'.Perm routes ∧
      routes.Perm ((survivors s records).map (settledRoute s records)) ∧
      routes'.Perm ((survivors s records').map (settledRoute s records)) := by
  have hroutes : (settledRoutes s records).Perm (settledRoutes s records') := settledRoutes_perm h
  have hnames := (hroutes.flatMap_right (emitted s)).nodup_iff
  by_cases hnodup : ((settledRoutes s records).flatMap (emitted s)).Nodup
  · -- a record's route depends on how many routes share its name, not on where they stand
    right
    refine ⟨settledRoutes s records, settledRoutes s records', outcome_of_nodup hnodup,
      outcome_of_nodup (hnames.1 hnodup), hroutes.symm, settledRoutes_perm_map s records, ?_⟩
    rw [settledRoute_perm h]
    exact settledRoutes_perm_map s records'
  · -- the first name that is repeated may be another one
    left
    obtain ⟨name, -, hfirst⟩ := outcome_of_not_nodup hnodup
    obtain ⟨name', -, hsecond⟩ := outcome_of_not_nodup fun hnodup' => hnodup (hnames.2 hnodup')
    exact ⟨⟨name, _, hfirst⟩, name', _, hsecond⟩

theorem ofEntries_usersTable_reverse :
    usersTable.Perm usersTable.reverse ∧
    (((∃ name paths, (ofEntries Settings.default (usersTable.map .record)).outcome
          = .error (.collision name paths)) ∧
        ∃ name paths, (ofEntries Settings.default (usersTable.reverse.map .record)).outcome
          = .error (.collision name paths)) ∨
      ∃ routes routes' : List Route,
        (ofEntries Settings.default (usersTable.map .record)).outcome = .ok routes ∧
        (ofEntries Settings.default (usersTable.reverse.map .record)).outcome = .ok routes' ∧
        routes'.Perm routes ∧
        routes.Perm ((survivors Settings.default usersTable).map
          (settledRoute Settings.default usersTable)) ∧
        routes'.Perm ((survivors Settings.default usersTable.reverse).map
          (settledRoute Settings.default usersTable))) :=
  ⟨(List.reverse_perm usersTable).symm,
    ofEntries_perm Settings.default (List.reverse_perm usersTable).symm⟩

end RouteHelpers.Extract
