import RouteHelpers.Proofs.Extract.RouteTable

/-!
Route tables in which no helper occurs twice.

Nothing has to be told apart there, and no `PUT` repeats a `PATCH`. In snake case different helpers
give different names, so the groups that share a name are single routes: they stay as they are and in
the order they had (`regrouped_of_nodup`, `settle_of_nodup`). What comes out is simply

    (records.filter (IsWanted s)).map (Route.ofRecord s.naming)

Only where path helpers drop their suffix and URL helpers are emitted as well can a helper such as
`a_url` meet the URL name of another one; `Settings.IsPlain` leaves that out.
-/

namespace RouteHelpers

/-- Names are in snake case, and not without the suffix of path helpers where URL helpers are emitted
beside them. -/
structure Settings.IsPlain (s : Settings) : Prop where
  snakeCase : s.naming.camelCase = false
  suffixed : s.naming.compact = true → s.urlHelpers = false

/-! ### Names of different helpers -/

namespace Naming

variable {n : Naming} {helper helper' : String}

theorem pathName_inj (h : n.camelCase = false) :
    n.pathName helper = n.pathName helper' ↔ helper = helper' := by
  rw [pathName, pathName, cased, cased, h]
  cases n.compact <;> simp

theorem urlName_inj (h : n.camelCase = false) :
    n.urlName helper = n.urlName helper' ↔ helper = helper' := by
  simp [urlName, cased, h]

/-- A path name that has its suffix is the URL name of no helper. -/
theorem suffixed_ne_urlName (h : n.camelCase = false) (hcompact : n.compact = false)
    (helper helper' : String) : n.pathName helper ≠ n.urlName helper' := by
  intro e
  have hlast := congrArg (·.toList.getLast?) e
  simp [pathName, urlName, cased, h, hcompact] at hlast

end Naming

namespace Extract

/-! ### Lists without repetition -/

/-- Where no key occurs twice, there is nothing to put together. -/
theorem regrouped_of_nodup {α κ : Type} [BEq κ] [LawfulBEq κ] {key : α → κ} {xs : List α}
    (h : (xs.map key).Nodup) : regrouped key xs = xs := by
  refine (isRegrouping_regrouped key xs).unique ⟨fun _ => rfl, ?_⟩
  refine List.pairwise_iff_getElem.2 fun i j hi hj hij => ?_
  -- every key has its first place where its element stands
  have hplace : ∀ k (hk : k < xs.length), (xs.map key).idxOf (key xs[k]) = k := by
    intro k hk
    have hidx := h.idxOf_getElem k (by simpa using hk)
    rwa [List.getElem_map] at hidx
  rw [hplace i hi, hplace j hj]
  exact Nat.le_of_lt hij

variable {s : Settings} {routes : List Route} {records : List Record}

/-- A route that shares its name with no other keeps its helper. -/
theorem settle_of_nodup {n : Naming} {r : Route} (h : (routes.map (·.name)).Nodup) (hr : r ∈ routes)
    (hnamed : IsNamed n r) : settle n routes r = r := by
  have hsharing : (routes.filter fun q => q.name == r.name).length = 1 := by
    have hcount := List.count_eq_one_of_mem h (List.mem_map_of_mem hr)
    rwa [List.count_eq_length_filter, List.filter_map, List.length_map] at hcount
  rw [settle, settledHelper, if_pos hsharing]
  exact hnamed

/-! ### Names that are emitted -/

/-- Routes with different helpers have different names. -/
theorem nodup_map_name (hsnake : s.naming.camelCase = false)
    (hnamed : ∀ r ∈ routes, IsNamed s.naming r) (h : (routes.map (·.helper)).Nodup) :
    (routes.map (·.name)).Nodup := by
  have hnames : routes.map (·.name) = (routes.map (·.helper)).map s.naming.pathName := by
    rw [List.map_map]
    exact List.map_congr_left fun r hr => (hnamed r hr).names.1
  rw [hnames]
  exact h.map fun _ _ => (Naming.pathName_inj hsnake).1

/-- Routes with different helpers emit different names. -/
theorem nodup_flatMap_emitted (hplain : s.IsPlain) (hnamed : ∀ r ∈ routes, IsNamed s.naming r)
    (h : (routes.map (·.helper)).Nodup) : (routes.flatMap (emitted s)).Nodup := by
  have hnames := nodup_map_name hplain.snakeCase hnamed h
  unfold emitted
  cases hurls : s.urlHelpers with
  | false => simpa [← List.map_eq_flatMap] using hnames
  | true =>
    have hcompact : s.naming.compact = false := by
      by_contra hcompact
      have hnone := hplain.suffixed (by simpa using hcompact)
      rw [hurls] at hnone
      cases hnone
    -- two routes emit four names, and the suffixes keep path names from URL names
    rw [List.Nodup, List.pairwise_map] at h hnames
    refine List.nodup_flatMap.2 ⟨fun r hr => ?_, ?_⟩
    · simpa [emitted, hurls] using nodup_emitted (hnamed r hr)
    refine (h.and hnames).imp_of_mem fun {r q} hr hq hne => ?_
    obtain ⟨hhelper, hname⟩ := hne
    have hurl : r.urlName ≠ q.urlName := by
      rw [(hnamed r hr).names.2, (hnamed q hq).names.2]
      exact fun e => hhelper ((Naming.urlName_inj hplain.snakeCase).1 e)
    have hmixed : r.name ≠ q.urlName ∧ q.name ≠ r.urlName := by
      rw [(hnamed r hr).names.1, (hnamed r hr).names.2, (hnamed q hq).names.1, (hnamed q hq).names.2]
      exact ⟨Naming.suffixed_ne_urlName hplain.snakeCase hcompact _ _,
        Naming.suffixed_ne_urlName hplain.snakeCase hcompact _ _⟩
    simp [hname.symm, hurl.symm, hmixed.1.symm, hmixed.2]

/-! ### Tables without repetition -/

/-- The helpers of the records that have one. -/
def helpersOf (records : List Record) : List String :=
  (records.filter hasHelper).map fun r => r.helper.getD ""

theorem nodup_helpers_wanted (h : (helpersOf records).Nodup) :
    ((records.filter fun r => IsWanted s r).map fun r => r.helper.getD "").Nodup := by
  refine h.sublist (List.Sublist.map _ ?_)
  refine List.monotone_filter_right _ fun r hr => ?_
  have hhelper := (of_decide_eq_true hr).1
  simpa [hasHelper] using hhelper

/-- Where helpers differ, every record that is wanted comes through. -/
theorem survivors_of_nodup (h : (helpersOf records).Nodup) :
    survivors s records = records.filter fun r => IsWanted s r := by
  refine List.filter_eq_self.2 fun r hr => decide_eq_true ?_
  rintro ⟨hput, p, hp, hpatch, hhelper, -⟩
  -- the `PATCH` that a `PUT` repeats has the same helper, so it would be the same record
  have hsame : p = r :=
    List.inj_on_of_nodup_map (nodup_helpers_wanted (s := s) h) hp hr (by rw [hhelper])
  rw [hsame, hput] at hpatch
  exact absurd hpatch (by decide)

/-- **Nothing collides where helpers differ**, and nothing is renamed: every record that is wanted has
the route that it was built with. -/
theorem outcome_of_nodup_helpers (hplain : s.IsPlain) (h : (helpersOf records).Nodup) :
    (ofEntries s (records.map .record)).outcome
      = .ok ((records.filter fun r => IsWanted s r).map (Route.ofRecord s.naming)) := by
  have hbuilt : builtRoutes s records
      = (records.filter fun r => IsWanted s r).map (Route.ofRecord s.naming) := by
    rw [builtRoutes, survivors_of_nodup h]
  have hhelpers : ((builtRoutes s records).map (·.helper)).Nodup := by
    rw [hbuilt, List.map_map]
    exact nodup_helpers_wanted h
  have hnames := nodup_map_name hplain.snakeCase isNamed_of_mem_builtRoutes hhelpers
  have hsettled : settledRoutes s records = builtRoutes s records := by
    rw [settledRoutes, regrouped_of_nodup hnames]
    refine (List.map_congr_left fun r hr => ?_).trans (List.map_id _)
    exact settle_of_nodup hnames hr (isNamed_of_mem_builtRoutes r hr)
  have hok : ((settledRoutes s records).flatMap (emitted s)).Nodup := by
    rw [hsettled]
    exact nodup_flatMap_emitted hplain isNamed_of_mem_builtRoutes hhelpers
  rw [outcome_of_nodup hok, hsettled, hbuilt]

end Extract
end RouteHelpers
