import RouteHelpers.Proofs.Extract.Distinct
import RouteHelpers.Proofs.RouteFile.Origin

/-!
The routes of a routes file never collide.

A reader gives a helper's name to the first route that asks for it, so the helpers on its records are
the names that are claimed, each once (`helpersOf_readerAfter`). Extracting routes from such records
finds nothing to tell apart: what comes out are the routes of the records that have a helper and a verb
of HTTP and pass the patterns, in the order in which they were declared and with the helpers that the
reader gave them.
-/

namespace RouteHelpers.RouteFile

/-! ### The helpers of a reader -/

/-- Both states are one, whose records have the names that are claimed, each once. -/
def NamesOnce (a b : State) : Prop :=
  a = b ∧ a.claimed = Extract.helpersOf a.records ∧ a.claimed.Nodup

theorem stable_namesOnce : Stable NamesOnce where
  concerns h := congrArg State.concerns h.1
  define := by
    rintro a _ concerns ⟨rfl, h⟩
    exact ⟨rfl, h⟩

theorem helpersOf_append_record (records : List Record) (d : Declaration) (helper : Option String) :
    Extract.helpersOf (records ++ [d.record helper])
      = Extract.helpersOf records ++ (helper.filter (!·.isEmpty)).toList := by
  rw [Extract.helpersOf, List.filter_append, List.map_append]
  refine congrArg _ ?_
  rcases helper with - | name
  · rfl
  · by_cases hname : name = "" <;>
      simp [Extract.hasHelper, Declaration.record, List.filter_cons, Option.filter, hname]

/-- A route that is entered claims the helper that its record has. -/
theorem declare_namesOnce (d : Declaration) : Step.Matches NamesOnce (declare d) (declare d) := by
  rintro st _ ⟨rfl, hclaimed, hnodup⟩
  refine .ok ⟨rfl, ?_, ?_⟩
  · rw [State.claimed_add, State.records_add, helpersOf_append_record, ← hclaimed]
  · rw [State.claimed_add]
    refine List.nodup_append.2 ⟨hnodup, ?_, ?_⟩
    · exact ((d.ownHelper st.claimed).filter (!·.isEmpty)).toList_nodup
    · rintro name hname _ hown rfl
      -- a helper that is taken is not given again
      rw [Option.mem_toList, Option.filter_eq_some_iff, Declaration.ownHelper,
        Option.filter_eq_some_iff] at hown
      simp [hname] at hown

/-- **The helpers of a reader** are the names that are claimed, and no two of them are the same. -/
theorem helpersOf_readerAfter (path : String) (readings : List Sources) :
    (readerAfter declare path readings).claimed
        = Extract.helpersOf (readerAfter declare path readings).records ∧
      (Extract.helpersOf (readerAfter declare path readings).records).Nodup := by
  obtain ⟨-, hclaimed, hnodup⟩ := readerAfter_related stable_namesOnce declare_namesOnce
    ⟨rfl, rfl, List.nodup_nil⟩ path readings
  exact ⟨hclaimed, hclaimed ▸ hnodup⟩

/-! ### The routes that come out -/

/-- No record of a reader is live. -/
theorem live_readerAfter (path : String) (readings : List Sources) :
    ∀ r ∈ (readerAfter declare path readings).records, r.live = false :=
  forall_records_readerAfter fun _ _ _ _ _ _ _ _ => rfl

/-- **The routes of a routes file never collide**, where names are plain: the records that have a
helper and a verb of HTTP and pass the patterns have their routes, in the order of the records, and
each keeps the helper that the reader gave it. -/
theorem ofEntries_readerAfter (path : String) (readings : List Sources) {s : Settings}
    (hplain : s.IsPlain) :
    let records := (readerAfter declare path readings).records
    let kept := records.filter fun r =>
      r.helper.getD "" ≠ "" ∧ Text.upper r.verb ∈ Verb.all ∧ Extract.passes s r
    ∃ routes, (Extract.ofEntries s (records.map .record)).outcome = .ok routes ∧
      routes = kept.map (Route.ofRecord s.naming) ∧
      routes.map (fun r => some r.helper) = kept.map (·.helper) := by
  intro records kept
  -- nothing is passed over for being live
  have hkept : (records.filter fun r => Extract.IsWanted s r) = kept := by
    refine List.filter_congr fun r hr => ?_
    have hlive : r.live = false := live_readerAfter path readings r hr
    rw [decide_eq_decide, Extract.isWanted_iff]
    simp [Extract.isKept, Extract.hasHelper, hlive, and_left_comm]
  have hok := Extract.outcome_of_nodup_helpers hplain (helpersOf_readerAfter path readings).2
  rw [hkept] at hok
  refine ⟨kept.map (Route.ofRecord s.naming), hok, rfl, ?_⟩
  rw [List.map_map]
  refine List.map_congr_left fun r hr => ?_
  obtain ⟨-, hr⟩ := List.mem_filter.1 hr
  have hhelper := (of_decide_eq_true hr).1
  rcases hname : r.helper with - | name
  · rw [hname] at hhelper
    exact absurd rfl hhelper
  · simp [Route.ofRecord, Route.named, hname]

/-- A resource, a route that a name is claimed for again, and a route that no name is made for. -/
def accountStatements : List Node :=
  [.call 0 "" "resources" [.form 0 .symbol ":accounts" []] false [],
    .call 0 "" "get" [.form 0 (.string "accounts") "'accounts'" []] false [],
    .call 0 "" "get" [.form 0 (.string "files/*path") "'files/*path'" []] false []]

theorem ofEntries_accountStatements :
    Settings.default.IsPlain ∧
    let records := (readerAfter declare "" [⟨fun _ => false, fun _ => .ok accountStatements⟩]).records
    let kept := records.filter fun r =>
      r.helper.getD "" ≠ "" ∧ Text.upper r.verb ∈ Verb.all ∧ Extract.passes Settings.default r
    kept.map (·.helper) = [some "accounts", some "new_account", some "edit_account", some "account"] ∧
    ∃ routes, (Extract.ofEntries Settings.default (records.map .record)).outcome = .ok routes ∧
      routes = kept.map (Route.ofRecord Settings.default.naming) ∧
      routes.map (fun r => some r.helper) = kept.map (·.helper) := by
  have hplain : Settings.default.IsPlain := ⟨by decide +kernel, by decide +kernel⟩
  refine ⟨hplain, ?_, ofEntries_readerAfter "" _ hplain⟩
  decide +kernel

end RouteHelpers.RouteFile
