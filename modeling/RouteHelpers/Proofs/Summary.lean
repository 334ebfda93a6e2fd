import RouteHelpers.Proofs.Extract.RouteTable
import RouteHelpers.Report

/-!
The count of renamed routes in a summary.

A report knows only the routes that came out, not the records behind them. It takes a route for a renamed
one if its helper ends in its action (`isDisambiguated`). That misses a route that was given the word of an
action that its record does not give, and it counts one that has always been called so.

Renamed are just the routes of names that are shared (`isRenamed_iff`), so both mistakes can be told from the
records: the figure that a summary shows is right just if as many records make it miss a route as make it
count one that keeps its name (`renamedFigure_eq_iff`).
-/

namespace RouteHelpers.Report

open Extract

/-! ### Reading a summary -/

/-- The number that the digits of a line spell. -/
def figure (line : String) : Nat :=
  Nat.ofDigitChars 10 (line.toList.filter Char.isDigit) 0

/-- What the line about renamed routes starts with. -/
abbrev renamedLabel : String :=
  "  Disambiguated:"

/-- The number of renamed routes that a summary shows; none if it has no line about them. -/
def renamedFigure (routes : List Route) : Nat :=
  ((summary routes).find? (Text.startsWith renamedLabel)).elim 0 figure

/-- A count is read back behind a text without digits. -/
theorem figure_countText {front : String} (h : front.toList.filter Char.isDigit = []) (n : Nat) :
    figure (front ++ countText n) = n := by
  have hspaces (m : Nat) : (Text.repeated m " ").toList.filter Char.isDigit = [] := by
    induction m with
    | zero => rfl
    | succ m ih =>
      rw [Text.repeated, String.toList_append, List.filter_append, ih]
      rfl
  have hdigits : (toString n).toList.filter Char.isDigit = Nat.toDigits 10 n := by
    rw [Nat.toString_eq_repr, Nat.toList_repr]
    exact List.filter_eq_self.2 fun c hc => Nat.isDigit_of_mem_toDigits (by decide) (by decide) hc
  rw [figure, countText, Text.padLeft, String.toList_append, String.toList_append,
    List.filter_append, List.filter_append, h, hspaces, hdigits, List.nil_append, List.nil_append,
    Nat.ofDigitChars_ten_toDigits]

/-- The first four characters of a line tell that it is not about renamed routes. -/
theorem startsWith_renamedLabel {front : String} (hlength : 4 ≤ front.toList.length)
    (h : front.toList.take 4 ≠ renamedLabel.toList.take 4) (rest : String) :
    Text.startsWith renamedLabel (front ++ rest) = false := by
  rw [Text.startsWith, ← Bool.not_eq_true, List.isPrefixOf_iff_prefix, String.toList_append]
  rintro ⟨tail, htail⟩
  have htake := congrArg (List.take 4) htail
  rw [List.take_append_of_le_length (by decide), List.take_append_of_le_length hlength] at htake
  exact h htake.symm

/-- The lines of a summary that stand in front of the one about renamed routes. -/
def firstLines (routes : List Route) : List String :=
  ["Summary:", "  Total helpers:     " ++ toString routes.length] ++
    (Text.sorted (Text.distinct (routes.map (·.verb)))).map (verbLine routes.length routes) ++
    ["  With path params:  " ++ countText (routes.countP fun r => !r.required.isEmpty)]

theorem summary_eq (routes : List Route) : summary routes = firstLines routes ++
    if routes.countP isDisambiguated = 0 then []
    else ["  Disambiguated:     " ++ countText (routes.countP isDisambiguated)] :=
  rfl

/-- None of these lines starts like that one: their verbs are other words. -/
theorem not_startsWith_of_mem_firstLines {routes : List Route} (h : ∀ r ∈ routes, r.verb ∈ Verb.all) :
    ∀ line ∈ firstLines routes, ¬ Text.startsWith renamedLabel line = true := by
  have hverbs : ∀ verb ∈ Verb.all, 4 ≤ ("  " ++ verb).toList.length ∧
      ("  " ++ verb).toList.take 4 ≠ renamedLabel.toList.take 4 := by decide
  have hverb : ∀ verb ∈ Text.sorted (Text.distinct (routes.map (·.verb))), verb ∈ Verb.all := by
    intro verb hverb
    obtain ⟨r, hr, rfl⟩ := List.mem_map.1 (Text.mem_distinct.1 (List.mem_mergeSort.1 hverb))
    exact h r hr
  intro line hline
  rw [Bool.not_eq_true]
  simp only [firstLines, List.mem_append, List.mem_cons, List.not_mem_nil, or_false, List.mem_map]
    at hline
  rcases hline with ((rfl | rfl) | ⟨verb, hmem, rfl⟩) | rfl
  · decide
  · exact startsWith_renamedLabel (by decide) (by decide) _
  · obtain ⟨hlength, htake⟩ := hverbs verb (hverb verb hmem)
    simp only [verbLine, Text.padRight, String.append_assoc]
    rw [← String.append_assoc]
    exact startsWith_renamedLabel hlength htake _
  · exact startsWith_renamedLabel (by decide) (by decide) _

/-- The figure is that of the routes that are taken for renamed ones. -/
theorem renamedFigure_eq {routes : List Route} (h : ∀ r ∈ routes, r.verb ∈ Verb.all) :
    renamedFigure routes = routes.countP isDisambiguated := by
  have hline (n : Nat) : Text.startsWith renamedLabel ("  Disambiguated:     " ++ countText n) = true := by
    rw [Text.startsWith, List.isPrefixOf_iff_prefix, String.toList_append]
    exact ⟨"     ".toList ++ (countText n).toList, by rw [← List.append_assoc]; rfl⟩
  rw [renamedFigure, summary_eq, List.find?_append,
    List.find?_eq_none.2 (not_startsWith_of_mem_firstLines h), Option.none_or]
  split
  next hnone => rw [hnone]; rfl
  next =>
    rw [List.find?_singleton, if_pos (hline _), Option.elim_some, figure_countText (by decide)]

/-! ### Renamed routes -/

section Records

variable {s : Settings} {records : List Record} {r : Record} {routes : List Route}

/-- The record's route does not have the helper of the record. -/
def IsRenamed (s : Settings) (records : List Record) (r : Record) : Prop :=
  (settledRoute s records r).helper ≠ r.helper.getD ""

instance (s : Settings) (records : List Record) : DecidablePred (IsRenamed s records) := fun r =>
  inferInstanceAs (Decidable ((settledRoute s records r).helper ≠ r.helper.getD ""))

/-- No other record that comes through has the path name that the helper of the record gives. -/
def IsAlone (s : Settings) (records : List Record) (r : Record) : Prop :=
  (survivors s records).countP (fun q =>
    s.naming.pathName (q.helper.getD "") == s.naming.pathName (r.helper.getD "")) = 1

instance (s : Settings) (records : List Record) : DecidablePred (IsAlone s records) := fun _ =>
  Nat.decEq _ _

/-- A helper ends in the action that the record gives, if it gives one. -/
def EndsInAction (r : Record) (helper : String) : Prop :=
  ∃ action ∈ r.action, action ≠ "" ∧ Text.endsWith ("_" ++ action) helper = true

instance (r : Record) (helper : String) : Decidable (EndsInAction r helper) :=
  inferInstanceAs (Decidable (∃ action ∈ r.action, action ≠ "" ∧
    Text.endsWith ("_" ++ action) helper = true))

/-- The routes that are taken for renamed ones are those whose helpers end in their actions. -/
theorem isDisambiguated_settledRoute :
    isDisambiguated (settledRoute s records r) = true ↔
      EndsInAction r (settledRoute s records r).helper := by
  have haction : (settledRoute s records r).action = r.action := rfl
  unfold isDisambiguated EndsInAction
  rw [haction]
  cases r.action with
  | none => simp
  | some action => simp

/-- Added words make a helper longer. -/
theorem helperWithAction_ne (r : Route) (scope : String) :
    helperWithAction r ≠ r.helper ∧ scope ++ "_" ++ helperWithAction r ≠ r.helper := by
  unfold helperWithAction
  constructor
  all_goals
    intro heq
    have hlength := congrArg String.length heq
    simp only [String.length_append] at hlength
    have hsep : "_".length = 1 := rfl
    omega

/-- **Renamed are the routes of shared names.** -/
theorem isRenamed_iff : IsRenamed s records r ↔ ¬ IsAlone s records r := by
  have hsharing : (survivors s records).countP (fun q =>
      s.naming.pathName (q.helper.getD "") == s.naming.pathName (r.helper.getD ""))
      = ((builtRoutes s records).filter fun q => q.name == (Route.ofRecord s.naming r).name).length := by
    rw [← List.countP_eq_length_filter, builtRoutes, List.countP_map]
    rfl
  rw [IsAlone, hsharing]
  show settledHelper s.naming (builtRoutes s records) (Route.ofRecord s.naming r) ≠ _ ↔ _
  obtain ⟨haction, hscope⟩ := helperWithAction_ne (Route.ofRecord s.naming r) (scopeToken r.path)
  rw [settledHelper]
  split
  next halone => exact iff_of_false (fun hne => hne rfl) fun hne => hne halone
  next hshared =>
    refine iff_of_true ?_ hshared
    split
    · exact haction
    · exact hscope

/-- A renamed route ends in the action that its record gives, if that is a word. -/
theorem endsInAction_of_isRenamed {action : String} (hrenamed : IsRenamed s records r)
    (haction : r.action = some action) (hword : wordToken action = action) (hne : action ≠ "") :
    EndsInAction r (settledRoute s records r).helper := by
  have hends (front : String) : Text.endsWith ("_" ++ action) (front ++ ("_" ++ action)) = true := by
    rw [Text.endsWith, List.isSuffixOf_iff_suffix]
    exact ⟨front.toList, by simp only [String.toList_append]⟩
  have hwith : helperWithAction (Route.ofRecord s.naming r) = r.helper.getD "" ++ ("_" ++ action) := by
    have hroute : (Route.ofRecord s.naming r).action = some action := haction
    rw [helperWithAction, hroute, Option.getD_some, hword, if_neg hne, String.append_assoc]
    rfl
  have hsettled := settledHelper_cases s.naming (builtRoutes s records) (Route.ofRecord s.naming r)
  rw [hwith] at hsettled
  refine ⟨action, haction, hne, ?_⟩
  show Text.endsWith _ (settledHelper s.naming (builtRoutes s records) (Route.ofRecord s.naming r)) = _
  rcases hsettled with hsettled | hsettled | hsettled
  · exact absurd hsettled hrenamed
  · rw [hsettled, hends]
  · rw [hsettled, ← String.append_assoc, hends]

/-! ### The figure -/

/-- Two counts are the same if as many are counted in one only as in the other only. -/
theorem countP_eq_countP_iff {α : Type} (p q : α → Prop) [DecidablePred p] [DecidablePred q]
    (xs : List α) :
    xs.countP p = xs.countP q ↔ (xs.countP fun x => p x ∧ ¬ q x) = xs.countP fun x => q x ∧ ¬ p x := by
  have hp := List.countP_eq_countP_filter_add xs p q
  have hq := List.countP_eq_countP_filter_add xs q p
  have hboth : (xs.countP fun x => decide (q x) && decide (p x))
      = xs.countP fun x => decide (p x) && decide (q x) :=
    List.countP_congr fun x _ => by rw [Bool.and_comm]
  simp only [List.countP_filter, hboth] at hp hq
  simp only [Bool.decide_and, decide_not]
  omega

theorem verb_of_mem_settledRoutes : ∀ q ∈ settledRoutes s records, q.verb ∈ Verb.all := by
  intro q hq
  obtain ⟨r, hr, rfl⟩ := List.mem_map.1 ((settledRoutes_perm_map s records).mem_iff.1 hq)
  exact (mem_survivors.1 hr).2.1.2.1

/-- The figure counts the records whose routes have helpers that end in the actions that they give. -/
theorem renamedFigure_settledRoutes (s : Settings) (records : List Record) :
    renamedFigure (settledRoutes s records) =
      (survivors s records).countP fun r => EndsInAction r (settledRoute s records r).helper := by
  rw [renamedFigure_eq verb_of_mem_settledRoutes, (settledRoutes_perm_map s records).countP_eq,
    List.countP_map]
  refine List.countP_congr fun r _ => ?_
  rw [Function.comp_apply, isDisambiguated_settledRoute, decide_eq_true_iff]

/-- **The number of renamed routes** in a summary is right just if as many records that are alone with
their names have helpers that end in their actions as records that share theirs are renamed without coming
to end in their actions. A record whose action is a word is never among the latter. -/
theorem renamedFigure_eq_iff (h : (ofEntries s (records.map .record)).outcome = .ok routes) :
    routes.Perm ((survivors s records).map (settledRoute s records)) ∧
    (renamedFigure routes = (survivors s records).countP (IsRenamed s records) ↔
      ((survivors s records).countP fun r =>
        EndsInAction r (r.helper.getD "") ∧ IsAlone s records r) =
      (survivors s records).countP fun r =>
        ¬ IsAlone s records r ∧ ¬ EndsInAction r (settledRoute s records r).helper) ∧
    ∀ r action, ¬ IsAlone s records r → r.action = some action → wordToken action = action →
      action ≠ "" → EndsInAction r (settledRoute s records r).helper := by
  obtain rfl := eq_settledRoutes_of_ok h
  refine ⟨settledRoutes_perm_map s records, ?_, fun r action halone =>
    endsInAction_of_isRenamed (isRenamed_iff.2 halone)⟩
  -- a route that is not renamed has the helper of its record
  have hkept (r : Record) : EndsInAction r (settledRoute s records r).helper ∧ ¬ IsRenamed s records r ↔
      EndsInAction r (r.helper.getD "") ∧ IsAlone s records r := by
    have halone : ¬ IsRenamed s records r ↔ IsAlone s records r := by rw [isRenamed_iff, not_not]
    rw [← halone]
    exact and_congr_left fun hkept => by rw [not_not.1 hkept]
  rw [renamedFigure_settledRoutes, countP_eq_countP_iff]
  simp only [hkept]
  simp only [isRenamed_iff]

/-- A list and an update that share a name, told apart by their actions. -/
theorem renamedFigure_eq_iff_usersTable :
    ∃ routes, (ofEntries Settings.default (usersTable.map .record)).outcome = .ok routes ∧
      routes.Perm ((survivors Settings.default usersTable).map
        (settledRoute Settings.default usersTable)) ∧
      (renamedFigure routes = (survivors Settings.default usersTable).countP
          (IsRenamed Settings.default usersTable) ↔
        ((survivors Settings.default usersTable).countP fun r =>
          EndsInAction r (r.helper.getD "") ∧ IsAlone Settings.default usersTable r) =
        (survivors Settings.default usersTable).countP fun r =>
          ¬ IsAlone Settings.default usersTable r ∧
            ¬ EndsInAction r (settledRoute Settings.default usersTable r).helper) := by
  obtain ⟨routes, h⟩ := Except.exists_eq_ok
    (x := (ofEntries Settings.default (usersTable.map .record)).outcome) (by decide +kernel)
  obtain ⟨hperm, hfigure, -⟩ := renamedFigure_eq_iff h
  exact ⟨routes, h, hperm, hfigure⟩

/-- A helper that ends in its action from the start. -/
def usersIndexTable : List Record :=
  [⟨"GET", "/users", some "users_index", some "index", false, []⟩]

/-- Its route is counted though nothing was renamed. -/
theorem renamedFigure_ne_usersIndexTable :
    ∃ routes, (ofEntries Settings.default (usersIndexTable.map .record)).outcome = .ok routes ∧
      routes ≠ [] ∧ renamedFigure routes = 1 ∧
      (survivors Settings.default usersIndexTable).countP
        (IsRenamed Settings.default usersIndexTable) = 0 := by
  obtain ⟨routes, h⟩ := Except.exists_eq_ok
    (x := (ofEntries Settings.default (usersIndexTable.map .record)).outcome) (by decide +kernel)
  obtain rfl := eq_settledRoutes_of_ok h
  have hne : (settledRoutes Settings.default usersIndexTable).isEmpty = false := by decide +kernel
  exact ⟨_, h, List.isEmpty_eq_false_iff.1 hne, by decide +kernel, by decide +kernel⟩

/-- **The figure is right** where each record gives a word as its action, and the name of a record whose
helper ends in its action is shared. -/
theorem renamedFigure_of_words
    (hwords : ∀ r ∈ survivors s records,
      ∃ action, r.action = some action ∧ wordToken action = action ∧ action ≠ "")
    (hshared : ∀ r ∈ survivors s records,
      EndsInAction r (r.helper.getD "") → ¬ IsAlone s records r) :
    renamedFigure (settledRoutes s records) =
      (survivors s records).countP (IsRenamed s records) := by
  rw [renamedFigure_settledRoutes]
  refine List.countP_congr fun r hr => ?_
  rw [decide_eq_true_iff, decide_eq_true_iff]
  obtain ⟨action, haction, hword, hne⟩ := hwords r hr
  refine ⟨fun hends => by_contra fun hkept => ?_,
    fun hrenamed => endsInAction_of_isRenamed hrenamed haction hword hne⟩
  rw [not_not.1 hkept] at hends
  exact hkept (isRenamed_iff.2 (hshared r hr hends))

end Records
end RouteHelpers.Report
