import RouteHelpers.Proofs.Console
import RouteHelpers.Proofs.Extract.Grouping
import RouteHelpers.Proofs.Text.Cutting
import RouteHelpers.Report

/-!
Reports that are printed.

The report about routes is a table with a summary. The styles in it are those of verbs and of optional
parameters, and of two words of the summary. So any console prints it where no bracket stands in what the
row of a route shows (`fault_print`).
-/

namespace RouteHelpers.Report

open Console (IsFront IsMarked isMarked_styled not_mem_append)

variable {c : Console}

/-- No text that the row of a route shows has an opening bracket. -/
def IsPlain (r : Route) : Prop :=
  ∀ text ∈ [r.name, r.path] ++ r.required ++ r.optional, '[' ∉ text.toList

/-! ### Rows -/

/-- Parameters are texts and texts in a style. -/
theorem isMarked_joinWith {ws : List String} (h : ∀ w ∈ ws, '[' ∉ w.toList ∨
    ∃ name, '[' ∉ name.toList ∧ w = Console.styled "dim" (name ++ "?")) :
    IsMarked c (Text.joinWith ", " ws) := by
  have hcomma : IsFront ", " := ⟨by decide, by decide⟩
  have hdim {name : String} (hname : '[' ∉ name.toList) : IsFront (name ++ "?") :=
    .append hname ⟨by decide, by decide⟩ (by decide)
  induction ws with
  | nil => exact .plain List.not_mem_nil
  | cons w ws ih =>
    obtain ⟨hw, hws⟩ := List.forall_mem_cons.1 h
    by_cases hnil : ws = []
    · subst hnil
      rcases hw with hw | ⟨name, hname, rfl⟩
      · exact .plain hw
      · exact isMarked_styled (by decide) (hdim hname)
    · rw [Text.joinWith_cons _ _ hnil]
      rcases hw with hw | ⟨name, hname, rfl⟩
      · -- behind a comma a tag may follow, whatever backslashes the text in front ends in
        exact .behind (.append hw hcomma (by decide)) (ih hws)
      · rw [String.append_assoc]
        exact .styled (by decide) (hdim hname) (.behind hcomma (ih hws))

theorem isMarked_parameterCell {r : Route} (h : IsPlain r) : IsMarked c (parameterCell r) := by
  have hrequired : ∀ name ∈ r.required, '[' ∉ name.toList := fun name hname =>
    h name (List.mem_append_left _ (List.mem_append_right _ hname))
  have hoptional : ∀ name ∈ r.optional, '[' ∉ name.toList := fun name hname =>
    h name (List.mem_append_right _ hname)
  unfold parameterCell
  dsimp only
  split
  · exact .plain (by decide)
  · refine isMarked_joinWith fun w hw => ?_
    rcases List.mem_append.1 hw with hw | hw
    · exact .inl (hrequired w hw)
    · obtain ⟨name, hname, rfl⟩ := List.mem_map.1 hw
      exact .inr ⟨name, hoptional name (List.mem_of_mem_filter hname), rfl⟩

/-- A verb is a word, and is shown in a style. -/
theorem isFront_verb {verb : String} (h : verb ∈ Verb.all) : IsFront verb := by
  have hall : ∀ verb ∈ Verb.all, '[' ∉ verb.toList ∧ verb.toList.getLast? ≠ some '\\' := by decide
  exact ⟨(hall verb h).1, (hall verb h).2⟩

theorem verbStyle_mem {verb : String} (h : verb ∈ Verb.all) : verbStyle verb ∈ Console.styles :=
  (by decide : ∀ verb ∈ Verb.all, verbStyle verb ∈ Console.styles) verb h

/-! ### Summary -/

/-- A character of no number. -/
abbrev IsApart (x : Char) : Prop :=
  x.isDigit = false ∧ x ≠ ' '

variable {x : Char}

theorem not_mem_toString (hx : IsApart x) (n : Nat) : x ∉ (toString n).toList := by
  intro hmem
  have hdigits : (toString n).toList = Nat.toDigits 10 n := by
    rw [Nat.toString_eq_repr, Nat.repr_eq_ofList_toDigits, String.toList_ofList]
  rw [hdigits] at hmem
  exact absurd (Nat.isDigit_of_mem_toDigits (by decide) (by decide) hmem) (by simp [hx.1])

theorem not_mem_repeated (hx : IsApart x) (n : Nat) : x ∉ (Text.repeated n " ").toList := by
  induction n with
  | zero => exact List.not_mem_nil
  | succ n ih =>
    rw [Text.repeated, String.toList_append]
    exact fun hmem => (List.mem_append.1 hmem).elim (fun h => hx.2 (List.mem_singleton.1 h)) ih

theorem not_mem_countText (hx : IsApart x) (n : Nat) : x ∉ (countText n).toList :=
  not_mem_append (not_mem_repeated hx _) (not_mem_toString hx n)

theorem not_mem_verbLine {verb : String} (h : '[' ∉ verb.toList) (total : Nat) (routes : List Route) :
    '[' ∉ (verbLine total routes verb).toList := by
  have hverb : '[' ∉ (Text.padRight 18 (verb ++ ":")).toList :=
    not_mem_append (not_mem_append h (by decide)) (not_mem_repeated (by decide) _)
  refine not_mem_append (not_mem_append (not_mem_append (not_mem_append (not_mem_append
    (not_mem_append ?_ hverb) ?_) (not_mem_countText (by decide) _)) ?_)
    (not_mem_toString (by decide) _)) ?_
  all_goals decide

/-- The lines of a summary are texts, but for the two words in a style. -/
theorem isMarked_summary {routes : List Route} (h : ∀ r ∈ routes, r.verb ∈ Verb.all) :
    ∀ line ∈ summaryIn Console.styled routes, IsMarked c line := by
  have hverbs : ∀ verb ∈ Text.sorted (Text.distinct (routes.map (·.verb))), '[' ∉ verb.toList := by
    intro verb hverb
    have hverb := Text.mem_distinct.1 (List.mem_mergeSort.1 hverb)
    obtain ⟨r, hr, rfl⟩ := List.mem_map.1 hverb
    exact (isFront_verb (h r hr)).no_bracket
  intro line hline
  simp only [summaryIn, List.mem_append, List.mem_cons, List.not_mem_nil, or_false, List.mem_map]
    at hline
  rcases hline with (((rfl | rfl) | ⟨verb, hverb, rfl⟩) | rfl) | hline
  · exact isMarked_styled (by decide) ⟨by decide, by decide⟩
  · exact .plain (not_mem_append (by decide) (not_mem_toString (by decide) _))
  · exact .plain (not_mem_verbLine (hverbs verb hverb) _ _)
  · exact .plain (not_mem_append (by decide) (not_mem_countText (by decide) _))
  · split at hline
    · cases hline
    · rw [List.mem_singleton.1 hline]
      have hcount {x : Char} (hlabel : x ∉ "Disambiguated:     ".toList) (hx : IsApart x) :
          x ∉ ("Disambiguated:     " ++ countText (routes.countP isDisambiguated)).toList :=
        not_mem_append hlabel (not_mem_countText hx _)
      exact .behind ⟨by decide, by decide⟩ (isMarked_styled (by decide)
        ⟨hcount (by decide) (by decide), fun h =>
          hcount (by decide) (by decide) (List.mem_of_getLast? h)⟩)

/-! ### The report -/

theorem fault_ofParts {parts : List (Except Console.Fault String)} (h : ∀ p ∈ parts, ∃ s, p = .ok s) :
    (Console.Output.ofParts parts).fault = none := by
  induction parts with
  | nil => rfl
  | cons p parts ih =>
    obtain ⟨⟨s, rfl⟩, hparts⟩ := List.forall_mem_cons.1 h
    exact ih hparts

/-- Routes whose rows are plain have a table of texts in styles. -/
theorem isMarked_table {routes : List Route} (hverbs : ∀ r ∈ routes, r.verb ∈ Verb.all)
    (h : ∀ r ∈ routes, IsPlain r) : (table routes).IsMarked c where
  title := .plain (by decide : '[' ∉ "Generated Route Helpers".toList)
  headers := by
    have hheaders : ∀ column ∈ Report.columns, '[' ∉ column.header.toList := by decide
    exact fun column hcolumn => .plain (hheaders column hcolumn)
  cells := by
    intro row hrow cell hcell
    obtain ⟨r, hr, rfl⟩ := List.mem_map.1 hrow
    simp only [Report.row, List.mem_cons, List.not_mem_nil, or_false] at hcell
    rcases hcell with rfl | rfl | rfl | rfl
    · exact .plain (h r hr r.name (by simp))
    · exact isMarked_styled (verbStyle_mem (hverbs r hr)) (isFront_verb (hverbs r hr))
    · exact .plain (h r hr r.path (by simp))
    · exact isMarked_parameterCell (h r hr)

/-- **The report** about routes whose rows are plain is printed without a fault. -/
theorem fault_print (hc : c.IsFaithful) {routes : List Route}
    (hverbs : ∀ r ∈ routes, r.verb ∈ Verb.all) (h : ∀ r ∈ routes, IsPlain r) :
    (print c routes).fault = none := by
  rw [print]
  refine fault_ofParts fun p hp => ?_
  split at hp
  · rw [List.mem_singleton.1 hp]
    exact hc.line _ (isMarked_styled (by decide) ⟨by decide, by decide⟩)
  · simp only [List.mem_append, List.mem_cons, List.not_mem_nil, or_false, List.mem_map] at hp
    rcases hp with ((rfl | rfl) | ⟨line, hmem, rfl⟩) | rfl
    · exact hc.table _ (isMarked_table hverbs h)
    · exact ⟨_, rfl⟩
    · exact hc.line _ (isMarked_summary hverbs line hmem)
    · exact ⟨_, rfl⟩

end RouteHelpers.Report
