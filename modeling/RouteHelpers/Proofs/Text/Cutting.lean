import Mathlib.Data.List.DropRight
import RouteHelpers.Text.Basic
import RouteHelpers.Text.Lines

/-!
Cutting a text at a separator, or off its end: what the parts are.

The two cuts are inverted: `cutList` finds the parts of a list that is written as its parts with the
separator between them, and `cutFinalNewline` removes a line feed that was put at the end. Splitting
is inverted by joining: `split_joinWith` finds the texts again that were joined.
-/

namespace RouteHelpers.Text

variable {sep : Char} {cs before after : List Char}

/-! ### The first separator -/

theorem cutList_of_not_mem (h : sep ∉ cs) : cutList sep cs = (cs, none) := by
  induction cs with
  | nil => rfl
  | cons c rest ih =>
    rw [List.mem_cons, not_or] at h
    rw [cutList, if_neg (fun e => h.1 e.symm), ih h.2]

theorem cutList_append (h : sep ∉ before) (after : List Char) :
    cutList sep (before ++ sep :: after) = (before, some after) := by
  induction before with
  | nil => simp [cutList]
  | cons c rest ih =>
    rw [List.mem_cons, not_or] at h
    rw [List.cons_append, cutList, if_neg (fun e => h.1 e.symm), ih h.2]

theorem cutList_fst_isPrefix (sep : Char) (cs : List Char) : (cutList sep cs).1 <+: cs := by
  induction cs with
  | nil => exact List.nil_prefix
  | cons c rest ih =>
    rw [cutList]
    split
    · exact List.nil_prefix
    · exact List.prefix_cons_inj c |>.2 ih

/-- A list is cut where its first separator stands. -/
theorem cutList_eq_some_iff :
    cutList sep cs = (before, some after) ↔ cs = before ++ sep :: after ∧ sep ∉ before := by
  constructor
  · intro h
    by_cases hs : sep ∈ cs
    · obtain ⟨a, b, rfl, ha⟩ := List.eq_append_cons_of_mem hs
      rw [cutList_append ha] at h
      obtain ⟨rfl, e⟩ := Prod.mk.inj h
      obtain rfl := Option.some.inj e
      exact ⟨rfl, ha⟩
    · rw [cutList_of_not_mem hs] at h
      exact absurd (Prod.mk.inj h).2 (by simp)
  · rintro ⟨rfl, h⟩
    exact cutList_append h after

/-! ### The final line feed -/

theorem cutFinalNewline_append_newline (cs : List Char) :
    cutFinalNewline (cs ++ ['\n']) = (cs, ['\n']) := by
  simp [cutFinalNewline]

theorem cutFinalNewline_of_ne {c : Char} (h : c ≠ '\n') (cs : List Char) :
    cutFinalNewline (cs ++ [c]) = (cs ++ [c], []) := by
  simp [cutFinalNewline, h]

/-- What is cut off is a single line feed or nothing. -/
theorem cutFinalNewline_snd (cs : List Char) :
    (cutFinalNewline cs).2 = [] ∨ (cutFinalNewline cs).2 = ['\n'] := by
  unfold cutFinalNewline
  split
  · exact .inr rfl
  · exact .inl rfl

/-! ### Dropped ends -/

/-- What is dropped at the end of a list may be all of its last part, and then goes on before that. -/
theorem dropEndList_append (p : Char → Bool) (xs ys : List Char) :
    dropEndList p (xs ++ ys) = if ys.all p then dropEndList p xs else xs ++ dropEndList p ys := by
  unfold dropEndList
  rw [List.reverse_append, List.dropWhile_append]
  by_cases h : ys.all p = true
  · have hnil : ys.reverse.dropWhile p = [] := by simpa using h
    simp [h, hnil]
  · have hne : ys.reverse.dropWhile p ≠ [] := by simpa using h
    simp [h, hne]

theorem dropEndList_cons_of_neg {p : Char → Bool} {c : Char} (h : p c = false) (rest : List Char) :
    dropEndList p (c :: rest) = c :: dropEndList p rest := by
  have hsplit := dropEndList_append p [c] rest
  rw [List.singleton_append] at hsplit
  rw [hsplit]
  split
  next hall =>
    -- the element is the last one that is kept
    have hnil : dropEndList p rest = [] :=
      List.rdropWhile_eq_nil_iff.2 fun d hd => List.all_eq_true.1 hall d hd
    rw [hnil]
    simp [dropEndList, h]
  next => rfl

theorem dropEndList_isPrefix (p : Char → Bool) (cs : List Char) : dropEndList p cs <+: cs :=
  List.rdropWhile_prefix p cs

theorem getLast?_dropEndList {p : Char → Bool} {c : Char}
    (h : (dropEndList p cs).getLast? = some c) : p c = false := by
  rw [dropEndList, List.getLast?_reverse] at h
  have hfirst := List.head?_dropWhile_not p cs.reverse
  rw [h] at hfirst
  exact hfirst

theorem dropEndList_of_getLast? {p : Char → Bool} {c : Char} (h : cs.getLast? = some c)
    (hc : p c = false) : dropEndList p cs = cs := by
  obtain ⟨start, rfl⟩ := List.getLast?_eq_some_iff.1 h
  have hnot : ¬ [c].all p = true := by simp [hc]
  rw [dropEndList_append, if_neg hnot, dropEndList_cons_of_neg hc]
  rfl

/-- What is put around a list is taken off again, if the list ends in other elements on both sides. -/
theorem stripList_append {p : Char → Bool} {first last : Char} (hbefore : ∀ c ∈ before, p c = true)
    (hafter : ∀ c ∈ after, p c = true) (hfirst : cs.head? = some first) (hf : p first = false)
    (hlast : cs.getLast? = some last) (hl : p last = false) :
    stripList p (before ++ (cs ++ after)) = cs := by
  have hstart : (cs ++ after).dropWhile p = cs ++ after := by
    obtain ⟨rest, rfl⟩ := List.head?_eq_some_iff.1 hfirst
    rw [List.cons_append, List.dropWhile_cons_of_neg (by simp [hf])]
  rw [stripList, List.dropWhile_append_of_pos hbefore, hstart, dropEndList_append,
    if_pos (List.all_eq_true.2 hafter), dropEndList_of_getLast? hlast hl]

/-- A text that ends in characters of no class on both sides is not cut. -/
theorem strip_eq_self {p : Char → Bool} {s : String} {first last : Char}
    (hfirst : s.toList.head? = some first) (hf : p first = false)
    (hlast : s.toList.getLast? = some last) (hl : p last = false) : strip p s = s := by
  have hnone : ∀ c ∈ ([] : List Char), p c = true := fun _ h => absurd h List.not_mem_nil
  have hkept := stripList_append hnone hnone hfirst hf hlast hl
  rw [List.nil_append, List.append_nil] at hkept
  rw [strip, hkept, String.ofList_toList]

theorem stripList_isInfix (p : Char → Bool) (cs : List Char) : stripList p cs <:+: cs :=
  (dropEndList_isPrefix p _).isInfix.trans (List.dropWhile_suffix p).isInfix

theorem head?_stripList {p : Char → Bool} {c : Char} (h : (stripList p cs).head? = some c) :
    p c = false := by
  obtain ⟨rest, hrest⟩ := dropEndList_isPrefix p (cs.dropWhile p)
  have hfirst := List.head?_dropWhile_not p cs
  rw [← hrest, List.head?_append, show (dropEndList p _).head? = some c from h] at hfirst
  exact hfirst

/-- Nothing is left of a list only if all of it is of the class. -/
theorem all_of_stripList_eq_nil {p : Char → Bool} (h : stripList p cs = []) : cs.all p = true := by
  have hrest : ∀ c ∈ cs.dropWhile p, p c = true := List.rdropWhile_eq_nil_iff.1 h
  refine List.all_eq_true.2 fun c hc => ?_
  rw [← List.takeWhile_append_dropWhile (p := p) (l := cs)] at hc
  exact (List.mem_append.1 hc).elim List.mem_takeWhile_imp (hrest c)

/-! ### All separators -/

/-- Splitting goes separator by separator. -/
theorem splitList_append_sep (sep : Char) (before after : List Char) :
    splitList sep (before ++ sep :: after) = splitList sep before ++ splitList sep after := by
  induction before with
  | nil =>
    rcases h : splitList sep after with - | ⟨piece, pieces⟩
    · exact absurd h (splitList_ne_nil sep after)
    · simp [splitList, h]
  | cons c rest ih =>
    rw [List.cons_append, splitList, splitList, ih]
    rcases h : splitList sep rest with - | ⟨piece, pieces⟩
    · exact absurd h (splitList_ne_nil sep rest)
    · by_cases hc : c = sep <;> simp [hc]

theorem splitList_of_not_mem (h : sep ∉ cs) : splitList sep cs = [cs] := by
  induction cs with
  | nil => rfl
  | cons c rest ih =>
    rw [List.mem_cons, not_or] at h
    rw [splitList, ih h.2]
    exact if_neg fun e => h.1 e.symm

/-- The characters of a piece are characters of the list. -/
theorem mem_of_mem_splitList {piece : List Char} (h : piece ∈ splitList sep cs) {c : Char}
    (hc : c ∈ piece) : c ∈ cs := by
  induction cs generalizing piece with
  | nil =>
    rw [splitList, List.mem_singleton] at h
    exact h ▸ hc
  | cons d rest ih =>
    unfold splitList at h
    split at h
    next h' => exact absurd h' (splitList_ne_nil sep rest)
    next first pieces h' =>
      have hrest : ∀ p ∈ first :: pieces, c ∈ p → c ∈ rest := fun p hp hcp => ih (h' ▸ hp) hcp
      rw [List.forall_mem_cons] at hrest
      split at h
      next =>
        -- a separator stands in front: an empty piece more, and the others are those of the rest
        rcases List.mem_cons.1 h with rfl | h
        · cases hc
        · exact List.mem_cons_of_mem d (ih (h' ▸ h) hc)
      next =>
        rcases List.mem_cons.1 h with rfl | h
        · exact (List.mem_cons.1 hc).elim (fun e => e ▸ List.mem_cons_self)
            fun hc => List.mem_cons_of_mem d (hrest.1 hc)
        · exact List.mem_cons_of_mem d (hrest.2 piece h hc)

/-- Pieces are empty where there are only separators. -/
theorem forall_mem_splitList_eq_nil_iff :
    (∀ piece ∈ splitList sep cs, piece = []) ↔ ∀ c ∈ cs, c = sep := by
  induction cs with
  | nil => simp [splitList]
  | cons c rest ih =>
    rw [List.forall_mem_cons, ← ih]
    rcases h : splitList sep rest with - | ⟨piece, pieces⟩
    · exact absurd h (splitList_ne_nil sep rest)
    · by_cases hc : c = sep <;> simp [splitList, h, hc]

/-- What holds no separator goes to the last piece. -/
theorem exists_splitList_append (sep : Char) (cs : List Char) :
    ∃ front last, splitList sep cs = front ++ [last] ∧
      ∀ ending, sep ∉ ending → splitList sep (cs ++ ending) = front ++ [last ++ ending] := by
  induction cs with
  | nil => exact ⟨[], [], rfl, fun ending h => splitList_of_not_mem h⟩
  | cons c rest ih =>
    obtain ⟨front, last, hrest, hending⟩ := ih
    -- the last piece of the rest stays the last, but grows in front if it is the only one
    by_cases hc : c = sep
    · refine ⟨[] :: front, last, ?_, fun ending h => ?_⟩
      · rw [splitList, hrest]
        cases front <;> simp [hc]
      · rw [List.cons_append, splitList, hending ending h]
        cases front <;> simp [hc]
    · cases front with
      | nil =>
        refine ⟨[], c :: last, ?_, fun ending h => ?_⟩
        · simp [splitList, hrest, hc]
        · simp [splitList, hending ending h, hc]
      | cons piece front =>
        refine ⟨(c :: piece) :: front, last, ?_, fun ending h => ?_⟩
        · simp [splitList, hrest, hc]
        · simp [splitList, hending ending h, hc]

/-! ### Starts of longer texts -/

/-- What is put behind a text does not give it a start, unless that goes on with its first character. -/
theorem startsWith_append {start ending : String} {c : Char} {rest : List Char}
    (hending : ending.toList = c :: rest) (hc : c ∉ start.toList) (s : String) :
    startsWith start (s ++ ending) = startsWith start s := by
  rw [Bool.eq_iff_iff, startsWith, startsWith, List.isPrefixOf_iff_prefix, List.isPrefixOf_iff_prefix,
    String.toList_append]
  refine ⟨fun h => ?_, fun h => h.trans (List.prefix_append _ _)⟩
  rcases List.prefix_or_prefix_of_prefix h (List.prefix_append s.toList ending.toList) with h' | h'
  · exact h'
  · -- what the start has beyond the text starts like the ending
    obtain ⟨more, hmore⟩ := h'
    rw [← hmore, List.prefix_append_right_inj, hending] at h
    cases more with
    | nil =>
      rw [List.append_nil] at hmore
      exact hmore ▸ List.prefix_refl _
    | cons d more =>
      obtain ⟨rfl, -⟩ := List.cons_prefix_cons.1 h
      exact absurd (hmore ▸ List.mem_append_right _ List.mem_cons_self) hc

theorem afterStart?_append {start ending : String} {c : Char} {rest : List Char}
    (hending : ending.toList = c :: rest) (hc : c ∉ start.toList) (s : String) :
    afterStart? start (s ++ ending) = (afterStart? start s).map (· ++ ending) := by
  rw [afterStart?, afterStart?, startsWith_append hending hc]
  split
  next hstart =>
    have hle : start.length ≤ s.toList.length := by
      rw [← String.length_toList]
      exact (List.isPrefixOf_iff_prefix.1 hstart).length_le
    refine congrArg some (String.toList_injective ?_)
    rw [String.toList_ofList, String.toList_append, String.toList_append, String.toList_ofList,
      List.drop_append_of_le_length hle]
  next => rfl

/-- What is put behind a start follows it. -/
theorem afterStart?_start (start s : String) : afterStart? start (start ++ s) = some s := by
  have hprefix : startsWith start (start ++ s) = true := by
    rw [startsWith, List.isPrefixOf_iff_prefix, String.toList_append]
    exact List.prefix_append _ _
  rw [afterStart?, if_pos hprefix, String.toList_append, ← String.length_toList, List.drop_left,
    String.ofList_toList]

/-! ### Joined texts -/

theorem split_append_sep (sep : Char) (before after : String) :
    split sep (before ++ String.singleton sep ++ after) = split sep before ++ split sep after := by
  simp only [split, String.toList_append, String.toList_singleton, List.append_assoc,
    List.singleton_append, splitList_append_sep, List.map_append]

theorem split_of_not_mem {s : String} (h : sep ∉ s.toList) : split sep s = [s] := by
  rw [split, splitList_of_not_mem h, List.map_singleton, String.ofList_toList]

/-- Texts without the separator are the pieces of the text they are joined to. -/
theorem split_joinWith {ws : List String} (hne : ws ≠ []) (h : ∀ w ∈ ws, sep ∉ w.toList) :
    split sep (joinWith (String.singleton sep) ws) = ws := by
  induction ws with
  | nil => exact absurd rfl hne
  | cons w rest ih =>
    have hw : split sep w = [w] := split_of_not_mem (h w List.mem_cons_self)
    cases rest with
    | nil => exact hw
    | cons v rest =>
      rw [joinWith, split_append_sep, hw,
        ih (List.cons_ne_nil v rest) fun u hu => h u (List.mem_cons_of_mem w hu)]
      rfl

/-- What is put behind joined texts is put behind the last of them. -/
theorem joinWith_concat_append (sep : String) (ws : List String) (w ending : String) :
    joinWith sep (ws ++ [w]) ++ ending = joinWith sep (ws ++ [w ++ ending]) := by
  induction ws with
  | nil => rfl
  | cons v ws ih =>
    cases ws with
    | nil => simp only [List.cons_append, List.nil_append, joinWith, String.append_assoc]
    | cons u ws =>
      rw [List.cons_append, List.cons_append, joinWith, String.append_assoc, ← List.cons_append, ih]
      rfl

/-- A text in front of others comes with a separator. -/
theorem joinWith_cons (sep w : String) {ws : List String} (hne : ws ≠ []) :
    joinWith sep (w :: ws) = w ++ sep ++ joinWith sep ws := by
  cases ws with
  | nil => exact absurd rfl hne
  | cons v ws => rfl

/-- What is put in front of joined texts is put in front of the first of them. -/
theorem append_joinWith_cons (sep start w : String) (ws : List String) :
    start ++ joinWith sep (w :: ws) = joinWith sep ((start ++ w) :: ws) := by
  cases ws with
  | nil => rfl
  | cons v ws => simp only [joinWith, String.append_assoc]

/-- The last ones of several texts may be joined first. -/
theorem joinWith_append (sep : String) (ws : List String) {vs : List String} (hne : vs ≠ []) :
    joinWith sep (ws ++ vs) = joinWith sep (ws ++ [joinWith sep vs]) := by
  induction ws with
  | nil => rfl
  | cons w ws ih =>
    rw [List.cons_append, List.cons_append, joinWith_cons _ _ (List.append_ne_nil_of_right_ne_nil _ hne),
      joinWith_cons _ _ (List.append_ne_nil_of_right_ne_nil _ (List.cons_ne_nil _ _)), ih]

/-- A text joined to others comes behind them and a separator. -/
theorem joinWith_concat (sep : String) {ws : List String} (hne : ws ≠ []) (w : String) :
    joinWith sep (ws ++ [w]) = joinWith sep ws ++ sep ++ w := by
  induction ws with
  | nil => exact absurd rfl hne
  | cons v ws ih =>
    cases ws with
    | nil => rfl
    | cons u ws =>
      rw [List.cons_append, List.cons_append, joinWith, ← List.cons_append,
        ih (List.cons_ne_nil u ws), joinWith]
      simp only [String.append_assoc]

/-- Joined texts behind others come behind a separator. -/
theorem joinWith_append_append (sep : String) {ws vs : List String} (hws : ws ≠ []) (hvs : vs ≠ []) :
    joinWith sep (ws ++ vs) = joinWith sep ws ++ sep ++ joinWith sep vs := by
  rw [joinWith_append _ _ hvs, joinWith_concat _ hws]

/-- The characters of joined texts are those of the texts and of the separator. -/
theorem mem_joinWith {sep : String} {ws : List String} {c : Char}
    (h : c ∈ (joinWith sep ws).toList) : c ∈ sep.toList ∨ ∃ w ∈ ws, c ∈ w.toList := by
  induction ws with
  | nil => exact absurd h (by simp [joinWith])
  | cons w ws ih =>
    by_cases hnil : ws = []
    · rw [hnil] at h
      exact .inr ⟨w, List.mem_cons_self, h⟩
    · rw [joinWith_cons _ _ hnil] at h
      simp only [String.toList_append, List.mem_append] at h
      rcases h with (h | h) | h
      · exact .inr ⟨w, List.mem_cons_self, h⟩
      · exact .inl h
      · exact (ih h).imp_right fun ⟨v, hv, hc⟩ => ⟨v, List.mem_cons_of_mem w hv, hc⟩

end RouteHelpers.Text
