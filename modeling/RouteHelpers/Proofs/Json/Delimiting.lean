import RouteHelpers.Path.Tree
import RouteHelpers.Proofs.Script.Writing

/-!
JSON texts that tell where they end.

The tree of a path consists of texts and lists, and so does its JSON text: quotes and brackets. Each of
them is closed by a character that cannot be taken for a part of it, as characters inside a text that
could be are written as escapes. So of two JSON texts with anything behind them that are the same, both
the values and what is behind them are the same:

    textOf v ++ xs = textOf w ++ ys → v = w ∧ xs = ys

The same holds one level down, of the characters inside a text, and it holds of a row of parts if it holds
of each part and the row is closed by a character that no part starts with (`flatMap_append_inj`). The
induction goes up from the characters to the texts and from there to lists of any depth. With nothing
behind them this says that segments can be told from the JSON text of their tree (`write_nodes_eq_iff`).
-/

namespace RouteHelpers

namespace Json

/-- Rows of parts, closed by a character that no part starts with: where the parts tell where they end,
the rows do. -/
theorem flatMap_append_inj {α : Type} {P : α → Prop} {f : α → List Char} {stop : Char}
    {as bs : List α} (has : ∀ a ∈ as, P a) (hbs : ∀ b ∈ bs, P b)
    (hstart : ∀ a, P a → ∃ c rest, f a = c :: rest ∧ c ≠ stop)
    (hf : ∀ a ∈ as, ∀ b, P b → ∀ xs ys, f a ++ xs = f b ++ ys → a = b ∧ xs = ys)
    {xs ys : List Char} (h : as.flatMap f ++ stop :: xs = bs.flatMap f ++ stop :: ys) :
    as = bs ∧ xs = ys := by
  -- a row that is at its end goes on with the closing character, and a part with another
  have hends {a : α} (ha : P a) (more zs : List Char) : f a ++ more ≠ stop :: zs := by
    obtain ⟨c, rest, hc, hne⟩ := hstart a ha
    rw [hc]
    exact fun heq => hne (List.cons.inj heq).1
  induction as generalizing bs with
  | nil =>
    cases bs with
    | nil => exact ⟨rfl, (List.cons.inj h).2⟩
    | cons b bs =>
      rw [List.flatMap_cons, List.append_assoc] at h
      exact absurd h.symm (hends (hbs b List.mem_cons_self) _ _)
  | cons a as ih =>
    obtain ⟨ha, hrest⟩ := List.forall_mem_cons.1 has
    obtain ⟨hfa, hfrest⟩ := List.forall_mem_cons.1 hf
    cases bs with
    | nil =>
      rw [List.flatMap_cons, List.append_assoc] at h
      exact absurd h (hends ha _ _)
    | cons b bs =>
      obtain ⟨hb, hbrest⟩ := List.forall_mem_cons.1 hbs
      rw [List.flatMap_cons, List.flatMap_cons, List.append_assoc, List.append_assoc] at h
      obtain ⟨hfirst, h⟩ := hfa b hb _ _ h
      obtain ⟨hmore, hxs⟩ := ih hrest hbrest hfrest h
      exact ⟨by rw [hfirst, hmore], hxs⟩

/-! ### Texts -/

/-- The characters that are written as escapes. -/
def escaped : List Char :=
  '"' :: '\\' :: (List.range 0x20).map Char.ofNat

/-- Any other character is written as it is. -/
theorem writeChar_of_not_mem {c : Char} (h : c ∉ escaped) : writeChar .full c = [c] := by
  have hcontrol : ¬c.toNat < 0x20 := fun hlt => by
    refine h (List.mem_cons_of_mem _ (List.mem_cons_of_mem _ ?_))
    exact List.mem_map.2 ⟨c.toNat, List.mem_range.2 hlt, Char.ofNat_toNat c⟩
  have hother {d : Char} (hd : d ∈ escaped) : c ≠ d := fun heq => h (heq ▸ hd)
  rw [writeChar, if_neg (hother (by decide)), if_neg (hother (by decide)),
    if_neg (hother (by decide)), if_neg (hother (by decide)), if_neg (hother (by decide)),
    if_neg (hother (by decide)), if_neg (hother (by decide)), if_neg hcontrol]
  rfl

/-- No escape is the start of another. -/
theorem eq_of_escape_isPrefix {c d : Char} (hc : c ∈ escaped) (hd : d ∈ escaped)
    (h : writeChar .full c <+: writeChar .full d) : c = d := by
  have hall : escaped.all (fun c => escaped.all fun d =>
      decide (writeChar .full c <+: writeChar .full d → c = d)) = true := by
    decide +kernel
  exact of_decide_eq_true (List.all_eq_true.1 (List.all_eq_true.1 hall c hc) d hd) h

/-- Escapes start with a backslash, and nothing else does. -/
theorem head?_writeChar (c : Char) :
    (writeChar .full c).head? = some (if c ∈ escaped then '\\' else c) := by
  have hescape : escaped.all (fun c => decide ((writeChar .full c).head? = some '\\')) = true := by
    decide +kernel
  by_cases hc : c ∈ escaped
  · rw [if_pos hc, of_decide_eq_true (List.all_eq_true.1 hescape c hc)]
  · rw [if_neg hc, writeChar_of_not_mem hc, List.head?_cons]

/-- **What a character is written as** tells where it ends. -/
theorem writeChar_append_inj {c d : Char} {xs ys : List Char}
    (h : writeChar .full c ++ xs = writeChar .full d ++ ys) : c = d ∧ xs = ys := by
  have hbackslash : '\\' ∈ escaped := by decide
  have hheads := congrArg List.head? h
  rw [List.head?_append, List.head?_append, head?_writeChar, head?_writeChar, Option.some_or,
    Option.some_or, Option.some_inj] at hheads
  suffices hcd : c = d by
    subst hcd
    exact ⟨rfl, List.append_cancel_left h⟩
  -- the first characters agree, so both are escapes, of which one starts the other, or both are not
  by_cases hc : c ∈ escaped
  · by_cases hd : d ∈ escaped
    · rcases List.prefix_or_prefix_of_prefix (List.prefix_append _ xs)
        (h ▸ List.prefix_append _ ys) with hprefix | hprefix
      · exact eq_of_escape_isPrefix hc hd hprefix
      · exact (eq_of_escape_isPrefix hd hc hprefix).symm
    · rw [if_pos hc, if_neg hd] at hheads
      exact absurd (hheads ▸ hbackslash) hd
  · by_cases hd : d ∈ escaped
    · rw [if_neg hc, if_pos hd] at hheads
      exact absurd (hheads ▸ hbackslash) hc
    · rw [if_neg hc, if_neg hd] at hheads
      exact hheads

theorem toList_writeText (s : String) :
    (writeText .full s).toList = '"' :: (s.toList.flatMap (writeChar .full) ++ ['"']) := by
  rw [writeText, String.toList_ofList, List.cons_append]

/-- **What a text is written as** tells where it ends. -/
theorem writeText_append_inj {s t : String} {xs ys : List Char}
    (h : (writeText .full s).toList ++ xs = (writeText .full t).toList ++ ys) : s = t ∧ xs = ys := by
  have hquote : '"' ∈ escaped := by decide
  have hstart (c : Char) : ∃ d rest, writeChar .full c = d :: rest ∧ d ≠ '"' := by
    obtain ⟨rest, hrest⟩ := List.head?_eq_some_iff.1 (head?_writeChar c)
    refine ⟨_, rest, hrest, ?_⟩
    split
    · decide
    next hc => exact fun heq => hc (heq ▸ hquote)
  rw [toList_writeText, toList_writeText, List.cons_append, List.cons_append, List.append_assoc,
    List.append_assoc] at h
  obtain ⟨hst, hxs⟩ := flatMap_append_inj (P := fun _ => True) (fun _ _ => trivial)
    (fun _ _ => trivial) (fun c _ => hstart c) (fun c _ d _ xs ys h => writeChar_append_inj h)
    (List.cons.inj h).2
  exact ⟨String.toList_inj.1 hst, hxs⟩

/-! ### Lists -/

/-- A value consists of texts and lists. -/
inductive IsTextTree : Value → Prop
  | text (s : String) : IsTextTree (.text s)
  | list {items : List Value} : (∀ v ∈ items, IsTextTree v) → IsTextTree (.list items)

theorem IsTextTree.isWritable {v : Value} (h : IsTextTree v) : IsWritable v := by
  induction h with
  | text s => exact isWritable_text s
  | list _ ih => exact isWritable_list ih

/-- The JSON text of a value; nothing if it has none. -/
def textOf (v : Value) : String :=
  (write .full v).toOption.getD ""

theorem write_eq_textOf {v : Value} (h : IsWritable v) : write .full v = .ok (textOf v) := by
  obtain ⟨t, ht⟩ := h
  rw [textOf, ht]
  rfl

theorem writeItems_eq {items : List Value} (h : ∀ v ∈ items, IsWritable v) :
    writeItems .full items = .ok (items.map textOf) := by
  induction items with
  | nil => rw [writeItems, List.map_nil]
  | cons v items ih =>
    obtain ⟨hv, hitems⟩ := List.forall_mem_cons.1 h
    rw [writeItems, write_eq_textOf hv, ih hitems]
    rfl

theorem textOf_list {items : List Value} (h : ∀ v ∈ items, IsWritable v) :
    textOf (.list items) = "[" ++ Text.joinWith "," (items.map textOf) ++ "]" := by
  rw [textOf, write, writeItems_eq h]
  rfl

theorem toList_joinWith_comma (w : String) (ws : List String) :
    (Text.joinWith "," (w :: ws)).toList = w.toList ++ ws.flatMap fun v => ',' :: v.toList := by
  induction ws generalizing w with
  | nil => rw [Text.joinWith, List.flatMap_nil, List.append_nil]
  | cons v ws ih =>
    rw [Text.joinWith, String.toList_append, String.toList_append, ih, List.flatMap_cons,
      List.append_assoc]
    rfl

/-- The elements of a list behind the first are a row of parts that start with a comma. -/
theorem toList_textOf_cons {v : Value} {rest : List Value} (h : ∀ w ∈ v :: rest, IsWritable w) :
    (textOf (.list (v :: rest))).toList = '[' ::
      ((textOf v).toList ++ (rest.flatMap (fun w => ',' :: (textOf w).toList) ++ [']'])) := by
  rw [textOf_list h, List.map_cons, String.toList_append, String.toList_append,
    toList_joinWith_comma, List.flatMap_map, List.append_assoc, List.append_assoc]
  rfl

theorem toList_textOf_nil : (textOf (.list [])).toList = ['[', ']'] := by
  rw [textOf_list fun v hv => absurd hv List.not_mem_nil]
  rfl

/-- What the text of a tree starts with. -/
def opening : Value → Char
  | .text _ => '"'
  | _ => '['

theorem head?_textOf {v : Value} (h : IsTextTree v) :
    (textOf v).toList.head? = some (opening v) := by
  cases h with
  | text s => exact congrArg List.head? (toList_writeText s)
  | @list items hitems =>
    cases items with
    | nil => exact congrArg List.head? toList_textOf_nil
    | cons v rest =>
      exact congrArg List.head? (toList_textOf_cons fun w hw => (hitems w hw).isWritable)

/-- Elements of lists that tell where they end make lists that do. -/
theorem textOf_list_append_inj {items items' : List Value} (hitems : ∀ v ∈ items, IsTextTree v)
    (hitems' : ∀ v ∈ items', IsTextTree v)
    (hinj : ∀ v ∈ items, ∀ w, IsTextTree w → ∀ xs ys,
      (textOf v).toList ++ xs = (textOf w).toList ++ ys → v = w ∧ xs = ys)
    {xs ys : List Char} (h : (textOf (.list items)).toList ++ xs = (textOf (.list items')).toList ++ ys) :
    items = items' ∧ xs = ys := by
  -- an empty list is closed where the first element of another one stands
  have hfirst {v : Value} (hv : IsTextTree v) (more zs : List Char) :
      (textOf v).toList ++ more ≠ ']' :: zs := by
    intro heq
    have hheads := congrArg List.head? heq
    rw [List.head?_append, head?_textOf hv, Option.some_or, List.head?_cons, Option.some_inj] at hheads
    cases hv <;> exact absurd hheads (by simp [opening])
  cases items with
  | nil =>
    cases items' with
    | nil => exact ⟨rfl, List.append_cancel_left h⟩
    | cons w rest' =>
      rw [toList_textOf_nil, toList_textOf_cons fun v hv => (hitems' v hv).isWritable] at h
      simp only [List.cons_append, List.append_assoc] at h
      exact absurd (List.cons.inj h).2.symm (hfirst (hitems' w List.mem_cons_self) _ _)
  | cons v rest =>
    cases items' with
    | nil =>
      rw [toList_textOf_nil, toList_textOf_cons fun v hv => (hitems v hv).isWritable] at h
      simp only [List.cons_append, List.append_assoc] at h
      exact absurd (List.cons.inj h).2 (hfirst (hitems v List.mem_cons_self) _ _)
    | cons w rest' =>
      rw [toList_textOf_cons fun v hv => (hitems v hv).isWritable,
        toList_textOf_cons fun v hv => (hitems' v hv).isWritable] at h
      -- with a comma in front of the first elements as well, both lists are rows of parts
      have hrows : (v :: rest).flatMap (fun u => ',' :: (textOf u).toList) ++ ']' :: xs
          = (w :: rest').flatMap (fun u => ',' :: (textOf u).toList) ++ ']' :: ys := by
        simpa using h
      refine flatMap_append_inj hitems hitems' (fun u _ => ⟨',', _, rfl, by decide⟩) ?_ hrows
      exact fun u hu u' hu' xs ys heq => hinj u hu u' hu' xs ys (List.cons.inj heq).2

/-- **What a tree is written as** tells where it ends. -/
theorem textOf_append_inj {v w : Value} (hv : IsTextTree v) (hw : IsTextTree w) {xs ys : List Char}
    (h : (textOf v).toList ++ xs = (textOf w).toList ++ ys) : v = w ∧ xs = ys := by
  -- a quote and a bracket tell texts from lists, and inside lists it is one level less
  have hopening {v w : Value} {xs ys : List Char} (hv : IsTextTree v) (hw : IsTextTree w)
      (h : (textOf v).toList ++ xs = (textOf w).toList ++ ys) : opening v = opening w := by
    have hheads := congrArg List.head? h
    rw [List.head?_append, List.head?_append, head?_textOf hv, head?_textOf hw] at hheads
    exact Option.some.inj hheads
  induction hv generalizing w xs ys with
  | text s =>
    cases hw with
    | text t =>
      obtain ⟨rfl, hxs⟩ := writeText_append_inj h
      exact ⟨rfl, hxs⟩
    | list hitems => exact absurd (hopening (.text s) (.list hitems) h) (by simp [opening])
  | @list items hitems ih =>
    cases hw with
    | text t => exact absurd (hopening (.list hitems) (.text t) h) (by simp [opening])
    | list hitems' =>
      obtain ⟨rfl, hxs⟩ := textOf_list_append_inj hitems hitems'
        (fun v hv w hw xs ys h => ih v hv hw h) h
      exact ⟨rfl, hxs⟩

end Json

namespace Path

mutual

theorem isTextTree_node : ∀ s : Segment, Json.IsTextTree (node s)
  | .literal s => by
    rw [node]
    exact .text s
  | .param name => by
    rw [node]
    exact .list (List.forall_mem_cons.2 ⟨.text _, List.forall_mem_singleton.2 (.text _)⟩)
  | .glob name => by
    rw [node]
    exact .list (List.forall_mem_cons.2 ⟨.text _, List.forall_mem_singleton.2 (.text _)⟩)
  | .group children => by
    rw [node]
    exact .list (List.forall_mem_cons.2
      ⟨.text _, List.forall_mem_singleton.2 (.list (isTextTree_nodes children))⟩)

theorem isTextTree_nodes : ∀ ss : List Segment, ∀ v ∈ nodes ss, Json.IsTextTree v
  | [] => by
    rw [nodes]
    exact fun v hv => absurd hv List.not_mem_nil
  | s :: rest => by
    rw [nodes]
    exact List.forall_mem_cons.2 ⟨isTextTree_node s, isTextTree_nodes rest⟩

end

theorem nodes_injective : Function.Injective nodes := fun ss ss' h =>
  Option.some.inj ((segments?_nodes ss).symm.trans (h ▸ segments?_nodes ss'))

/-- **Segments are told from the JSON text of their tree**: every list of segments has one, and lists
that have the same are the same. -/
theorem write_nodes_eq_iff (ss ss' : List Segment) :
    (∃ text, Json.write .full (.list (nodes ss)) = .ok text) ∧
    (Json.write .full (.list (nodes ss)) = Json.write .full (.list (nodes ss')) ↔ ss = ss') := by
  have htree (ss : List Segment) : Json.IsTextTree (.list (nodes ss)) := .list (isTextTree_nodes ss)
  refine ⟨(htree ss).isWritable, fun h => ?_, fun h => h ▸ rfl⟩
  rw [Json.write_eq_textOf (htree ss).isWritable, Json.write_eq_textOf (htree ss').isWritable] at h
  have htext := congrArg String.toList (Except.ok.inj h)
  obtain ⟨hsame, -⟩ := Json.textOf_append_inj (htree ss) (htree ss') (congrArg (· ++ []) htext)
  exact nodes_injective (Value.list.inj hsame)

end Path
end RouteHelpers
