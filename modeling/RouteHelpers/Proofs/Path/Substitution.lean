import Mathlib.Data.List.Forall2
import RouteHelpers.Proofs.Path.Normal
import RouteHelpers.Proofs.Path.Rendering
import RouteHelpers.Proofs.Text.Cutting

/-!
A built path is its pattern with each piece substituted.

Between a pattern and the path that is built from it lie the segments: pieces are wrapped in slashes,
literals that meet are merged, groups are turned into trees of their own, and the slashes at the end
are settled last. None of that can be seen from outside. The path is what comes of substituting each
piece by itself and joining the results:

    build (nodes (parse path)) params trailingSlash
      = ended trailingSlash ("/" ++ joinWith "/" (the text of each piece))

The rule for one piece is `PieceText`. It is a relation and not a function, as it says what a piece of
the form `head(inner)` is by writing it down, and not by a way to find `head` and `inner`;
`PieceText.unique` makes it as good as a function. A piece without a text, because a required value is
missing or cannot be written, ends the whole, and the first such piece counts.

The proof goes over the pieces from the last one to the first (`areSubstituted_pieces`). What it carries
is that the segments of the pieces so far open with a single slash, and that their text is the
substituted one with at most a slash behind it (`Closing`), which the settling of the end takes away.
-/

namespace RouteHelpers.Path

variable {params : Entries}

/-! ### The text of a piece -/

/-- The text of the value of a name that has to have one. -/
def givenText (params : Entries) (name : List Char) : Except BuildFault String :=
  match boundText? params (String.ofList name) with
  | .error fault => .error fault
  | .ok (some text) => .ok text
  | .ok none => .error (.missing (String.ofList name))

/-- The text of a piece without a parenthesis. -/
def plainText (params : Entries) (piece : String) : Except BuildFault String :=
  match piece.toList with
  | ':' :: name => (givenText params name).map Text.percentEncode
  | '*' :: name => givenText params name
  | _ => .ok piece

/-- The text of the value of a name, written by `write`; a name without value leaves nothing. -/
def textIfBound (params : Entries) (write : String → String) (name : List Char) :
    Except BuildFault String :=
  (boundText? params (String.ofList name)).map fun text => (text.map write).getD ""

/-- The text of a group with the given inside; a name without value leaves nothing of it. -/
def innerText (params : Entries) (inner : String) : Except BuildFault String :=
  match inner.toList with
  | '.' :: ':' :: name => textIfBound params (fun text => "." ++ Text.percentEncode text) name
  | ':' :: name => textIfBound params Text.percentEncode name
  | _ => .ok inner

/-- The piece has the form `head(inner)`: the parenthesis behind `head` is its first one, and at most a
line feed follows the closing one. -/
structure HasGroup (piece head inner : String) : Prop where
  first : '(' ∉ head.toList
  one_line : '\n' ∉ inner.toList
  form : piece = head ++ "(" ++ inner ++ ")" ∨ piece = head ++ "(" ++ inner ++ ")\n"

/-- The text that a piece is substituted by, or the fault that it has none. -/
inductive PieceText (params : Entries) : String → Except BuildFault String → Prop
  /-- A piece without a parenthesis. -/
  | plain {piece : String} :
      '(' ∉ piece.toList → PieceText params piece (plainText params piece)
  /-- A piece with a group. -/
  | group {piece head inner : String} :
      HasGroup piece head inner →
      PieceText params piece (do .ok ((← plainText params head) ++ (← innerText params inner)))
  /-- A piece with a parenthesis and no group. -/
  | malformed {piece : String} :
      '(' ∈ piece.toList → (∀ head inner, ¬ HasGroup piece head inner) →
      PieceText params piece (.ok piece)

/-- A text with the end that is asked for: with one slash more unless it has one, or without any, but
never empty. -/
def ended (trailingSlash : Bool) (s : String) : String :=
  if trailingSlash then
    if Text.endsWith "/" s then s else s ++ "/"
  else
    let bare := Text.dropEnd (· == '/') s
    if bare.isEmpty then "/" else bare

/-! ### Finding the group -/

theorem HasGroup.mem {piece head inner : String} (h : HasGroup piece head inner) :
    '(' ∈ piece.toList := by
  rcases h.form with rfl | rfl <;> simp

theorem HasGroup.slash_not_mem {piece head inner : String} (h : HasGroup piece head inner)
    (hs : '/' ∉ piece.toList) : '/' ∉ head.toList ∧ '/' ∉ inner.toList := by
  rcases h.form with rfl | rfl <;> simp_all

/-- A piece of the form `head(inner)` is `head`, an opening parenthesis, and then `inner`, a closing one
and what may follow that. -/
theorem HasGroup.toList_eq {piece head inner : String} (h : HasGroup piece head inner) :
    ∃ behind, piece.toList = head.toList ++ '(' :: behind ∧
      (Text.cutFinalNewline behind).1 = inner.toList ++ [')'] := by
  rcases h.form with rfl | rfl
  · refine ⟨inner.toList ++ [')'], by simp, ?_⟩
    rw [Text.cutFinalNewline_of_ne (by decide)]
  · refine ⟨(inner.toList ++ [')']) ++ ['\n'], by simp, ?_⟩
    rw [Text.cutFinalNewline_append_newline]

/-- Reading a piece finds the group it has. -/
theorem HasGroup.headAndInner? {piece head inner : String} (h : HasGroup piece head inner) :
    headAndInner? piece = some (head, inner) := by
  obtain ⟨behind, hpiece, hbody⟩ := h.toList_eq
  have hcut : Text.cutList '(' piece.toList = (head.toList, some behind) :=
    Text.cutList_eq_some_iff.2 ⟨hpiece, h.first⟩
  simp [Path.headAndInner?, hcut, hbody, h.one_line]

/-- A piece has one group at most. -/
theorem HasGroup.unique {piece head inner head' inner' : String} (h : HasGroup piece head inner)
    (h' : HasGroup piece head' inner') : head = head' ∧ inner = inner' :=
  Prod.mk.inj (Option.some.inj (h.headAndInner?.symm.trans h'.headAndInner?))

/-- What stands behind the first parenthesis of a piece tells its form, up to a line feed. -/
theorem form_of_toList_eq {piece head inner : String} {behind : List Char}
    (hpiece : piece.toList = head.toList ++ '(' :: behind)
    (hbody : (Text.cutFinalNewline behind).1 = inner.toList ++ [')']) :
    piece = head ++ "(" ++ inner ++ ")" ∨ piece = head ++ "(" ++ inner ++ ")\n" := by
  have hbehind := Text.cutFinalNewline_append behind
  rw [hbody] at hbehind
  rcases Text.cutFinalNewline_snd behind with htail | htail
  · left
    apply String.toList_injective
    rw [hpiece, ← hbehind, htail]
    simp
  · right
    apply String.toList_injective
    rw [hpiece, ← hbehind, htail]
    simp

/-- What reading a piece finds is a group of it. -/
theorem hasGroup_of_headAndInner? {piece head inner : String}
    (h : headAndInner? piece = some (head, inner)) : HasGroup piece head inner := by
  unfold Path.headAndInner? at h
  split at h
  next => simp at h
  next before behind hcut =>
    simp only at h
    split at h
    next hlast =>
      -- the last parenthesis closes, and the inside is what stands before it
      obtain ⟨hpiece, hfirst⟩ := Text.cutList_eq_some_iff.1 hcut
      obtain ⟨inside, hbody⟩ := List.getLast?_eq_some_iff.1 hlast
      rw [hbody, List.dropLast_concat] at h
      split at h
      next => simp at h
      next hline =>
        simp only [Option.some.injEq, Prod.mk.injEq] at h
        obtain ⟨rfl, rfl⟩ := h
        have hfront : piece.toList = (String.ofList before).toList ++ '(' :: behind := by
          rw [hpiece, String.toList_ofList]
        exact ⟨by simpa using hfirst, by simpa using hline,
          form_of_toList_eq hfront (by rw [hbody, String.toList_ofList])⟩
    next => simp at h

/-- The rule gives a piece one text. -/
theorem PieceText.unique {piece : String} {r₁ r₂ : Except BuildFault String}
    (h₁ : PieceText params piece r₁) (h₂ : PieceText params piece r₂) : r₁ = r₂ := by
  cases h₁ with
  | plain hp =>
    cases h₂ with
    | plain => rfl
    | group hg => exact absurd hg.mem hp
    | malformed hm => exact absurd hm hp
  | group hg =>
    cases h₂ with
    | plain hp => exact absurd hg.mem hp
    | group hg' =>
      obtain ⟨rfl, rfl⟩ := hg.unique hg'
      rfl
    | malformed _ hm => exact absurd hg (hm _ _)
  | malformed hmem hm =>
    cases h₂ with
    | plain hp => exact absurd hmem hp
    | group hg => exact absurd hg (hm _ _)
    | malformed => rfl

/-! ### The segments of a piece -/

/-- Without a parenthesis there is no group to look for. -/
theorem pieceSegments_of_not_mem {piece : String} (h : '(' ∉ piece.toList) :
    pieceSegments piece = plainPiece piece := by
  rw [pieceSegments, Text.hasChar, if_neg (by simpa using h)]

theorem HasGroup.pieceSegments_eq {piece head inner : String} (h : HasGroup piece head inner) :
    pieceSegments piece = headSegments head ++ [.group (normalize (groupMembers inner))] := by
  rw [pieceSegments, Text.hasChar, if_pos (List.contains_iff_mem.2 h.mem), h.headAndInner?]

/-- A piece with a parenthesis and no group is taken as it is. -/
theorem isLiteralPiece_of_malformed {piece : String} (h : '(' ∈ piece.toList)
    (hnone : ∀ head inner, ¬ HasGroup piece head inner) : IsLiteralPiece piece := by
  rcases hg : headAndInner? piece with - | ⟨head, inner⟩
  · rw [IsLiteralPiece, pieceSegments, Text.hasChar, if_pos (List.contains_iff_mem.2 h), hg]
  · exact absurd (hasGroup_of_headAndInner? hg) (hnone head inner)

/-- A group renders as its inside says. -/
theorem segmentText_groupMembers (params : Entries) {inner : String} (hs : '/' ∉ inner.toList) :
    segmentText params false (.group (normalize (groupMembers inner)))
      = innerText params inner := by
  have hlit : squeeze inner = inner := squeeze_of_not_mem hs
  -- both functions read the inside the same way, a case each
  unfold groupMembers innerText
  split
  next name h =>
    have hdot : squeeze "." = "." := rfl
    simp only [normalize, List.foldr, consSegment, hdot, segmentText, directNames, segmentsText,
      slotTextOf, textIfBound, boundText?, h]
    rcases hbound : boundValue? params (String.ofList name) with - | v
    · simp [hbound, Except.map]
    · cases htext : writtenText v <;> simp [hbound, htext, bind, Except.bind, Except.map]
  next name h =>
    simp only [normalize, List.foldr, consSegment, segmentText, directNames, segmentsText,
      slotTextOf, textIfBound, boundText?, h]
    rcases hbound : boundValue? params (String.ofList name) with - | v
    · simp [hbound, Except.map]
    · cases htext : writtenText v <;> simp [hbound, htext, bind, Except.bind, Except.map]
  next h =>
    rw [String.toList_eq_nil_iff.1 h]
    rfl
  next hdot hname _ =>
    split
    next name h => exact absurd h (hdot name)
    next name h => exact absurd h (hname name)
    next =>
      simp [normalize, consSegment, segmentText, directNames, segmentsText, hlit, bind,
        Except.bind]

/-- A text starts with a colon, or with an asterisk, or with neither. -/
theorem sigil_cases (s : String) :
    (∃ name, s.toList = ':' :: name) ∨ (∃ name, s.toList = '*' :: name) ∨
      ((∀ name, s.toList ≠ ':' :: name) ∧ ∀ name, s.toList ≠ '*' :: name) := by
  rcases s.toList with - | ⟨c, name⟩
  · simp
  · by_cases hcolon : c = ':'
    · exact .inl ⟨name, by rw [hcolon]⟩
    · by_cases hstar : c = '*'
      · exact .inr (.inl ⟨name, by rw [hstar]⟩)
      · exact .inr (.inr ⟨fun _ e => hcolon (List.cons.inj e).1, fun _ e => hstar (List.cons.inj e).1⟩)

theorem segmentsText_param (params : Entries) (name : List Char) :
    (segmentsText params false [.param (String.ofList name)]).map ("" ++ ·)
      = (givenText params name).map Text.percentEncode := by
  simp only [segmentsText, segmentText, slotTextOf, givenText]
  rcases boundText? params (String.ofList name) with fault | - | text <;>
    simp [bind, Except.bind, Except.map]

theorem segmentsText_glob (params : Entries) (name : List Char) :
    (segmentsText params false [.glob (String.ofList name)]).map ("" ++ ·)
      = givenText params name := by
  simp only [segmentsText, segmentText, slotTextOf, givenText]
  rcases boundText? params (String.ofList name) with fault | - | text <;>
    simp [bind, Except.bind, Except.map]

/-- The segments of the head of a group: a literal behind a slash and at most one slot. -/
theorem headSegments_cases (params : Entries) (head : String) :
    ∃ (start : String) (slots : List Segment),
      headSegments head = .literal ("/" ++ start) :: slots ∧
        (∀ s ∈ slots, isLiteral s = false) ∧ ('/' ∉ head.toList → '/' ∉ start.toList) ∧
        plainText params head = (segmentsText params false slots).map (start ++ ·) := by
  rcases sigil_cases head with ⟨name, h⟩ | ⟨name, h⟩ | ⟨hcolon, hstar⟩
  · refine ⟨"", [.param (String.ofList name)], ?_, by simp [isLiteral], by simp, ?_⟩
    · simp [headSegments, plainPiece, h]
    · rw [segmentsText_param]
      simp [plainText, h]
  · refine ⟨"", [.glob (String.ofList name)], ?_, by simp [isLiteral], by simp, ?_⟩
    · simp [headSegments, plainPiece, h]
    · rw [segmentsText_glob]
      simp [plainText, h]
  · refine ⟨head, [], by simp [headSegments], by simp, id, ?_⟩
    simp [plainText, segmentsText, Except.map]

/-- The segments of a piece, together with the text that it is substituted by. -/
def Shaped (params : Entries) (piece : String) : Prop :=
  (IsLiteralPiece piece ∧ PieceText params piece (.ok piece)) ∨
    ∃ (head : String) (slots : List Segment), IsSlottedPiece piece head slots ∧
      PieceText params piece ((segmentsText params false slots).map (head ++ ·))

theorem shaped_of_not_mem (params : Entries) {piece : String} (hp : '(' ∉ piece.toList) :
    Shaped params piece := by
  have hplain := pieceSegments_of_not_mem hp
  have htext : PieceText params piece (plainText params piece) := .plain hp
  rcases sigil_cases piece with ⟨name, h⟩ | ⟨name, h⟩ | ⟨hcolon, hstar⟩
  · refine .inr ⟨"", [.param (String.ofList name)], ⟨?_, by simp, by simp [isLiteral], by simp⟩, ?_⟩
    · simp [hplain, plainPiece, h]
    · rw [plainText, h] at htext
      rw [segmentsText_param]
      exact htext
  · refine .inr ⟨"", [.glob (String.ofList name)], ⟨?_, by simp, by simp [isLiteral], by simp⟩, ?_⟩
    · simp [hplain, plainPiece, h]
    · rw [plainText, h] at htext
      rw [segmentsText_glob]
      exact htext
  · refine .inl ⟨?_, ?_⟩
    · simp [IsLiteralPiece, hplain, plainPiece]
    · have hself : plainText params piece = .ok piece := by
        simp [plainText]
      rw [hself] at htext
      exact htext

theorem HasGroup.shaped {piece head inner : String} (h : HasGroup piece head inner)
    (hs : '/' ∉ piece.toList) : Shaped params piece := by
  obtain ⟨hhead, hinner⟩ := h.slash_not_mem hs
  obtain ⟨start, slots, hsegs, hslots, hstart, htext⟩ := headSegments_cases params head
  let group := Segment.group (normalize (groupMembers inner))
  have hpiece : pieceSegments piece = .literal ("/" ++ start) :: (slots ++ [group]) := by
    rw [h.pieceSegments_eq, hsegs, List.cons_append]
  refine .inr ⟨start, slots ++ [group], ⟨hpiece, by simp, ?_, fun _ => hstart hhead⟩, ?_⟩
  · intro s hmem
    rcases List.mem_append.1 hmem with hmem | hmem
    · exact hslots s hmem
    · rw [List.mem_singleton.1 hmem]
      rfl
  · -- the group is the last of the slots, and its text comes behind theirs
    have hgroup := segmentText_groupMembers params hinner
    convert PieceText.group h using 1
    rw [htext, segmentsText_append]
    simp only [group, segmentsText, hgroup]
    cases segmentsText params false slots <;> cases innerText params inner <;>
      simp [bind, Except.bind, Except.map, String.append_assoc]

theorem shaped_of_slash_not_mem (params : Entries) {piece : String} (hs : '/' ∉ piece.toList) :
    Shaped params piece := by
  by_cases hp : '(' ∈ piece.toList
  · by_cases hgroup : ∃ head inner, HasGroup piece head inner
    · obtain ⟨head, inner, hg⟩ := hgroup
      exact hg.shaped hs
    · have hnone : ∀ head inner, ¬ HasGroup piece head inner := fun head inner hg =>
        hgroup ⟨head, inner, hg⟩
      exact .inl ⟨isLiteralPiece_of_malformed hp hnone, .malformed hp hnone⟩
  · exact shaped_of_not_mem params hp

/-! ### The end of a path -/

/-- What may stand behind a substituted path before its end is settled: nothing, or a slash if the path
ends in something else. -/
def Closing (s closing : String) : Prop :=
  closing = "" ∨ (closing = "/" ∧ ∃ c, s.toList.getLast? = some c ∧ c ≠ '/')

theorem Closing.append {s closing : String} (h : Closing s closing) (front : String) :
    Closing (front ++ s) closing := by
  rcases h with h | ⟨h, c, hlast, hc⟩
  · exact .inl h
  · refine .inr ⟨h, c, ?_, hc⟩
    rw [String.toList_append, List.getLast?_append, hlast]
    rfl

/-- A text without slashes may have one behind it. -/
theorem closing_of_not_mem {s : String} (hne : s ≠ "") (hs : '/' ∉ s.toList) : Closing s "/" := by
  rcases h : s.toList.getLast? with - | c
  · exact absurd (String.toList_eq_nil_iff.1 (List.getLast?_eq_none_iff.1 h)) hne
  · refine .inr ⟨rfl, c, h, ?_⟩
    rintro rfl
    exact hs (List.mem_of_getLast? h)

theorem endsWith_slash_iff {s : String} :
    Text.endsWith "/" s = true ↔ s.toList.getLast? = some '/' := by
  rw [Text.endsWith, List.isSuffixOf_iff_suffix, List.getLast?_eq_some_iff]
  exact ⟨fun ⟨front, h⟩ => ⟨front, h.symm⟩, fun ⟨front, h⟩ => ⟨front, h.symm⟩⟩

/-- A slash at the end is dropped with those before it. -/
theorem dropEnd_append_slash (s : String) :
    Text.dropEnd (· == '/') (s ++ "/") = Text.dropEnd (· == '/') s := by
  simp [Text.dropEnd, Text.dropEndList]

/-- Settling the end takes away what may stand there. -/
theorem finish_append {s closing : String} (hne : s ≠ "") (h : Closing s closing)
    (trailingSlash : Bool) : finish trailingSlash (s ++ closing) = ended trailingSlash s := by
  have hempty : (s ++ closing).isEmpty = false := by
    rw [String.isEmpty_eq_false_iff]
    intro e
    rw [← String.toList_eq_nil_iff, String.toList_append, List.append_eq_nil_iff] at e
    exact hne (String.toList_eq_nil_iff.1 e.1)
  simp only [finish, hempty, ended]
  rcases h with rfl | ⟨rfl, c, hlast, hc⟩
  · simp
  · -- the slash is dropped with those at the end, or it is the one that is asked for
    have hends : Text.endsWith "/" (s ++ "/") = true := by
      simp [endsWith_slash_iff]
    have hends' : Text.endsWith "/" s = false := by
      rw [← Bool.not_eq_true, endsWith_slash_iff, hlast]
      exact fun e => hc (Option.some.inj e)
    simp [dropEnd_append_slash, hends, hends']

/-! ### Pieces in a row -/

/-- Texts with a slash in front of each. -/
def slashed : List String → String
  | [] => ""
  | text :: rest => "/" ++ text ++ slashed rest

theorem slashed_ne_empty {texts : List String} (h : texts ≠ []) : slashed texts ≠ "" := by
  cases texts with
  | nil => exact absurd rfl h
  | cons text rest =>
    intro e
    have := congrArg String.toList e
    simp [slashed] at this

theorem slash_joinWith {texts : List String} (h : texts ≠ []) :
    "/" ++ Text.joinWith "/" texts = slashed texts := by
  induction texts with
  | nil => exact absurd rfl h
  | cons text rest ih =>
    cases rest with
    | nil => simp [Text.joinWith, slashed]
    | cons next rest =>
      rw [slashed, ← ih (by simp), Text.joinWith]
      simp [String.append_assoc]

/-- Texts in a row, or the first fault among them. -/
theorem mapM_id_cons {ε α : Type} (text : Except ε α) (texts : List (Except ε α)) :
    (text :: texts).mapM id = (do
      let first ← text
      let more ← texts.mapM id
      .ok (first :: more)) := by
  rw [List.mapM_cons]
  rfl

theorem mapM_id_cons_eq_ok {ε α : Type} {text : Except ε α} {texts : List (Except ε α)}
    {ts : List α} : (text :: texts).mapM id = .ok ts ↔
      ∃ first more, text = .ok first ∧ texts.mapM id = .ok more ∧ ts = first :: more := by
  rw [mapM_id_cons]
  cases text with
  | error fault => simp [bind, Except.bind]
  | ok first => cases texts.mapM id <;> simp [bind, Except.bind, eq_comm]

theorem eq_nil_of_mapM_id {ε α : Type} {texts : List (Except ε α)}
    (h : texts.mapM id = .ok []) : texts = [] := by
  cases texts with
  | nil => rfl
  | cons text texts =>
    obtain ⟨first, more, -, -, hcons⟩ := mapM_id_cons_eq_ok.1 h
    cases hcons

/-- The segments render as the texts in a row, each behind a slash, up to what settling the end takes
away. -/
def RendersAs (params : Entries) (segments : List Segment) (texts : List (Except BuildFault String)) :
    Prop :=
  ∃ closing, (∀ ts, texts.mapM id = .ok ts → Closing (slashed ts) closing) ∧
    segmentsText params false segments = (texts.mapM id).map (slashed · ++ closing)

theorem rendersAs_nil : RendersAs params [] [] :=
  ⟨"", fun _ _ => .inl rfl, rfl⟩

/-- One more literal piece at the end. -/
theorem rendersAs_literal {piece : String} (hne : piece ≠ "") (hs : '/' ∉ piece.toList) :
    RendersAs params [.literal ("/" ++ (piece ++ "/"))] [.ok piece] := by
  refine ⟨"/", fun ts h => ?_, ?_⟩
  · cases h
    simpa [slashed] using (closing_of_not_mem hne hs).append "/"
  · rw [segmentsText_literal_cons]
    simp [segmentsText, slashed, Except.map, bind, Except.bind, pure, Except.pure,
      String.append_assoc]

/-- One more literal piece in front, which shares a slash with what follows. -/
theorem RendersAs.cons_literal {rest : List Segment} {t : String}
    {texts : List (Except BuildFault String)}
    (h : RendersAs params (.literal ("/" ++ t) :: rest) texts) (piece : String) :
    RendersAs params (.literal ("/" ++ (piece ++ ("/" ++ t))) :: rest) (.ok piece :: texts) := by
  obtain ⟨closing, hclosing, htext⟩ := h
  refine ⟨closing, fun ts hts => ?_, ?_⟩
  · obtain ⟨first, more, -, hmore, rfl⟩ := mapM_id_cons_eq_ok.1 hts
    exact (hclosing more hmore).append _
  · rw [segmentsText_literal_cons] at htext ⊢
    -- the slash in front of what follows is the one behind the piece
    have hfront : (segmentsText params false rest).map ("/" ++ (piece ++ ("/" ++ t)) ++ ·)
        = ((segmentsText params false rest).map ("/" ++ t ++ ·)).map ("/" ++ piece ++ ·) := by
      cases segmentsText params false rest <;> simp [Except.map, String.append_assoc]
    rw [hfront, htext, mapM_id_cons]
    cases texts.mapM id <;>
      simp [slashed, Except.map, bind, Except.bind, String.append_assoc]

/-- One more slotted piece in front. -/
theorem RendersAs.cons_slotted {rest slots : List Segment} {texts : List (Except BuildFault String)}
    (h : RendersAs params rest texts) (head : String) :
    RendersAs params (.literal ("/" ++ head) :: (slots ++ rest))
      ((segmentsText params false slots).map (head ++ ·) :: texts) := by
  obtain ⟨closing, hclosing, htext⟩ := h
  refine ⟨closing, fun ts hts => ?_, ?_⟩
  · obtain ⟨first, more, -, hmore, rfl⟩ := mapM_id_cons_eq_ok.1 hts
    exact (hclosing more hmore).append _
  · rw [segmentsText_literal_cons, segmentsText_append, htext, mapM_id_cons]
    cases segmentsText params false slots with
    | error fault => rfl
    | ok a =>
      cases texts.mapM id <;>
        simp [slashed, Except.map, bind, Except.bind, String.append_assoc]

/-- What holds of the pieces from some place on: texts fit them, their segments render as these texts,
and the segments open with one slash. -/
def AreSubstituted (params : Entries) (pieces : List String) : Prop :=
  ∃ texts, List.Forall₂ (PieceText params) pieces texts ∧
    RendersAs params (normalize (pieces.flatMap pieceSegments)) texts ∧
    ∃ t rest, normalize (pieces.flatMap pieceSegments) = .literal ("/" ++ t) :: rest ∧
      squeeze ("/" ++ t) = "/" ++ t

/-- The last piece is not followed by anything, and keeps the slash behind it if it is a literal. -/
theorem areSubstituted_last {piece : String} (hne : piece ≠ "") (hs : '/' ∉ piece.toList) :
    AreSubstituted params [piece] := by
  unfold AreSubstituted
  rw [List.flatMap_cons, List.flatMap_nil, List.append_nil]
  rcases shaped_of_slash_not_mem params hs with ⟨hlit, htext⟩ | ⟨head, slots, hslot, htext⟩
  · have hnorm := normalize_literal hlit hne hs
    refine ⟨[.ok piece], .cons htext .nil, ?_, _, _, hnorm, squeeze_piece_append hne hs rfl⟩
    rw [hnorm]
    exact rendersAs_literal hne hs
  · have hnorm := normalize_slotted_append hslot hs []
    rw [List.append_nil] at hnorm
    refine ⟨_, .cons htext .nil, ?_, _, _, hnorm, squeeze_slash (hslot.2.2.2 hs)⟩
    rw [hnorm]
    exact RendersAs.cons_slotted rendersAs_nil head

/-- One more piece in front. -/
theorem AreSubstituted.cons {pieces : List String} (h : AreSubstituted params pieces)
    {piece : String} (hne : piece ≠ "") (hs : '/' ∉ piece.toList) :
    AreSubstituted params (piece :: pieces) := by
  obtain ⟨texts, htexts, hrest, t, rest, hnorm, ht⟩ := h
  unfold AreSubstituted
  rw [List.flatMap_cons]
  rcases shaped_of_slash_not_mem params hs with ⟨hlit, htext⟩ | ⟨head, slots, hslot, htext⟩
  · -- a literal piece is merged with the literal that the rest opens with
    have hnorm' := normalize_literal_append hlit hne hs hnorm ht
    refine ⟨.ok piece :: texts, .cons htext htexts, ?_, _, _, hnorm', ?_⟩
    · rw [hnorm']
      rw [hnorm] at hrest
      exact hrest.cons_literal piece
    · exact squeeze_piece_append hne hs ht
  · -- behind a slot nothing is merged
    have hnorm' := normalize_slotted_append hslot hs (pieces.flatMap pieceSegments)
    refine ⟨_, .cons htext htexts, ?_, _, _, hnorm', squeeze_slash (hslot.2.2.2 hs)⟩
    rw [hnorm']
    exact hrest.cons_slotted head

/-- **The segments of pieces render as the pieces substituted.** -/
theorem areSubstituted_pieces (params : Entries) {pieces : List String} (hne : pieces ≠ [])
    (h : ∀ piece ∈ pieces, piece ≠ "" ∧ '/' ∉ piece.toList) : AreSubstituted params pieces := by
  induction pieces with
  | nil => exact absurd rfl hne
  | cons piece pieces ih =>
    obtain ⟨hpiece, hslash⟩ := h piece (by simp)
    by_cases hlast : pieces = []
    · rw [hlast]
      exact areSubstituted_last hpiece hslash
    · exact (ih hlast fun x hx => h x (by simp [hx])).cons hpiece hslash

/-! ### The whole path -/

theorem pieces_mem {path piece : String} (h : piece ∈ pieces path) :
    piece ≠ "" ∧ '/' ∉ piece.toList := by
  obtain ⟨hmem, hne⟩ := List.mem_filter.1 h
  obtain ⟨cs, hcs, rfl⟩ := List.mem_map.1 hmem
  refine ⟨by rintro e; simp [e] at hne, ?_⟩
  rw [String.toList_ofList]
  exact Text.not_mem_of_mem_splitList hcs

/-- Some texts fit the pieces, and the path is built from them. -/
theorem exists_texts (path : String) (params : Entries) (trailingSlash : Bool) :
    ∃ texts, List.Forall₂ (PieceText params) (pieces path) texts ∧
      build (nodes (parse path)) params trailingSlash
        = (texts.mapM id).map fun ts => ended trailingSlash ("/" ++ Text.joinWith "/" ts) := by
  rw [build_nodes, parse]
  by_cases hne : pieces path = []
  · -- without pieces there are no segments, and the end is all of the path
    refine ⟨[], by rw [hne]; exact .nil, ?_⟩
    rw [hne]
    cases trailingSlash <;> rfl
  · obtain ⟨texts, htexts, ⟨closing, hclosing, htext⟩, -⟩ :=
      areSubstituted_pieces params hne fun piece => pieces_mem
    refine ⟨texts, htexts, ?_⟩
    rw [htext]
    cases e : texts.mapM id with
    | error fault => rfl
    | ok ts =>
      have hts : ts ≠ [] := by
        rintro rfl
        exact hne (List.forall₂_nil_right_iff.1 (eq_nil_of_mapM_id e ▸ htexts))
      show Except.ok (finish trailingSlash (slashed ts ++ closing)) = _
      rw [finish_append (slashed_ne_empty hts) (hclosing ts e), ← slash_joinWith hts]
      rfl

/-- Texts that fit the pieces are those that the path is built from: each piece has one. -/
theorem build_eq_of_forall₂ {path : String} {texts : List (Except BuildFault String)}
    (h : List.Forall₂ (PieceText params) (pieces path) texts) (trailingSlash : Bool) :
    build (nodes (parse path)) params trailingSlash
      = (texts.mapM id).map fun ts => ended trailingSlash ("/" ++ Text.joinWith "/" ts) := by
  obtain ⟨texts', htexts, hbuild⟩ := exists_texts path params trailingSlash
  have hunique : Relator.RightUnique (PieceText params) := fun _ _ _ => PieceText.unique
  rw [hbuild, hunique.forall₂ htexts h]

/-- Where the text of each piece is known, so is the path. -/
theorem build_eq_of_pieceText {path : String} {text : String → Except BuildFault String}
    (h : ∀ piece ∈ pieces path, PieceText params piece (text piece)) (trailingSlash : Bool) :
    build (nodes (parse path)) params trailingSlash
      = ((pieces path).mapM text).map fun ts => ended trailingSlash ("/" ++ Text.joinWith "/" ts) := by
  have htexts : List.Forall₂ (PieceText params) (pieces path) ((pieces path).map text) := by
    rw [List.forall₂_map_right_iff, List.forall₂_same]
    exact h
  rw [build_eq_of_forall₂ htexts, List.mapM_map]
  rfl

/-- **A built path is its pattern with each piece substituted**: the text of each piece that is not
empty, in a row and behind a slash each, with the end that is asked for. The path cannot be built for
want of a value exactly if a piece has no text, and the first such piece tells why. -/
theorem build_eq_iff_substituted (path : String) (params : Entries) (trailingSlash : Bool)
    (result : Except BuildFault String) :
    build (nodes (parse path)) params trailingSlash = result ↔
      ∃ texts, List.Forall₂ (PieceText params) (pieces path) texts ∧
        result = (texts.mapM id).map fun ts =>
          ended trailingSlash ("/" ++ Text.joinWith "/" ts) := by
  constructor
  · rintro rfl
    exact exists_texts path params trailingSlash
  · rintro ⟨texts, htexts, rfl⟩
    exact build_eq_of_forall₂ htexts trailingSlash

end RouteHelpers.Path
