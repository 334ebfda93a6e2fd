import RouteHelpers.Proofs.Path.Substitution

/-!
Segments written back as a path.

Parsing wraps pieces in slashes, merges literals and collapses slashes, and none of that loses text:

    writtenAll (parse path) = "/" ++ joinWith "/" (the pieces of the path)

with a slash behind it if the last piece stands for itself, and without the line feed that a piece of the
form `head(inner)` may have behind its closing parenthesis (`KeptText`). What is written is parsed to the
same segments again, so parsing is determined by the text that it keeps (`writtenAll_parse`).

The proof goes over the pieces from the last one to the first, as normalizing does; of what is behind a
piece it needs no more than that it opens with one slash.
-/

namespace RouteHelpers

namespace Segment

mutual

/-- A segment as it stands in a path. -/
def written : Segment → String
  | literal s => s
  | param name => ":" ++ name
  | glob name => "*" ++ name
  | group children => "(" ++ writtenAll children ++ ")"

/-- Several segments in a row as they stand in a path. -/
def writtenAll : List Segment → String
  | [] => ""
  | s :: rest => written s ++ writtenAll rest

end

@[simp] theorem writtenAll_nil : writtenAll [] = "" := by
  rw [writtenAll]

@[simp] theorem writtenAll_cons (s : Segment) (rest : List Segment) :
    writtenAll (s :: rest) = written s ++ writtenAll rest := by
  rw [writtenAll]

theorem writtenAll_append (xs ys : List Segment) :
    writtenAll (xs ++ ys) = writtenAll xs ++ writtenAll ys := by
  induction xs with
  | nil => simp
  | cons s xs ih => rw [List.cons_append, writtenAll_cons, writtenAll_cons, ih, String.append_assoc]

end Segment

namespace Path

open Segment (written writtenAll)

variable {piece text head inner : String}

/-! ### The text of a piece -/

/-- The text of a piece that is kept: all of it but the line feed behind a group. -/
inductive KeptText : String → String → Prop
  | group {piece head inner : String} :
      HasGroup piece head inner → KeptText piece (head ++ "(" ++ inner ++ ")")
  | whole {piece : String} : (∀ head inner, ¬ HasGroup piece head inner) → KeptText piece piece

/-- The piece stands for itself: it is no slot, and if it has a parenthesis it has no group. -/
inductive IsVerbatim (piece : String) : Prop
  | plain : '(' ∉ piece.toList → piece.toList.head? ≠ some ':' → piece.toList.head? ≠ some '*' →
      IsVerbatim piece
  | malformed : '(' ∈ piece.toList → (∀ head inner, ¬ HasGroup piece head inner) → IsVerbatim piece

/-- What is kept of a group is a group with the same parts. -/
theorem HasGroup.kept (h : HasGroup piece head inner) :
    HasGroup (head ++ "(" ++ inner ++ ")") head inner :=
  ⟨h.first, h.one_line, .inl rfl⟩

/-- What is kept of a piece has its segments. -/
theorem KeptText.pieceSegments_eq (h : KeptText piece text) : pieceSegments text = pieceSegments piece := by
  cases h with
  | group hg => rw [hg.pieceSegments_eq, hg.kept.pieceSegments_eq]
  | whole => rfl

theorem KeptText.slash_not_mem (h : KeptText piece text) (hs : '/' ∉ piece.toList) : '/' ∉ text.toList := by
  cases h with
  | group hg =>
    obtain ⟨hhead, hinner⟩ := hg.slash_not_mem hs
    simp [hhead, hinner]
  | whole => exact hs

theorem KeptText.ne_empty (h : KeptText piece text) (hne : piece ≠ "") : text ≠ "" := by
  cases h with
  | group =>
    intro e
    have := congrArg String.toList e
    simp at this
  | whole => exact hne

/-! ### The segments of a piece -/

/-- The inside of a group is written as it was read. -/
theorem writtenAll_groupMembers (hs : '/' ∉ inner.toList) :
    writtenAll (normalize (groupMembers inner)) = inner := by
  have hlit : squeeze inner = inner := squeeze_of_not_mem hs
  have hdot : squeeze "." = "." := rfl
  unfold groupMembers
  split
  next name h =>
    apply String.toList_injective
    simp [normalize, consSegment, written, hdot, h]
  next name h =>
    apply String.toList_injective
    simp [normalize, consSegment, written, h]
  next h => exact (String.toList_eq_nil_iff.1 h).symm
  next => simp [normalize, consSegment, written, hlit]

theorem writtenAll_plainPiece (h : piece.toList.head? = some ':' ∨ piece.toList.head? = some '*') :
    writtenAll (plainPiece piece) = "/" ++ piece := by
  apply String.toList_injective
  rcases hpiece : piece.toList with - | ⟨c, name⟩
  · simp [hpiece] at h
  · rcases h with h | h <;> simp_all [plainPiece, written]

theorem writtenAll_headSegments (head : String) : writtenAll (headSegments head) = "/" ++ head := by
  unfold headSegments
  split
  next name h => exact writtenAll_plainPiece (.inl (by rw [h]; rfl))
  next name h => exact writtenAll_plainPiece (.inr (by rw [h]; rfl))
  next => simp [written]

theorem HasGroup.writtenAll_pieceSegments (h : HasGroup piece head inner) (hs : '/' ∉ piece.toList) :
    writtenAll (pieceSegments piece) = "/" ++ (head ++ "(" ++ inner ++ ")") := by
  rw [h.pieceSegments_eq, Segment.writtenAll_append, writtenAll_headSegments]
  simp [written, writtenAll_groupMembers (h.slash_not_mem hs).2, String.append_assoc]

/-- A piece that stands for itself is one literal, and all of it is kept. -/
theorem IsVerbatim.isLiteralPiece (h : IsVerbatim piece) :
    IsLiteralPiece piece ∧ KeptText piece piece := by
  cases h with
  | plain hp hcolon hstar =>
    refine ⟨?_, .whole fun head inner hg => hp hg.mem⟩
    rw [IsLiteralPiece, pieceSegments_of_not_mem hp]
    unfold plainPiece
    split <;> simp_all
  | malformed hp hnone => exact ⟨isLiteralPiece_of_malformed hp hnone, .whole hnone⟩

/-- A piece that does not stand for itself is written as what is kept of it. -/
theorem exists_writtenAll_pieceSegments (h : ¬ IsVerbatim piece) (hs : '/' ∉ piece.toList) :
    ∃ text, KeptText piece text ∧ writtenAll (pieceSegments piece) = "/" ++ text := by
  by_cases hp : '(' ∈ piece.toList
  · obtain ⟨head, inner, hg⟩ : ∃ head inner, HasGroup piece head inner := by
      by_contra hnone
      exact h (.malformed hp fun head inner hg => hnone ⟨head, inner, hg⟩)
    exact ⟨_, .group hg, hg.writtenAll_pieceSegments hs⟩
  · have hslot : piece.toList.head? = some ':' ∨ piece.toList.head? = some '*' := by
      by_contra hnone
      rw [not_or] at hnone
      exact h (.plain hp hnone.1 hnone.2)
    refine ⟨piece, .whole fun head inner hg => hp hg.mem, ?_⟩
    rw [pieceSegments_of_not_mem hp, writtenAll_plainPiece hslot]

/-- Its segments are a literal with slots and groups behind it. -/
theorem exists_isSlottedPiece (h : ¬ IsVerbatim piece) (hs : '/' ∉ piece.toList) :
    ∃ head slots, IsSlottedPiece piece head slots ∧ KeptText piece (head ++ writtenAll slots) := by
  obtain ⟨text, hkept, hwritten⟩ := exists_writtenAll_pieceSegments h hs
  rcases shaped_of_slash_not_mem [] hs with ⟨hlit, -⟩ | ⟨head, slots, hslot, -⟩
  · -- one literal ends in a slash, which no text that is kept does
    rw [hlit, Segment.writtenAll_cons, Segment.writtenAll_nil, written] at hwritten
    refine absurd ?_ (hkept.slash_not_mem hs)
    have htext : piece.toList ++ ['/'] = text.toList := by
      simpa using congrArg String.toList hwritten
    rw [← htext]
    simp
  · rw [hslot.1, Segment.writtenAll_cons, written, String.append_assoc] at hwritten
    refine ⟨head, slots, hslot, ?_⟩
    have htext : head ++ writtenAll slots = text := by
      apply String.toList_injective
      simpa using congrArg String.toList hwritten
    rwa [htext]

/-! ### Pieces in a row -/

/-- What holds of the pieces from some place on: their segments are written as what is kept of them, a
slash in front of each and one behind a last one that stands for itself. -/
def AreWritten (pieces : List String) : Prop :=
  ∃ texts closing, List.Forall₂ KeptText pieces texts ∧
    writtenAll (normalize (pieces.flatMap pieceSegments)) = slashed texts ++ closing ∧
    ∀ last, pieces.getLast? = some last →
      (IsVerbatim last → closing = "/") ∧ (¬ IsVerbatim last → closing = "")

theorem areWritten_last (hne : piece ≠ "") (hs : '/' ∉ piece.toList) : AreWritten [piece] := by
  unfold AreWritten
  rw [List.flatMap_cons, List.flatMap_nil]
  by_cases h : IsVerbatim piece
  · obtain ⟨hlit, hkept⟩ := h.isLiteralPiece
    refine ⟨[piece], "/", .cons hkept .nil, ?_, ?_⟩
    · rw [List.append_nil, normalize_literal hlit hne hs]
      simp [written, slashed, String.append_assoc]
    · rintro last ⟨⟩
      exact ⟨fun _ => rfl, fun hn => absurd h hn⟩
  · obtain ⟨head, slots, hslot, hkept⟩ := exists_isSlottedPiece h hs
    refine ⟨[_], "", .cons hkept .nil, ?_, ?_⟩
    · rw [normalize_slotted_append hslot hs []]
      simp [written, slashed, normalize, String.append_assoc]
    · rintro last ⟨⟩
      exact ⟨fun hv => absurd hv h, fun _ => rfl⟩

/-- One more piece in front: a literal gives its closing slash up to what follows it, and anything else
loses nothing. -/
theorem AreWritten.cons {pieces : List String} (h : AreWritten pieces) (hpieces : pieces ≠ [])
    (hopen : ∃ t rest, normalize (pieces.flatMap pieceSegments) = .literal ("/" ++ t) :: rest ∧
      squeeze ("/" ++ t) = "/" ++ t) (hne : piece ≠ "") (hs : '/' ∉ piece.toList) :
    AreWritten (piece :: pieces) := by
  obtain ⟨texts, closing, htexts, hwritten, hclosing⟩ := h
  have hlast : (piece :: pieces).getLast? = pieces.getLast? := by
    rw [List.getLast?_cons, List.getLast?_eq_some_getLast hpieces]
    rfl
  unfold AreWritten
  rw [List.flatMap_cons, hlast]
  by_cases hv : IsVerbatim piece
  · obtain ⟨hlit, hkept⟩ := hv.isLiteralPiece
    obtain ⟨t, rest, hnorm, ht⟩ := hopen
    refine ⟨piece :: texts, closing, .cons hkept htexts, ?_, hclosing⟩
    rw [hnorm] at hwritten
    rw [normalize_literal_append hlit hne hs hnorm ht, slashed, String.append_assoc, ← hwritten]
    simp [written, String.append_assoc]
  · obtain ⟨head, slots, hslot, hkept⟩ := exists_isSlottedPiece hv hs
    refine ⟨_ :: texts, closing, .cons hkept htexts, ?_, hclosing⟩
    rw [normalize_slotted_append hslot hs, Segment.writtenAll_cons, Segment.writtenAll_append, hwritten,
      slashed]
    simp [written, String.append_assoc]

theorem areWritten_pieces {pieces : List String} (hne : pieces ≠ [])
    (h : ∀ piece ∈ pieces, piece ≠ "" ∧ '/' ∉ piece.toList) : AreWritten pieces := by
  induction pieces with
  | nil => exact absurd rfl hne
  | cons piece pieces ih =>
    obtain ⟨⟨hpiece, hslash⟩, hrest⟩ := List.forall_mem_cons.1 h
    by_cases hlast : pieces = []
    · rw [hlast]
      exact areWritten_last hpiece hslash
    · obtain ⟨-, -, -, hopen⟩ := areSubstituted_pieces [] hlast hrest
      exact (ih hlast hrest).cons hlast hopen hpiece hslash

/-! ### The whole path -/

/-- Texts that are joined by slashes are the pieces of a path, but for those that are empty. -/
theorem pieces_joinWith {texts : List String} (hne : texts ≠ []) (h : ∀ text ∈ texts, '/' ∉ text.toList) :
    pieces (Text.joinWith "/" texts) = texts.filter fun text => !text.isEmpty := by
  have hsplit : Text.split '/' (Text.joinWith "/" texts) = texts := Text.split_joinWith hne h
  rw [pieces, hsplit]

/-- A path of texts behind a slash each has these texts for pieces, whether or not a slash follows. -/
theorem pieces_slashed {texts : List String} {closing : String} (hne : texts ≠ [])
    (h : ∀ text ∈ texts, text ≠ "" ∧ '/' ∉ text.toList) (hclosing : closing = "/" ∨ closing = "") :
    pieces ("/" ++ Text.joinWith "/" texts ++ closing) = texts := by
  have hslash : ∀ text ∈ "" :: texts, '/' ∉ text.toList :=
    List.forall_mem_cons.2 ⟨by simp, fun text htext => (h text htext).2⟩
  have hfilter : texts.filter (fun text => !text.isEmpty) = texts :=
    List.filter_eq_self.2 fun text htext => by simpa using (h text htext).1
  have hfront : "/" ++ Text.joinWith "/" texts = Text.joinWith "/" ("" :: texts) := by
    rw [Text.joinWith_cons "/" "" hne]
    simp
  rw [hfront]
  rcases hclosing with rfl | rfl
  · have hend : Text.joinWith "/" ("" :: texts) ++ "/" = Text.joinWith "/" ("" :: texts ++ [""]) := by
      rw [Text.joinWith_concat "/" (List.cons_ne_nil _ _), String.append_empty]
    have hall : ∀ text ∈ "" :: texts ++ [""], '/' ∉ text.toList :=
      List.forall_mem_append.2 ⟨hslash, by simp⟩
    rw [hend, pieces_joinWith (List.concat_ne_nil _ _) hall]
    simp [hfilter]
  · rw [String.append_empty, pieces_joinWith (List.cons_ne_nil _ _) hslash]
    simp [hfilter]

/-- What is kept of pieces is filled and holds no slash, as they are. -/
theorem forall_mem_of_kept {ps texts : List String} (h : List.Forall₂ KeptText ps texts)
    (hps : ∀ piece ∈ ps, piece ≠ "" ∧ '/' ∉ piece.toList) :
    ∀ text ∈ texts, text ≠ "" ∧ '/' ∉ text.toList := by
  induction h with
  | nil => exact hps
  | cons hkept _ ih =>
    obtain ⟨⟨hne, hs⟩, hrest⟩ := List.forall_mem_cons.1 hps
    exact List.forall_mem_cons.2 ⟨⟨hkept.ne_empty hne, hkept.slash_not_mem hs⟩, ih hrest⟩

/-- Texts that are kept of pieces have the segments of the pieces. -/
theorem flatMap_pieceSegments_of_kept {ps texts : List String} (h : List.Forall₂ KeptText ps texts) :
    texts.flatMap pieceSegments = ps.flatMap pieceSegments := by
  induction h with
  | nil => rfl
  | cons hkept _ ih => rw [List.flatMap_cons, List.flatMap_cons, hkept.pieceSegments_eq, ih]

/-- **Parsing loses no text**: the segments of a path are written as its pieces that are not empty, each
behind a slash, and with a slash behind them if the last one stands for itself; a path without pieces is
written as nothing. Of a piece only the line feed behind a group is not kept. What is written has the same
segments. -/
theorem writtenAll_parse (path : String) :
    (∃ texts, List.Forall₂ KeptText (pieces path) texts ∧
      (pieces path = [] → writtenAll (parse path) = "") ∧
      ∀ last, (pieces path).getLast? = some last →
        (IsVerbatim last → writtenAll (parse path) = "/" ++ Text.joinWith "/" texts ++ "/") ∧
        (¬ IsVerbatim last → writtenAll (parse path) = "/" ++ Text.joinWith "/" texts)) ∧
    parse (writtenAll (parse path)) = parse path := by
  by_cases hne : pieces path = []
  · -- a path of slashes has no segments, and is written as nothing
    have hparse : parse path = [] := by
      rw [parse, hne]
      rfl
    rw [hparse, hne]
    have hnone (last : String) : ([] : List String).getLast? ≠ some last := by simp
    exact ⟨⟨[], .nil, fun _ => Segment.writtenAll_nil, fun last h => absurd h (hnone last)⟩, by decide⟩
  · obtain ⟨texts, closing, htexts, hwritten, hclosing⟩ :=
      areWritten_pieces hne fun piece => pieces_mem
    rw [← parse] at hwritten
    have hkept : texts ≠ [] := by
      rintro rfl
      exact hne (List.forall₂_nil_right_iff.1 htexts)
    rw [← slash_joinWith hkept] at hwritten
    refine ⟨⟨texts, htexts, fun h => absurd h hne, fun last hlast => ?_⟩, ?_⟩
    · -- what closes the text is told by the last piece
      obtain ⟨hverbatim, hother⟩ := hclosing last hlast
      refine ⟨fun h => ?_, fun h => ?_⟩
      · rw [hwritten, hverbatim h]
      · rw [hwritten, hother h, String.append_empty]
    · -- the text has the pieces that are kept, which have the same segments
      have hends : closing = "/" ∨ closing = "" := by
        obtain ⟨hverbatim, hother⟩ := hclosing _ (List.getLast?_eq_some_getLast hne)
        by_cases h : IsVerbatim ((pieces path).getLast hne)
        · exact .inl (hverbatim h)
        · exact .inr (hother h)
      have hfree := forall_mem_of_kept htexts fun piece => pieces_mem
      rw [hwritten, parse, pieces_slashed hkept hfree hends, flatMap_pieceSegments_of_kept htexts, ← parse]

/-- The line feed behind the group is not kept, and a slash stands behind the literal at the end. -/
example : writtenAll (parse "a(b)\n//c") = "/a(b)/c/" := by
  decide +kernel

end Path
end RouteHelpers
