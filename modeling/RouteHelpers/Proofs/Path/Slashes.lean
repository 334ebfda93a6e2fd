import Mathlib.Data.List.Chain
import RouteHelpers.Proofs.Path.Substitution
import RouteHelpers.Proofs.Text.Percent
import RouteHelpers.Proofs.Tracing

/-!
Where a built path has an empty segment.

Slashes in a row are collapsed when a pattern is parsed, and those at the end of a path are dropped when
it is built. In between, a piece that is one group and nothing else leaves nothing of itself if the
group is left out (`IsVacant`), and then two slashes meet. So for values that have no empty segments
themselves the path holds two slashes in a row exactly if a piece that is vacant stands before one that
is not:

    "//" not in the path  ↔  behind a vacant piece all pieces are vacant

The texts of pieces are all tidy: between them stand the slashes of the path, and neither a piece nor
an encoded value has one of its own. What carries the rest is `bare`, the texts with their slashes and
without those at the end, which is taken apart text by text (`bare_cons`).
-/

namespace RouteHelpers.Path

variable {params : Entries}

/-! ### Tidy texts -/

/-- No two slashes in a row. -/
def HasSingleSlashes (cs : List Char) : Prop :=
  ¬ ['/', '/'] <:+: cs

instance (cs : List Char) : Decidable (HasSingleSlashes cs) :=
  inferInstanceAs (Decidable ¬_)

/-- A text that may stand between slashes: it has none at either end and no two in a row. -/
structure IsTidy (s : String) : Prop where
  start : s.toList.head? ≠ some '/'
  ending : s.toList.getLast? ≠ some '/'
  inside : HasSingleSlashes s.toList

/-- Slashes are single if none is followed by another. -/
theorem hasSingleSlashes_iff {cs : List Char} :
    HasSingleSlashes cs ↔ cs.IsChain fun a b => a = '/' → b ≠ '/' := by
  rw [HasSingleSlashes, List.isChain_iff_forall_rel_of_append_cons_cons]
  constructor
  · rintro h a b front rest rfl rfl rfl
    exact h ⟨front, rest, by simp⟩
  · rintro h ⟨front, rest, rfl⟩
    exact h (by simp : _ = front ++ '/' :: '/' :: rest) rfl rfl

/-- Two texts with single slashes have single slashes together, unless two slashes meet. -/
theorem hasSingleSlashes_append_iff {xs ys : List Char} :
    HasSingleSlashes (xs ++ ys) ↔ HasSingleSlashes xs ∧ HasSingleSlashes ys ∧
      (xs.getLast? = some '/' → ys.head? ≠ some '/') := by
  simp only [hasSingleSlashes_iff, List.isChain_append]
  refine and_congr_right fun _ => and_congr_right fun _ => ?_
  constructor
  · exact fun h hx hy => h '/' hx '/' hy rfl rfl
  · rintro h x hx y hy rfl rfl
    exact h hx hy

theorem HasSingleSlashes.of_isInfix {xs ys : List Char} (h : HasSingleSlashes ys)
    (hpart : xs <:+: ys) : HasSingleSlashes xs :=
  fun hin => h (hin.trans hpart)

theorem hasSingleSlashes_of_not_mem {cs : List Char} (h : '/' ∉ cs) : HasSingleSlashes cs :=
  fun hin => h (hin.subset (by simp))

theorem hasSingleSlashes_of_length_le {cs : List Char} (h : cs.length ≤ 1) : HasSingleSlashes cs :=
  fun hin => absurd (hin.length_le.trans h) (by decide)

/-- A tidy text keeps the slashes apart that stand around it. -/
theorem IsTidy.hasSingleSlashes_append {s : String} (h : IsTidy s) (hne : s ≠ "")
    (rest : List Char) : HasSingleSlashes ('/' :: (s.toList ++ rest)) ↔ HasSingleSlashes rest := by
  have hinside := hasSingleSlashes_iff.1 h.inside
  -- no slash follows the one in front, and none meets the rest
  have hfront : ∀ y ∈ (s.toList ++ rest).head?, '/' = '/' → y ≠ '/' := by
    rintro y hy - rfl
    cases e : s.toList with
    | nil => exact hne (String.toList_eq_nil_iff.1 e)
    | cons c cs =>
      rw [e] at hy
      exact h.start (e ▸ hy)
  have hmeet : ∀ x ∈ s.toList.getLast?, ∀ y ∈ rest.head?, x = '/' → y ≠ '/' := by
    rintro x hx y - rfl
    exact absurd hx h.ending
  rw [hasSingleSlashes_iff, hasSingleSlashes_iff, List.isChain_cons, List.isChain_append]
  exact ⟨fun h => h.2.2.1, fun h => ⟨hfront, hinside, h, hmeet⟩⟩

theorem isTidy_of_not_mem {s : String} (h : '/' ∉ s.toList) : IsTidy s where
  start e := h (List.mem_of_head? e)
  ending e := h (List.mem_of_getLast? e)
  inside := hasSingleSlashes_of_not_mem h

theorem IsTidy.append {s t : String} (hs : IsTidy s) (ht : '/' ∉ t.toList) : IsTidy (s ++ t) := by
  constructor
  · rw [String.toList_append, List.head?_append]
    cases e : s.toList.head? with
    | none => exact fun h => ht (List.mem_of_head? h)
    | some c => exact fun h => hs.start (e.trans h)
  · rw [String.toList_append, List.getLast?_append]
    cases e : t.toList.getLast? with
    | none => exact hs.ending
    | some c => exact fun h => ht (List.mem_of_getLast? (e.trans h))
  · rw [String.toList_append, hasSingleSlashes_append_iff]
    exact ⟨hs.inside, hasSingleSlashes_of_not_mem ht, fun _ hy => ht (List.mem_of_head? hy)⟩

/-! ### Texts behind slashes -/

/-- Texts with a slash in front of each, less the slashes at the end. -/
def bare (texts : List String) : List Char :=
  Text.dropEndList (· == '/') (slashed texts).toList

theorem bare_eq_nil_iff_all {texts : List String} :
    bare texts = [] ↔ ((slashed texts).toList.all (· == '/')) = true := by
  rw [List.all_eq_true]
  exact List.rdropWhile_eq_nil_iff

theorem bare_singleton {text : String} (h : IsTidy text) (hne : text ≠ "") :
    Text.dropEndList (· == '/') ('/' :: text.toList) = '/' :: text.toList := by
  refine List.rdropWhile_eq_self_iff.2 fun hl hlast => h.ending ?_
  have hne' : text.toList ≠ [] := fun e => hne (String.toList_eq_nil_iff.1 e)
  rw [List.getLast?_eq_some_getLast hne']
  rw [List.getLast_cons hne'] at hlast
  exact congrArg some (eq_of_beq hlast)

/-- A text shows with its slash, unless it is empty and nothing but slashes comes behind it. -/
theorem bare_cons {text : String} (h : IsTidy text) (rest : List String) :
    bare (text :: rest)
      = if text = "" ∧ bare rest = [] then [] else '/' :: (text.toList ++ bare rest) := by
  have hslashed : (slashed (text :: rest)).toList
      = ('/' :: text.toList) ++ (slashed rest).toList := by
    simp [slashed]
  rw [bare, hslashed, Text.dropEndList_append]
  by_cases hrest : bare rest = []
  · rw [if_pos (bare_eq_nil_iff_all.1 hrest)]
    by_cases htext : text = ""
    · simp [hrest, htext, Text.dropEndList]
    · -- all slashes behind the text are dropped, and the text itself does not end in one
      rw [if_neg fun e => htext e.1, bare_singleton h htext, hrest, List.append_nil]
  · rw [if_neg fun e => hrest (bare_eq_nil_iff_all.2 e), if_neg fun e => hrest e.2, List.cons_append,
      bare]

theorem bare_eq_nil_iff {texts : List String} (h : ∀ text ∈ texts, IsTidy text) :
    bare texts = [] ↔ ∀ text ∈ texts, text = "" := by
  induction texts with
  | nil => simp [bare, slashed, Text.dropEndList]
  | cons text rest ih =>
    rw [List.forall_mem_cons] at h
    rw [bare_cons h.1, List.forall_mem_cons, ← ih h.2]
    by_cases hempty : text = "" ∧ bare rest = []
    · rw [if_pos hempty]
      exact iff_of_true rfl hempty
    · rw [if_neg hempty]
      exact iff_of_false (List.cons_ne_nil _ _) hempty

/-- What is left of texts behind slashes opens with a slash. -/
theorem head?_bare {texts : List String} (h : ∀ text ∈ texts, IsTidy text) (hne : bare texts ≠ []) :
    (bare texts).head? = some '/' := by
  cases texts with
  | nil => exact absurd rfl hne
  | cons text rest =>
    rw [bare_cons (h text List.mem_cons_self)] at hne ⊢
    by_cases hempty : text = "" ∧ bare rest = []
    · exact absurd (if_pos hempty) hne
    · rw [if_neg hempty]
      rfl

/-- Slashes are single if an empty text has only empty ones behind it. -/
theorem hasSingleSlashes_bare_iff {texts : List String} (h : ∀ text ∈ texts, IsTidy text) :
    HasSingleSlashes (bare texts) ↔ texts.Pairwise fun a b => a = "" → b = "" := by
  induction texts with
  | nil => simp [bare, slashed, Text.dropEndList, HasSingleSlashes]
  | cons text rest ih =>
    rw [List.forall_mem_cons] at h
    have hrest : (∀ next ∈ rest, text = "" → next = "") ↔ (text = "" → bare rest = []) := by
      rw [bare_eq_nil_iff h.2]
      exact ⟨fun e ht next hnext => e next hnext ht, fun e next hnext ht => e ht next hnext⟩
    rw [List.pairwise_cons, ← ih h.2, hrest, bare_cons h.1]
    by_cases htext : text = ""
    · -- nothing separates the slash of an empty text from what comes behind it
      by_cases hempty : bare rest = []
      · simp [htext, hempty]
      · obtain ⟨more, hmore⟩ := List.head?_eq_some_iff.1 (head?_bare h.2 hempty)
        have hdouble : ¬ HasSingleSlashes ('/' :: (text.toList ++ bare rest)) := by
          rw [htext, hmore]
          exact fun e => e ⟨[], more, rfl⟩
        rw [if_neg fun e => hempty e.2]
        exact iff_of_false hdouble fun e => hempty (e.1 htext)
    · rw [if_neg fun e => htext e.1, h.1.hasSingleSlashes_append htext]
      exact ⟨fun e => ⟨fun e' => absurd e' htext, e⟩, fun e => e.2⟩

/-! ### The texts of pieces -/

/-- The piece is a group and nothing else, and nothing is left of it. -/
def IsVacant (params : Entries) (piece : String) : Prop :=
  ∃ inner, HasGroup piece "" inner ∧ innerText params inner = .ok ""

/-- Each value that is bound leaves something of itself. -/
def HasNoEmptyValue (params : Entries) : Prop :=
  ∀ name text, boundText? params name = .ok (some text) → text ≠ ""

/-- The values of the globs among segments are tidy. -/
def HasTidyGlobs (params : Entries) (segments : List Segment) : Prop :=
  ∀ name, .glob name ∈ segments → ∀ text, boundText? params name = .ok (some text) → IsTidy text

/-- A bound text is that of an entry. -/
theorem exists_of_boundText? {name text : String} (h : boundText? params name = .ok (some text)) :
    ∃ e ∈ params, e.2.display = text := by
  obtain ⟨v, hv, htext⟩ := boundText?_eq_some_iff.1 h
  obtain ⟨-, rfl⟩ := writtenText_eq_ok_iff.1 htext
  have hget : Entries.get? (.text name) params = some v := (Option.filter_eq_some_iff.1 hv).1
  clear h hv htext
  induction params with
  | nil => cases hget
  | cons e rest ih =>
    rw [Entries.get?] at hget
    split at hget
    next => exact ⟨e, List.mem_cons_self, by cases hget; rfl⟩
    next =>
      obtain ⟨e', he', hdisplay⟩ := ih hget
      exact ⟨e', List.mem_cons_of_mem _ he', hdisplay⟩

theorem HasTidyGlobs.of_mem_pieces {path piece : String} (h : HasTidyGlobs params (parse path))
    (hpiece : piece ∈ pieces path) : HasTidyGlobs params (pieceSegments piece) :=
  fun name hname => h name ((mem_normalize_iff rfl).2 (List.mem_flatMap.2 ⟨piece, hpiece, hname⟩))

/-- The head of a group keeps its glob. -/
theorem HasGroup.glob_mem_pieceSegments {piece head inner name : String} (h : HasGroup piece head inner)
    (hname : .glob name ∈ plainPiece head) : .glob name ∈ pieceSegments piece := by
  have hhead : headSegments head = plainPiece head := by
    unfold plainPiece at hname
    unfold headSegments
    split at hname
    next => rfl
    next => rfl
    next => simp at hname
  rw [h.pieceSegments_eq, hhead]
  exact List.mem_append_left _ hname

theorem givenText_eq_ok_iff {name : List Char} {text : String} :
    givenText params name = .ok text ↔ boundText? params (String.ofList name) = .ok (some text) := by
  unfold givenText
  rcases boundText? params (String.ofList name) with fault | - | value <;> simp

theorem isTidy_plainText {piece text : String} (h : plainText params piece = .ok text)
    (hs : '/' ∉ piece.toList) (hglobs : HasTidyGlobs params (plainPiece piece)) : IsTidy text := by
  unfold plainText at h
  split at h
  next name hname =>
    obtain ⟨value, -, rfl⟩ := Except.map_eq_ok.1 h
    exact isTidy_of_not_mem (Text.slash_not_mem_percentEncode value)
  next name hname =>
    -- the value of a glob goes in as it is, and only what is known of it helps
    refine hglobs (String.ofList name) ?_ text (givenText_eq_ok_iff.1 h)
    rw [plainPiece, hname]
    simp
  next =>
    cases h
    exact isTidy_of_not_mem hs

/-- A piece without a parenthesis leaves something, unless it is empty. -/
theorem plainText_eq_empty_iff {piece text : String} (hvalues : HasNoEmptyValue params)
    (h : plainText params piece = .ok text) : text = "" ↔ piece = "" := by
  unfold plainText at h
  split at h
  next name hname =>
    obtain ⟨value, hvalue, rfl⟩ := Except.map_eq_ok.1 h
    rw [Text.percentEncode_eq_empty_iff]
    refine iff_of_false (hvalues _ _ (givenText_eq_ok_iff.1 hvalue)) ?_
    rintro rfl
    cases hname
  next name hname =>
    refine iff_of_false (hvalues _ _ (givenText_eq_ok_iff.1 h)) ?_
    rintro rfl
    cases hname
  next =>
    cases h
    rfl

theorem slash_not_mem_innerText {inner text : String} (h : innerText params inner = .ok text)
    (hs : '/' ∉ inner.toList) : '/' ∉ text.toList := by
  unfold innerText at h
  split at h
  next name _ =>
    obtain ⟨value, -, rfl⟩ := Except.map_eq_ok.1 h
    cases value with
    | none => simp
    | some value => simpa using Text.slash_not_mem_percentEncode value
  next name _ =>
    obtain ⟨value, -, rfl⟩ := Except.map_eq_ok.1 h
    cases value with
    | none => simp
    | some value => simpa using Text.slash_not_mem_percentEncode value
  next =>
    obtain rfl := Except.ok.inj h
    exact hs

/-- The text of a piece may stand between slashes. -/
theorem PieceText.isTidy {piece text : String} (h : PieceText params piece (.ok text))
    (hs : '/' ∉ piece.toList) (hglobs : HasTidyGlobs params (pieceSegments piece)) :
    IsTidy text := by
  -- the cases of the rule are told by the piece, and its result is what they compute
  generalize hresult : Except.ok text = result at h
  cases h with
  | plain hp =>
    refine isTidy_plainText hresult.symm hs ?_
    rwa [pieceSegments_of_not_mem hp] at hglobs
  | @group head inner hgroup =>
    obtain ⟨start, hstart, hrest⟩ := Except.bind_eq_ok.1 hresult.symm
    obtain ⟨behind, hbehind, htext⟩ := Except.bind_eq_ok.1 hrest
    obtain rfl := Except.ok.inj htext
    obtain ⟨hfront, hinner⟩ := hgroup.slash_not_mem hs
    have hhead : HasTidyGlobs params (plainPiece head) :=
      fun name hname => hglobs name (hgroup.glob_mem_pieceSegments hname)
    exact (isTidy_plainText hstart hfront hhead).append (slash_not_mem_innerText hbehind hinner)
  | malformed =>
    cases hresult
    exact isTidy_of_not_mem hs

/-- Nothing is left of a piece only if it is vacant. -/
theorem PieceText.eq_empty_iff {piece text : String} (h : PieceText params piece (.ok text))
    (hne : piece ≠ "") (hvalues : HasNoEmptyValue params) : text = "" ↔ IsVacant params piece := by
  generalize hresult : Except.ok text = result at h
  cases h with
  | plain hp =>
    rw [plainText_eq_empty_iff hvalues hresult.symm]
    exact iff_of_false hne fun ⟨_, hgroup, _⟩ => hp hgroup.mem
  | @group head inner hgroup =>
    obtain ⟨start, hstart, hrest⟩ := Except.bind_eq_ok.1 hresult.symm
    obtain ⟨behind, hbehind, htext⟩ := Except.bind_eq_ok.1 hrest
    obtain rfl := Except.ok.inj htext
    -- the head is empty if its text is, as no value is empty
    rw [String.append_eq_empty_iff, plainText_eq_empty_iff hvalues hstart]
    constructor
    · rintro ⟨rfl, rfl⟩
      exact ⟨inner, hgroup, hbehind⟩
    · rintro ⟨inner', hgroup', hinner⟩
      obtain ⟨rfl, rfl⟩ := hgroup.unique hgroup'
      exact ⟨rfl, Except.ok.inj (hbehind.symm.trans hinner)⟩
  | malformed hp hm =>
    cases hresult
    exact iff_of_false hne fun ⟨inner, hgroup, _⟩ => hm "" inner hgroup

/-! ### The whole path -/

/-- What there is in place of each element of a list is there, if it is there for all. -/
theorem forall₂_of_mapM_id {ε α β : Type} {R : α → Except ε β → Prop} {xs : List α}
    {results : List (Except ε β)} {ys : List β} (h : List.Forall₂ R xs results)
    (hys : results.mapM id = .ok ys) : List.Forall₂ (fun x y => R x (.ok y)) xs ys := by
  induction h generalizing ys with
  | nil =>
    cases hys
    exact .nil
  | cons hx _ ih =>
    obtain ⟨first, more, rfl, hmore, rfl⟩ := mapM_id_cons_eq_ok.1 hys
    exact .cons hx (ih hmore)

/-- A path is what is left of the texts behind slashes, or a slash if that is nothing. -/
theorem toList_ended (ts : List String) :
    (ended false ("/" ++ Text.joinWith "/" ts)).toList
      = if bare ts = [] then ['/'] else bare ts := by
  cases ts with
  | nil => rfl
  | cons text rest =>
    rw [slash_joinWith (List.cons_ne_nil _ _)]
    have hbare : Text.dropEnd (· == '/') (slashed (text :: rest))
        = String.ofList (bare (text :: rest)) := rfl
    by_cases h : bare (text :: rest) = []
    · simp [ended, hbare, h]
    · simp [ended, hbare, h]

/-- **Empty segments of a built path.** Built from values that are not empty, and tidy where they are
bound to a glob, a path starts with a slash. Two slashes are never in a row in it, unless a piece that
nothing is left of stands before one that shows. -/
theorem hasSingleSlashes_build_iff {path result : String} (hvalues : HasNoEmptyValue params)
    (hglobs : HasTidyGlobs params (parse path))
    (h : build (nodes (parse path)) params false = .ok result) :
    Text.startsWith "/" result = true ∧
      (HasSingleSlashes result.toList ↔
        (pieces path).Pairwise fun a b => IsVacant params a → IsVacant params b) := by
  obtain ⟨texts, htexts, hbuild⟩ := exists_texts path params false
  obtain ⟨ts, hts, rfl⟩ := Except.map_eq_ok.1 (hbuild.symm.trans h)
  -- the texts are tidy, and those of vacant pieces are the empty ones
  have heach : List.Forall₂
      (flip fun text piece => IsTidy text ∧ (IsVacant params piece ↔ text = "")) (pieces path) ts := by
    have hpieces := (List.forall₂_and_left _ _).2
      ⟨fun piece hpiece => hpiece, forall₂_of_mapM_id htexts hts⟩
    refine hpieces.imp fun piece text ⟨hpiece, htext⟩ => ?_
    obtain ⟨hne, hs⟩ := pieces_mem hpiece
    exact ⟨htext.isTidy hs (hglobs.of_mem_pieces hpiece),
      (htext.eq_empty_iff hne hvalues).symm⟩
  obtain ⟨htidy, hvacant⟩ := (List.forall₂_and_left _ _).1 heach.flip
  have hsame : (pieces path).map (IsVacant params) = ts.map (· = "") := by
    rw [← List.forall₂_eq_eq_eq, List.forall₂_map_left_iff, List.forall₂_map_right_iff]
    exact hvacant.flip.imp fun _ _ => propext
  have hpairwise : ((pieces path).Pairwise fun a b => IsVacant params a → IsVacant params b) ↔
      ts.Pairwise fun a b => a = "" → b = "" := by
    have hmap := List.pairwise_map (f := IsVacant params) (R := fun a b => a → b) (l := pieces path)
    rw [← hmap, hsame, List.pairwise_map]
  rw [hpairwise, ← hasSingleSlashes_bare_iff htidy, Text.startsWith, toList_ended]
  by_cases hnil : bare ts = []
  · -- nothing is left but the slash that stands for an empty path
    rw [if_pos hnil, hnil]
    exact ⟨rfl, iff_of_true (hasSingleSlashes_of_length_le (by decide))
      (hasSingleSlashes_of_length_le (by decide))⟩
  · rw [if_neg hnil]
    obtain ⟨rest, hrest⟩ := List.head?_eq_some_iff.1 (head?_bare htidy hnil)
    exact ⟨by rw [hrest]; rfl, Iff.rfl⟩

/-- A value for a glob, of two segments. -/
def docsParams : Entries :=
  [(.text "path", .text "docs/a.txt")]

theorem hasSingleSlashes_build_docsParams :
    HasNoEmptyValue docsParams ∧ HasTidyGlobs docsParams (parse "/files/*path(.:format)") ∧
      build (nodes (parse "/files/*path(.:format)")) docsParams false = .ok "/files/docs/a.txt" ∧
      Text.startsWith "/" "/files/docs/a.txt" = true ∧
      (HasSingleSlashes "/files/docs/a.txt".toList ↔ (pieces "/files/*path(.:format)").Pairwise
        fun a b => IsVacant docsParams a → IsVacant docsParams b) := by
  have hvalues : HasNoEmptyValue docsParams := by
    intro name text h
    obtain ⟨e, he, rfl⟩ := exists_of_boundText? h
    rw [List.mem_singleton.1 he]
    decide +kernel
  have hglobs : HasTidyGlobs docsParams (parse "/files/*path(.:format)") := by
    intro name _ text h
    obtain ⟨e, he, rfl⟩ := exists_of_boundText? h
    rw [List.mem_singleton.1 he]
    exact ⟨by decide +kernel, by decide +kernel, by decide +kernel⟩
  have hbuild : build (nodes (parse "/files/*path(.:format)")) docsParams false
      = .ok "/files/docs/a.txt" := by
    decide +kernel
  exact ⟨hvalues, hglobs, hbuild, hasSingleSlashes_build_iff hvalues hglobs hbuild⟩

/-- A group that is left out before a piece that shows makes a path that starts with two slashes. -/
theorem not_hasSingleSlashes_build_localePath :
    HasNoEmptyValue [] ∧ HasTidyGlobs [] (parse "/(:locale)/users") ∧
      build (nodes (parse "/(:locale)/users")) [] false = .ok "//users" ∧
      ¬ HasSingleSlashes "//users".toList :=
  ⟨fun _ _ h => (nomatch h), fun _ _ _ h => (nomatch h), by decide +kernel, by decide +kernel⟩

end RouteHelpers.Path
