import RouteHelpers.Proofs.Path.Slashes
import RouteHelpers.Proofs.Path.Slots

/-!
The normal form of a path that is parsed.

The pieces of a path give segments that are put in a row, and literals that meet in the row become one.
What stands directly behind what follows one rule, before that and after it (`Joins`):

    a literal    starts with a slash
    a slot       stands behind a literal that ends with a slash
    a group      stands behind anything but a group

Merging keeps the rule step by step, since a merged literal starts as the first of its parts does and
ends as the second one does (`isChain_consSegment`, `isChain_normalize`). What the row may have too
much of, literals next to each other and slashes in a row, is what merging takes away
(`hasNormalLiterals_normalize`). The members of a group are merged in the same way, and have one of four
forms (`IsGroupForm`).
-/

namespace RouteHelpers.Path

variable {a s : Segment} {raw rest : List Segment} {text : String}

/-! ### Texts whose slashes are collapsed -/

theorem head?_squeezeList (cs : List Char) : (squeezeList cs).head? = cs.head? := by
  fun_induction squeezeList cs with
  | case1 => rfl
  | case2 rest ih => exact ih
  | case3 => rfl

theorem getLast?_squeezeList (cs : List Char) : (squeezeList cs).getLast? = cs.getLast? := by
  fun_induction squeezeList cs with
  | case1 => rfl
  | case2 rest ih => rw [ih, List.getLast?_cons_cons]
  | case3 c rest _ ih => rw [List.getLast?_cons, List.getLast?_cons, ih]

theorem hasSingleSlashes_squeezeList (cs : List Char) : HasSingleSlashes (squeezeList cs) := by
  rw [hasSingleSlashes_iff]
  fun_induction squeezeList cs with
  | case1 => exact .nil
  | case2 rest ih => exact ih
  | case3 c rest hother ih =>
    refine List.isChain_cons.2 ⟨fun d hd => ?_, ih⟩
    rw [head?_squeezeList] at hd
    rintro rfl rfl
    obtain ⟨more, rfl⟩ := List.head?_eq_some_iff.1 hd
    exact hother more rfl rfl

theorem startsWith_slash_iff : Text.startsWith "/" text = true ↔ text.toList.head? = some '/' := by
  rw [Text.startsWith, List.isPrefixOf_iff_prefix, List.head?_eq_some_iff]
  exact exists_congr fun rest => eq_comm

theorem startsWith_squeeze (text : String) :
    Text.startsWith "/" (squeeze text) = Text.startsWith "/" text := by
  rw [Bool.eq_iff_iff, startsWith_slash_iff, startsWith_slash_iff, squeeze, String.toList_ofList,
    head?_squeezeList]

theorem endsWith_squeeze (text : String) :
    Text.endsWith "/" (squeeze text) = Text.endsWith "/" text := by
  rw [Bool.eq_iff_iff, endsWith_slash_iff, endsWith_slash_iff, squeeze, String.toList_ofList,
    getLast?_squeezeList]

theorem startsWith_slash_of_append {t : String} (h : Text.startsWith "/" t = true) (u : String) :
    Text.startsWith "/" (t ++ u) = true := by
  rw [startsWith_slash_iff] at h ⊢
  rw [String.toList_append, List.head?_append, h, Option.some_or]

theorem endsWith_slash_of_append (t : String) {u : String} (h : Text.endsWith "/" u = true) :
    Text.endsWith "/" (t ++ u) = true := by
  rw [endsWith_slash_iff] at h ⊢
  rw [String.toList_append, List.getLast?_append, h, Option.some_or]

/-- A text that a normalized literal can have: there is something of it, and its slashes are single. -/
structure IsNormalText (text : String) : Prop where
  nonempty : text ≠ ""
  single : HasSingleSlashes text.toList

theorem isNormalText_squeeze (h : text ≠ "") : IsNormalText (squeeze text) where
  nonempty hempty := by
    rw [← String.toList_eq_nil_iff, squeeze, String.toList_ofList, ← List.head?_eq_none_iff,
      head?_squeezeList, List.head?_eq_none_iff, String.toList_eq_nil_iff] at hempty
    exact h hempty
  single := by
    rw [squeeze, String.toList_ofList]
    exact hasSingleSlashes_squeezeList _

/-! ### Literals among segments -/

/-- No two literals are next to each other, and each has a text with single slashes. -/
structure HasNormalLiterals (segments : List Segment) : Prop where
  apart : segments.IsChain fun a b => isLiteral a = true → isLiteral b = false
  normal : ∀ text, .literal text ∈ segments → IsNormalText text

namespace HasNormalLiterals

theorem tail (h : HasNormalLiterals (s :: rest)) : HasNormalLiterals rest where
  apart := h.apart.tail
  normal t ht := h.normal t (List.mem_cons_of_mem _ ht)

theorem cons_literal (h : HasNormalLiterals rest) (hapart : ∀ b ∈ rest.head?, isLiteral b = false)
    (htext : text ≠ "") : HasNormalLiterals (.literal (squeeze text) :: rest) where
  apart := List.isChain_cons.2 ⟨fun b hb _ => hapart b hb, h.apart⟩
  normal t ht := by
    rcases List.mem_cons.1 ht with heq | ht
    · rw [Segment.literal.inj heq]
      exact isNormalText_squeeze htext
    · exact h.normal t ht

theorem cons_of_not_literal (h : HasNormalLiterals rest) (hs : isLiteral s = false) :
    HasNormalLiterals (s :: rest) where
  apart := List.isChain_cons.2 ⟨fun _ _ hliteral => absurd (hs.symm.trans hliteral) (by decide), h.apart⟩
  normal t ht := by
    rcases List.mem_cons.1 ht with rfl | ht
    · cases hs
    · exact h.normal t ht

/-- One segment more: a literal that meets another one takes its place. -/
theorem consSegment (h : HasNormalLiterals rest) (hs : ∀ t, s = .literal t → t ≠ "") :
    HasNormalLiterals (consSegment s rest) := by
  obtain ⟨t, u, more, rfl, rfl, heq⟩ | ⟨t, rfl, hapart, heq⟩ | ⟨hother, heq⟩ :=
    consSegment_cases s rest
  · have hmore : ∀ b ∈ more.head?, isLiteral b = false :=
      fun b hb => (List.isChain_cons.1 h.apart).1 b hb rfl
    rw [heq]
    exact h.tail.cons_literal hmore fun hempty => hs t rfl (String.append_eq_empty_iff.1 hempty).1
  · rw [heq]
    exact h.cons_literal hapart (hs t rfl)
  · rw [heq]
    exact h.cons_of_not_literal hother

end HasNormalLiterals

/-- **Literals are normalized** if each has a text, whatever segments they stand among. -/
theorem hasNormalLiterals_normalize (h : ∀ t, .literal t ∈ raw → t ≠ "") :
    HasNormalLiterals (normalize raw) := by
  induction raw with
  | nil => exact ⟨.nil, fun _ ht => nomatch ht⟩
  | cons s rest ih =>
    rw [normalize_cons]
    refine (ih fun t ht => h t (List.mem_cons_of_mem _ ht)).consSegment fun t hs => h t ?_
    exact hs ▸ List.mem_cons_self

/-! ### What stands behind what -/

/-- Whether a segment is a group. -/
def isGroup : Segment → Bool
  | .group _ => true
  | _ => false

/-- What may stand directly behind a segment. -/
inductive Joins : Segment → Segment → Prop
  | literal {a : Segment} {text : String} :
      Text.startsWith "/" text = true → Joins a (.literal text)
  | param {text name : String} : Text.endsWith "/" text = true → Joins (.literal text) (.param name)
  | glob {text name : String} : Text.endsWith "/" text = true → Joins (.literal text) (.glob name)
  | group {a : Segment} {children : List Segment} : isGroup a = false → Joins a (.group children)

/-- Behind a group may only stand a literal that starts with a slash. -/
theorem joins_group_iff {children : List Segment} :
    Joins (.group children) s ↔ ∃ text, s = .literal text ∧ Text.startsWith "/" text = true := by
  constructor
  · rintro (hstart | - | - | hgroup)
    · exact ⟨_, rfl, hstart⟩
    · cases hgroup
  · rintro ⟨text, rfl, hstart⟩
    exact .literal hstart

/-- What may stand behind a literal may stand behind another one, if that ends in a slash where the first
does. -/
theorem Joins.of_endsWith {t u : String} (h : Joins (.literal t) s)
    (hend : Text.endsWith "/" t = true → Text.endsWith "/" u = true) : Joins (.literal u) s := by
  cases h with
  | literal hstart => exact .literal hstart
  | param hslash => exact .param (hend hslash)
  | glob hslash => exact .glob (hend hslash)
  | group => exact .group rfl

theorem startsWith_of_mem (h : (a :: raw).IsChain Joins) (htext : .literal text ∈ raw) :
    Text.startsWith "/" text = true := by
  induction raw generalizing a with
  | nil => cases htext
  | cons s rest ih =>
    obtain ⟨has, hrest⟩ := List.isChain_cons_cons.1 h
    rcases List.mem_cons.1 htext with rfl | htext
    · obtain ⟨hstart⟩ := has
      exact hstart
    · exact ih hrest htext

/-- **One step of merging** keeps what stands behind what, with any segment in front. -/
theorem isChain_consSegment (h : (a :: s :: rest).IsChain Joins) :
    (a :: consSegment s rest).IsChain Joins := by
  obtain ⟨has, hrest⟩ := List.isChain_cons_cons.1 h
  obtain ⟨t, u, more, rfl, rfl, heq⟩ | ⟨t, rfl, -, heq⟩ | ⟨-, heq⟩ := consSegment_cases s rest
  · obtain ⟨hstart⟩ := has
    obtain ⟨hmore, hchain⟩ := List.isChain_cons.1 (List.isChain_cons_cons.1 hrest).2
    rw [heq, List.isChain_cons_cons, List.isChain_cons]
    refine ⟨.literal ?_, fun b hb => (hmore b hb).of_endsWith fun hend => ?_, hchain⟩
    · rw [startsWith_squeeze]
      exact startsWith_slash_of_append hstart u
    · rw [endsWith_squeeze]
      exact endsWith_slash_of_append t hend
  · obtain ⟨hstart⟩ := has
    obtain ⟨hmore, hchain⟩ := List.isChain_cons.1 hrest
    rw [heq, List.isChain_cons_cons, List.isChain_cons]
    refine ⟨.literal ?_, fun b hb => (hmore b hb).of_endsWith fun hend => ?_, hchain⟩
    · rwa [startsWith_squeeze]
    · rwa [endsWith_squeeze]
  · rwa [heq]

/-- **Merging keeps what stands behind what**, with any segment in front. -/
theorem isChain_normalize (h : (a :: raw).IsChain Joins) : (a :: normalize raw).IsChain Joins := by
  induction raw generalizing a with
  | nil => exact h
  | cons s rest ih =>
    obtain ⟨has, hrest⟩ := List.isChain_cons_cons.1 h
    rw [normalize_cons]
    exact isChain_consSegment (List.isChain_cons_cons.2 ⟨has, ih hrest⟩)

/-! ### Segments of pieces -/

theorem isChain_plainPiece (a : Segment) (piece : String) :
    (a :: plainPiece piece).IsChain Joins := by
  unfold plainPiece
  split
  · exact .cons_cons (.literal rfl) (.cons_cons (.param rfl) (.singleton _))
  · exact .cons_cons (.literal rfl) (.cons_cons (.glob rfl) (.singleton _))
  · rw [String.append_assoc]
    exact .cons_cons (.literal (startsWith_slash_of_append rfl _)) (.singleton _)

/-- A group attaches to the head in front of it, be that a slot or a literal. -/
theorem isChain_headSegments (a : Segment) (head : String) (children : List Segment) :
    (a :: (headSegments head ++ [.group children])).IsChain Joins := by
  rcases sigil_cases head with ⟨name, h⟩ | ⟨name, h⟩ | ⟨hcolon, hstar⟩
  · have hhead : headSegments head = [.literal "/", .param (String.ofList name)] := by
      simp [headSegments, plainPiece, h]
    rw [hhead]
    exact .cons_cons (.literal rfl) (.cons_cons (.param rfl) (.cons_cons (.group rfl) (.singleton _)))
  · have hhead : headSegments head = [.literal "/", .glob (String.ofList name)] := by
      simp [headSegments, plainPiece, h]
    rw [hhead]
    exact .cons_cons (.literal rfl) (.cons_cons (.glob rfl) (.cons_cons (.group rfl) (.singleton _)))
  · have hhead : headSegments head = [.literal ("/" ++ head)] := by
      simp [headSegments]
    rw [hhead]
    exact .cons_cons (.literal (startsWith_slash_of_append rfl _)) (.cons_cons (.group rfl) (.singleton _))

/-- The segments of a piece may stand behind any segment. -/
theorem isChain_pieceSegments (a : Segment) (piece : String) :
    (a :: pieceSegments piece).IsChain Joins := by
  unfold pieceSegments
  split
  · split
    next head inner _ => exact isChain_headSegments a head _
    next =>
      rw [String.append_assoc]
      exact .cons_cons (.literal (startsWith_slash_of_append rfl _)) (.singleton _)
  · exact isChain_plainPiece a piece

/-- So pieces may stand in any row. -/
theorem isChain_flatMap_pieceSegments (a : Segment) (pieces : List String) :
    (a :: pieces.flatMap pieceSegments).IsChain Joins := by
  induction pieces generalizing a with
  | nil => exact .singleton a
  | cons piece pieces ih =>
    rw [List.flatMap_cons, ← List.cons_append, List.isChain_append]
    -- the segment that is last in front has the next pieces behind it, as any segment may
    exact ⟨isChain_pieceSegments a piece, (ih a).tail,
      fun x _ y hy => (List.isChain_cons.1 (ih x)).1 y hy⟩

/-- The members that a group can have. -/
inductive IsGroupForm : List Segment → Prop
  | empty : IsGroupForm []
  | literal (text : String) : IsGroupForm [.literal text]
  | param (name : String) : IsGroupForm [.param name]
  | dotted (name : String) : IsGroupForm [.literal ".", .param name]

theorem isGroupForm_normalize_groupMembers (inner : String) :
    IsGroupForm (normalize (groupMembers inner)) := by
  unfold groupMembers
  split
  · exact .dotted _
  · exact .param _
  · exact .empty
  · exact .literal _

theorem ne_empty_of_mem_groupMembers {inner : String} (h : .literal text ∈ groupMembers inner) :
    text ≠ "" := by
  unfold groupMembers at h
  split at h
  · rcases List.mem_pair.1 h with heq | heq
    · rw [Segment.literal.inj heq]
      decide
    · cases heq
  · cases List.mem_singleton.1 h
  · cases h
  next hnil =>
    rw [Segment.literal.inj (List.mem_singleton.1 h)]
    exact fun hempty => hnil (String.toList_eq_nil_iff.2 hempty)

/-! ### The whole path -/

/-- Segments in normal form: the literals are normal, the first segment is one that starts with a slash,
each further segment may stand behind the one in front of it, and the members of groups have one of the
forms that they can have. -/
structure IsNormal (segments : List Segment) : Prop where
  literals : HasNormalLiterals segments
  first : ∀ s ∈ segments.head?, ∃ text, s = .literal text ∧ Text.startsWith "/" text = true
  joints : segments.IsChain Joins
  groups : ∀ children, .group children ∈ segments → HasNormalLiterals children ∧ IsGroupForm children

/-- A path has no segments if it has no pieces, that is, if it is made of slashes. -/
theorem parse_eq_nil_iff (path : String) : parse path = [] ↔ ∀ c ∈ path.toList, c = '/' := by
  have hpieces : pieces path = [] ↔ ∀ c ∈ path.toList, c = '/' := by
    rw [← Text.forall_mem_splitList_eq_nil_iff, pieces, List.filter_eq_nil_iff, Text.split]
    simp
  rw [← hpieces]
  constructor
  · intro hparse
    by_contra hne
    obtain ⟨-, -, -, t, rest, hopen, -⟩ := areSubstituted_pieces [] hne fun piece => pieces_mem
    rw [← parse, hparse] at hopen
    cases hopen
  · intro hnil
    rw [parse, hnil]
    rfl

/-- **A path that is parsed is in normal form.** It has no segments only if it is made of slashes. -/
theorem isNormal_parse (path : String) :
    IsNormal (parse path) ∧ (parse path = [] ↔ ∀ c ∈ path.toList, c = '/') := by
  -- at the start of a path may stand what may stand behind a group
  have hraw := isChain_flatMap_pieceSegments (.group []) (pieces path)
  have hchain : (.group [] :: parse path).IsChain Joins := isChain_normalize hraw
  refine ⟨⟨?literals, ?first, hchain.tail, ?groups⟩, parse_eq_nil_iff path⟩
  case literals =>
    refine hasNormalLiterals_normalize fun t ht hempty => ?_
    have hstart := startsWith_of_mem hraw ht
    rw [hempty] at hstart
    exact absurd hstart (by decide)
  case first =>
    intro s hs
    exact joins_group_iff.1 ((List.isChain_cons.1 hchain).1 s hs)
  case groups =>
    intro children hgroup
    obtain ⟨piece, -, hpiece⟩ := List.mem_flatMap.1 ((mem_normalize_iff rfl).1 hgroup)
    obtain ⟨inner, rfl⟩ := exists_of_group_mem_pieceSegments hpiece
    have hfilled : ∀ t, .literal t ∈ groupMembers inner → t ≠ "" := fun t => ne_empty_of_mem_groupMembers
    exact ⟨hasNormalLiterals_normalize hfilled, isGroupForm_normalize_groupMembers inner⟩

/-- Literals that meet share a slash. A group attaches to what is in front of it, and has a slash there if
it is a piece of its own. -/
example : parse "a//:b(.:c)/(d)/e" =
    [.literal "/a/", .param "b", .group [.literal ".", .param "c"], .literal "/",
      .group [.literal "d"], .literal "/e/"] :=
  rfl

end RouteHelpers.Path
