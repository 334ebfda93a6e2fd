import RouteHelpers.Extract
import RouteHelpers.Proofs.Path.Required
import RouteHelpers.Proofs.Path.Substitution
import RouteHelpers.Resource.Key
import RouteHelpers.RouteFile.Routes

/-!
What the optional extension at the end of a path makes a difference to.

The paths of a routes file end in `(.:format)`, and those of other routers do not. Whether a path has
that ending makes no difference to what a route is taken for: actions and keys are told by the path
without its groups or by how it starts, the scope in a helper by its components in front of their groups,
and what is required by the slots outside of groups.

Building paths goes piece by piece, and the ending belongs to the last one. Behind a piece it leaves
nothing if no format is given. Behind a slash it is a piece of its own, of which nothing is left; the
slash in front of that is taken for the one at the end that is asked for, so one comes out that would not
be there else if the path before it ends in a slash already (`DoublesSlash`).
-/

namespace RouteHelpers

open RouteFile (formatEnding)

variable {path : String}

theorem toList_formatEnding :
    formatEnding.toList = '(' :: ".:format)".toList := by
  decide

/-- Of a text with the ending, the text stands in front of the first group. -/
theorem cut_append_format {piece : String} (h : '(' ∉ piece.toList) :
    (Text.cut '(' (piece ++ formatEnding)).1 = piece := by
  rw [Text.cut, String.toList_append, toList_formatEnding, Text.cutList_append h, String.ofList_toList]

theorem cut_of_not_mem {piece : String} (h : '(' ∉ piece.toList) : (Text.cut '(' piece).1 = piece := by
  rw [Text.cut, Text.cutList_of_not_mem h, String.ofList_toList]

/-! ### Actions -/

namespace Action

/-- Characters before the first group stay. -/
theorem dropGroupsFrom_append {cs : List Char} (h : '(' ∉ cs) (rest : List Char) :
    dropGroupsFrom none (cs ++ rest) = cs ++ dropGroupsFrom none rest := by
  induction cs with
  | nil => rfl
  | cons c cs ih =>
    rw [List.mem_cons, not_or] at h
    simp only [List.cons_append, dropGroupsFrom, Ne.symm h.1, if_false, ih h.2]

theorem dropGroups_append_format (h : '(' ∉ path.toList) :
    dropGroups (path ++ formatEnding) = dropGroups path := by
  have hending : dropGroupsFrom none formatEnding.toList = dropGroupsFrom none [] := by decide
  have hpath := dropGroupsFrom_append h []
  rw [List.append_nil] at hpath
  rw [dropGroups, dropGroups, String.toList_append, dropGroupsFrom_append h, hending, hpath]

/-- An action is told by the path without groups. -/
theorem infer_append_format (h : '(' ∉ path.toList) (name verb : String) :
    infer name verb (path ++ formatEnding) = infer name verb path := by
  rw [infer, infer, dropGroups_append_format h]

end Action

/-! ### Keys -/

namespace ResourceKey

theorem apiVersion?_append_format (path : String) :
    apiVersion? (path ++ formatEnding) = apiVersion? path := by
  unfold apiVersion?
  rw [Text.afterStart?_append toList_formatEnding (by decide)]
  cases Text.afterStart? "/api/v" path with
  | none => rfl
  | some rest =>
    -- the digits end where the ending starts at the latest, and no slash follows them there
    have hdigits : ((rest ++ formatEnding).toList.takeWhile Text.isDecimal)
        = rest.toList.takeWhile Text.isDecimal := by
      have hend : formatEnding.toList.takeWhile Text.isDecimal = [] := by decide
      rw [String.toList_append, List.takeWhile_append, hend, List.append_nil]
      split
      next hall => exact ((List.takeWhile_prefix _).eq_of_length hall).symm
      next => rfl
    have hle : (rest.toList.takeWhile Text.isDecimal).length ≤ rest.toList.length :=
      (List.takeWhile_prefix _).length_le
    have hnext : (((rest ++ formatEnding).toList.drop
          (rest.toList.takeWhile Text.isDecimal).length).head? == some '/')
        = ((rest.toList.drop (rest.toList.takeWhile Text.isDecimal).length).head? == some '/') := by
      rw [String.toList_append, List.drop_append_of_le_length hle, List.head?_append]
      cases (rest.toList.drop _).head? with
      | none => decide
      | some c => rfl
    simp only [Option.map_some, hdigits, hnext]

/-- A scope is told by the start of the path. -/
theorem scopeOfPath_append_format (path : String) :
    scopeOfPath (path ++ formatEnding) = scopeOfPath path := by
  rw [scopeOfPath, scopeOfPath, apiVersion?_append_format,
    Text.startsWith_append toList_formatEnding (by decide),
    Text.startsWith_append toList_formatEnding (by decide)]

theorem ofRoute_append_format (h : '(' ∉ path.toList) (g : Grouping) (r : Route) :
    ofRoute g { r with path := path ++ formatEnding } = ofRoute g { r with path } := by
  have hhelper : ofHelper { r with path := path ++ formatEnding } = ofHelper { r with path } := by
    simp only [ofHelper, scopeOfPath_append_format]
    rfl
  cases g with
  | scope =>
    show ofPath _ = ofPath _
    simp only [ofPath, Action.dropGroups_append_format h]
  | resource => exact hhelper
  | controller => exact hhelper

end ResourceKey

/-! ### Scopes in helpers -/

namespace Extract

/-- Of the last component only what stands before its group counts. -/
theorem staticComponents_append_last {last last' : String}
    (h : (Text.cut '(' last').1 = (Text.cut '(' last).1) (found : Bool) (front : List String) :
    staticComponents found (front ++ [last']) = staticComponents found (front ++ [last]) := by
  induction front generalizing found with
  | nil => simp only [List.nil_append, staticComponents, h]
  | cons c front ih => simp only [List.cons_append, staticComponents, ih]

theorem scopeToken_append_format (h : '(' ∉ path.toList) :
    scopeToken (path ++ formatEnding) = scopeToken path := by
  obtain ⟨front, last, hpath, hending⟩ := Text.exists_splitList_append '/' path.toList
  have hlast : '(' ∉ (String.ofList last).toList := by
    have hmem : last ∈ Text.splitList '/' path.toList := by
      rw [hpath]
      exact List.mem_append_right _ (List.mem_singleton_self _)
    rw [String.toList_ofList]
    exact fun hc => h (Text.mem_of_mem_splitList hmem hc)
  have hcut : (Text.cut '(' (String.ofList (last ++ formatEnding.toList))).1
      = (Text.cut '(' (String.ofList last)).1 := by
    rw [String.ofList_append, String.ofList_toList, cut_append_format hlast, cut_of_not_mem hlast]
  have hcomponents := staticComponents_append_last hcut false (front.map String.ofList)
  rw [scopeToken, scopeToken, Text.split, Text.split, String.toList_append, hpath,
    hending formatEnding.toList (by decide),
    List.map_append, List.map_append, List.map_singleton, List.map_singleton, hcomponents]

end Extract

/-! ### Pieces -/

namespace Path

variable {params : Entries}

theorem mem_of_mem_pieces {piece : String} (h : piece ∈ pieces path) {c : Char}
    (hc : c ∈ piece.toList) : c ∈ path.toList := by
  obtain ⟨cs, hcs, rfl⟩ := List.mem_map.1 (List.mem_of_mem_filter h)
  rw [String.toList_ofList] at hc
  exact Text.mem_of_mem_splitList hcs hc

/-- Behind a slash, or on its own, the ending is a piece. -/
theorem pieces_append_format_of_slash (h : path = "" ∨ Text.endsWith "/" path = true) :
    pieces (path ++ formatEnding) = pieces path ++ [formatEnding] := by
  rcases h with rfl | h
  · decide
  · obtain ⟨before, hbefore⟩ := List.isSuffixOf_iff_suffix.1 h
    have hpath : path = String.ofList before ++ String.singleton '/' ++ "" := by
      apply String.toList_injective
      simpa using hbefore.symm
    have hempty : Text.split '/' "" = [""] := by decide
    have hending : Text.split '/' formatEnding = [formatEnding] := by decide
    have hfilled : ([formatEnding].filter fun piece => !piece.isEmpty) = [formatEnding] := by decide
    have hlonger : path ++ formatEnding
        = String.ofList before ++ String.singleton '/' ++ formatEnding := by
      rw [hpath, String.append_empty]
    rw [pieces, pieces, hlonger, Text.split_append_sep, hending, List.filter_append, hfilled, hpath,
      Text.split_append_sep, hempty, List.filter_append]
    simp

/-- Behind anything else the ending goes to the last piece. -/
theorem exists_pieces_append_format (hne : path ≠ "") (h : Text.endsWith "/" path = false) :
    ∃ front last, pieces path = front ++ [last] ∧
      pieces (path ++ formatEnding) = front ++ [last ++ formatEnding] := by
  obtain hnil | ⟨before, c, hpath⟩ := List.eq_nil_or_concat path.toList
  · exact absurd (String.toList_eq_nil_iff.1 hnil) hne
  · rw [List.concat_eq_append] at hpath
    have hc : c ≠ '/' := by
      rintro rfl
      have hends : Text.endsWith "/" path = true :=
        List.isSuffixOf_iff_suffix.2 ⟨before, hpath.symm⟩
      rw [h] at hends
      cases hends
    -- without its last character, which is no slash, the path may have any ending that has none
    obtain ⟨front, last, -, hending⟩ := Text.exists_splitList_append '/' before
    have hpieces (ending : List Char) (hslash : '/' ∉ ending) (hfilled : ending ≠ []) :
        pieces (String.ofList (before ++ ending))
          = (front.map String.ofList).filter (fun piece => !piece.isEmpty)
              ++ [String.ofList (last ++ ending)] := by
      have hlast : ([String.ofList (last ++ ending)].filter fun piece => !piece.isEmpty)
          = [String.ofList (last ++ ending)] := by
        simp [hfilled]
      rw [pieces, Text.split, String.toList_ofList, hending ending hslash, List.map_append,
        List.filter_append, List.map_singleton, hlast]
    refine ⟨(front.map String.ofList).filter fun piece => !piece.isEmpty, String.ofList (last ++ [c]),
      ?_, ?_⟩
    · rw [← hpieces [c] (by simpa using hc.symm) (by simp), ← hpath, String.ofList_toList]
    · have hslash : '/' ∉ c :: formatEnding.toList := by
        rw [List.mem_cons, not_or]
        exact ⟨hc.symm, by decide⟩
      have hlonger := hpieces (c :: formatEnding.toList) hslash (List.cons_ne_nil _ _)
      have hpath' : path ++ formatEnding = String.ofList (before ++ c :: formatEnding.toList) := by
        apply String.toList_injective
        simp [hpath]
      rw [hpath', hlonger]
      refine congrArg (_ ++ [·]) (String.toList_injective ?_)
      simp

/-! ### Slots -/

/-- Merging literals leaves slots alone. -/
theorem filterMap_slotName?_normalize (segments : List Segment) :
    (normalize segments).filterMap Segment.slotName? = segments.filterMap Segment.slotName? := by
  induction segments with
  | nil => rfl
  | cons s rest ih =>
    rw [normalize_cons, List.filterMap_cons, ← ih]
    cases s with
    | literal text =>
      rcases normalize rest with - | ⟨next, more⟩
      · rfl
      · cases next <;> rfl
    | param name => rfl
    | glob name => rfl
    | group children => rfl

/-- The piece with the ending has the group of the ending. -/
theorem hasGroup_append_format {piece : String} (h : '(' ∉ piece.toList) :
    HasGroup (piece ++ formatEnding) piece ".:format" where
  first := h
  one_line := by decide
  form := .inl (by simp [formatEnding, String.append_assoc])

/-- The ending adds a group to the slots of a piece, and nothing outside of it. -/
theorem filterMap_slotName?_append_format {piece : String} (h : '(' ∉ piece.toList) :
    (pieceSegments (piece ++ formatEnding)).filterMap Segment.slotName?
      = (pieceSegments piece).filterMap Segment.slotName? := by
  have hgroup := hasGroup_append_format h
  rw [hgroup.pieceSegments_eq, pieceSegments_of_not_mem h, List.filterMap_append]
  rcases sigil_cases piece with ⟨name, hname⟩ | ⟨name, hname⟩ | ⟨hcolon, hstar⟩
  · simp [headSegments, hname, Segment.slotName?]
  · simp [headSegments, hname, Segment.slotName?]
  · simp only [headSegments, plainPiece]
    rfl

/-- **The slots that are required** are the same with the ending. -/
theorem requiredNames_append_format (h : '(' ∉ path.toList) :
    Segment.requiredNames (parse (path ++ formatEnding)) = Segment.requiredNames (parse path) := by
  rw [Segment.requiredNames_eq, Segment.requiredNames_eq, parse, parse, filterMap_slotName?_normalize,
    filterMap_slotName?_normalize]
  refine congrArg _ ?_
  by_cases hslash : path = "" ∨ Text.endsWith "/" path = true
  · -- a piece that is nothing but the ending has no slot outside of its group
    have hending : (pieceSegments formatEnding).filterMap Segment.slotName? = [] :=
      @filterMap_slotName?_append_format "" (by decide)
    rw [pieces_append_format_of_slash hslash, List.flatMap_append, List.filterMap_append,
      List.flatMap_singleton, hending, List.append_nil]
  · rw [not_or, Bool.not_eq_true] at hslash
    obtain ⟨front, last, hpath, hending⟩ := exists_pieces_append_format hslash.1 hslash.2
    have hlast : '(' ∉ last.toList := fun hc =>
      h (mem_of_mem_pieces (hpath ▸ List.mem_append_right _ (List.mem_singleton_self _)) hc)
    rw [hpath, hending, List.flatMap_append, List.flatMap_append, List.filterMap_append,
      List.filterMap_append, List.flatMap_singleton, List.flatMap_singleton,
      filterMap_slotName?_append_format hlast]

/-! ### Built paths -/

/-- With the ending there is one slash more at the end of a built path: a slash is asked for, there is one
at the end of the pattern, and the text in front of that is empty or ends in a slash. -/
structure DoublesSlash (params : Entries) (trailingSlash : Bool) (path : String) : Prop where
  asked : trailingSlash = true
  slash : Text.endsWith "/" path = true
  text : ∃ piece text, (pieces path).getLast? = some piece ∧ plainText params piece = .ok text ∧
    (text = "" ∨ Text.endsWith "/" text = true)

/-- The text of what stands in a piece in front of its group. -/
def headText (params : Entries) (piece : String) : Except BuildFault String :=
  plainText params (Text.cut '(' piece).1

theorem headText_of_not_mem {piece : String} (h : '(' ∉ piece.toList) :
    headText params piece = plainText params piece := by
  rw [headText, cut_of_not_mem h]

theorem headText_append_format {piece : String} (h : '(' ∉ piece.toList) :
    headText params (piece ++ formatEnding) = plainText params piece := by
  rw [headText, cut_append_format h]

/-- Nothing is left of the ending where no format is given. -/
theorem PieceText.append_format (hformat : boundText? params "format" = .ok none) {piece : String}
    (h : '(' ∉ piece.toList) : PieceText params (piece ++ formatEnding) (plainText params piece) := by
  have hinner : innerText params ".:format" = .ok "" := by
    have hname : String.ofList "format".toList = "format" := rfl
    show textIfBound params _ "format".toList = _
    rw [textIfBound, hname, hformat]
    rfl
  have htext : PieceText params (piece ++ formatEnding) _ := .group (hasGroup_append_format h)
  rw [hinner] at htext
  convert htext using 1
  cases plainText params piece <;> simp [bind, Except.bind]

/-- A path without groups becomes the texts of its pieces, with the ending and without. -/
theorem build_eq_headText (path : String) (hformat : boundText? params "format" = .ok none)
    (h : ∀ piece ∈ pieces path, ∃ plain, '(' ∉ plain.toList ∧
      (piece = plain ∨ piece = plain ++ formatEnding)) (trailingSlash : Bool) :
    build (nodes (parse path)) params trailingSlash
      = ((pieces path).mapM (headText params)).map fun ts =>
          ended trailingSlash ("/" ++ Text.joinWith "/" ts) := by
  refine build_eq_of_pieceText (fun piece hpiece => ?_) trailingSlash
  obtain ⟨plain, hplain, rfl | rfl⟩ := h piece hpiece
  · rw [headText_of_not_mem hplain]
    exact .plain hplain
  · rw [headText_append_format hplain]
    exact .append_format hformat hplain

/-- Texts in a row end in a slash if the last one does or is empty. -/
theorem endsWith_slash_slashed (texts : List String) (text : String) :
    Text.endsWith "/" (slashed (texts ++ [text])) = true ↔
      text = "" ∨ Text.endsWith "/" text = true := by
  induction texts with
  | nil =>
    have hone : slashed ([] ++ [text]) = "/" ++ text := by
      simp [slashed]
    rw [hone, endsWith_slash_iff, endsWith_slash_iff, String.toList_append, List.getLast?_append]
    by_cases htext : text = ""
    · simp [htext]
    · have hne : text.toList ≠ [] := fun h => htext (String.toList_eq_nil_iff.1 h)
      simp [htext, List.getLast?_eq_some_getLast hne]
  | cons first texts ih =>
    have hne : (slashed (texts ++ [text])).toList ≠ [] := fun h =>
      slashed_ne_empty (List.concat_ne_nil _ _) (String.toList_eq_nil_iff.1 h)
    rw [← ih, List.cons_append, slashed, endsWith_slash_iff, endsWith_slash_iff, String.toList_append,
      List.getLast?_append, List.getLast?_eq_some_getLast hne]
    simp

/-- Of a piece more of which nothing is left, a slash is left if one is asked for and the path has one at
its end already. -/
theorem ended_concat_empty (trailingSlash : Bool) (ts : List String) (text : String) :
    ended trailingSlash ("/" ++ Text.joinWith "/" (ts ++ [text] ++ [""]))
      = ended trailingSlash ("/" ++ Text.joinWith "/" (ts ++ [text]))
          ++ if trailingSlash = true ∧ (text = "" ∨ Text.endsWith "/" text = true) then "/" else "" := by
  have hlonger : "/" ++ Text.joinWith "/" (ts ++ [text] ++ [""])
      = "/" ++ Text.joinWith "/" (ts ++ [text]) ++ "/" := by
    rw [Text.joinWith_concat _ (List.concat_ne_nil _ _), String.append_empty, ← String.append_assoc]
  have hrow : "/" ++ Text.joinWith "/" (ts ++ [text]) = slashed (ts ++ [text]) :=
    slash_joinWith (List.concat_ne_nil _ _)
  simp only [hlonger, hrow, ← endsWith_slash_slashed ts]
  cases trailingSlash with
  | false => simp [ended, dropEnd_append_slash]
  | true =>
    have hends : Text.endsWith "/" (slashed (ts ++ [text]) ++ "/") = true := by
      simp [endsWith_slash_iff]
    by_cases hslash : Text.endsWith "/" (slashed (ts ++ [text])) = true
    · simp [ended, hends, hslash]
    · simp [ended, hends, hslash]

theorem doublesSlash_iff {trailingSlash : Bool} {piece text : String}
    (hslash : Text.endsWith "/" path = true) (hlast : (pieces path).getLast? = some piece)
    (htext : plainText params piece = .ok text) :
    DoublesSlash params trailingSlash path ↔
      trailingSlash = true ∧ (text = "" ∨ Text.endsWith "/" text = true) := by
  constructor
  · rintro ⟨hasked, -, piece', text', hlast', htext', hends⟩
    obtain rfl := Option.some.inj (hlast.symm.trans hlast')
    obtain rfl := Except.ok.inj (htext.symm.trans htext')
    exact ⟨hasked, hends⟩
  · rintro ⟨hasked, hends⟩
    exact ⟨hasked, hslash, piece, text, hlast, htext, hends⟩

/-- With the ending, pieces are plain or plain with the ending. -/
theorem exists_plain_of_mem_pieces (h : '(' ∉ path.toList) {piece : String}
    (hpiece : piece ∈ pieces (path ++ formatEnding)) :
    ∃ plain, '(' ∉ plain.toList ∧ (piece = plain ∨ piece = plain ++ formatEnding) := by
  have hplain : ∀ piece ∈ pieces path, '(' ∉ piece.toList :=
    fun piece hpiece hc => h (mem_of_mem_pieces hpiece hc)
  by_cases hslash : path = "" ∨ Text.endsWith "/" path = true
  · rw [pieces_append_format_of_slash hslash] at hpiece
    rcases List.mem_append.1 hpiece with hpiece | hpiece
    · exact ⟨piece, hplain piece hpiece, .inl rfl⟩
    · exact ⟨"", by decide, .inr (List.mem_singleton.1 hpiece)⟩
  · rw [not_or, Bool.not_eq_true] at hslash
    obtain ⟨front, last, hpieces, hending⟩ := exists_pieces_append_format hslash.1 hslash.2
    rw [hending] at hpiece
    rcases List.mem_append.1 hpiece with hpiece | hpiece
    · exact ⟨piece, hplain piece (hpieces ▸ List.mem_append_left _ hpiece), .inl rfl⟩
    · exact ⟨last, hplain last (by simp [hpieces]), .inr (List.mem_singleton.1 hpiece)⟩

/-- Behind a slash the ending is one more text, which is empty. -/
theorem mapM_headText_of_slash (params : Entries) (h : path = "" ∨ Text.endsWith "/" path = true) :
    (pieces (path ++ formatEnding)).mapM (headText params)
      = ((pieces path).mapM (headText params)).map (· ++ [""]) := by
  have hending : headText params formatEnding = .ok "" :=
    @headText_append_format params "" (by decide)
  rw [pieces_append_format_of_slash h, List.mapM_append, List.mapM_cons, hending]
  cases (pieces path).mapM (headText params) <;> rfl

/-- Behind a piece the ending changes no text. -/
theorem mapM_headText_of_piece (params : Entries) (hpath : '(' ∉ path.toList) (hne : path ≠ "")
    (h : Text.endsWith "/" path = false) :
    (pieces (path ++ formatEnding)).mapM (headText params) = (pieces path).mapM (headText params) := by
  obtain ⟨front, last, hpieces, hending⟩ := exists_pieces_append_format hne h
  have hlast : '(' ∉ last.toList := fun hc => hpath (mem_of_mem_pieces (by simp [hpieces]) hc)
  rw [hending, hpieces, List.mapM_append, List.mapM_append, List.mapM_cons, List.mapM_cons,
    headText_append_format hlast, headText_of_not_mem hlast]

/-- **Building with the ending** comes to the same, and to one slash more just if slashes are doubled. -/
theorem build_append_format (hpath : '(' ∉ path.toList)
    (hformat : boundText? params "format" = .ok none) (trailingSlash : Bool) :
    (¬ DoublesSlash params trailingSlash path →
      build (nodes (parse (path ++ formatEnding))) params trailingSlash
        = build (nodes (parse path)) params trailingSlash) ∧
    (DoublesSlash params trailingSlash path →
      build (nodes (parse (path ++ formatEnding))) params trailingSlash
        = (build (nodes (parse path)) params trailingSlash).map (· ++ "/")) := by
  have hplain : ∀ piece ∈ pieces path, '(' ∉ piece.toList :=
    fun piece hpiece hc => hpath (mem_of_mem_pieces hpiece hc)
  rw [build_eq_headText path hformat fun piece hpiece => ⟨piece, hplain piece hpiece, .inl rfl⟩,
    build_eq_headText (path ++ formatEnding) hformat fun piece => exists_plain_of_mem_pieces hpath]
  by_cases hslash : path = "" ∨ Text.endsWith "/" path = true
  · -- one text more, which is empty
    rw [mapM_headText_of_slash params hslash]
    obtain hnil | ⟨front, piece, hfront⟩ := List.eq_nil_or_concat (pieces path)
    · -- a path without pieces is a slash, however many it is written with
      rw [hnil]
      refine ⟨fun _ => ?_, fun ⟨_, _, piece, _, hlast, _⟩ => ?_⟩
      · cases trailingSlash <;> rfl
      · rw [hnil] at hlast
        cases hlast
    · rw [List.concat_eq_append] at hfront
      have hends : Text.endsWith "/" path = true := by
        refine hslash.resolve_left fun hempty => ?_
        rw [hempty] at hfront
        exact absurd hfront.symm (List.concat_ne_nil _ _)
      have hlast : (pieces path).getLast? = some piece := by
        rw [hfront, List.getLast?_concat]
      rw [hfront, List.mapM_append, List.mapM_cons,
        headText_of_not_mem (hplain piece (by simp [hfront]))]
      -- a piece without a text is missing in both, and the last text decides about the slash
      rcases front.mapM (headText params) with e | ts
      · exact ⟨fun _ => rfl, fun _ => rfl⟩
      rcases htext : plainText params piece with e | text
      · exact ⟨fun _ => rfl, fun _ => rfl⟩
      rw [doublesSlash_iff hends hlast htext]
      have hended := ended_concat_empty trailingSlash ts text
      refine ⟨fun h => ?_, fun h => ?_⟩
      · rw [if_neg h, String.append_empty] at hended
        exact congrArg Except.ok hended
      · rw [if_pos h] at hended
        exact congrArg Except.ok hended
  · -- the same texts
    rw [not_or, Bool.not_eq_true] at hslash
    rw [mapM_headText_of_piece params hpath hslash.1 hslash.2]
    exact ⟨fun _ => rfl, fun h => absurd h.slash (by rw [hslash.2]; decide)⟩

end Path

/-! ### Routes -/

/-- A record whose path has the ending. -/
def Record.withFormat (r : Record) : Record :=
  { r with path := r.path ++ formatEnding }

/-- **The ending makes no difference** to the action of a route, to its key by any grouping, to the scope
in its helper and to what it requires. Where no format is given it makes none to the paths that are built
either, but for a slash more at the end where slashes are doubled. -/
theorem Route.ofRecord_withFormat (n : Naming) (r : Record) (h : '(' ∉ r.path.toList) :
    let plain := Route.ofRecord n r
    let dotted := Route.ofRecord n r.withFormat
    Action.ofRoute dotted = Action.ofRoute plain ∧
    (∀ g, ResourceKey.ofRoute g dotted = ResourceKey.ofRoute g plain) ∧
    Extract.scopeToken dotted.path = Extract.scopeToken plain.path ∧
    dotted.required = plain.required ∧
    ∀ params trailingSlash, Path.boundText? params "format" = .ok none →
      (¬ Path.DoublesSlash params trailingSlash plain.path →
        Path.build dotted.tree params trailingSlash = Path.build plain.tree params trailingSlash) ∧
      (Path.DoublesSlash params trailingSlash plain.path →
        Path.build dotted.tree params trailingSlash
          = (Path.build plain.tree params trailingSlash).map (· ++ "/")) := by
  intro plain dotted
  refine ⟨Action.infer_append_format h _ _, fun g => ?_, Extract.scopeToken_append_format h,
    Path.requiredNames_append_format h, fun params trailingSlash hformat => ?_⟩
  · exact ResourceKey.ofRoute_append_format h g dotted
  · exact Path.build_append_format h hformat trailingSlash

/-- A route to files behind a slash, with a slash at its own end. -/
def filesRecord : Record :=
  ⟨"GET", "/files/*path/", some "files", none, false, []⟩

/-- The parameters of a path that ends in a slash itself. -/
def directoryParams : Entries :=
  [(.text "path", .text "docs/")]

theorem Route.ofRecord_withFormat_filesRecord :
    let plain := Route.ofRecord Settings.default.naming filesRecord
    let dotted := Route.ofRecord Settings.default.naming filesRecord.withFormat
    '(' ∉ filesRecord.path.toList ∧ Path.boundText? directoryParams "format" = .ok none ∧
    ¬ Path.DoublesSlash directoryParams false plain.path ∧
    Path.DoublesSlash directoryParams true plain.path ∧
    Action.ofRoute dotted = Action.ofRoute plain ∧
    (∀ g, ResourceKey.ofRoute g dotted = ResourceKey.ofRoute g plain) ∧
    Extract.scopeToken dotted.path = Extract.scopeToken plain.path ∧
    dotted.required = plain.required ∧
    Path.build dotted.tree directoryParams false = Path.build plain.tree directoryParams false ∧
    Path.build dotted.tree directoryParams true
      = (Path.build plain.tree directoryParams true).map (· ++ "/") := by
  intro plain dotted
  have hpath : '(' ∉ filesRecord.path.toList := by decide
  have hformat : Path.boundText? directoryParams "format" = .ok none := by decide
  have hsingle : ¬ Path.DoublesSlash directoryParams false plain.path := fun h => nomatch h.asked
  have hdouble : Path.DoublesSlash directoryParams true plain.path :=
    ⟨rfl, by decide, "*path", "docs/", by decide, by decide, .inr (by decide)⟩
  obtain ⟨haction, hkey, hscope, hrequired, hbuild⟩ :=
    Route.ofRecord_withFormat Settings.default.naming filesRecord hpath
  exact ⟨hpath, hformat, hsingle, hdouble, haction, hkey, hscope, hrequired,
    (hbuild directoryParams false hformat).1 hsingle, (hbuild directoryParams true hformat).2 hdouble⟩

/-- Of a slash that is there and one that is asked for, both come out with the ending. -/
theorem not_build_withFormat_filesRecord :
    '(' ∉ filesRecord.path.toList ∧ Path.boundText? directoryParams "format" = .ok none ∧
    Path.build (Route.ofRecord Settings.default.naming filesRecord).tree directoryParams true
      = .ok "/files/docs/" ∧
    Path.build (Route.ofRecord Settings.default.naming filesRecord.withFormat).tree directoryParams true
      = .ok "/files/docs//" := by
  decide +kernel

end RouteHelpers
