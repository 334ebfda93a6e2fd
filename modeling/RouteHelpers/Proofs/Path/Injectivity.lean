import RouteHelpers.Proofs.Path.Slashes

/-!
Different parameters build different paths.

On a pattern without groups and globs nothing is left out and nothing is written as it is, so the path
tells the text of each parameter:

    build path params = build path params'  ↔  params and params' bind the same texts

A path is what is left of the texts of its pieces behind slashes. Its length in pieces is that of the
pattern, and no encoded text holds a slash; so the texts can be found again from the path, those that
are empty at its end included (`ended_inj`). The text of a parameter is found again from its encoded
form (`Text.percentEncode_injective`).
-/

namespace RouteHelpers.Path

variable {params params' : Entries} {path : String}

/-! ### Texts behind slashes -/

/-- Two lists that agree up to a slash, which is in neither front, have the same front. -/
theorem append_inj_of_slash {xs ys front back : List Char} (hxs : '/' ∉ xs) (hys : '/' ∉ ys)
    (hfront : ∀ c ∈ front.head?, c = '/') (hback : ∀ c ∈ back.head?, c = '/')
    (h : xs ++ front = ys ++ back) : xs = ys ∧ front = back := by
  induction xs generalizing ys with
  | nil =>
    cases ys with
    | nil => exact ⟨rfl, h⟩
    | cons y ys =>
      -- what follows the first front would start with a character of the second
      rw [List.nil_append, List.cons_append] at h
      obtain rfl : y = '/' := hfront y (by rw [h]; rfl)
      exact absurd List.mem_cons_self hys
  | cons x xs ih =>
    cases ys with
    | nil =>
      rw [List.nil_append, List.cons_append] at h
      obtain rfl : x = '/' := hback x (by rw [← h]; rfl)
      exact absurd List.mem_cons_self hxs
    | cons y ys =>
      rw [List.cons_append, List.cons_append] at h
      obtain ⟨rfl, hrest⟩ := List.cons.inj h
      rw [List.mem_cons, not_or] at hxs hys
      obtain ⟨rfl, hmore⟩ := ih hxs.2 hys.2 hrest
      exact ⟨rfl, hmore⟩

/-- As many texts are found again from what is left of them behind slashes. -/
theorem bare_inj {ts ts' : List String} (hlength : ts.length = ts'.length)
    (hts : ∀ t ∈ ts, '/' ∉ t.toList) (hts' : ∀ t ∈ ts', '/' ∉ t.toList) (h : bare ts = bare ts') :
    ts = ts' := by
  induction ts generalizing ts' with
  | nil => exact (List.eq_nil_of_length_eq_zero hlength.symm).symm
  | cons t ts ih =>
    cases ts' with
    | nil => cases hlength
    | cons t' ts' =>
      rw [List.forall_mem_cons] at hts hts'
      have hlength' : ts.length = ts'.length := Nat.succ.inj hlength
      have htidy : ∀ u ∈ ts, IsTidy u := fun u hu => isTidy_of_not_mem (hts.2 u hu)
      have htidy' : ∀ u ∈ ts', IsTidy u := fun u hu => isTidy_of_not_mem (hts'.2 u hu)
      rw [bare_cons (isTidy_of_not_mem hts.1), bare_cons (isTidy_of_not_mem hts'.1)] at h
      -- either nothing is left of both lists, or both open with a slash and their first texts
      split_ifs at h with hempty hempty'
      · rw [hempty.1, hempty'.1, ih hlength' hts.2 hts'.2 (hempty.2.trans hempty'.2.symm)]
      · -- the first texts end where the next slashes are
        have hopen : ∀ us : List String, (∀ u ∈ us, IsTidy u) → ∀ c ∈ (bare us).head?, c = '/' := by
          intro us hus c hc
          have hne : bare us ≠ [] := by
            rintro e
            rw [e] at hc
            cases hc
          rw [head?_bare hus hne] at hc
          exact (Option.some.inj hc).symm
        obtain ⟨htext, hrest⟩ := append_inj_of_slash hts.1 hts'.1 (hopen ts htidy) (hopen ts' htidy')
          (List.cons.inj h).2
        rw [String.toList_injective htext, ih hlength' hts.2 hts'.2 hrest]

theorem count_slashed {ts : List String} (hts : ∀ t ∈ ts, '/' ∉ t.toList) :
    (slashed ts).toList.count '/' = ts.length := by
  induction ts with
  | nil => rfl
  | cons t ts ih =>
    rw [List.forall_mem_cons] at hts
    simp [slashed, List.count_eq_zero_of_not_mem hts.1, ih hts.2]

theorem slashed_inj {ts ts' : List String} (hlength : ts.length = ts'.length)
    (hts : ∀ t ∈ ts, '/' ∉ t.toList) (hts' : ∀ t ∈ ts', '/' ∉ t.toList)
    (h : slashed ts = slashed ts') : ts = ts' :=
  bare_inj hlength hts hts' (by rw [bare, bare, h])

/-- **As many texts are found again from the path they make**, whatever its end. -/
theorem ended_inj {ts ts' : List String} (trailingSlash : Bool) (hlength : ts.length = ts'.length)
    (hts : ∀ t ∈ ts, '/' ∉ t.toList) (hts' : ∀ t ∈ ts', '/' ∉ t.toList)
    (h : ended trailingSlash ("/" ++ Text.joinWith "/" ts)
      = ended trailingSlash ("/" ++ Text.joinWith "/" ts')) :
    ts = ts' := by
  cases trailingSlash with
  | false =>
    have hlist := congrArg String.toList h
    rw [toList_ended, toList_ended] at hlist
    -- the slash that stands for no texts is no other list's, as those end in something else
    have hne : ∀ us : List String, bare us ≠ ['/'] := fun us e => by
      have hend : (Text.dropEndList (· == '/') (slashed us).toList).getLast? = some '/' :=
        congrArg List.getLast? e
      exact absurd (Text.getLast?_dropEndList hend) (by decide)
    refine bare_inj hlength hts hts' ?_
    split_ifs at hlist with hnil hnil'
    · rw [hnil, hnil']
    · exact absurd hlist.symm (hne ts')
    · exact absurd hlist (hne ts)
    · exact hlist
  | true =>
    by_cases hnil : ts = []
    · rw [hnil] at hlength
      rw [hnil, List.eq_nil_of_length_eq_zero hlength.symm]
    · have hnil' : ts' ≠ [] := fun e => hnil (List.eq_nil_of_length_eq_zero (hlength.trans (e ▸ rfl)))
      rw [slash_joinWith hnil, slash_joinWith hnil'] at h
      -- one slash more at the end would be one more to count
      have hcount := congrArg (fun s => s.toList.count '/') h
      simp only [ended, if_true] at h hcount
      refine slashed_inj hlength hts hts' ?_
      split_ifs at h hcount
      · exact h
      · simp [count_slashed hts, count_slashed hts', hlength] at hcount
      · simp [count_slashed hts, count_slashed hts', hlength] at hcount
      · exact String.append_left_inj _ |>.1 h

/-! ### Plain patterns -/

/-- Each piece of a pattern is a parameter or stands for itself: none has a group, and none is a
glob. -/
def IsPlainPath (path : String) : Prop :=
  ∀ piece ∈ pieces path, '(' ∉ piece.toList ∧ piece.toList.head? ≠ some '*'

instance (path : String) : Decidable (IsPlainPath path) :=
  inferInstanceAs (Decidable (∀ _ ∈ _, _))

/-- The values have a text for each parameter of a plain pattern. -/
def BindsAll (params : Entries) (path : String) : Prop :=
  ∀ name, ":" ++ name ∈ pieces path → ∃ text, boundText? params name = .ok (some text)

/-- The text of a value that is bound and can be written; otherwise the empty text. -/
def shownValue (params : Entries) (name : String) : String :=
  match boundText? params name with
  | .ok (some text) => text
  | _ => ""

/-- The text of a piece of a plain pattern, where its parameter is bound. -/
def shownText (params : Entries) (piece : String) : String :=
  match piece.toList with
  | ':' :: name => Text.percentEncode (shownValue params (String.ofList name))
  | _ => piece

/-- A piece that starts with a colon is a parameter. -/
theorem eq_param_of_toList_eq {piece : String} {name : List Char} (h : piece.toList = ':' :: name) :
    piece = ":" ++ String.ofList name := by
  apply String.toList_injective
  simpa using h

theorem shownText_param (params : Entries) (name : String) :
    shownText params (":" ++ name) = Text.percentEncode (shownValue params name) := by
  simp [shownText]

theorem slash_not_mem_shownText {piece : String} (hs : '/' ∉ piece.toList) :
    '/' ∉ (shownText params piece).toList := by
  unfold shownText
  split
  · exact Text.slash_not_mem_percentEncode _
  · exact hs

theorem plainText_eq_shownText (hplain : IsPlainPath path) (hbinds : BindsAll params path)
    {piece : String} (hpiece : piece ∈ pieces path) :
    plainText params piece = .ok (shownText params piece) := by
  rcases sigil_cases piece with ⟨name, h⟩ | ⟨name, h⟩ | ⟨hcolon, hstar⟩
  · obtain ⟨text, htext⟩ := hbinds (String.ofList name) (eq_param_of_toList_eq h ▸ hpiece)
    simp [plainText, shownText, shownValue, h, givenText, htext, Except.map]
  · exact absurd (by rw [h]; rfl) (hplain piece hpiece).2
  · simp [plainText, shownText]

/-- A plain pattern whose parameters are bound becomes the texts of its pieces behind slashes. -/
theorem build_plain (hplain : IsPlainPath path) (hbinds : BindsAll params path)
    (trailingSlash : Bool) :
    build (nodes (parse path)) params trailingSlash
      = .ok (ended trailingSlash
          ("/" ++ Text.joinWith "/" ((pieces path).map (shownText params)))) := by
  have htext : ∀ piece ∈ pieces path, PieceText params piece (.ok (shownText params piece)) := by
    intro piece hpiece
    rw [← plainText_eq_shownText hplain hbinds hpiece]
    exact .plain (hplain piece hpiece).1
  rw [build_eq_of_pieceText htext, Except.mapM_eq_ok fun _ _ => rfl]
  rfl

/-- **Different parameters build different paths.** A plain pattern whose parameters are all bound
builds a path, and two paths that it builds are the same exactly if each parameter has the same text
for both. -/
theorem build_eq_iff_boundText?_eq (hplain : IsPlainPath path) (hbinds : BindsAll params path)
    (hbinds' : BindsAll params' path) (trailingSlash : Bool) :
    ∃ built built', build (nodes (parse path)) params trailingSlash = .ok built ∧
      build (nodes (parse path)) params' trailingSlash = .ok built' ∧
      (built = built' ↔
        ∀ name, ":" ++ name ∈ pieces path → boundText? params name = boundText? params' name) := by
  refine ⟨_, _, build_plain hplain hbinds trailingSlash, build_plain hplain hbinds' trailingSlash, ?_⟩
  have hfree : ∀ (ps : Entries) (t : String), t ∈ (pieces path).map (shownText ps) →
      '/' ∉ t.toList := by
    intro ps t ht
    obtain ⟨piece, hpiece, rfl⟩ := List.mem_map.1 ht
    exact slash_not_mem_shownText (pieces_mem hpiece).2
  constructor
  · -- the path tells its texts, and the text of a parameter tells what it is the encoded form of
    intro h name hname
    have hlength : ((pieces path).map (shownText params)).length
        = ((pieces path).map (shownText params')).length := by
      simp
    have hshown := ended_inj trailingSlash hlength (hfree params) (hfree params') h
    have htext := (List.map_inj_left.1 hshown) _ hname
    rw [shownText_param, shownText_param] at htext
    obtain ⟨text, htext₁⟩ := hbinds name hname
    obtain ⟨text', htext₂⟩ := hbinds' name hname
    have hvalue := Text.percentEncode_injective htext
    rw [shownValue, shownValue, htext₁, htext₂] at hvalue
    rw [htext₁, htext₂]
    exact congrArg (fun text => Except.ok (some text)) hvalue
  · intro h
    have hshown : (pieces path).map (shownText params) = (pieces path).map (shownText params') := by
      refine List.map_congr_left fun piece hpiece => ?_
      rcases sigil_cases piece with ⟨name, hname⟩ | ⟨name, hname⟩ | ⟨hcolon, -⟩
      · have heq := eq_param_of_toList_eq hname
        rw [heq, shownText_param, shownText_param, shownValue, shownValue, h _ (heq ▸ hpiece)]
      · exact absurd (by rw [hname]; rfl) (hplain piece hpiece).2
      · simp [shownText]
    rw [hshown]

/-- A pattern with two parameters. -/
def userFile : String := "/users/:id/files/:name"

/-- Values whose encoded texts hold a slash and a percent sign, and the empty text at the end. -/
def slashValues : Entries :=
  [(.text "id", .text "a/b"), (.text "name", .text "")]

/-- Values with the encoded form of a slash where the others have the slash. -/
def percentValues : Entries :=
  [(.text "id", .text "a%2Fb"), (.text "name", .text "")]

theorem bindsAll_userFile {params : Entries}
    (hid : ∃ text, boundText? params "id" = .ok (some text))
    (hname : ∃ text, boundText? params "name" = .ok (some text)) : BindsAll params userFile := by
  intro name h
  have hpieces : pieces userFile = ["users", ":" ++ "id", "files", ":" ++ "name"] := by decide
  have hhead : (":" ++ name).toList.head? = some ':' := by simp
  rw [hpieces] at h
  simp only [List.mem_cons, List.not_mem_nil, or_false, String.append_right_inj] at h
  rcases h with h | rfl | h | rfl
  · exact absurd (h ▸ hhead) (by decide)
  · exact hid
  · exact absurd (h ▸ hhead) (by decide)
  · exact hname

theorem build_eq_iff_userFile :
    IsPlainPath userFile ∧ BindsAll slashValues userFile ∧ BindsAll percentValues userFile ∧
      ∃ built built', build (nodes (parse userFile)) slashValues false = .ok built ∧
        build (nodes (parse userFile)) percentValues false = .ok built' ∧
        (built = built' ↔ ∀ name, ":" ++ name ∈ pieces userFile →
          boundText? slashValues name = boundText? percentValues name) := by
  have hplain : IsPlainPath userFile := by decide
  have hslash : BindsAll slashValues userFile := bindsAll_userFile ⟨_, rfl⟩ ⟨_, rfl⟩
  have hpercent : BindsAll percentValues userFile := bindsAll_userFile ⟨_, rfl⟩ ⟨_, rfl⟩
  exact ⟨hplain, hslash, hpercent, build_eq_iff_boundText?_eq hplain hslash hpercent false⟩

example : build (nodes (parse userFile)) slashValues false = .ok "/users/a%2Fb/files" := by
  decide +kernel

example : build (nodes (parse userFile)) percentValues false = .ok "/users/a%252Fb/files" := by
  decide +kernel

end RouteHelpers.Path
