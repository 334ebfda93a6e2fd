import RouteHelpers.Path.Parse

/-!
What normalizing does to the segments of pieces.

A piece of a path gives either one literal, wrapped in slashes (`IsLiteralPiece`), or a literal that
starts with a slash and then slots and groups only (`IsSlottedPiece`). So segments of pieces always
open with a slash, and where two pieces meet at most one slash is dropped: the closing slash of a
literal piece (`normalize_literal_append`). Nothing is dropped before a slot
(`normalize_slotted_append`).
-/

namespace RouteHelpers.Path

/-! ### Collapsing slashes -/

@[simp] theorem squeezeList_nil : squeezeList [] = [] := by
  simp [squeezeList]

@[simp] theorem squeezeList_slash_slash (rest : List Char) :
    squeezeList ('/' :: '/' :: rest) = squeezeList ('/' :: rest) := by
  simp [squeezeList]

theorem squeezeList_cons_of_ne {c : Char} (h : c ≠ '/') (rest : List Char) :
    squeezeList (c :: rest) = c :: squeezeList rest := by
  rw [squeezeList]
  rintro _ rfl
  exact absurd rfl h

theorem squeezeList_slash_cons {c : Char} (h : c ≠ '/') (rest : List Char) :
    squeezeList ('/' :: c :: rest) = '/' :: squeezeList (c :: rest) := by
  rw [squeezeList]
  rintro _ - e
  exact absurd (List.cons.inj e).1 h

/-- What holds no slash is not touched. -/
theorem squeezeList_append {cs : List Char} (h : '/' ∉ cs) (rest : List Char) :
    squeezeList (cs ++ rest) = cs ++ squeezeList rest := by
  induction cs with
  | nil => rfl
  | cons c cs ih =>
    rw [List.mem_cons, not_or] at h
    rw [List.cons_append, squeezeList_cons_of_ne (fun e => h.1 e.symm), ih h.2, List.cons_append]

theorem squeeze_of_not_mem {s : String} (h : '/' ∉ s.toList) : squeeze s = s := by
  apply String.toList_injective
  simpa [squeeze] using squeezeList_append h []

/-- A slash in front of a text without slashes stays. -/
theorem squeezeList_slash_append {cs : List Char} (hne : cs ≠ []) (h : '/' ∉ cs)
    (rest : List Char) :
    squeezeList ('/' :: (cs ++ rest)) = '/' :: (cs ++ squeezeList rest) := by
  cases cs with
  | nil => exact absurd rfl hne
  | cons c cs =>
    have hc : c ≠ '/' := fun e => h (by simp [e])
    rw [List.cons_append, squeezeList_slash_cons hc, ← List.cons_append, squeezeList_append h]

theorem squeezeList_slash_of_not_mem {cs : List Char} (h : '/' ∉ cs) :
    squeezeList ('/' :: cs) = '/' :: cs := by
  cases cs with
  | nil => simp [squeezeList]
  | cons c cs => simpa using squeezeList_slash_append (by simp) h []

theorem squeeze_slash {s : String} (h : '/' ∉ s.toList) : squeeze ("/" ++ s) = "/" ++ s := by
  apply String.toList_injective
  simpa [squeeze] using squeezeList_slash_of_not_mem h

/-- A piece between slashes stays between slashes. -/
theorem squeeze_piece_append {s t : String} (hne : s ≠ "") (h : '/' ∉ s.toList)
    (ht : squeeze t = t) : squeeze ("/" ++ (s ++ t)) = "/" ++ (s ++ t) := by
  apply String.toList_injective
  have hne' : s.toList ≠ [] := fun e => hne (String.toList_eq_nil_iff.1 e)
  have ht' : squeezeList t.toList = t.toList := by
    simpa [squeeze] using congrArg String.toList ht
  simpa [squeeze, ht'] using squeezeList_slash_append hne' h t.toList

/-- Of two slashes behind a piece one is dropped. -/
theorem squeeze_piece_slash {s t : String} (hne : s ≠ "") (h : '/' ∉ s.toList) :
    squeeze ("/" ++ (s ++ ("/" ++ ("/" ++ t)))) = squeeze ("/" ++ (s ++ ("/" ++ t))) := by
  apply String.toList_injective
  have hne' : s.toList ≠ [] := fun e => hne (String.toList_eq_nil_iff.1 e)
  have h₁ := squeezeList_slash_append hne' h ('/' :: '/' :: t.toList)
  have h₂ := squeezeList_slash_append hne' h ('/' :: t.toList)
  rw [squeezeList_slash_slash] at h₁
  simpa [squeeze] using h₁.trans h₂.symm

/-! ### Consing onto normalized segments -/

/-- Whether a segment is a literal. -/
def isLiteral : Segment → Bool
  | .literal _ => true
  | _ => false

theorem consSegment_of_not_literal {s : Segment} (h : isLiteral s = false) (rest : List Segment) :
    consSegment s rest = s :: rest := by
  cases s with
  | literal => simp [isLiteral] at h
  | param | glob | group => rfl

theorem consSegment_literal_cons {s : Segment} (h : isLiteral s = false) (t : String)
    (rest : List Segment) :
    consSegment (.literal t) (s :: rest) = .literal (squeeze t) :: s :: rest := by
  cases s with
  | literal => simp [isLiteral] at h
  | param | glob | group => rfl

theorem normalize_cons (s : Segment) (rest : List Segment) :
    normalize (s :: rest) = consSegment s (normalize rest) := rfl

/-- Slots and groups stay as they are. -/
theorem normalize_append_of_not_literal {slots : List Segment}
    (h : ∀ s ∈ slots, isLiteral s = false) (rest : List Segment) :
    normalize (slots ++ rest) = slots ++ normalize rest := by
  induction slots with
  | nil => rfl
  | cons s slots ih =>
    rw [List.cons_append, normalize_cons, ih fun x hx => h x (by simp [hx]),
      consSegment_of_not_literal (h s (by simp)), List.cons_append]

/-- What is put in front of normalized segments is a literal that meets one, a literal that meets none,
or no literal. -/
theorem consSegment_cases (s : Segment) (rest : List Segment) :
    (∃ t u more, s = .literal t ∧ rest = .literal u :: more ∧
      consSegment s rest = .literal (squeeze (t ++ u)) :: more) ∨
    (∃ t, s = .literal t ∧ (∀ b ∈ rest.head?, isLiteral b = false) ∧
      consSegment s rest = .literal (squeeze t) :: rest) ∨
    (isLiteral s = false ∧ consSegment s rest = s :: rest) := by
  cases s with
  | literal t =>
    rcases rest with - | ⟨b, more⟩
    · exact .inr (.inl ⟨t, rfl, by simp, rfl⟩)
    · cases b with
      | literal u => exact .inl ⟨t, u, more, rfl, rfl, rfl⟩
      | param | glob | group => exact .inr (.inl ⟨t, rfl, by simp [isLiteral], rfl⟩)
  | param | glob | group => exact .inr (.inr ⟨rfl, rfl⟩)

/-- A slot or a group is no part of the literal that others are merged into. -/
theorem mem_consSegment_iff {s : Segment} (hs : isLiteral s = false) (first : Segment)
    (rest : List Segment) : s ∈ consSegment first rest ↔ s = first ∨ s ∈ rest := by
  have hliteral (t : String) : s ≠ .literal t := by
    rintro rfl
    cases hs
  obtain ⟨t, u, more, rfl, rfl, heq⟩ | ⟨t, rfl, -, heq⟩ | ⟨-, heq⟩ := consSegment_cases first rest
  · simp [heq, hliteral]
  · simp [heq, hliteral]
  · rw [heq, List.mem_cons]

/-- Normalizing keeps slots and groups, and brings in none. -/
theorem mem_normalize_iff {s : Segment} (hs : isLiteral s = false) {segments : List Segment} :
    s ∈ normalize segments ↔ s ∈ segments := by
  induction segments with
  | nil => rfl
  | cons first rest ih => rw [normalize_cons, mem_consSegment_iff hs, ih, List.mem_cons]

/-! ### Pieces -/

/-- The piece's segments are one literal wrapped in slashes. -/
def IsLiteralPiece (piece : String) : Prop :=
  pieceSegments piece = [.literal ("/" ++ piece ++ "/")]

/-- The piece's segments are a literal behind a slash, and then slots and groups. -/
def IsSlottedPiece (piece head : String) (slots : List Segment) : Prop :=
  pieceSegments piece = .literal ("/" ++ head) :: slots ∧ slots ≠ [] ∧
    (∀ s ∈ slots, isLiteral s = false) ∧ ('/' ∉ piece.toList → '/' ∉ head.toList)

/-- A literal piece on its own. -/
theorem normalize_literal {piece : String} (hp : IsLiteralPiece piece)
    (hne : piece ≠ "") (hs : '/' ∉ piece.toList) :
    normalize (pieceSegments piece) = [.literal ("/" ++ (piece ++ "/"))] := by
  rw [hp]
  show [Segment.literal (squeeze ("/" ++ piece ++ "/"))] = _
  rw [String.append_assoc, squeeze_piece_append hne hs (t := "/") rfl]

/-- A literal piece in front of others gives up its closing slash. -/
theorem normalize_literal_append {piece : String} (hp : IsLiteralPiece piece)
    (hne : piece ≠ "") (hs : '/' ∉ piece.toList) {raw rest : List Segment} {t : String}
    (hraw : normalize raw = .literal ("/" ++ t) :: rest) (ht : squeeze ("/" ++ t) = "/" ++ t) :
    normalize (pieceSegments piece ++ raw)
      = .literal ("/" ++ (piece ++ ("/" ++ t))) :: rest := by
  rw [hp]
  show consSegment (.literal ("/" ++ piece ++ "/")) (normalize raw) = _
  rw [hraw]
  show Segment.literal (squeeze ("/" ++ piece ++ "/" ++ ("/" ++ t))) :: rest = _
  rw [← squeeze_piece_append hne hs ht, ← squeeze_piece_slash hne hs]
  simp [String.append_assoc]

/-- A slotted piece loses nothing to what follows it. -/
theorem normalize_slotted_append {piece head : String} {slots : List Segment}
    (hp : IsSlottedPiece piece head slots) (hs : '/' ∉ piece.toList) (raw : List Segment) :
    normalize (pieceSegments piece ++ raw)
      = .literal ("/" ++ head) :: (slots ++ normalize raw) := by
  obtain ⟨hp, hne, hslots, hhead⟩ := hp
  rw [hp, List.cons_append, normalize_cons, normalize_append_of_not_literal hslots]
  cases slots with
  | nil => exact absurd rfl hne
  | cons s slots =>
    rw [List.cons_append, consSegment_literal_cons (hslots s (by simp)),
      squeeze_slash (hhead hs)]

end RouteHelpers.Path
