import Mathlib.Data.List.Basic
import Mathlib.Tactic.SplitIfs
import RouteHelpers.Text.Utf8

/-!
What percent-encoding leaves in a text.

An encoded text is made of unreserved characters and percent signs (`mem_percentEncode`), so nothing
that separates the parts of a URL is in it. No character is lost: an encoded text is empty only if the
text was.

More than that, an encoded text can be read back. What it writes are the octets of the text
(`percentDecodeList_percentEncode`), and no character's octets are the start of another's
(`utf8Octets_append_inj`), so different texts are encoded differently.
-/

namespace RouteHelpers.Text

theorem isUnreserved_toUpper_hexDigit {k : Nat} (h : k < 16) :
    isUnreserved (hexDigit k).toUpper = true :=
  (by decide : ∀ k < 16, isUnreserved (hexDigit k).toUpper = true) k h

theorem mem_percentOctet {n : Nat} {c : Char} (h : c ∈ percentOctet n) :
    isUnreserved c = true ∨ c = '%' := by
  rcases List.mem_cons.1 h with rfl | h
  · exact .inr rfl
  · have hlt : ∀ k, k % 16 < 16 := fun k => Nat.mod_lt k (by decide)
    rw [hexUpper, hex, hex, hex] at h
    simp only [List.nil_append, List.singleton_append, List.map_cons, List.map_nil, List.mem_cons,
      List.not_mem_nil, or_false] at h
    rcases h with rfl | rfl
    · exact .inl (isUnreserved_toUpper_hexDigit (hlt _))
    · exact .inl (isUnreserved_toUpper_hexDigit (hlt _))

theorem mem_percentChar {c d : Char} (h : d ∈ percentChar c) : isUnreserved d = true ∨ d = '%' := by
  unfold percentChar at h
  split at h
  next hc => exact .inl (List.mem_singleton.1 h ▸ hc)
  next =>
    obtain ⟨n, -, h⟩ := List.mem_flatMap.1 h
    exact mem_percentOctet h

theorem utf8Octets_ne_nil (c : Char) : utf8Octets c ≠ [] := by
  simp only [utf8Octets]
  split_ifs <;> exact List.cons_ne_nil _ _

theorem percentChar_ne_nil (c : Char) : percentChar c ≠ [] := by
  unfold percentChar
  split
  next => exact List.cons_ne_nil _ _
  next =>
    intro h
    obtain ⟨n, hn⟩ := List.exists_mem_of_ne_nil _ (utf8Octets_ne_nil c)
    exact List.cons_ne_nil _ _ (List.flatMap_eq_nil_iff.1 h n hn)

/-- **An encoded text holds unreserved characters and percent signs only.** -/
theorem mem_percentEncode {s : String} {c : Char} (h : c ∈ (percentEncode s).toList) :
    isUnreserved c = true ∨ c = '%' := by
  rw [percentEncode, String.toList_ofList] at h
  obtain ⟨d, -, h⟩ := List.mem_flatMap.1 h
  exact mem_percentChar h

theorem slash_not_mem_percentEncode (s : String) : '/' ∉ (percentEncode s).toList := by
  intro h
  rcases mem_percentEncode h with h | h
  · exact absurd h (by decide)
  · exact absurd h (by decide)

/-- Only the empty text is encoded as the empty text. -/
theorem percentEncode_eq_empty_iff {s : String} : percentEncode s = "" ↔ s = "" := by
  rw [← String.toList_eq_nil_iff, ← String.toList_eq_nil_iff, percentEncode, String.toList_ofList,
    List.flatMap_eq_nil_iff]
  constructor
  · intro h
    exact List.eq_nil_iff_forall_not_mem.2 fun c hc => percentChar_ne_nil c (h c hc)
  · intro h c hc
    rw [h] at hc
    cases hc

/-! ### Reading back -/

/-- The octets that an encoded list of characters writes. -/
def percentDecodeList : List Char → List Nat
  | '%' :: c :: d :: rest =>
    (16 * (hexValue? c).getD 0 + (hexValue? d).getD 0) :: percentDecodeList rest
  | c :: rest => c.toNat :: percentDecodeList rest
  | [] => []

theorem hexValue?_toUpper_hexDigit {k : Nat} (h : k < 16) :
    hexValue? (hexDigit k).toUpper = some k :=
  (by decide : ∀ k < 16, hexValue? (hexDigit k).toUpper = some k) k h

theorem percentDecodeList_cons_of_ne {c : Char} (h : c ≠ '%') (rest : List Char) :
    percentDecodeList (c :: rest) = c.toNat :: percentDecodeList rest := by
  rw [percentDecodeList]
  rintro _ _ _ e
  exact fun _ => h e

theorem percentDecodeList_percentOctet {n : Nat} (h : n < 256) (rest : List Char) :
    percentDecodeList (percentOctet n ++ rest) = n :: percentDecodeList rest := by
  have hhigh : n / 16 % 16 < 16 := Nat.mod_lt _ (by decide)
  have hlow : n % 16 < 16 := Nat.mod_lt _ (by decide)
  have hdigits : percentOctet n ++ rest
      = '%' :: (hexDigit (n / 16 % 16)).toUpper :: (hexDigit (n % 16)).toUpper :: rest := by
    simp [percentOctet, hexUpper, hex]
  rw [hdigits, percentDecodeList, hexValue?_toUpper_hexDigit hhigh,
    hexValue?_toUpper_hexDigit hlow, Option.getD_some, Option.getD_some]
  congr 1
  omega

theorem percentDecodeList_octets {ns : List Nat} (h : ∀ n ∈ ns, n < 256) (rest : List Char) :
    percentDecodeList (ns.flatMap percentOctet ++ rest) = ns ++ percentDecodeList rest := by
  induction ns with
  | nil => rfl
  | cons n ns ih =>
    rw [List.forall_mem_cons] at h
    rw [List.flatMap_cons, List.append_assoc, percentDecodeList_percentOctet h.1, ih h.2,
      List.cons_append]

theorem toNat_lt_bound (c : Char) : c.toNat < 0x110000 := by
  have hvalid : c.toNat.isValidChar := c.valid
  unfold Nat.isValidChar at hvalid
  omega

theorem utf8Octets_lt {c : Char} {n : Nat} (h : n ∈ utf8Octets c) : n < 256 := by
  have hc := toNat_lt_bound c
  simp only [utf8Octets] at h
  split_ifs at h <;> simp only [List.mem_cons, List.not_mem_nil, or_false] at h <;> omega

theorem toNat_lt_of_isAlphanum {c : Char} (h : c.isAlphanum = true) : c.toNat < 0x80 := by
  have hlt {last : UInt32} (hc : c.val ≤ last) (hlast : last.toNat < 0x80) : c.toNat < 0x80 :=
    Nat.lt_of_le_of_lt (UInt32.le_iff_toNat_le.1 hc) hlast
  rcases Bool.or_eq_true_iff.1 h with h | h
  · rcases Bool.or_eq_true_iff.1 h with h | h
    · exact hlt (of_decide_eq_true h).2 (by decide)
    · exact hlt (of_decide_eq_true (Bool.and_eq_true_iff.1 h).2) (by decide)
  · exact hlt (of_decide_eq_true (Bool.and_eq_true_iff.1 h).2) (by decide)

/-- An unreserved character is an octet of its own. -/
theorem utf8Octets_of_isUnreserved {c : Char} (h : isUnreserved c = true) :
    utf8Octets c = [c.toNat] := by
  have hascii : c.toNat < 0x80 := by
    rcases Bool.or_eq_true_iff.1 h with h | h
    · exact toNat_lt_of_isAlphanum h
    · have hsigns : ∀ d ∈ ['-', '_', '.', '!', '~', '*', '\'', '(', ')'], d.toNat < 0x80 := by simp
      exact hsigns c (List.contains_iff_mem.1 h)
  simp [utf8Octets, hascii]

theorem percentDecodeList_percentChar (c : Char) (rest : List Char) :
    percentDecodeList (percentChar c ++ rest) = utf8Octets c ++ percentDecodeList rest := by
  unfold percentChar
  split
  next h =>
    have hne : c ≠ '%' := by
      rintro rfl
      exact absurd h (by decide)
    rw [List.singleton_append, percentDecodeList_cons_of_ne hne, utf8Octets_of_isUnreserved h,
      List.singleton_append]
  next => exact percentDecodeList_octets (fun _ => utf8Octets_lt) rest

/-- **An encoded text writes the octets of the text.** -/
theorem percentDecodeList_percentEncode (s : String) :
    percentDecodeList (percentEncode s).toList = encodeUtf8 s := by
  rw [percentEncode, String.toList_ofList, encodeUtf8]
  induction s.toList with
  | nil => rfl
  | cons c rest ih =>
    rw [List.flatMap_cons, List.flatMap_cons, percentDecodeList_percentChar, ih]

/-! ### Different texts -/

/-- The octets of a character tell where they end and which character they are. -/
theorem utf8Octets_append_inj {c d : Char} {xs ys : List Nat}
    (h : utf8Octets c ++ xs = utf8Octets d ++ ys) : c = d ∧ xs = ys := by
  have hc := toNat_lt_bound c
  have hd := toNat_lt_bound d
  have hboth : c.toNat = d.toNat ∧ xs = ys := by
    -- the first octet lies in another range for each number of octets
    simp only [utf8Octets] at h
    split_ifs at h <;> simp only [List.cons_append, List.nil_append, List.cons.injEq] at h <;> grind
  exact ⟨Char.toNat_inj.1 hboth.1, hboth.2⟩

theorem encodeUtf8_injective : Function.Injective encodeUtf8 := by
  intro s t h
  apply String.toList_injective
  rw [encodeUtf8, encodeUtf8] at h
  generalize s.toList = cs at h ⊢
  generalize t.toList = ds at h ⊢
  -- every character has an octet, so no text is the start of another
  induction cs generalizing ds with
  | nil =>
    cases ds with
    | nil => rfl
    | cons d ds =>
      rw [List.flatMap_cons] at h
      exact absurd (List.append_eq_nil_iff.1 h.symm).1 (utf8Octets_ne_nil d)
  | cons c cs ih =>
    cases ds with
    | nil =>
      rw [List.flatMap_cons] at h
      exact absurd (List.append_eq_nil_iff.1 h).1 (utf8Octets_ne_nil c)
    | cons d ds =>
      rw [List.flatMap_cons, List.flatMap_cons] at h
      obtain ⟨rfl, hrest⟩ := utf8Octets_append_inj h
      rw [ih ds hrest]

/-- **Different texts are encoded differently.** -/
theorem percentEncode_injective : Function.Injective percentEncode := by
  intro s t h
  apply encodeUtf8_injective
  rw [← percentDecodeList_percentEncode, h, percentDecodeList_percentEncode]

end RouteHelpers.Text
