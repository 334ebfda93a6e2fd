import RouteHelpers.Text.Character
import RouteHelpers.Text.Table.CaseMap
import RouteHelpers.Text.Table.Cased

/-!
Upper, lower and title case of whole texts.

A character may map to several (`ß` to `SS`), so each mapping goes from a character to a list. The
only mapping that looks at its surroundings is the lower case of a capital sigma, which has its own
form at the end of a word.
-/

namespace RouteHelpers.Text

/-- The code point that a run of the table moves `n` to. -/
private def moveByRun (runs : Array Table.CaseRun) (n : Nat) : Option Nat :=
  (runs.find? fun r => r.first ≤ n && n ≤ r.last && (n - r.first) % r.step == 0).map
    fun r => (Int.ofNat n + r.offset).toNat

/-- The characters that the tables map `c` to, if they do. -/
private def mapByTable (runs : Array Table.CaseRun) (many : Array (Nat × List Nat)) (c : Char) :
    Option (List Char) :=
  match many.find? (fun m => m.1 == c.toNat) with
  | some m => some (m.2.map Char.ofNat)
  | none => (moveByRun runs c.toNat).map fun n => [Char.ofNat n]

/-- Upper case of one character. -/
def upperChar (c : Char) : List Char :=
  if isAscii c then [c.toUpper] else (mapByTable Table.upperRuns Table.upperMany c).getD [c]

/-- Lower case of one character away from the end of a word. -/
def lowerChar (c : Char) : List Char :=
  if isAscii c then [c.toLower] else (mapByTable Table.lowerRuns Table.lowerMany c).getD [c]

/-- Title case of one character. -/
def titleChar (c : Char) : List Char :=
  if isAscii c then [c.toUpper]
  else (mapByTable Table.titleRuns Table.titleMany c).getD (upperChar c)

/-- Whether the first character that is not skipped has case. -/
private def meetsCased (cs : List Char) : Bool :=
  match cs.dropWhile (fun c => inRanges Table.caseIgnorable c.toNat) with
  | [] => false
  | c :: _ => inRanges Table.cased c.toNat

/-- Lower case of a text, `before` being what precedes it in reverse. A capital sigma that follows a
cased letter and precedes none takes its final form. -/
private def lowerFrom (before : List Char) : List Char → List Char
  | [] => []
  | c :: rest =>
    let mapped :=
      if c == 'Σ' then (if meetsCased before && !meetsCased rest then ['ς'] else ['σ'])
      else lowerChar c
    mapped ++ lowerFrom (c :: before) rest

/-- Upper case of a text. -/
def upper (s : String) : String :=
  String.ofList (s.toList.flatMap upperChar)

/-- Lower case of a text. -/
def lower (s : String) : String :=
  String.ofList (lowerFrom [] s.toList)

/-- A text with its first character in title case and the rest in lower case. -/
def capitalize (s : String) : String :=
  match s.toList with
  | [] => ""
  | c :: rest => String.ofList (titleChar c ++ lowerFrom [c] rest)

private theorem lowerFrom_of_ascii {cs : List Char} (h : ∀ c ∈ cs, isAscii c = true)
    (before : List Char) : lowerFrom before cs = cs.map Char.toLower := by
  induction cs generalizing before with
  | nil => rfl
  | cons c rest ih =>
    have hc : isAscii c = true := h c List.mem_cons_self
    have hne : (c == 'Σ') = false := by
      rw [beq_eq_false_iff_ne]
      rintro rfl
      exact absurd hc (by decide)
    rw [lowerFrom, ih (fun d hd => h d (List.mem_cons_of_mem c hd)), List.map_cons]
    simp [hne, lowerChar, hc]

/-- On ASCII the first character of a text is capitalized alone, and each other lowered alone. -/
theorem capitalize_of_ascii {c : Char} {rest : List Char} (h : ∀ d ∈ c :: rest, isAscii d = true) :
    capitalize (String.ofList (c :: rest)) = String.ofList (c.toUpper :: rest.map Char.toLower) := by
  have hc : isAscii c = true := h c List.mem_cons_self
  rw [capitalize, String.toList_ofList]
  show String.ofList (titleChar c ++ lowerFrom [c] rest) = _
  rw [lowerFrom_of_ascii (fun d hd => h d (List.mem_cons_of_mem c hd)), titleChar, if_pos hc]
  rfl

end RouteHelpers.Text
