/-!
Cutting and joining texts.

Each function on `String` is a function on its list of characters and nothing more, and the list
function is public beside it: statements about texts are proved on lists.
-/

namespace RouteHelpers.Text

/-! ### Splitting and joining -/

/-- The pieces of a list between the occurrences of a separator; one piece more than there are
separators. -/
def splitList (sep : Char) : List Char → List (List Char)
  | [] => [[]]
  | c :: rest =>
    match splitList sep rest with
    | [] => [[c]]
    | piece :: pieces => if c = sep then [] :: piece :: pieces else (c :: piece) :: pieces

/-- The pieces of a text between the occurrences of a separator. -/
def split (sep : Char) (s : String) : List String :=
  (splitList sep s.toList).map String.ofList

/-- Lists with a separator between each two. -/
def joinList (sep : List Char) : List (List Char) → List Char
  | [] => []
  | [x] => x
  | x :: y :: rest => x ++ sep ++ joinList sep (y :: rest)

/-- Texts with a separator between each two. -/
def joinWith (sep : String) : List String → String
  | [] => ""
  | [x] => x
  | x :: y :: rest => x ++ sep ++ joinWith sep (y :: rest)

/-- What stands before and after the first occurrence of a separator. -/
def cutList (sep : Char) : List Char → List Char × Option (List Char)
  | [] => ([], none)
  | c :: rest =>
    if c = sep then ([], some rest)
    else
      let cut := cutList sep rest
      (c :: cut.1, cut.2)

/-- What stands before and, if there is a separator, after its first occurrence. -/
def cut (sep : Char) (s : String) : String × Option String :=
  let pieces := cutList sep s.toList
  (String.ofList pieces.1, pieces.2.map String.ofList)

/-! ### Ends of a text -/

/-- Whether a text starts with another. -/
def startsWith (start s : String) : Bool :=
  start.toList.isPrefixOf s.toList

/-- Whether a text ends with another. -/
def endsWith (ending s : String) : Bool :=
  ending.toList.isSuffixOf s.toList

/-- What follows a given start, if the text has it. -/
def afterStart? (start s : String) : Option String :=
  if startsWith start s then some (String.ofList (s.toList.drop start.length)) else none

/-- What precedes a given ending, if the text has it. -/
def beforeEnding? (ending s : String) : Option String :=
  if endsWith ending s then some (String.ofList (s.toList.take (s.length - ending.length))) else none

/-- A list without the elements of a class at its end. -/
def dropEndList (p : Char → Bool) (cs : List Char) : List Char :=
  (cs.reverse.dropWhile p).reverse

/-- A list without the elements of a class at either end. -/
def stripList (p : Char → Bool) (cs : List Char) : List Char :=
  dropEndList p (cs.dropWhile p)

/-- A text without the characters of a class at its end. -/
def dropEnd (p : Char → Bool) (s : String) : String :=
  String.ofList (dropEndList p s.toList)

/-- A text without the characters of a class at either end. -/
def strip (p : Char → Bool) (s : String) : String :=
  String.ofList (stripList p s.toList)

/-! ### Inside a text -/

/-- Whether a character occurs in a text. -/
def hasChar (c : Char) (s : String) : Bool :=
  s.toList.contains c

/-- A text with each character mapped to a text. -/
def flatMap (f : Char → List Char) (s : String) : String :=
  String.ofList (s.toList.flatMap f)

/-- A list in which each longest run of a class is replaced by one list. -/
def replaceRunsList (p : Char → Bool) (by' : List Char) : List Char → List Char
  | [] => []
  | c :: rest =>
    if p c then
      match rest with
      | [] => by'
      | d :: _ => if p d then replaceRunsList p by' rest else by' ++ replaceRunsList p by' rest
    else c :: replaceRunsList p by' rest

/-- A text in which each longest run of a class is replaced by one text. -/
def replaceRuns (p : Char → Bool) (replacement s : String) : String :=
  String.ofList (replaceRunsList p replacement.toList s.toList)

/-- A text written several times in a row. -/
def repeated : Nat → String → String
  | 0, _ => ""
  | n + 1, s => s ++ repeated n s

/-- A text filled up with spaces on its left to a width. -/
def padLeft (width : Nat) (s : String) : String :=
  repeated (width - s.length) " " ++ s

/-- A text filled up with spaces on its right to a width. -/
def padRight (width : Nat) (s : String) : String :=
  s ++ repeated (width - s.length) " "

/-! ### Laws -/

theorem splitList_ne_nil (sep : Char) (cs : List Char) : splitList sep cs ≠ [] := by
  induction cs with
  | nil => simp [splitList]
  | cons c rest ih =>
    unfold splitList
    split
    · simp
    · split <;> simp

/-- No piece holds the separator. -/
theorem not_mem_of_mem_splitList {sep : Char} {cs piece : List Char}
    (h : piece ∈ splitList sep cs) : sep ∉ piece := by
  induction cs generalizing piece with
  | nil => simp_all [splitList]
  | cons c rest ih =>
    unfold splitList at h
    split at h
    next h' => exact absurd h' (splitList_ne_nil sep rest)
    next first pieces h' =>
      by_cases hc : c = sep
      · simp only [hc, ↓reduceIte, List.mem_cons] at h
        rcases h with rfl | h
        · simp
        · exact ih (by rw [h']; simpa using h)
      · simp only [hc, ↓reduceIte, List.mem_cons] at h
        rcases h with rfl | h
        · simp only [List.mem_cons, not_or]
          exact ⟨fun e => hc e.symm, ih (by rw [h']; simp)⟩
        · exact ih (by rw [h']; simp [h])

end RouteHelpers.Text
