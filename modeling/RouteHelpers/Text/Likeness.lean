import RouteHelpers.Text.Order

/-!
How alike two texts are.

Two texts share the longest run of characters that both hold, and then what the parts before it share
and what the parts behind it share. Texts are alike when the shared characters make up at least three
fifths of all. `closest` picks those that are most alike, which is what a reader meant by a misspelt
word more often than not.
-/

namespace RouteHelpers.Text

/-- The number of characters at the start that two lists share. -/
def commonStart : List Char → List Char → Nat
  | a :: as, b :: bs => if a = b then commonStart as bs + 1 else 0
  | _, _ => 0

/-- A run of characters that two lists share: where it starts in each of them, and its size. -/
structure SharedRun where
  start : Nat
  startInOther : Nat
  size : Nat

/-- The longest run that two lists share; of several the first one, by its place in the first list and
then in the second. -/
def longestRun (a b : List Char) : SharedRun :=
  let runs := (List.range a.length).flatMap fun i =>
    (List.range b.length).map fun j => ⟨i, j, commonStart (a.drop i) (b.drop j)⟩
  runs.foldl (fun best run => if best.size < run.size then run else best) ⟨0, 0, 0⟩

/-- The number of characters that two lists share; `fuel` bounds the length of the first. -/
private def sharedWithin : Nat → List Char → List Char → Nat
  | 0, _, _ => 0
  | fuel + 1, a, b =>
    let run := longestRun a b
    if run.size = 0 then 0
    else
      sharedWithin fuel (a.take run.start) (b.take run.startInOther) + run.size +
        sharedWithin fuel (a.drop (run.start + run.size)) (b.drop (run.startInOther + run.size))

/-- The number of characters that two texts share. -/
def sharedCount (a b : String) : Nat :=
  sharedWithin a.length a.toList b.toList

/-- Whether a number of shared characters is three fifths of what two texts could share. -/
def isEnough (a b : String) (shared : Nat) : Bool :=
  3 * (a.length + b.length) ≤ 10 * shared

/-- Whether two texts are alike. No more can be shared than the shorter one holds. -/
def areAlike (a b : String) : Bool :=
  isEnough a b (min a.length b.length) && isEnough a b (sharedCount a b)

/-- Whether one of two texts is at least as close to a word; of two equally close ones the later in
order comes first. -/
def isCloser (word a b : String) : Bool :=
  let closeness := sharedCount a word * (b.length + word.length)
  let other := sharedCount b word * (a.length + word.length)
  other < closeness || (other == closeness && le b a)

/-- The texts that are alike to a word, the closest first, and no more than three. -/
def closest (word : String) (candidates : List String) : List String :=
  ((candidates.filter fun c => areAlike c word).mergeSort (isCloser word)).take 3

end RouteHelpers.Text
