/-!
Order of texts: by the code points of their characters, the shorter first where one starts the other.
-/

namespace RouteHelpers.Text

/-- Whether a text comes before another or is equal to it. -/
def le (a b : String) : Bool :=
  !(b.toList < a.toList)

/-- Whether a list of texts comes before another, element by element, or is equal to it. -/
def listLe : List String → List String → Bool
  | [], _ => true
  | _ :: _, [] => false
  | a :: as, b :: bs => if a = b then listLe as bs else le a b

/-- Texts in order. -/
def sorted (xs : List String) : List String :=
  xs.mergeSort le

/-- Lists of texts in order. -/
def sortedLists (xs : List (List String)) : List (List String) :=
  xs.mergeSort listLe

/-- A list without the elements that equal an earlier one. -/
def distinct {α : Type} [BEq α] (xs : List α) : List α :=
  xs.foldl (fun acc x => if acc.contains x then acc else acc ++ [x]) []

end RouteHelpers.Text
