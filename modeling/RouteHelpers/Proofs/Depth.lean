import RouteHelpers.Value.Basic

/-!
How deep things may be nested.

Values are written, patterns compiled and routes gone through by calls inside each other, and a host allows
only so many of them. How many levels it takes to reach its limit depends on the host and on what goes on;
it is far more than `nestingLimit`. What is nested deeper is no fault of the program's own, and nothing is
said of it.
-/

namespace RouteHelpers

/-- A number of levels that every host goes through. -/
def nestingLimit : Nat := 100

/-- Collections are nested in a value no deeper than a number of levels, and its texts are texts: none
holds the character that stands for one half of a pair of surrogates. -/
def Value.IsWithin : Nat → Value → Prop
  | _, .text s => '\ufffd' ∉ s.toList
  | n + 1, .list items | n + 1, .tuple items | n + 1, .set items => ∀ v ∈ items, IsWithin n v
  | n + 1, .map entries => ∀ e ∈ entries, IsWithin n e.1 ∧ IsWithin n e.2
  | 0, .list items | 0, .tuple items | 0, .set items => items = []
  | 0, .map entries => entries = []
  | _, _ => True

/-- Groups are nested in the source of a pattern no deeper than that, as it opens no more. -/
def Pattern.IsWithin (n : Nat) (source : String) : Prop :=
  source.toList.count '(' ≤ n

end RouteHelpers
