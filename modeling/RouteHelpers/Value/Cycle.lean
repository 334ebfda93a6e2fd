import RouteHelpers.Value.Basic

/-!
Collections that hold themselves.

In a value `again` stands for a collection around it. An element that is taken out of its collection has
to bring that collection along wherever it holds it. `Entries.released` and `Value.releasedItems` give the
elements of a collection as values that stand alone; elements without `again` stay as they are.
-/

namespace RouteHelpers

namespace Value

mutual

/-- A value with the collection `levels` further out than it put where it stands for it. What is put there
depends on how many collections are between. -/
def filled (outer : Nat → Value) (levels : Nat) : Value → Value
  | again n isMap => if n = levels then outer levels else again n isMap
  | list items => list (filledItems outer (levels + 1) items)
  | tuple items => tuple (filledItems outer levels items)
  | map entries => map (filledEntries outer (levels + 1) entries)
  | v => v

/-- Several values with a collection put where it stands for them. -/
def filledItems (outer : Nat → Value) (levels : Nat) : List Value → List Value
  | [] => []
  | v :: rest => filled outer levels v :: filledItems outer levels rest

/-- Entries with a collection put where it stands for them. -/
def filledEntries (outer : Nat → Value) (levels : Nat) :
    List (Value × Value) → List (Value × Value)
  | [] => []
  | (k, v) :: rest => (k, filled outer levels v) :: filledEntries outer levels rest

end

/-- What stands for a value inside itself. -/
def reference (levels : Nat) : Value → Value
  | list _ => again levels false
  | map _ => again levels true
  | v => v

/-- The elements of a list as values that stand alone. In the list that such a value holds it is itself
an element. -/
def releasedItems (items : List Value) : List Value :=
  items.mapIdx fun i v => v.filled (fun n => .list (List.set items i (v.reference n))) 0

end Value

/-- The entries of a mapping, each value as one that stands alone. In the mapping that such a value holds
it is itself an entry. -/
def Entries.released (entries : Entries) : Entries :=
  List.mapIdx (fun i e =>
    (e.1, e.2.filled (fun n => .map (List.set entries i (e.1, e.2.reference n))) 0)) entries

end RouteHelpers
