import Mathlib.Data.String.Basic
import RouteHelpers.Text.Order

/-!
The order of texts is a linear order.

`Text.le` and `Text.listLe` are the orders that texts and lists of texts have anyway, characters and
elements compared one by one (`le_iff`, `listLe_iff`). So lists that are sorted by them are in order,
and where elements differ the order is strict.
-/

namespace RouteHelpers.Text

theorem le_iff {a b : String} : le a b = true ↔ a ≤ b := by
  rw [le, String.le_iff_toList_le, ← not_lt]
  simp

/-- Lists of texts are compared at the first place where they differ. -/
theorem listLe_iff {as bs : List String} : listLe as bs = true ↔ as ≤ bs := by
  induction as generalizing bs with
  | nil =>
    cases bs with
    | nil => simp [listLe]
    | cons b bs => simpa [listLe] using (List.nil_lt_cons b bs).le
  | cons a as ih =>
    cases bs with
    | nil => simp [listLe]
    | cons b bs =>
      rw [listLe, le_iff_lt_or_eq, List.cons_lt_cons_iff]
      -- the first elements decide, unless they are the same
      by_cases h : a = b
      · rw [if_pos h, ih, le_iff_lt_or_eq]
        simp [h]
      · rw [if_neg h, le_iff, le_iff_lt_or_eq]
        simp [h]

theorem listLe_trans (as bs cs : List String) (h₁ : listLe as bs = true) (h₂ : listLe bs cs = true) :
    listLe as cs = true :=
  listLe_iff.2 (le_trans (listLe_iff.1 h₁) (listLe_iff.1 h₂))

theorem listLe_total (as bs : List String) : (listLe as bs || listLe bs as) = true := by
  rw [Bool.or_eq_true, listLe_iff, listLe_iff]
  exact le_total as bs

/-- Sorted by texts that differ, a list is in strict order. -/
theorem pairwise_lt_mergeSort {α : Type} {f : α → List String} {xs : List α}
    (h : (xs.map f).Nodup) :
    (xs.mergeSort fun a b => listLe (f a) (f b)).Pairwise fun a b => f a < f b := by
  have hsorted := List.pairwise_mergeSort
    (fun a b c => listLe_trans (f a) (f b) (f c)) (fun a b => listLe_total (f a) (f b)) xs
  have hnodup : ((xs.mergeSort fun a b => listLe (f a) (f b)).map f).Nodup :=
    ((List.mergeSort_perm xs _).map f).nodup_iff.2 h
  refine (hsorted.and (List.pairwise_map.1 hnodup)).imp fun ⟨hle, hne⟩ => ?_
  exact lt_of_le_of_ne (listLe_iff.1 hle) hne

end RouteHelpers.Text
