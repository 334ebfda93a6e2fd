import Mathlib.Data.List.Nodup
import RouteHelpers.Extract

/-!
Grouping a list by a key.

`groupBy` makes a group for each key that occurs. Written one after the other, its groups are the list
again, reordered: groups in the order in which their keys first occur, and the members of a group in
the order they had. In other words, the list is sorted by the first occurrence of each element's key,
and the sort is stable:

    (groupBy key xs).flatten = regrouped key xs

Both sides are regroupings in the sense of `IsRegrouping`, of which a list has only one.
-/

namespace RouteHelpers

/-- Induction on what is left of a list without its first element and all that go with it. -/
theorem List.filter_induction {α : Type} {motive : List α → Prop} (stays : α → α → Bool)
    (nil : motive []) (cons : ∀ x xs, motive (xs.filter (stays x)) → motive (x :: xs))
    (xs : List α) : motive xs := by
  match xs with
  | [] => exact nil
  | x :: xs =>
    have : (xs.filter (stays x)).length < xs.length + 1 :=
      Nat.lt_succ_of_le (List.length_filter_le _ _)
    exact cons x xs (List.filter_induction stays nil cons _)
termination_by xs.length

/-! ### Distinct elements -/

namespace Text

variable {α : Type} [BEq α] [LawfulBEq α]

/-- The elements that were kept stay in front, and what equals one of them is passed over. -/
theorem distinct_foldl (kept xs : List α) :
    xs.foldl (fun acc x => if acc.contains x then acc else acc ++ [x]) kept
      = kept ++ (xs.filter fun x => !kept.contains x).eraseDups := by
  induction xs generalizing kept with
  | nil => simp
  | cons x xs ih =>
    rw [List.foldl_cons, ih]
    by_cases h : kept.contains x = true
    · rw [if_pos h, List.filter_cons_of_neg (by simp only [h]; simp)]
    · rw [if_neg h, List.filter_cons_of_pos (by simpa using h), List.eraseDups_cons,
        List.filter_filter, List.append_assoc, List.singleton_append]
      congr 3
      refine List.filter_congr fun y _ => ?_
      rw [Bool.eq_iff_iff]
      simp [or_comm]

theorem distinct_eq_eraseDups (xs : List α) : distinct xs = xs.eraseDups := by
  rw [distinct, distinct_foldl]
  simp

theorem distinct_cons (x : α) (xs : List α) :
    distinct (x :: xs) = x :: distinct (xs.filter fun y => !y == x) := by
  rw [distinct_eq_eraseDups, distinct_eq_eraseDups, List.eraseDups_cons]

@[simp] theorem mem_distinct {x : α} {xs : List α} : x ∈ distinct xs ↔ x ∈ xs := by
  rw [distinct_eq_eraseDups, List.mem_eraseDups]

theorem nodup_distinct (xs : List α) : (distinct xs).Nodup := by
  induction xs using List.filter_induction (fun x y : α => !y == x) with
  | nil => exact List.nodup_nil
  | cons x xs ih =>
    rw [distinct_cons, List.nodup_cons, mem_distinct]
    exact ⟨by simp, ih⟩

theorem distinct_of_nodup {xs : List α} (h : xs.Nodup) : distinct xs = xs := by
  induction xs with
  | nil => rfl
  | cons x xs ih =>
    obtain ⟨hx, hxs⟩ := List.nodup_cons.1 h
    have hrest : (xs.filter fun y => !y == x) = xs := by
      refine List.filter_eq_self.2 fun y hy => ?_
      rw [Bool.not_eq_true', beq_eq_false_iff_ne]
      rintro rfl
      exact hx hy
    rw [distinct_cons, hrest, ih hxs]

/-- The first distinct element of a kind is the first element of that kind. -/
theorem find?_distinct (p : α → Bool) (xs : List α) :
    (distinct xs).find? p = xs.find? p := by
  induction xs using List.filter_induction (fun x y : α => !y == x) with
  | nil => rfl
  | cons x xs ih =>
    rw [distinct_cons, List.find?_cons, List.find?_cons, ih, List.find?_filter]
    cases h : p x with
    | true => rfl
    | false =>
      -- the elements that are gone equal `x`, which is not of that kind
      show List.find? _ xs = List.find? p xs
      congr 1
      funext y
      by_cases e : y = x <;> simp [e, h]

end Text

namespace Extract

variable {α κ : Type} [BEq κ] {key : α → κ} {xs ys zs : List α}

/-! ### Groups one after the other -/

omit [BEq κ] in
theorem map_key_filter (p : κ → Bool) (xs : List α) :
    (xs.filter fun y => p (key y)).map key = (xs.map key).filter p := by
  rw [List.filter_map]
  rfl

variable [LawfulBEq κ]

/-- The first group is that of the first element. -/
theorem groupBy_cons (x : α) (xs : List α) :
    groupBy key (x :: xs) = (x :: xs.filter fun y => key y == key x) ::
      groupBy key (xs.filter fun y => !key y == key x) := by
  rw [groupBy, List.map_cons, Text.distinct_cons, List.map_cons, groupBy,
    map_key_filter (fun k => !k == key x)]
  congr 1
  · simp
  · refine List.map_congr_left fun k hk => ?_
    have hne : (!k == key x) = true := (List.mem_filter.1 (Text.mem_distinct.1 hk)).2
    have hx : (key x == k) = false := by
      rw [Bool.not_eq_true'] at hne
      rw [BEq.comm, hne]
    rw [List.filter_cons_of_neg (by rw [hx]; simp), List.filter_filter]
    refine List.filter_congr fun y _ => ?_
    by_cases e : key y = k
    · simp [e, hne]
    · simp [e]

/-- A group holds the elements with its key, and it is not empty. -/
theorem mem_groupBy {group : List α} (h : group ∈ groupBy key xs) :
    ∃ x ∈ xs, group = xs.filter fun y => key y == key x := by
  obtain ⟨k, hk, rfl⟩ := List.mem_map.1 h
  obtain ⟨x, hx, rfl⟩ := List.mem_map.1 (Text.mem_distinct.1 hk)
  exact ⟨x, hx, rfl⟩

/-- A map that keeps apart just what the keys keep apart maps the groups. -/
theorem groupBy_map {β κ' : Type} [BEq κ'] [LawfulBEq κ'] {key' : β → κ'} (f : α → β) (xs : List α)
    (h : ∀ x ∈ xs, ∀ y ∈ xs, key' (f x) = key' (f y) ↔ key x = key y) :
    groupBy key' (xs.map f) = (groupBy key xs).map (List.map f) := by
  induction xs using List.filter_induction (fun x y : α => !key y == key x) with
  | nil => rfl
  | cons x xs ih =>
    -- the group of `f x` and the elements outside of it are images of those of `x`
    have hkey : ∀ y ∈ xs, (key' (f y) == key' (f x)) = (key y == key x) := by
      intro y hy
      rw [Bool.eq_iff_iff, beq_iff_eq, beq_iff_eq]
      exact h y (List.mem_cons_of_mem x hy) x List.mem_cons_self
    have hfirst : ((xs.map f).filter fun y => key' y == key' (f x))
        = (xs.filter fun y => key y == key x).map f := by
      rw [List.filter_map]
      exact congrArg _ (List.filter_congr hkey)
    have hothers : ((xs.map f).filter fun y => !key' y == key' (f x))
        = (xs.filter fun y => !key y == key x).map f := by
      rw [List.filter_map]
      exact congrArg _ (List.filter_congr fun y hy => congrArg _ (hkey y hy))
    have hrest := ih fun y hy z hz =>
      h y (List.mem_cons_of_mem x (List.mem_of_mem_filter hy)) z
        (List.mem_cons_of_mem x (List.mem_of_mem_filter hz))
    rw [List.map_cons, groupBy_cons, groupBy_cons, hfirst, hothers, hrest]
    rfl

/-- `ys` is `xs` with its groups put together: the members of each group in order, and the groups in
the order of their first members. -/
structure IsRegrouping (key : α → κ) (xs ys : List α) : Prop where
  within : ∀ k, (ys.filter fun y => key y == k) = xs.filter fun x => key x == k
  between : ys.Pairwise fun a b => (xs.map key).idxOf (key a) ≤ (xs.map key).idxOf (key b)

/-- A list with its groups put together: sorted by the first occurrence of each element's key. -/
def regrouped (key : α → κ) (xs : List α) : List α :=
  xs.mergeSort fun a b => (xs.map key).idxOf (key a) ≤ (xs.map key).idxOf (key b)

/-! ### One list only -/

theorem IsRegrouping.mem_iff (h : IsRegrouping key xs ys) {a : α} : a ∈ ys ↔ a ∈ xs := by
  have hmem := congrArg (a ∈ ·) (h.within (key a))
  simpa using hmem

omit [BEq κ] [LawfulBEq κ] in
theorem place_head_le {place : κ → Nat} {x y : α}
    (h : (x :: xs).Pairwise fun a b => place (key a) ≤ place (key b)) (hy : y ∈ x :: xs) :
    place (key x) ≤ place (key y) := by
  rcases List.mem_cons.1 hy with rfl | hy
  · exact Nat.le_refl _
  · exact (List.pairwise_cons.1 h).1 y hy

/-- Lists that agree on each key and are both in order are equal. -/
theorem eq_of_filter_eq (key : α → κ) (place : κ → Nat)
    (hplace : ∀ a ∈ ys, ∀ b ∈ ys, place (key a) = place (key b) → key a = key b)
    (hfilter : ∀ k, (ys.filter fun y => key y == k) = zs.filter fun z => key z == k)
    (hys : ys.Pairwise fun a b => place (key a) ≤ place (key b))
    (hzs : zs.Pairwise fun a b => place (key a) ≤ place (key b)) : ys = zs := by
  have hmem : ∀ {a}, a ∈ ys ↔ a ∈ zs := by
    intro a
    simpa using congrArg (a ∈ ·) (hfilter (key a))
  induction ys generalizing zs with
  | nil =>
    cases zs with
    | nil => rfl
    | cons z zs => exact absurd (hmem.2 List.mem_cons_self) List.not_mem_nil
  | cons y ys ih =>
    cases zs with
    | nil => exact absurd (hmem.1 List.mem_cons_self) List.not_mem_nil
    | cons z zs =>
      -- the first elements have one key, since each list puts its own key first
      have hkey : key y = key z := by
        refine hplace y List.mem_cons_self z (hmem.2 List.mem_cons_self) (Nat.le_antisymm ?_ ?_)
        · exact place_head_le hys (hmem.2 List.mem_cons_self)
        · exact place_head_le hzs (hmem.1 List.mem_cons_self)
      have hfirst := hfilter (key y)
      rw [List.filter_cons_of_pos (by simp), List.filter_cons_of_pos (by simp [hkey])] at hfirst
      obtain rfl := (List.cons.inj hfirst).1
      -- without them the lists still agree on each key, whether or not it is theirs
      have hrest : ∀ k, (ys.filter fun y => key y == k) = zs.filter fun z => key z == k := by
        intro k
        have h := hfilter k
        simp only [List.filter_cons] at h
        split at h
        · exact (List.cons.inj h).2
        · exact h
      rw [ih (fun a ha b hb => hplace a (by simp [ha]) b (by simp [hb])) hrest
        (List.pairwise_cons.1 hys).2 (List.pairwise_cons.1 hzs).2
        fun {a} => by simpa using congrArg (a ∈ ·) (hrest (key a))]

/-- A list has one regrouping. -/
theorem IsRegrouping.unique (hys : IsRegrouping key xs ys) (hzs : IsRegrouping key xs zs) :
    ys = zs := by
  refine eq_of_filter_eq key (fun k => (xs.map key).idxOf k) ?_
    (fun k => (hys.within k).trans (hzs.within k).symm) hys.between hzs.between
  intro a ha b _ h
  exact (List.idxOf_inj (List.mem_map_of_mem (hys.mem_iff.1 ha))).1 h

/-! ### Sorting and grouping -/

theorem isRegrouping_regrouped (key : α → κ) (xs : List α) :
    IsRegrouping key xs (regrouped key xs) := by
  have htrans : ∀ a b c : α,
      decide ((xs.map key).idxOf (key a) ≤ (xs.map key).idxOf (key b)) = true →
      decide ((xs.map key).idxOf (key b) ≤ (xs.map key).idxOf (key c)) = true →
      decide ((xs.map key).idxOf (key a) ≤ (xs.map key).idxOf (key c)) = true := by
    simp only [decide_eq_true_eq]
    exact fun a b c => Nat.le_trans
  have htotal : ∀ a b : α,
      (decide ((xs.map key).idxOf (key a) ≤ (xs.map key).idxOf (key b)) ||
        decide ((xs.map key).idxOf (key b) ≤ (xs.map key).idxOf (key a))) = true := by
    intro a b
    simpa using Nat.le_total _ _
  refine ⟨fun k => ?_, ?_⟩
  · -- the members of a group are in order already, so sorting keeps them as they are
    have hsorted : (xs.filter fun x => key x == k).Pairwise fun a b =>
        decide ((xs.map key).idxOf (key a) ≤ (xs.map key).idxOf (key b)) = true := by
      refine List.pairwise_filter.2 (List.pairwise_of_forall fun a b ha hb => ?_)
      rw [eq_of_beq ha, eq_of_beq hb]
      simp
    have hsub := (List.sublist_mergeSort htrans htotal hsorted List.filter_sublist).filter
      fun x => key x == k
    rw [List.filter_filter] at hsub
    simp only [Bool.and_self] at hsub
    refine (hsub.eq_of_length ?_).symm
    exact ((List.mergeSort_perm xs _).filter _).length_eq.symm
  · refine (List.pairwise_mergeSort htrans htotal xs).imp fun h => ?_
    simpa using h

/-- Leaving elements out keeps the order of the first occurrences of the others. -/
theorem idxOf_le_of_filter {p : κ → Bool} {a b : κ} {ks : List κ} (ha : p a = true)
    (hb : p b = true) (h : (ks.filter p).idxOf a ≤ (ks.filter p).idxOf b) :
    ks.idxOf a ≤ ks.idxOf b := by
  induction ks with
  | nil => simp
  | cons k ks ih =>
    by_cases hk : p k = true
    · rw [List.filter_cons_of_pos hk] at h
      by_cases hka : k = a
      · simp [hka, List.idxOf_cons]
      · by_cases hkb : k = b
        · -- `b` would stand before `a` in the shorter list as well
          rw [hkb, List.idxOf_cons_self, Nat.le_zero] at h
          rw [List.idxOf_cons_ne _ (hkb ▸ hka)] at h
          cases h
        · rw [List.idxOf_cons_ne _ hka, List.idxOf_cons_ne _ hkb] at h ⊢
          exact Nat.succ_le_succ (ih (Nat.le_of_succ_le_succ h))
    · -- an element that is left out is neither `a` nor `b`
      rw [List.filter_cons_of_neg hk] at h
      have hka : k ≠ a := fun e => hk (e ▸ ha)
      have hkb : k ≠ b := fun e => hk (e ▸ hb)
      rw [List.idxOf_cons_ne _ hka, List.idxOf_cons_ne _ hkb]
      exact Nat.succ_le_succ (ih h)

/-- The group of the first element and the other elements have the members of each group in order. -/
theorem filter_front (x : α) (xs : List α) (k : κ) :
    ((x :: xs.filter fun y => key y == key x).filter fun y => key y == k) ++
        ((xs.filter fun y => !key y == key x).filter fun y => key y == k)
      = (x :: xs).filter fun y => key y == k := by
  rw [List.filter_cons, List.filter_cons, List.filter_filter, List.filter_filter]
  by_cases hk : key x = k
  · simp [hk]
  · have hfirst : (xs.filter fun y => key y == k && key y == key x) = [] := by
      refine List.filter_eq_nil_iff.2 fun y _ => ?_
      rw [Bool.and_eq_true, beq_iff_eq, beq_iff_eq]
      exact fun e => hk (e.2.symm.trans e.1)
    have hrest : (xs.filter fun y => key y == k && !key y == key x)
        = xs.filter fun y => key y == k := by
      refine List.filter_congr fun y _ => ?_
      by_cases e : key y = k
      · simp [e, Ne.symm hk]
      · simp [e]
    simp [hk, hfirst, hrest]

/-- The key of the first group occurs first. -/
theorem idxOf_front {x a : α} (ha : a ∈ x :: xs.filter fun y => key y == key x) :
    ((x :: xs).map key).idxOf (key a) = 0 := by
  have hkey : key a = key x := by
    rcases List.mem_cons.1 ha with rfl | ha
    · rfl
    · exact eq_of_beq (List.mem_filter.1 ha).2
  rw [hkey, List.map_cons, List.idxOf_cons_self]

/-- The group of the first element comes first. -/
theorem IsRegrouping.cons {x : α}
    (h : IsRegrouping key (xs.filter fun y => !key y == key x) ys) :
    IsRegrouping key (x :: xs) ((x :: xs.filter fun y => key y == key x) ++ ys) := by
  refine ⟨fun k => ?_, List.pairwise_append.2 ⟨?_, ?_, ?_⟩⟩
  · rw [List.filter_append, h.within k, filter_front]
  · -- within the first group all have the place of `x`
    refine List.pairwise_of_forall_mem_list fun a ha b hb => ?_
    rw [idxOf_front ha]
    exact Nat.zero_le _
  · -- behind it the order is that of the shorter list, whose keys are some of the keys here
    have hkeys : (xs.filter fun y => !key y == key x).map key
        = ((x :: xs).map key).filter fun k => !k == key x := by
      rw [map_key_filter (fun k => !k == key x), List.map_cons, List.filter_cons_of_neg (by simp)]
    have hbetween := h.between
    rw [hkeys] at hbetween
    refine hbetween.imp_of_mem fun {a b} ha hb hab => ?_
    exact idxOf_le_of_filter (List.mem_filter.1 (h.mem_iff.1 ha)).2
      (List.mem_filter.1 (h.mem_iff.1 hb)).2 hab
  · intro a ha b _
    rw [idxOf_front ha]
    exact Nat.zero_le _

theorem isRegrouping_flatten_groupBy (key : α → κ) (xs : List α) :
    IsRegrouping key xs (groupBy key xs).flatten := by
  induction xs using List.filter_induction (fun x y : α => !key y == key x) with
  | nil => exact ⟨fun _ => rfl, .nil⟩
  | cons x xs ih =>
    rw [groupBy_cons, List.flatten_cons]
    exact ih.cons

/-- **Grouping is stable sorting** by the first occurrence of the key. -/
theorem flatten_groupBy (key : α → κ) (xs : List α) :
    (groupBy key xs).flatten = regrouped key xs :=
  (isRegrouping_flatten_groupBy key xs).unique (isRegrouping_regrouped key xs)

omit [LawfulBEq κ] in
theorem regrouped_perm (key : α → κ) (xs : List α) : (regrouped key xs).Perm xs :=
  List.mergeSort_perm xs _

/-! ### Going over groups -/

/-- Going over the groups in a way that maps each element is mapping the regrouped list. -/
theorem flatMap_groupBy {β : Type} (f : List α → List β) (g : α → β)
    (h : ∀ group ∈ groupBy key xs, f group = group.map g) :
    (groupBy key xs).flatMap f = (regrouped key xs).map g := by
  rw [← flatten_groupBy, List.map_flatten, ← List.flatMap_def, List.flatMap_def,
    List.map_congr_left h, ← List.flatMap_def]

/-- The first group of a kind is that of the first element whose group is of that kind. -/
theorem find?_groupBy (p : List α → Bool) (key : α → κ) (xs : List α) :
    (groupBy key xs).find? p
      = ((xs.map key).find? fun k => p (xs.filter fun x => key x == k)).map fun k =>
          xs.filter fun x => key x == k := by
  rw [groupBy, List.find?_map, Text.find?_distinct]
  rfl

end Extract
end RouteHelpers
