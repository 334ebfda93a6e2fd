import Mathlib.Data.List.Infix
import RouteHelpers.Proofs.Extract.Grouping

/-!
The first elements with their keys, and those that repeat a key.

Of the elements that have one key the first is kept. `firsts` are the elements that are kept and
`repeats` the others, each with the one that is kept in its place; together they are the whole list
(`perm_firsts_append_repeats`). What is kept is the first of every group:

    (groupBy key xs).filterMap List.head? = firsts key xs
-/

namespace RouteHelpers.Extract

variable {α κ : Type} [BEq κ] {key : α → κ} {xs : List α}

/-- Each element of a list with those that stand before it. -/
def withEarlier (xs : List α) : List (List α × α) :=
  xs.inits.zip xs

/-- The first element that has the key of the given one, among those before it. -/
def earlier? (key : α → κ) (e : List α × α) : Option α :=
  e.1.find? fun y => key y == key e.2

/-- The elements whose keys occur with them for the first time. -/
def firsts (key : α → κ) (xs : List α) : List α :=
  ((withEarlier xs).filter fun e => (earlier? key e).isNone).map (·.2)

/-- The elements whose keys occurred before, each with the first element that has its key. -/
def repeats (key : α → κ) (xs : List α) : List (α × α) :=
  (withEarlier xs).filterMap fun e => (earlier? key e).map fun first => (e.2, first)

theorem map_snd_withEarlier (xs : List α) : (withEarlier xs).map (·.2) = xs :=
  List.map_snd_zip (by simp)

theorem map_fst_repeats (key : α → κ) (xs : List α) :
    (repeats key xs).map (·.1)
      = ((withEarlier xs).filter fun e => !(earlier? key e).isNone).map (·.2) := by
  rw [repeats, List.map_filterMap]
  induction withEarlier xs with
  | nil => rfl
  | cons e es ih =>
    cases h : earlier? key e with
    | none => simpa [h] using ih
    | some first => simpa [h] using ih

/-- **Nothing is lost or doubled**: an element is kept or it repeats one. -/
theorem perm_firsts_append_repeats (key : α → κ) (xs : List α) :
    xs.Perm (firsts key xs ++ (repeats key xs).map (·.1)) := by
  have hsplit := (List.filter_append_perm (fun e => (earlier? key e).isNone) (withEarlier xs)).map (·.2)
  rw [map_snd_withEarlier, List.map_append] at hsplit
  rw [map_fst_repeats, firsts]
  exact hsplit.symm

/-! ### Firsts of groups -/

variable [LawfulBEq κ]

/-- The rest of a list behind elements that were seen: what is new there are the firsts of the groups of
keys that were not seen. -/
theorem filter_zip_inits (key : α → κ) (seen xs : List α) :
    (((xs.inits.map (seen ++ ·)).zip xs).filter fun e => (earlier? key e).isNone).map (·.2)
      = (groupBy key (xs.filter fun x => (earlier? key (seen, x)).isNone)).filterMap List.head? := by
  -- on the rest of the list, with what stands before it growing by one element each time
  induction xs generalizing seen with
  | nil => rfl
  | cons x xs ih =>
    have hinits : (x :: xs).inits.map (seen ++ ·) = seen :: xs.inits.map (seen ++ [x] ++ ·) := by
      simp
    rw [hinits, List.zip_cons_cons, List.filter_cons, List.filter_cons]
    -- an element behind `x` is new if its key was not seen and is not that of `x`
    have hseen : ∀ y, (earlier? key (seen ++ [x], y)).isNone
        = ((earlier? key (seen, y)).isNone && !key y == key x) := by
      intro y
      rw [Bool.eq_iff_iff]
      simp [earlier?, BEq.comm (a := key x)]
    by_cases hx : (earlier? key (seen, x)).isNone = true
    · -- `x` is the first of its group, and the group goes with it
      rw [if_pos hx, if_pos hx, List.map_cons, groupBy_cons, List.filterMap_cons_some (by rfl), ih,
        List.filter_filter]
      simp only [hseen, Bool.and_comm]
    · -- the key of `x` was seen, so seeing `x` adds nothing
      rw [if_neg hx, if_neg hx, ih]
      congr 2
      refine List.filter_congr fun y _ => ?_
      rw [hseen, Bool.eq_iff_iff, Bool.and_eq_true, and_iff_left_iff_imp, Bool.not_eq_true',
        beq_eq_false_iff_ne]
      intro hy hxy
      rw [earlier?, hxy] at hy
      exact hx hy

theorem heads_groupBy (key : α → κ) (xs : List α) :
    (groupBy key xs).filterMap List.head? = firsts key xs := by
  have h := filter_zip_inits key [] xs
  simpa [firsts, withEarlier, earlier?] using h.symm

/-- The first element with each key. -/
theorem firsts_eq_filterMap (key : α → κ) (xs : List α) :
    firsts key xs = (Text.distinct (xs.map key)).filterMap fun k => xs.find? fun x => key x == k := by
  rw [← heads_groupBy, groupBy, List.filterMap_map]
  simp only [Function.comp_def, List.head?_filter]

/-- An element is kept if it is the first with its key. -/
theorem mem_firsts {y : α} : y ∈ firsts key xs ↔ (xs.find? fun x => key x == key y) = some y := by
  rw [firsts_eq_filterMap, List.mem_filterMap]
  constructor
  · rintro ⟨k, -, h⟩
    obtain rfl : key y = k := by simpa using List.find?_some h
    exact h
  · intro h
    exact ⟨key y, Text.mem_distinct.2 (List.mem_map_of_mem (List.mem_of_find?_eq_some h)), h⟩

/-- Each key has its first element, in the order of the keys. -/
theorem map_key_firsts (key : α → κ) (xs : List α) :
    (firsts key xs).map key = Text.distinct (xs.map key) := by
  rw [firsts_eq_filterMap, List.map_filterMap]
  have hkey : ∀ k ∈ Text.distinct (xs.map key),
      ((xs.find? fun x => key x == k).map key) = some k := by
    intro k hk
    obtain ⟨x, hx, rfl⟩ := List.mem_map.1 (Text.mem_distinct.1 hk)
    have hsome : (xs.find? fun z => key z == key x).isSome = true :=
      List.find?_isSome.2 ⟨x, hx, by simp⟩
    obtain ⟨y, hy⟩ := Option.isSome_iff_exists.1 hsome
    have hkey : key y = key x := by simpa using List.find?_some hy
    rw [hy, Option.map_some, hkey]
  rw [List.filterMap_congr hkey, List.filterMap_some]

/-- Where no key occurs twice, every element is the first with its key. -/
theorem firsts_of_nodup (h : (xs.map key).Nodup) : firsts key xs = xs := by
  have hsub : (firsts key xs).Sublist xs := by
    have hmap := (List.filter_sublist
      (p := fun e => (earlier? key e).isNone) (l := withEarlier xs)).map (·.2)
    rwa [map_snd_withEarlier] at hmap
  -- the kept elements have as many keys as the list
  refine hsub.eq_of_length ?_
  have hkeys := congrArg List.length (map_key_firsts key xs)
  rwa [Text.distinct_of_nodup h, List.length_map, List.length_map] at hkeys

/-- The element that another one repeats is the first with its key. -/
theorem of_mem_repeats {e : α × α} (h : e ∈ repeats key xs) :
    key e.2 = key e.1 ∧ e.2 ∈ firsts key xs := by
  obtain ⟨⟨before, x⟩, hbefore, h⟩ := List.mem_filterMap.1 h
  obtain ⟨first, hfirst, rfl⟩ := Option.map_eq_some_iff.1 h
  rw [earlier?] at hfirst
  have hkey : key first = key x := by simpa using List.find?_some hfirst
  refine ⟨hkey, mem_firsts.2 ?_⟩
  have hprefix : before <+: xs := (List.mem_inits _ _).1 (List.of_mem_zip hbefore).1
  rw [hkey]
  exact hprefix.find?_eq_some hfirst

end RouteHelpers.Extract
