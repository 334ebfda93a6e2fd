import Mathlib.Logic.ExistsUnique
import RouteHelpers.Proofs.RouteFile.Walk

/-!
Whose a helper's name is.

A reader reads one routes file several times, finding other files each time, and what it has come to
stays, also when a reading breaks off (`readerAfter`). Beside it stands a reader that enters every
route under the name that it asks for (`enterAsAsked`) and is the same otherwise: its helpers are the
names that are computed, record by record. The two are related by `Settled`, which says that a name
stays with the first record that asks for it; entering a route preserves that (`Settled.add`), so
readings do.

The moments of a reading are those of readers with room for some number of records (`upTo`), which
hold what any reader holds when it has entered that many (`isMoment_readerAfter`).
-/

namespace RouteHelpers

/-- A record without its helper. -/
def Record.unnamed (r : Record) : Record :=
  { r with helper := none }

namespace RouteFile

/-! ### Readers -/

/-- What a reader has come to after readings of the routes file at a path, one after another. -/
def readerAfter (enter : Declaration → Step) (path : String) (readings : List Sources) : State :=
  readings.foldl (fun st files => (readingOf enter files path).reached st) {}

theorem readerAfter_concat (enter : Declaration → Step) (path : String) (readings : List Sources)
    (files : Sources) :
    readerAfter enter path (readings ++ [files])
      = (readingOf enter files path).reached (readerAfter enter path readings) := by
  simp [readerAfter]

/-- Adds the record of a declared route under the name that it asks for, taken or not. -/
def enterAsAsked (d : Declaration) : Step := fun st =>
  pure { st with records := st.records ++ [d.record d.helper] }

/-- Enters routes as given until there are `n` records, and passes over all others. -/
def upTo (n : Nat) (enter : Declaration → Step) (d : Declaration) : Step := fun st =>
  if st.records.length < n then enter d st else pure st

/-- The names of a reader's records. -/
def State.helpers (st : State) : List (Option String) :=
  st.records.map (·.helper)

@[simp] theorem State.length_helpers (st : State) : st.helpers.length = st.records.length :=
  List.length_map _

variable {R : State → State → Prop} {enter enter' : Declaration → Step}

/-- What entering one route preserves, readings preserve. -/
theorem readerAfter_related (hR : Stable R) (he : ∀ d, Step.Matches R (enter d) (enter' d))
    (hstart : R {} {}) (path : String) (readings : List Sources) :
    R (readerAfter enter path readings) (readerAfter enter' path readings) := by
  unfold readerAfter
  generalize ({} : State) = a at hstart
  have hfold : ∀ a b : State, R a b →
      R (readings.foldl (fun st files => (readingOf enter files path).reached st) a)
        (readings.foldl (fun st files => (readingOf enter' files path).reached st) b) := by
    induction readings with
    | nil => exact fun a b h => h
    | cons files readings ih =>
      exact fun a b h => ih _ _ ((readingOf_matches hR files path he).reached h)
  exact hfold a a hstart

/-- A reading only adds records. -/
theorem records_reading (files : Sources) (path : String) (st : State) :
    st.records <+: ((readingOf declare files path).reached st).records := by
  have hreading : Step.Matches (Adds (fun _ => True) st) (readingOf declare files path)
      (readingOf declare files path) :=
    readingOf_matches (stable_adds _ st) files path fun _ => declare_adds fun _ _ => trivial
  obtain ⟨-, added, hadded, -⟩ := hreading.reached (Adds.refl st)
  exact ⟨added, hadded.symm⟩

/-- Later readings only add records. -/
theorem records_readerAfter_append (path : String) (readings later : List Sources) :
    (readerAfter declare path readings).records <+:
      (readerAfter declare path (readings ++ later)).records := by
  induction later generalizing readings with
  | nil => simp
  | cons files later ih =>
    have hfirst := records_reading files path (readerAfter declare path readings)
    rw [← readerAfter_concat] at hfirst
    have hrest := ih (readings ++ [files])
    rw [List.append_assoc, List.singleton_append] at hrest
    exact hfirst.trans hrest

/-! ### Moments of a reading -/

/-- A reader with room for `n` records beside one with room for all. -/
structure IsMoment (n : Nat) (st last : State) : Prop where
  concerns : st.concerns = last.concerns
  records : st.records = last.records.take n
  claimed : last.records.length ≤ n → st.claimed = last.claimed

/-- A reader with room for all its records is any reader. -/
theorem IsMoment.eq_last {n : Nat} {st last : State} (h : IsMoment n st last)
    (hle : last.records.length ≤ n) : st = last := by
  obtain ⟨records, claimed, concerns⟩ := st
  obtain rfl : concerns = last.concerns := h.concerns
  obtain rfl : claimed = last.claimed := h.claimed hle
  obtain rfl : records = last.records := by
    rw [← List.take_of_length_le hle]
    exact h.records
  rfl

theorem stable_isMoment (n : Nat) : Stable (IsMoment n) where
  concerns h := h.concerns
  define _ h := ⟨rfl, h.records, h.claimed⟩

theorem upTo_matches (n : Nat) (d : Declaration) :
    Step.Matches (IsMoment n) (upTo n declare d) (declare d) := by
  intro st last h
  have hlength : st.records.length = min n last.records.length := by
    rw [h.records, List.length_take]
  by_cases hroom : st.records.length < n
  · -- the readers are the same as long as there is room
    have hall : last.records.length ≤ n := by omega
    obtain rfl := h.eq_last hall
    rw [upTo, if_pos hroom]
    refine .ok ⟨rfl, ?_, fun _ => rfl⟩
    rw [State.records_add, List.take_of_length_le]
    rw [List.length_append, List.length_singleton]
    omega
  · -- without room the one reader stays, and what the other adds lies behind the first `n` records
    have hfull : n ≤ last.records.length := by omega
    rw [upTo, if_neg hroom]
    refine .ok ⟨h.concerns, ?_, fun hle => ?_⟩
    · rw [State.records_add, List.take_append_of_le_length hfull]
      exact h.records
    · rw [State.records_add, List.length_append, List.length_singleton] at hle
      omega

/-- A reader with room for `n` records is at a moment of the reader with room for all. -/
theorem isMoment_readerAfter (n : Nat) (path : String) (readings : List Sources) :
    IsMoment n (readerAfter (upTo n declare) path readings) (readerAfter declare path readings) :=
  readerAfter_related (stable_isMoment n) (upTo_matches n) ⟨rfl, by simp, fun _ => rfl⟩ path readings

/-! ### Names stay with those who asked first -/

/-- The helper of a record that asks for a name after others have asked for names. -/
def ownName (earlier : List (Option String)) (name : Option String) : Option String :=
  name.filter fun h => h.isEmpty || !earlier.contains (some h)

theorem ownName_eq_some_iff {earlier : List (Option String)} {name : Option String} {h : String}
    (hne : h ≠ "") : ownName earlier name = some h ↔ name = some h ∧ some h ∉ earlier := by
  simp [ownName, Option.filter_eq_some_iff, hne]

/-- A reader beside one that enters every route as it asks: the records are the same but for their
names, a name is claimed if it was asked for, and each record has the name that it asks for unless an
earlier one did. -/
structure Settled (st noted : State) : Prop where
  concerns : st.concerns = noted.concerns
  unnamed : st.records.map Record.unnamed = noted.records.map Record.unnamed
  claimed (h : String) : h ∈ st.claimed ↔ h ≠ "" ∧ some h ∈ noted.helpers
  helpers (i : Nat) (name : Option String) :
    noted.helpers[i]? = some name → st.helpers[i]? = some (ownName (noted.helpers.take i) name)

theorem stable_settled : Stable Settled where
  concerns h := h.concerns
  define _ h := ⟨rfl, h.unnamed, h.claimed, h.helpers⟩

namespace Settled

variable {st noted : State}

theorem length_eq (h : Settled st noted) : st.helpers.length = noted.helpers.length := by
  simpa using congrArg List.length h.unnamed

/-- The names that are claimed are those that a route has to ask for first. -/
theorem ownHelper_eq (h : Settled st noted) (d : Declaration) :
    d.ownHelper st.claimed = ownName noted.helpers d.helper := by
  unfold Declaration.ownHelper ownName
  congr 1
  funext name
  rw [Bool.eq_iff_iff]
  simp [h.claimed, Classical.or_iff_not_imp_left]

/-- **Entering a route** leaves each name with the first record that asks for it. -/
theorem add (h : Settled st noted) (d : Declaration) :
    Settled (st.add d) { noted with records := noted.records ++ [d.record d.helper] } := by
  have hnoted : State.helpers { noted with records := noted.records ++ [d.record d.helper] }
      = noted.helpers ++ [d.helper] := by
    simp [State.helpers, Declaration.record]
  have hst : (st.add d).helpers = st.helpers ++ [ownName noted.helpers d.helper] := by
    rw [← h.ownHelper_eq]
    simp [State.helpers, Declaration.record]
  refine ⟨h.concerns, ?_, fun name => ?_, fun i name hi => ?_⟩
  · simp [h.unnamed, Record.unnamed, Declaration.record]
  · -- a name is claimed now if it was before, or if it is new and this route asks for it
    rw [hnoted, State.claimed_add, h.ownHelper_eq, List.mem_append, h.claimed, Option.mem_toList,
      Option.filter_eq_some_iff, List.mem_append, List.mem_singleton]
    by_cases hname : name = ""
    · simp [hname]
    · rw [ownName_eq_some_iff hname]
      by_cases hasked : some name ∈ noted.helpers
      · simp [hname, hasked]
      · have hsymm : some name = d.helper ↔ d.helper = some name := eq_comm
        simp [hname, hasked, hsymm]
  · rw [hst]
    rw [hnoted] at hi ⊢
    rcases Nat.lt_trichotomy i noted.helpers.length with hlt | rfl | hgt
    · rw [List.getElem?_append_left hlt] at hi
      rw [List.getElem?_append_left (h.length_eq ▸ hlt), List.take_append_of_le_length (Nat.le_of_lt hlt)]
      exact h.helpers i name hi
    · -- the new record, which all others come before
      rw [List.getElem?_concat_length] at hi
      obtain rfl := Option.some.inj hi
      rw [← h.length_eq, List.getElem?_concat_length, h.length_eq, List.take_left']
      rfl
    · have hend : (noted.helpers ++ [d.helper]).length ≤ i := by
        rw [List.length_append]
        exact hgt
      rw [List.getElem?_eq_none hend] at hi
      cases hi

end Settled

theorem upTo_declare_matches (n : Nat) (d : Declaration) :
    Step.Matches Settled (upTo n declare d) (upTo n enterAsAsked d) := by
  intro st noted h
  have hlength : st.records.length = noted.records.length := by
    simpa using h.length_eq
  unfold upTo
  rw [hlength]
  split
  · exact .ok (h.add d)
  · exact .ok h

/-- At each moment the names are settled. -/
theorem settled_readerAfter (n : Nat) (path : String) (readings : List Sources) :
    Settled (readerAfter (upTo n declare) path readings)
      (readerAfter (upTo n enterAsAsked) path readings) :=
  readerAfter_related stable_settled (upTo_declare_matches n)
    ⟨rfl, rfl, by simp [State.helpers], by simp [State.helpers]⟩ path readings

/-! ### Every moment of every reader -/

namespace Settled

variable {st noted : State} {h : String}

theorem helpers_eq_some_iff (hs : Settled st noted) (hne : h ≠ "") (i : Nat) :
    st.helpers[i]? = some (some h) ↔
      noted.helpers[i]? = some (some h) ∧ some h ∉ noted.helpers.take i := by
  constructor
  · intro hi
    obtain ⟨hlt, -⟩ := List.getElem?_eq_some_iff.1 hi
    rw [hs.length_eq] at hlt
    have hname := List.getElem?_eq_getElem hlt
    have hown := hs.helpers i _ hname
    rw [hi, Option.some.injEq, eq_comm, ownName_eq_some_iff hne] at hown
    rw [hname, hown.1]
    exact ⟨rfl, hown.2⟩
  · rintro ⟨hi, hfirst⟩
    rw [hs.helpers i _ hi, (ownName_eq_some_iff hne).2 ⟨rfl, hfirst⟩]

theorem helpers_eq_none (hs : Settled st noted) (hne : h ≠ "") {i : Nat}
    (hi : noted.helpers[i]? = some (some h)) (hearlier : some h ∈ noted.helpers.take i) :
    st.helpers[i]? = some none := by
  rw [hs.helpers i _ hi, ownName]
  simp [hne, hearlier]

/-- A name that was asked for stands on one record. -/
theorem existsUnique_helper (hs : Settled st noted) (hne : h ≠ "")
    (hasked : some h ∈ noted.helpers) : ∃! i : Nat, st.helpers[i]? = some (some h) := by
  obtain ⟨before, after, hsplit, hfirst⟩ := List.eq_append_cons_of_mem hasked
  refine ⟨before.length, ?_, fun i hi => ?_⟩
  · refine (hs.helpers_eq_some_iff hne _).2 ?_
    rw [hsplit, List.take_left]
    simp [hfirst]
  · obtain ⟨hi, hnone⟩ := (hs.helpers_eq_some_iff hne i).1 hi
    rw [hsplit] at hi hnone
    rcases Nat.lt_trichotomy i before.length with hlt | rfl | hgt
    · -- no place in front of the first one holds the name
      rw [List.getElem?_append_left hlt] at hi
      exact absurd (List.mem_of_getElem? hi) hfirst
    · rfl
    · have hplace : ((before ++ some h :: after).take i)[before.length]? = some (some h) := by
        rw [List.getElem?_take_of_lt hgt]
        simp
      exact absurd (List.mem_of_getElem? hplace) hnone

end Settled

/-- **A name belongs to the first route that asks for it**, at every moment of every reader: records
are only ever added; the claimed names are the names on the records; each of them stands on one record,
the first that asks for it, and later ones that ask for it have none. -/
theorem readerAfter_claims (path : String) (readings : List Sources) (n : Nat) :
    let last := readerAfter declare path readings
    let st := readerAfter (upTo n declare) path readings
    let noted := readerAfter (upTo n enterAsAsked) path readings
    (st.records = last.records.take n ∧ (last.records.length ≤ n → st = last)) ∧
    (∀ later, last.records <+: (readerAfter declare path (readings ++ later)).records) ∧
    st.records.map Record.unnamed = noted.records.map Record.unnamed ∧
    (∀ h, h ∈ st.claimed ↔ h ≠ "" ∧ some h ∈ st.helpers) ∧
    (∀ h ∈ st.claimed, ∃! i : Nat, st.helpers[i]? = some (some h)) ∧
    (∀ h, h ≠ "" → ∀ i : Nat, st.helpers[i]? = some (some h) ↔
      noted.helpers[i]? = some (some h) ∧ some h ∉ noted.helpers.take i) ∧
    ∀ h, h ≠ "" → ∀ i : Nat, noted.helpers[i]? = some (some h) →
      some h ∈ noted.helpers.take i → st.helpers[i]? = some none := by
  intro last st noted
  have hs : Settled st noted := settled_readerAfter n path readings
  -- a name that was asked for is on the first record that asks, and on no record if none did
  have hborne : ∀ h, h ≠ "" → (some h ∈ noted.helpers ↔ some h ∈ st.helpers) := by
    intro h hne
    constructor
    · intro hasked
      obtain ⟨i, hi, -⟩ := hs.existsUnique_helper hne hasked
      exact List.mem_of_getElem? hi
    · intro hmem
      obtain ⟨i, hi⟩ := List.getElem?_of_mem hmem
      exact List.mem_of_getElem? ((hs.helpers_eq_some_iff hne i).1 hi).1
  have hmoment : IsMoment n st last := isMoment_readerAfter n path readings
  refine ⟨⟨hmoment.records, hmoment.eq_last⟩, records_readerAfter_append path readings, hs.unnamed,
    fun h => ?_, fun h hmem => ?_, fun h hne => hs.helpers_eq_some_iff hne,
    fun h hne i => hs.helpers_eq_none hne⟩
  · rw [hs.claimed, and_congr_right_iff]
    exact hborne h
  · obtain ⟨hne, hasked⟩ := (hs.claimed h).1 hmem
    exact hs.existsUnique_helper hne hasked

end RouteFile
end RouteHelpers
