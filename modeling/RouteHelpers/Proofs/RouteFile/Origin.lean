import RouteHelpers.Proofs.RouteFile.Claiming

/-!
Where the records of a reader come from.

Every record of a reader is that of a route which some call declares, a call that occurs in what was
read, in a scope that such calls lead to from the outermost one. So what holds of the routes that these
calls declare there holds of all records (`forall_records_readerAfter`), however often the reader has
read and whether or not a reading broke off.
-/

namespace RouteHelpers.RouteFile

variable {P : Record → Prop} {path : String} {readings : List Sources}

/-- A call occurs in what is read, in one of several readings of the routes file at a path. -/
def OccursIn (path : String) (readings : List Sources) (c : Call) : Prop :=
  ∃ files ∈ readings, files.HasCall path c

/-- A call that occurs in one reading of the same statements everywhere is one of theirs. -/
theorem exists_of_occursIn_singleton {isFile : String → Bool} {ns : List Node} {c : Call}
    (h : OccursIn path [⟨isFile, fun _ => .ok ns⟩] c) : ∃ n ∈ ns, n.HasCall c := by
  obtain ⟨files, hfiles, file, ns', -, hstatements, hcall⟩ := h
  obtain rfl := List.mem_singleton.1 hfiles
  exact Except.ok.inj hstatements ▸ hcall

/-- **Every record has its call**: what is so of the routes that calls declare, is so of the records of
a reader that has met these calls. -/
theorem forall_records_readerAfter
    (h : ∀ s c d, Scope.LeadsTo (OccursIn path readings) {} s → OccursIn path readings c →
      c.Declares s d → ∀ helper, d.Allows helper → P (d.record helper)) :
    ∀ r ∈ (readerAfter declare path readings).records, P r := by
  have hreading : ∀ files ∈ readings,
      Step.Matches (Knowing (OccursIn path readings) (Adds P {})) (readingOf declare files path)
        (readingOf declare files path) := by
    intro files hfiles
    refine readingOf_matches_of_calls (stable_adds P {}) files path
      (fun c hc => ⟨files, hfiles, hc⟩) fun s c d hs hc hd => ?_
    exact matches_knowing_declare (declare_adds (h s c d hs hc hd))
  -- on the readings that are left, from a state whose records are such
  have hfold : ∀ (later : List Sources) (st : State), (∀ files ∈ later, files ∈ readings) →
      Knowing (OccursIn path readings) (Adds P {}) st st →
      Adds P {} (later.foldl (fun st files => (readingOf declare files path).reached st) st)
        (later.foldl (fun st files => (readingOf declare files path).reached st) st) := by
    intro later
    induction later with
    | nil => exact fun st _ hst => hst.1
    | cons files later ih =>
      intro st hlater hst
      obtain ⟨hfiles, hlater⟩ := List.forall_mem_cons.1 hlater
      exact ih _ hlater ((hreading files hfiles).reached hst)
  have hlast := hfold readings {} (fun _ hfiles => hfiles)
    ⟨Adds.refl {}, fun _ hp => absurd hp List.not_mem_nil⟩
  obtain ⟨-, added, hadded, hall⟩ := hlast
  intro r hr
  refine hall r ?_
  rw [readerAfter, hadded] at hr
  exact hr

end RouteHelpers.RouteFile
