import RouteHelpers.Proofs.RouteFile.Extraction

/-!
What claimed names take away.

The names that are claimed decide about nothing but helpers. Two readers that know the same concerns, of
which the second has more names claimed, go through the same statements in step (`AddsAlike`): they add
the same records, but the second leaves out helpers that the first gives. Entering one route preserves
this (`declare_addsAlike`): a name that is free for the second is free for the first, and where only the
first gives it, the second had it claimed before.
-/

namespace RouteHelpers

/-- The records are the same, but for a helper that the second may lack. -/
structure Record.IsErasedTo (r r' : Record) : Prop where
  unnamed : r.unnamed = r'.unnamed
  helper (name : String) : r'.helper = some name → r.helper = some name

namespace RouteFile

/-- What two readings have come to from two states: they know the same concerns, the names that the first
has claimed the second has too, and the records that they have added are the same one by one, but for
helpers that the second lacks. -/
structure AddsAlike (base base' a b : State) : Prop where
  concerns : a.concerns = b.concerns
  claimed : a.claimed ⊆ b.claimed
  records : ∃ added added', a.records = base.records ++ added ∧ b.records = base'.records ++ added' ∧
    List.Forall₂ Record.IsErasedTo added added'

variable {base base' a b : State}

theorem AddsAlike.refl (hconcerns : a.concerns = b.concerns) (hclaimed : a.claimed ⊆ b.claimed) :
    AddsAlike a b a b :=
  ⟨hconcerns, hclaimed, [], [], by simp, by simp, .nil⟩

theorem stable_addsAlike (base base' : State) : Stable (AddsAlike base base') where
  concerns h := h.concerns
  define _ h := ⟨rfl, h.claimed, h.records⟩

theorem Declaration.ownHelper_eq_some_iff {d : Declaration} {claimed : List String} {name : String} :
    d.ownHelper claimed = some name ↔ d.helper = some name ∧ name ∉ claimed := by
  simp [Declaration.ownHelper, Option.filter_eq_some_iff]

/-- A name that is free where more names are claimed is free where fewer are. -/
theorem Declaration.ownHelper_anti (d : Declaration) {claimed claimed' : List String}
    (h : claimed ⊆ claimed') {name : String} (hown : d.ownHelper claimed' = some name) :
    d.ownHelper claimed = some name := by
  rw [Declaration.ownHelper_eq_some_iff] at hown ⊢
  exact ⟨hown.1, fun htaken => hown.2 (h htaken)⟩

/-- A name that only the first reader has free is one that the second has claimed already. -/
theorem State.claimed_subset_add (h : a.claimed ⊆ b.claimed) (d : Declaration) :
    (a.add d).claimed ⊆ (b.add d).claimed := by
  intro name hname
  rw [State.claimed_add, List.mem_append, Option.mem_toList, Option.filter_eq_some_iff,
    Declaration.ownHelper_eq_some_iff] at hname ⊢
  rcases hname with hname | ⟨⟨hasked, -⟩, hfilled⟩
  · exact .inl (h hname)
  · by_cases htaken : name ∈ b.claimed
    · exact .inl htaken
    · exact .inr ⟨⟨hasked, htaken⟩, hfilled⟩

/-- **Entering a route** adds the same record, and where fewer names are claimed no helper is lost. -/
theorem declare_addsAlike (d : Declaration) :
    Step.Matches (AddsAlike base base') (declare d) (declare d) := by
  rintro a b ⟨hconcerns, hclaimed, added, added', ha, hb, hadded⟩
  refine .ok ⟨hconcerns, State.claimed_subset_add hclaimed d,
    added ++ [d.record (d.ownHelper a.claimed)], added' ++ [d.record (d.ownHelper b.claimed)], ?_, ?_,
    List.rel_append hadded (.cons ⟨rfl, fun _ => d.ownHelper_anti hclaimed⟩ .nil)⟩
  · rw [State.records_add, ha, List.append_assoc]
  · rw [State.records_add, hb, List.append_assoc]

/-- **Claimed names only take helpers away**: from states that know the same concerns, of which the
second has all the names claimed that the first has, the same statements add the same records in the
same order, come to the same concerns and the same fault, and every helper that the second reading gives
is given by the first to the record in that place. -/
theorem walk_addsAlike (files : Sources) (path : String) (depth : Nat) (ns : List Node) (s : Scope)
    {a b : State} (hconcerns : a.concerns = b.concerns) (hclaimed : a.claimed ⊆ b.claimed) :
    Ends (AddsAlike a b) (walk declare files path depth ns s a).outcome
      (walk declare files path depth ns s b).outcome :=
  walk_matches (stable_addsAlike a b) files path depth (fun _ d _ _ => declare_addsAlike d) ns s .refl
    a b (.refl hconcerns hclaimed)

/-- Where the name of a resource is claimed, its collection has no helper; its members have theirs. -/
theorem walk_addsAlike_accountStatements :
    let files : Sources := ⟨fun _ => false, fun _ => .ok []⟩
    let claiming : State := { claimed := ["accounts"] }
    let helpers (st : State) : List (Option String) :=
      ((walk declare files "" 1 accountStatements {}).reached st).helpers.take 3
    helpers {} = [some "accounts", none, some "new_account"] ∧
    helpers claiming = [none, none, some "new_account"] ∧
    Ends (AddsAlike {} claiming) (walk declare files "" 1 accountStatements {} {}).outcome
      (walk declare files "" 1 accountStatements {} claiming).outcome :=
  ⟨by decide +kernel, by decide +kernel,
    walk_addsAlike _ "" 1 accountStatements {} rfl (List.nil_subset _)⟩

end RouteFile
end RouteHelpers
