import RouteHelpers.Proofs.RouteFile.Claiming
import RouteHelpers.Proofs.RouteFile.Closure
import RouteHelpers.Proofs.Tracing

/-!
Reading a routes file again.

What a reader has come to stays: the names that are claimed and the concerns that are defined. A reading
that tells of no concern without a definition has found each one among those that it had defined itself.
With older ones behind these, the same statements find the same concerns; so a later reading follows the
first one step by step (`Step.Repeats`), enters the same routes and comes to its end. By then every name
is claimed that the first reading came to claim, so no route gets its name again.
-/

namespace RouteHelpers

/-- The second record is what becomes of the first when its route is entered again: all is the same but
that it has no name. Nobody claims the empty name, so that one is given again. -/
structure Record.IsReread (r r' : Record) : Prop where
  unnamed : r'.unnamed = r.unnamed
  helper : r'.helper = r.helper.filter (·.isEmpty)

/-- Every concern that was asked for had been defined. -/
def Notice.FoundAll (notices : List Notice) : Prop :=
  ∀ name, concernNotDefined name ∉ notices

namespace RouteFile

/-- What a first and a later reading have come to, where the later one starts from `base` and all names
in `taken` are claimed. It knows the concerns of the first one, in front of those that it started with.
If the first one has claimed no other name, its records are added again. -/
structure Rereads (taken : List String) (base a b : State) : Prop where
  concerns : b.concerns = a.concerns ++ base.concerns
  claimed : taken ⊆ b.claimed
  empty_not_mem : "" ∉ a.claimed
  empty_not_mem' : "" ∉ b.claimed
  records : a.claimed ⊆ taken →
    ∃ added, b.records = base.records ++ added ∧ List.Forall₂ Record.IsReread a.records added

/-- A later reading comes through a step that the first one comes through, if that one found all
concerns. -/
def Step.Repeats (taken : List String) (base : State) (f : Step) : Prop :=
  ∀ a b a', Rereads taken base a b → (f a).outcome = .ok a' → Notice.FoundAll (f a).notices →
    ∃ b', (f b).outcome = .ok b' ∧ Rereads taken base a' b'

variable {taken : List String} {base : State}

namespace Step.Repeats

theorem followedBy {f g : Step} (hf : f.Repeats taken base) (hg : g.Repeats taken base) :
    (f.followedBy g).Repeats taken base := by
  intro a b a' hab ha' hfound
  obtain ⟨next, hnext, ha'⟩ := Traced.outcome_bind_eq_ok.1 ha'
  have hnotices : (f.followedBy g a).notices = (f a).notices ++ (g next).notices :=
    Traced.notices_bind_ok hnext g
  rw [hnotices] at hfound
  obtain ⟨next', hnext', hab⟩ :=
    hf a b next hab hnext fun name h => hfound name (List.mem_append_left _ h)
  obtain ⟨b', hb', hab⟩ :=
    hg next next' a' hab ha' fun name h => hfound name (List.mem_append_right _ h)
  exact ⟨b', (Traced.outcome_bind_ok hnext' g).trans hb', hab⟩

/-- A concern that the first reading found is the one that the later reading finds. -/
theorem lookUp (name : String) {f : List Node → Step} (h : ∀ body, (f body).Repeats taken base) :
    (lookUp name f).Repeats taken base := by
  intro a b a' hab ha' hfound
  unfold Step.lookUp at ha' hfound ⊢
  rcases hbody : a.concerns.lookup name with - | body
  · simp only [hbody] at hfound
    exact absurd List.mem_cons_self (hfound name)
  · -- it stands in front of all that the later reading started with
    have hlater : b.concerns.lookup name = some body := by
      rw [hab.concerns, List.lookup_append, hbody, Option.some_or]
    simp only [hbody] at ha' hfound
    simp only [hlater]
    exact h body a b a' hab ha' hfound

end Step.Repeats

theorem isClosed_repeats (taken : List String) (base : State) :
    Step.IsClosed (Step.Repeats taken base) where
  skip a b a' hab ha' _ := by
    obtain rfl : a = a' := Except.ok.inj ha'
    exact ⟨b, rfl, hab⟩
  fail _ _ _ _ _ ha' _ := nomatch ha'
  tell n a b a' hab ha' _ := by
    obtain rfl : a = a' := Except.ok.inj ha'
    exact ⟨b, rfl, hab⟩
  define name body a b a' hab ha' _ := by
    obtain rfl := Except.ok.inj ha'
    refine ⟨_, rfl, ?_, hab.claimed, hab.empty_not_mem, hab.empty_not_mem', hab.records⟩
    rw [hab.concerns, List.cons_append]
  lookUp := Step.Repeats.lookUp
  followedBy := Step.Repeats.followedBy

/-! ### Entering a route again -/

/-- Where all names are claimed that were claimed when a route was first entered, and its own name too,
the route gets no name again but the empty one. -/
theorem Declaration.ownHelper_again (d : Declaration) {claimed claimed' : List String}
    (hempty : "" ∉ claimed) (hempty' : "" ∉ claimed')
    (h : claimed ++ ((d.ownHelper claimed).filter (!·.isEmpty)).toList ⊆ claimed') :
    d.ownHelper claimed' = (d.ownHelper claimed).filter (·.isEmpty) := by
  unfold Declaration.ownHelper at h ⊢
  generalize d.helper = asked at h ⊢
  rcases asked with - | name
  · rfl
  by_cases hname : name = ""
  · simp [hname, hempty, hempty', Option.filter]
  · -- either somebody else had the name, or the route got it
    have htaken : name ∈ claimed' := by
      by_cases hmem : name ∈ claimed
      · exact h (List.mem_append_left _ hmem)
      · exact h (by simp [hmem, hname, Option.filter])
    by_cases hmem : name ∈ claimed <;> simp [hmem, hname, htaken, Option.filter]

theorem State.empty_not_mem_add {st : State} (h : "" ∉ st.claimed) (d : Declaration) :
    "" ∉ (st.add d).claimed := by
  intro hmem
  rcases List.mem_append.1 hmem with hmem | hmem
  · exact h hmem
  · obtain ⟨-, hfilled⟩ := Option.filter_eq_some_iff.1 (Option.mem_toList.1 hmem)
    cases hfilled

/-- **Entering a route again** adds its record without a name. -/
theorem repeats_declare (taken : List String) (base : State) (d : Declaration) :
    (declare d).Repeats taken base := by
  intro a b a' hab ha' _
  obtain rfl : a.add d = a' := Except.ok.inj ha'
  refine ⟨b.add d, rfl, hab.concerns, fun name hname => List.mem_append_left _ (hab.claimed hname),
    State.empty_not_mem_add hab.empty_not_mem d, State.empty_not_mem_add hab.empty_not_mem' d,
    fun hclaimed => ?_⟩
  obtain ⟨added, hadded, hreread⟩ :=
    hab.records fun name hname => hclaimed (List.mem_append_left _ hname)
  have hhelper : d.ownHelper b.claimed = (d.ownHelper a.claimed).filter (·.isEmpty) :=
    d.ownHelper_again hab.empty_not_mem hab.empty_not_mem' fun name hname => hab.claimed (hclaimed hname)
  refine ⟨added ++ [d.record (d.ownHelper b.claimed)], ?_,
    List.rel_append hreread (.cons ⟨rfl, hhelper⟩ .nil)⟩
  rw [State.records_add, hadded, List.append_assoc]

/-! ### Readings -/

/-- Nobody claims the empty name. -/
theorem empty_not_mem_readerAfter (path : String) (readings : List Sources) :
    "" ∉ (readerAfter declare path readings).claimed := by
  rw [← (isMoment_readerAfter _ path readings).eq_last (Nat.le_refl _)]
  exact fun h => (((settled_readerAfter _ path readings).claimed "").1 h).1 rfl

variable {files : Sources} {path : String} {first : State}

/-- A later reading follows the first one, where all names are claimed that the first one claimed. -/
theorem readingOf_rereads (hfirst : (readingOf declare files path {}).outcome = .ok first)
    (hfound : Notice.FoundAll (readingOf declare files path {}).notices) {before : State}
    (htaken : first.claimed ⊆ before.claimed) (hempty : "" ∉ before.claimed) :
    ∃ last, (readingOf declare files path before).outcome = .ok last ∧
      Rereads first.claimed before first last := by
  have hrepeats : (readingOf declare files path).Repeats first.claimed before :=
    readingOf_of_isClosed (isClosed_repeats _ _) (repeats_declare _ _) files path
  have hstart : Rereads first.claimed before {} before :=
    ⟨rfl, htaken, List.not_mem_nil, hempty, fun _ => ⟨[], by simp, .nil⟩⟩
  exact hrepeats {} before first hstart hfirst hfound

/-- The names that the first reading claimed stay claimed. -/
theorem claimed_readerAfter_replicate
    (hfirst : (readingOf declare files path {}).outcome = .ok first)
    (hfound : Notice.FoundAll (readingOf declare files path {}).notices) (n : Nat) :
    first.claimed ⊆ (readerAfter declare path (List.replicate (n + 1) files)).claimed := by
  induction n with
  | zero =>
    have hone : readerAfter declare path (List.replicate 1 files) = first := by
      show (readingOf declare files path).reached {} = first
      rw [Step.reached, hfirst]
    rw [hone]
    exact List.Subset.refl _
  | succ n ih =>
    rw [List.replicate_succ', readerAfter_concat]
    obtain ⟨last, hlast, hrereads⟩ :=
      readingOf_rereads hfirst hfound ih (empty_not_mem_readerAfter path _)
    rw [Step.reached, hlast]
    exact hrereads.claimed

/-- **Reading again repeats the routes without names**: if the first reading of a routes file comes to
its end and finds every concern that it asks for, each later one comes to its end too, and adds the
records that the first one added, in their order, without their names. -/
theorem readingOf_again (hfirst : (readingOf declare files path {}).outcome = .ok first)
    (hfound : Notice.FoundAll (readingOf declare files path {}).notices) (n : Nat) :
    let before := readerAfter declare path (List.replicate (n + 1) files)
    ∃ last added, (readingOf declare files path before).outcome = .ok last ∧
      last.records = before.records ++ added ∧
      List.Forall₂ Record.IsReread first.records added := by
  intro before
  have htaken := claimed_readerAfter_replicate hfirst hfound n
  obtain ⟨last, hlast, hrereads⟩ :=
    readingOf_rereads hfirst hfound htaken (empty_not_mem_readerAfter path _)
  obtain ⟨added, hadded, hreread⟩ := hrereads.records (List.Subset.refl _)
  exact ⟨last, added, hlast, hadded, hreread⟩

/-- A concern that is defined again after it has been used, and used again. -/
def statementsWithConcern : List Node :=
  let name : Node := .form 0 .symbol ":shared" []
  let route (path : String) : Node :=
    .call 0 "" "get" [.form 0 (.string path) path []] false []
  [.call 0 "" "concern" [name] true [route "drafts"],
    .call 0 "" "concerns" [name] false [],
    .call 0 "" "concern" [name] true [route "drafts", route "events"],
    .call 0 "" "concerns" [name] false []]

/-- The later readings start with the second definition and use the first one before they come to it. -/
theorem readingOf_again_statementsWithConcern :
    let files : Sources := ⟨fun _ => false, fun _ => .ok statementsWithConcern⟩
    let before := readerAfter declare "" (List.replicate 2 files)
    before.helpers = [some "drafts", none, some "events", none, none, none] ∧
    ∃ first, (readingOf declare files "" {}).outcome = .ok first ∧
      Notice.FoundAll (readingOf declare files "" {}).notices ∧
      ∃ last added, (readingOf declare files "" before).outcome = .ok last ∧
        last.records = before.records ++ added ∧
        List.Forall₂ Record.IsReread first.records added := by
  intro files before
  have hnotices : (readingOf declare files "" {}).notices = [.readRoutes 3 ""] := by
    decide +kernel
  have hfound : Notice.FoundAll (readingOf declare files "" {}).notices := by
    rw [hnotices]
    exact fun name h => nomatch List.mem_singleton.1 h
  obtain ⟨first, hfirst⟩ : ∃ first, (readingOf declare files "" {}).outcome = .ok first :=
    Except.exists_eq_ok (by decide +kernel)
  exact ⟨by decide +kernel, first, hfirst, hfound, readingOf_again hfirst hfound 1⟩

end RouteFile
end RouteHelpers
