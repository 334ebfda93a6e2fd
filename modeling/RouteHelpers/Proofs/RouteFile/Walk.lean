import RouteHelpers.Proofs.RouteFile.Call

/-!
What a declaration does, said once for all declarations.

A declaration enters routes, opens scopes for its block and for concerns, and defines concerns; nothing
else happens to the state. What holds of readings then follows from what holds of entering one route:
where two ways to enter routes preserve a relation between states, so do the readings that enter routes
in these ways. The relation also holds between the states that the readings have come to where they
break off.

The routes that are entered are those of the calls that are met (`walk_matches_of_calls`,
`readingOf_matches_of_calls`). Concerns are met again where they are used, so the relation has to know
which calls they hold (`Knowing`). Where it makes no difference which calls there are, the relation
stands alone (`walk_matches`, `readingOf_matches`).

The induction is on the depth to which concerns and drawn files are followed, and inside it on the
tree; each kind of declaration has its own lemma.
-/

namespace RouteHelpers.RouteFile

/-! ### Steps that match -/

/-- Two ends of readings match: both are ends without a fault or have the same fault, and the states
that were come to are related. -/
inductive Ends (R : State → State → Prop) :
    Except Interruption State → Except Interruption State → Prop
  | ok {a b : State} : R a b → Ends R (.ok a) (.ok b)
  | error {f : ReadFault} {a b : State} : R a b → Ends R (.error ⟨f, a⟩) (.error ⟨f, b⟩)

/-- Two steps match: from related states they come to ends that match. -/
def Step.Matches (R : State → State → Prop) (f g : Step) : Prop :=
  ∀ a b, R a b → Ends R (f a).outcome (g b).outcome

/-- Related states know the same concerns, and stay related when both learn of the same. -/
structure Stable (R : State → State → Prop) : Prop where
  concerns {a b : State} : R a b → a.concerns = b.concerns
  define {a b : State} (concerns : List (String × List Node)) :
    R a b → R { a with concerns } { b with concerns }

variable {R : State → State → Prop} {f f' g g' : Step}

namespace Step

theorem matches_skip : Matches R skip skip := fun _ _ h => .ok h

theorem matches_fail (e : ReadFault) : Matches R (fail e) (fail e) := fun _ _ h => .error h

/-- Notices are no part of the state. -/
theorem matches_tell (n n' : Notice) : Matches R (tell n) (tell n') := by
  intro a b h
  rw [tell, tell, Traced.outcome_bind, Traced.outcome_bind]
  exact .ok h

theorem Matches.followedBy (hf : Matches R f f') (hg : Matches R g g') :
    Matches R (f.followedBy g) (f'.followedBy g') := by
  intro a b h
  rw [Step.followedBy, Step.followedBy, Traced.outcome_bind, Traced.outcome_bind]
  have hends := hf a b h
  generalize (f a).outcome = x, (f' b).outcome = y at hends ⊢
  cases hends with
  | ok h => exact hg _ _ h
  | error h => exact .error h

theorem matches_forEach {α : Type} {f f' : α → Step} {xs : List α}
    (h : ∀ x ∈ xs, Matches R (f x) (f' x)) : Matches R (forEach f xs) (forEach f' xs) := by
  induction xs with
  | nil => exact matches_skip
  | cons x xs ih =>
    exact (h x List.mem_cons_self).followedBy (ih fun y hy => h y (List.mem_cons_of_mem x hy))

theorem matches_given {α : Type} {f f' : α → Step} (x : Except ReadFault α)
    (h : ∀ a, x = .ok a → Matches R (f a) (f' a)) : Matches R (given x f) (given x f') := by
  rcases x with e | a
  · exact matches_fail e
  · exact h a rfl

theorem matches_reading {α : Type} {f f' : α → Step} (x : Except Text.Utf8Fault α)
    (h : ∀ a, x = .ok a → Matches R (f a) (f' a)) : Matches R (reading x f) (reading x f') := by
  refine matches_given _ fun a ha => h a ?_
  cases x with
  | error e => cases ha
  | ok b => exact congrArg Except.ok (Except.ok.inj ha)

end Step

/-- Related states, in which the concerns hold only such calls as are given. -/
def Knowing (calls : Call → Prop) (R : State → State → Prop) (a b : State) : Prop :=
  R a b ∧ ∀ p ∈ a.concerns, HoldOnly calls p.2

theorem knowing_true (R : State → State → Prop) : Knowing (fun _ => True) R = R := by
  funext a b
  exact propext ⟨fun h => h.1, fun h => ⟨h, fun _ _ _ _ _ _ => trivial⟩⟩

/-- Adding a record defines no concern. -/
theorem matches_knowing_declare {calls : Call → Prop} {d : Declaration}
    (h : Step.Matches R (declare d) (declare d)) :
    Step.Matches (Knowing calls R) (declare d) (declare d) := by
  intro a b hab
  have hends := h a b hab.1
  cases hends with
  | ok hR => exact .ok ⟨hR, hab.2⟩

/-! ### Declarations -/

/-- What two readings go through a call with matches, in a scope. -/
structure Surroundings.Match (calls : Call → Prop) (R : State → State → Prop) (c : Call) (s : Scope)
    (u u' : Surroundings) : Prop where
  enter {d : Declaration} :
    c.Declares s d → Step.Matches (Knowing calls R) (u.enter d) (u'.enter d)
  block {t : Scope} : c.GoesOnIn s t → Step.Matches (Knowing calls R) (u.block t) (u'.block t)
  nodes {body : List Node} {t : Scope} : HoldOnly calls body → c.GoesOnIn s t →
    Step.Matches (Knowing calls R) (u.nodes body t) (u'.nodes body t)
  drawn (name : String) : Step.Matches (Knowing calls R) (u.drawn name s) (u'.drawn name s)

namespace Surroundings.Match

variable {calls : Call → Prop} {c : Call} {s t : Scope} {u u' : Surroundings}

theorem enterAll (h : Match calls R c s u u') {verbs : List String} {path : String}
    {helper action : Option String}
    (hd : ∀ verb, c.Declares s ⟨verb, path, helper, action, t.defaults⟩) :
    Step.Matches (Knowing calls R) (enterAll u verbs path helper action t)
      (RouteFile.enterAll u' verbs path helper action t) :=
  Step.matches_forEach fun verb _ => h.enter (hd verb)

/-- Concerns are looked up in the state, so both readings have to know the same. -/
theorem replay (h : Match calls R c s u u') (hR : Stable R) (names : List String)
    (ht : c.GoesOnIn s t) :
    Step.Matches (Knowing calls R) (replay u names t) (RouteFile.replay u' names t) := by
  refine Step.matches_forEach fun name _ a b hab => ?_
  rw [← hR.concerns hab.1]
  rcases hbody : a.concerns.lookup name with - | body
  · exact Step.matches_tell _ _ a b hab
  · exact h.nodes (hab.2 _ (State.mem_concerns_of_lookup hbody)) ht a b hab

theorem resourceSteps (h : Match calls R c s u u') (hR : Stable R) (a : Arguments)
    {place : StandardAction → String × String} (actions : List StandardAction)
    (ht : c.GoesOnIn s t)
    (hd : ∀ x verb, c.Declares s ⟨verb, (place x).1, some (place x).2, some x.name, t.defaults⟩) :
    Step.Matches (Knowing calls R) (resourceSteps u a place actions t)
      (RouteFile.resourceSteps u' a place actions t) := by
  refine Step.Matches.followedBy ?_ ((h.replay hR _ ht).followedBy (h.block ht))
  exact Step.matches_forEach fun x _ => h.enterAll (hd x)

theorem manyResource (h : Match calls R c s u u') (hR : Stable R) (hc : c.method = "resources") :
    Step.Matches (Knowing calls R) (manyResource u c.args s) (RouteFile.manyResource u' c.args s) := by
  refine Step.matches_reading _ fun a ha => ?_
  split
  · exact Step.matches_skip
  · exact Step.matches_skip
  next name hne hname =>
    have hnamed : c.IsNamed a name := ⟨ha, hname, hne⟩
    split
    · exact Step.matches_fail _
    next hrenamed =>
      -- a resource that is renamed to nothing has been refused, so the two readings of `as` agree
      have hplural : ((a.text? "as").getD none).getD name = a.textOr "as" name := by
        rw [Arguments.textOr]
        rcases htext : a.text? "as" with - | - | text
        · rfl
        · exact absurd htext hrenamed
        · rfl
      rw [hplural]
      exact h.resourceSteps hR a _ (.inr (.resource (.many hc hnamed)))
        fun x verb => .many x verb hc hnamed rfl rfl

theorem oneResource (h : Match calls R c s u u') (hR : Stable R) (hc : c.method = "resource") :
    Step.Matches (Knowing calls R) (oneResource u c.args s) (RouteFile.oneResource u' c.args s) := by
  refine Step.matches_reading _ fun a ha => ?_
  split
  · exact Step.matches_skip
  · exact Step.matches_skip
  next name hne hname =>
    have hnamed : c.IsNamed a name := ⟨ha, hname, hne⟩
    exact h.resourceSteps hR a _ (.inr (.resource (.one hc hnamed)))
      fun x verb => .one x verb hc hnamed rfl rfl

theorem nameSpace (h : Match calls R c s u u') (hc : c.method = "namespace") :
    Step.Matches (Knowing calls R) (nameSpace u c.args s) (RouteFile.nameSpace u' c.args s) := by
  refine Step.matches_reading _ fun a ha => ?_
  split
  · exact Step.matches_skip
  · exact Step.matches_skip
  next name hne hname => exact h.block (.inr (.nameSpace hc ⟨ha, hname, hne⟩))

theorem innerScope (h : Match calls R c s u u') (hc : c.method = "scope") :
    Step.Matches (Knowing calls R) (innerScope u c.args s) (RouteFile.innerScope u' c.args s) :=
  Step.matches_reading _ fun _ ha => h.block (.inr (.inner hc ha))

theorem root (h : Match calls R c s u u') (hc : c.method = "root") :
    Step.Matches (Knowing calls R) (root u c.args s) (RouteFile.root u' c.args s) :=
  Step.matches_reading _ fun _ _ => h.enter (.root _ hc)

theorem verbRoutes (h : Match calls R c s u u') (verbs : List String)
    (hc : c.method ∈ verbMethods ∨ c.method = "match") :
    Step.Matches (Knowing calls R) (verbRoutes u verbs c.args s)
      (RouteFile.verbRoutes u' verbs c.args s) := by
  refine Step.matches_reading _ fun a ha => ?_
  split
  · exact Step.matches_skip
  · exact Step.matches_skip
  next name hne hname =>
    refine Step.matches_given _ fun action _ => ?_
    exact h.enterAll fun verb => .route verb action hc ⟨ha, hname, hne⟩

theorem matchRoutes (h : Match calls R c s u u') (hc : c.method = "match") :
    Step.Matches (Knowing calls R) (matchRoutes u c.args s) (RouteFile.matchRoutes u' c.args s) :=
  Step.matches_reading _ fun _ _ => h.verbRoutes _ (.inr hc)

theorem defaultValues (h : Match calls R c s u u') (hc : c.method = "defaults") :
    Step.Matches (Knowing calls R) (defaultValues u c.args s)
      (RouteFile.defaultValues u' c.args s) :=
  Step.matches_reading _ fun given _ => h.block (.inr (.defaults given hc))

theorem draw (h : Match calls R c s u u') :
    Step.Matches (Knowing calls R) (draw u c.args s) (RouteFile.draw u' c.args s) := by
  unfold RouteFile.draw
  split
  · exact h.block (.inl rfl)
  · exact Step.matches_reading _ fun name _ => h.drawn name

end Surroundings.Match

theorem matches_defineConcern {calls : Call → Prop} (hR : Stable R) (args : List Node)
    (hasBlock : Bool) {body : List Node} (hbody : HoldOnly calls body) :
    Step.Matches (Knowing calls R) (defineConcern args hasBlock body)
      (defineConcern args hasBlock body) := by
  cases args with
  | nil => exact Step.matches_skip
  | cons arg _ =>
    cases hasBlock with
    | false => exact Step.matches_skip
    | true =>
      refine Step.matches_reading _ fun name _ a b hab => ?_
      rw [← hR.concerns hab.1]
      by_cases hname : name.isEmpty = true
      · simp only [hname, if_true]
        exact .ok hab
      · simp only [hname]
        exact .ok ⟨hR.define _ hab.1, List.forall_mem_cons.2 ⟨hbody, hab.2⟩⟩

/-- **A declaration** does the same in two readings that it goes through alike. -/
theorem callStep_matches {calls : Call → Prop} {s : Scope} {u u' : Surroundings}
    (text method : String) (args : List Node) (hasBlock : Bool) {body : List Node}
    (h : u.Match calls R ⟨method, args⟩ s u') (hR : Stable R) (hbody : HoldOnly calls body) :
    Step.Matches (Knowing calls R) (callStep u text method args hasBlock body s)
      (callStep u' text method args hasBlock body s) := by
  unfold callStep
  split
  next hverb => exact h.verbRoutes _ (.inl (List.contains_iff_mem.1 hverb))
  · split
    · exact h.manyResource hR rfl
    · exact h.oneResource hR rfl
    · exact h.nameSpace rfl
    · exact h.innerScope rfl
    · exact h.block (.inr (.member rfl))
    · exact h.block (.inr (.collection rfl))
    · exact matches_defineConcern hR args hasBlock hbody
    · exact Step.matches_reading _ fun names _ => h.replay hR _ (.inl rfl)
    · exact h.root rfl
    · exact h.matchRoutes rfl
    · exact h.defaultValues rfl
    · exact h.draw
    · exact Step.matches_reading _ fun _ _ => Step.matches_tell _ _
    · exact h.block (.inl rfl)

/-! ### Readings -/

section Readings

variable {calls : Call → Prop} {enter enter' : Declaration → Step}
  {nodes nodes' : List Node → Scope → Step} {drawn drawn' : String → Scope → Step} {s : Scope}

mutual

theorem nodeStep_matches (hR : Stable R)
    (he : ∀ t c d, s.LeadsTo calls t → calls c → c.Declares t d →
      Step.Matches (Knowing calls R) (enter d) (enter' d))
    (hn : ∀ body t, HoldOnly calls body → s.LeadsTo calls t →
      Step.Matches (Knowing calls R) (nodes body t) (nodes' body t))
    (hd : ∀ name t, s.LeadsTo calls t →
      Step.Matches (Knowing calls R) (drawn name t) (drawn' name t)) :
    ∀ (n : Node) (t : Scope), (∀ c, n.HasCall c → calls c) → s.LeadsTo calls t →
      Step.Matches (Knowing calls R) (nodeStep enter nodes drawn n t)
        (nodeStep enter' nodes' drawn' n t)
  | .call _ text method args hasBlock body, t, hcalls, ht => by
    rw [nodeStep, nodeStep]
    -- the block goes through the calls of the node, a concern through those that it was defined with
    have hc : calls ⟨method, args⟩ := hcalls _ (.self ..)
    have hbody : HoldOnly calls body := fun n hn c hnc => hcalls c (.body hn hnc)
    have h : Surroundings.Match calls R ⟨method, args⟩ t
        ⟨enter, fun inner => nodesStep enter nodes drawn body inner, nodes, drawn⟩
        ⟨enter', fun inner => nodesStep enter' nodes' drawn' body inner, nodes', drawn'⟩ :=
      { enter := fun hdecl => he _ _ _ ht hc hdecl
        block := fun hgo => nodesStep_matches hR he hn hd body _ hbody (ht.goesOn hc hgo)
        nodes := fun hbody hgo => hn _ _ hbody (ht.goesOn hc hgo)
        drawn := fun name => hd name _ ht }
    exact callStep_matches text method args hasBlock h hR hbody
  | .form _ _ _ parts, t, hcalls, ht => by
    rw [nodeStep, nodeStep]
    exact nodesStep_matches hR he hn hd parts t (fun n hn c hnc => hcalls c (.part hn hnc)) ht

theorem nodesStep_matches (hR : Stable R)
    (he : ∀ t c d, s.LeadsTo calls t → calls c → c.Declares t d →
      Step.Matches (Knowing calls R) (enter d) (enter' d))
    (hn : ∀ body t, HoldOnly calls body → s.LeadsTo calls t →
      Step.Matches (Knowing calls R) (nodes body t) (nodes' body t))
    (hd : ∀ name t, s.LeadsTo calls t →
      Step.Matches (Knowing calls R) (drawn name t) (drawn' name t)) :
    ∀ (ns : List Node) (t : Scope), HoldOnly calls ns → s.LeadsTo calls t →
      Step.Matches (Knowing calls R) (nodesStep enter nodes drawn ns t)
        (nodesStep enter' nodes' drawn' ns t)
  | [], _, _, _ => by
    rw [nodesStep, nodesStep]
    exact Step.matches_skip
  | n :: rest, t, hcalls, ht => by
    rw [nodesStep, nodesStep]
    obtain ⟨hfirst, hrest⟩ := List.forall_mem_cons.1 hcalls
    exact (nodeStep_matches hR he hn hd n t hfirst ht).followedBy
      (nodesStep_matches hR he hn hd rest t hrest ht)

end

/-- **Going through statements** preserves what entering the routes of their calls preserves. -/
theorem walk_matches_of_calls (hR : Stable R) (files : Sources) (path : String) (depth : Nat)
    (hfiles : ∀ c, files.HasCall path c → calls c)
    (he : ∀ t c d, s.LeadsTo calls t → calls c → c.Declares t d →
      Step.Matches (Knowing calls R) (enter d) (enter' d)) :
    ∀ (ns : List Node) (t : Scope), HoldOnly calls ns → s.LeadsTo calls t →
      Step.Matches (Knowing calls R) (walk enter files path depth ns t)
        (walk enter' files path depth ns t) := by
  induction depth with
  | zero =>
    intro ns t _ _
    exact Step.matches_fail _
  | succ depth ih =>
    intro ns t hns ht
    refine nodesStep_matches hR he ih (fun name t ht a b hab => ?_) ns t hns ht
    dsimp only
    split
    · refine Step.matches_given _ (fun ns hdrawn => ih ns t (fun n hn c hc => ?_) ht) a b hab
      exact hfiles c ⟨_, ns, .inr ⟨name, rfl⟩, hdrawn, n, hn, hc⟩
    · exact Step.matches_tell _ _ a b hab

/-- **Reading a routes file** preserves what entering the routes of its calls preserves. -/
theorem readingOf_matches_of_calls (hR : Stable R) (files : Sources) (path : String)
    (hfiles : ∀ c, files.HasCall path c → calls c)
    (he : ∀ t c d, Scope.LeadsTo calls {} t → calls c → c.Declares t d →
      Step.Matches (Knowing calls R) (enter d) (enter' d)) :
    Step.Matches (Knowing calls R) (readingOf enter files path) (readingOf enter' files path) := by
  refine Step.matches_given _ fun ns hns => ?_
  have hcalls : HoldOnly calls ns := fun n hn c hc => hfiles c ⟨path, ns, .inl rfl, hns, n, hn, hc⟩
  refine (walk_matches_of_calls hR files path _ hfiles he ns _ hcalls .refl).followedBy ?_
  exact fun a b hab => Step.matches_tell _ _ a b hab

/-- Going through statements preserves what entering any routes in their scope preserves. -/
theorem walk_matches (hR : Stable R) (files : Sources) (path : String) (depth : Nat)
    (he : ∀ t d, s.Encloses t → t.Declares d → Step.Matches R (enter d) (enter' d)) :
    ∀ (ns : List Node) (t : Scope), s.Encloses t →
      Step.Matches R (walk enter files path depth ns t) (walk enter' files path depth ns t) := by
  intro ns t ht
  have hwalk := @walk_matches_of_calls R (fun _ => True) enter enter' t hR files path depth
    (fun _ _ => trivial)
  rw [knowing_true] at hwalk
  refine hwalk (fun u c d hu _ hd => ?_) ns t (fun _ _ _ _ => trivial) .refl
  obtain ⟨v, hv, hdecl⟩ := hd.declares
  exact he v d ((ht.trans hu.encloses).trans hv) hdecl

/-- Reading a routes file preserves what entering any routes preserves. -/
theorem readingOf_matches (hR : Stable R) (files : Sources) (path : String)
    (he : ∀ d, Step.Matches R (enter d) (enter' d)) :
    Step.Matches R (readingOf enter files path) (readingOf enter' files path) := by
  have hreading := @readingOf_matches_of_calls R (fun _ => True) enter enter' hR files path
    (fun _ _ => trivial)
  rw [knowing_true] at hreading
  exact hreading fun _ _ d _ _ _ => he d

end Readings

/-! ### What readings have come to -/

/-- The state that a step has come to, whether or not it broke off. -/
def Step.reached (f : Step) (st : State) : State :=
  match (f st).outcome with
  | .ok st => st
  | .error i => i.reached

theorem Step.Matches.reached (h : Step.Matches R f g) {a b : State} (hab : R a b) :
    R (f.reached a) (g.reached b) := by
  have hends := h a b hab
  unfold Step.reached
  generalize (f a).outcome = x, (g b).outcome = y at hends ⊢
  cases hends with
  | ok h => exact h
  | error h => exact h

/-- Both states are one, which adds to the records of another only such as have a property. -/
def Adds (P : Record → Prop) (base a b : State) : Prop :=
  a = b ∧ ∃ added, a.records = base.records ++ added ∧ ∀ r ∈ added, P r

variable {P : Record → Prop}

theorem Adds.refl (st : State) : Adds P st st st :=
  ⟨rfl, [], by simp, by simp⟩

theorem stable_adds (P : Record → Prop) (base : State) : Stable (Adds P base) where
  concerns h := congrArg State.concerns h.1
  define := by
    rintro a _ concerns ⟨rfl, h⟩
    exact ⟨rfl, h⟩

/-- A helper is the name that a route asks for, or there is none. -/
def Declaration.Allows (d : Declaration) (helper : Option String) : Prop :=
  ∀ name, helper = some name → d.helper = some name

theorem allows_ownHelper (d : Declaration) (claimed : List String) :
    d.Allows (d.ownHelper claimed) :=
  fun _ h => (Option.filter_eq_some_iff.1 h).1

/-- A route that is declared is added as one record. -/
theorem declare_adds {base : State} {d : Declaration}
    (h : ∀ helper, d.Allows helper → P (d.record helper)) :
    Step.Matches (Adds P base) (declare d) (declare d) := by
  rintro a _ ⟨rfl, added, hadded, hall⟩
  refine .ok ⟨rfl, added ++ [d.record (d.ownHelper a.claimed)], ?_, ?_⟩
  · rw [State.records_add, hadded, List.append_assoc]
  · intro r hr
    rcases List.mem_append.1 hr with hr | hr
    · exact hall r hr
    · rw [List.mem_singleton.1 hr]
      exact h _ (allows_ownHelper d a.claimed)

/-- **Statements add records** to those there are, and each is the record of a route that is declared
in the scope or in one inside it. -/
theorem walk_adds (files : Sources) (path : String) (depth : Nat) (ns : List Node) (s : Scope)
    (st : State)
    (h : ∀ t d, s.Encloses t → t.Declares d → ∀ helper, d.Allows helper → P (d.record helper)) :
    ∃ added, ((walk declare files path depth ns s).reached st).records = st.records ++ added ∧
      ∀ r ∈ added, P r := by
  have hwalk := walk_matches (stable_adds P st) files path depth
    (fun t d ht hd => declare_adds (h t d ht hd)) ns s .refl
  exact (hwalk.reached (Adds.refl st)).2

end RouteHelpers.RouteFile
