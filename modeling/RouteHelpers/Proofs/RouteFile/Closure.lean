import RouteHelpers.RouteFile.Routes

/-!
What all readings are made of.

A reading is put together from few steps: it passes over, breaks off, tells, defines a concern, looks
one up by its name, enters a route, and does one after another. A property of steps that these ways of
putting together preserve (`Step.IsClosed`) is one of all readings, where entering a route has it
(`readingOf_of_isClosed`).

The induction is on the depth to which concerns and drawn files are followed, and inside it on the
tree; each kind of declaration has its own lemma.
-/

namespace RouteHelpers.RouteFile

namespace Step

/-- The step that the statements of a concern lead to, by its name. -/
def lookUp (name : String) (f : List Node → Step) : Step := fun st =>
  match st.concerns.lookup name with
  | some body => f body st
  | none => tell (.concernNotDefined name) st

/-- The step that defines a concern. -/
def define (name : String) (body : List Node) : Step := fun st =>
  pure { st with concerns := (name, body) :: st.concerns }

/-- A property of steps that is preserved by all that readings do with steps. -/
structure IsClosed (P : Step → Prop) : Prop where
  skip : P skip
  fail (e : ReadFault) : P (fail e)
  tell (n : State → Notice) : P fun st => tell (n st) st
  define (name : String) (body : List Node) : P (define name body)
  lookUp (name : String) {f : List Node → Step} : (∀ body, P (f body)) → P (lookUp name f)
  followedBy {f g : Step} : P f → P g → P (f.followedBy g)

namespace IsClosed

variable {P : Step → Prop} {α : Type} {f : α → Step}

theorem forEach (hP : IsClosed P) (h : ∀ a, P (f a)) (xs : List α) : P (Step.forEach f xs) := by
  induction xs with
  | nil => exact hP.skip
  | cons x xs ih => exact hP.followedBy (h x) ih

theorem given (hP : IsClosed P) (x : Except ReadFault α) (h : ∀ a, P (f a)) :
    P (Step.given x f) := by
  cases x with
  | error e => exact hP.fail e
  | ok a => exact h a

theorem reading (hP : IsClosed P) (x : Except Text.Utf8Fault α) (h : ∀ a, P (f a)) :
    P (Step.reading x f) :=
  hP.given _ h

end IsClosed
end Step

/-! ### Declarations -/

/-- What a declaration is gone through with has a property. -/
structure Surroundings.All (P : Step → Prop) (u : Surroundings) : Prop where
  enter (d : Declaration) : P (u.enter d)
  block (s : Scope) : P (u.block s)
  nodes (body : List Node) (s : Scope) : P (u.nodes body s)
  drawn (name : String) (s : Scope) : P (u.drawn name s)

namespace Surroundings.All

variable {P : Step → Prop} {u : Surroundings}

theorem enterAll (h : u.All P) (hP : Step.IsClosed P) (verbs : List String) (path : String)
    (helper action : Option String) (s : Scope) : P (enterAll u verbs path helper action s) :=
  hP.forEach (fun _ => h.enter _) verbs

theorem replay (h : u.All P) (hP : Step.IsClosed P) (names : List String) (s : Scope) :
    P (replay u names s) :=
  hP.forEach (fun name => hP.lookUp name fun body => h.nodes body s) names

theorem resourceSteps (h : u.All P) (hP : Step.IsClosed P) (a : Arguments)
    (place : StandardAction → String × String) (actions : List StandardAction) (s : Scope) :
    P (resourceSteps u a place actions s) := by
  refine hP.followedBy ?_ (hP.followedBy (h.replay hP _ s) (h.block s))
  exact hP.forEach (fun _ => h.enterAll hP _ _ _ _ s) _

theorem manyResource (h : u.All P) (hP : Step.IsClosed P) (args : List Node) (s : Scope) :
    P (manyResource u args s) := by
  refine hP.reading _ fun a => ?_
  split
  · exact hP.skip
  · exact hP.skip
  · split
    · exact hP.fail _
    · exact h.resourceSteps hP a _ _ _

theorem oneResource (h : u.All P) (hP : Step.IsClosed P) (args : List Node) (s : Scope) :
    P (oneResource u args s) := by
  refine hP.reading _ fun a => ?_
  split
  · exact hP.skip
  · exact hP.skip
  · exact h.resourceSteps hP a _ _ _

theorem nameSpace (h : u.All P) (hP : Step.IsClosed P) (args : List Node) (s : Scope) :
    P (nameSpace u args s) := by
  refine hP.reading _ fun a => ?_
  split
  · exact hP.skip
  · exact hP.skip
  · exact h.block _

theorem verbRoutes (h : u.All P) (hP : Step.IsClosed P) (verbs : List String) (args : List Node)
    (s : Scope) : P (verbRoutes u verbs args s) := by
  refine hP.reading _ fun a => ?_
  split
  · exact hP.skip
  · exact hP.skip
  · exact hP.given _ fun action => h.enterAll hP _ _ _ _ s

theorem draw (h : u.All P) (hP : Step.IsClosed P) (args : List Node) (s : Scope) :
    P (draw u args s) := by
  cases args with
  | nil => exact h.block s
  | cons arg rest => exact hP.reading _ fun name => h.drawn name s

end Surroundings.All

theorem defineConcern_of_isClosed {P : Step → Prop} (hP : Step.IsClosed P) (args : List Node)
    (hasBlock : Bool) (body : List Node) : P (defineConcern args hasBlock body) := by
  cases args with
  | nil => exact hP.skip
  | cons arg rest =>
    cases hasBlock with
    | false => exact hP.skip
    | true =>
      refine hP.reading _ fun name => ?_
      cases hname : name.isEmpty with
      | true => exact hP.skip
      | false => exact hP.define name body

/-- **A declaration** has the property, where what it is gone through with has it. -/
theorem callStep_of_isClosed {P : Step → Prop} (hP : Step.IsClosed P) {u : Surroundings}
    (h : u.All P) (text method : String) (args : List Node) (hasBlock : Bool) (body : List Node)
    (s : Scope) : P (callStep u text method args hasBlock body s) := by
  unfold callStep
  split
  · exact h.verbRoutes hP _ args s
  · split
    · exact h.manyResource hP args s
    · exact h.oneResource hP args s
    · exact h.nameSpace hP args s
    · exact hP.reading _ fun a => h.block _
    · exact h.block _
    · exact h.block _
    · exact defineConcern_of_isClosed hP args hasBlock body
    · exact hP.reading _ fun names => h.replay hP _ s
    · exact hP.reading _ fun target => h.enter _
    · exact hP.reading _ fun a => h.verbRoutes hP _ args s
    · exact hP.reading _ fun given => h.block _
    · exact h.draw hP args s
    · exact hP.reading _ fun text => hP.tell _
    · exact h.block s

/-! ### Readings -/

section Readings

variable {P : Step → Prop} {enter : Declaration → Step} {nodes : List Node → Scope → Step}
  {drawn : String → Scope → Step}

mutual

theorem nodeStep_of_isClosed (hP : Step.IsClosed P) (he : ∀ d, P (enter d))
    (hn : ∀ body s, P (nodes body s)) (hd : ∀ name s, P (drawn name s)) :
    ∀ (n : Node) (s : Scope), P (nodeStep enter nodes drawn n s)
  | .call _ text method args hasBlock body, s => by
    rw [nodeStep]
    refine callStep_of_isClosed hP ⟨he, fun t => ?_, hn, hd⟩ text method args hasBlock body s
    exact nodesStep_of_isClosed hP he hn hd body t
  | .form _ _ _ parts, s => by
    rw [nodeStep]
    exact nodesStep_of_isClosed hP he hn hd parts s

theorem nodesStep_of_isClosed (hP : Step.IsClosed P) (he : ∀ d, P (enter d))
    (hn : ∀ body s, P (nodes body s)) (hd : ∀ name s, P (drawn name s)) :
    ∀ (ns : List Node) (s : Scope), P (nodesStep enter nodes drawn ns s)
  | [], _ => by
    rw [nodesStep]
    exact hP.skip
  | n :: rest, s => by
    rw [nodesStep]
    exact hP.followedBy (nodeStep_of_isClosed hP he hn hd n s)
      (nodesStep_of_isClosed hP he hn hd rest s)

end

/-- **Going through statements** has the property, where entering a route has it. -/
theorem walk_of_isClosed (hP : Step.IsClosed P) (he : ∀ d, P (enter d)) (files : Sources)
    (path : String) (depth : Nat) (ns : List Node) (s : Scope) :
    P (walk enter files path depth ns s) := by
  induction depth generalizing ns s with
  | zero => exact hP.fail _
  | succ depth ih =>
    refine nodesStep_of_isClosed hP he ih (fun name s => ?_) ns s
    cases hfile : files.isFile (drawnFile path name) with
    | true => simpa only [hfile, if_true] using hP.given _ fun ns => ih ns s
    | false => simpa only [hfile, Bool.false_eq_true, if_false] using hP.tell _

/-- **Reading a routes file** has the property, where entering a route has it. -/
theorem readingOf_of_isClosed (hP : Step.IsClosed P) (he : ∀ d, P (enter d)) (files : Sources)
    (path : String) : P (readingOf enter files path) := by
  refine hP.given _ fun ns => hP.followedBy ?_ (hP.tell _)
  exact walk_of_isClosed hP he files path depthLimit ns {}

end Readings

end RouteHelpers.RouteFile
