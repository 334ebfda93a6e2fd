import RouteHelpers.Proofs.RouteFile.Call

/-!
Scopes that read alike.

A scope keeps what was said of a resource also where it belongs to none, and keeps the parameter of a
resource around one that needs none. Two scopes are `Alike` if they have the same path, names, resource
and default values, whatever else they keep. What is declared in one is then declared in the other, and
the scopes that a declaration opens in them are alike again.

So nothing that statements do in a scope depends on what it keeps beyond that (`Scope.Alike.walk_eq`).
The induction is on the depth to which concerns and drawn files are followed, and inside it on the tree;
each kind of declaration has its own lemma.
-/

namespace RouteHelpers.RouteFile

/-- Two scopes differ at most in what they keep of resources that they do not belong to. -/
structure Scope.Alike (s t : Scope) : Prop where
  path : s.path = t.path
  names : s.names = t.names
  resource : s.resource = t.resource
  defaults : s.defaults = t.defaults

namespace Scope.Alike

variable {s t : Scope}

/-! ### Scopes that declarations open -/

theorem nesting_eq (h : s.Alike t) : s.nesting = t.nesting := by
  rw [nesting, nesting, h.resource, h.names, h.path]

theorem atLevel (h : s.Alike t) (l : Level) : (s.atLevel l).Alike (t.atLevel l) where
  path := h.path
  names := h.names
  resource := by rw [resource_atLevel, resource_atLevel, h.resource]
  defaults := h.defaults

/-- Inside a resource it does not count what was kept outside: where the resource has no parameter, the
one that is kept is not looked at. -/
theorem inside (h : s.Alike t) (path : String) (names : List String) (r : Enclosing) :
    (s.inside path names r).Alike (t.inside path names r) where
  path := rfl
  names := rfl
  resource := by
    unfold Scope.resource Scope.inside
    cases r.alone <;> rfl
  defaults := h.defaults

theorem inResource (h : s.Alike t) (a : Arguments) (name : String) (r : Enclosing) :
    (s.inResource a name r).Alike (t.inResource a name r) := by
  rw [Scope.inResource, Scope.inResource, h.nesting_eq]
  exact h.inside _ _ r

theorem inNameSpace (h : s.Alike t) (a : Arguments) (name : String) :
    (s.inNameSpace a name).Alike (t.inNameSpace a name) where
  path := congrArg (joinPath · _) h.path
  names := congrArg (· ++ _) h.names
  resource := rfl
  defaults := h.defaults

theorem inScope (h : s.Alike t) (a : Arguments) : (s.inScope a).Alike (t.inScope a) where
  path := by simp only [Scope.inScope, h.path]
  names := by simp only [Scope.inScope, h.names]
  resource := h.resource
  defaults := h.defaults

theorem withDefaults (h : s.Alike t) (given : List (String × String)) :
    (s.withDefaults given).Alike (t.withDefaults given) where
  path := h.path
  names := h.names
  resource := h.resource
  defaults := by rw [Scope.withDefaults, Scope.withDefaults, h.defaults]

/-! ### Declarations -/

theorem placeOf_eq (h : s.Alike t) (a : Arguments) (name : String) :
    placeOf a name s = placeOf a name t := by
  simp only [placeOf, plainHelper, h.resource, h.path, h.names]

/-- What is gone through in scopes that are alike is the same. -/
def Unmoved (f : Scope → Step) : Prop :=
  ∀ s t : Scope, s.Alike t → f s = f t

end Scope.Alike

open Scope.Alike (Unmoved)

/-- Blocks, concerns and drawn files are the same in scopes that are alike. -/
structure Surroundings.Unmoved (u : Surroundings) : Prop where
  block : Scope.Alike.Unmoved u.block
  nodes (body : List Node) : Scope.Alike.Unmoved (u.nodes body)
  drawn (name : String) : Scope.Alike.Unmoved (u.drawn name)

namespace Scope.Alike

variable {s t : Scope} {u : Surroundings}

theorem enterAll_eq (h : s.Alike t) (u : Surroundings) (verbs : List String) (path : String)
    (helper action : Option String) :
    enterAll u verbs path helper action s = enterAll u verbs path helper action t := by
  rw [enterAll, enterAll, h.defaults]

theorem replay_eq (h : s.Alike t) (hu : u.Unmoved) (names : List String) :
    replay u names s = replay u names t := by
  simp only [replay, hu.nodes _ s t h]

theorem resourceSteps_eq (h : s.Alike t) (hu : u.Unmoved) (a : Arguments)
    (place : StandardAction → String × String) (actions : List StandardAction) :
    resourceSteps u a place actions s = resourceSteps u a place actions t := by
  simp only [resourceSteps, h.enterAll_eq, h.replay_eq hu, hu.block s t h]

theorem manyPlace_eq (h : s.Alike t) (r : Enclosing) : manyPlace r s = manyPlace r t := by
  funext x
  simp only [manyPlace, h.path, h.names]

theorem onePlace_eq (h : s.Alike t) (r : Enclosing) : onePlace r s = onePlace r t := by
  funext x
  simp only [onePlace, h.path, h.names]

theorem manyResource_eq (h : s.Alike t) (hu : u.Unmoved) (args : List Node) :
    manyResource u args s = manyResource u args t := by
  refine congrArg (Step.reading _) (funext fun a => ?_)
  split
  · rfl
  · rfl
  next name _ _ =>
    split
    · rfl
    · have hinner := h.inResource a name (.many a (((a.text? "as").getD none).getD name))
      dsimp only
      rw [hinner.manyPlace_eq, hinner.resourceSteps_eq hu]

theorem oneResource_eq (h : s.Alike t) (hu : u.Unmoved) (args : List Node) :
    oneResource u args s = oneResource u args t := by
  refine congrArg (Step.reading _) (funext fun a => ?_)
  split
  · rfl
  · rfl
  next name _ _ =>
    have hinner := h.inResource a name (.one (a.textOr "as" name))
    dsimp only
    rw [hinner.onePlace_eq, hinner.resourceSteps_eq hu]

theorem nameSpace_eq (h : s.Alike t) (hu : u.Unmoved) (args : List Node) :
    nameSpace u args s = nameSpace u args t := by
  refine congrArg (Step.reading _) (funext fun a => ?_)
  split
  · rfl
  · rfl
  next name _ _ => exact hu.block _ _ (h.inNameSpace a name)

theorem innerScope_eq (h : s.Alike t) (hu : u.Unmoved) (args : List Node) :
    innerScope u args s = innerScope u args t :=
  congrArg (Step.reading _) (funext fun a => hu.block _ _ (h.inScope a))

theorem root_eq (h : s.Alike t) (u : Surroundings) (args : List Node) :
    root u args s = root u args t := by
  simp only [root, h.path, h.names, h.defaults]

theorem verbRoutes_eq (h : s.Alike t) (u : Surroundings) (verbs : List String) (args : List Node) :
    verbRoutes u verbs args s = verbRoutes u verbs args t := by
  simp only [verbRoutes, h.placeOf_eq, h.enterAll_eq]

theorem matchRoutes_eq (h : s.Alike t) (u : Surroundings) (args : List Node) :
    matchRoutes u args s = matchRoutes u args t := by
  simp only [matchRoutes, h.verbRoutes_eq]

theorem defaultValues_eq (h : s.Alike t) (hu : u.Unmoved) (args : List Node) :
    defaultValues u args s = defaultValues u args t :=
  congrArg (Step.reading _) (funext fun given => hu.block _ _ (h.withDefaults given))

theorem draw_eq (h : s.Alike t) (hu : u.Unmoved) (args : List Node) :
    draw u args s = draw u args t := by
  cases args with
  | nil => exact hu.block s t h
  | cons arg _ => exact congrArg (Step.reading _) (funext fun name => hu.drawn name s t h)

/-- **A declaration** does the same in scopes that are alike. -/
theorem callStep_eq (h : s.Alike t) (hu : u.Unmoved) (text method : String) (args : List Node)
    (hasBlock : Bool) (body : List Node) :
    callStep u text method args hasBlock body s = callStep u text method args hasBlock body t := by
  simp only [callStep, h.verbRoutes_eq, h.manyResource_eq hu, h.oneResource_eq hu,
    h.nameSpace_eq hu, h.innerScope_eq hu, hu.block _ _ (h.atLevel _), h.replay_eq hu, h.root_eq,
    h.matchRoutes_eq, h.defaultValues_eq hu, h.draw_eq hu, hu.block s t h]

/-! ### Statements -/

section Statements

variable {enter : Declaration → Step} {nodes : List Node → Scope → Step}
  {drawn : String → Scope → Step}

mutual

theorem unmoved_nodeStep (hn : ∀ body, Unmoved (nodes body)) (hd : ∀ name, Unmoved (drawn name)) :
    ∀ n : Node, Unmoved (nodeStep enter nodes drawn n)
  | .call _ text method args hasBlock body => by
    intro s t h
    have hu : Surroundings.Unmoved
        ⟨enter, fun inner => nodesStep enter nodes drawn body inner, nodes, drawn⟩ :=
      ⟨unmoved_nodesStep hn hd body, hn, hd⟩
    rw [nodeStep, nodeStep]
    exact h.callStep_eq hu text method args hasBlock body
  | .form _ _ _ parts => by
    intro s t h
    rw [nodeStep, nodeStep]
    exact unmoved_nodesStep hn hd parts s t h

theorem unmoved_nodesStep (hn : ∀ body, Unmoved (nodes body)) (hd : ∀ name, Unmoved (drawn name)) :
    ∀ ns : List Node, Unmoved (nodesStep enter nodes drawn ns)
  | [] => by
    intro s t _
    rw [nodesStep, nodesStep]
  | n :: rest => by
    intro s t h
    rw [nodesStep, nodesStep, unmoved_nodeStep hn hd n s t h, unmoved_nodesStep hn hd rest s t h]

end

/-- **Statements** do the same in scopes that are alike, whatever these keep. -/
theorem walk_eq (files : Sources) (path : String) (depth : Nat) :
    ∀ (ns : List Node) {s t : Scope}, s.Alike t →
      walk enter files path depth ns s = walk enter files path depth ns t := by
  induction depth with
  | zero =>
    intro ns s t _
    rw [walk, walk]
  | succ depth ih =>
    intro ns s t h
    rw [walk, walk]
    refine unmoved_nodesStep (fun body s t h => ih body h) (fun name s t h => ?_) ns s t h
    simp only [ih _ h]

end Statements
end Scope.Alike
end RouteHelpers.RouteFile
