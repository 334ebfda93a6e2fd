import Mathlib.Logic.Relation
import RouteHelpers.RouteFile.Routes

/-!
What a call can do in a scope.

A declaration enters routes and opens scopes for its block and for concerns. `Call.Declares` lists the
routes that a call enters in a scope, and `Call.Opens` the scopes that it opens there; both follow the
arguments that the call has. `Scope.LeadsTo` goes from a scope to those that several calls open in it,
one inside the other, and `Sources.HasCall` says which calls there are in a routes file and in the
files that it draws.

Where it makes no difference which calls there are, `Scope.Declares` and `Scope.Encloses` tell what any
call could do in a scope.
-/

namespace RouteHelpers.RouteFile

/-! ### The resource of a scope -/

/-- Another level makes no other resource. -/
theorem Scope.resource_atLevel (l : Level) (s : Scope) :
    (s.atLevel l).resource = s.resource.map fun r => { r with level := some l } := by
  rcases hsingular : s.singular with - | singular
  · simp [resource, atLevel, hsingular]
  · by_cases hempty : singular = "" <;> simp [resource, atLevel, hsingular, hempty]

/-- Inside a resource that has a singular, a scope belongs to it. -/
theorem Scope.resource_inside {s : Scope} {path : String} {names : List String} {r r' : Enclosing}
    (h : (s.inside path names r).resource = some r') :
    r' = { r with param := if r.alone then "" else r.param } := by
  unfold resource inside at h
  dsimp only at h
  split at h
  · cases h
  · cases h
  next singular _ hsingular =>
    rw [← Option.some.inj h, ← Option.some.inj hsingular]
    cases r.alone <;> rfl

/-! ### Scopes and the routes in them -/

/-- The scopes that a declaration in a scope opens. -/
inductive Scope.Opens : Scope → Scope → Prop
  | inResource (s : Scope) (a : Arguments) (name : String) (r : Enclosing) :
      Opens s (s.inResource a name r)
  | inNameSpace (s : Scope) (a : Arguments) (name : String) : Opens s (s.inNameSpace a name)
  | inScope (s : Scope) (a : Arguments) : Opens s (s.inScope a)
  | atLevel (s : Scope) (l : Level) : Opens s (s.atLevel l)
  | withDefaults (s : Scope) (given : List (String × String)) : Opens s (s.withDefaults given)

/-- A scope encloses itself and what is opened inside it. -/
abbrev Scope.Encloses : Scope → Scope → Prop :=
  Relation.ReflTransGen Scope.Opens

/-- The routes that a declaration in a scope enters. Those of a resource are entered in the scope
inside it. -/
inductive Scope.Declares : Scope → Declaration → Prop
  | many (s : Scope) (r : Enclosing) (x : StandardAction) (verb : String) :
      Declares s ⟨verb, (manyPlace r s x).1, some (manyPlace r s x).2, some x.name, s.defaults⟩
  | one (s : Scope) (r : Enclosing) (x : StandardAction) (verb : String) :
      Declares s ⟨verb, (onePlace r s x).1, some (onePlace r s x).2, some x.name, s.defaults⟩
  | root (s : Scope) (action : String) :
      Declares s ⟨"GET", if s.path.isEmpty then "/" else s.path,
        some (joinNames (s.names ++ ["root"])), some action, s.defaults⟩
  | route (s : Scope) (a : Arguments) (name verb : String) (action : Option String) :
      Declares s ⟨verb, (placeOf a name s).1, (placeOf a name s).2, action, s.defaults⟩

/-! ### Calls -/

/-- A call: its method and its arguments. -/
structure Call where
  method : String
  args : List Node

/-- The arguments of a call give it a name. -/
structure Call.IsNamed (c : Call) (a : Arguments) (name : String) : Prop where
  arguments : Arguments.ofNodes c.args = .ok a
  given : a.name = some name
  ne_empty : name ≠ ""

/-- A call declares a resource, of a name that its arguments give. -/
inductive Call.HasResource (c : Call) (a : Arguments) (name : String) : Enclosing → Prop
  | many : c.method = "resources" → c.IsNamed a name →
      HasResource c a name (.many a (a.textOr "as" name))
  | one : c.method = "resource" → c.IsNamed a name →
      HasResource c a name (.one (a.textOr "as" name))

theorem Call.HasResource.isNamed {c : Call} {a : Arguments} {name : String} {r : Enclosing}
    (h : c.HasResource a name r) : c.IsNamed a name := by
  cases h with
  | many _ hnamed => exact hnamed
  | one _ hnamed => exact hnamed

/-- The scopes that a call in a scope opens. -/
inductive Call.Opens (c : Call) (s : Scope) : Scope → Prop
  | resource {a : Arguments} {name : String} {r : Enclosing} : c.HasResource a name r →
      Opens c s (s.inResource a name r)
  | nameSpace {a : Arguments} {name : String} : c.method = "namespace" → c.IsNamed a name →
      Opens c s (s.inNameSpace a name)
  | inner {a : Arguments} : c.method = "scope" → Arguments.ofNodes c.args = .ok a →
      Opens c s (s.inScope a)
  | member : c.method = "member" → Opens c s (s.atLevel .member)
  | collection : c.method = "collection" → Opens c s (s.atLevel .collection)
  | defaults (given : List (String × String)) : c.method = "defaults" →
      Opens c s (s.withDefaults given)

/-- The routes that a call in a scope enters. Those of a resource are entered in the scope inside
it. -/
inductive Call.Declares (c : Call) (s : Scope) : Declaration → Prop
  | many {a : Arguments} {name : String} {r : Enclosing} {inner : Scope} (x : StandardAction)
      (verb : String) : c.method = "resources" → c.IsNamed a name →
      r = .many a (a.textOr "as" name) → inner = s.inResource a name r →
      Declares c s
        ⟨verb, (manyPlace r inner x).1, some (manyPlace r inner x).2, some x.name, inner.defaults⟩
  | one {a : Arguments} {name : String} {r : Enclosing} {inner : Scope} (x : StandardAction)
      (verb : String) : c.method = "resource" → c.IsNamed a name →
      r = .one (a.textOr "as" name) → inner = s.inResource a name r →
      Declares c s
        ⟨verb, (onePlace r inner x).1, some (onePlace r inner x).2, some x.name, inner.defaults⟩
  | root (action : String) : c.method = "root" →
      Declares c s ⟨"GET", if s.path.isEmpty then "/" else s.path,
        some (joinNames (s.names ++ ["root"])), some action, s.defaults⟩
  | route {a : Arguments} {name : String} (verb : String) (action : Option String) :
      c.method ∈ verbMethods ∨ c.method = "match" → c.IsNamed a name →
      Declares c s ⟨verb, (placeOf a name s).1, (placeOf a name s).2, action, s.defaults⟩

/-- A call occurs in a node: it is the node, or it occurs in its block or in a part of it. -/
inductive Node.HasCall : Node → Call → Prop
  | self (place : Nat) (text method : String) (args : List Node) (hasBlock : Bool)
      (body : List Node) : HasCall (.call place text method args hasBlock body) ⟨method, args⟩
  | body {place : Nat} {text method : String} {args : List Node} {hasBlock : Bool}
      {body : List Node} {n : Node} {c : Call} : n ∈ body → HasCall n c →
      HasCall (.call place text method args hasBlock body) c
  | part {place : Nat} {kind : Kind} {text : String} {parts : List Node} {n : Node} {c : Call} :
      n ∈ parts → HasCall n c → HasCall (.form place kind text parts) c

theorem Node.hasCall_call {place : Nat} {text method : String} {args : List Node} {hasBlock : Bool}
    {body : List Node} {c : Call} :
    (Node.call place text method args hasBlock body).HasCall c ↔
      c = ⟨method, args⟩ ∨ ∃ n ∈ body, n.HasCall c := by
  constructor
  · intro h
    cases h with
    | self => exact .inl rfl
    | body hn hc => exact .inr ⟨_, hn, hc⟩
  · rintro (rfl | ⟨n, hn, hc⟩)
    · exact .self ..
    · exact .body hn hc

/-- A concern that is found by its name is one of those that are defined. -/
theorem State.mem_concerns_of_lookup {st : State} {name : String} {body : List Node}
    (h : st.concerns.lookup name = some body) : (name, body) ∈ st.concerns := by
  obtain ⟨before, after, hsplit, -⟩ := List.lookup_eq_some_iff.1 h
  rw [hsplit]
  exact List.mem_append_right _ List.mem_cons_self

/-- All calls in several nodes are such as are given. -/
def HoldOnly (calls : Call → Prop) (ns : List Node) : Prop :=
  ∀ n ∈ ns, ∀ c, n.HasCall c → calls c

/-- A call occurs in the routes file at a path, or in a file that it can draw. -/
def Sources.HasCall (files : Sources) (path : String) (c : Call) : Prop :=
  ∃ file ns, (file = path ∨ ∃ name, file = drawnFile path name) ∧
    files.statements file = .ok ns ∧ ∃ n ∈ ns, n.HasCall c

/-- A scope leads to those that some calls open in it, one inside the other. -/
def Scope.LeadsTo (calls : Call → Prop) : Scope → Scope → Prop :=
  Relation.ReflTransGen fun s t => ∃ c, calls c ∧ c.Opens s t

/-- A call goes on in its own scope or in one that it opens. -/
def Call.GoesOnIn (c : Call) (s t : Scope) : Prop :=
  t = s ∨ c.Opens s t

theorem Scope.LeadsTo.goesOn {calls : Call → Prop} {c : Call} {s t u : Scope}
    (h : s.LeadsTo calls t) (hc : calls c) (hu : c.GoesOnIn t u) : s.LeadsTo calls u := by
  rcases hu with rfl | hu
  · exact h
  · exact h.tail ⟨c, hc, hu⟩

/-- What opening a scope preserves holds of all scopes that calls lead to. -/
theorem Scope.LeadsTo.preserves {calls : Call → Prop} {P : Scope → Prop} {s t : Scope}
    (h : s.LeadsTo calls t) (hs : P s)
    (hstep : ∀ t c u, s.LeadsTo calls t → calls c → c.Opens t u → P t → P u) : P t := by
  induction h with
  | refl => exact hs
  | @tail t u ht hopens ih =>
    obtain ⟨c, hc, hopens⟩ := hopens
    exact hstep t c u ht hc hopens ih

/-- What a call opens, calls can open. -/
theorem Call.Opens.opens {c : Call} {s t : Scope} (h : c.Opens s t) : s.Opens t := by
  cases h with
  | resource _ => exact .inResource s _ _ _
  | nameSpace _ _ => exact .inNameSpace s _ _
  | inner _ _ => exact .inScope s _
  | member _ => exact .atLevel s .member
  | collection _ => exact .atLevel s .collection
  | defaults given _ => exact .withDefaults s given

theorem Scope.LeadsTo.encloses {calls : Call → Prop} {s t : Scope} (h : s.LeadsTo calls t) :
    s.Encloses t :=
  Relation.ReflTransGen.mono (fun _ _ ⟨_, _, hopens⟩ => hopens.opens) _ _ h

/-- What a call declares in a scope, calls can declare in a scope that it encloses. -/
theorem Call.Declares.declares {c : Call} {s : Scope} {d : Declaration} (h : c.Declares s d) :
    ∃ t, s.Encloses t ∧ t.Declares d := by
  cases h with
  | many x verb _ _ _ hinner => exact ⟨_, .single (hinner ▸ .inResource s _ _ _), .many _ _ x verb⟩
  | one x verb _ _ _ hinner => exact ⟨_, .single (hinner ▸ .inResource s _ _ _), .one _ _ x verb⟩
  | root action _ => exact ⟨s, .refl, .root s action⟩
  | route verb action _ _ => exact ⟨s, .refl, .route s _ _ verb action⟩

end RouteHelpers.RouteFile
