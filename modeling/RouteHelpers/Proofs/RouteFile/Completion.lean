import RouteHelpers.Proofs.RouteFile.Call
import RouteHelpers.Proofs.Tracing

/-!
Readings that come to their end.

A reading breaks off where a file cannot be read, where what a node says is no text, and at two kinds of
calls: a resource that is renamed to nothing, and a route whose target is set to nothing while no action
is named. It also breaks off where statements are too deep inside each other, as those of a concern are that
uses itself. Where there is none of this, it comes to its end (`readingOf_completes`).

How deep statements go is told by what they lead to (`Sources.Leads`): the blocks and the parts of nodes, the
concerns that calls use and the files that they draw. Concerns are met again where they are used, so a
reading keeps what is so of their bodies (`State.Knows`). The induction is on the depth to which concerns and
drawn files are followed, and inside it on the tree; each kind of declaration has its own lemma.
-/

namespace RouteHelpers.RouteFile

/-! ### Nodes that can be read -/

/-- A property of a node and of all that it consists of. -/
inductive Node.All (P : Node → Prop) : Node → Prop
  | call {place : Nat} {text method : String} {args : List Node} {hasBlock : Bool} {body : List Node} :
      P (.call place text method args hasBlock body) → (∀ n ∈ args, All P n) → (∀ n ∈ body, All P n) →
      All P (.call place text method args hasBlock body)
  | form {place : Nat} {kind : Kind} {text : String} {parts : List Node} :
      P (.form place kind text parts) → (∀ n ∈ parts, All P n) → All P (.form place kind text parts)

/-- The octets that a text of a routes file stands for are those of a text. -/
def IsText (s : String) : Prop :=
  ∃ text, Text.withoutMarks s = .ok text

/-- What a form says by its kind is text. -/
def Kind.IsText : Kind → Prop
  | .string content => RouteFile.IsText content
  | .words _ elements => ∀ e ∈ elements, RouteFile.IsText e
  | _ => True

/-- What a node says is text, as it is wherever no node starts or ends inside a character. -/
structure Node.IsText (n : Node) : Prop where
  text : RouteFile.IsText n.text
  kind : n.kind.IsText

/-- A call that no reading breaks off at. -/
structure Call.IsSound (c : Call) : Prop where
  /-- A resource is not renamed to nothing. -/
  renamed : c.method = "resources" → ∀ a name, c.IsNamed a name → a.text? "as" ≠ some none
  /-- A route whose target is set to nothing has an action. -/
  targeted : c.method ∈ verbMethods ∨ c.method = "match" → ∀ a name, c.IsNamed a name →
    a.text? "to" = some none → ∃ x, a.text? "action" = some (some x) ∧ x ≠ ""

/-- A node and all that it consists of say text. -/
abbrev Node.IsReadable : Node → Prop :=
  Node.All Node.IsText

/-- A node that no reading breaks off at: it says text, and the calls in it are sound. -/
structure Node.IsSound (n : Node) : Prop where
  readable : n.IsReadable
  calls : ∀ c, n.HasCall c → c.IsSound

namespace Node

variable {P : Node → Prop} {n p k v : Node}

theorem All.self (h : n.All P) : P n := by
  cases h with
  | call h _ _ => exact h
  | form h _ => exact h

theorem All.of_mem_pairs (h : n.All P) (hp : p ∈ n.pairs) : p.All P := by
  cases h with
  | call _ _ _ => exact absurd hp List.not_mem_nil
  | @form place kind text parts hn hparts =>
    cases kind with
    | pair => exact List.mem_singleton.1 hp ▸ .form hn hparts
    | hash => exact hparts p (List.mem_of_mem_filter hp)
    | _ => exact absurd hp List.not_mem_nil

theorem All.of_keyValue? (h : p.All P) (hkv : p.keyValue? = some (k, v)) : k.All P ∧ v.All P := by
  unfold keyValue? at hkv
  split at hkv
  next _ _ parts =>
    split at hkv
    next key value hfilter =>
      obtain ⟨rfl, rfl⟩ := Prod.mk.inj (Option.some.inj hkv)
      cases h with
      | form _ hparts =>
        have hmem (n : Node) (hn : n ∈ [key, value]) : n.All P :=
          hparts n (List.mem_of_mem_filter (hfilter ▸ hn))
        exact ⟨hmem key (by simp), hmem value (by simp)⟩
    · cases hkv
  · cases hkv

/-! ### What nodes say -/

theorem IsText.exists_value (h : n.IsText) : ∃ s, n.value = .ok s := by
  have hkind := h.kind
  unfold value
  split
  next content heq =>
    rw [heq] at hkind
    exact hkind
  · obtain ⟨text, htext⟩ := h.text
    rw [htext]
    exact ⟨_, rfl⟩

theorem IsReadable.exists_value (h : n.IsReadable) : ∃ s, n.value = .ok s :=
  h.self.exists_value

theorem exists_filledValues {ns : List Node} (h : ∀ n ∈ ns, n.IsReadable) :
    ∃ names, filledValues ns = .ok names := by
  obtain ⟨names, hnames⟩ := Except.exists_mapM_eq_ok fun n hn => (h n hn).exists_value
  rw [filledValues, hnames]
  exact ⟨_, rfl⟩

theorem IsReadable.exists_values (h : n.IsReadable) : ∃ names, n.values = .ok names := by
  have htext := h.self
  unfold values
  split
  next => exact Except.exists_mapM_eq_ok htext.kind
  next parts =>
    cases h with
    | form _ hparts => exact exists_filledValues fun n hn => hparts n (List.mem_of_mem_filter hn)
  next => exact exists_filledValues fun m hm => List.mem_singleton.1 hm ▸ h

theorem IsReadable.exists_concernNames (h : n.IsReadable) : ∃ names, n.concernNames = .ok names := by
  have htext := h.self
  unfold concernNames
  split
  next =>
    split
    · exact Except.exists_mapM_eq_ok htext.kind
    · exact ⟨[], rfl⟩
  next => exact h.exists_values
  next =>
    split
    · obtain ⟨name, hname⟩ := h.exists_value
      rw [hname]
      exact ⟨_, rfl⟩
    · exact ⟨[], rfl⟩

theorem IsSound.isReadable_args {place : Nat} {text method : String} {args : List Node} {hasBlock : Bool}
    {body : List Node} (h : IsSound (.call place text method args hasBlock body)) :
    ∀ n ∈ args, n.IsReadable := by
  cases h.readable with
  | call _ hargs _ => exact hargs

theorem IsSound.of_mem_body {place : Nat} {text method : String} {args : List Node} {hasBlock : Bool}
    {body : List Node} (h : IsSound (.call place text method args hasBlock body)) :
    ∀ n ∈ body, n.IsSound := fun n hn => by
  refine ⟨?_, fun c hc => h.calls c (.body hn hc)⟩
  cases h.readable with
  | call _ _ hbody => exact hbody n hn

theorem IsSound.of_mem_parts {place : Nat} {kind : Kind} {text : String} {parts : List Node}
    (h : IsSound (.form place kind text parts)) : ∀ n ∈ parts, n.IsSound := fun n hn => by
  refine ⟨?_, fun c hc => h.calls c (.part hn hc)⟩
  cases h.readable with
  | form _ hparts => exact hparts n hn

/-- What the first of several nodes says that is of some kind. -/
theorem exists_mapM_find? (q : Node → Bool) {ns : List Node} (h : ∀ n ∈ ns, n.IsReadable) :
    ∃ s, (ns.find? q).mapM value = .ok s := by
  rcases hfind : ns.find? q with - | n
  · exact ⟨none, rfl⟩
  · obtain ⟨s, hs⟩ := (h n (List.mem_of_find?_eq_some hfind)).exists_value
    exact ⟨some s, by rw [Option.mapM_some, hs]; rfl⟩

end Node

/-! ### Arguments -/

namespace Arguments

theorem exists_addOption (a : Arguments) (key : String) {value : Node} (h : value.IsReadable) :
    ∃ b, a.addOption key value = .ok b := by
  unfold addOption
  split
  · obtain ⟨elements, helements⟩ := h.exists_values
    rw [helements]
    exact ⟨_, rfl⟩
  · split
    · exact ⟨_, rfl⟩
    · obtain ⟨text, htext⟩ := h.exists_value
      rw [htext]
      exact ⟨_, rfl⟩

theorem exists_addPair (a : Arguments) {p : Node} (h : p.IsReadable) :
    ∃ b, a.addPair p = .ok b := by
  unfold addPair
  split
  · exact ⟨a, rfl⟩
  next k v hkv =>
    obtain ⟨hk, hv⟩ : k.IsReadable ∧ v.IsReadable := h.of_keyValue? hkv
    obtain ⟨key, hkey⟩ := hk.exists_value
    rw [hkey]
    show ∃ b, (if k.isString && a.name.isNone then _ else _) = _
    split
    · exact exists_addOption _ "to" hv
    · exact exists_addOption a key hv

theorem exists_ofNodes {args : List Node} (h : ∀ n ∈ args, n.IsReadable) :
    ∃ a, ofNodes args = .ok a := by
  obtain ⟨name, hname⟩ := Node.exists_mapM_find? (fun n => n.isSymbol || n.isString) h
  have hpairs : ∀ p ∈ args.flatMap Node.pairs, p.IsReadable := fun p hp => by
    obtain ⟨n, hn, hp⟩ := List.mem_flatMap.1 hp
    exact (h n hn).of_mem_pairs hp
  obtain ⟨a, ha⟩ := Except.exists_foldlM_eq_ok (b := ⟨name, [], []⟩)
    fun a p hp => exists_addPair a (hpairs p hp)
  exact ⟨a, by rw [ofNodes, hname]; exact ha⟩

end Arguments

/-- What holds of the values by key holds of those with one set. -/
theorem forall_mem_setDefault {α : Type} {P : α → Prop} {defaults : List (String × α)}
    (h : ∀ p ∈ defaults, P p.2) (key : String) {value : α} (hvalue : P value) :
    ∀ p ∈ Scope.setDefault defaults key value, P p.2 := by
  intro p hp
  unfold Scope.setDefault at hp
  split at hp
  · obtain ⟨q, hq, rfl⟩ := List.mem_map.1 hp
    split
    · exact hvalue
    · exact h q hq
  · rcases List.mem_append.1 hp with hp | hp
    · exact h p hp
    · exact List.mem_singleton.1 hp ▸ hvalue

theorem exists_givenDefaults {args : List Node} (h : ∀ n ∈ args, n.IsReadable) :
    ∃ given, givenDefaults args = .ok given := by
  have hpairs : ∀ p ∈ (args.flatMap Node.pairs).filterMap Node.keyValue?,
      p.1.IsReadable ∧ p.2.IsReadable := by
    intro p hp
    obtain ⟨pair, hpair, hkv⟩ := List.mem_filterMap.1 hp
    obtain ⟨n, hn, hpair⟩ := List.mem_flatMap.1 hpair
    exact ((h n hn).of_mem_pairs hpair).of_keyValue? hkv
  have hkeys := Except.exists_mapM_eq_ok
    (f := fun p : Node × Node => do pure ((← p.1.value), p.2)) fun p hp => by
      obtain ⟨key, hkey⟩ := (hpairs p hp).1.exists_value
      exact ⟨(key, p.2), by rw [hkey]; rfl⟩
  obtain ⟨given, hgiven⟩ := hkeys
  have hread : ∀ p ∈ given, p.2.IsReadable := fun p hp => by
    obtain ⟨pair, hpair, hp⟩ := Except.exists_of_mem_mapM hgiven hp
    obtain ⟨key, -, hp⟩ := Except.bind_eq_ok.1 hp
    exact Except.ok.inj hp ▸ (hpairs pair hpair).2
  -- a key that is given twice keeps its place and gets the later value, which can be read as well
  have hlast : ∀ p ∈ (given.filter (!·.1.isEmpty)).foldl
      (fun done p => Scope.setDefault done p.1 p.2) [], p.2.IsReadable := by
    refine List.foldlRecOn (motive := fun done : List (String × Node) => ∀ p ∈ done, p.2.IsReadable)
      _ _ (fun _ hp => absurd hp List.not_mem_nil) fun done hdone p hp => ?_
    exact forall_mem_setDefault hdone p.1 (hread p (List.mem_of_mem_filter hp))
  obtain ⟨texts, htexts⟩ := Except.exists_mapM_eq_ok
    (f := fun p : String × Node => do pure (p.1, (← p.2.value))) fun p hp => by
      obtain ⟨text, htext⟩ := (hlast p hp).exists_value
      exact ⟨(p.1, text), by rw [htext]; rfl⟩
  exact ⟨texts, by rw [givenDefaults, hgiven]; exact htexts⟩

/-- The action of a route can be told unless its target is set to nothing and no action is named. -/
theorem exists_actionOf {a : Arguments}
    (h : a.text? "to" = some none → ∃ x, a.text? "action" = some (some x) ∧ x ≠ "") (isSymbol : Bool)
    (name : String) : ∃ action, actionOf a isSymbol name = .ok action := by
  unfold actionOf
  rcases hto : a.text? "to" with - | - | target
  · rcases a.text? "action" with - | - | x
    · exact ⟨_, rfl⟩
    · exact ⟨_, rfl⟩
    · cases hx : x.isEmpty <;> simp only [hx] <;> exact ⟨_, rfl⟩
  · -- nothing is set as the target, and then the action that is named decides
    obtain ⟨x, hx, hne⟩ := h hto
    have hfilled : x.isEmpty = false := by simpa using hne
    simp only [hx, hfilled]
    exact ⟨_, rfl⟩
  · rcases a.text? "action" with - | - | x
    · exact ⟨_, rfl⟩
    · exact ⟨_, rfl⟩
    · cases hx : x.isEmpty <;> simp only [hx] <;> exact ⟨_, rfl⟩

/-! ### What statements lead to -/

/-- A concern is defined in a node, under a name and with statements. -/
inductive Node.Defines : Node → String → List Node → Prop
  | self (place : Nat) (text : String) {arg : Node} (args : List Node) (hasBlock : Bool)
      (body : List Node) {name : String} : arg.value = .ok name →
      Defines (.call place text "concern" (arg :: args) hasBlock body) name body
  | body {place : Nat} {text method : String} {args : List Node} {hasBlock : Bool}
      {body : List Node} {n : Node} {name : String} {concern : List Node} : n ∈ body →
      Defines n name concern → Defines (.call place text method args hasBlock body) name concern
  | part {place : Nat} {kind : Kind} {text : String} {parts : List Node} {n : Node} {name : String}
      {concern : List Node} : n ∈ parts → Defines n name concern →
      Defines (.form place kind text parts) name concern

/-- A call uses the concern with a name: it names it, or it declares a resource that does. -/
inductive Call.Uses (c : Call) : String → Prop
  | concerns {names : List (List String)} {name : String} : c.method = "concerns" →
      c.args.mapM Node.concernNames = .ok names → name ∈ names.flatten → Uses c name
  | resource {a : Arguments} {name : String} : c.method = "resources" ∨ c.method = "resource" →
      Arguments.ofNodes c.args = .ok a → name ∈ (a.list? "concerns").getD [] → Uses c name

/-- A call draws the file with a name. -/
inductive Call.Draws (c : Call) : String → Prop
  | intro {arg : Node} {rest : List Node} {name : String} : c.method = "draw" →
      c.args = arg :: rest → arg.value = .ok name → Draws c name

namespace Sources

variable (files : Sources) (path : String)

/-- A concern is defined in the routes file at a path, or in a file that it can draw. -/
def Defines (name : String) (body : List Node) : Prop :=
  ∃ file ns, (file = path ∨ ∃ drawn, file = drawnFile path drawn) ∧ files.statements file = .ok ns ∧
    ∃ n ∈ ns, n.Defines name body

/-- What is gone through inside a node: its block or its parts, and where it is a call the statements of
a concern that it uses, whichever of that name, and of a file that it draws. -/
inductive Leads : Node → List Node → Prop
  | block (place : Nat) (text method : String) (args : List Node) (hasBlock : Bool)
      (body : List Node) : Leads (.call place text method args hasBlock body) body
  | parts (place : Nat) (kind : Kind) (text : String) (parts : List Node) :
      Leads (.form place kind text parts) parts
  | concern {place : Nat} {text method : String} {args : List Node} {hasBlock : Bool}
      {body : List Node} {name : String} {below : List Node} : Call.Uses ⟨method, args⟩ name →
      files.Defines path name below → Leads (.call place text method args hasBlock body) below
  | drawn {place : Nat} {text method : String} {args : List Node} {hasBlock : Bool}
      {body : List Node} {name : String} {below : List Node} : Call.Draws ⟨method, args⟩ name →
      files.statements (drawnFile path name) = .ok below →
      Leads (.call place text method args hasBlock body) below

/-- Statements lead to others for less than a number of levels. -/
def Fits : Nat → List Node → Prop
  | 0, _ => False
  | depth + 1, ns => ∀ n ∈ ns, ∀ below, files.Leads path n below → Fits depth below

/-- A node is sound, and the concerns in it are those of the files. -/
structure Accepts (n : Node) : Prop where
  sound : n.IsSound
  defines : ∀ name body, n.Defines name body → files.Defines path name body

/-- Statements that no reading breaks off at: they are sound, and they do not go too deep. -/
structure Allows (depth : Nat) (ns : List Node) : Prop where
  accepted : ∀ n ∈ ns, files.Accepts path n
  fits : files.Fits path depth ns

variable {files path} {depth : Nat} {ns : List Node}

/-- More levels are enough as well. -/
theorem Fits.succ : ∀ {depth : Nat} {ns : List Node}, files.Fits path depth ns →
    files.Fits path (depth + 1) ns
  | 0, _, h => h.elim
  | _ + 1, _, h => fun n hn below hbelow => Fits.succ (h n hn below hbelow)

theorem Fits.mono {limit : Nat} (h : files.Fits path depth ns) (hle : depth ≤ limit) :
    files.Fits path limit ns := by
  induction hle with
  | refl => exact h
  | step _ ih => exact ih.succ

theorem Accepts.of_mem_body {place : Nat} {text method : String} {args : List Node} {hasBlock : Bool}
    {body : List Node} (h : files.Accepts path (.call place text method args hasBlock body)) :
    ∀ n ∈ body, files.Accepts path n :=
  fun n hn => ⟨h.sound.of_mem_body n hn, fun _ _ hdef => h.defines _ _ (.body hn hdef)⟩

theorem Accepts.of_mem_parts {place : Nat} {kind : Kind} {text : String} {parts : List Node}
    (h : files.Accepts path (.form place kind text parts)) : ∀ n ∈ parts, files.Accepts path n :=
  fun n hn => ⟨h.sound.of_mem_parts n hn, fun _ _ hdef => h.defines _ _ (.part hn hdef)⟩

theorem Allows.of_cons {n : Node} {rest : List Node} (h : files.Allows path (depth + 1) (n :: rest)) :
    files.Allows path (depth + 1) [n] ∧ files.Allows path (depth + 1) rest := by
  obtain ⟨hn, hrest⟩ := List.forall_mem_cons.1 h.accepted
  obtain ⟨hfits, hfitsRest⟩ := List.forall_mem_cons.1 h.fits
  exact ⟨⟨List.forall_mem_singleton.2 hn, List.forall_mem_singleton.2 hfits⟩, hrest, hfitsRest⟩

end Sources

/-! ### Steps that come to their end -/

section Completion

variable {files : Sources} {path : String}

/-- The concerns that are known are those of the files, and what is in them is accepted. -/
def State.Knows (files : Sources) (path : String) (st : State) : Prop :=
  ∀ p ∈ st.concerns, files.Defines path p.1 p.2 ∧ ∀ n ∈ p.2, files.Accepts path n

/-- A step comes to its end. -/
def Step.Completes (files : Sources) (path : String) (f : Step) : Prop :=
  ∀ st : State, st.Knows files path → ∃ st', (f st).outcome = .ok st' ∧ st'.Knows files path

namespace Step

variable {f g : Step}

theorem completes_skip : Completes files path skip := fun st h => ⟨st, rfl, h⟩

theorem completes_tell (n : Notice) : Completes files path (tell n) := by
  intro st h
  rw [tell, Traced.outcome_bind]
  exact ⟨st, rfl, h⟩

theorem Completes.followedBy (hf : Completes files path f) (hg : Completes files path g) :
    Completes files path (f.followedBy g) := by
  intro st h
  obtain ⟨st', hst', h⟩ := hf st h
  obtain ⟨st'', hst'', h⟩ := hg st' h
  exact ⟨st'', by rw [Step.followedBy, Traced.outcome_bind_ok hst', hst''], h⟩

theorem completes_forEach {α : Type} {f : α → Step} {xs : List α} (h : ∀ x ∈ xs, Completes files path (f x)) :
    Completes files path (forEach f xs) := by
  induction xs with
  | nil => exact completes_skip
  | cons x xs ih =>
    exact (h x List.mem_cons_self).followedBy (ih fun y hy => h y (List.mem_cons_of_mem x hy))

theorem completes_given {α : Type} {x : Except ReadFault α} {f : α → Step} (hx : ∃ a, x = .ok a)
    (h : ∀ a, x = .ok a → Completes files path (f a)) : Completes files path (given x f) := by
  obtain ⟨a, rfl⟩ := hx
  exact h a rfl

theorem completes_reading {α : Type} {x : Except Text.Utf8Fault α} {f : α → Step}
    (hx : ∃ a, x = .ok a) (h : ∀ a, x = .ok a → Completes files path (f a)) :
    Completes files path (reading x f) := by
  obtain ⟨a, rfl⟩ := hx
  exact h a rfl

end Step

theorem completes_declare (d : Declaration) : Step.Completes files path (declare d) :=
  fun st h => ⟨st.add d, rfl, h⟩

/-! ### Declarations -/

/-- What a reading goes through a call with comes to its end. -/
structure Surroundings.Complete (files : Sources) (path : String) (c : Call) (u : Surroundings) :
    Prop where
  enter (d : Declaration) : Step.Completes files path (u.enter d)
  block (s : Scope) : Step.Completes files path (u.block s)
  nodes {name : String} {body : List Node} (s : Scope) : c.Uses name → files.Defines path name body →
    (∀ n ∈ body, files.Accepts path n) → Step.Completes files path (u.nodes body s)
  drawn {name : String} (s : Scope) : c.Draws name → Step.Completes files path (u.drawn name s)

namespace Surroundings.Complete

variable {u : Surroundings} {method : String} {args : List Node}

theorem enterAll {c : Call} (h : u.Complete files path c) (verbs : List String) (place : String)
    (helper action : Option String) (s : Scope) :
    Step.Completes files path (enterAll u verbs place helper action s) :=
  Step.completes_forEach fun _ _ => h.enter _

theorem replay {c : Call} (h : u.Complete files path c) {names : List String}
    (hnames : ∀ name ∈ names, c.Uses name) (s : Scope) :
    Step.Completes files path (replay u names s) := by
  refine Step.completes_forEach fun name hname st hst => ?_
  rcases hbody : st.concerns.lookup name with - | body
  · exact Step.completes_tell _ st hst
  · -- the body is one of those that the reader knows
    obtain ⟨hdefined, haccepted⟩ := hst _ (State.mem_concerns_of_lookup hbody)
    exact h.nodes s (hnames name hname) hdefined haccepted st hst

theorem resourceSteps {c : Call} (h : u.Complete files path c) {a : Arguments}
    (hnames : ∀ name ∈ (a.list? "concerns").getD [], c.Uses name)
    (place : StandardAction → String × String) (actions : List StandardAction) (s : Scope) :
    Step.Completes files path (resourceSteps u a place actions s) :=
  (Step.completes_forEach fun _ _ => h.enterAll _ _ _ _ s).followedBy
    ((h.replay hnames s).followedBy (h.block s))

theorem manyResource (h : u.Complete files path ⟨"resources", args⟩)
    (hargs : ∀ n ∈ args, n.IsReadable) (hc : Call.IsSound ⟨"resources", args⟩) (s : Scope) :
    Step.Completes files path (manyResource u args s) := by
  refine Step.completes_reading (Arguments.exists_ofNodes hargs) fun a ha => ?_
  split
  · exact Step.completes_skip
  · exact Step.completes_skip
  next name hne hname =>
    split
    next hrenamed => exact absurd hrenamed (hc.renamed rfl a name ⟨ha, hname, hne⟩)
    · exact h.resourceSteps (fun _ hname => .resource (.inl rfl) ha hname) _ _ _

theorem oneResource (h : u.Complete files path ⟨"resource", args⟩)
    (hargs : ∀ n ∈ args, n.IsReadable) (s : Scope) :
    Step.Completes files path (oneResource u args s) := by
  refine Step.completes_reading (Arguments.exists_ofNodes hargs) fun a ha => ?_
  split
  · exact Step.completes_skip
  · exact Step.completes_skip
  · exact h.resourceSteps (fun _ hname => .resource (.inr rfl) ha hname) _ _ _

theorem nameSpace (h : u.Complete files path ⟨method, args⟩) (hargs : ∀ n ∈ args, n.IsReadable)
    (s : Scope) : Step.Completes files path (nameSpace u args s) := by
  refine Step.completes_reading (Arguments.exists_ofNodes hargs) fun a _ => ?_
  split
  · exact Step.completes_skip
  · exact Step.completes_skip
  · exact h.block _

theorem innerScope (h : u.Complete files path ⟨method, args⟩) (hargs : ∀ n ∈ args, n.IsReadable)
    (s : Scope) : Step.Completes files path (innerScope u args s) :=
  Step.completes_reading (Arguments.exists_ofNodes hargs) fun _ _ => h.block _

theorem root (h : u.Complete files path ⟨method, args⟩) (hargs : ∀ n ∈ args, n.IsReadable)
    (s : Scope) : Step.Completes files path (root u args s) := by
  refine Step.completes_reading ?_ fun _ _ => h.enter _
  obtain ⟨a, ha⟩ := Arguments.exists_ofNodes hargs
  obtain ⟨target, htarget⟩ := Node.exists_mapM_find? (fun n => n.isString) hargs
  rw [rootTarget?, ha, Except.ok_bind]
  split
  · exact ⟨_, rfl⟩
  · exact ⟨target, htarget⟩

/-- A route has its action named where its target is set to nothing. -/
theorem verbRoutes (h : u.Complete files path ⟨method, args⟩) (hargs : ∀ n ∈ args, n.IsReadable)
    (hc : Call.IsSound ⟨method, args⟩) (hmethod : method ∈ verbMethods ∨ method = "match")
    (verbs : List String) (s : Scope) : Step.Completes files path (verbRoutes u verbs args s) := by
  refine Step.completes_reading (Arguments.exists_ofNodes hargs) fun a ha => ?_
  split
  · exact Step.completes_skip
  · exact Step.completes_skip
  next name hne hname =>
    refine Step.completes_given ?_ fun action _ => h.enterAll _ _ _ _ s
    exact exists_actionOf (hc.targeted hmethod a name ⟨ha, hname, hne⟩) _ name

theorem matchRoutes (h : u.Complete files path ⟨"match", args⟩) (hargs : ∀ n ∈ args, n.IsReadable)
    (hc : Call.IsSound ⟨"match", args⟩) (s : Scope) :
    Step.Completes files path (matchRoutes u args s) :=
  Step.completes_reading (Arguments.exists_ofNodes hargs) fun _ _ =>
    h.verbRoutes hargs hc (.inr rfl) _ s

theorem defaultValues (h : u.Complete files path ⟨method, args⟩) (hargs : ∀ n ∈ args, n.IsReadable)
    (s : Scope) : Step.Completes files path (defaultValues u args s) :=
  Step.completes_reading (exists_givenDefaults hargs) fun _ _ => h.block _

theorem draw (h : u.Complete files path ⟨"draw", args⟩) (hargs : ∀ n ∈ args, n.IsReadable)
    (s : Scope) : Step.Completes files path (draw u args s) := by
  cases args with
  | nil => exact h.block s
  | cons arg rest =>
    have harg := hargs arg List.mem_cons_self
    exact Step.completes_reading harg.exists_value fun name hname => h.drawn s (.intro rfl rfl hname)

end Surroundings.Complete

/-- A concern that is defined is known from then on. -/
theorem completes_defineConcern {place : Nat} {text : String} {args : List Node} {hasBlock : Bool}
    {body : List Node} (hnode : files.Accepts path (.call place text "concern" args hasBlock body)) :
    Step.Completes files path (defineConcern args hasBlock body) := by
  cases args with
  | nil => exact Step.completes_skip
  | cons arg rest =>
    cases hasBlock with
    | false => exact Step.completes_skip
    | true =>
      have harg : arg.IsReadable := hnode.sound.isReadable_args arg List.mem_cons_self
      refine Step.completes_reading harg.exists_value fun name hname st hst => ?_
      by_cases hempty : name.isEmpty = true
      · exact ⟨st, by simp only [hempty, if_true]; rfl, hst⟩
      · have hdefined : files.Defines path name body := hnode.defines _ _ (.self _ _ _ _ _ hname)
        exact ⟨_, rfl, by
          simp only [hempty]
          exact List.forall_mem_cons.2 ⟨⟨hdefined, hnode.of_mem_body⟩, hst⟩⟩

/-- **A declaration** comes to its end, where what it is gone through with does. -/
theorem callStep_completes {u : Surroundings} {place : Nat} {text method : String}
    {args : List Node} {hasBlock : Bool} {body : List Node} (h : u.Complete files path ⟨method, args⟩)
    (hnode : files.Accepts path (.call place text method args hasBlock body)) (s : Scope) :
    Step.Completes files path (callStep u text method args hasBlock body s) := by
  have hsound : Call.IsSound ⟨method, args⟩ := hnode.sound.calls _ (.self ..)
  have htext : IsText text := hnode.sound.readable.self.text
  have hargs : ∀ n ∈ args, n.IsReadable := hnode.sound.isReadable_args
  -- by the name of the method: a verb, one of the declarations in turn, or any other call
  unfold callStep
  split
  next hverb => exact h.verbRoutes hargs hsound (.inl (List.contains_iff_mem.1 hverb)) _ s
  · split
    · exact h.manyResource hargs hsound s
    · exact h.oneResource hargs s
    · exact h.nameSpace hargs s
    · exact h.innerScope hargs s
    · exact h.block _
    · exact h.block _
    · exact completes_defineConcern hnode
    · have hnames := Except.exists_mapM_eq_ok fun n hn => (hargs n hn).exists_concernNames
      exact Step.completes_reading hnames fun _ hread =>
        h.replay (fun _ hname => .concerns rfl hread hname) s
    · exact h.root hargs s
    · exact h.matchRoutes hargs hsound s
    · exact h.defaultValues hargs s
    · exact h.draw hargs s
    · exact Step.completes_reading htext fun _ _ => Step.completes_tell _
    · exact h.block s

/-! ### Readings -/

section Readings

variable {enter : Declaration → Step} {nodes : List Node → Scope → Step}
  {drawn : String → Scope → Step} {depth : Nat}

mutual

theorem nodeStep_completes (he : ∀ d, Step.Completes files path (enter d))
    (hn : ∀ body s, files.Allows path depth body → Step.Completes files path (nodes body s))
    (hd : ∀ name s, (∀ ns, files.statements (drawnFile path name) = .ok ns →
      files.Fits path depth ns) → Step.Completes files path (drawn name s)) :
    ∀ (n : Node) (s : Scope), files.Allows path (depth + 1) [n] →
      Step.Completes files path (nodeStep enter nodes drawn n s)
  | .call _ _ _ _ _ body, s, h => by
    have hnode := h.accepted _ List.mem_cons_self
    have hfits := h.fits _ List.mem_cons_self
    rw [nodeStep]
    -- the block is one level deeper, and there is at least one level for it
    refine callStep_completes ⟨he, fun t => ?_, fun t huses hdefined haccepted => ?_,
      fun t hdraws => ?_⟩ hnode s
    · exact nodesStep_completes he hn hd body t ⟨hnode.of_mem_body, (hfits _ (.block ..)).succ⟩
    · exact hn _ t ⟨haccepted, hfits _ (.concern huses hdefined)⟩
    · exact hd _ t fun ns hns => hfits ns (.drawn hdraws hns)
  | .form _ _ _ parts, s, h => by
    have hnode := h.accepted _ List.mem_cons_self
    have hfits := h.fits _ List.mem_cons_self _ (.parts ..)
    rw [nodeStep]
    exact nodesStep_completes he hn hd parts s ⟨hnode.of_mem_parts, hfits.succ⟩

theorem nodesStep_completes (he : ∀ d, Step.Completes files path (enter d))
    (hn : ∀ body s, files.Allows path depth body → Step.Completes files path (nodes body s))
    (hd : ∀ name s, (∀ ns, files.statements (drawnFile path name) = .ok ns →
      files.Fits path depth ns) → Step.Completes files path (drawn name s)) :
    ∀ (ns : List Node) (s : Scope), files.Allows path (depth + 1) ns →
      Step.Completes files path (nodesStep enter nodes drawn ns s)
  | [], _, _ => by
    rw [nodesStep]
    exact Step.completes_skip
  | n :: rest, s, h => by
    obtain ⟨hfirst, hrest⟩ := h.of_cons
    rw [nodesStep]
    exact (nodeStep_completes he hn hd n s hfirst).followedBy
      (nodesStep_completes he hn hd rest s hrest)

end

/-- **Going through statements** comes to its end, where they are no deeper than it may go and the files
that they draw can be read. -/
theorem walk_completes (he : ∀ d, Step.Completes files path (enter d))
    (hfiles : ∀ name, files.isFile (drawnFile path name) = true →
      ∃ ns, files.statements (drawnFile path name) = .ok ns ∧ ∀ n ∈ ns, files.Accepts path n)
    (depth : Nat) (ns : List Node) (s : Scope) (hns : files.Allows path depth ns) :
    Step.Completes files path (walk enter files path depth ns s) := by
  induction depth generalizing ns s with
  | zero => exact hns.fits.elim
  | succ depth ih =>
    refine nodesStep_completes he (fun body s hbody => ih body s hbody)
      (fun name s hfits st hst => ?_) ns s hns
    dsimp only
    split
    next hfile =>
      -- the statements of the drawn file are gone through at a smaller depth
      obtain ⟨drawn, hdrawn, haccepted⟩ := hfiles name hfile
      refine Step.completes_given ⟨drawn, hdrawn⟩ (fun ns hns => ih ns s ?_) st hst
      obtain rfl := Except.ok.inj (hdrawn.symm.trans hns)
      exact ⟨haccepted, hfits drawn hdrawn⟩
    · exact Step.completes_tell _ st hst

/-- **Reading a routes file** comes to its end, where its statements and those of the files that it draws
are sound and do not go too deep. -/
theorem readingOf_completes (he : ∀ d, Step.Completes files path (enter d))
    (hpath : ∃ ns, files.statements path = .ok ns ∧ (∀ n ∈ ns, n.IsSound) ∧
      files.Fits path depthLimit ns)
    (hfiles : ∀ name, files.isFile (drawnFile path name) = true →
      ∃ ns, files.statements (drawnFile path name) = .ok ns ∧ ∀ n ∈ ns, n.IsSound) :
    Step.Completes files path (readingOf enter files path) := by
  obtain ⟨ns, hns, hsound, hfits⟩ := hpath
  -- what is defined in a file is defined in the files
  have haccepts {file : String} {ns : List Node}
      (hfile : file = path ∨ ∃ drawn, file = drawnFile path drawn)
      (hns : files.statements file = .ok ns) (hsound : ∀ n ∈ ns, n.IsSound) :
      ∀ n ∈ ns, files.Accepts path n := fun n hn =>
    ⟨hsound n hn, fun _ _ hdef => ⟨file, ns, hfile, hns, n, hn, hdef⟩⟩
  refine Step.completes_given ⟨ns, hns⟩ fun ns' hns' => ?_
  obtain rfl := Except.ok.inj (hns.symm.trans hns')
  refine (walk_completes he (fun name hfile => ?_) _ ns {}
    ⟨haccepts (.inl rfl) hns hsound, hfits⟩).followedBy ?_
  · obtain ⟨drawn, hdrawn, hread⟩ := hfiles name hfile
    exact ⟨drawn, hdrawn, haccepts (.inr ⟨name, rfl⟩) hdrawn hread⟩
  · exact fun st hst => Step.completes_tell _ st hst

end Readings
end Completion
end RouteHelpers.RouteFile
