import RouteHelpers.CommandLine.Run
import RouteHelpers.Proofs.Console
import RouteHelpers.Proofs.Files.Fault

/-!
Steps of a run whose faults a user is told of.

`Run.Contains` says of a run where it leads from a tree: to a result, or to a fault that is reported.
There is one rule for each way to put steps together, so that what is so of a whole run follows from the
pure computations that its steps settle. `Run.attempt` turns a reported fault into a line
(`isAttempted_attempt`).
-/

namespace RouteHelpers.CommandLine.Run

variable {α β ε : Type} {host : Host}

/-- An end that is a result, of which `Q` holds together with the tree, or a fault that a user is told
of. -/
def EndsIn (Q : α → Files.Tree → Prop) : Except RunFault α × Progress → Prop
  | (.ok a, p) => Q a p.tree
  | (.error f, _) => f.isReported = true

/-- From a tree of which `P` holds, a run comes to a result of which `Q` holds, or to a fault that a user
is told of. -/
def Contains (P : Files.Tree → Prop) (x : Run α) (Q : α → Files.Tree → Prop) : Prop :=
  ∀ p : Progress, P p.tree → EndsIn Q (x.run.run p)

variable {P : Files.Tree → Prop} {Q : α → Files.Tree → Prop} {R : β → Files.Tree → Prop}
  {x : Run α} {f : α → Run β}

theorem contains_pure {a : α} (h : ∀ t, P t → Q a t) : Contains P (pure a) Q :=
  fun p hp => h p.tree hp

theorem run_bind (x : Run α) (f : α → Run β) (p : Progress) :
    (x >>= f).run.run p = match x.run.run p with
      | (.ok a, q) => (f a).run.run q
      | (.error e, q) => (.error e, q) := by
  have h : (x >>= f).run.run p
      = (ExceptT.bindCont f (x.run.run p).1).run (x.run.run p).2 := rfl
  rw [h]
  rcases x.run.run p with ⟨e | a, q⟩ <;> rfl

theorem run_map (g : α → β) (x : Run α) (p : Progress) :
    (g <$> x).run.run p = match x.run.run p with
      | (.ok a, q) => (.ok (g a), q)
      | (.error e, q) => (.error e, q) := by
  simp only [ExceptT.run_map, StateT.run_map]
  rcases x.run.run p with ⟨e | a, q⟩ <;> rfl

theorem run_tryCatch (x : Run α) (handle : RunFault → Run α) (p : Progress) :
    (tryCatch x handle).run.run p = match x.run.run p with
      | (.ok a, q) => (.ok a, q)
      | (.error e, q) => (handle e).run.run q := by
  simp only [tryCatch, tryCatchThe, MonadExceptOf.tryCatch, ExceptT.tryCatch, ExceptT.run_mk,
    StateT.run_bind]
  -- what is run under the handler is the same run seen without its faults
  rcases hx : x.run.run p with ⟨e | a, q⟩ <;> erw [hx] <;> rfl

theorem Contains.bind (hx : Contains P x Q) (hf : ∀ a, Contains (Q a) (f a) R) :
    Contains P (x >>= f) R := by
  intro p hp
  have h := hx p hp
  rw [run_bind]
  generalize x.run.run p = ending at h ⊢
  rcases ending with ⟨e | a, q⟩
  · exact h
  · exact hf a q h

theorem contains_tree : Contains P tree fun t t' => t = t' ∧ P t :=
  fun _ hp => ⟨rfl, hp⟩

theorem contains_print (s : String) : Contains P (print s) fun _ => P :=
  fun _ hp => hp

theorem contains_tellAll (ns : List Notice) : Contains P (tellAll ns) fun _ => P :=
  fun _ hp => hp

/-- What an outcome gives, or a fault that is reported. -/
theorem contains_settle {g : ε → RunFault} {outcome : Except ε α}
    (hok : ∀ a, outcome = .ok a → ∀ t, P t → Q a t)
    (herror : ∀ e, outcome = .error e → ∀ t, P t → (g e).isReported = true) :
    Contains P (settle g outcome) Q := by
  intro p hp
  rcases outcome with e | a
  · exact herror e rfl p.tree hp
  · exact hok a rfl p.tree hp

theorem contains_follow {g : ε → RunFault} {y : Traced ε α}
    (hok : ∀ a, y.outcome = .ok a → ∀ t, P t → Q a t)
    (herror : ∀ e, y.outcome = .error e → ∀ t, P t → (g e).isReported = true) :
    Contains P (follow g y) Q :=
  (contains_tellAll y.notices).bind fun _ => contains_settle hok herror

theorem contains_say {s : String} (h : ∃ line, host.console.line s = .ok line) :
    Contains P (say host s) fun _ => P := by
  obtain ⟨line, hline⟩ := h
  refine (contains_settle (fun _ _ _ hp => hp) fun e he _ _ => ?_).bind fun line => contains_print line
  rw [hline] at he
  cases he

/-- A step that succeeded can be told where no bracket is told. -/
theorem contains_sayDone (hhost : host.console.IsFaithful) {s : String} (h : '[' ∉ s.toList) :
    Contains P (sayDone host s) fun _ => P :=
  contains_say (hhost.exists_done h)

/-- A loop keeps what each of its rounds keeps. -/
theorem contains_forIn {xs : List β} {g : β → Run Unit} (h : ∀ b ∈ xs, Contains P (g b) fun _ => P) :
    Contains P (forIn xs PUnit.unit fun b _ => do g b; pure (.yield PUnit.unit)) fun _ => P := by
  induction xs with
  | nil => exact contains_pure fun _ hp => hp
  | cons b xs ih =>
    obtain ⟨hb, hxs⟩ := List.forall_mem_cons.1 h
    rw [List.forIn_cons]
    refine Contains.bind (Q := fun r t => r = ForInStep.yield PUnit.unit ∧ P t) ?_ fun r => ?_
    · exact hb.bind fun _ => contains_pure fun t ht => ⟨rfl, ht⟩
    · intro p hp
      obtain ⟨rfl, hp⟩ := hp
      exact ih hxs p hp

theorem contains_modify (g : Progress → Progress) :
    Contains P (modify g : Run Unit) fun _ _ => True :=
  fun _ _ => trivial

theorem contains_throw {e : RunFault} (h : e.isReported = true) : Contains P (throw e) Q :=
  fun _ _ => h

/-- Files go to places that files can have, and the places are told. -/
theorem contains_store {L : String → Prop} (hL : ∀ path, L path → Files.IsNullFree path)
    {files : List OutputFile} (h : ∀ f ∈ files, f.destination.IsNamed L) :
    Contains P (store host files) fun written _ => ∀ path ∈ written, L path := by
  refine contains_tree.bind fun t => ?_
  rcases hw : Writing.writeFiles host.disk t [] files with ⟨t', written, fault⟩
  obtain ⟨hwritten, hfault⟩ :=
    Writing.writeFiles_of_named hL h (fun _ hpath => absurd hpath List.not_mem_nil) hw
  refine (contains_modify _).bind fun _ => (contains_tellAll _).bind fun _ => ?_
  dsimp only [Writing.run]
  rw [hw]
  cases fault with
  | none => exact contains_pure fun _ _ => hwritten
  | some w =>
    obtain ⟨f, rfl, hkind⟩ := hfault w rfl
    exact contains_throw (by simpa [RunFault.isReported, RunFault.isOfSystem] using hkind)

/-! ### Faults that are told -/

/-- The text is a line about an error, as it comes out on the console: it begins with the label of errors. -/
def IsErrorLine (host : Host) (line : String) : Prop :=
  ∃ message, host.console.line (Console.styled "red" "Error:" ++ " " ++ host.console.escape message)
    = .ok line ∧ "Error:".toList <+: line.toList

/-- What an attempt comes to: the result, or nothing behind a line about an error. -/
def IsAttempted (host : Host) (Q : α → Files.Tree → Prop) : Except RunFault (Option α) × Progress → Prop
  | (.ok (some a), p) => Q a p.tree
  | (.ok none, p) => ∃ before line, p.printed = before ++ line ∧ IsErrorLine host line
  | (.error _, _) => False

/-- **An attempt** ends in no fault, where the run that is attempted ends in none but those that a user is
told of. -/
theorem isAttempted_attempt (hhost : host.console.IsFaithful) (hx : Contains P x Q) {p : Progress}
    (hp : P p.tree) : IsAttempted host Q ((attempt host x).run.run p) := by
  have hend := hx p hp
  rw [attempt, run_tryCatch, run_map]
  generalize x.run.run p = ending at hend ⊢
  rcases ending with ⟨f | a, q⟩
  · obtain ⟨line, hline⟩ := hhost.exists_error f.message
    have hreported : f.isReported = true := hend
    dsimp only
    rw [if_pos hreported, say, hline]
    exact ⟨q.printed, line, rfl, f.message, hline, hhost.error _ _ hline⟩
  · exact hend

end RouteHelpers.CommandLine.Run
