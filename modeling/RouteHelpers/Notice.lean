import RouteHelpers.Text.Quoted

/-!
What a run tells its user beside its result.

Each event worth telling is a constructor of `Notice`; its level and its wording are functions of it.
A `Traced` computation carries the notices it made, in order, whether or not it succeeded: what was
told before a failure stays told.
-/

namespace RouteHelpers

/-- How much a notice matters. -/
inductive Level where
  | debug
  | info
  | warning
  deriving DecidableEq, Repr

/-- The word for a level. -/
def Level.name : Level → String
  | debug => "DEBUG"
  | info => "INFO"
  | warning => "WARNING"

/-- An event that a user is told of. -/
inductive Notice where
  /-- A piece of a path has a parenthesis but no group. -/
  | unbalancedGroup (piece : String)
  /-- An option of the rich variant is set for the simple one. -/
  | methodsNeedRich
  /-- Absolute helpers are asked for in the rich variant. -/
  | urlsNeedSimple
  /-- A route entry lacks a path or a verb. -/
  | incompleteEntry (literal : String)
  /-- A route entry has a verb that is none of HTTP. -/
  | unsupportedVerb (verb path : String)
  | withoutHelper (verb path : String)
  | skippedLive (path : String)
  | skippedPut (path : String)
  | renamed (name newName path : String)
  | extracted (count : Nat)
  /-- A parameter is required and occurs in a group as well. -/
  | requiredAndOptional (route param : String)
  /-- A second route of a resource has an action that is taken. -/
  | droppedRoute (resource verb path action taken : String)
  /-- A scope is exported under another name than its own. -/
  | scopeRenamed (scope binding : String)
  | resourceActions (path : String) (count : Nat)
  | generated (files routes : Nat)
  | wrote (path : String)
  | detectedRouter (path : String)
  | mountedEngine (source : String)
  | readRoutes (count : Nat) (path : String)
  | concernNotDefined (name : String)
  | drawnFileNotFound (name path : String)
  deriving DecidableEq, Repr

namespace Notice

/-- The level of a notice. -/
def level : Notice → Level
  | incompleteEntry .. | unsupportedVerb .. | requiredAndOptional .. | droppedRoute ..
  | concernNotDefined .. | drawnFileNotFound .. => .warning
  | scopeRenamed .. => .info
  | _ => .debug

/-- The wording of a notice. -/
def message : Notice → String
  | unbalancedGroup piece =>
    "Unbalanced optional group in " ++ Text.quoted piece ++ ", treating as literal"
  | methodsNeedRich => "with_methods/with_forms only apply to the rich variant"
  | urlsNeedSimple => "url_helpers only apply to the simple variant"
  | incompleteEntry literal => "Skipping route entry without path/verb: " ++ literal
  | unsupportedVerb verb path => "Skipping " ++ verb ++ " " ++ path ++ ": unsupported HTTP verb"
  | withoutHelper verb path => "Skipping " ++ verb ++ " " ++ path ++ ": no helper name"
  | skippedLive path => "Skipping live route " ++ path
  | skippedPut path => "Skipping PUT " ++ path ++ ": same route as PATCH"
  | renamed name newName path =>
    "Renamed duplicate helper " ++ name ++ " -> " ++ newName ++ " (" ++ path ++ ")"
  | extracted count => "Extracted " ++ toString count ++ " routes"
  | requiredAndOptional route param =>
    route ++ ": parameter '" ++ param ++ "' is both required and optional"
  | droppedRoute resource verb path action taken =>
    "Resource " ++ resource ++ ": dropping " ++ verb ++ " " ++ path ++ ", action '" ++ action ++
      "' already taken by " ++ taken
  | scopeRenamed scope binding =>
    "Scope " ++ scope ++ " shares its name with a resource; exported as " ++ binding
  | resourceActions path count => "Resource " ++ path ++ ": " ++ toString count ++ " actions"
  | generated files routes =>
    "Generated " ++ toString files ++ " files for " ++ toString routes ++ " routes"
  | wrote path => "Wrote " ++ path
  | detectedRouter path => "Detected router: " ++ path
  | mountedEngine source => "Skipping mounted engine: " ++ source
  | readRoutes count path => "Read " ++ toString count ++ " routes from " ++ path
  | concernNotDefined name => "Concern '" ++ name ++ "' referenced but not defined"
  | drawnFileNotFound name path =>
    "draw(" ++ name ++ ") referenced but file not found: " ++ path

/-- A notice as a line of a log. -/
def line (n : Notice) : String :=
  n.level.name ++ ": " ++ n.message

end Notice

/-- A result or a failure, with the notices made on the way. -/
structure Traced (ε α : Type) where
  outcome : Except ε α
  notices : List Notice

namespace Traced

variable {ε ε' α β : Type}

/-- Success without notices. -/
def ok (a : α) : Traced ε α :=
  ⟨.ok a, []⟩

/-- Failure without notices. -/
def fail (e : ε) : Traced ε α :=
  ⟨.error e, []⟩

/-- A notice and nothing else. -/
def tell (n : Notice) : Traced ε Unit :=
  ⟨.ok (), [n]⟩

/-- Several notices and nothing else. -/
def tellAll (ns : List Notice) : Traced ε Unit :=
  ⟨.ok (), ns⟩

/-- An outcome without notices. -/
def lift (outcome : Except ε α) : Traced ε α :=
  ⟨outcome, []⟩

/-- One computation after another; a failure ends both and keeps what was told. -/
def andThen (x : Traced ε α) (f : α → Traced ε β) : Traced ε β :=
  match x.outcome with
  | .ok a => ⟨(f a).outcome, x.notices ++ (f a).notices⟩
  | .error e => ⟨.error e, x.notices⟩

instance : Monad (Traced ε) where
  pure := ok
  bind := andThen

/-- A computation with its failure seen as another kind. -/
def mapError (f : ε → ε') (x : Traced ε α) : Traced ε' α :=
  ⟨x.outcome.mapError f, x.notices⟩

/-- The results of a computation for each element, in order, up to the first failure. -/
def mapEach (f : α → Traced ε β) : List α → Traced ε (List β)
  | [] => ok []
  | a :: rest => do
    let b ← f a
    let more ← mapEach f rest
    pure (b :: more)

@[simp] theorem outcome_pure (a : α) : (pure a : Traced ε α).outcome = .ok a := rfl

@[simp] theorem notices_pure (a : α) : (pure a : Traced ε α).notices = [] := rfl

theorem outcome_bind (x : Traced ε α) (f : α → Traced ε β) :
    (x >>= f).outcome = x.outcome >>= fun a => (f a).outcome := by
  show (andThen x f).outcome = _
  unfold andThen
  cases x.outcome <;> rfl

end Traced
end RouteHelpers
