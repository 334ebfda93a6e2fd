import RouteHelpers.Proofs.Script.Declared

/-!
What type declarations promise.

A module and its type declarations are generated apart from each other from the same routes. The
declarations promise a value for each constant and function among them (`valueNames`). They have the
helpers in common with what the module exports:

    valueNames (Declaration.ofRoutes s routes) = typedFunctions s ++ helperNames s routes
    m.exported ~ runtimeExports s ++ helperNames s routes

The functions of the runtime are promised whatever the module format is, while rich modules export them
in one format only. In the others the declarations promise more than there is (`mem_valueNames_iff`).
-/

namespace RouteHelpers.Script

variable {s : Settings} {routes : List Route} {m : Module}

namespace Declaration

open Script.Module

/-! ### Names of values -/

/-- The names of the values that are declared. -/
def valueNames (ds : List Declaration) : List String :=
  (ds.filter (·.kind.isValue)).map (·.name)

theorem valueNames_append (ds ds' : List Declaration) :
    valueNames (ds ++ ds') = valueNames ds ++ valueNames ds' := by
  rw [valueNames, List.filter_append, List.map_append]
  rfl

theorem valueNames_flatMap (f : Route → List Declaration) (routes : List Route) :
    valueNames (routes.flatMap f) = routes.flatMap fun r => valueNames (f r) := by
  rw [valueNames, List.filter_flatMap, List.map_flatMap]
  rfl

/-- The declarations of a route's simple helpers are of its targets. -/
theorem valueNames_simple (s : Settings) (r : Route) :
    valueNames (simple r.name r ::
        (if s.urlHelpers && !r.urlName.isEmpty then [simple r.urlName r] else []))
      = (targets s r).map (Simple.name r) := by
  unfold targets
  split <;> rfl

theorem valueNames_rich (s : Settings) (r : Route) : valueNames [rich s r] = [r.name] := by
  unfold rich
  split <;> rfl

/-- The functions of the runtime that are declared. -/
def typedFunctions (s : Settings) : List String :=
  match s.variant with
  | .simple => ["configure"]
  | .rich => ["_buildUrl"] ++ if s.withForms then ["_buildFormAction"] else []

/-- The values that are declared are functions of the runtime and the helpers. -/
theorem valueNames_ofRoutes (s : Settings) (routes : List Route) :
    valueNames (ofRoutes s routes) = typedFunctions s ++ helperNames s routes := by
  unfold ofRoutes typedFunctions
  cases hvariant : s.variant with
  | simple =>
    rw [valueNames_append, valueNames_flatMap, helperNames_simple hvariant]
    simp only [valueNames_simple]
    rfl
  | rich =>
    rw [valueNames_append, valueNames_append, List.map_eq_flatMap, valueNames_flatMap,
      helperNames_rich hvariant, List.map_eq_flatMap]
    simp only [valueNames_rich]
    cases s.withForms <;> rfl

/-- The functions of the runtime that are declared are exported as well, but for the rich variant in a
format other than the first. -/
theorem runtimeExports_eq (s : Settings) :
    runtimeExports s
      = if s.variant = .rich ∧ s.moduleFormat ≠ .esm then [] else typedFunctions s := by
  unfold runtimeExports typedFunctions
  cases s.variant <;> cases s.moduleFormat <;> rfl

/-- **Type declarations promise what there is**: the names of the values that they declare are those
that the module exports, unless a rich module of a format other than `esm` is described. Such a module
exports no function of the runtime, so there a route would have to be called like each of them. -/
theorem mem_valueNames_iff {text : String} (h : (generate s routes).outcome = .ok text) :
    ∃ m, (Module.ofRoutes s routes).outcome = .ok m ∧ text = m.text s.moduleFormat ∧
      (generateTypes s routes : Traced Json.WriteFault String).outcome
        = .ok (unlines header ++ "\n\n" ++ layOut s.moduleFormat (ofRoutes s routes) ++ "\n") ∧
      ((∀ name, name ∈ valueNames (ofRoutes s routes) ↔ name ∈ m.exported) ↔
        (s.variant = .rich → s.moduleFormat ≠ .esm →
          ∀ name ∈ typedFunctions s, ∃ r ∈ routes, r.name = name)) := by
  obtain ⟨m, hm, htext⟩ := Traced.outcome_bind_eq_ok.1 h
  have hexported := (isModuleOf_of_ok hm).exported
  refine ⟨m, hm, (Except.ok.inj htext).symm, rfl, ?_⟩
  -- both sides have the helpers, so what is left to compare are the functions of the runtime
  simp only [valueNames_ofRoutes, hexported.mem_iff, runtimeExports_eq]
  by_cases hmissing : s.variant = .rich ∧ s.moduleFormat ≠ .esm
  · rw [if_pos hmissing, helperNames_rich hmissing.1]
    simp only [List.nil_append, List.mem_append, or_iff_right_iff_imp]
    constructor
    · intro hagree _ _ name hname
      exact List.mem_map.1 (hagree name hname)
    · intro hroutes name hname
      exact List.mem_map.2 (hroutes hmissing.1 hmissing.2 name hname)
  · rw [if_neg hmissing]
    exact iff_of_true (fun _ => Iff.rfl) fun hrich hesm => absurd ⟨hrich, hesm⟩ hmissing

/-- The route of a member of a resource. -/
def userRoute (s : Settings) : Route :=
  Route.ofRecord s.naming ⟨"GET", "/users/:id", some "user", some "show", false, []⟩

theorem mem_valueNames_userRoute :
    ∃ text m, (generate Settings.default [userRoute Settings.default]).outcome = .ok text ∧
      (Module.ofRoutes Settings.default [userRoute Settings.default]).outcome = .ok m ∧
      ∀ name, name ∈ valueNames (ofRoutes Settings.default [userRoute Settings.default]) ↔
        name ∈ m.exported := by
  have hsome :
      (generate Settings.default [userRoute Settings.default]).outcome.toOption.isSome = true := by
    decide +kernel
  obtain ⟨text, h⟩ := Except.exists_eq_ok hsome
  obtain ⟨m, hm, -, -, hagree⟩ := mem_valueNames_iff h
  exact ⟨text, m, h, hm, hagree.2 fun hrich => absurd hrich (by decide)⟩

/-- Settings of rich modules in a format that exports their helpers only. -/
def richCommon : Settings :=
  Configuration.settings { variant := .text "rich", moduleType := .text "cjs" }

theorem not_mem_valueNames_richCommon :
    ∃ m, (Module.ofRoutes richCommon [userRoute richCommon]).outcome = .ok m ∧
      ¬ ∀ name, name ∈ valueNames (ofRoutes richCommon [userRoute richCommon]) ↔
        name ∈ m.exported := by
  have hvariant : richCommon.variant = .rich := by decide +kernel
  refine ⟨_, outcome_ofRoutes_rich hvariant _, fun hagree => ?_⟩
  have hdeclared : "_buildUrl" ∈ valueNames (ofRoutes richCommon [userRoute richCommon]) := by
    decide +kernel
  exact absurd ((hagree "_buildUrl").1 hdeclared) (by decide +kernel)

end Declaration

end RouteHelpers.Script
