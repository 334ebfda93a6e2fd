import Mathlib.Data.List.Flatten
import RouteHelpers.Generate
import RouteHelpers.Proofs.Extract.Collision

/-!
The names that a module declares.

The helpers of a module share one scope with the code that they call. `runtimeNames` are the names that
this code declares and `helperNames` those of the helpers, and together they are all names at the top
level:

    m.declared = runtimeNames s ++ helperNames s routes

Helpers are told apart from each other when routes are extracted. Nothing tells them apart from the
runtime. Names of the two kinds have different endings, unless names are compact: then a helper is
called what its route is called, which may be any name. So the names of a module differ exactly if no
compact name is one of the runtime (`nodup_declared_iff`).
-/

namespace RouteHelpers.Script

variable {s : Settings} {routes : List Route} {m : Module}

namespace Module

/-! ### Names -/

/-- The names that a module declares at its top level. -/
def declared (m : Module) : List String :=
  m.parts.flatMap (·.declares)

/-- The names that a module exports. -/
def exported (m : Module) : List String :=
  m.exports ++ m.functionExports

/-- The names that the code which helpers call declares. -/
def runtimeNames (s : Settings) : List String :=
  match s.variant with
  | .simple =>
    ["RouteBuilder", "RESERVED_OPTIONS", "isPlainObject", "toParam", "pick", "_builder", "configure"]
  | .rich =>
    ["_buildQueryString", "_buildUrl"] ++ if s.withForms then ["_buildFormAction"] else []

/-- The names of the helpers of a route. -/
def routeNames (s : Settings) (r : Route) : List String :=
  match s.variant with
  | .simple => (targets s r).map (Simple.name r)
  | .rich => [r.name]

/-- The names of the helpers of routes. -/
def helperNames (s : Settings) (routes : List Route) : List String :=
  routes.flatMap (routeNames s)

theorem helperNames_simple (h : s.variant = .simple) (routes : List Route) :
    helperNames s routes = routes.flatMap fun r => (targets s r).map (Simple.name r) :=
  List.flatMap_congr fun r _ => by rw [routeNames, h]

theorem helperNames_rich (h : s.variant = .rich) (routes : List Route) :
    helperNames s routes = routes.map (·.name) := by
  rw [List.map_eq_flatMap]
  exact List.flatMap_congr fun r _ => by rw [routeNames, h]

/-! ### Declarations in the text -/

/-- The keywords that open the declaration of a value. -/
def keywords : List (List Char) :=
  ["class ".toList, "const ".toList, "function ".toList]

/-- The name that a line declares at the top level, where declarations are not indented. -/
def declaredName? (line : List Char) : Option String :=
  keywords.findSome? fun keyword =>
    if keyword.isPrefixOf line then
      some (String.ofList ((line.drop keyword.length).takeWhile isIdentifierChar))
    else none

/-- The names that lines of code declare at the top level. -/
def namesIn (lines : List String) : List String :=
  lines.filterMap fun line => declaredName? line.toList

/-- The text of a part declares the part's names. -/
inductive IsDeclaring : Part → Prop
  /-- Fixed code declares what its lines declare. -/
  | code {names lines : List String} :
      namesIn lines = names → IsDeclaring ⟨names, unlines lines⟩
  /-- A constant may have a comment. -/
  | constant (documented : Bool) (inner : List String) (name value : String) :
      IsDeclaring ⟨[name], unlines ((if documented then comment inner else []) ++
        ["const " ++ name ++ " = " ++ value])⟩

/-- Names are read off the characters of lines. With these at hand, no text has to be taken apart for
it. -/
theorem namesIn_eq {lines : List String} {css : List (List Char)} {names : List String}
    (h : List.Forall₂ (fun line cs => line = String.ofList cs) lines css)
    (hnames : css.filterMap declaredName? = names) : namesIn lines = names := by
  subst hnames
  induction h with
  | nil => rfl
  | @cons line cs lines css hline _ ih =>
    rw [namesIn, List.filterMap_cons, List.filterMap_cons, hline, String.toList_ofList, ← ih]
    rfl

theorem namesIn_runtime :
    namesIn Runtime.routeBuilder
      = ["RouteBuilder", "RESERVED_OPTIONS", "isPlainObject", "toParam", "pick"] ∧
    namesIn Runtime.configure = ["configure"] ∧
    namesIn Runtime.richHelpers = ["_buildQueryString", "_buildUrl"] ∧
    namesIn Runtime.formHelper = ["_buildFormAction"] := by
  dsimp only [Runtime.routeBuilder, Runtime.configure, Runtime.richHelpers, Runtime.formHelper]
  refine ⟨?_, ?_, ?_, ?_⟩
  all_goals
    -- each line is a literal, which is the text of its characters by definition
    apply namesIn_eq
    · repeat' first | exact rfl | exact List.Forall₂.nil | apply List.Forall₂.cons
    · decide +kernel

theorem comment_ne_nil (inner : List String) : comment inner ≠ [] :=
  List.cons_ne_nil _ _

/-- A constant may be declared on several lines. -/
theorem IsDeclaring.constant_lines (documented : Bool) (inner : List String) (name start : String)
    (more : List String) :
    IsDeclaring ⟨[name], unlines ((if documented then comment inner else []) ++
      ("const " ++ name ++ " = " ++ start) :: more)⟩ := by
  have hconst := IsDeclaring.constant documented inner name (unlines (start :: more))
  rw [unlines, unlines, Text.append_joinWith_cons] at hconst
  rw [unlines, Text.joinWith_append "\n" _ (List.cons_ne_nil _ more)]
  exact hconst

theorem isDeclaring_builderPart {builder : Part} (h : builderPart s = .ok builder) :
    builder.declares = ["_builder"] ∧ IsDeclaring builder := by
  obtain ⟨options, -, h⟩ := Except.bind_eq_ok.1 h
  obtain rfl := Except.ok.inj h
  -- the literal is cut where the form of a constant has its name and its value
  have hstart : "const _builder = new RouteBuilder("
      = "const " ++ "_builder" ++ " = " ++ "new RouteBuilder(" := by
    decide +kernel
  have hconst :=
    IsDeclaring.constant false [] "_builder" ("new RouteBuilder(" ++ options ++ ");")
  rw [← String.append_assoc, ← String.append_assoc, ← hstart] at hconst
  exact ⟨rfl, hconst⟩

theorem exists_declaration_eq {r : Route} {target : Target} {code : String}
    (h : Simple.declaration r target = .ok code) :
    ∃ value, code = "const " ++ Simple.name r target ++ " = " ++ value := by
  obtain ⟨parameters, -, h⟩ := Except.bind_eq_ok.1 h
  obtain ⟨tree, -, h⟩ := Except.bind_eq_ok.1 h
  obtain rfl := Except.ok.inj h
  have hstart : " = /*#__PURE__*/ _builder.route(" = " = " ++ "/*#__PURE__*/ _builder.route(" := by
    decide +kernel
  rw [hstart]
  simp only [String.append_assoc]
  exact ⟨_, rfl⟩

/-- A simple helper is one constant. -/
theorem isDeclaring_of_render {r : Route} {target : Target} {text : String}
    (h : (Simple.render s r target).outcome = .ok text) :
    IsDeclaring ⟨[Simple.name r target], text⟩ := by
  obtain ⟨-, -, h⟩ := Traced.outcome_bind_eq_ok.1 h
  obtain ⟨code, hcode, h⟩ := Traced.outcome_bind_eq_ok.1 h
  obtain rfl := Except.ok.inj h
  obtain ⟨value, rfl⟩ := exists_declaration_eq hcode
  unfold Simple.documentation
  cases hdocs : s.documentation with
  | false => exact .constant false [] (Simple.name r target) value
  | true =>
    rw [if_pos rfl, unlines, ← Text.joinWith_concat "\n" (comment_ne_nil _)]
    exact .constant true _ (Simple.name r target) value

/-- A rich helper is one constant. -/
theorem isDeclaring_richPart (s : Settings) (r : Route) : IsDeclaring (richPart s r) := by
  have hstart : " = Object.assign(" = " = " ++ "Object.assign(" := by
    decide +kernel
  rw [richPart, Rich.render, Rich.documentation, hstart, ← String.append_assoc, List.append_assoc,
    List.append_assoc, List.singleton_append]
  exact .constant_lines s.documentation _ r.name "Object.assign(" _

/-! ### The parts of a module -/

/-- The names of the runtime that a module exports. -/
def runtimeExports (s : Settings) : List String :=
  match s.variant with
  | .simple => ["configure"]
  | .rich =>
    if s.moduleFormat == .esm then
      ["_buildUrl"] ++ if s.withForms then ["_buildFormAction"] else []
    else []

/-- What a module declares and exports. -/
structure IsModuleOf (s : Settings) (routes : List Route) (m : Module) : Prop where
  /-- The parts declare what they say. -/
  declaring : ∀ part ∈ m.parts, IsDeclaring part
  /-- The names are those of the runtime and those of the helpers. -/
  declared : m.declared = runtimeNames s ++ helperNames s routes
  /-- Each helper is exported. -/
  exported : m.exported.Perm (runtimeExports s ++ helperNames s routes)

/-- A part of a simple helper declares the helper's name. -/
theorem declaring_of_simplePart {r : Route} {target : Target} {part : Part}
    (h : (do
      let text ← Simple.render s r target
      pure (⟨[Simple.name r target], text⟩ : Part)).outcome = .ok part) :
    IsDeclaring part ∧ part.declares = [Simple.name r target] := by
  obtain ⟨text, htext, h⟩ := Traced.outcome_bind_eq_ok.1 h
  obtain rfl := Except.ok.inj h
  exact ⟨isDeclaring_of_render htext, rfl⟩

theorem declaring_of_simpleParts {r : Route} {parts : List Part}
    (h : (simpleParts s r).outcome = .ok parts) :
    (∀ part ∈ parts, IsDeclaring part) ∧
      parts.flatMap (·.declares) = (targets s r).map (Simple.name r) := by
  constructor
  · intro part hpart
    obtain ⟨target, -, htarget⟩ := Traced.exists_of_mem_mapEach h hpart
    exact (declaring_of_simplePart htarget).1
  · have hnames := Traced.map_of_mapEach (fun _ _ htarget => (declaring_of_simplePart htarget).2) h
    rw [List.flatMap_def, hnames, ← List.flatMap_def, List.map_eq_flatMap]

theorem isModuleOf_simple (hvariant : s.variant = .simple)
    (h : (simple s routes).outcome = .ok m) : IsModuleOf s routes m := by
  obtain ⟨builder, hbuilder, h⟩ := Traced.outcome_bind_eq_ok.1 h
  obtain ⟨helpers, hhelpers, h⟩ := Traced.outcome_bind_eq_ok.1 h
  obtain rfl := Except.ok.inj h
  obtain ⟨hbuildername, hbuilder⟩ := isDeclaring_builderPart hbuilder
  have hhelpernames := helperNames_simple hvariant routes
  have hnames : helpers.flatten.flatMap (·.declares) = helperNames s routes := by
    -- route by route, for a route has its helpers next to each other
    have hmap := Traced.map_of_mapEach (fun _ _ hr => (declaring_of_simpleParts hr).2) hhelpers
    rw [List.flatten_eq_flatMap, List.flatMap_assoc, hhelpernames, List.flatMap_def, List.flatMap_def,
      ← hmap]
    rfl
  constructor
  case declaring =>
    -- three parts are the runtime, and the others are helpers
    obtain ⟨hrouteBuilder, hconfigure, -, -⟩ := namesIn_runtime
    intro part hpart
    rcases List.mem_append.1 hpart with hpart | hpart
    · simp only [List.mem_cons, List.not_mem_nil, or_false] at hpart
      rcases hpart with rfl | rfl | rfl
      · exact .code hrouteBuilder
      · exact hbuilder
      · exact .code hconfigure
    · obtain ⟨parts, hparts, hpart⟩ := List.mem_flatten.1 hpart
      obtain ⟨r, -, hr⟩ := Traced.exists_of_mem_mapEach hhelpers hparts
      exact (declaring_of_simpleParts hr).1 part hpart
  case declared =>
    rw [Module.declared, List.flatMap_append, hnames]
    simp [hbuildername, runtimeNames, hvariant, routeBuilderPart, configurePart]
  case exported =>
    rw [Module.exported, List.append_nil, hhelpernames, runtimeExports, hvariant]
    exact .refl _

theorem isModuleOf_rich (hvariant : s.variant = .rich) : IsModuleOf s routes (rich s routes) := by
  have hhelpernames := helperNames_rich hvariant routes
  constructor
  case declaring =>
    obtain ⟨-, -, hrichHelpers, hformHelper⟩ := namesIn_runtime
    intro part hpart
    rcases List.mem_append.1 hpart with hpart | hpart
    · have hfixed : part = richHelpersPart ∨ part = formHelperPart := by
        cases hforms : s.withForms <;> simp_all
      rcases hfixed with rfl | rfl
      · exact .code hrichHelpers
      · exact .code hformHelper
    · obtain ⟨r, -, rfl⟩ := List.mem_map.1 hpart
      exact isDeclaring_richPart s r
  case declared =>
    have hnames : (routes.map (richPart s)).flatMap (·.declares) = helperNames s routes := by
      rw [List.flatMap_map, hhelpernames, List.map_eq_flatMap]
      rfl
    rw [Module.declared, rich, List.flatMap_append, hnames, runtimeNames, hvariant]
    cases s.withForms <;> rfl
  case exported =>
    rw [Module.exported, hhelpernames, runtimeExports, hvariant]
    exact List.perm_append_comm

/-- Rich modules always come out. -/
theorem outcome_ofRoutes_rich (hvariant : s.variant = .rich) (routes : List Route) :
    (ofRoutes s routes).outcome = .ok (rich s routes) := by
  rw [ofRoutes, Traced.outcome_bind_ok (a := ()) rfl, hvariant]
  cases s.urlHelpers <;> rfl

/-- What comes out is a module of the routes. -/
theorem isModuleOf_of_ok (h : (ofRoutes s routes).outcome = .ok m) : IsModuleOf s routes m := by
  cases hvariant : s.variant with
  | simple =>
    rw [ofRoutes, Traced.outcome_bind_ok (a := ()) rfl, hvariant] at h
    exact isModuleOf_simple hvariant h
  | rich =>
    rw [outcome_ofRoutes_rich hvariant] at h
    obtain rfl := Except.ok.inj h
    exact isModuleOf_rich hvariant

/-! ### Names of the runtime -/

theorem nodup_runtimeNames (s : Settings) : (runtimeNames s).Nodup := by
  unfold runtimeNames
  cases s.variant <;> cases s.withForms <;> decide

theorem runtimeExports_subset (s : Settings) : runtimeExports s ⊆ runtimeNames s := by
  unfold runtimeExports runtimeNames
  cases s.variant <;> cases s.moduleFormat <;> cases s.withForms <;> decide

/-- Names of the runtime do not end like those of helpers, but for the one that builds URLs. -/
theorem endsWith_of_mem_runtimeNames (s : Settings) : ∀ name ∈ runtimeNames s,
    Text.endsWith "ath" name = false ∧ (s.variant = .simple → Text.endsWith "rl" name = false) := by
  unfold runtimeNames
  cases s.variant <;> cases s.withForms <;> decide +kernel

/-- No compact name is one of the runtime. -/
def IsClear (s : Settings) (routes : List Route) : Prop :=
  s.naming.compact = true → ∀ r ∈ routes, r.name ∉ runtimeNames s

/-- The names of a route's helpers: what it is called, and in the simple variant its URL name. -/
theorem routeNames_eq {r : Route} (h : Extract.IsNamed s.naming r) :
    routeNames s r
      = r.name :: if s.variant = .simple ∧ s.urlHelpers = true then [r.urlName] else [] := by
  have hurl : r.urlName.isEmpty = false := by
    rw [String.isEmpty_eq_false_iff, h.names.2]
    exact s.naming.urlName_ne_empty r.helper
  unfold routeNames targets
  cases s.variant <;> cases s.urlHelpers <;> simp [hurl, Simple.name]

theorem routeNames_sublist {r : Route} (h : Extract.IsNamed s.naming r) :
    (routeNames s r).Sublist (Extract.emitted s r) := by
  rw [routeNames_eq h, Extract.emitted]
  cases s.variant <;> cases s.urlHelpers <;> simp

/-- Only a compact name can be one of the runtime. -/
theorem isClear_iff (hnamed : ∀ r ∈ routes, Extract.IsNamed s.naming r) :
    IsClear s routes ↔ ∀ name ∈ helperNames s routes, name ∉ runtimeNames s := by
  constructor
  · intro hclear name hname hruntime
    obtain ⟨r, hr, hname⟩ := List.mem_flatMap.1 hname
    obtain ⟨hpath, hurl⟩ := endsWith_of_mem_runtimeNames s name hruntime
    rw [routeNames_eq (hnamed r hr), List.mem_cons] at hname
    rcases hname with rfl | hname
    · -- a name that is not compact has an ending that no name of the runtime has
      by_cases hcompact : s.naming.compact = true
      · exact hclear hcompact r hr hruntime
      · rw [(hnamed r hr).names.1, Naming.endsWith_pathName (by simpa using hcompact)] at hpath
        cases hpath
    · split at hname
      next hsimple =>
        rw [List.mem_singleton.1 hname, (hnamed r hr).names.2, Naming.endsWith_urlName] at hurl
        cases hurl hsimple.1
      next => cases hname
  · intro h _ r hr
    refine h r.name (List.mem_flatMap.2 ⟨r, hr, ?_⟩)
    rw [routeNames_eq (hnamed r hr)]
    exact List.mem_cons_self

/-- Helpers have different names, as the names that are emitted differ. -/
theorem nodup_helperNames (hnamed : ∀ r ∈ routes, Extract.IsNamed s.naming r)
    (h : (routes.flatMap (Extract.emitted s)).Nodup) : (helperNames s routes).Nodup :=
  h.sublist (List.Sublist.flatMap_right _ fun r hr => routeNames_sublist (hnamed r hr))

/-- Names are declared twice only if a helper is called like something of the runtime. -/
theorem IsModuleOf.nodup_iff (h : IsModuleOf s routes m) (hnodup : (helperNames s routes).Nodup) :
    m.declared.Nodup ↔ ∀ name ∈ helperNames s routes, name ∉ runtimeNames s := by
  rw [h.declared, List.nodup_append']
  constructor
  · rintro ⟨-, -, hdisjoint⟩ name hname hruntime
    exact hdisjoint hruntime hname
  · intro hfree
    exact ⟨nodup_runtimeNames s, hnodup, fun name hruntime hname => hfree name hname hruntime⟩

/-- A name that is exported is declared, and each helper is exported. -/
theorem IsModuleOf.count_iff (h : IsModuleOf s routes m) (hnodup : (helperNames s routes).Nodup) :
    (∀ name ∈ m.exported, m.declared.count name = 1) ↔
      ∀ name ∈ helperNames s routes, name ∉ runtimeNames s := by
  constructor
  · intro hcount name hname hruntime
    have honce := hcount name (h.exported.mem_iff.2 (List.mem_append_right _ hname))
    rw [h.declared, List.count_append] at honce
    -- it is counted once among the helpers, and once more in the runtime
    have hhelper := List.count_pos_iff.2 hname
    have hother := List.count_pos_iff.2 hruntime
    omega
  · intro hfree name hname
    refine List.count_eq_one_of_mem ((h.nodup_iff hnodup).2 hfree) ?_
    rw [h.declared]
    rcases List.mem_append.1 (h.exported.mem_iff.1 hname) with hname | hname
    · exact List.mem_append_left _ (runtimeExports_subset s hname)
    · exact List.mem_append_right _ hname

/-- A text that comes out is that of a module of routes, and the routes' helpers have different names. -/
theorem exists_module_of_script {entries : List Entry} {text : String}
    (h : (Generation.script s entries).outcome = .ok text) :
    ∃ routes m, (Extract.ofEntries s entries).outcome = .ok routes ∧
      (ofRoutes s routes).outcome = .ok m ∧ text = m.text s.moduleFormat ∧ IsModuleOf s routes m ∧
      (helperNames s routes).Nodup ∧
      (IsClear s routes ↔ ∀ name ∈ helperNames s routes, name ∉ runtimeNames s) := by
  obtain ⟨-, -, h⟩ := Traced.outcome_bind_eq_ok.1 h
  obtain ⟨routes, hroutes, h⟩ := Traced.outcome_bind_eq_ok.1 h
  obtain ⟨m, hm, htext⟩ := Traced.outcome_bind_eq_ok.1 (Traced.outcome_mapError_eq_ok.1 h)
  have hroutes := Traced.outcome_mapError_eq_ok.1 hroutes
  obtain ⟨hnamed, hnodup⟩ := Extract.nodup_emitted_of_ok hroutes
  exact ⟨routes, m, hroutes, hm, (Except.ok.inj htext).symm, isModuleOf_of_ok hm,
    nodup_helperNames hnamed hnodup, isClear_iff hnamed⟩

/-- **The names of a module are all different**, and each name that it exports is declared once, exactly
if no compact name is one of the runtime. -/
theorem nodup_declared_iff {entries : List Entry} {text : String}
    (h : (Generation.script s entries).outcome = .ok text) :
    ∃ routes m, (Extract.ofEntries s entries).outcome = .ok routes ∧
      (ofRoutes s routes).outcome = .ok m ∧ text = m.text s.moduleFormat ∧ IsModuleOf s routes m ∧
      (m.declared.Nodup ↔ IsClear s routes) ∧
      ((∀ name ∈ m.exported, m.declared.count name = 1) ↔ IsClear s routes) := by
  obtain ⟨routes, m, hroutes, hm, htext, hmodule, hhelpers, hclear⟩ := exists_module_of_script h
  refine ⟨routes, m, hroutes, hm, htext, hmodule, ?_, ?_⟩
  · rw [hclear, hmodule.nodup_iff hhelpers]
  · rw [hclear, hmodule.count_iff hhelpers]

/-- A route of a resource's member. -/
def userEntry : Entry :=
  .record ⟨"GET", "/users/:id", some "user", some "show", false, []⟩

theorem nodup_declared_userEntry :
    ∃ text routes m, (Generation.script Settings.default [userEntry]).outcome = .ok text ∧
      (Extract.ofEntries Settings.default [userEntry]).outcome = .ok routes ∧
      (ofRoutes Settings.default routes).outcome = .ok m ∧
      m.declared.Nodup ∧ ∀ name ∈ m.exported, m.declared.count name = 1 := by
  have hsome : (Generation.script Settings.default [userEntry]).outcome.toOption.isSome = true := by
    decide +kernel
  obtain ⟨text, h⟩ := Except.exists_eq_ok hsome
  obtain ⟨routes, m, hroutes, hm, -, -, hnodup, hcount⟩ := nodup_declared_iff h
  have hclear : IsClear Settings.default routes := fun hcompact => absurd hcompact (by decide)
  exact ⟨text, routes, m, h, hroutes, hm, hnodup.2 hclear, hcount.2 hclear⟩

/-- Settings with compact names. -/
def compactNames : Settings :=
  Configuration.settings { compact := .bool true }

/-- A route with the name of a function of the runtime. -/
def configureEntry : Entry :=
  .record ⟨"GET", "/configure", some "configure", none, false, []⟩

theorem not_nodup_declared_configureEntry :
    ∃ text routes m, (Generation.script compactNames [configureEntry]).outcome = .ok text ∧
      (Extract.ofEntries compactNames [configureEntry]).outcome = .ok routes ∧
      (ofRoutes compactNames routes).outcome = .ok m ∧
      ¬ m.declared.Nodup ∧ ∃ name ∈ m.exported, m.declared.count name ≠ 1 := by
  have hsome : (Generation.script compactNames [configureEntry]).outcome.toOption.isSome = true := by
    decide +kernel
  obtain ⟨text, h⟩ := Except.exists_eq_ok hsome
  obtain ⟨routes, m, hroutes, hm, -, hmodule, hhelpers, hclear⟩ := exists_module_of_script h
  have hnames : (Extract.ofEntries compactNames [configureEntry]).outcome.toOption.map
      (fun routes => routes.map (·.name)) = some ["configure"] := by
    decide +kernel
  rw [hroutes] at hnames
  have hname : routes.map (·.name) = ["configure"] := Option.some.inj hnames
  have hnot : ¬ ∀ name ∈ helperNames compactNames routes, name ∉ runtimeNames compactNames := by
    -- the only route is called like a function of the runtime
    rw [← hclear]
    intro hfree
    obtain ⟨r, hr, hconfigure⟩ := List.mem_map.1 (hname ▸ List.mem_singleton_self "configure")
    refine hfree (by decide) r hr ?_
    rw [hconfigure]
    decide +kernel
  refine ⟨text, routes, m, h, hroutes, hm, ?_, ?_⟩
  · rwa [hmodule.nodup_iff hhelpers]
  · rw [← hmodule.count_iff hhelpers] at hnot
    simpa only [not_forall, exists_prop] using hnot

end Module
end RouteHelpers.Script
