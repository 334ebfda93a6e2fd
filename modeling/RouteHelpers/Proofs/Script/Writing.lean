import RouteHelpers.Json.Writer
import RouteHelpers.Proofs.Script.Declared
import RouteHelpers.Proofs.Tracing

/-!
When a module can be written.

A simple module holds data as JSON: the options for absolute URLs, the default values of parameters, and
the paths as trees. Trees always have a JSON form, so a module comes out where the options and the default
values have one (`exists_generate`). A rich module holds no data and always comes out.
-/

namespace RouteHelpers

/-- A value has a JSON form. -/
def Json.IsWritable (v : Value) : Prop :=
  ∃ text, Json.write .full v = .ok text

namespace Json

theorem isWritable_text (s : String) : IsWritable (.text s) := ⟨_, rfl⟩

theorem isWritable_list {items : List Value} (h : ∀ v ∈ items, IsWritable v) :
    IsWritable (.list items) := by
  obtain ⟨parts, hparts⟩ : ∃ parts, writeItems .full items = .ok parts := by
    induction items with
    | nil => exact ⟨[], by rw [writeItems]⟩
    | cons v items ih =>
      obtain ⟨⟨text, htext⟩, hitems⟩ := List.forall_mem_cons.1 h
      obtain ⟨parts, hparts⟩ := ih hitems
      exact ⟨text :: parts, by rw [writeItems, htext, hparts]; rfl⟩
  exact ⟨_, by rw [write, hparts]; rfl⟩

/-- A mapping from texts has a JSON form if its values have. -/
theorem isWritable_ofTexts {ps : List (String × Value)} (h : ∀ p ∈ ps, IsWritable p.2) :
    IsWritable (.map (Entries.ofTexts ps)) := by
  obtain ⟨parts, hparts⟩ : ∃ parts, writeEntries .full (Entries.ofTexts ps) = .ok parts := by
    induction ps with
    | nil => exact ⟨[], by rw [Entries.ofTexts, List.map_nil, writeEntries]⟩
    | cons p ps ih =>
      obtain ⟨⟨text, htext⟩, hps⟩ := List.forall_mem_cons.1 h
      obtain ⟨parts, hparts⟩ := ih hps
      rw [Entries.ofTexts] at hparts ⊢
      exact ⟨_, by rw [List.map_cons, writeEntries, keyText, Except.ok_bind, htext, hparts]; rfl⟩
  exact ⟨_, by rw [write, hparts]; rfl⟩

end Json

namespace Path

mutual

theorem isWritable_node : ∀ s : Segment, Json.IsWritable (node s)
  | .literal s => by
    rw [node]
    exact Json.isWritable_text s
  | .param name => by
    rw [node]
    exact Json.isWritable_list (by simp [Json.isWritable_text])
  | .glob name => by
    rw [node]
    exact Json.isWritable_list (by simp [Json.isWritable_text])
  | .group children => by
    rw [node]
    refine Json.isWritable_list fun v hv => ?_
    rcases List.mem_pair.1 hv with rfl | rfl
    · exact Json.isWritable_text _
    · exact Json.isWritable_list (isWritable_nodes children)

theorem isWritable_nodes : ∀ ss : List Segment, ∀ v ∈ nodes ss, Json.IsWritable v
  | [] => by
    rw [nodes]
    exact fun v hv => absurd hv List.not_mem_nil
  | s :: rest => by
    rw [nodes]
    exact List.forall_mem_cons.2 ⟨isWritable_node s, isWritable_nodes rest⟩

end

end Path

/-- The default values of a route's optional parameters have a JSON form. -/
def Route.HasWritableDefaults (r : Route) : Prop :=
  ∀ name ∈ r.optional, name ∉ r.required → ∀ v, r.defaults.getText? name = some v → Json.IsWritable v

theorem Route.HasWritableDefaults.parameterTable {r : Route} (h : r.HasWritableDefaults) :
    Json.IsWritable (.map r.parameterTable) := by
  refine Json.isWritable_ofTexts fun p hp => ?_
  rcases List.mem_append.1 hp with hp | hp
  · obtain ⟨name, -, rfl⟩ := List.mem_map.1 hp
    exact Json.isWritable_ofTexts fun p hp => List.mem_singleton.1 hp ▸ ⟨"true", rfl⟩
  · obtain ⟨name, hname, rfl⟩ := List.mem_map.1 hp
    obtain ⟨hname, hfree⟩ := List.mem_filter.1 hname
    refine Json.isWritable_ofTexts fun p hp => ?_
    obtain ⟨v, hv, rfl⟩ := Option.map_eq_some_iff.1 (Option.mem_toList.1 hp)
    exact h name hname (by simpa using hfree) v hv

namespace Script

variable {s : Settings} {routes : List Route}

theorem Simple.exists_declaration {r : Route} (h : r.HasWritableDefaults) (target : Target) :
    ∃ code, Simple.declaration r target = .ok code := by
  obtain ⟨parameters, hparameters⟩ := h.parameterTable
  obtain ⟨tree, htree⟩ := Json.isWritable_list (Path.isWritable_nodes r.segments)
  unfold Simple.declaration
  rw [hparameters, Except.ok_bind, Route.tree, htree]
  exact ⟨_, rfl⟩

theorem Module.exists_simpleParts {r : Route} (h : r.HasWritableDefaults) :
    ∃ parts, (simpleParts s r).outcome = .ok parts := by
  refine Traced.exists_mapEach fun target _ => ?_
  obtain ⟨code, hcode⟩ := Simple.exists_declaration h target
  have hrender : (Simple.render s r target).outcome = .ok (if s.documentation then
      unlines (Simple.documentation r target) ++ "\n" ++ code else code) := by
    rw [Simple.render, Traced.outcome_bind_ok (a := ()) rfl, Traced.outcome_bind, Traced.lift, hcode]
    rfl
  exact ⟨_, by rw [Traced.outcome_bind_ok hrender]; rfl⟩

theorem Module.exists_simple (hurl : Json.IsWritable s.defaultUrlOptions)
    (hroutes : ∀ r ∈ routes, r.HasWritableDefaults) : ∃ m, (simple s routes).outcome = .ok m := by
  obtain ⟨options, hoptions⟩ :
      Json.IsWritable (.map (Entries.ofTexts [("defaultUrlOptions", s.defaultUrlOptions)])) :=
    Json.isWritable_ofTexts fun p hp => List.mem_singleton.1 hp ▸ hurl
  obtain ⟨helpers, hhelpers⟩ := Traced.exists_mapEach (f := simpleParts s) fun r hr =>
    exists_simpleParts (hroutes r hr)
  have hbuilder : (Traced.lift (builderPart s)).outcome
      = .ok ⟨["_builder"], "const _builder = new RouteBuilder(" ++ options ++ ");"⟩ := by
    rw [Traced.lift, builderPart, hoptions]
    rfl
  exact ⟨_, by
    rw [simple, Traced.outcome_bind_ok hbuilder, Traced.outcome_bind_ok hhelpers, Traced.outcome_pure]⟩

/-- **A module comes out** where the data in it has a JSON form. -/
theorem exists_generate
    (h : s.variant = .simple →
      Json.IsWritable s.defaultUrlOptions ∧ ∀ r ∈ routes, r.HasWritableDefaults) :
    ∃ code, (generate s routes).outcome = .ok code := by
  obtain ⟨m, hm⟩ : ∃ m, (Module.ofRoutes s routes).outcome = .ok m := by
    cases hvariant : s.variant with
    | simple =>
      obtain ⟨hurl, hroutes⟩ := h hvariant
      obtain ⟨m, hm⟩ := Module.exists_simple hurl hroutes
      refine ⟨m, ?_⟩
      rw [Module.ofRoutes, Traced.outcome_bind_ok (a := ()) rfl, hvariant]
      exact hm
    | rich => exact ⟨_, Module.outcome_ofRoutes_rich hvariant routes⟩
  exact ⟨_, by rw [generate, Traced.outcome_bind_ok hm, Traced.outcome_pure]⟩

end Script
end RouteHelpers
