import RouteHelpers.Proofs.RouteFile.Call
import RouteHelpers.Proofs.Tracing

/-!
What a call spells out.

The arguments of a call give it a name and options. A name, and a text that a path or a helper's name
is made from, is the value of a node that stands among the arguments (`spelledBy_ofNodes`): of a text
or a symbol, of the text in front of an arrow, or of what an option is set to.
-/

namespace RouteHelpers.RouteFile

namespace Arguments

/-- What holds of an option's text, of the text that stands for it and of the empty text, holds of what
the option comes to. -/
theorem textOr_induction {P : String → Prop} {a : Arguments} {key default : String}
    (htext : ∀ v, a.text? key = some (some v) → P v) (hdefault : P default) (hempty : P "") :
    P (a.textOr key default) := by
  unfold textOr
  rcases h : a.text? key with - | - | v
  · exact hdefault
  · exact hempty
  · exact htext v h

theorem mem_texts_of_text? {a : Arguments} {key : String} {value : Option String}
    (h : a.text? key = some value) : (key, value) ∈ a.texts := by
  obtain ⟨o, ho, rfl⟩ := Option.map_eq_some_iff.1 h
  have hkey := List.find?_some ho
  obtain rfl : o.1 = key := eq_of_beq hkey
  exact List.mem_reverse.1 (List.mem_of_find?_eq_some ho)

/-- An option leaves the name, and is added with the value of its node. -/
theorem addOption_eq_ok {a b : Arguments} {key : String} {value : Node}
    (h : a.addOption key value = .ok b) :
    b.name = a.name ∧ ∀ k v, (k, some v) ∈ b.texts →
      (k, some v) ∈ a.texts ∨ k = key ∧ value.isNil = false ∧ value.value = .ok v := by
  unfold addOption at h
  split at h
  · obtain ⟨elements, -, rfl⟩ := Except.map_eq_ok.1 h
    exact ⟨rfl, fun k v hmem => .inl hmem⟩
  · split at h
    · cases h
      exact ⟨rfl, fun k v hmem => .inl (by simpa using hmem)⟩
    next hnil =>
      obtain ⟨text, htext, rfl⟩ := Except.map_eq_ok.1 h
      refine ⟨rfl, fun k v hmem => ?_⟩
      rcases List.mem_append.1 hmem with hmem | hmem
      · exact .inl hmem
      · obtain ⟨rfl, hv⟩ := Prod.mk.inj (List.mem_singleton.1 hmem)
        obtain rfl := Option.some.inj hv
        exact .inr ⟨rfl, by simpa using hnil, htext⟩

end Arguments

/-! ### Texts that paths and names are made from -/

/-- The options whose texts paths and names are made from. -/
def partKeys : List String := ["path", "as", "param"]

/-- A call spells a text out: as a text or a symbol among its arguments, as the text in front of an
arrow, or as what one of the options for parts is set to. An option that is set to any other expression
has the text of that expression for its value. -/
inductive Call.Spells (c : Call) : String → Prop
  | positional {n : Node} {v : String} : n ∈ c.args → (n.isSymbol || n.isString) = true →
      n.value = .ok v → Spells c v
  | key {p k x : Node} {v : String} : p ∈ c.args.flatMap Node.pairs → p.keyValue? = some (k, x) →
      k.isString = true → k.value = .ok v → Spells c v
  | option {p k x : Node} {key v : String} : p ∈ c.args.flatMap Node.pairs →
      p.keyValue? = some (k, x) → k.value = .ok key → key ∈ partKeys → x.isNil = false →
      x.value = .ok v → Spells c v

/-- The name and the parts among arguments are spelled out by a call. -/
structure Arguments.SpelledBy (a : Arguments) (c : Call) : Prop where
  name {v : String} : a.name = some v → c.Spells v
  texts {key v : String} : key ∈ partKeys → (key, some v) ∈ a.texts → c.Spells v

namespace Arguments

variable {a b : Arguments} {c : Call}

theorem SpelledBy.text? (h : a.SpelledBy c) {key v : String} (hkey : key ∈ partKeys)
    (hv : a.text? key = some (some v)) : c.Spells v :=
  h.texts hkey (mem_texts_of_text? hv)

theorem SpelledBy.addOption (h : a.SpelledBy c) {key : String} {value : Node}
    (hvalue : ∀ v, key ∈ partKeys → value.isNil = false → value.value = .ok v → c.Spells v)
    (hb : a.addOption key value = .ok b) : b.SpelledBy c := by
  obtain ⟨hname, htexts⟩ := addOption_eq_ok hb
  refine ⟨fun hv => h.name (hname ▸ hv), fun {k v} hk hmem => ?_⟩
  rcases htexts k v hmem with hold | ⟨rfl, hnil, hv⟩
  · exact h.texts hk hold
  · exact hvalue v hk hnil hv

/-- A pair in which a name was not given yet names the call by its key; what it is set to is a target
and no part. -/
theorem SpelledBy.addPair (h : a.SpelledBy c) {p : Node} (hp : p ∈ c.args.flatMap Node.pairs)
    (hb : a.addPair p = .ok b) : b.SpelledBy c := by
  unfold Arguments.addPair at hb
  split at hb
  · cases hb
    exact h
  next k x hkv =>
    obtain ⟨key, hkey, hb⟩ := Except.bind_eq_ok.1 hb
    split at hb
    next hnamed =>
      -- a target is no part, so what the key is set to need not be spelled out
      have hstring : k.isString = true := (Bool.and_eq_true_iff.1 hnamed).1
      have hkeyed : SpelledBy { a with name := some key } c :=
        ⟨fun hv => Option.some.inj hv ▸ .key hp hkv hstring hkey, h.texts⟩
      exact hkeyed.addOption (fun v hto => absurd hto (by decide)) hb
    next => exact h.addOption (fun v hpart hnil hv => .option hp hkv hkey hpart hnil hv) hb

/-- **The name and the parts** that a reader takes from arguments are spelled out among them. -/
theorem spelledBy_ofNodes (h : ofNodes c.args = .ok a) : a.SpelledBy c := by
  obtain ⟨name, hname, hfold⟩ := Except.bind_eq_ok.1 h
  refine Except.foldlM_preserves (P := (SpelledBy · c)) (fun _ p hp _ hb => hb.addPair hp) ?_ hfold
  refine ⟨fun {v} hv => ?_, fun _ hmem => absurd hmem List.not_mem_nil⟩
  obtain rfl : name = some v := hv
  rcases hfind : c.args.find? fun n => n.isSymbol || n.isString with - | n
  · rw [hfind] at hname
    cases hname
  · rw [hfind] at hname
    obtain ⟨text, htext, hsome⟩ := Except.map_eq_ok.1 hname
    obtain rfl := Option.some.inj hsome
    have hkind := List.find?_some hfind
    exact .positional (List.mem_of_find?_eq_some hfind) hkind htext

end Arguments
end RouteHelpers.RouteFile
