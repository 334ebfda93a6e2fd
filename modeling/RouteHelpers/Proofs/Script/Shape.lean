import Mathlib.Data.List.Forall2
import RouteHelpers.Proofs.Script.Arguments

/-!
Rich helpers and their types have one shape.

The code of a rich helper and the type that is declared for it are made apart from each other, from the
verb of the route and the options. Both are lists of members around a function, and a member can have
variants that are functions. The members of the code are those of the type, with the arguments of the
helper:

    members s r = (richMembers s r).map (memberOf r)

What is left is that each function goes together with its type (`IsTypedBy`): the names of arguments that
are read off the two texts are the same, and so is the method. A type is a text around the signature of
the helper and what is returned, wherever it stands (`isTypedBy_function`).
-/

namespace RouteHelpers.Script

open Rich Declaration

variable {s : Settings} {r : Route}

/-! ### Members -/

/-- The member of a helper for one of its type. -/
def memberOf (r : Route) (m : Member) : RichMember :=
  ⟨m.name, function r m.returned, m.variants.map fun v => (v.1, function r v.2)⟩

/-- **The members of a helper are those of its type**, in order. -/
theorem members_eq (s : Settings) (r : Route) :
    members s r = (richMembers s r).map (memberOf r) := by
  unfold members richMembers methodMembers Verb.isMutation
  cases s.withMethods <;> cases s.withForms <;> cases Verb.mutations.contains r.verb <;>
    simp [formMember, formMethods, memberOf]

/-- The names that members can have. -/
def memberNames : List String :=
  ["url", "get", "head", "post", "patch", "put", "delete", "form"]

/-- The method of a verb that changes something is one of the names. -/
theorem method_mem_memberNames (h : Verb.mutations.contains r.verb = true) :
    r.method ∈ memberNames := by
  have hverbs : ∀ verb ∈ Verb.mutations, Text.lower verb ∈ memberNames := by decide +kernel
  exact hverbs r.verb (List.contains_iff_mem.1 h)

/-- Members have fixed names, and so have their variants. -/
theorem name_mem_memberNames {m : Member} (h : m ∈ richMembers s r) :
    m.name ∈ memberNames ∧ ∀ v ∈ m.variants, v.1 ∈ memberNames := by
  have hplain {name : String} (hname : name ∈ memberNames) :
      name ∈ memberNames ∧ ∀ v ∈ ([] : List (String × Returned)), v.1 ∈ memberNames :=
    ⟨hname, fun v hv => absurd hv List.not_mem_nil⟩
  rcases List.mem_append.1 h with h | h
  · split at h
    · rcases List.mem_append.1 h with h | h
      · simp only [List.mem_cons, List.not_mem_nil, or_false] at h
        rcases h with rfl | rfl | rfl <;> exact hplain (by decide)
      · split at h
        next hverb =>
          obtain rfl := List.mem_singleton.1 h
          exact hplain (method_mem_memberNames hverb)
        next => cases h
    · cases h
  · split at h
    · obtain rfl := List.mem_singleton.1 h
      exact ⟨by simp [memberNames], by simp [memberNames]⟩
    · cases h

theorem isArgumentName_of_mem {name : String} (h : name ∈ memberNames) : IsArgumentName name :=
  (by decide : ∀ name ∈ memberNames, IsArgumentName name) name h

/-! ### Functions and their types -/

/-- The code of a function goes together with a type. -/
structure IsTypedBy (r : Route) (f : RichFunction) (declared : Returned) (type : String) : Prop where
  /-- The names of arguments are those that the type tells, in order. -/
  arguments : (functionLines r f).head?.map parameterNames = some (parameterNames type)
  /-- They are those of the helper. -/
  args : parameterNames type = f.args
  returned : f.returned = declared
  /-- The method that is returned with a URL is the one in the type. -/
  method : ∀ method, declared = .route method →
    "    method: " ++ doubleQuoted method ++ "," ∈ functionLines r f ∧
      ("RouteResult<'" ++ method ++ "'>").toList <:+: type.toList

theorem head?_functionLines (r : Route) (f : RichFunction) :
    (functionLines r f).head? = some ("function(" ++ Text.joinWith ", " f.args ++ ") \x7b") := by
  unfold functionLines
  cases f.returned <;> rfl

/-- The code of a function tells the names of its arguments in its first line. -/
theorem parameterNames_functionLines (r : Route) (returned : Returned) :
    (functionLines r (function r returned)).head?.map parameterNames = some (Rich.args r) := by
  have hhead : "function(" = "function" ++ "(" := rfl
  have hend : ") \x7b" = ")" ++ " \x7b" := rfl
  rw [head?_functionLines, Option.map_some, hhead, hend, ← String.append_assoc, function,
    parameterNames_head (by decide)]

/-- **A function goes together with each type** that has the signature of the helper and what it
returns. -/
theorem isTypedBy_function {start : String} (hstart : ')' ∉ start.toList) (arrow rest : String)
    (returned : Returned) :
    IsTypedBy r (function r returned) returned
      (start ++ "(" ++ signature r ++ ")" ++ (arrow ++ returnType returned ++ rest)) where
  arguments := by
    rw [parameterNames_functionLines, parameterNames_signature hstart]
    rfl
  args := parameterNames_signature hstart _
  returned := rfl
  method := by
    rintro method rfl
    refine ⟨by simp [functionLines, function],
      (start ++ "(" ++ signature r ++ ")" ++ arrow).toList, rest.toList, ?_⟩
    simp only [returnType, String.toList_append, List.append_assoc]

theorem isTypedBy_methodText {name : String} (hname : IsArgumentName name) (returned : Returned) :
    IsTypedBy r (function r returned) returned (methodText r name returned) := by
  have htyped := isTypedBy_function (r := r) (hname.not_mem (c := ')') (by decide)) ": " ";" returned
  have hend : "): " = ")" ++ ": " := rfl
  rw [methodText, hend]
  simpa only [String.append_assoc] using htyped

/-- What is in front of the type of a function is not read. -/
theorem isTypedBy_functionType {start : String} (hstart : ')' ∉ start.toList) (returned : Returned)
    (rest : String) :
    IsTypedBy r (function r returned) returned (start ++ functionType r returned ++ rest) := by
  have hopening : ')' ∉ (start ++ "(").toList := by
    rw [String.toList_append, List.mem_append, not_or]
    exact ⟨hstart, by decide⟩
  have htyped := isTypedBy_function (r := r) hopening " => " (")" ++ rest) returned
  have htwo : "((" = "(" ++ "(" := rfl
  have hend : ") => " = ")" ++ " => " := rfl
  rw [functionType, htwo, hend]
  simpa only [String.append_assoc] using htyped

/-! ### Members and their types -/

/-- Code and type start with the same name. -/
def IsNamedBy (code : List String) (type : String) : Prop :=
  code.head?.map leadingName = some (leadingName type)

/-- A member goes together with one of the type: in its name, its function and its variants. -/
structure IsMemberTypedBy (r : Route) (m : RichMember) (t : Member) : Prop where
  name : m.name = t.name
  named : IsNamedBy (memberLines r m) (memberText r t)
  function : IsTypedBy r m.function t.returned (memberText r t)
  variants : List.Forall₂ (fun v w => v.1 = w.1 ∧
    IsNamedBy (startWith (v.1 ++ ": ") (functionLines r v.2)) (methodText r w.1 w.2) ∧
    IsTypedBy r v.2 w.2 (methodText r w.1 w.2)) m.variants t.variants

theorem leadingName_methodText {name : String} (hname : IsArgumentName name) (returned : Returned) :
    leadingName (methodText r name returned) = name := by
  rw [methodText, String.append_assoc, String.append_assoc, String.append_assoc, String.append_assoc]
  refine hname.leadingName_append fun c hc => ?_
  obtain rfl : c = '(' := by simpa using hc.symm
  decide

theorem leadingName_colon {name : String} (hname : IsArgumentName name) (rest : String) :
    leadingName (name ++ ": " ++ rest) = name := by
  rw [String.append_assoc]
  refine hname.leadingName_append fun c hc => ?_
  obtain rfl : c = ':' := by simpa using hc.symm
  decide

theorem isNamedBy_methodText {name : String} (hname : IsArgumentName name) (f : RichFunction)
    (returned : Returned) :
    IsNamedBy (startWith (name ++ ": ") (functionLines r f)) (methodText r name returned) := by
  have hhead : (startWith (name ++ ": ") (functionLines r f)).head?
      = (functionLines r f).head?.map (name ++ ": " ++ ·) := by
    cases functionLines r f <;> rfl
  rw [IsNamedBy, hhead, head?_functionLines, leadingName_methodText hname, Option.map_some,
    Option.map_some, leadingName_colon hname]

theorem isMemberTypedBy_memberOf {t : Member} (hname : IsArgumentName t.name)
    (hvariants : ∀ v ∈ t.variants, IsArgumentName v.1) :
    IsMemberTypedBy r (memberOf r t) t where
  name := rfl
  named := by
    unfold memberLines memberText
    cases hnone : t.variants with
    | nil =>
      -- without variants both are one function, and with them an object of functions
      simp only [memberOf, hnone, List.map_nil, List.isEmpty_nil, if_true]
      exact isNamedBy_methodText hname _ _
    | cons v vs =>
      simp only [memberOf, hnone, List.map_cons, List.isEmpty_cons, Bool.false_eq_true, if_false]
      have hassign : t.name ++ ": Object.assign(" = t.name ++ ": " ++ "Object.assign(" := by
        rw [String.append_assoc]
        rfl
      rw [IsNamedBy, List.cons_append, List.cons_append, List.head?_cons, Option.map_some, hassign,
        leadingName_colon hname]
      simp only [String.append_assoc]
      rw [← String.append_assoc, leadingName_colon hname]
  function := by
    unfold memberText
    split
    · exact isTypedBy_methodText hname _
    · have hstart : ')' ∉ (t.name ++ ": ").toList := by
        rw [String.toList_append, List.mem_append, not_or]
        exact ⟨hname.not_mem (by decide), by decide⟩
      simp only [String.append_assoc]
      rw [← String.append_assoc, ← String.append_assoc]
      exact isTypedBy_functionType hstart _ _
  variants := by
    rw [memberOf, List.forall₂_map_left_iff, List.forall₂_same]
    exact fun v hv => ⟨rfl, isNamedBy_methodText (hvariants v hv) _ _,
      isTypedBy_methodText (hvariants v hv) _⟩

/-! ### The whole helper -/

/-- The object with the members of a helper, given their lines. -/
def attachedLines : List (List String) → List String
  | [] => ["  \x7b\x7d"]
  | block :: blocks =>
    ["  \x7b"] ++ (block :: blocks).flatMap (fun lines => indent 2 (endWith "," lines)) ++ ["  \x7d"]

/-- The type of a function with the given members. -/
def typeWith (call : String) : List String → String
  | [] => call
  | member :: members =>
    call ++ " & \x7b\n" ++ unlines ((member :: members).map ("  " ++ ·)) ++ "\n\x7d"

/-- The code of a helper and its type are made of functions and members that go together. -/
structure HasOneShape (s : Settings) (r : Route) : Prop where
  /-- The code is that of a function and of the members. -/
  code : render s r = unlines ((if s.documentation then documentation r else []) ++
    ["const " ++ r.name ++ " = Object.assign("] ++
    assignLines (functionLines r (function r (.route r.method)))
      (attachedLines ((members s r).map (memberLines r))) ++ [");"])
  /-- So is the type. -/
  type : (rich s r).text = r.name ++ ": " ++
    typeWith (functionType r (.route r.method)) ((richMembers s r).map (memberText r)) ++ ";"
  function : IsTypedBy r (function r (.route r.method)) (.route r.method)
    (functionType r (.route r.method))
  members : List.Forall₂ (IsMemberTypedBy r) (members s r) (richMembers s r)

/-- **A rich helper and its type have one shape**, whatever the verb and the parameters of the route are:
the same members in the same order with the same variants, and at each place the same arguments and the
same method. -/
theorem hasOneShape (s : Settings) (r : Route) : HasOneShape s r where
  code := by
    -- without members an empty object is attached, as is the case of `attachedLines`
    unfold render
    cases members s r with
    | nil => rfl
    | cons m ms =>
      have hblocks : ((m :: ms).map (memberLines r)).flatMap (fun lines => indent 2 (endWith "," lines))
          = (m :: ms).flatMap fun m => indent 2 (endWith "," (memberLines r m)) :=
        List.flatMap_map _ _ _
      rw [List.map_cons] at hblocks
      rw [List.map_cons, attachedLines, hblocks]
  type := by
    unfold rich
    cases richMembers s r with
    | nil => simp only [text, List.map_nil, typeWith, String.append_assoc]
    | cons m ms =>
      have hend : "\n\x7d;" = "\n\x7d" ++ ";" := rfl
      simp only [text, List.map_cons, List.map_map, typeWith, hend, String.append_assoc]
      rfl
  function := by
    have hstart : ')' ∉ "".toList := by decide
    have htyped := isTypedBy_functionType (r := r) hstart (.route r.method) ""
    rwa [String.empty_append, String.append_empty] at htyped
  members := by
    rw [members_eq, List.forall₂_map_left_iff, List.forall₂_same]
    intro m hm
    obtain ⟨hname, hvariants⟩ := name_mem_memberNames hm
    exact isMemberTypedBy_memberOf (isArgumentName_of_mem hname) fun v hv =>
      isArgumentName_of_mem (hvariants v hv)

end RouteHelpers.Script
