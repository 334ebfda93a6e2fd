import RouteHelpers.Proofs.Script.SafeName
import RouteHelpers.Proofs.Text.Cutting
import RouteHelpers.Script.Rich
import RouteHelpers.Script.Types

/-!
The names of arguments, read off the text of functions and of their types.

A list of arguments is a text: `id, options` in code, `id: RouteParam, options?: RouteOptions` in a
type. The names are what its pieces start with (`argumentNames`), and the list of a function is what
stands in the innermost parentheses before the first that closes (`parameterNames`). Neither looks at how
the text was made.

Arguments are made of safe names. These have no characters but those of identifiers, so no comma and no
parenthesis, and the names are read back as they were written (`argumentNames_joinWith`). Code and types
tell the same names then: `parameterNames_head` is about the one and `parameterNames_signature` about
the other.
-/

namespace RouteHelpers.Script

/-! ### Reading -/

/-- The name that a text starts with, behind blanks. -/
def leadingName (text : String) : String :=
  String.ofList ((text.toList.dropWhile (· == ' ')).takeWhile isIdentifierChar)

/-- The names of the arguments in a list of them. -/
def argumentNames (text : String) : List String :=
  (Text.split ',' text).map leadingName

/-- What stands in the innermost parentheses before the first that closes. -/
def parenthesized (text : String) : String :=
  let before := text.toList.takeWhile (· != ')')
  String.ofList (before.reverse.takeWhile (· != '(')).reverse

/-- The names of the arguments of the first function in a text. -/
def parameterNames (text : String) : List String :=
  argumentNames (parenthesized text)

theorem parenthesized_append {start inside : String} (hstart : ')' ∉ start.toList)
    (hopening : '(' ∉ inside.toList) (hclosing : ')' ∉ inside.toList) (rest : String) :
    parenthesized (start ++ "(" ++ inside ++ ")" ++ rest) = inside := by
  have hlist : (start ++ "(" ++ inside ++ ")" ++ rest).toList
      = (start.toList ++ '(' :: inside.toList) ++ ')' :: rest.toList := by
    simp
  have hbefore : ∀ c ∈ start.toList ++ '(' :: inside.toList, (c != ')') = true := by
    intro c hc
    rw [bne_iff_ne]
    rintro rfl
    rcases List.mem_append.1 hc with hc | hc
    · exact hstart hc
    · exact (List.mem_cons.1 hc).elim (by decide) hclosing
  have hinside : ∀ c ∈ inside.toList.reverse, (c != '(') = true := by
    intro c hc
    rw [bne_iff_ne]
    rintro rfl
    exact hopening (List.mem_reverse.1 hc)
  -- what is read in front of the first closing one is read again from its end to the last opening one
  simp only [parenthesized]
  rw [hlist, List.takeWhile_append_of_pos hbefore, List.takeWhile_cons_of_neg (by decide),
    List.append_nil, List.reverse_append, List.reverse_cons, List.append_assoc,
    List.takeWhile_append_of_pos hinside, List.singleton_append,
    List.takeWhile_cons_of_neg (by decide), List.append_nil, List.reverse_reverse,
    String.ofList_toList]

/-! ### Names -/

/-- A text of the characters of identifiers, with at least one. -/
structure IsArgumentName (name : String) : Prop where
  nonempty : name ≠ ""
  isIdentifierChar : ∀ c ∈ name.toList, isIdentifierChar c = true

instance (name : String) : Decidable (IsArgumentName name) :=
  decidable_of_iff (name ≠ "" ∧ name.toList.all isIdentifierChar = true)
    ⟨fun ⟨h₁, h₂⟩ => ⟨h₁, List.all_eq_true.1 h₂⟩, fun ⟨h₁, h₂⟩ => ⟨h₁, List.all_eq_true.2 h₂⟩⟩

namespace IsArgumentName

variable {name : String}

theorem not_mem (h : IsArgumentName name) {c : Char} (hc : Script.isIdentifierChar c = false) :
    c ∉ name.toList :=
  fun hmem => Bool.false_ne_true (hc.symm.trans (h.isIdentifierChar c hmem))

/-- A name is what it and other characters start with. -/
theorem leadingName_append (h : IsArgumentName name) {rest : String}
    (hrest : ∀ c, rest.toList.head? = some c → Script.isIdentifierChar c = false) :
    leadingName (name ++ rest) = name := by
  have hfirst : (name.toList ++ rest.toList).dropWhile (· == ' ')
      = name.toList ++ rest.toList := by
    rcases hname : name.toList with - | ⟨c, cs⟩
    · exact absurd (String.toList_eq_nil_iff.1 hname) h.nonempty
    · have hc : c ∈ name.toList := hname ▸ List.mem_cons_self
      rw [List.cons_append, List.dropWhile_cons_of_neg]
      rw [beq_iff_eq]
      rintro rfl
      exact absurd (h.isIdentifierChar _ hc) (by decide)
  have hend : rest.toList.takeWhile Script.isIdentifierChar = [] := by
    rcases hlist : rest.toList with - | ⟨c, cs⟩
    · rfl
    · exact List.takeWhile_cons_of_neg (by simp [hrest c (by rw [hlist]; rfl)])
  rw [leadingName, String.toList_append, hfirst, List.takeWhile_append_of_pos h.isIdentifierChar,
    hend, List.append_nil, String.ofList_toList]

theorem options : IsArgumentName "options" := by decide

/-- A name that is made safe has no other characters left. -/
theorem safeName (name : String) : IsArgumentName (safeName name) := by
  have hunderscore : Script.isIdentifierChar '_' = true := by decide
  have hstart : ∀ cs : List Char, (∀ c ∈ cs, Script.isIdentifierChar c = true) →
      safeStart cs ≠ [] ∧ ∀ c ∈ safeStart cs, Script.isIdentifierChar c = true := by
    intro cs hcs
    unfold safeStart
    split
    · exact ⟨List.cons_ne_nil _ _, by simpa using hunderscore⟩
    · split
      · exact ⟨List.cons_ne_nil _ _, List.forall_mem_cons.2 ⟨hunderscore, hcs⟩⟩
      · exact ⟨List.cons_ne_nil _ _, hcs⟩
  -- what stands for the characters of the name is safe, and so is what is put around it
  obtain ⟨hne, hall⟩ := hstart _ (forall_mem_map_identifierChar name.toList)
  simp only [Script.safeName]
  split
  · refine ⟨fun h => ?_, fun c hc => ?_⟩
    · exact absurd (congrArg String.toList h) (by simp)
    · rw [String.toList_append, String.toList_ofList, List.mem_append] at hc
      exact hc.elim (hall c) fun hc => by simp_all
  · refine ⟨fun h => hne ?_, fun c hc => ?_⟩
    · rw [← String.toList_ofList (l := safeStart _), h, String.toList_empty]
    · rw [String.toList_ofList] at hc
      exact hall c hc

end IsArgumentName

/-! ### Lists of arguments -/

/-- The first argument is read apart from the others. -/
theorem argumentNames_append {first : String} (hfirst : ',' ∉ first.toList) (rest : String) :
    argumentNames (first ++ ", " ++ rest) = leadingName first :: argumentNames rest := by
  have hsplit : Text.split ',' (first ++ ", " ++ rest)
      = first :: Text.split ',' (" " ++ rest) := by
    have hcomma : ", " = String.singleton ',' ++ " " := rfl
    rw [hcomma, ← String.append_assoc, String.append_assoc, Text.split_append_sep,
      Text.split_of_not_mem hfirst]
    rfl
  -- the blank behind a comma belongs to the next piece, where it is passed over
  have hblank : (Text.split ',' (" " ++ rest)).map leadingName = argumentNames rest := by
    rcases hpieces : Text.splitList ',' rest.toList with - | ⟨piece, pieces⟩
    · exact absurd hpieces (Text.splitList_ne_nil _ _)
    · have hcons : Text.splitList ',' (" " ++ rest).toList = (' ' :: piece) :: pieces := by
        rw [String.toList_append]
        show Text.splitList ',' (' ' :: rest.toList) = _
        rw [Text.splitList, hpieces]
        rfl
      have hpiece : leadingName (String.ofList (' ' :: piece))
          = leadingName (String.ofList piece) := by
        rw [leadingName, leadingName, String.toList_ofList, String.toList_ofList]
        rfl
      rw [argumentNames, Text.split, Text.split, hcons, hpieces, List.map_cons, List.map_cons,
        List.map_cons, List.map_cons, hpiece]
  rw [argumentNames, hsplit, List.map_cons, hblank]

/-- What follows the name of an argument: it has no comma and cannot be taken for more of the name. -/
structure IsArgumentTail (text : String) : Prop where
  no_comma : ',' ∉ text.toList
  first : ∀ c, text.toList.head? = some c → isIdentifierChar c = false

namespace IsArgumentTail

theorem empty : IsArgumentTail "" where
  no_comma := by decide
  first := nofun

theorem routeParam : IsArgumentTail ": RouteParam" where
  no_comma := by decide
  first c hc := by
    obtain rfl : c = ':' := by simpa using hc.symm
    decide

theorem routeOptions : IsArgumentTail "?: RouteOptions" where
  no_comma := by decide
  first c hc := by
    obtain rfl : c = '?' := by simpa using hc.symm
    decide

/-- An argument has no comma. -/
theorem not_mem_append {name tail : String} (h : IsArgumentTail tail)
    (hname : IsArgumentName name) : ',' ∉ (name ++ tail).toList := by
  rw [String.toList_append, List.mem_append, not_or]
  exact ⟨hname.not_mem (by decide), h.no_comma⟩

end IsArgumentTail

/-- **The names of arguments are read back** as they were written, whatever follows them. -/
theorem argumentNames_joinWith {tail last : String} (h : IsArgumentTail tail)
    (hlast : IsArgumentTail last) (names : List String) :
    argumentNames (Text.joinWith ", " (names.map (fun name => safeName name ++ tail) ++
        ["options" ++ last])) = names.map safeName ++ ["options"] := by
  induction names with
  | nil =>
    rw [List.map_nil, List.nil_append, Text.joinWith, argumentNames,
      Text.split_of_not_mem (hlast.not_mem_append .options), List.map_singleton,
      IsArgumentName.options.leadingName_append hlast.first]
    rfl
  | cons name names ih =>
    rw [List.map_cons, List.cons_append, Text.joinWith_cons _ _ (List.concat_ne_nil _ _),
      argumentNames_append (h.not_mem_append (.safeName name)), ih,
      (IsArgumentName.safeName name).leadingName_append h.first]
    rfl

/-! ### Functions and their types -/

variable {r : Route}

theorem argumentNames_args (r : Route) :
    argumentNames (Text.joinWith ", " (Rich.args r)) = Rich.args r := by
  have hargs := argumentNames_joinWith .empty .empty r.required
  simp only [String.append_empty] at hargs
  exact hargs

/-- The signature of a helper tells the names of its arguments. -/
theorem argumentNames_signature (r : Route) :
    argumentNames (Declaration.signature r) = Declaration.argNames r :=
  argumentNames_joinWith .routeParam .routeOptions r.required

theorem not_mem_args {c : Char} (hc : isIdentifierChar c = false) (hspace : c ∉ ", ".toList) :
    c ∉ (Text.joinWith ", " (Rich.args r)).toList := by
  intro hmem
  obtain ⟨name, hname, hmem⟩ := (Text.mem_joinWith hmem).resolve_left hspace
  rcases List.mem_append.1 hname with hname | hname
  · obtain ⟨param, -, rfl⟩ := List.mem_map.1 hname
    exact (IsArgumentName.safeName param).not_mem hc hmem
  · rw [List.mem_singleton.1 hname] at hmem
    exact IsArgumentName.options.not_mem hc hmem

theorem not_mem_signature {c : Char} (hc : isIdentifierChar c = false) (hspace : c ∉ ", ".toList)
    (hparam : c ∉ ": RouteParam".toList) (hoptions : c ∉ "?: RouteOptions".toList) :
    c ∉ (Declaration.signature r).toList := by
  intro hmem
  obtain ⟨argument, hargument, hmem⟩ := (Text.mem_joinWith hmem).resolve_left hspace
  rcases List.mem_append.1 hargument with hargument | hargument
  · obtain ⟨param, -, rfl⟩ := List.mem_map.1 hargument
    rw [String.toList_append, List.mem_append] at hmem
    exact hmem.elim ((IsArgumentName.safeName param).not_mem hc) hparam
  · have hlast : "options?: RouteOptions" = "options" ++ "?: RouteOptions" := rfl
    rw [List.mem_singleton.1 hargument, hlast, String.toList_append, List.mem_append] at hmem
    exact hmem.elim (IsArgumentName.options.not_mem hc) hoptions

/-- A function in code tells the names of its arguments in its head. -/
theorem parameterNames_head {start : String} (hstart : ')' ∉ start.toList) (rest : String) :
    parameterNames (start ++ "(" ++ Text.joinWith ", " (Rich.args r) ++ ")" ++ rest)
      = Rich.args r := by
  rw [parameterNames, parenthesized_append hstart (not_mem_args (by decide) (by decide))
    (not_mem_args (by decide) (by decide)), argumentNames_args]

/-- A function in a type tells the names of its arguments. -/
theorem parameterNames_signature {start : String} (hstart : ')' ∉ start.toList) (rest : String) :
    parameterNames (start ++ "(" ++ Declaration.signature r ++ ")" ++ rest)
      = Declaration.argNames r := by
  rw [parameterNames, parenthesized_append hstart
    (not_mem_signature (by decide) (by decide) (by decide) (by decide))
    (not_mem_signature (by decide) (by decide) (by decide) (by decide)), argumentNames_signature]

end RouteHelpers.Script
