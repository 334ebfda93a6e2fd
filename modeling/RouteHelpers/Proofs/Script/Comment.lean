import Mathlib.Algebra.Ring.Nat
import Mathlib.Data.List.Infix
import RouteHelpers.Proofs.Extract.Naming
import RouteHelpers.Proofs.Path.Required
import RouteHelpers.Proofs.Path.Substitution
import RouteHelpers.Resource.File
import RouteHelpers.Script.Rich
import RouteHelpers.Script.Simple

/-!
Where the comments above helpers end.

A script ends a comment at the first `*/` behind its start, whatever that was meant to be. So a comment is
what it looks like if it has `*/` once, at its end (`IsComment`). The lines of a comment are separated by
line feeds and start with a blank behind their star, so nothing is closed where two lines meet, and

    IsComment (unlines (comment lines)) ↔ no line holds `*/`

The comments of helpers and of actions tell the verb and the path of a route as they are, and the names of
its parameters, which hold no slash. A path may hold `*/`: a piece that ends in a star is followed by the
slash of the next one.
-/

namespace RouteHelpers.Script

/-! ### Reading comments -/

/-- A text holds the end of a comment. -/
def Closes (text : String) : Prop :=
  ['*', '/'] <:+: text.toList

instance : DecidablePred Closes := fun text =>
  inferInstanceAs (Decidable (['*', '/'] <:+: text.toList))

/-- At how many places a text holds the end of a comment. -/
def closings : List Char → Nat
  | '*' :: '/' :: rest => closings rest + 1
  | _ :: rest => closings rest
  | [] => 0

/-- What follows the first end of a comment. -/
def afterClosing? : List Char → Option (List Char)
  | '*' :: '/' :: rest => some rest
  | _ :: rest => afterClosing? rest
  | [] => none

/-- What follows the comment that a script starts with. -/
def afterComment? (script : String) : Option String :=
  match script.toList with
  | '/' :: '*' :: rest => (afterClosing? rest).map String.ofList
  | _ => none

/-- A text is a documentation comment and nothing else. -/
structure IsComment (text : String) : Prop where
  opened : Text.startsWith "/**" text = true
  closed : Text.endsWith "*/" text = true
  once : closings text.toList = 1
  /-- A script goes on with the code behind it. -/
  behind : ∀ code, afterComment? (text ++ code) = some code

variable {cs : List Char}

theorem closings_cons_of_ne {c : Char} (h : c ≠ '*') (rest : List Char) :
    closings (c :: rest) = closings rest := by
  rw [closings]
  rintro rest' rfl
  exact absurd rfl h

/-- No end of a comment goes over a character that is not in it. -/
theorem ends_of_append_cons {c d : Char} {more rest rest' : List Char} (hslash : c ≠ '/')
    (hne : ∀ more', d = '*' → more = '/' :: more' → False) (hd : d = '*') :
    more ++ c :: rest ≠ '/' :: rest' := by
  intro h
  cases more with
  | nil => exact hslash (List.cons.inj h).1
  | cons e more => exact hne more hd (by rw [(List.cons.inj h).1])

theorem closings_append_cons {c : Char} (hstar : c ≠ '*') (hslash : c ≠ '/') (cs rest : List Char) :
    closings (cs ++ c :: rest) = closings cs + closings rest := by
  fun_induction closings cs with
  | case1 more ih =>
    rw [List.cons_append, List.cons_append, closings, ih]
    omega
  | case2 d more hne ih =>
    rw [List.cons_append, closings, ih]
    exact fun rest' hd h => ends_of_append_cons hslash hne hd h
  | case3 => rw [List.nil_append, closings_cons_of_ne hstar, Nat.zero_add]

theorem closings_eq_zero_iff : closings cs = 0 ↔ ¬ ['*', '/'] <:+: cs := by
  fun_induction closings cs with
  | case1 more ih =>
    refine iff_of_false (Nat.succ_ne_zero _) (not_not_intro ?_)
    exact (List.prefix_append ['*', '/'] more).isInfix
  | case2 d more hne ih =>
    rw [ih, List.infix_cons_iff, not_or, iff_and_self]
    rintro - ⟨more', h⟩
    exact hne more' (List.cons.inj h).1.symm (List.cons.inj h).2.symm
  | case3 => simp

/-- Where no comment is closed, one goes on. -/
theorem afterClosing?_append_cons {c : Char} (hslash : c ≠ '/') (h : closings cs = 0)
    (rest : List Char) : afterClosing? (cs ++ c :: rest) = afterClosing? (c :: rest) := by
  fun_induction closings cs with
  | case1 more ih => cases h
  | case2 d more hne ih =>
    rw [List.cons_append, afterClosing?, ih h]
    exact fun rest' hd h => ends_of_append_cons hslash hne hd h
  | case3 => rfl

/-! ### Lines -/

theorem not_closes_iff {text : String} : ¬ Closes text ↔ closings text.toList = 0 :=
  closings_eq_zero_iff.symm

/-- Texts with a blank between them are closed where one of them is. -/
theorem closes_spaced {a b : String} : Closes (a ++ " " ++ b) ↔ Closes a ∨ Closes b := by
  have hspace : (a ++ " " ++ b).toList = a.toList ++ ' ' :: b.toList := by simp
  rw [← not_iff_not, not_or, not_closes_iff, not_closes_iff, not_closes_iff, hspace,
    closings_append_cons (by decide) (by decide), Nat.add_eq_zero_iff]

/-- What holds no slash closes no comment. -/
theorem not_closes_of_not_mem {text : String} (h : '/' ∉ text.toList) : ¬ Closes text :=
  fun hcloses => h (hcloses.subset (by simp))

/-- Lines are closed at the places where each of them is. -/
theorem closings_unlines (lines : List String) :
    closings (unlines lines).toList = (lines.map fun line => closings line.toList).sum := by
  induction lines with
  | nil => rfl
  | cons line lines ih =>
    rw [List.map_cons, List.sum_cons]
    by_cases hnil : lines = []
    · rw [hnil]
      rfl
    · have hlist : (unlines (line :: lines)).toList
          = line.toList ++ '\n' :: (unlines lines).toList := by
        rw [unlines, Text.joinWith_cons _ _ hnil]
        simp [unlines]
      rw [hlist, closings_append_cons (by decide) (by decide), ih]

/-- The star in front of a line of a comment closes nothing. -/
theorem closings_starred (line : String) : closings (" * " ++ line).toList = closings line.toList := by
  have hlist : (" * " ++ line).toList = [' ', '*'] ++ ' ' :: line.toList := by simp
  rw [hlist, closings_append_cons (by decide) (by decide)]
  exact Nat.zero_add _

/-- The lines of a comment but for the last one, without its first two characters. -/
def inside (lines : List String) : String :=
  unlines ("*" :: lines.map (" * " ++ ·))

theorem unlines_comment (lines : List String) :
    unlines (comment lines) = "/*" ++ inside lines ++ "\n" ++ " */" := by
  have hstart : ["/**"] ++ lines.map (" * " ++ ·) = ("/*" ++ "*") :: lines.map (" * " ++ ·) := rfl
  rw [comment, hstart, unlines, Text.joinWith_concat _ (List.cons_ne_nil _ _),
    ← Text.append_joinWith_cons, inside, unlines]

theorem closings_inside (lines : List String) :
    closings (inside lines).toList = (lines.map fun line => closings line.toList).sum := by
  have hfirst : closings "*".toList = 0 := by decide
  rw [inside, closings_unlines, List.map_cons, List.sum_cons, hfirst, Nat.zero_add, List.map_map]
  simp only [Function.comp_def, closings_starred]

theorem closings_comment (lines : List String) : closings (unlines (comment lines)).toList
    = (lines.map fun line => closings line.toList).sum + 1 := by
  have hfirst : closings "/**".toList = 0 := by decide
  have hlast : closings " */".toList = 1 := by decide
  rw [comment, closings_unlines]
  simp only [List.map_append, List.map_cons, List.map_nil, List.map_map, List.sum_append,
    List.sum_cons, List.sum_nil, Function.comp_def, closings_starred, hfirst, hlast]
  omega

theorem sum_closings_eq_zero_iff {lines : List String} :
    (lines.map fun line => closings line.toList).sum = 0 ↔ ∀ line ∈ lines, ¬ Closes line := by
  rw [List.sum_eq_zero_iff_forall_eq_nat]
  simp only [List.forall_mem_map, not_closes_iff]

theorem startsWith_comment (lines : List String) :
    Text.startsWith "/**" (unlines (comment lines)) = true := by
  have hfirst : (unlines (comment lines)).toList
      = "/**".toList ++ ("\n" ++ unlines (lines.map (" * " ++ ·) ++ [" */"])).toList := by
    rw [comment, List.append_assoc, unlines, List.singleton_append,
      Text.joinWith_cons _ _ (List.append_ne_nil_of_right_ne_nil _ (List.cons_ne_nil _ _)),
      String.append_assoc, String.toList_append, unlines]
  rw [Text.startsWith, List.isPrefixOf_iff_prefix, hfirst]
  exact List.prefix_append _ _

theorem endsWith_comment (lines : List String) :
    Text.endsWith "*/" (unlines (comment lines)) = true := by
  have hlast : (unlines (comment lines)).toList
      = ("/*" ++ inside lines ++ "\n ").toList ++ "*/".toList := by
    simp [unlines_comment]
  rw [Text.endsWith, List.isSuffixOf_iff_suffix, hlast]
  exact List.suffix_append _ _

/-- A comment that is not closed inside goes on to its last line. -/
theorem afterComment?_comment {lines : List String} (h : closings (inside lines).toList = 0)
    (code : String) : afterComment? (unlines (comment lines) ++ code) = some code := by
  have hlist : (unlines (comment lines) ++ code).toList
      = '/' :: '*' :: ((inside lines).toList ++ '\n' :: (" */".toList ++ code.toList)) := by
    simp [unlines_comment]
  rw [afterComment?, hlist]
  simp only
  rw [afterClosing?_append_cons (by decide) h]
  exact congrArg some String.ofList_toList

/-- **The lines of a comment** make one if none of them holds the end of a comment. -/
theorem isComment_unlines_iff {lines : List String} :
    IsComment (unlines (comment lines)) ↔ ∀ line ∈ lines, ¬ Closes line := by
  -- the last line closes the comment once, so a comment is closed once if no other line closes it
  rw [← sum_closings_eq_zero_iff, ← closings_inside]
  constructor
  · intro h
    have hcount := closings_comment lines
    rw [h.once, ← closings_inside] at hcount
    omega
  · intro hopen
    have honce : closings (unlines (comment lines)).toList = 1 := by
      rw [closings_comment, ← closings_inside, hopen]
    exact ⟨startsWith_comment lines, endsWith_comment lines, honce, afterComment?_comment hopen⟩

/-- Lines of code stand below a comment. -/
theorem unlines_comment_append (told : List String) {code : List String} (hcode : code ≠ []) :
    unlines (comment told ++ code) = unlines (comment told) ++ "\n" ++ unlines code := by
  have hcomment : comment told ≠ [] := List.cons_ne_nil _ _
  rw [unlines, Text.joinWith_append _ _ hcode, Text.joinWith_concat _ hcomment, unlines, unlines]

end RouteHelpers.Script

namespace RouteHelpers

/-! ### Names of parameters -/

namespace Path

theorem mem_of_slot_mem_plainPiece {piece name : String}
    (h : Segment.HasSlot (plainPiece piece) name) {c : Char} (hc : c ∈ name.toList) :
    c ∈ piece.toList := by
  unfold plainPiece at h
  split at h
  next name' hlist =>
    obtain rfl : name = String.ofList name' := by simpa [Segment.HasSlot] using h
    rw [hlist]
    exact List.mem_cons_of_mem _ (by simpa using hc)
  next name' hlist =>
    obtain rfl : name = String.ofList name' := by simpa [Segment.HasSlot] using h
    rw [hlist]
    exact List.mem_cons_of_mem _ (by simpa using hc)
  next => simp [Segment.HasSlot] at h

/-- The name of a slot is made of characters of its piece. -/
theorem mem_of_slot_mem_pieceSegments {piece name : String}
    (h : Segment.HasSlot (pieceSegments piece) name) {c : Char} (hc : c ∈ name.toList) :
    c ∈ piece.toList := by
  unfold pieceSegments at h
  split at h
  · split at h
    next head inner hgroup =>
      -- what is in the group is no slot outside of it, so the slot is that of the head
      obtain ⟨behind, hlist, -⟩ := (hasGroup_of_headAndInner? hgroup).toList_eq
      have hhead : Segment.HasSlot (headSegments head) name := by
        simpa [Segment.HasSlot] using h
      rw [hlist]
      refine List.mem_append_left _ ?_
      unfold headSegments at hhead
      split at hhead
      · exact mem_of_slot_mem_plainPiece hhead hc
      · exact mem_of_slot_mem_plainPiece hhead hc
      · simp [Segment.HasSlot] at hhead
    next => simp [Segment.HasSlot] at h
  · exact mem_of_slot_mem_plainPiece h hc

/-- No name that is required holds a slash. -/
theorem slash_not_mem_of_mem_requiredNames {path name : String}
    (h : name ∈ Segment.requiredNames (parse path)) : '/' ∉ name.toList := by
  obtain ⟨piece, hpiece, hslot⟩ : ∃ piece ∈ pieces path,
      Segment.HasSlot (pieceSegments piece) name := by
    rcases Segment.mem_requiredNames.1 h with h | h
    · obtain ⟨piece, hpiece, hs⟩ := List.mem_flatMap.1 ((mem_normalize_iff rfl).1 h)
      exact ⟨piece, hpiece, .inl hs⟩
    · obtain ⟨piece, hpiece, hs⟩ := List.mem_flatMap.1 ((mem_normalize_iff rfl).1 h)
      exact ⟨piece, hpiece, .inr hs⟩
  exact fun hslash => (pieces_mem hpiece).2 (mem_of_slot_mem_pieceSegments hslot hslash)

end Path

/-! ### Comments above code -/

namespace Script

/-- The settings with or without comments. -/
def withComments (wanted : Bool) (s : Settings) : Settings :=
  { s with documentation := wanted }

/-- A record can be told in a comment: neither its verb, as it is shown, nor its path ends one. -/
def IsTellable (r : Record) : Prop :=
  ¬ Closes (Text.upper r.verb) ∧ ¬ Closes r.path

variable {s : Settings} {r : Record} {route : Route}

theorem outcome_render_simple (s : Settings) (route : Route) (target : Target) :
    (Simple.render (withComments true s) route target).outcome
      = (Simple.render (withComments false s) route target).outcome.map
          (unlines (Simple.documentation route target) ++ "\n" ++ ·) := by
  have hrender (s : Settings) : (Simple.render s route target).outcome
      = (Simple.declaration route target).map fun code =>
          if s.documentation then unlines (Simple.documentation route target) ++ "\n" ++ code
          else code := by
    rw [Simple.render, Traced.outcome_bind_ok (a := ()) rfl, Traced.outcome_bind]
    rfl
  rw [hrender, hrender]
  cases Simple.declaration route target <;> rfl

theorem render_rich (s : Settings) (route : Route) : Rich.render (withComments true s) route
    = unlines (Rich.documentation route) ++ "\n" ++ Rich.render (withComments false s) route := by
  unfold Rich.render
  simp only [withComments, Rich.members, if_true, Bool.false_eq_true, if_false, List.nil_append,
    List.append_assoc]
  exact unlines_comment_append _ (List.cons_ne_nil _ _)

theorem actionText_documented (a : ResourceAction) (binding : String) :
    Resource.actionText true a binding
      = unlines (Resource.actionDocumentation a) ++ "\n" ++ Resource.actionText false a binding :=
  unlines_comment_append _ (List.cons_ne_nil _ _)

/-- The first line of a comment holds the end of one if the verb or the path does. -/
theorem not_closes_first (naming : Naming) (helper : String) (r : Record) :
    ¬ Closes ((Route.named naming helper r).verb ++ " " ++ (Route.named naming helper r).path) ↔
      IsTellable r := by
  rw [closes_spaced, not_or]
  rfl

/-- The line about a parameter holds the end of a comment nowhere. -/
theorem not_closes_param {type name path : String} (htype : ¬ Closes ("@param \x7b" ++ type ++ "\x7d"))
    (hname : name ∈ Segment.requiredNames (Path.parse path)) :
    ¬ Closes ("@param \x7b" ++ type ++ "\x7d " ++ name) := by
  have hspace : "@param \x7b" ++ type ++ "\x7d " ++ name
      = "@param \x7b" ++ type ++ "\x7d" ++ " " ++ name := by
    simp [String.append_assoc]
  rw [hspace, closes_spaced, not_or]
  exact ⟨htype, not_closes_of_not_mem (Path.slash_not_mem_of_mem_requiredNames hname)⟩

/-- The comment of a helper tells the route, its parameters and what is the same for all routes. -/
theorem isComment_helper_iff (type : String) {rest : List String} (naming : Naming) (helper : String)
    (r : Record) (htype : ¬ Closes ("@param \x7b" ++ type ++ "\x7d"))
    (hrest : ∀ line ∈ rest, ¬ Closes line) :
    IsComment (unlines (comment
      ([(Route.named naming helper r).verb ++ " " ++ (Route.named naming helper r).path] ++
        (Route.named naming helper r).required.map ("@param \x7b" ++ type ++ "\x7d " ++ ·) ++ rest)))
      ↔ IsTellable r := by
  have hparams : ∀ line ∈ (Route.named naming helper r).required.map
      ("@param \x7b" ++ type ++ "\x7d " ++ ·), ¬ Closes line :=
    List.forall_mem_map.2 fun name hname => not_closes_param htype hname
  rw [isComment_unlines_iff, List.forall_mem_append, List.forall_mem_append, List.forall_mem_singleton,
    not_closes_first, and_iff_left hrest, and_iff_left hparams]

theorem isComment_simple_iff (naming : Naming) (helper : String) (r : Record) (target : Target) :
    IsComment (unlines (Simple.documentation (Route.named naming helper r) target)) ↔
      IsTellable r := by
  refine isComment_helper_iff "string|number" naming helper r (by decide +kernel) ?_
  cases target <;> decide +kernel

theorem isComment_rich_iff (naming : Naming) (helper : String) (r : Record) :
    IsComment (unlines (Rich.documentation (Route.named naming helper r))) ↔ IsTellable r :=
  isComment_helper_iff "string|number|\x7bid: string|number\x7d" naming helper r
    (by decide +kernel) (by decide +kernel)

theorem isComment_action_iff (naming : Naming) (helper : String) (r : Record) :
    IsComment (unlines (Resource.actionDocumentation
      (Resource.actionOf (Route.named naming helper r)))) ↔ IsTellable r := by
  have hactions : ∀ action ∈ Action.order, ¬ Closes ("@action :" ++ action) := by decide +kernel
  have hmem : Action.ofRoute (Route.named naming helper r) ∈ Action.order :=
    Action.infer_mem_order _ _ _
  rw [Resource.actionDocumentation, isComment_unlines_iff, List.forall_mem_cons,
    List.forall_mem_singleton, ← not_closes_first naming helper r]
  exact and_iff_left (hactions _ hmem)

/-- **Comments are closed where they are meant to be** just where neither the verb nor the path of the
record ends one, above simple and rich helpers as above actions. What is emitted with comments is a block
above what is emitted without. -/
theorem isComment_iff_isTellable (s : Settings) (helper : String) (r : Record) :
    let route := Route.named s.naming helper r
    let action := Resource.actionOf route
    (∀ target,
      (Simple.render (withComments true s) route target).outcome
          = (Simple.render (withComments false s) route target).outcome.map
              (unlines (Simple.documentation route target) ++ "\n" ++ ·) ∧
        (IsComment (unlines (Simple.documentation route target)) ↔ IsTellable r)) ∧
      (Rich.render (withComments true s) route
          = unlines (Rich.documentation route) ++ "\n" ++ Rich.render (withComments false s) route ∧
        (IsComment (unlines (Rich.documentation route)) ↔ IsTellable r)) ∧
      ∀ binding,
        Resource.actionText true action binding
            = unlines (Resource.actionDocumentation action) ++ "\n" ++
                Resource.actionText false action binding ∧
          (IsComment (unlines (Resource.actionDocumentation action)) ↔ IsTellable r) := by
  intro route action
  refine ⟨fun target => ⟨?_, ?_⟩, ⟨?_, ?_⟩, fun binding => ⟨?_, ?_⟩⟩
  · exact outcome_render_simple s route target
  · exact isComment_simple_iff s.naming helper r target
  · exact render_rich s route
  · exact isComment_rich_iff s.naming helper r
  · exact actionText_documented action binding
  · exact isComment_action_iff s.naming helper r

/-- A record with a glob that has no name, in the middle of its path. -/
def editFiles : Record :=
  ⟨"GET", "/files/*/edit", some "edit_files", none, false, default⟩

/-- The comment above its helper ends in the path, and a script goes on with what is left of it. -/
theorem not_isComment_editFiles :
    let route := Route.ofRecord Settings.default.naming editFiles
    ¬ IsComment (unlines (Simple.documentation route .path)) ∧
      afterComment? (unlines (Simple.documentation route .path))
        = some ("edit\n" ++ unlines ((Simple.documentation route .path).drop 2)) := by
  intro route
  have hcloses : Closes editFiles.path := by decide
  exact ⟨fun h => ((isComment_simple_iff _ _ _ _).1 h).2 hcloses, by decide +kernel⟩

end Script
end RouteHelpers
