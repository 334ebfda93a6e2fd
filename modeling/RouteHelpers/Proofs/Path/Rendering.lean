import RouteHelpers.Path.Build
import RouteHelpers.Path.Tree

/-!
Rendering segments without their tree form.

`build` takes a tree as data, and most of its clauses are about malformed nodes. A tree that comes from
segments is never malformed, and on such trees building follows the segments:

    nodesText params inGroup (nodes segments) = segmentsText params inGroup segments

Statements about built paths are proved on `segmentsText` and carried over by `nodesText_nodes`.
-/

namespace RouteHelpers.Path

/-- The value bound to a name; a null value binds nothing. -/
def boundValue? (params : Entries) (name : String) : Option Value :=
  (params.getText? name).filter fun v => !v.isNull

/-- The text of the value bound to a name, if there is one; a fault if the value has no text. -/
def boundText? (params : Entries) (name : String) : Except BuildFault (Option String) :=
  match boundValue? params name with
  | none => .ok none
  | some v => (writtenText v).map some

/-- The text of a slot whose value is written by `write`; `inGroup` says whether it may be left out. -/
def slotTextOf (params : Entries) (inGroup : Bool) (write : String → String) (name : String) :
    Except BuildFault String :=
  match boundText? params name with
  | .error fault => .error fault
  | .ok (some text) => .ok (write text)
  | .ok none => if inGroup then .ok "" else .error (.missing name)

/-- The names of the parameters directly inside a group. -/
def directNames : List Segment → List String
  | [] => []
  | .param name :: rest => name :: directNames rest
  | _ :: rest => directNames rest

mutual

/-- The text of a segment. -/
def segmentText (params : Entries) (inGroup : Bool) : Segment → Except BuildFault String
  | .literal s => .ok s
  | .param name => slotTextOf params inGroup Text.percentEncode name
  | .glob name => slotTextOf params inGroup id name
  | .group children =>
    if (directNames children).all fun name => (boundValue? params name).isSome then
      segmentsText params true children
    else .ok ""

/-- The texts of several segments in a row. -/
def segmentsText (params : Entries) (inGroup : Bool) : List Segment → Except BuildFault String
  | [] => .ok ""
  | s :: rest => do
    let first ← segmentText params inGroup s
    let more ← segmentsText params inGroup rest
    .ok (first ++ more)

end

variable {params : Entries}

/-! ### Looking names up -/

theorem writtenText_eq_ok_iff {v : Value} {text : String} :
    writtenText v = .ok text ↔ v.isWritable = true ∧ v.display = text := by
  unfold writtenText
  cases v.isWritable <;> simp

theorem writtenText_eq_error_iff {v : Value} {fault : BuildFault} :
    writtenText v = .error fault ↔ v.isWritable = false ∧ fault = .numeral .tooLongToWrite := by
  unfold writtenText
  cases v.isWritable <;> simp [eq_comm]

/-- A text that is bound is that of a value that is bound. -/
theorem boundText?_eq_some_iff {name text : String} : boundText? params name = .ok (some text) ↔
    ∃ v, boundValue? params name = some v ∧ writtenText v = .ok text := by
  unfold boundText?
  rcases boundValue? params name with - | v
  · simp
  · cases htext : writtenText v <;> simp [Except.map, htext]

@[simp] theorem boundText?_eq_none_iff {name : String} :
    boundText? params name = .ok none ↔ boundValue? params name = none := by
  unfold boundText?
  rcases boundValue? params name with - | v
  · simp
  · cases htext : writtenText v <;> simp [Except.map, htext]

/-- A name that is a text is looked up without fault. -/
theorem bound?_text (name : String) :
    bound? params (.text name) = .ok (boundValue? params name) := by
  simp only [bound?, Value.isKey, if_true, boundValue?, Entries.getText?]
  rcases Entries.get? (.text name) params with - | v
  · rfl
  · cases v <;> rfl

theorem slotText_param (inGroup : Bool) (name : String) :
    slotText params inGroup (.text "param") (.text name)
      = slotTextOf params inGroup Text.percentEncode name := by
  unfold slotText slotTextOf boundText?
  rw [bound?_text]
  rcases boundValue? params name with - | v
  · rfl
  · show (writtenText v).map Text.percentEncode = _
    cases htext : writtenText v <;> simp [htext, Except.map]

theorem slotText_glob (inGroup : Bool) (name : String) :
    slotText params inGroup (.text "glob") (.text name) = slotTextOf params inGroup id name := by
  unfold slotText slotTextOf boundText?
  rw [bound?_text]
  rcases boundValue? params name with - | v
  · rfl
  · show writtenText v = _
    cases htext : writtenText v <;> simp [htext, Except.map]

/-! ### Groups -/

theorem decisiveNames_nodes (children : List Segment) :
    decisiveNames (nodes children) = .ok ((directNames children).map .text) := by
  induction children with
  | nil => rfl
  | cons s rest ih =>
    cases s with
    | literal text => simpa [nodes, node, decisiveNames, directNames] using ih
    | param name => simp [nodes, node, decisiveNames, directNames, ih, Except.map]
    | glob name => simpa [nodes, node, decisiveNames, directNames] using ih
    | group inner => simpa [nodes, node, decisiveNames, directNames] using ih

theorem allBound_texts (names : List String) :
    allBound params (names.map .text)
      = .ok (names.all fun name => (boundValue? params name).isSome) := by
  induction names with
  | nil => rfl
  | cons name rest ih =>
    simp only [List.map_cons, allBound, bound?_text, List.all_cons]
    cases boundValue? params name with
    | none => rfl
    | some v => simpa [bind, Except.bind] using ih

/-! ### Nodes -/

mutual

theorem nodeText_node (inGroup : Bool) (s : Segment) :
    nodeText params inGroup (node s) = segmentText params inGroup s := by
  cases s with
  | literal text => simp [node, nodeText, flatNodeText, segmentText]
  | param name =>
    simp [node, nodeText, flatNodeText, taggedText, segmentText, slotText_param]
  | glob name =>
    simp [node, nodeText, flatNodeText, taggedText, segmentText, slotText_glob]
  | group children =>
    simp only [node, nodeText, segmentText, decisiveNames_nodes]
    show (allBound params ((directNames children).map .text) >>= _) = _
    rw [allBound_texts, nodesText_nodes true children]
    rfl

/-- **Building follows the segments** a tree was made from. -/
theorem nodesText_nodes (inGroup : Bool) (segments : List Segment) :
    nodesText params inGroup (nodes segments) = segmentsText params inGroup segments := by
  cases segments with
  | nil => simp [nodes, nodesText, segmentsText]
  | cons s rest =>
    simp only [nodes, nodesText, segmentsText, nodeText_node inGroup s,
      nodesText_nodes inGroup rest]

end

/-! ### Rows of segments -/

theorem segmentsText_append (inGroup : Bool) (xs ys : List Segment) :
    segmentsText params inGroup (xs ++ ys) = (do
      let first ← segmentsText params inGroup xs
      let more ← segmentsText params inGroup ys
      .ok (first ++ more)) := by
  induction xs with
  | nil => cases h : segmentsText params inGroup ys <;> simp [segmentsText, h, bind, Except.bind]
  | cons s rest ih =>
    rw [List.cons_append, segmentsText, segmentsText, ih]
    cases segmentText params inGroup s with
    | error e => rfl
    | ok a =>
      cases segmentsText params inGroup rest with
      | error e => rfl
      | ok b =>
        cases segmentsText params inGroup ys with
        | error e => rfl
        | ok c => exact congrArg Except.ok (String.append_assoc ..).symm

theorem segmentsText_literal_cons (inGroup : Bool) (s : String) (rest : List Segment) :
    segmentsText params inGroup (.literal s :: rest)
      = (segmentsText params inGroup rest).map (s ++ ·) := by
  cases h : segmentsText params inGroup rest <;> simp [segmentsText, segmentText, h, Except.map,
    bind, Except.bind]

theorem build_nodes (segments : List Segment) (trailingSlash : Bool) :
    build (nodes segments) params trailingSlash
      = (segmentsText params false segments).map (finish trailingSlash) := by
  rw [build, nodesText_nodes]

end RouteHelpers.Path
