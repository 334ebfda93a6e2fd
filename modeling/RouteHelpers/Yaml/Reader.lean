import RouteHelpers.Text.Base64
import RouteHelpers.Value.Basic
import RouteHelpers.Yaml.Node

/-!
Reading YAML documents.

A node becomes a value by its tag; a tag beside the standard ones has no value. Mappings under a merge
key come in front of the pairs of the mapping that holds them, so that these win over those.

Of several nodes without a value, the one that is reported is found level by level: what stands in a
collection is judged only after everything beside that collection has been. `Judging` goes this way
through a document, and leaves behind what its mappings have become by merging; `valueFrom` then builds
the value. A collection may be inside itself, so both keep track of where they are by number.
-/

namespace RouteHelpers.Yaml

/-! ### Judging -/

/-- Which collections have been judged, and the pairs of the mappings that others were merged into. -/
private structure Judged where
  seen : List Nat
  pairs : List (Nat × List (Node × Node))

/-- Steps of judging a document. -/
private abbrev Judging := ReaderT Document (StateT Judged (Except ReadFault))

/-- The failure to give a node a value. -/
private def malformedValue {α : Type} : Judging α :=
  throw .malformed

/-- The collection that a node is, also where it is inside itself. -/
private def resolved (d : Document) (n : Node) : Node :=
  match n with
  | .again number => (d.anchored.lookup number).getD n
  | n => n

/-- The pairs that a mapping has at present. -/
private def presentPairs (number : Nat) (pairs : List (Node × Node)) : Judging (List (Node × Node)) :=
  return ((← get).pairs.lookup number).getD pairs

/-- Notes the pairs of a mapping. -/
private def notePairs (number : Nat) (pairs : List (Node × Node)) : Judging Unit :=
  modify fun s => { s with pairs := (number, pairs) :: s.pairs.filter fun e => e.1 != number }

/-! ### Merging -/

mutual

/-- The pairs of a mapping, with those that are merged in put in front. A pair under a merge key is taken
out before what stands there is looked at, which may be the mapping itself. `fuel` bounds the steps. -/
private def flatten : Nat → Nat → List (Node × Node) → Judging (List (Node × Node))
  | 0, _, _ => malformedValue
  | fuel + 1, number, pairs => do
    let merged ← mergedFrom fuel number pairs
    let rest ← presentPairs number pairs
    if merged.isEmpty then pure rest
    else do
      notePairs number (merged ++ rest)
      pure (merged ++ rest)

/-- What is merged into a mapping, which its pairs under merge keys are taken out of. -/
private def mergedFrom : Nat → Nat → List (Node × Node) → Judging (List (Node × Node))
  | 0, _, _ => malformedValue
  | fuel + 1, number, pairs => do
    let present ← presentPairs number pairs
    let (before, behind) := present.span fun p => p.1.tag != Tag.merge
    match behind with
    | [] => pure []
    | (_, source) :: behind => do
      notePairs number (before ++ behind)
      let merged ← match resolved (← read) source with
        | .mapping other _ pairs => flatten fuel other pairs
        | .sequence _ _ items => do
          let all ← items.mapM fun item => do
            match resolved (← read) item with
            | .mapping other _ pairs => flatten fuel other pairs
            | _ => malformedValue
          pure all.reverse.flatten
        | _ => malformedValue
      let more ← mergedFrom fuel number pairs
      pure (merged ++ more)

end

/-! ### Scalars -/

/-- The text of a scalar, or of the default value of a mapping. `depth` bounds the mappings inside each
other. -/
private def scalarText (d : Document) : Nat → Node → Except ReadFault String
  | 0, _ => .error .malformed
  | depth + 1, n =>
    match resolved d n with
    | .scalar _ text => .ok text
    | .mapping _ _ pairs =>
      match pairs.find? fun p => p.1.tag == Tag.value with
      | some p => scalarText d depth p.2
      | none => .error .malformed
    | _ => .error .malformed

/-- The value of a text with a tag. -/
private def scalarOfText (tag text : String) : Except ReadFault Value := do
  if tag == Tag.text || tag == Tag.value then .ok (.text text)
  else if tag == Tag.null then .ok .null
  else if tag == Tag.bool then .bool <$> bool text
  else if tag == Tag.int then .int <$> int text
  else if tag == Tag.float then .float <$> float text
  else if tag == Tag.timestamp then .time <$> timestamp text
  else if tag == Tag.standard ++ "binary" then
    match if text.toList.all Text.isAscii then Text.decodeBase64 text.toList else none with
    | some octets => .ok (.bytes octets)
    | none => .error .malformed
  else .error .malformed

/-- The value of a node that is no collection by its tag. -/
private def scalarValue (d : Document) (bound : Nat) (n : Node) : Except ReadFault Value := do
  scalarOfText n.tag (← scalarText d bound n)

/-! ### Faults -/

/-- The tags of collections. -/
private def collectionTags : List String :=
  [Tag.sequence, Tag.mapping, Tag.standard ++ "omap", Tag.standard ++ "pairs", Tag.standard ++ "set"]

/-- The number of a collection. -/
private def number? : Node → Option Nat
  | .scalar .. => none
  | .sequence number .. | .mapping number .. | .again number => some number

/-- Judges a node alone, and gives it back if its content is still to be judged. -/
private def judge (bound : Nat) (isKey : Bool) (n : Node) : Judging (List Node) := do
  let d ← read
  let n := resolved d n
  if collectionTags.contains n.tag then
    -- no collection is a key
    if isKey then malformedValue
    else
      match number? n with
      | none => malformedValue
      | some number => do
        if (← get).seen.contains number then pure []
        else do
          modify fun s => { s with seen := number :: s.seen }
          pure [n]
  else if n.tag == Tag.value && !isKey then malformedValue
  else do
    let _ ← (scalarValue d bound n : Except ReadFault Value)
    pure []

/-- Judges the one pair of a mapping that is an element of a list of pairs. -/
private def judgePair (bound : Nat) (n : Node) : Judging (List Node) := do
  match resolved (← read) n with
  | .mapping number _ pairs =>
    match ← presentPairs number pairs with
    | [(k, v)] => do
      let key ← judge bound false k
      let value ← judge bound false v
      pure (key ++ value)
    | _ => malformedValue
  | _ => malformedValue

/-- Judges what a collection holds, and gives back what is still to be judged. -/
private def judgeContent (bound : Nat) : Node → Judging (List Node)
  | .sequence _ tag items =>
    if tag == Tag.sequence then List.flatten <$> items.mapM (judge bound false)
    else if tag == Tag.mapping || tag == Tag.standard ++ "set" then malformedValue
    else List.flatten <$> items.mapM (judgePair bound)
  | .mapping number tag pairs =>
    if tag == Tag.mapping || tag == Tag.standard ++ "set" then do
      let judged ← (← flatten bound number pairs).mapM fun p => do
        let key ← judge bound true p.1
        let value ← judge bound false p.2
        pure (key ++ value)
      pure judged.flatten
    else malformedValue
  | _ => malformedValue

/-- Judges collections level by level; `depth` bounds the levels. -/
private def judgeLevels (bound : Nat) : Nat → List Node → Judging Unit
  | _, [] => pure ()
  | 0, _ => malformedValue
  | depth + 1, level => do
    let below ← level.mapM (judgeContent bound)
    judgeLevels bound depth below.flatten

/-- Judges the node of a document and everything in it. -/
private def judgeAll (bound : Nat) : Judging Unit := do
  judgeLevels bound bound (← judge bound false (← read).root)

/-! ### Values -/

/-- The pairs of values as entries, later ones winning. -/
private def entriesOf (pairs : List (Value × Value)) : Except ReadFault Entries :=
  if pairs.all fun p => p.1.isKey then .ok (Entries.ofList pairs) else .error .malformed

/-- The value of a node inside the collections whose numbers are `around`, the innermost first. `depth`
bounds the nodes inside each other. -/
private def valueFrom (d : Document) (judged : Judged) (bound : Nat) :
    Nat → List Nat → Node → Except ReadFault Value
  | 0, _, _ => .error .malformed
  | depth + 1, around, n => do
    let valueIn (number : Nat) := valueFrom d judged bound depth (number :: around)
    let pairsOf (number : Nat) (pairs : List (Node × Node)) :
        Except ReadFault (List (Value × Value)) :=
      ((judged.pairs.lookup number).getD pairs).mapM fun p => do
        .ok (← valueIn number p.1, ← valueIn number p.2)
    let onePair (number : Nat) (n : Node) : Except ReadFault Value :=
      match resolved d n with
      | .mapping _ _ [(k, v)] => do .ok (.tuple [← valueIn number k, ← valueIn number v])
      | _ => .error .malformed
    match resolved d n with
    | .sequence number tag items =>
      match around.idxOf? number with
      | some levels => .ok (.again levels false)
      | none =>
        if tag == Tag.sequence then .list <$> items.mapM (valueIn number)
        else if tag == Tag.standard ++ "omap" || tag == Tag.standard ++ "pairs" then
          .list <$> items.mapM (onePair number)
        else .error .malformed
    | .mapping number tag pairs =>
      match around.idxOf? number with
      | some levels => .ok (.again levels true)
      | none =>
        if tag == Tag.mapping then do .ok (.map (← entriesOf (← pairsOf number pairs)))
        else if tag == Tag.standard ++ "set" then do
          .ok (.set ((← entriesOf (← pairsOf number pairs)).map (·.1)))
        else scalarValue d bound n
    | n => scalarValue d bound n

/-- A bound of the nodes inside each other, and of the steps of merging. -/
private def stepsBound (text : List Char) : Nat :=
  2 * text.length + 4

/-- The value of the one document in a text; nothing is the value of an empty text. -/
def read (text : List Char) : Except ReadFault Value := do
  match ← Document.ofTokens (tokens text) with
  | none => .ok .null
  | some d => do
    let bound := stepsBound text
    let (_, judged) ← ((judgeAll bound).run d).run ⟨[], []⟩
    valueFrom d judged bound bound [] d.root

end RouteHelpers.Yaml
