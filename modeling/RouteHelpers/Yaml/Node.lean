import RouteHelpers.Yaml.Plain
import RouteHelpers.Yaml.Tokens

/-!
The tree of a YAML document.

A node is a scalar, a sequence or a mapping, with the full form of its tag. An alias is the node that
it stands for; inside that node it is `again` with the node's number. `Document.ofTokens` reads the one
document that tokens hold.
-/

namespace RouteHelpers.Yaml

/-- A node. Sequences and mappings are numbered. -/
inductive Node where
  | scalar (tag text : String)
  | sequence (number : Nat) (tag : String) (items : List Node)
  | mapping (number : Nat) (tag : String) (pairs : List (Node × Node))
  /-- An alias inside the node that it stands for. -/
  | again (number : Nat)
  deriving Repr, Inhabited

/-- A document: its node, and the nodes with an anchor by their numbers. -/
structure Document where
  root : Node
  anchored : List (Nat × Node)
  deriving Repr, Inhabited

namespace Node

/-- The tag of a node; an alias inside its own node shows none. -/
def tag : Node → String
  | scalar tag _ => tag
  | sequence _ tag _ => tag
  | mapping _ tag _ => tag
  | again _ => ""

/-! ### Reading tokens -/

/-- What is left to read, the fault behind it, the full forms of tag handles, the anchors met so far
with the numbers of their nodes, and the nodes of those that are complete. -/
private structure State where
  rest : List Token
  fault : Option ReadFault
  handles : List (String × String)
  anchors : List (String × Nat)
  nodes : List (Nat × Node)
  /-- How many numbers are taken. -/
  count : Nat

/-- Reads nodes from tokens. -/
private abbrev Reader := StateT State (Except ReadFault)

/-- The failure of a reader. -/
private def fail {α : Type} : Reader α :=
  throw .malformed

/-- The next token, if there is one; a failure where the tokens end in a fault. -/
private def next? : Reader (Option Token) := do
  let s ← get
  match s.rest, s.fault with
  | [], some f => throw f
  | rest, _ => pure rest.head?

/-- A number for a node. -/
private def newNumber : Reader Nat :=
  modifyGet fun s => (s.count, { s with count := s.count + 1 })

/-- Takes the next token. -/
private def take : Reader Unit :=
  modify fun s => { s with rest := s.rest.tail }

/-- Whether the next token is one of several. -/
private def nextIs (ts : List Token) : Reader Bool := do
  pure ((← next?).any ts.contains)

/-- Takes a token, if it is the next one. -/
private def accept (t : Token) : Reader Bool := do
  if ← nextIs [t] then do take; pure true
  else pure false

/-- Takes a token. -/
private def expect (t : Token) : Reader Unit := do
  if ← accept t then pure () else fail

/-- The results of a reader up to the first that is nothing; `fuel` bounds their number. -/
private def manyFrom {α : Type} (p : Reader (Option α)) : Nat → Reader (List α)
  | 0 => fail
  | fuel + 1 => do
    match ← p with
    | none => pure []
    | some a => do
      let more ← manyFrom p fuel
      pure (a :: more)

/-- The results of a reader up to the first that is nothing. -/
private def many {α : Type} (p : Reader (Option α)) : Reader (List α) := do
  manyFrom p ((← get).rest.length + 1)

/-- What may stand where a node is read: a collection without brackets, and a sequence that is not
indented. -/
private structure Place where
  block : Bool
  indentless : Bool

/-- The node that stands for nothing. -/
private def empty : Node :=
  .scalar Tag.null ""

/-! ### Collections -/

/-- A node, or nothing where one of several tokens follows. -/
private def nodeUnless (stops : List Token) (node : Reader Node) : Reader Node := do
  if ← nextIs stops then pure empty else node

/-- The elements of a sequence whose column is given. -/
private def blockSequence (node : Place → Reader Node) : Reader (List Node) := do
  let items ← many do
    if ← accept .blockEntry then
      some <$> nodeUnless [.blockEntry, .blockEnd] (node ⟨true, false⟩)
    else pure none
  expect .blockEnd
  pure items

/-- The elements of a sequence that stands at the column of the mapping around it. -/
private def indentlessSequence (node : Place → Reader Node) : Reader (List Node) :=
  many do
    if ← accept .blockEntry then
      some <$> nodeUnless [.blockEntry, .key, .value, .blockEnd] (node ⟨true, false⟩)
    else pure none

/-- The value of a pair, behind its key; nothing stands for one that is missing. -/
private def valueUnless (stops : List Token) (node : Reader Node) : Reader Node := do
  if ← accept .value then nodeUnless stops node else pure empty

/-- The pairs of a mapping whose column is given. -/
private def blockMapping (node : Place → Reader Node) : Reader (List (Node × Node)) := do
  let stops : List Token := [.key, .value, .blockEnd]
  let pairs ← many do
    if ← accept .key then do
      let key ← nodeUnless stops (node ⟨true, true⟩)
      let value ← valueUnless stops (node ⟨true, true⟩)
      pure (some (key, value))
    else pure none
  expect .blockEnd
  pure pairs

/-- What stands between brackets, up to the closing one: elements between commas, of which the last
may be followed by one too. -/
private def bracketed {α : Type} (closing : Token) (item : Reader α) : Reader (List α) := do
  if ← accept closing then pure []
  else do
    let first ← item
    let more ← many do
      if ← accept closing then pure none
      else do
        expect .flowEntry
        if ← accept closing then pure none else some <$> item
    pure (first :: more)

/-- An element of a sequence in brackets: a node, or a mapping of one pair. -/
private def flowItem (node : Place → Reader Node) : Reader Node := do
  let flow := node ⟨false, false⟩
  if ← accept .key then do
    let key ← nodeUnless [.value, .flowEntry, .flowSequenceEnd] flow
    let value ← valueUnless [.flowEntry, .flowSequenceEnd] flow
    pure (.mapping (← newNumber) Tag.mapping [(key, value)])
  else flow

/-- A pair of a mapping in brackets; a node without a colon is a key without a value. -/
private def flowPair (node : Place → Reader Node) : Reader (Node × Node) := do
  let flow := node ⟨false, false⟩
  if ← accept .key then do
    let key ← nodeUnless [.value, .flowEntry, .flowMappingEnd] flow
    let value ← valueUnless [.flowEntry, .flowMappingEnd] flow
    pure (key, value)
  else do
    let key ← flow
    pure (key, empty)

/-! ### Nodes -/

/-- The full form of a tag. -/
private def fullTag (handle : Option String) (suffix : String) : Reader String := do
  match handle with
  | none => pure suffix
  | some h =>
    match (← get).handles.lookup h with
    | some full => pure (full ++ suffix)
    | none => fail

/-- The anchor and the tag in front of a node, in either order. -/
private def properties : Reader (Option String × Option String) := do
  match ← next? with
  | some (.anchor name) => do
    take
    match ← next? with
    | some (.tag h suffix) => do take; pure (some name, some (← fullTag h suffix))
    | _ => pure (some name, none)
  | some (.tag h suffix) => do
    take
    match ← next? with
    | some (.anchor name) => do take; pure (some name, some (← fullTag h suffix))
    | _ => pure (none, some (← fullTag h suffix))
  | _ => pure (none, none)

/-- The content of a node with the given tag and number, if it has one; `isMarked` tells whether an
anchor or a tag precedes it. -/
private def contentOf (node : Place → Reader Node) (p : Place) (number : Nat) (given : Option String)
    (isMarked : Bool) : Reader Node := do
  let tagOr (default : String) : String := (given.filter (· != "!")).getD default
  match ← next? with
  | some .blockEntry =>
    if p.indentless then do
      pure (.sequence number (tagOr Tag.sequence) (← indentlessSequence node))
    else if isMarked then pure (.scalar (tagOr Tag.null) "")
    else fail
  | some (.scalar text isPlain) => do
    take
    let isOpen := (isPlain && given.isNone) || given == some "!"
    pure (.scalar (tagOr (if isOpen then Tag.ofPlain text else Tag.text)) text)
  | some .flowSequence => do
    take
    pure (.sequence number (tagOr Tag.sequence) (← bracketed .flowSequenceEnd (flowItem node)))
  | some .flowMapping => do
    take
    pure (.mapping number (tagOr Tag.mapping) (← bracketed .flowMappingEnd (flowPair node)))
  | some .blockSequence =>
    if p.block then do
      take
      pure (.sequence number (tagOr Tag.sequence) (← blockSequence node))
    else if isMarked then pure (.scalar (tagOr Tag.null) "")
    else fail
  | some .blockMapping =>
    if p.block then do
      take
      pure (.mapping number (tagOr Tag.mapping) (← blockMapping node))
    else if isMarked then pure (.scalar (tagOr Tag.null) "")
    else fail
  | _ => if isMarked then pure (.scalar (tagOr Tag.null) "") else fail

/-- The node that an alias stands for. -/
private def referred (name : String) : Reader Node := do
  let s ← get
  match s.anchors.lookup name with
  | none => fail
  | some number => pure ((s.nodes.lookup number).getD (.again number))

/-- A node that holds no more than `depth` nodes inside each other. -/
private def read : Nat → Place → Reader Node
  | 0, _ => fail
  | depth + 1, p => do
    match ← next? with
    | some (.reference name) => do
      take
      referred name
    | _ => do
      let (anchor, tag) ← properties
      let isMarked := anchor.isSome || tag.isSome
      let number ← newNumber
      match anchor with
      | none => contentOf (read depth) p number tag isMarked
      | some name => do
        -- what is anchored comes before the anchor is judged
        let _ ← next?
        if ((← get).anchors.lookup name).isSome then fail
        else do
          modify fun s => { s with anchors := (name, number) :: s.anchors }
          let n ← contentOf (read depth) p number tag isMarked
          modify fun s => { s with nodes := (number, n) :: s.nodes }
          pure n

/-! ### Documents -/

/-- The handles that every document has. -/
private def standardHandles : List (String × String) :=
  [("!", "!"), ("!!", Tag.standard)]

/-- Takes the directives in front of a document. -/
private def takeDirectives : Reader Unit := do
  let directives ← many do
    match ← next? with
    | some (.directive name words) => do take; pure (some (name, words))
    | _ => pure none
  let versions := directives.filter fun d => d.1 == "YAML"
  let isFirst (version : List String) : Bool :=
    (version.headD "").toList.dropWhile (· == '0') == ['1']
  let handles := directives.filterMap fun
    | ("TAG", [handle, full]) => some (handle, full)
    | _ => none
  if 1 < versions.length || versions.any (fun d => !isFirst d.2) ||
      !(handles.map (·.1)).Nodup then fail
  else modify fun s => { s with handles := handles ++ standardHandles }

/-- The node of the one document of a list of tokens; nothing if there is none. -/
private def document : Reader (Option Node) := do
  let depth := (← get).rest.length + 1
  let node ← match ← next? with
    | none => pure none
    | some (.directive ..) | some .documentStart => do
      takeDirectives
      expect .documentStart
      match ← next? with
      | none | some (.directive ..) | some .documentStart | some .documentEnd => pure (some empty)
      | _ => some <$> read depth ⟨true, false⟩
    | _ => do
      modify fun s => { s with handles := standardHandles }
      some <$> read depth ⟨true, false⟩
  let _ ← many do
    if ← accept .documentEnd then pure (some ()) else pure none
  if (← next?).isNone then pure node
  else do
    takeDirectives
    fail

end Node

/-- The one document that tokens hold; nothing if they hold none. -/
def Document.ofTokens (ts : Tokens) : Except ReadFault (Option Document) := do
  let (root, s) ← Node.document.run ⟨ts.tokens, ts.fault, [], [], [], 0⟩
  .ok (root.map fun root => ⟨root, s.nodes⟩)

end RouteHelpers.Yaml
