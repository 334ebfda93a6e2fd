import RouteHelpers.Path.Tree
import RouteHelpers.Text.Percent

/-!
Building a path from its tree form.

This is the rule that the emitted code follows: slots take the text of their value, percent-encoded
unless the slot is a glob; a group appears only when each parameter directly inside it is bound;
slashes at the end are dropped unless one is asked for. A parameter counts as bound when its value is
not null. A value with an integer that is too long to be written has no text, and where building comes to
write it, there is no path.

The tree is taken as data, so it may be malformed. A malformed node is a fault where building reaches
it, and not before.
-/

namespace RouteHelpers.Path

/-- Why no path can be built. -/
inductive BuildFault where
  /-- A slot outside every group has no value. -/
  | missing (name : String)
  /-- A node has fewer than two elements. -/
  | tooShort (length : Nat)
  /-- A node has more than two elements. -/
  | tooLong
  /-- A node is neither text nor a sequence. -/
  | notNode (kind : String)
  /-- The members of a group are not a sequence. -/
  | notMembers (kind : String)
  /-- A member of a group lacks the tag or the name that deciding about the group looks at. -/
  | noElement
  /-- A name is of a kind that cannot be looked up. -/
  | notName (kind : String)
  /-- A value has no text, for an integer in it is too long. -/
  | numeral (f : Text.NumeralFault)
  deriving DecidableEq, Repr

/-- What a reader is told. -/
def BuildFault.message : BuildFault → String
  | missing name => "Missing required parameter(s): " ++ name
  | tooShort length => "not enough values to unpack (expected 2, got " ++ toString length ++ ")"
  | tooLong => "too many values to unpack (expected 2)"
  | notNode kind => "cannot unpack non-iterable " ++ kind ++ " object"
  | notMembers kind => "'" ++ kind ++ "' object is not iterable"
  | noElement => "list index out of range"
  | notName kind => "unhashable type: '" ++ kind ++ "'"
  | numeral f => f.message

/-- The value bound to a name; a null value binds nothing. -/
def bound? (params : Entries) (name : Value) : Except BuildFault (Option Value) :=
  if name.isKey then
    match params.get? name with
    | none | some .null => .ok none
    | some v => .ok (some v)
  else .error (.notName name.kind)

/-! ### Groups -/

/-- The names that decide whether a group appears: those of the parameters directly inside it. -/
def decisiveNames : List Value → Except BuildFault (List Value)
  | [] => .ok []
  | .list [] :: _ => .error .noElement
  | .list [.text "param"] :: _ => .error .noElement
  | .list (.text "param" :: name :: _) :: rest => (decisiveNames rest).map (name :: ·)
  -- a group inside decides for itself, and a glob that binds nothing is left out
  | _ :: rest => decisiveNames rest

/-- Whether every name is bound; names behind the first unbound one are not looked at. -/
def allBound (params : Entries) : List Value → Except BuildFault Bool
  | [] => .ok true
  | name :: rest => do
    match ← bound? params name with
    | none => .ok false
    | some _ => allBound params rest

/-! ### Nodes -/

/-- The text of a value, if it can be written. -/
def writtenText (v : Value) : Except BuildFault String :=
  if v.isWritable then .ok v.display else .error (.numeral .tooLongToWrite)

/-- The text of a slot. -/
def slotText (params : Entries) (inGroup : Bool) (tag name : Value) : Except BuildFault String := do
  match ← bound? params name with
  | none => if inGroup then .ok "" else .error (.missing (← writtenText name))
  | some v =>
    match tag with
    | .text "glob" => writtenText v
    | _ => (writtenText v).map Text.percentEncode

/-- The text of a group whose members are no list of nodes. -/
def looseGroupText : Value → Except BuildFault String
  | .text s => .ok s
  | .map entries =>
    entries.foldlM (fun acc e => match e.1 with
      | .text s => .ok (acc ++ s)
      | key => .error (.notNode key.kind)) ""
  | v => .error (.notMembers v.kind)

/-- The text of a tag and what it applies to, unless that is a group of nodes. -/
def taggedText (params : Entries) (inGroup : Bool) (tag value : Value) : Except BuildFault String :=
  match tag with
  | .text "optional" => looseGroupText value
  | _ => slotText params inGroup tag value

/-- The text of a node that has no group of nodes. -/
def flatNodeText (params : Entries) (inGroup : Bool) : Value → Except BuildFault String
  | .text s => .ok s
  | .list [tag, value] => taggedText params inGroup tag value
  | .map [(tag, _), (value, _)] => taggedText params inGroup tag value
  | .list items => .error (if items.length < 2 then .tooShort items.length else .tooLong)
  | .map entries => .error (if entries.length < 2 then .tooShort entries.length else .tooLong)
  | v => .error (.notNode v.kind)

mutual

/-- The text of a node; `inGroup` says whether a slot without value may be left out. -/
def nodeText (params : Entries) (inGroup : Bool) : Value → Except BuildFault String
  | .list [.text "optional", .list children] => do
    let names ← decisiveNames children
    if ← allBound params names then nodesText params true children else .ok ""
  | node => flatNodeText params inGroup node

/-- The texts of several nodes in a row. -/
def nodesText (params : Entries) (inGroup : Bool) : List Value → Except BuildFault String
  | [] => .ok ""
  | v :: rest => do
    let first ← nodeText params inGroup v
    let more ← nodesText params inGroup rest
    .ok (first ++ more)

end

/-! ### Ends -/

/-- A path with the slash at its end that is asked for, or with none. -/
def finish (trailingSlash : Bool) (path : String) : String :=
  if path.isEmpty then "/"
  else if trailingSlash then
    if Text.endsWith "/" path then path else path ++ "/"
  else
    let bare := Text.dropEnd (· == '/') path
    if bare.isEmpty then "/" else bare

/-- The path that a tree builds from parameter values. -/
def build (tree : List Value) (params : Entries) (trailingSlash : Bool) :
    Except BuildFault String :=
  (nodesText params false tree).map (finish trailingSlash)

end RouteHelpers.Path
