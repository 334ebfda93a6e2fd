import RouteHelpers.Notice
import RouteHelpers.Text.Case
import RouteHelpers.Value.Cycle
import RouteHelpers.Verb

/-!
Route records, and how route entries of other shapes become records.

A route table arrives as records, as mappings (from a manifest) or as objects with attributes. Each
field may have several spellings, of which the first that holds something counts. An entry without
path or verb, or with a verb that is none of HTTP, is skipped with a warning.
-/

namespace RouteHelpers

/-- One entry of a route table. -/
structure Record where
  verb : String
  path : String
  helper : Option String
  action : Option String
  live : Bool
  defaults : Entries
  deriving Repr, Inhabited

/-- A route entry as it arrives. An object shows the attributes it has, under their names. -/
inductive Entry where
  | record (r : Record)
  | mapping (fields : Entries)
  | object (attributes : List (String × Value))
  deriving Repr, Inhabited

/-- An element of a manifest as a route entry: what is no mapping has no fields at all. -/
def Entry.ofValue : Value → Entry
  | .map fields => .mapping fields
  | _ => .object []

/-- Why an entry gives no record: its defaults are no mapping, or one of its fields has no text. -/
inductive EntryFault where
  /-- An element of a list of pairs has another length than two. -/
  | pairLength (index length : Nat)
  /-- An element of a list of pairs is no sequence. -/
  | notPair (index : Nat)
  /-- The value is neither a mapping nor a sequence. -/
  | notSequence (kind : String)
  /-- A key is of a kind that no mapping has. -/
  | notKey (kind : String)
  | numeral (f : Text.NumeralFault)
  deriving DecidableEq, Repr

/-- What a reader is told. -/
def EntryFault.message : EntryFault → String
  | pairLength index length =>
    "dictionary update sequence element #" ++ toString index ++ " has length " ++ toString length ++
      "; 2 is required"
  | notPair index =>
    "cannot convert dictionary update sequence element #" ++ toString index ++ " to a sequence"
  | notSequence kind => "'" ++ kind ++ "' object is not iterable"
  | notKey kind => "unhashable type: '" ++ kind ++ "'"
  | numeral f => f.message

namespace Record

/-! ### Fields -/

/-- The spellings of the helper's name, the first that holds something counting. -/
def helperKeys : List String := ["helper", "name", "as"]

/-- The spellings of the verb. -/
def verbKeys : List String := ["verb", "method"]

/-- The spellings of the action. -/
def actionKeys : List String := ["action", "plug_opts"]

/-- The attributes that are looked for on an object, in this order. -/
def attributeKeys : List String :=
  helperKeys ++ verbKeys ++ actionKeys ++ ["path", "live", "defaults"]

/-- The first value under one of several keys that is not null. -/
def firstGiven (fields : Entries) : List String → Value
  | [] => .null
  | key :: rest =>
    match fields.getText? key with
    | none | some .null => firstGiven fields rest
    | some v => v

/-- The text of a field; a colon in front, as symbols are dumped with, is dropped. -/
def fieldText (v : Value) : String :=
  (Text.afterStart? ":" v.display).getD v.display

/-- The text of a field that may be absent or empty. -/
def optionalText (v : Value) : Option String :=
  if v.isNull then none
  else if (fieldText v).isEmpty then none else some (fieldText v)

/-! ### Defaults -/

/-- The elements of a value that can be gone through. -/
def elements? : Value → Option (List Value)
  | .text s => some (s.toList.map fun c => .text (String.singleton c))
  | .list items => some (Value.releasedItems items)
  | .tuple items => some items
  | .set items => some items
  | .map entries => some (entries.map (·.1))
  | .bytes octets => some (octets.map fun n => .int (Int.ofNat n))
  | _ => none

/-- The mapping that a list of pairs gives; `index` is the place of its first element. -/
def defaultsOfPairs (index : Nat) (done : Entries) : List Value → Except EntryFault Entries
  | [] => .ok done
  | v :: rest =>
    match elements? v with
    | none => .error (.notPair index)
    | some [key, value] =>
      if key.isKey then defaultsOfPairs (index + 1) (done.set key value) rest
      else .error (.notKey key.kind)
    | some items => .error (.pairLength index items.length)

/-- The defaults of an entry: a mapping, a sequence of pairs, or nothing at all. -/
def defaultsOf (v : Value) : Except EntryFault Entries :=
  if !v.isTrue then .ok []
  else
    match v with
    | .map entries => .ok (Entries.released entries)
    | v =>
      match elements? v with
      | none => .error (.notSequence v.fullKind)
      | some items => defaultsOfPairs 0 [] items

/-! ### Entries -/

/-- The record that a mapping describes. -/
def ofFields (fields : Entries) : Traced EntryFault (Option Record) :=
  let given := Entries.released fields
  let path := (given.getText? "path").getD .null
  let verb := firstGiven given verbKeys
  let helper := firstGiven given helperKeys
  let action := firstGiven given actionKeys
  if !path.isTrue || !verb.isTrue then do
    Traced.tell (.incompleteEntry (Value.map fields).literal)
    pure none
  else if !Value.areWritable [verb, path, helper, action] then
    Traced.fail (.numeral .tooLongToWrite)
  else do
    let defaults ← Traced.lift (defaultsOf ((given.getText? "defaults").getD .null))
    pure <| some {
      verb := fieldText verb
      path := path.display
      helper := optionalText helper
      action := optionalText action
      live := ((given.getText? "live").getD .null).isTrue
      defaults }

/-- The fields that an object shows. -/
def fieldsOfObject (attributes : List (String × Value)) : Entries :=
  attributeKeys.filterMap fun key =>
    (attributes.find? fun a => a.1 == key).map fun a => (.text key, a.2)

/-- The record that an entry describes, before its verb is checked. -/
def ofEntryUnchecked : Entry → Traced EntryFault (Option Record)
  | .record r => pure (some r)
  | .mapping fields => ofFields fields
  | .object attributes => ofFields (fieldsOfObject attributes)

/-- The record that an entry describes, with its verb in upper case; nothing if the entry is to be
skipped. -/
def ofEntry (entry : Entry) : Traced EntryFault (Option Record) := do
  match ← ofEntryUnchecked entry with
  | none => pure none
  | some r =>
    let verb := Text.upper r.verb
    if Verb.all.contains verb then pure (some { r with verb })
    else do
      Traced.tell (.unsupportedVerb r.verb r.path)
      pure none

/-- The records that several entries describe. -/
def ofEntries (entries : List Entry) : Traced EntryFault (List Record) := do
  let records ← Traced.mapEach ofEntry entries
  pure (records.filterMap id)

end Record
end RouteHelpers
