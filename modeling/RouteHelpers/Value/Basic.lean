import RouteHelpers.Number.Binary64
import RouteHelpers.Text.Numeral
import RouteHelpers.Text.Quoted
import RouteHelpers.Value.Timestamp

/-!
Dynamic values.

Route entries, option files, parameter values and the tree that the emitted code evaluates are all
data of one kind: what a JSON or YAML document can hold, and the patterns that options are compiled
to. A mapping is the list of its entries in the order of insertion.

A collection may hold itself. In a value, which is a tree, `again` stands for a collection that it is in.

Two texts belong to a value. `Value.display` is the text it contributes to a URL or a field;
`Value.literal` is how a message shows it. They differ on texts, which a literal quotes, and on dates.
-/

namespace RouteHelpers

/-- A dynamic value. -/
inductive Value where
  | null
  | bool (b : Bool)
  | int (i : Int)
  | float (x : Binary64)
  | text (s : String)
  | list (items : List Value)
  /-- Values that belong together, such as the two of an element of a list of pairs. -/
  | tuple (items : List Value)
  | map (entries : List (Value × Value))
  | set (items : List Value)
  | time (t : Timestamp)
  | bytes (octets : List Nat)
  | pattern (source : String)
  /-- The list or mapping that holds this place, `levels` collections further out; whether it is a
  mapping. -/
  | again (levels : Nat) (isMap : Bool)
  deriving Repr, Inhabited

/-- The entries of a mapping, in order of insertion. -/
abbrev Entries := List (Value × Value)

namespace Value

/-- The word for the kind of a value in messages. -/
def kind : Value → String
  | null => "NoneType"
  | bool _ => "bool"
  | int _ => "int"
  | float _ => "float"
  | text _ => "str"
  | list _ => "list"
  | tuple _ => "tuple"
  | map _ => "dict"
  | set _ => "set"
  | time t => if t.time.isNone then "date" else "datetime"
  | bytes _ => "bytes"
  | pattern _ => "Pattern"
  | again _ isMap => if isMap then "dict" else "list"

/-- The word for the kind of a value with the name of its family, where it has one. -/
def fullKind (v : Value) : String :=
  match v with
  | time _ => "datetime." ++ v.kind
  | pattern _ => "re." ++ v.kind
  | _ => v.kind

/-- Whether a value counts as given: nothing, zero and whatever is empty do not. -/
def isTrue : Value → Bool
  | null => false
  | bool b => b
  | int i => i != 0
  | float x => !x.isZero
  | text s => !s.isEmpty
  | list items => !items.isEmpty
  | tuple items => !items.isEmpty
  | map entries => !entries.isEmpty
  | set items => !items.isEmpty
  | time _ => true
  | bytes octets => !octets.isEmpty
  | pattern _ => true
  | again .. => true

/-- Whether a value is absent. -/
def isNull : Value → Bool
  | null => true
  | _ => false

/-! ### Text of a value -/

mutual

/-- How messages show a value. -/
def literal : Value → String
  | null => "None"
  | bool true => "True"
  | bool false => "False"
  | int i => toString i
  | float x => x.text
  | text s => Text.quoted s
  | list items => "[" ++ Text.joinWith ", " (literals items) ++ "]"
  | tuple [v] => "(" ++ literal v ++ ",)"
  | tuple items => "(" ++ Text.joinWith ", " (literals items) ++ ")"
  | map entries => "\x7b" ++ Text.joinWith ", " (entryLiterals entries) ++ "\x7d"
  | set [] => "set()"
  | set items => "\x7b" ++ Text.joinWith ", " (literals items) ++ "\x7d"
  | time t => t.literal
  | bytes octets => Text.quotedOctets octets
  | pattern source => "re.compile(" ++ Text.quoted source ++ ")"
  | again _ isMap => if isMap then "\x7b...\x7d" else "[...]"

/-- How messages show each of several values. -/
def literals : List Value → List String
  | [] => []
  | v :: rest => literal v :: literals rest

/-- How messages show each entry of a mapping. -/
def entryLiterals : List (Value × Value) → List String
  | [] => []
  | (k, v) :: rest => (literal k ++ ": " ++ literal v) :: entryLiterals rest

end

/-- The text that a value stands for in a field or a URL. -/
def display : Value → String
  | text s => s
  | time t => t.isoText " "
  | v => literal v

mutual

/-- Whether every integer in a value is short enough to be written. -/
def isWritable : Value → Bool
  | int i => (Text.writeInteger i).isOk
  | list items => areWritable items
  | tuple items => areWritable items
  | map entries => areEntriesWritable entries
  | set items => areWritable items
  | _ => true

/-- Whether every integer in several values is short enough to be written. -/
def areWritable : List Value → Bool
  | [] => true
  | v :: rest => isWritable v && areWritable rest

/-- Whether every integer in the entries of a mapping is short enough to be written. -/
def areEntriesWritable : List (Value × Value) → Bool
  | [] => true
  | (k, v) :: rest => isWritable k && isWritable v && areEntriesWritable rest

end

/-! ### Keys -/

/-- The integer that a numeric value equals, truth values counting as zero and one. -/
def toInt? : Value → Option Int
  | bool b => some (if b then 1 else 0)
  | int i => some i
  | float x => x.toInt?
  | _ => none

/-- Whether two values are the same key of a mapping. Numbers are compared by value across kinds, and
points in time across offsets; what is neither text nor number nor time is compared by its literal. -/
def sameKey (a b : Value) : Bool :=
  match a, b with
  | text s, text t => s == t
  | text _, _ => false
  | _, text _ => false
  | a, b =>
    match a.toInt?, b.toInt? with
    | some i, some j => i == j
    | none, none =>
      match a, b with
      | float x, float y => x == y
      | float _, _ => false
      | _, float _ => false
      | time t, time u => t.isSame u
      | a, b => a.kind == b.kind && a.literal == b.literal
    | _, _ => false

mutual

/-- Whether a value can be a key of a mapping. -/
def isKey : Value → Bool
  | list _ | map _ | set _ | again .. => false
  | tuple items => areKeys items
  | _ => true

/-- Whether each of several values can be a key of a mapping. -/
def areKeys : List Value → Bool
  | [] => true
  | v :: rest => isKey v && areKeys rest

end

end Value

namespace Entries

/-- The value under a key. -/
def get? (key : Value) : Entries → Option Value
  | [] => none
  | (k, v) :: rest => if k.sameKey key then some v else get? key rest

/-- The value under a text. -/
def getText? (key : String) (entries : Entries) : Option Value :=
  get? (.text key) entries

/-- Entries with a key set: a new key goes to the end, a known one keeps its place and spelling. -/
def set (key value : Value) : Entries → Entries
  | [] => [(key, value)]
  | (k, v) :: rest => if k.sameKey key then (k, value) :: rest else (k, v) :: set key value rest

/-- The mapping that a list of entries builds, later entries winning. -/
def ofList (pairs : List (Value × Value)) : Entries :=
  pairs.foldl (fun acc p => acc.set p.1 p.2) []

/-- Entries under texts. -/
def ofTexts (pairs : List (String × Value)) : Entries :=
  pairs.map fun p => (.text p.1, p.2)

end Entries

/-- The entry of a mapping value under a text; nothing for other values. -/
def Value.field? (key : String) : Value → Option Value
  | .map entries => Entries.getText? key entries
  | _ => none

end RouteHelpers
