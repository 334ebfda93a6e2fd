import RouteHelpers.Configuration
import RouteHelpers.Files.Tree
import RouteHelpers.Value.Cycle
import RouteHelpers.Yaml.Fault

/-!
Files of options.

An option file is a YAML document that holds a mapping from names of options to their values, alone
or under the key `routes_js`; an empty one gives no options. `OptionFile.read` is given the reader of
documents. It looks the names up but does not judge the values, which is the business of
`Configuration.validate`.
-/

namespace RouteHelpers.OptionFile

/-- Why a file gives no options. -/
inductive ReadFault where
  | file (f : Files.FileFault)
  | notText (f : Text.Utf8Fault)
  /-- A scalar has not the form that its tag asks for. -/
  | badScalar (f : Yaml.ReadFault)
  | configuration (f : ConfigurationFault)
  /-- The first of the unknown names, in order, is no text. -/
  | nameNotText (kind : String)
  /-- Two unknown names are of kinds that have no order. -/
  | namesNotOrdered (kind other : String)
  /-- An unknown name is a date, another one a point in time. -/
  | dateAmongTimes
  /-- Unknown names are points in time with and without an offset. -/
  | offsetsMixed
  deriving DecidableEq, Repr

/-- What a reader is told. -/
def ReadFault.message : ReadFault → String
  | file f => f.message
  | notText f => f.message
  | badScalar f => f.message
  | configuration f => f.message
  | nameNotText kind => "sequence item 0: expected str instance, " ++ kind ++ " found"
  | namesNotOrdered kind other =>
    "'<' not supported between instances of '" ++ kind ++ "' and '" ++ other ++ "'"
  | dateAmongTimes => "can't compare datetime.datetime to datetime.date"
  | offsetsMixed => "can't compare offset-naive and offset-aware datetimes"

/-- The key that may hold the options. -/
def sectionKey : String := "routes_js"

/-- The mapping of options that a document holds. -/
def mapping (file : String) (v : Value) : Except ReadFault Entries :=
  match (if v.isTrue then v else Value.map []) with
  | .map entries =>
    match Entries.getText? sectionKey (Entries.released entries) with
    | some (.map inner) => .ok inner
    | _ => .ok entries
  | _ => .error (.configuration (.notOptions file))

/-- Whether a key of a mapping is the name of an option. -/
def isOptionName : Value → Bool
  | .text s => Configuration.isOption s
  | _ => false

/-- The number that a key is. -/
def number? : Value → Option Binary64
  | .float x => some x
  | v => v.toInt?.map .ofInt

/-- The fault of comparing two keys, of which the second is the left one. Numbers have an order among
themselves, and so have points in time that agree in having an offset or none; otherwise keys of one kind
other than null have one. -/
def orderFault? (a b : Value) : Option ReadFault :=
  match a, b with
  | .time t, .time u =>
    match t.time, u.time with
    | some x, some y => if x.offset.isSome == y.offset.isSome then none else some .offsetsMixed
    | none, none => none
    | _, _ => some .dateAmongTimes
  | _, _ =>
    if ((number? a).isSome && (number? b).isSome) || (a.kind == b.kind && !a.isNull) then none
    else some (.namesNotOrdered b.fullKind a.fullKind)

/-- The earlier one of two keys of which the first was met first. Keys of one kind that are no numbers
are as good as each other. -/
def earlier (a b : Value) : Value :=
  match number? a, number? b with
  | some x, some y => if y.isLess x then b else a
  | _, _ => a

/-- The fault of a list of unknown names that are not all texts. -/
def unknownFault (first : Value) (rest : List Value) : ReadFault :=
  match ((first :: rest).zip rest).findSome? fun p => orderFault? p.1 p.2 with
  | some f => f
  | none => .nameNotText (rest.foldl earlier first).fullKind

/-- Options under their names, if every name is that of an option. -/
def known (file : String) (entries : Entries) : Except ReadFault (List (String × Value)) :=
  let unknown := (entries.map (·.1)).filter fun k => !isOptionName k
  let names := unknown.filterMap fun
    | .text s => some s
    | _ => none
  match unknown with
  | [] => .ok ((Entries.released entries).map fun e => (e.1.display, e.2))
  | first :: rest =>
    if names.length = unknown.length then
      .error (.configuration (.unknownOptionsIn file (Text.sorted names)))
    else .error (unknownFault first rest)

section Reading

variable (yaml : List Char → Except Yaml.ReadFault Value)

/-- The value of the document in a content. -/
def document (file : String) (content : Files.Content) : Except ReadFault Value := do
  let text ← content.readPieces.mapError .notText
  (yaml text).mapError fun
    | .malformed => .configuration (.unreadableFile file "")
    | f => .badScalar f

/-- The options of a content, `file` being the name that faults tell. -/
def options (file : String) (content : Files.Content) :
    Except ReadFault (List (String × Value)) := do
  known file (← mapping file (← document yaml file content))

/-- The options of the file with a name. -/
def read (t : Files.Tree) (name : String) : Except ReadFault (List (String × Value)) := do
  options yaml name (← (t.read name).mapError .file)

end Reading

end RouteHelpers.OptionFile
