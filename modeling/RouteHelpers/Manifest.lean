import RouteHelpers.Files.Tree
import RouteHelpers.Json.Reader
import RouteHelpers.Text.Case
import RouteHelpers.Value.Cycle
import RouteHelpers.Yaml.Fault

/-!
Route manifests: JSON or YAML documents with a list of route entries.

The list is the document, or stands under the key `routes`. The ending of the name decides the
format. A reader of YAML documents is given, and how deep the values of JSON documents may be nested. What
an entry holds is looked at only when it becomes a record.
-/

namespace RouteHelpers.Manifest

/-- Why there is no list of entries. -/
inductive ReadFault where
  | file (f : Files.FileFault)
  | unreadable (file detail : String)
  | noRoutes (file : String)
  /-- A scalar has not the form that its tag asks for. -/
  | badScalar (f : Yaml.ReadFault)
  /-- Lists and mappings are nested too deep. -/
  | tooDeep (detail : String)
  deriving DecidableEq, Repr

/-- What a reader is told. -/
def ReadFault.message : ReadFault → String
  | file f => f.message
  | unreadable name detail => "Cannot parse route manifest " ++ name ++ ": " ++ detail
  | noRoutes name => "Route manifest " ++ name ++ " must contain a list of routes"
  | badScalar f => f.message
  | tooDeep detail => detail

/-- A fault of a YAML document as one of the manifest that it is. What is wrong with the form of a
value makes the manifest unreadable; the lack of a form is a fault of its own. -/
def faultOfYaml (file : String) : Yaml.ReadFault → ReadFault
  | .emptyNumber => .badScalar .emptyNumber
  | .notTruthValue literal => .badScalar (.notTruthValue literal)
  | .notTimestamp => .badScalar .notTimestamp
  | .farFromCharacter => .badScalar .farFromCharacter
  | .powerTooLarge => .badScalar .powerTooLarge
  | .halfPair => .badScalar .halfPair
  | .tooDeep => .tooDeep Yaml.ReadFault.tooDeep.message
  | f => .unreadable file f.message

/-- Whether a name is that of a JSON document. -/
def isJson (file : String) : Bool :=
  Text.endsWith ".json" (Text.lower file)

/-- A fault of a JSON document as one of the manifest that it is. -/
def faultOfJson (file : String) (document : List Char) (f : Json.ReadFault) : ReadFault :=
  match f.cause with
  | .tooDeep _ => .tooDeep (f.message document)
  | _ => .unreadable file (f.message document)

/-- The value of a JSON document, nested no deeper than `depth`. -/
def jsonDocument (depth : Nat) (file : String) (content : Files.Content) : Except ReadFault Value := do
  let text ← content.read.mapError fun f => .unreadable file f.message
  (Json.read depth text).mapError (faultOfJson file text)

/-- The value of a YAML document. -/
def yamlDocument (yaml : List Char → Except Yaml.ReadFault Value) (file : String)
    (content : Files.Content) : Except ReadFault Value := do
  let text ← content.readPieces.mapError fun f => .unreadable file f.message
  (yaml text).mapError (faultOfYaml file)

/-- The list of entries that a document holds. -/
def entries (file : String) (document : Value) : Except ReadFault (List Value) :=
  let value := match document with
    | .map fields => (Entries.getText? "routes" (Entries.released fields)).getD .null
    | v => v
  match value with
  | .list items => .ok (Value.releasedItems items)
  | _ => .error (.noRoutes file)

/-- The entries of the manifest with a name. -/
def read (yaml : List Char → Except Yaml.ReadFault Value) (depth : Nat) (t : Files.Tree)
    (name : String) : Except ReadFault (List Value) := do
  let content ← (t.read name).mapError .file
  let document ← if isJson name then jsonDocument depth name content
    else yamlDocument yaml name content
  entries name document

end RouteHelpers.Manifest
