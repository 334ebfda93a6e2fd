import RouteHelpers.Host
import RouteHelpers.Manifest
import RouteHelpers.Record
import RouteHelpers.RouteFile.Routes

/-!
Where route records come from.

A router is named by a text: a routes file, a manifest, a project directory with a routes file in it,
or an attribute of a module of the host program, written `module:attribute`. Without a name the usual
places of a project are looked at. Modules are given by the caller, as a table of what each one
exports.

`Router.records` follows a name to the records. An existing file or directory is always meant as
such, so a module reference counts only where nothing of its name exists.
-/

namespace RouteHelpers

/-- What a module of the host program exports under a name. -/
inductive Exported where
  /-- A list of route entries. -/
  | entries (items : List Entry)
  /-- Any other value. -/
  | value (v : Value)
  /-- A function without arguments, with its result. -/
  | function (result : Exported)
  /-- An object with attributes. -/
  | object (attributes : List (String × Exported))

/-- The modules of the host program, with what each of them exports. -/
abbrev HostModules := List (String × List (String × Exported))

namespace Router

/-- Why a router gives no records. -/
inductive Fault where
  | notDetected (directory : String)
  | noRoutesFile (directory : String)
  | notThere (name : String)
  | unsupported (name : String)
  | noModule (name missing : String)
  | noAttribute (module' path : String)
  | notIterable (name : String)
  /-- The router is named by a value that can name no file. -/
  | notName (kind : String)
  /-- The router is named by a number or octets, which no file has. -/
  | notReference (v : Value)
  /-- The router is a directory that is named by octets. -/
  | octetsDirectory
  /-- The router is named by a number that no stream can have, below zero or beyond the greatest. -/
  | streamNumber (isNegative : Bool)
  | manifest (f : Manifest.ReadFault)
  | routeFile (f : RouteFile.ReadFault)
  | defaults (f : EntryFault)
  deriving Repr

/-- The places that are looked at in a project, in this order. -/
def candidates : List String :=
  ["config/routes.rb", "routes.yaml", "routes.yml", "routes.json"]

/-- What a reader is told. -/
def Fault.message : Fault → String
  | notDetected directory =>
    "No router found in " ++ directory ++ ". Looked for: " ++ Text.joinWith ", " candidates ++
      ". Pass --router with a routes.rb file, a YAML/JSON route manifest " ++
      "or a module:attribute reference."
  | noRoutesFile directory => "No config/routes.rb found in " ++ directory
  | notThere name => "Router not found: " ++ name
  | unsupported name =>
    "Unsupported router file: " ++ name ++ ". Expected routes.rb, .yaml, .yml or .json"
  | noModule name missing =>
    "Cannot import router module " ++ Text.quoted name ++ ": No module named " ++ Text.quoted missing
  | noAttribute name path => Text.quoted name ++ " has no attribute " ++ Text.quoted path
  | notIterable name => "Router " ++ name ++ " is not an iterable of routes"
  | notName kind => "stat: path should be string, bytes, os.PathLike or integer, not " ++ kind
  | notReference (.bytes _) => "cannot use a string pattern on a bytes-like object"
  | notReference v => "expected string or bytes-like object, got '" ++ v.kind ++ "'"
  | octetsDirectory => Files.NameFault.octetsAmongTexts.message
  | streamNumber isNegative => "fd is " ++ (if isNegative then "less than minimum" else "greater than maximum")
  | manifest f => f.message
  | routeFile f => f.message
  | defaults f => f.message

/-! ### Detection -/

/-- The router of a project: the first of the usual places that is a file. -/
def detect (t : Files.Tree) (root : String) : Traced Fault String :=
  match (candidates.map (Files.join root)).find? t.isFile with
  | some path => do
    Traced.tell (.detectedRouter path)
    pure path
  | none => Traced.fail (.notDetected (t.absolute root))

/-! ### Module references -/

/-- Whether a list of characters is a name, words joined by points, that starts with a letter. -/
def isDottedName : List Char → Bool
  | [] => false
  | c :: rest => (c.isAlpha || c == '_') && rest.all fun x => Text.isWord x || x == '.'

/-- The module and the attribute path that a reference names. A newline may follow it, and then
belongs to the path. -/
def reference? (name : String) : Option (String × String) :=
  match Text.cut ':' name with
  | (module', some path) =>
    if isDottedName module'.toList && isDottedName (Text.cutFinalNewline path.toList).1 then
      some (module', path)
    else none
  | _ => none

/-- The dotted names that a dotted name starts with, the shortest first. -/
def dottedPrefixes (name : String) : List String :=
  let words := Text.split '.' name
  (List.range words.length).map fun n => Text.joinWith "." (words.take (n + 1))

/-- What attributes lead to, one after the other. -/
def follow? : Exported → List String → Option Exported
  | x, [] => some x
  | .object attributes, name :: rest =>
    (attributes.find? (·.1 == name)).bind fun a => follow? a.2 rest
  | _, _ :: _ => none

/-- The route entries of an export; the result of a function stands for it. -/
def entries? : Exported → Option (List Entry)
  | .function result => elements? result
  | x => elements? x
where
  /-- The entries that an export itself holds. -/
  elements? : Exported → Option (List Entry)
    | .entries items => some items
    | .value v => (Record.elements? v).map fun vs => vs.map Entry.ofValue
    | .function _ | .object _ => none

/-- The entries that a reference leads to. -/
def hostEntries (modules : HostModules) (name module' path : String) :
    Except Fault (List Entry) :=
  match modules.find? (·.1 == module') with
  | none =>
    let known := modules.map (·.1)
    -- an import goes through the packages from the outside, and names the first that is missing
    let missing := (dottedPrefixes module').find? fun p => !known.contains p
    .error (.noModule module' (missing.getD module'))
  | some m =>
    match follow? (.object m.2) (Text.split '.' path) with
    | none => .error (.noAttribute module' path)
    | some x =>
      match entries? x with
      | some es => .ok es
      | none => .error (.notIterable name)

/-! ### Records -/

/-- The records of entries. -/
def ofEntries (entries : List Entry) : Traced Fault (List Record) :=
  (Record.ofEntries entries).mapError .defaults

section Records

variable (host : Host)

/-- The records of a file. -/
def ofFile (t : Files.Tree) (file : String) : Traced Fault (List Record) :=
  if !t.isFile file then Traced.fail (.notThere file)
  else
    let ending := Text.lower (Files.extension file)
    if [".yaml", ".yml", ".json"].contains ending then do
      let items ← (Traced.lift (Manifest.read host.yaml host.jsonDepth t file)).mapError .manifest
      ofEntries (items.map Entry.ofValue)
    else if ending == ".rb" then do
      let st ← (RouteFile.read host.ruby t file {}).mapError .routeFile
      pure st.records
    else Traced.fail (.unsupported file)

/-- The records that a name leads to. -/
def ofName (t : Files.Tree) (modules : HostModules) (name : String) :
    Traced Fault (List Record) :=
  match if t.hasItem name then none else reference? name with
  | some (module', path) => do
    ofEntries (← Traced.lift (hostEntries modules name module' path))
  | none =>
    if t.isDirectory name then
      let file := Files.join (Files.join name "config") "routes.rb"
      if t.isFile file then ofFile host t file else Traced.fail (.noRoutesFile name)
    else ofFile host t name

end Records

/-- The greatest number of a stream. -/
def lastStream : Int := 0x7fffffff

/-- Why a router that is named by something that is no text gives no records. The first two numbers name
streams, which exist and are no files. The kinds of files are told apart by texts, so octets lead to none. -/
def oddNameFault (t : Files.Tree) (v : Value) : Fault :=
  match v.toInt?, v with
  | some i, .int _ | some i, .bool _ =>
    if i < -lastStream - 1 || lastStream < i then .streamNumber (i < 0)
    else if i = 1 || i = 2 then .notThere v.display
    else .notReference v
  | _, .bytes octets =>
    let name := Files.ofOctets octets
    if t.isDirectory name then .octetsDirectory
    else if t.isFile name then .unsupported v.display
    else .notReference v
  | _, _ => .notName v.kind

/-- The records of a router; where none is named, of the one that is detected below a directory. -/
def records (host : Host) (t : Files.Tree) (modules : HostModules) (root : String) (router : Value) :
    Traced Fault (List Record) :=
  if !router.isTrue then do ofName host t modules (← detect t root)
  else
    match router with
    | .text name => ofName host t modules name
    | v => Traced.fail (oddNameFault t v)

end Router
end RouteHelpers
