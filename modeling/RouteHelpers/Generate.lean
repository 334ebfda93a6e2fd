import RouteHelpers.Files.Tree
import RouteHelpers.Resource.Barrel
import RouteHelpers.Script.Types

/-!
From route entries to output files, and from output files to a tree.

The classic style gives one module, with its type declarations where they are wanted; the resource
style gives a directory of files. An option can name a place by octets, or by something that leads to no
name; that is found out where the place is used.

Writing goes file by file and stops at the first fault. Hooks run only after every file has been
written, each with the list of all.
-/

namespace RouteHelpers

/-- Where an output file goes. -/
inductive Destination where
  | named (path : String)
  /-- The name was given as octets. -/
  | octets (path : String)
  /-- What an option gave leads to no name. -/
  | unusable (f : Files.NameFault)
  deriving DecidableEq, Repr

/-- An output file. -/
structure OutputFile where
  destination : Destination
  content : String
  deriving DecidableEq, Repr

/-- Why nothing is generated. -/
inductive GenerateFault where
  | defaults (f : EntryFault)
  | collision (name : String) (paths : List String)
  /-- A value that the emitted code would have to hold has no JSON form. -/
  | notJson (f : Json.WriteFault)
  /-- What an option gave for a place leads to no name. -/
  | badName (f : Files.NameFault)
  deriving DecidableEq, Repr

/-- A fault of extraction as a fault of generation. -/
def GenerateFault.ofExtract : ExtractFault → GenerateFault
  | .defaults f => .defaults f
  | .collision name paths => .collision name paths

/-- A collision of bindings as a fault of generation. -/
def GenerateFault.ofBinding (c : BindingCollision) : GenerateFault :=
  .collision c.name c.paths

/-- What was generated: the files, and the routes they are for. -/
structure Generation where
  files : List OutputFile
  routes : List Route

namespace Generation

/-- The place that an option names. -/
def destination : Value → Destination
  | .text s => .named s
  | .bytes octets => .octets (Files.ofOctets octets)
  | v => .unusable (.kind v.kind)

/-! ### Styles -/

/-- The files of the classic style. -/
def classicFiles (s : Settings) (routes : List Route) : Traced GenerateFault (List OutputFile) := do
  let code ← (Script.generate s routes).mapError .notJson
  let script : OutputFile := ⟨destination s.outputFile, code⟩
  if s.generateTypes then do
    let place ← (Traced.lift s.typesPath).mapError .badName
    let types ← Script.generateTypes s routes
    pure [script, ⟨destination place, types⟩]
  else pure [script]

/-- A file of the resource style, below the output directory. -/
def belowOutput (directory : Value) (f : SourceFile) : Except GenerateFault OutputFile :=
  match directory with
  | .text s => .ok ⟨.named (Files.join s f.path), f.content⟩
  | .bytes _ => .error (.badName .octetsAmongTexts)
  | v => .error (.badName (.kind v.kind))

/-- The files of the resource style. -/
def resourceFiles (s : Settings) (routes : List Route) :
    Traced GenerateFault (List OutputFile) := do
  let files ← (Resource.files s routes).mapError .ofBinding
  Traced.lift (files.mapM (belowOutput s.outputDirectory))

/-- The files of the style that the settings ask for. -/
def filesOf (s : Settings) (routes : List Route) : Traced GenerateFault (List OutputFile) :=
  match s.style with
  | .classic => classicFiles s routes
  | .resource => resourceFiles s routes

/-- What is generated for the given route entries. -/
def ofEntries (s : Settings) (entries : List Entry) : Traced GenerateFault Generation := do
  -- each stage checks its settings, and tells of them again
  Traced.tellAll s.checkNotices
  let routes ← (Extract.ofEntries s entries).mapError .ofExtract
  let files ← filesOf s routes
  Traced.tell (.generated files.length routes.length)
  pure ⟨files, routes⟩

/-- The module of the given route entries. -/
def script (s : Settings) (entries : List Entry) : Traced GenerateFault String := do
  Traced.tellAll s.checkNotices
  let routes ← (Extract.ofEntries s entries).mapError .ofExtract
  (Script.generate s routes).mapError .notJson

/-- The type declarations of the given route entries. -/
def types (s : Settings) (entries : List Entry) : Traced GenerateFault String := do
  Traced.tellAll s.checkNotices
  let routes ← (Extract.ofEntries s entries).mapError .ofExtract
  Script.generateTypes s routes

end Generation

/-! ### Writing -/

/-- Why writing stopped. -/
inductive WriteFault where
  | file (f : Files.FileFault)
  /-- A fault of a file whose name was given as octets. -/
  | octetsFile (f : Files.FileFault)
  | badName (f : Files.NameFault)
  deriving DecidableEq, Repr

/-- What a reader is told. -/
def WriteFault.message : WriteFault → String
  | file f => f.message
  | octetsFile f => f.messageShowing Files.octetsLiteral
  | badName f => f.message

/-- A function that is called when all files are written. It is given the list of their places, which it
may change: all hooks have the same list, and so has who asked for the files. It may do something to the
tree and to whatever else there is, and it may fail. -/
abbrev Hook (σ ε : Type) := List String → Files.Tree × σ → Except ε (List String) × Files.Tree × σ

/-- Why nothing is given back. -/
inductive Stop (ε : Type) where
  | write (f : WriteFault)
  /-- A hook failed. -/
  | hook (e : ε)

/-- What writing has come to: the tree and whatever else there is, the places written, and the list that
is given back or what stopped the run. -/
structure Writing (σ ε : Type) where
  tree : Files.Tree
  world : σ
  written : List String
  given : Except (Stop ε) (List String)

namespace Writing

variable {σ ε : Type}

/-- Writes one file, making the directories above it first. -/
def writeOne (disk : Files.Disk) (t : Files.Tree) (path content : String) :
    Files.Tree × Option Files.FileFault :=
  let directory := Files.directory path
  let (t, fault) := if directory.isEmpty then (t, none) else t.makeDirectories directory
  match fault with
  | some f => (t, some f)
  | none => t.write disk path content

/-- Writes a file to where it goes, and gives the place as messages tell it. -/
def writeTo (disk : Files.Disk) (t : Files.Tree) (content : String) :
    Destination → Files.Tree × Except WriteFault String
  | .named path =>
    match writeOne disk t path content with
    | (t, none) => (t, .ok path)
    | (t, some f) => (t, .error (.file f))
  | .octets path =>
    match writeOne disk t path content with
    | (t, none) => (t, .ok (Files.octetsLiteral path))
    | (t, some f) => (t, .error (.octetsFile f))
  | .unusable f => (t, .error (.badName f))

/-- Writes files one after the other, behind those in `written`. -/
def writeFiles (disk : Files.Disk) (t : Files.Tree) (written : List String) :
    List OutputFile → Files.Tree × List String × Option WriteFault
  | [] => (t, written, none)
  | f :: rest =>
    match writeTo disk t f.content f.destination with
    | (t, .ok path) => writeFiles disk t (written ++ [path]) rest
    | (t, .error fault) => (t, written, some fault)

/-- Calls hooks one after the other. Each has the list that the one before it left. -/
def callHooks : List (Hook σ ε) → List String → Files.Tree × σ →
    Except ε (List String) × Files.Tree × σ
  | [], places, world => (.ok places, world)
  | h :: rest, places, world =>
    match h places world with
    | (.ok places, world) => callHooks rest places world
    | (.error e, world) => (.error e, world)

/-- Writes files and then calls the hooks with the list of all places, which is given back. -/
def run (disk : Files.Disk) (hooks : List (Hook σ ε)) (t : Files.Tree) (world : σ)
    (files : List OutputFile) : Writing σ ε :=
  match writeFiles disk t [] files with
  | (t, written, some f) => ⟨t, world, written, .error (.write f)⟩
  | (t, written, none) =>
    let (given, t, world) := callHooks hooks written (t, world)
    ⟨t, world, written, given.mapError .hook⟩

/-- What a user is told about a run. -/
def notices (w : Writing σ ε) : List Notice :=
  w.written.map .wrote

end Writing
end RouteHelpers
