import RouteHelpers.CommandLine.Help
import RouteHelpers.CommandLine.Program
import RouteHelpers.Generate
import RouteHelpers.Host
import RouteHelpers.OptionFile
import RouteHelpers.Report
import RouteHelpers.Router

/-!
Running the program on a tree of files.

A run of the generating command goes from options to records, from records to files, and from files to
a changed tree, and prints a line about each step. A fault that lies with its user ends it with a line
of its own and exit code 1; any other fault is handed on as it is, behind what was printed so far.

What a run finds around it is its `Host`. `Outcome.ofReading` is the generating command on what words said,
and `Outcome.ofWords` the whole program: words in, and out of it a tree, two texts and an exit code.
-/

namespace RouteHelpers.CommandLine

/-- Why generating ends early. -/
inductive RunFault where
  | options (f : OptionFile.ReadFault)
  | configuration (f : ValidationFault)
  | router (f : Router.Fault)
  | generate (f : GenerateFault)
  | write (f : WriteFault)
  | console (f : Console.Fault)
  deriving Repr

namespace RunFault

/-- What a reader is told. -/
def message : RunFault → String
  | options f => f.message
  | configuration f => f.message
  | router f => f.message
  | generate (.defaults f) => f.message
  | generate (.collision name paths) => collisionMessage name paths
  | generate (.notJson f) => f.message
  | generate (.badName f) => f.message
  | write f => f.message
  | console f => f.message

/-- Whether a fault of a file is one of the file system. A name that no file can have is none. -/
def isOfSystem (f : Files.FileFault) : Bool :=
  f.kind != .nullCharacter

/-- Whether a fault of a router is that no routes are where it says. -/
def isOfRouter : Router.Fault → Bool
  | .notName _ | .notReference _ | .octetsDirectory | .streamNumber _ | .defaults _ => false
  | .manifest (.file f) | .routeFile (.file f) => isOfSystem f
  | .manifest (.badScalar _) | .manifest (.tooDeep _) | .routeFile _ => false
  | _ => true

/-- Whether a fault is one that a user is told of in a line of its own. -/
def isReported : RunFault → Bool
  | options (.file f) | write (.file f) | write (.octetsFile f) => isOfSystem f
  | options (.configuration _) | configuration (.configuration _) => true
  | router f => isOfRouter f
  | generate (.collision ..) => true
  | options _ | configuration _ | generate _ | write _ | console _ => false

end RunFault

/-- How far a run has come: the tree, what was printed, and what was told. -/
structure Progress where
  tree : Files.Tree
  printed : String
  notices : List Notice

/-- Steps of a run. A fault keeps what the steps before it did. -/
abbrev Run := ExceptT RunFault (StateM Progress)

namespace Run

variable {ε α : Type}

/-- The tree at this point. -/
def tree : Run Files.Tree :=
  return (← get).tree

/-- Prints a text. -/
def print (s : String) : Run Unit :=
  modify fun p => { p with printed := p.printed ++ s }

/-- Tells notices. -/
def tellAll (ns : List Notice) : Run Unit :=
  modify fun p => { p with notices := p.notices ++ ns }

/-- An outcome as a step, with its fault seen as one of a run. -/
def settle (f : ε → RunFault) : Except ε α → Run α
  | .ok a => pure a
  | .error e => throw (f e)

/-- A traced computation as a step. -/
def follow (f : ε → RunFault) (x : Traced ε α) : Run α := do
  tellAll x.notices
  settle f x.outcome

/-- Prints what was laid out, up to a fault in it. -/
def emit (output : Console.Output) : Run Unit := do
  print output.text
  match output.fault with
  | none => pure ()
  | some f => throw (.console f)

variable (host : Host)

/-- Prints a line with markup. -/
def say (s : String) : Run Unit := do
  print (← settle .console (host.console.line s))

/-- Prints a line about a step that succeeded. -/
def sayDone (s : String) : Run Unit :=
  say host (Console.styled "green" "✓" ++ " " ++ s)

/-- Writes files, and gives the places written. -/
def store (files : List OutputFile) : Run (List String) := do
  let w : Writing Unit Empty := Writing.run host.disk [] (← tree) () files
  modify fun p => { p with tree := w.tree }
  tellAll w.notices
  match w.given with
  | .ok places => pure places
  | .error (.write f) => throw (.write f)

/-- The configuration that was asked for: the options of a file with those of the switches on top. -/
def configuration (r : Reading) : Run Configuration := do
  let fromFile ← match r.value? "config" with
    | none => pure []
    | some name => settle .options (OptionFile.read host.yaml (← tree) name)
  settle .configuration (Configuration.ofOptions (fromFile ++ optionsOf r))

/-- Generates the files that were asked for, and gives the routes they are for. -/
def generate (r : Reading) : Run (List Route) := do
  let s := (← configuration host r).settings
  tellAll s.checkNotices
  let records ← follow .router (Router.records host (← tree) [] "." s.router)
  sayDone host ("Loaded " ++ toString records.length ++ " route records")
  let g ← follow .generate (Generation.ofEntries s (records.map .record))
  -- all files are written before a line about any of them
  for path in ← store host g.files do
    sayDone host ("Generated " ++ path)
  sayDone host (toString g.routes.length ++ " routes")
  pure g.routes

/-- Steps that give nothing behind a fault which a user is told of. -/
def attempt (x : Run α) : Run (Option α) :=
  tryCatch (some <$> x) fun f =>
    if f.isReported then do
      say host (Console.styled "red" "Error:" ++ " " ++ host.console.escape f.message)
      pure none
    else throw f

/-- The generating command, with its exit code. -/
def command (r : Reading) : Run Nat := do
  match ← attempt host (generate host r) with
  | none => pure 1
  | some routes =>
    if r.has "show-routes" then
      -- the report stands outside of the attempt, so a fault in it is handed on
      print "\n"
      emit (Report.print host.console routes)
    pure 0

end Run

/-- How the program ended: the tree it left, what it printed in two places, its exit code, and a fault
that it did not report. -/
structure Outcome where
  tree : Files.Tree
  printed : String
  errors : String
  exitCode : Nat
  fault : Option RunFault

namespace Outcome

/-- A text that was asked for. -/
def page (t : Files.Tree) (s : String) : Outcome :=
  ⟨t, s, "", 0, none⟩

/-- A misuse of a command. -/
def misuse (t : Files.Tree) (c : Command) (f : UsageFault) : Outcome :=
  let usage := if f.standsAlone then "" else
    c.usage ++ "\nTry '" ++ c.path ++ " " ++ helpSwitch.name ++ "' for help.\n\n"
  ⟨t, "", usage ++ "Error: " ++ f.message ++ "\n", 2, none⟩

/-- The text that a switch asks for, whatever else was given: the first such switch counts. -/
def asked? (c : Command) (r : Reading) : Option String :=
  r.given.findSome? fun g =>
    if g.switch = helpSwitch then some c.helpPage
    else if g.switch = versionSwitch then some (programName ++ ", version " ++ version ++ "\n")
    else none

/-- The log of a run. -/
def log (isVerbose : Bool) (ns : List Notice) : String :=
  String.join ((ns.filter fun n => isVerbose || n.level != .debug).map fun n => n.line ++ "\n")

variable (host : Host)

/-- A run of the generating command. -/
def ofReading (t : Files.Tree) (r : Reading) : Outcome :=
  let (ending, p) := (Run.command host r).run.run ⟨t, "", []⟩
  let errors := log (r.has "verbose") p.notices
  match ending with
  | .ok code => ⟨p.tree, p.printed, errors, code, none⟩
  | .error f => ⟨p.tree, p.printed, errors, 1, some f⟩

/-- The generating command on the words behind it. -/
def ofGeneratorWords (t : Files.Tree) (words : List String) : Outcome :=
  match Reading.ofWords generation words with
  | .error f => misuse t generation f
  | .ok r =>
    match asked? generation r, r.faulty? t with
    | some text, _ => page t text
    | none, some f => misuse t generation f
    | none, none => ofReading host t r

/-- What becomes of words that begin with no command. They are read once more, since behind two dashes
a switch may stand where a command is expected. -/
def withoutCommand (t : Files.Tree) (name : String) (rest : List String) : Outcome :=
  match Reading.ofWords program (name :: rest) with
  | .error f => misuse t program f
  | .ok r =>
    match asked? program r with
    | some text => page t text
    | none =>
      misuse t program (.noCommand name (Text.closest name (program.subcommands.map (·.1))))

/-- The program on the words behind its name. -/
def ofWords (t : Files.Tree) (words : List String) : Outcome :=
  if words.isEmpty then ⟨t, "", program.helpPage, 2, none⟩
  else
    match Reading.ofWords program words with
    | .error f => misuse t program f
    | .ok r =>
      match asked? program r, r.rest with
      | some text, _ => page t text
      | none, [] => misuse t program .missingCommand
      | none, name :: rest =>
        if name == generator.1 then ofGeneratorWords host t rest else withoutCommand t name rest

end Outcome
end RouteHelpers.CommandLine
