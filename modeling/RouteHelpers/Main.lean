import RouteHelpers.Bundled
import RouteHelpers.CommandLine.Run

/-!
The program on the files of the system.

The files are read once, before the run, and what the run changed is written behind it. Read are the
names of everything below the working directory and below what the words name, and the contents of
those files that a run may look into.
-/

namespace RouteHelpers.CommandLine

/-- What words may name: they themselves, and what follows an equals sign in them. -/
def namesIn (words : List String) : List String :=
  words ++ words.filterMap fun w => (Text.cut '=' w).2

/-- Whether a run may look into the file at a place: one that holds routes by its ending, or one of
those named. -/
def mayBeRead (named : List Files.Place) (place : Files.Place) : Bool :=
  named.contains place ||
    [".rb", ".yaml", ".yml", ".json"].any fun e => Text.endsWith e (Text.lower (Files.ofComponents place))

/-- The directories above a place. -/
def directoriesAbove (place : Files.Place) : List Files.Place :=
  (List.range place.length).map place.take

/-- The file or directory at a place. -/
def entryAt (place : Files.Place) : IO.FS.DirEntry :=
  ⟨"/", Text.joinWith "/" place⟩

/-- The items at a place and below it. Links to directories are not followed, and a directory that may
not be read counts as empty. -/
partial def itemsFrom (named : List Files.Place) (place : Files.Place) (entry : IO.FS.DirEntry) :
    IO (List (Files.Place × Files.Item)) := do
  if ← entry.path.isDir then
    let isLink := (← entry.path.symlinkMetadata).type matches .symlink
    let children ← if isLink then pure #[] else try entry.path.readDir catch _ => pure #[]
    let below ← children.toList.mapM fun child => itemsFrom named (place ++ [child.fileName]) child
    pure ((place, .directory) :: below.flatten)
  else if !(← entry.path.pathExists) then pure []
  else if mayBeRead named place then
    let octets ← IO.FS.readBinFile entry.path
    pure [(place, .file (.octets (octets.toList.map UInt8.toNat)))]
  else pure [(place, .file (.octets []))]

/-- The place below which everything at and around a named place lies: a directory itself, and for a
file of routes the directory that holds it. -/
def topOf (place : Files.Place) : IO Files.Place := do
  let isRoutes := Text.endsWith ".rb" (place.getLast?.getD "")
  if isRoutes && (← (entryAt place).path.pathExists) then pure place.dropLast else pure place

/-- The places above a place that are there, and those that are files. -/
def itemsAbove (place : Files.Place) : IO (List (Files.Place × Files.Item)) := do
  let found ← (directoriesAbove place).mapM fun above => do
    let path := (entryAt above).path
    if ← path.isDir then pure [(above, Files.Item.directory)]
    else if ← path.pathExists then pure [(above, .file (.octets []))]
    else pure []
  pure found.flatten

/-- The tree that a run with some words starts from. The root is not looked into as a whole. -/
def treeFor (words : List String) : IO Files.Tree := do
  let directory ← IO.currentDir
  let here := Files.components directory.toString
  let named := (namesIn words).map fun name => Files.components (Files.join directory.toString name)
  let mut tops := [here]
  for place in named do
    let top ← topOf place
    if !top.isEmpty && !tops.any (·.isPrefixOf top) then tops := tops ++ [top]
  let above ← tops.mapM itemsAbove
  let below ← tops.mapM fun place => itemsFrom named place (entryAt place)
  pure ⟨here, Text.distinct (above.flatten.filter (!·.1.isEmpty)) ++ below.flatten⟩

/-- Writes an item to its place. -/
def write (place : Files.Place) (item : Files.Item) : IO Unit :=
  let path := (entryAt place).path
  match item with
  | .directory => IO.FS.createDirAll path
  | .file (.text s) => IO.FS.writeFile path s
  | .file (.octets ns) => IO.FS.writeBinFile path ⟨(ns.map UInt8.ofNat).toArray⟩

end RouteHelpers.CommandLine

open RouteHelpers RouteHelpers.CommandLine in
/-- Runs the program on the words behind its name. -/
def main (words : List String) : IO UInt32 := do
  let before ← treeFor words
  let outcome := Outcome.ofWords .bundled before words
  for (place, item) in before.changes outcome.tree do
    CommandLine.write place item
  IO.print outcome.printed
  IO.eprint outcome.errors
  if let some f := outcome.fault then IO.eprintln f.message
  return outcome.exitCode.toUInt32
