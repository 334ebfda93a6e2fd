import RouteHelpers.Files.Name
import RouteHelpers.Text.Lines
import RouteHelpers.Text.Quoted
import RouteHelpers.Text.Utf8

/-!
A tree of files as a value.

A tree says what stands at each place below the root, and where the working directory is. Places are
lists of components; file names are texts, and `locate` is the one function that leads from a name to
a place. It goes component by component, so `..` behind a directory that does not exist fails, as does
a component behind a file.

Reading and writing are pure: a write gives another tree. `FileFault` tells what went wrong, with the
name as it was given.

A file is written in two steps. It is opened, which makes it if it is not there and empties it if it is,
and then the text is stored in it. A `Disk` may refuse to store all of the text. Then the file is left with
what the disk took.
-/

namespace RouteHelpers.Files

/-- The content of a file. -/
inductive Content where
  | text (s : String)
  | octets (ns : List Nat)
  deriving DecidableEq, Repr

/-- What stands at a place. -/
inductive Item where
  | file (content : Content)
  | directory
  deriving DecidableEq, Repr

/-- A place: the components from the root. -/
abbrev Place := List String

/-- How a text was not stored: what the file holds in its place, and what the disk tells. -/
structure Shortfall where
  left : Content
  number : Nat
  reason : String
  deriving DecidableEq, Repr

/-- A tree. The root is a directory whether listed or not. -/
structure Tree where
  workingDirectory : Place
  items : List (Place × Item)
  deriving Repr

/-- What becomes of a text that is stored in the open file at a place: nothing if all of it is stored. -/
abbrev Disk := Tree → Place → String → Option Shortfall

/-- A disk with room for every text. -/
def Disk.ample : Disk := fun _ _ _ => none

/-- Why a file cannot be used. -/
inductive FaultKind where
  | notFound
  | alreadyThere
  | notDirectory
  | isDirectory
  | nameTooLong
  | nullCharacter
  /-- The disk did not take a text. This is not told with the name of the file. -/
  | notStored (number : Nat) (reason : String)
  deriving DecidableEq, Repr

/-- Why the file with a name cannot be used. -/
structure FileFault where
  kind : FaultKind
  name : String
  deriving DecidableEq, Repr

/-- What a reader is told, the name being shown in a given way. -/
def FileFault.messageShowing (show' : String → String) (f : FileFault) : String :=
  let numbered (text : String) : String := "[Errno " ++ text ++ ": " ++ show' f.name
  match f.kind with
  | .notFound => numbered "2] No such file or directory"
  | .alreadyThere => numbered "17] File exists"
  | .notDirectory => numbered "20] Not a directory"
  | .isDirectory => numbered "21] Is a directory"
  | .nameTooLong => numbered "36] File name too long"
  | .nullCharacter => "embedded null byte"
  | .notStored number reason => "[Errno " ++ toString number ++ "] " ++ reason

/-- What a reader is told. -/
def FileFault.message (f : FileFault) : String :=
  f.messageShowing Text.quoted

namespace Content

/-- The octets of a content. -/
def toOctets : Content → List Nat
  | text s => Text.encodeUtf8 s
  | octets ns => ns

/-- The text of a content, with every line end as a line feed. -/
def read : Content → Except Text.Utf8Fault (List Char)
  | text s => .ok (Text.plainNewlinesList s.toList)
  | octets ns => (Text.decodeUtf8 ns).map Text.plainNewlinesList

/-- The text of a content that is read piece by piece. Octets that break off at the end are a piece of
their own, so a fault counts their position from their start. -/
def readPieces (c : Content) : Except Text.Utf8Fault (List Char) :=
  c.read.mapError fun f => if f.cause = .endOfData then { f with position := 0 } else f

end Content

namespace Tree

/-! ### Places -/

/-- What stands at a place. -/
def at? (t : Tree) (p : Place) : Option Item :=
  if p.isEmpty then some .directory else (t.items.find? fun i => i.1 == p).map (·.2)

/-- The place that components lead to from a directory. Every place on the way has to be a directory;
the last one need not exist. -/
def follow (t : Tree) (from' : Place) : List String → Except FaultKind Place
  | [] => .ok from'
  | c :: rest =>
    match t.at? from' with
    | none => .error .notFound
    | some (.file _) => .error .notDirectory
    | some .directory =>
      if c.isEmpty || c == "." then follow t from' rest
      else if c == ".." then follow t from'.dropLast rest
      else if 255 < c.utf8ByteSize then .error .nameTooLong
      else follow t (from' ++ [c]) rest

/-- The place that a name leads to. -/
def locate (t : Tree) (name : String) : Except FaultKind Place :=
  if name.isEmpty then .error .notFound
  else if Text.hasChar '\x00' name then .error .nullCharacter
  else
    follow t (if Text.startsWith "/" name then [] else t.workingDirectory) (Text.split '/' name)

/-- What a name leads to. -/
def lookUp (t : Tree) (name : String) : Except FaultKind Item := do
  match t.at? (← t.locate name) with
  | some i => .ok i
  | none => .error .notFound

/-- Whether a name leads to a file. -/
def isFile (t : Tree) (name : String) : Bool :=
  match t.lookUp name with
  | .ok (.file _) => true
  | _ => false

/-- Whether a name leads to a directory. -/
def isDirectory (t : Tree) (name : String) : Bool :=
  match t.lookUp name with
  | .ok .directory => true
  | _ => false

/-- Whether a name leads to anything. -/
def hasItem (t : Tree) (name : String) : Bool :=
  match t.lookUp name with
  | .ok _ => true
  | _ => false

/-- The absolute form of a name, found without looking at the tree. -/
def absolute (t : Tree) (name : String) : String :=
  ofComponents (components (join (ofComponents t.workingDirectory) name))

/-! ### Reading -/

/-- The content of the file with a name. -/
def read (t : Tree) (name : String) : Except FileFault Content :=
  match t.lookUp name with
  | .ok (.file content) => .ok content
  | .ok .directory => .error ⟨.isDirectory, name⟩
  | .error kind => .error ⟨kind, name⟩

/-! ### Writing -/

/-- The tree with an item put at a place. -/
def put (t : Tree) (p : Place) (i : Item) : Tree :=
  if t.items.any (fun x => x.1 == p) then
    { t with items := t.items.map fun x => if x.1 == p then (p, i) else x }
  else { t with items := t.items ++ [(p, i)] }

/-- The tree with an empty file under a name, and the place of the file. -/
def openFile (t : Tree) (name : String) : Except FileFault (Tree × Place) :=
  match t.locate name with
  | .error kind => .error ⟨kind, name⟩
  | .ok p =>
    match t.at? p with
    | some .directory => .error ⟨.isDirectory, name⟩
    | some (.file _) => .ok (t.put p (.file (.text "")), p)
    | none =>
      if Text.endsWith "/" name then .error ⟨.isDirectory, name⟩
      else .ok (t.put p (.file (.text "")), p)

/-- The tree with a file written under a name. Where the text is not stored, the file has been opened. -/
def write (disk : Disk) (t : Tree) (name : String) (content : String) : Tree × Option FileFault :=
  match t.openFile name with
  | .error f => (t, some f)
  | .ok (t, p) =>
    match disk t p content with
    | none => (t.put p (.file (.text content)), none)
    | some s => (t.put p (.file s.left), some ⟨.notStored s.number s.reason, name⟩)

/-- The tree with a directory made under a name. -/
def makeDirectory (t : Tree) (name : String) : Except FileFault Tree :=
  match t.locate name with
  | .error kind => .error ⟨kind, name⟩
  | .ok p =>
    match t.at? p with
    | some _ => .error ⟨.alreadyThere, name⟩
    | none => .ok (t.put p .directory)

/-- The name above a name, and its last component. -/
def cutLast (name : String) : String × String :=
  let last := String.ofList ((name.toList.reverse.takeWhile (· != '/')).reverse)
  (directory name, last)

/-- The tree with a directory made under a name, together with those above it; `fuel` bounds their
number. A directory that is there already is no fault. What was made before a fault stays. -/
def makeDirectoriesFrom : Nat → Tree → String → Tree × Option FileFault
  | 0, t, _ => (t, none)
  | fuel + 1, t, name =>
    let (head, tail) := cutLast name
    let (head, tail) := if tail.isEmpty then cutLast head else (head, tail)
    let hasAbove := head.isEmpty || tail.isEmpty || t.hasItem head
    let (t, fault) := if hasAbove then (t, none) else makeDirectoriesFrom fuel t head
    match fault with
    | some ⟨.alreadyThere, _⟩ | none =>
      if !hasAbove && tail == "." then (t, none)
      else
        match t.makeDirectory name with
        | .ok t => (t, none)
        | .error f =>
          if f.kind != .nullCharacter && t.isDirectory name then (t, none) else (t, some f)
    | some f => (t, some f)

/-- The tree with a directory made under a name, together with those above it, and what went wrong. -/
def makeDirectories (t : Tree) (name : String) : Tree × Option FileFault :=
  makeDirectoriesFrom (name.length + 1) t name

/-! ### Comparison -/

/-- The items of a tree that another one does not have at their places. -/
def changes (before after : Tree) : List (Place × Item) :=
  after.items.filter fun i => before.at? i.1 != some i.2

end Tree
end RouteHelpers.Files
