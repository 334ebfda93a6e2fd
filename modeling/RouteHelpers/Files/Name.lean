import RouteHelpers.Text.Basic
import RouteHelpers.Text.Octet
import RouteHelpers.Text.Quoted

/-!
Names of files: texts of components between slashes.

A name may also be given as octets. It is then the marked text of these, and messages show the octets.
Octets do not mix with texts, so a name cannot be made of both.
-/

namespace RouteHelpers.Files

/-- Why a value leads to no name. -/
inductive NameFault where
  /-- It is neither a text nor octets, but of the given kind. -/
  | kind (kind : String)
  /-- Octets would be a component beside texts. -/
  | octetsAmongTexts
  /-- Octets would have a text behind them. -/
  | octetsBeforeText
  deriving DecidableEq, Repr

/-- What a reader is told. -/
def NameFault.message : NameFault → String
  | kind k => "expected str, bytes or os.PathLike object, not " ++ k
  | octetsAmongTexts => "Can't mix strings and bytes in path components"
  | octetsBeforeText => "can't concat str to bytes"

/-- The name that octets give. -/
def ofOctets (octets : List Nat) : String :=
  String.ofList (Text.marked octets)

/-- How messages show a name that was given as octets. -/
def octetsLiteral (name : String) : String :=
  Text.quotedOctets (Text.unmarked name.toList)

/-- A name under a directory. An absolute name stands for itself. -/
def join (directory name : String) : String :=
  if Text.startsWith "/" name then name
  else if directory.isEmpty || Text.endsWith "/" directory then directory ++ name
  else directory ++ "/" ++ name

/-- What follows the last slash, and what precedes it up to and with that slash. -/
def cutAtLastSlash (cs : List Char) : List Char × List Char :=
  let last := (cs.reverse.takeWhile (· != '/')).reverse
  (cs.take (cs.length - last.length), last)

/-- The directory part of a name, without slashes at its end unless it holds nothing else. -/
def directory (name : String) : String :=
  let head := (cutAtLastSlash name.toList).1
  if head.all (· == '/') then String.ofList head
  else String.ofList (Text.dropEndList (· == '/') head)

/-- A name cut before the last point of its last component, if something other than points precedes
that point; otherwise nothing is cut off. -/
def cutExtension (name : String) : String × String :=
  let (head, last) := cutAtLastSlash name.toList
  let extension := (last.reverse.takeWhile (· != '.')).reverse
  -- the last component up to and with its last point
  let stem := last.take (last.length - extension.length)
  if stem.all (· == '.') then (name, "")
  else (String.ofList (head ++ stem.dropLast), String.ofList ('.' :: extension))

/-- A name without its extension. -/
def withoutExtension (name : String) : String :=
  (cutExtension name).1

/-- The extension of a name, with its point; empty if there is none. -/
def extension (name : String) : String :=
  (cutExtension name).2

/-- The components of an absolute name, with `.` and `..` worked off. -/
def components (name : String) : List String :=
  (Text.split '/' name).foldl
    (fun done c =>
      if c.isEmpty || c == "." then done
      else if c == ".." then done.dropLast
      else done ++ [c])
    []

/-- The absolute name of components. -/
def ofComponents (cs : List String) : String :=
  "/" ++ Text.joinWith "/" cs

end RouteHelpers.Files
