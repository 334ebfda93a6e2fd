import RouteHelpers.Console
import RouteHelpers.Files.Tree
import RouteHelpers.RouteFile.Node
import RouteHelpers.Value.Basic
import RouteHelpers.Yaml.Fault

/-!
What a run of the program finds around it.

The program reads YAML documents and Ruby source by libraries, prints on a console and writes to a disk.
It takes them as they are: what it does with the values, the statements and the texts that it gets from
them is the same for all.
-/

namespace RouteHelpers

/-- What a run finds around it. -/
structure Host where
  /-- The reader of YAML documents. -/
  yaml : List Char → Except Yaml.ReadFault Value
  /-- The parser of Ruby source, in which marks stand for octets that are no text. -/
  ruby : List Char → List RouteFile.Node
  /-- How deep lists and mappings of a JSON document may be nested. -/
  jsonDepth : Nat
  console : Console
  disk : Files.Disk

end RouteHelpers
