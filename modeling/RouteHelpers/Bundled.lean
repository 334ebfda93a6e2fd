import RouteHelpers.Host
import RouteHelpers.RouteFile.Parse
import RouteHelpers.Terminal.Table
import RouteHelpers.Yaml.Reader

/-!
What the program is built with: a reader of YAML, a parser of Ruby and a terminal of its own.
-/

namespace RouteHelpers

/-- A fault of markup, as one of the console. -/
def Terminal.Markup.Fault.onConsole (f : Terminal.Markup.Fault) : Console.Fault :=
  ⟨match f with
    | .badColor _ => "ValueError"
    | _ => "MarkupError", f.message⟩

/-- A terminal of a number of columns, as a console. -/
def Console.terminal (columns : Nat) : Console where
  line s := (Terminal.printed columns s).mapError (·.onConsole)
  table t := (Terminal.Table.print columns t).mapError (·.onConsole)
  escape := Terminal.Markup.escape

/-- The readers and the terminal of the program, and a disk with room for everything. -/
def Host.bundled : Host where
  yaml := Yaml.read
  ruby := RouteFile.parse
  jsonDepth := 960
  console := .terminal 80
  disk := .ample

end RouteHelpers
