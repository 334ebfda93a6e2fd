import RouteHelpers.Terminal.Handler.Value
import RouteHelpers.Text.Basic
import RouteHelpers.Text.Quoted

/-!
Parameters of handlers.

The tag of a handler may have parameters: the name of an action with values in parentheses behind it, or
values alone. The tag leaves no trace in the text that is printed, but its parameters have to be readable:
`fault?` gives the first fault that a reader meets.
-/

namespace RouteHelpers.Terminal.Handler

/-- The values among parameters. The name of an action may stand in front of them, which are then in
parentheses; a name alone has none. -/
def values (cs : List Char) : List Char :=
  let behind := cs.dropWhile fun c => c == '.' || Text.isWord c
  if behind.isEmpty then ['(', ')']
  else if behind.head? == some '(' && behind.getLast? == some ')' && !behind.contains '\n' then behind
  else cs

/-- Why parameters cannot be read, with the text that should have been a value. -/
def fault? (parameters : String) : Option (String × Fault) :=
  let text := values (Text.stripList Text.isBlank parameters.toList)
  let fault := match Shape.ofText text with
    | .error f => some f
    | .ok s => s.fault?
  fault.map fun f => (String.ofList text, f)

end RouteHelpers.Terminal.Handler
