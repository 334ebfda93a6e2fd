import RouteHelpers.Console
import RouteHelpers.Route
import RouteHelpers.Text.Order

/-!
The report about generated helpers: a table with a row for each one, and a summary with counts.

Names and paths are printed with their markup active. A percentage is rounded down, so those of all
verbs may add up to less than a hundred. A few words are printed in a style; `summary` is the text of the
summary without the styles.
-/

namespace RouteHelpers.Report

/-- The columns of the table. -/
def columns : List Console.Column :=
  [⟨"Helper", none, some 40⟩, ⟨"Method", some 8, none⟩, ⟨"Path", none, some 48⟩,
    ⟨"Params", none, some 30⟩]

/-- The parameters of a route: the required ones, then the others with a question mark; a dash if
there are none. -/
def parameterCell (r : Route) : String :=
  let others := r.optional.filter fun name => !r.required.contains name
  let cell := Text.joinWith ", "
    (r.required ++ others.map fun name => Console.styled "dim" (name ++ "?"))
  if cell.isEmpty then "-" else cell

/-- The style that a verb is shown in. -/
def verbStyle (verb : String) : String :=
  match verb with
  | "GET" => "green"
  | "POST" => "yellow"
  | "PUT" | "PATCH" => "blue"
  | "DELETE" => "red"
  | _ => "white"

/-- The row of a route. -/
def row (r : Route) : List String :=
  [r.name, Console.styled (verbStyle r.verb) r.verb, r.path, parameterCell r]

/-- The table of routes. -/
def table (routes : List Route) : Console.Table :=
  ⟨"Generated Route Helpers", columns, routes.map row⟩

/-! ### Summary -/

/-- Whether the action of a route was added to its helper to tell it apart. -/
def isDisambiguated (r : Route) : Bool :=
  match r.action with
  | some action => !action.isEmpty && Text.endsWith ("_" ++ action) r.helper
  | none => false

/-- A count at the right of four places. -/
def countText (n : Nat) : String :=
  Text.padLeft 4 (toString n)

/-- The line about a verb, where `total` routes have any verb. -/
def verbLine (total : Nat) (routes : List Route) (verb : String) : String :=
  let count := routes.countP (·.verb == verb)
  "  " ++ Text.padRight 18 (verb ++ ":") ++ " " ++ countText count ++ "  (" ++
    toString (count * 100 / total) ++ "%)"

/-- The lines of the summary, where `paint` puts a text into a style. -/
def summaryIn (paint : String → String → String) (routes : List Route) : List String :=
  let verbs := Text.sorted (Text.distinct (routes.map (·.verb)))
  let disambiguated := routes.countP isDisambiguated
  [paint "bold" "Summary:", "  Total helpers:     " ++ toString routes.length] ++
    verbs.map (verbLine routes.length routes) ++
    ["  With path params:  " ++ countText (routes.countP fun r => !r.required.isEmpty)] ++
    (if disambiguated = 0 then []
      else ["  " ++ paint "yellow" ("Disambiguated:     " ++ countText disambiguated)])

/-- The lines of the summary as they are read. -/
def summary (routes : List Route) : List String :=
  summaryIn (fun _ text => text) routes

/-- The report about routes on a console. -/
def print (c : Console) (routes : List Route) : Console.Output :=
  .ofParts <|
    if routes.isEmpty then [c.line (Console.styled "yellow" "No routes generated.")]
    else
      [c.table (table routes), .ok "\n"] ++
        (summaryIn Console.styled routes).map c.line ++ [.ok "\n"]

end RouteHelpers.Report
