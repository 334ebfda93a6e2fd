import RouteHelpers.CommandLine.Reading
import RouteHelpers.Value.Basic

/-!
The commands of the program.

The program has one subcommand, which generates route helpers. Most of its switches set an option of
the configuration; `optionsOf` is what those that were given set, to be laid over the options of a file.
-/

namespace RouteHelpers.CommandLine

/-- The name of the program. -/
def programName : String := "routes-js"

/-- The version of the program. -/
def version : String := "0.1.0"

/-- The switch that asks for help. -/
def helpSwitch : Switch :=
  ⟨"help", none, .nothing, "Show this message and exit."⟩

/-- The switch that asks for the version. -/
def versionSwitch : Switch :=
  ⟨"version", none, .nothing, "Show the version and exit."⟩

/-- The name of the subcommand, and its short description. -/
def generator : String × String :=
  ("gen", "Generate route helpers.")

/-- The program itself. -/
def program : Command where
  path := programName
  operands := "[OPTIONS] COMMAND [ARGS]..."
  description := ["Generate JavaScript/TypeScript route helpers from a route table."]
  switches := [versionSwitch, helpSwitch]
  subcommands := [generator]

/-- The subcommand that generates. -/
def generation : Command where
  path := programName ++ " " ++ generator.1
  operands := "[OPTIONS]"
  description := [generator.2,
    "Options from --config are applied first; flags given on the command line override them."]
  switches :=
    [⟨"router", some 'r', .text,
        "routes.rb, route manifest (.yaml/.json) or module:attribute (default: auto-detect)"⟩,
      ⟨"config", none, .file, "YAML file with generation options"⟩,
      ⟨"output", some 'o', .text, "Output JS file (classic style)"⟩,
      ⟨"types-file", none, .text, "Type declarations file (default: derived from --output)"⟩,
      ⟨"no-types", none, .nothing, "Skip the .d.ts file"⟩,
      ⟨"module-type", none, .choice ["esm", "cjs", "umd", "none"], "Module format (default: esm)"⟩,
      ⟨"variant", none, .choice ["simple", "rich"], "Helper output shape (default: simple)"⟩,
      ⟨"with-methods", none, .nothing, "Rich variant: add .get/.head/.url and verb variants"⟩,
      ⟨"with-forms", none, .nothing, "Rich variant: add .form helpers with method spoofing"⟩,
      ⟨"include", none, .text, "Only helpers matching this regex (repeatable)"⟩,
      ⟨"exclude", none, .text, "Skip helpers matching this regex (repeatable)"⟩,
      ⟨"camel-case", none, .nothing, "camelCase helper names"⟩,
      ⟨"compact", none, .nothing, "Drop the _path suffix"⟩,
      ⟨"url-helpers", none, .nothing, "Also emit absolute *_url helpers"⟩,
      ⟨"no-documentation", none, .nothing, "Skip JSDoc comments"⟩,
      ⟨"style", none, .choice ["classic", "resource"],
        "One file (classic) or one file per resource (default: classic)"⟩,
      ⟨"output-dir", none, .text, "Output directory (resource style)"⟩,
      ⟨"group-by", none, .choice ["resource", "scope", "controller"],
        "Resource grouping strategy (default: resource)"⟩,
      ⟨"no-index", none, .nothing, "Resource style: skip the index.ts barrel"⟩,
      ⟨"no-live", none, .nothing, "Skip live routes"⟩,
      ⟨"show-routes", none, .nothing, "Print a table of generated helpers"⟩,
      ⟨"verbose", some 'v', .nothing, "Enable debug logging"⟩,
      helpSwitch]
  subcommands := []

/-! ### Options -/

/-- What a switch sets: an option, to a value made from those that were given for the switch. -/
structure Setter where
  switch : String
  option : String
  value : List String → Value

/-- The last of several texts. -/
def lastText (values : List String) : Value :=
  .text (values.getLast?.getD "")

/-- All of several texts. -/
def allTexts (values : List String) : Value :=
  .list (values.map .text)

/-- What the switches set. -/
def setters : List Setter :=
  [⟨"router", "router", lastText⟩,
    ⟨"output", "output_file", lastText⟩,
    ⟨"types-file", "types_file", lastText⟩,
    ⟨"module-type", "module_type", lastText⟩,
    ⟨"variant", "variant", lastText⟩,
    ⟨"style", "style", lastText⟩,
    ⟨"output-dir", "output_dir", lastText⟩,
    ⟨"group-by", "group_by", lastText⟩,
    ⟨"no-types", "generate_types", fun _ => .bool false⟩,
    ⟨"with-methods", "with_methods", fun _ => .bool true⟩,
    ⟨"with-forms", "with_forms", fun _ => .bool true⟩,
    ⟨"camel-case", "camel_case", fun _ => .bool true⟩,
    ⟨"compact", "compact", fun _ => .bool true⟩,
    ⟨"url-helpers", "url_helpers", fun _ => .bool true⟩,
    ⟨"no-documentation", "documentation", fun _ => .bool false⟩,
    ⟨"no-index", "include_index", fun _ => .bool false⟩,
    ⟨"no-live", "include_live", fun _ => .bool false⟩,
    ⟨"include", "include", allTexts⟩,
    ⟨"exclude", "exclude", allTexts⟩]

/-- The options that the given switches set. -/
def optionsOf (r : Reading) : List (String × Value) :=
  (setters.filter fun s => r.has s.switch).map fun s => (s.option, s.value (r.values s.switch))

end RouteHelpers.CommandLine
