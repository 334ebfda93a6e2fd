import RouteHelpers.Configuration
import RouteHelpers.Notice

/-!
Settings: the typed view of a valid configuration, which the rest of the program works with.

Options that only ask for something count as given by the truth of their value. The view is total:
where a configuration is not valid, the default of the option stands in.
-/

namespace RouteHelpers

/-- How the emitted module is wrapped. -/
inductive ModuleFormat where
  | esm
  | cjs
  | umd
  | globalNamespace
  deriving DecidableEq, Repr

/-- What a helper returns: a path, or a path with its method. -/
inductive Variant where
  | simple
  | rich
  deriving DecidableEq, Repr

/-- One module for all helpers, or one file per resource. -/
inductive Style where
  | classic
  | resource
  deriving DecidableEq, Repr

/-- How routes are grouped into resources. -/
inductive Grouping where
  | resource
  | scope
  | controller
  deriving DecidableEq, Repr

/-- How helpers are named. -/
structure Naming where
  camelCase : Bool
  compact : Bool
  deriving DecidableEq, Repr

/-- The settings of a run. -/
structure Settings where
  moduleFormat : ModuleFormat
  variant : Variant
  style : Style
  grouping : Grouping
  naming : Naming
  included : List Pattern
  excluded : List Pattern
  urlHelpers : Bool
  documentation : Bool
  withMethods : Bool
  withForms : Bool
  includeIndex : Bool
  includeLive : Bool
  generateTypes : Bool
  defaultUrlOptions : Value
  outputFile : Value
  typesPath : Except Files.NameFault Value
  outputDirectory : Value
  router : Value

namespace Configuration

/-- The patterns of a list of compiled ones. -/
private def patternsOf : Value → List Pattern
  | .list items => items.filterMap fun
    | .pattern source => (Pattern.compile source).toOption
    | _ => none
  | _ => []

/-- The module format of an option. -/
private def moduleFormatOf : Value → ModuleFormat
  | .text "cjs" => .cjs
  | .text "umd" => .umd
  | .null => .globalNamespace
  | _ => .esm

/-- The grouping of an option. -/
private def groupingOf : Value → Grouping
  | .text "scope" => .scope
  | .text "controller" => .controller
  | _ => .resource

/-- The typed view of a configuration. -/
def settings (c : Configuration) : Settings where
  moduleFormat := moduleFormatOf c.moduleType
  variant := if isOneOf ["rich"] c.variant then .rich else .simple
  style := if isOneOf ["resource"] c.style then .resource else .classic
  grouping := groupingOf c.groupBy
  naming := ⟨c.camelCase.isTrue, c.compact.isTrue⟩
  included := patternsOf c.included
  excluded := patternsOf c.excluded
  urlHelpers := c.urlHelpers.isTrue
  documentation := c.documentation.isTrue
  withMethods := c.withMethods.isTrue
  withForms := c.withForms.isTrue
  includeIndex := c.includeIndex.isTrue
  includeLive := c.includeLive.isTrue
  generateTypes := c.generateTypes.isTrue
  defaultUrlOptions := c.defaultUrlOptions
  outputFile := c.outputFile
  typesPath := c.typesPath
  outputDirectory := c.outputDir
  router := c.router

end Configuration

namespace Settings

/-- What a user is told each time the settings are checked. -/
def checkNotices (s : Settings) : List Notice :=
  if (s.withMethods || s.withForms) && s.variant != .rich then [.methodsNeedRich] else []

/-- The settings when nothing is given. -/
def default : Settings :=
  Configuration.settings {}

end Settings
end RouteHelpers
