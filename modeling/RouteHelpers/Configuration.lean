import RouteHelpers.Files.Name
import RouteHelpers.Pattern.Read
import RouteHelpers.Text.Case
import RouteHelpers.Text.Order
import RouteHelpers.Value.Basic

/-!
Generation options as they are given.

A configuration holds a dynamic value per option, since options come from option files and command
lines. `validate` checks the options one after the other and normalizes two kinds on the way: a name
of the global module format becomes null, and the patterns of `include` and `exclude` are compiled.
What was normalized before a check fails stays so, and the fault is the first one met.

Options are given by keyword where they are given by name, so an option cannot go by the name of a
parameter that the call has filled already (`byKeyword`).

`Settings` is the typed view of a valid configuration.
-/

namespace RouteHelpers

/-- The options of a run, each as it was given. -/
structure Configuration where
  moduleType : Value := .text "esm"
  outputFile : Value := .text "assets/js/routes.js"
  typesFile : Value := .null
  generateTypes : Value := .bool true
  included : Value := .list []
  excluded : Value := .list []
  camelCase : Value := .bool false
  urlHelpers : Value := .bool false
  compact : Value := .bool false
  defaultUrlOptions : Value := .map []
  documentation : Value := .bool true
  router : Value := .null
  variant : Value := .text "simple"
  withMethods : Value := .bool false
  withForms : Value := .bool false
  style : Value := .text "classic"
  outputDir : Value := .text "assets/js/routes"
  groupBy : Value := .text "resource"
  includeIndex : Value := .bool true
  includeLive : Value := .bool true
  deriving Repr, Inhabited

/-- Why options cannot be used. -/
inductive ConfigurationFault where
  | unknownOptions (names : List String)
  | unknownOptionsIn (file : String) (names : List String)
  | moduleType (literal : String)
  | variant (literal : String)
  | style (literal : String)
  | groupBy (literal : String)
  | notPatterns (option : String)
  | badPattern (option literal detail : String)
  | notUrlOptions
  | unreadableFile (file detail : String)
  | notOptions (file : String)
  deriving DecidableEq, Repr

/-- What a reader is told. -/
def ConfigurationFault.message : ConfigurationFault → String
  | unknownOptions names => "Unknown configuration option(s): " ++ Text.joinWith ", " names
  | unknownOptionsIn file names =>
    "Unknown configuration option(s) in " ++ file ++ ": " ++ Text.joinWith ", " names
  | moduleType literal =>
    "Invalid module_type: " ++ literal ++ ". Must be one of 'esm', 'cjs', 'umd', or None"
  | variant literal => "Invalid variant: " ++ literal ++ ". Must be 'simple' or 'rich'"
  | style literal => "Invalid style: " ++ literal ++ ". Must be 'classic' or 'resource'"
  | groupBy literal =>
    "Invalid group_by: " ++ literal ++ ". Must be 'resource', 'scope', or 'controller'"
  | notPatterns option => option ++ " must be a list of regular expressions"
  | badPattern option literal detail => "Invalid " ++ option ++ " pattern " ++ literal ++ ": " ++ detail
  | notUrlOptions => "default_url_options must be a mapping"
  | unreadableFile file detail => "Cannot parse config file " ++ file ++ ": " ++ detail
  | notOptions file => "Config file " ++ file ++ " must contain a mapping of options"

/-- Why a configuration is not valid: an option has a wrong value, a pattern counts higher than anything
can, or a number in either is too long. -/
inductive ValidationFault where
  | configuration (f : ConfigurationFault)
  | countTooLarge
  | numeral (f : Text.NumeralFault)
  deriving DecidableEq, Repr

/-- What a reader is told. -/
def ValidationFault.message : ValidationFault → String
  | configuration f => f.message
  | countTooLarge => Pattern.Fault.message [] .countTooLarge
  | numeral f => f.message

/-- Why a call that gives options by keyword has no result. -/
inductive CallFault where
  /-- A keyword is the name of a parameter that the call has filled. -/
  | alreadyGiven (function parameter : String)
  | invalid (f : ValidationFault)
  deriving DecidableEq, Repr

/-- What a reader is told. -/
def CallFault.message : CallFault → String
  | alreadyGiven function parameter =>
    function ++ "() got multiple values for argument '" ++ parameter ++ "'"
  | invalid f => f.message

namespace Configuration

/-! ### Options by name -/

/-- An option: its name, its value in a configuration, and the configuration with another value. -/
structure Field where
  name : String
  get : Configuration → Value
  set : Value → Configuration → Configuration

/-- Every option. -/
def fields : List Field :=
  [⟨"module_type", moduleType, fun v c => { c with moduleType := v }⟩,
   ⟨"output_file", outputFile, fun v c => { c with outputFile := v }⟩,
   ⟨"types_file", typesFile, fun v c => { c with typesFile := v }⟩,
   ⟨"generate_types", generateTypes, fun v c => { c with generateTypes := v }⟩,
   ⟨"include", included, fun v c => { c with included := v }⟩,
   ⟨"exclude", excluded, fun v c => { c with excluded := v }⟩,
   ⟨"camel_case", camelCase, fun v c => { c with camelCase := v }⟩,
   ⟨"url_helpers", urlHelpers, fun v c => { c with urlHelpers := v }⟩,
   ⟨"compact", compact, fun v c => { c with compact := v }⟩,
   ⟨"default_url_options", defaultUrlOptions, fun v c => { c with defaultUrlOptions := v }⟩,
   ⟨"documentation", documentation, fun v c => { c with documentation := v }⟩,
   ⟨"router", router, fun v c => { c with router := v }⟩,
   ⟨"variant", variant, fun v c => { c with variant := v }⟩,
   ⟨"with_methods", withMethods, fun v c => { c with withMethods := v }⟩,
   ⟨"with_forms", withForms, fun v c => { c with withForms := v }⟩,
   ⟨"style", style, fun v c => { c with style := v }⟩,
   ⟨"output_dir", outputDir, fun v c => { c with outputDir := v }⟩,
   ⟨"group_by", groupBy, fun v c => { c with groupBy := v }⟩,
   ⟨"include_index", includeIndex, fun v c => { c with includeIndex := v }⟩,
   ⟨"include_live", includeLive, fun v c => { c with includeLive := v }⟩]

/-- Whether a name is that of an option. -/
def isOption (name : String) : Bool :=
  fields.any (·.name == name)

/-- A configuration with an option set; a name of no option changes nothing. -/
def assign (c : Configuration) (name : String) (v : Value) : Configuration :=
  match fields.find? (·.name == name) with
  | some o => o.set v c
  | none => c

/-- A configuration with several options set, one after the other. -/
def assignAll (c : Configuration) (given : List (String × Value)) : Configuration :=
  given.foldl (fun c o => c.assign o.1 o.2) c

/-! ### Validation -/

/-- The names of the global module format, in lower case. -/
def globalNames : List String := ["none", "nil", "global", ""]

/-- A value with the names of the global module format replaced by null. -/
def normalizeModuleType : Value → Value
  | .text s => if globalNames.contains (Text.lower s) then .null else .text s
  | v => v

/-- Whether a value is one of several texts. -/
def isOneOf (choices : List String) : Value → Bool
  | .text s => choices.contains s
  | _ => false

/-- A pattern in compiled form. -/
def compilePattern (option : String) : Value → Except ValidationFault Value
  | .pattern source => .ok (.pattern source)
  | .text source =>
    match Pattern.compile source with
    | .ok _ => .ok (.pattern source)
    | .error .countTooLarge => .error .countTooLarge
    | .error (.numeral f) => .error (.numeral f)
    | .error f =>
      .error (.configuration (.badPattern option (Text.quoted source) (f.message source.toList)))
  | _ => .error (.configuration (.notPatterns option))

/-- The patterns of a list or a tuple, as the list of their compiled forms. -/
def compilePatterns (option : String) : Value → Except ValidationFault Value
  | .list items | .tuple items => (items.mapM (compilePattern option)).map .list
  | _ => .error (.configuration (.notPatterns option))

/-- A check of a configuration: what it has become so far, and the fault that ended the check. -/
structure Checked where
  configuration : Configuration
  fault : Option ValidationFault

/-- The fault of an option whose value is shown. -/
def faultShowing (f : String → ConfigurationFault) (v : Value) : ValidationFault :=
  if v.isWritable then .configuration (f v.literal) else .numeral .tooLongToWrite

/-- The checks before the patterns are compiled. -/
def choiceFault? (c : Configuration) : Option ValidationFault :=
  if !(c.moduleType.isNull || isOneOf ["esm", "cjs", "umd"] c.moduleType) then
    some (faultShowing .moduleType c.moduleType)
  else if !isOneOf ["simple", "rich"] c.variant then some (faultShowing .variant c.variant)
  else if !isOneOf ["classic", "resource"] c.style then some (faultShowing .style c.style)
  else if !isOneOf ["resource", "scope", "controller"] c.groupBy then
    some (faultShowing .groupBy c.groupBy)
  else none

/-- Checks every option, normalizing on the way. -/
def validate (c : Configuration) : Checked :=
  let c := { c with moduleType := normalizeModuleType c.moduleType }
  match choiceFault? c with
  | some f => ⟨c, some f⟩
  | none =>
    match compilePatterns "include" c.included with
    | .error f => ⟨c, some f⟩
    | .ok patterns =>
      -- from here on the patterns stay compiled, whatever is found about other options
      let c := { c with included := patterns }
      match compilePatterns "exclude" c.excluded with
      | .error f => ⟨c, some f⟩
      | .ok patterns =>
        let c := { c with excluded := patterns }
        match c.defaultUrlOptions with
        | .map _ => ⟨c, none⟩
        | _ => ⟨c, some (.configuration .notUrlOptions)⟩

/-- The valid form of a configuration. -/
def valid (c : Configuration) : Except ValidationFault Configuration :=
  let checked := c.validate
  match checked.fault with
  | none => .ok checked.configuration
  | some f => .error f

/-- The given names that no option has, in order. -/
def unknownNames (given : List (String × Value)) : List String :=
  Text.sorted (Text.distinct ((given.map (·.1)).filter fun name => !isOption name))

/-- A valid configuration with several options set on top. -/
def merge (c : Configuration) (given : List (String × Value)) :
    Except ValidationFault Configuration :=
  match unknownNames given with
  | [] => (c.assignAll given).valid
  | names => .error (.configuration (.unknownOptions names))

/-- The valid configuration with the given options. -/
def ofOptions (given : List (String × Value)) : Except ValidationFault Configuration :=
  merge {} given

/-- A function whose options are given by keyword, in a call that fills a parameter of the function
already: no option can go by the name of that parameter. -/
def byKeyword (function parameter : String)
    (f : List (String × Value) → Except ValidationFault Configuration)
    (given : List (String × Value)) : Except CallFault Configuration :=
  if given.any (·.1 == parameter) then .error (.alreadyGiven function parameter)
  else (f given).mapError .invalid

/-- `merge` with its options by keyword. -/
def mergeKeywords (c : Configuration) : List (String × Value) → Except CallFault Configuration :=
  byKeyword "Configuration.merge" "self" c.merge

/-- `ofOptions` with its options by keyword. -/
def ofKeywords : List (String × Value) → Except CallFault Configuration :=
  byKeyword "Configuration.new" "cls" ofOptions

/-- The configuration with the given options, without any check; the first name of no option is the
fault. -/
def unchecked (given : List (String × Value)) : Except String Configuration :=
  match given.find? (fun o => !isOption o.1) with
  | some o => .error o.1
  | none => .ok (assignAll {} given)

/-- Where the type declarations go: the given place, or one beside the output file. -/
def typesPath (c : Configuration) : Except Files.NameFault Value :=
  if c.typesFile.isTrue then .ok c.typesFile
  else
    match c.outputFile with
    | .text s => .ok (.text (Files.withoutExtension s ++ ".d.ts"))
    | .bytes _ => .error .octetsBeforeText
    | v => .error (.kind v.kind)

end Configuration
end RouteHelpers
