import RouteHelpers.CommandLine.Switch
import RouteHelpers.Files.Tree
import RouteHelpers.Text.Likeness

/-!
Reading the words behind a command.

`Reading.ofWords` goes through the words once. A word that begins with a dash is a switch in its long
form, with a value behind an equals sign or in the next word, or a row of switches in their short form,
the last of which may have its value attached. Two dashes end the switches. Whatever else there is
stays as it is; the first such word ends the switches of a command that has subcommands.

What was read is judged after all of it has been read. `Reading.faulty?` looks at the values of switches
in the order in which these first occurred, and at the last value of each.
-/

namespace RouteHelpers.CommandLine

/-- Why words are not understood. Switches are named as they were written. -/
inductive UsageFault where
  | noSwitch (name : String) (similar : List String)
  | takesNoValue (name : String)
  | needsValue (name : String)
  | notOneOf (name value : String) (choices : List String)
  | noFile (name value : String)
  | isDirectory (name value : String)
  | unexpected (words : List String)
  | noCommand (name : String) (similar : List String)
  | missingCommand
  deriving DecidableEq, Repr

namespace UsageFault

/-- What was perhaps meant, as the end of a message. -/
def suggestion (similar : List String) : String :=
  match (Text.sorted similar).map Text.quoted with
  | [] => ""
  | [one] => " Did you mean " ++ one ++ "?"
  | several => " (Did you mean one of: " ++ Text.joinWith ", " several ++ "?)"

/-- What a user is told. -/
def message : UsageFault → String
  | noSwitch name similar => "No such option " ++ Text.quoted name ++ "." ++ suggestion similar
  | takesNoValue name => "Option " ++ Text.quoted name ++ " does not take a value."
  | needsValue name => "Option " ++ Text.quoted name ++ " requires an argument."
  | notOneOf name value choices =>
    "Invalid value for " ++ Text.quoted name ++ ": " ++ Text.quoted value ++ " is not one of " ++
      Text.joinWith ", " (choices.map Text.quoted) ++ "."
  | noFile name value =>
    "Invalid value for " ++ Text.quoted name ++ ": File " ++ Text.quoted value ++ " does not exist."
  | isDirectory name value =>
    "Invalid value for " ++ Text.quoted name ++ ": File " ++ Text.quoted value ++ " is a directory."
  | unexpected [word] => "Got unexpected extra argument (" ++ word ++ ")"
  | unexpected words => "Got unexpected extra arguments (" ++ Text.joinWith " " words ++ ")"
  | noCommand name similar => "No such command " ++ Text.quoted name ++ "." ++ suggestion similar
  | missingCommand => "Missing command."

/-- Whether the message stands alone, without how the command is used. -/
def standsAlone : UsageFault → Bool
  | takesNoValue _ | needsValue _ => true
  | _ => false

end UsageFault

/-- A switch that was given, with its value; the value of a switch that takes none is empty. -/
structure Given where
  switch : Switch
  value : String
  deriving DecidableEq, Repr

/-- What was read: the switches in the order in which they were given, and the other words. -/
structure Reading where
  given : List Given
  rest : List String
  deriving DecidableEq, Repr

/-- What a word gives, and whether it takes the next word as its value. -/
structure Taken where
  given : List Given
  takesNext : Bool

namespace Reading

/-- Whether a word is one of switches. -/
def isSwitchWord (word : String) : Bool :=
  Text.startsWith "-" word && 1 < word.length

/-- A switch written under a name, with the value attached to it if there is one, and the word behind
it. -/
def take (name : String) (s : Switch) (attached next : Option String) :
    Except UsageFault Taken :=
  match s.takesValue, attached, next with
  | true, some value, _ => .ok ⟨[⟨s, value⟩], false⟩
  | true, none, some value => .ok ⟨[⟨s, value⟩], true⟩
  | true, none, none => .error (.needsValue name)
  | false, some _, _ => .error (.takesNoValue name)
  | false, none, _ => .ok ⟨[⟨s, ""⟩], false⟩

/-- A row of switches in their short form. -/
def takeLetters (c : Command) (next : Option String) : List Char → Except UsageFault Taken
  | [] => .ok ⟨[], false⟩
  | letter :: rest =>
    let name := String.ofList ['-', letter]
    match c.letterSwitch? letter with
    | none => .error (.noSwitch name [])
    | some s =>
      if s.takesValue then
        take name s (if rest.isEmpty then none else some (String.ofList rest)) next
      else do
        let more ← takeLetters c next rest
        .ok { more with given := ⟨s, ""⟩ :: more.given }

/-- A word of switches. -/
def takeWord (c : Command) (word : String) (next : Option String) : Except UsageFault Taken :=
  let (name, attached) := Text.cut '=' word
  match c.switch? name with
  | some s => take name s attached next
  | none =>
    if Text.startsWith "--" word then
      .error (.noSwitch name (Text.closest name (c.switches.map (·.name))))
    else takeLetters c next (word.toList.drop 1)

/-- What the words behind a command say. -/
def ofWords (c : Command) : List String → Except UsageFault Reading
  | [] => .ok ⟨[], []⟩
  | word :: rest =>
    if word == "--" then .ok ⟨[], rest⟩
    else if isSwitchWord word then do
      let taken ← takeWord c word rest.head?
      let more ← ofWords c (if taken.takesNext then rest.tail else rest)
      .ok { more with given := taken.given ++ more.given }
    else if c.isMixed then do
      let more ← ofWords c rest
      .ok { more with rest := word :: more.rest }
    else .ok ⟨[], word :: rest⟩
termination_by words => words.length
decreasing_by all_goals simp_all; try split <;> grind

/-- The values that were given for a switch, in order. -/
def values (r : Reading) (word : String) : List String :=
  (r.given.filter (·.switch.word == word)).map (·.value)

/-- Whether a switch was given. -/
def has (r : Reading) (word : String) : Bool :=
  r.given.any (·.switch.word == word)

/-- The value that counts for a switch: the last one. -/
def value? (r : Reading) (word : String) : Option String :=
  (r.values word).getLast?

/-- The switches that were given, each one where it first occurred. -/
def switches (r : Reading) : List Switch :=
  Text.distinct (r.given.map (·.switch))

/-- What is wrong with the value of a switch. A name that no file can have passes: it is found out
when the file is read. -/
def valueFault? (t : Files.Tree) (s : Switch) (value : String) : Option UsageFault :=
  match s.argument with
  | .nothing | .text => none
  | .file =>
    match t.lookUp value with
    | .ok (.file _) | .error .nullCharacter => none
    | .ok .directory => some (.isDirectory s.name value)
    | .error _ => some (.noFile s.name value)
  | .choice words => if words.contains value then none else some (.notOneOf s.name value words)

/-- What is wrong with what was read for a command that takes no other words. -/
def faulty? (t : Files.Tree) (r : Reading) : Option UsageFault :=
  match r.switches.findSome? fun s => valueFault? t s ((r.value? s.word).getD "") with
  | some f => some f
  | none => if r.rest.isEmpty then none else some (.unexpected r.rest)

end Reading
end RouteHelpers.CommandLine
