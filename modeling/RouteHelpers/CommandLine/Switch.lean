import RouteHelpers.Text.Basic

/-!
Switches and the commands that have them.

A switch is a word behind two dashes, with a letter behind one dash as its short form where it has
one. It takes no value, a text, the name of a file, or one of several words. A command has switches, a
description, and the subcommands that may follow it; only a command without subcommands takes switches
behind other words.
-/

namespace RouteHelpers.CommandLine

/-- What a switch takes. -/
inductive Argument where
  | nothing
  | text
  /-- The name of a file that exists. -/
  | file
  /-- One of several words. -/
  | choice (words : List String)
  deriving DecidableEq, Repr

/-- A switch: its word, its letter, what it takes, and what a user is told about it. -/
structure Switch where
  word : String
  letter : Option Char
  argument : Argument
  help : String
  deriving DecidableEq, Repr

namespace Switch

/-- The switch as it is written. -/
def name (s : Switch) : String :=
  "--" ++ s.word

/-- The short form as it is written. -/
def shortName? (s : Switch) : Option String :=
  s.letter.map fun c => String.ofList ['-', c]

/-- Whether a value follows the switch. -/
def takesValue (s : Switch) : Bool :=
  s.argument != .nothing

/-- The switch as help shows it: its forms, and what it takes. -/
def label (s : Switch) : String :=
  let forms := Text.joinWith ", " (s.shortName?.toList ++ [s.name])
  match s.argument with
  | .nothing => forms
  | .text => forms ++ " TEXT"
  | .file => forms ++ " FILE"
  | .choice words => forms ++ " [" ++ Text.joinWith "|" words ++ "]"

end Switch

/-- A command. -/
structure Command where
  /-- The words that call it. -/
  path : String
  /-- What may follow it, as help shows it. -/
  operands : String
  description : List String
  switches : List Switch
  /-- The commands below it, each with a short description. -/
  subcommands : List (String × String)
  deriving Repr

namespace Command

/-- Whether switches may follow other words. -/
def isMixed (c : Command) : Bool :=
  c.subcommands.isEmpty

/-- The switch with a name, in its long form. -/
def switch? (c : Command) (name : String) : Option Switch :=
  c.switches.find? (·.name == name)

/-- The switch with a letter. -/
def letterSwitch? (c : Command) (letter : Char) : Option Switch :=
  c.switches.find? (·.letter == some letter)

end Command
end RouteHelpers.CommandLine
