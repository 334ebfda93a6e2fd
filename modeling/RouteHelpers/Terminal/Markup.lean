import RouteHelpers.Terminal.Handler.Parameters
import RouteHelpers.Terminal.Pictograph
import RouteHelpers.Terminal.Style

/-!
Text with markup, as it is printed.

A tag in brackets opens or closes a style, a backslash in front of it makes it ordinary text, and the
name of a pictograph between colons stands for the pictograph. Styles leave no trace in the text that
comes out, but what closes has to be open: `Markup.plain` fails where it is not, and
`Markup.checkStyles` where a style cannot be shown. `Markup.escape` makes any text one that is printed as
it is.
-/

namespace RouteHelpers.Terminal

/-! ### Pictographs -/

/-- The five skin tones, each with its name and its code point. -/
def skinTones : List (String × Char) :=
  [("light", Char.ofNat 0x1f3fb), ("medium-light", Char.ofNat 0x1f3fc), ("medium", Char.ofNat 0x1f3fd),
    ("medium-dark", Char.ofNat 0x1f3fe), ("dark", Char.ofNat 0x1f3ff)]

/-- The characters that hexadecimal numbers between dashes name. -/
private def charactersOf (numbers : List Char) : List Char :=
  (Text.splitList '-' numbers).filterMap fun n => (Text.hexNumber? n).map Char.ofNat

/-- What a word of the table says about a name: the sign and the characters. -/
private def readWord? (name word : List Char) : Option (Char × List Char) :=
  match word.drop name.length with
  | sign :: numbers =>
    if word.take name.length == name && (sign == '=' || sign == '*') &&
        numbers.all (fun c => c == '-' || (Text.hexValue? c).isSome) then
      some (sign, charactersOf numbers)
    else none
  | [] => none

/-- What the table says about a name. -/
private def pictographWord? (name : List Char) : Option (Char × List Char) :=
  pictographLines.findSome? fun line =>
    (Text.splitList ' ' line.toList).findSome? (readWord? name)

/-- The name that a variant for a skin tone belongs to, and the tone. -/
private def tonedName? (name : String) : Option (String × Char) :=
  skinTones.findSome? fun t =>
    (Text.beforeEnding? ("_" ++ t.1 ++ "_skin_tone") name).map fun base => (base, t.2)

/-- The pictograph with a name, in lower case. A skin tone follows the first character. -/
def pictograph? (name : String) : Option (List Char) :=
  match pictographWord? name.toList with
  | some (_, cs) => some cs
  | none => do
    let (base, tone) ← tonedName? name
    match ← pictographWord? base.toList with
    | ('*', c :: rest) => some (c :: tone :: rest.dropWhile (· == pictographSelector))
    | _ => none

/-- The pictograph that a name asks for, which may end in the form wanted. -/
private def pictographNamed? (name : List Char) : Option (List Char) :=
  let name := String.ofList name
  let (base, form) := match Text.beforeEnding? "-emoji" name, Text.beforeEnding? "-text" name with
    | some base, _ => (base, [pictographSelector])
    | none, some base => (base, ['\ufe0e'])
    | none, none => (name, [])
  (pictograph? (Text.lower base)).map (· ++ form)

/-- A text with the names of pictographs between colons replaced. `fuel` bounds its length. -/
private def pictographsFrom : Nat → List Char → List Char
  | 0, cs => cs
  | _, [] => []
  | fuel + 1, c :: rest =>
    let name := rest.takeWhile fun x => x != ':' && !Text.isBlank x
    let after := rest.drop name.length
    if c == ':' && after.head? == some ':' then
      (pictographNamed? name).getD (':' :: name ++ [':']) ++ pictographsFrom fuel (after.drop 1)
    else c :: pictographsFrom fuel rest

/-- A text with the names of pictographs between colons replaced; other names stay. -/
def replacePictographs (cs : List Char) : List Char :=
  pictographsFrom cs.length cs

/-! ### Tags -/

namespace Markup

/-- Why a text cannot be printed. -/
inductive Fault where
  /-- A tag closes a style that is not open. -/
  | notOpen (tag : String) (position : Nat)
  /-- A tag closes the last style, and none is open. -/
  | nothingToClose (position : Nat)
  /-- A tag closes a handler with parameters that cannot be read, because of a part of them. -/
  | badParameters (parameters part : String) (f : Handler.Fault)
  /-- A tag names a style with a colour that cannot be read. -/
  | badColor (f : ColorFault)
  deriving DecidableEq, Repr

/-- What a reader is told. -/
def Fault.message : Fault → String
  | notOpen tag position =>
    "closing tag '[" ++ tag ++ "]' at position " ++ toString position ++
      " doesn't match any open tag"
  | nothingToClose position =>
    "closing tag '[/]' at position " ++ toString position ++ " has nothing to close"
  | badParameters parameters part f =>
    let place := if f.isOfMeaning then "" else Text.quoted part ++ " in "
    "error parsing " ++ place ++ Text.quoted parameters ++ "; " ++ f.message
  | badColor f => f.message

/-- Whether a character can be the first one of a tag. -/
def startsTag (c : Char) : Bool :=
  ('a' ≤ c && c ≤ 'z') || c == '#' || c == '/' || c == '@'

/-- The words of the tag at the start of a list, which holds a bracket first. -/
def tagAt? : List Char → Option (List Char)
  | '[' :: c :: rest =>
    let more := rest.takeWhile fun x => x != ']' && x != '['
    if startsTag c && (rest.drop more.length).head? == some ']' then some (c :: more) else none
  | _ => none

/-- A piece of a text with markup. -/
inductive Piece where
  | text (cs : List Char)
  /-- A tag and where it starts. -/
  | tag (content : List Char) (position : Nat)
  deriving DecidableEq, Repr

/-- The pieces of a text from a position on; `before` holds, in reverse, the text in front that is in
no piece yet. `fuel` bounds the length of the text. -/
def piecesFrom : Nat → Nat → List Char → List Char → List Piece
  | 0, _, before, _ => [.text before.reverse]
  | _, _, before, [] => if before.isEmpty then [] else [.text before.reverse]
  | fuel + 1, position, before, c :: rest =>
    let cs := c :: rest
    let slashes := (cs.takeWhile (· == '\\')).length
    match tagAt? (cs.drop slashes) with
    | none =>
      let taken := max 1 slashes
      piecesFrom fuel (position + taken) ((cs.take taken).reverse ++ before) (cs.drop taken)
    | some content =>
      let length := slashes + content.length + 2
      let text := if before.isEmpty then [] else [.text before.reverse]
      let literal := if slashes < 2 then [] else [.text (List.replicate (slashes / 2) '\\')]
      let tag := if slashes % 2 = 1 then .text ('[' :: content ++ [']'])
        else .tag content (position + slashes / 2 * 2)
      text ++ literal ++ [tag] ++ piecesFrom fuel (position + length) [] (cs.drop length)

/-- The pieces of a text. -/
def pieces (cs : List Char) : List Piece :=
  piecesFrom (cs.length + 1) 0 [] cs

/-- A tag that is open: the form of its name, and its parameters. -/
structure Opened where
  name : String
  parameters : Option String
  deriving DecidableEq, Repr

/-- The first open tag with a name, and the others; nothing if none has it. -/
def close? (name : String) : List Opened → Option (Opened × List Opened)
  | [] => none
  | t :: rest =>
    if t.name == name then some (t, rest)
    else (close? name rest).map fun r => (r.1, t :: r.2)

/-- The form of the style that a tag names. -/
def styleOf (cs : List Char) : Except Fault String :=
  (Style.normalForm (String.ofList cs)).mapError .badColor

/-- The tags that stay open when one is closed, whose parameters have to be readable if it is a
handler. -/
def closing (t : Opened) (others : List Opened) : Except Fault (List Opened) :=
  match t.parameters with
  | none => .ok others
  | some parameters =>
    if parameters.isEmpty || !Text.startsWith "@" t.name then .ok others
    else
      match Handler.fault? parameters with
      | none => .ok others
      | some (part, f) => .error (.badParameters parameters part f)

/-- The tags that are open after a tag. -/
def afterTag (content : List Char) (position : Nat) (opened : List Opened) :
    Except Fault (List Opened) := do
  let (name, parameters) := Text.cutList '=' content
  match name with
  | '/' :: rest =>
    if (Text.stripList Text.isBlank rest).isEmpty then
      match opened with
      | [] => .error (.nothingToClose position)
      | t :: others => closing t others
    else
      match close? (← styleOf (Text.stripList Text.isBlank rest)) opened with
      | some (t, others) => closing t others
      | none => .error (.notOpen (String.ofList content) position)
  | name => .ok (⟨← styleOf name, parameters.map String.ofList⟩ :: opened)

/-- A text without the backslashes in front of brackets. -/
def dropEscapes : List Char → List Char
  | '\\' :: '[' :: rest => '[' :: dropEscapes rest
  | c :: rest => c :: dropEscapes rest
  | [] => []

/-- The text of pieces, with the given tags open. -/
def plainOf (opened : List Opened) : List Piece → Except Fault (List Char)
  | [] => .ok []
  | .text cs :: rest => do
    .ok (withoutControls (replacePictographs (dropEscapes cs)) ++ (← plainOf opened rest))
  | .tag content position :: rest => do plainOf (← afterTag content position opened) rest

/-- Checks the style that a tag gives to what it encloses: its name and its parameters. -/
def checkTag (content : List Char) : Except Fault Unit := do
  match Text.cutList '=' content with
  | (name, some parameters) =>
    if name.head? == some '/' || name.head? == some '@' then .ok ()
    else do
      let style := (← styleOf name) ++ " " ++ String.ofList parameters
      let _ ← (Style.ofText? style).mapError .badColor
  | (_, none) => .ok ()

/-- Checks the styles in which a text with markup is printed. -/
def checkStyles (s : String) : Except Fault Unit :=
  let cs := s.toList
  if cs.contains '[' then
    (pieces cs).forM fun
      | .tag content _ => checkTag content
      | .text _ => .ok ()
  else .ok ()

/-- The text that a text with markup is printed as. -/
def plain (s : String) : Except Fault (List Char) :=
  let cs := s.toList
  if cs.contains '[' then plainOf [] (pieces cs)
  else .ok (withoutControls (replacePictographs cs))

/-! ### Escaping -/

/-- A text in which every tag is escaped. `fuel` bounds its length. -/
def escapeTags : Nat → List Char → List Char
  | 0, cs => cs
  | _, [] => []
  | fuel + 1, c :: rest =>
    let cs := c :: rest
    let slashes := cs.takeWhile (· == '\\')
    match tagAt? (cs.drop slashes.length) with
    | none =>
      let taken := max 1 slashes.length
      cs.take taken ++ escapeTags fuel (cs.drop taken)
    | some content =>
      slashes ++ slashes ++ ['\\', '['] ++ content ++ [']'] ++
        escapeTags fuel (cs.drop (slashes.length + content.length + 2))

/-- A text that is printed as the given one. -/
def escape (s : String) : String :=
  let cs := escapeTags s.length s.toList
  let final := cs.reverse.takeWhile (· == '\\')
  String.ofList (if final.length = 1 then cs ++ ['\\'] else cs)

end Markup

/-! ### Printing -/

/-- Lines as a text, each with its end. -/
def unlines (lines : List (List Char)) : String :=
  String.ofList (lines.flatMap (· ++ ['\n']))

/-- A text with markup as it is printed on a terminal of a number of columns. -/
def printed (columns : Nat) (s : String) : Except Markup.Fault String := do
  let cs ← Markup.plain s
  Markup.checkStyles s
  .ok (unlines (wrap .fold columns cs))

end RouteHelpers.Terminal
