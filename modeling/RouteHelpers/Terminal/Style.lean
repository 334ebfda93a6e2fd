import RouteHelpers.Terminal.Wrap
import RouteHelpers.Text.Case
import RouteHelpers.Text.Hex
import RouteHelpers.Text.Numeral

/-!
Styles of printed text.

A style is written in words: attributes, which `not` turns off, a colour, a background colour behind `on`
and an address behind `link`. Words that are no style may still name one, so `Style.normalForm` gives
every text a form; two texts name the same style where their forms are equal.
-/

namespace RouteHelpers.Terminal

/-! ### Colours -/

/-- Why a colour cannot be read: one of its three numbers is missing or too long. -/
inductive ColorFault where
  | missingNumber
  | numeral (f : Text.NumeralFault)
  deriving DecidableEq, Repr

/-- What a reader is told. -/
def ColorFault.message : ColorFault → String
  | missingNumber => "invalid literal for int() with base 10: ''"
  | numeral f => f.message

/-- The names of colours. -/
def colorNames : List String :=
  ["aquamarine1 aquamarine3 black blue blue1 blue3 blue_violet bright_black bright_blue",
   "bright_cyan bright_green bright_magenta bright_red bright_white bright_yellow cadet_blue",
   "chartreuse1 chartreuse2 chartreuse3 chartreuse4 cornflower_blue cornsilk1 cyan cyan1 cyan2",
   "cyan3 dark_blue dark_cyan dark_goldenrod dark_green dark_khaki dark_magenta",
   "dark_olive_green1 dark_olive_green2 dark_olive_green3 dark_orange dark_orange3 dark_red",
   "dark_sea_green dark_sea_green1 dark_sea_green2 dark_sea_green3 dark_sea_green4",
   "dark_slate_gray1 dark_slate_gray2 dark_slate_gray3 dark_turquoise dark_violet deep_pink1",
   "deep_pink2 deep_pink3 deep_pink4 deep_sky_blue1 deep_sky_blue2 deep_sky_blue3 deep_sky_blue4",
   "dodger_blue1 dodger_blue2 dodger_blue3 gold1 gold3 gray0 gray100 gray11 gray15 gray19 gray23",
   "gray27 gray3 gray30 gray35 gray37 gray39 gray42 gray46 gray50 gray53 gray54 gray58 gray62",
   "gray63 gray66 gray69 gray7 gray70 gray74 gray78 gray82 gray84 gray85 gray89 gray93 green",
   "green1 green3 green4 green_yellow grey0 grey100 grey11 grey15 grey19 grey23 grey27 grey3",
   "grey30 grey35 grey37 grey39 grey42 grey46 grey50 grey53 grey54 grey58 grey62 grey63 grey66",
   "grey69 grey7 grey70 grey74 grey78 grey82 grey84 grey85 grey89 grey93 honeydew2 hot_pink",
   "hot_pink2 hot_pink3 indian_red indian_red1 khaki1 khaki3 light_coral light_cyan1 light_cyan3",
   "light_goldenrod1 light_goldenrod2 light_goldenrod3 light_green light_pink1 light_pink3",
   "light_pink4 light_salmon1 light_salmon3 light_sea_green light_sky_blue1 light_sky_blue3",
   "light_slate_blue light_slate_gray light_slate_grey light_steel_blue light_steel_blue1",
   "light_steel_blue3 light_yellow3 magenta magenta1 magenta2 magenta3 medium_orchid",
   "medium_orchid1 medium_orchid3 medium_purple medium_purple1 medium_purple2 medium_purple3",
   "medium_purple4 medium_spring_green medium_turquoise medium_violet_red misty_rose1",
   "misty_rose3 navajo_white1 navajo_white3 navy_blue orange1 orange3 orange4 orange_red1 orchid",
   "orchid1 orchid2 pale_green1 pale_green3 pale_turquoise1 pale_turquoise4 pale_violet_red1",
   "pink1 pink3 plum1 plum2 plum3 plum4 purple purple3 purple4 red red1 red3 rosy_brown",
   "royal_blue1 salmon1 sandy_brown sea_green1 sea_green2 sea_green3 sky_blue1 sky_blue2",
   "sky_blue3 slate_blue1 slate_blue3 spring_green1 spring_green2 spring_green3 spring_green4",
   "steel_blue steel_blue1 steel_blue3 tan thistle1 thistle3 turquoise2 turquoise4 violet wheat1",
   "wheat4 white yellow yellow1 yellow2 yellow3 yellow4"]

/-- Whether a text is the name of a colour. -/
def isColorName (s : String) : Bool :=
  s == "default" || colorNames.any fun line => (Text.split ' ' line).contains s

/-- What stands between a start of a text and a closing parenthesis at its end. -/
private def argument? (start : String) (s : String) : Option (List Char) :=
  (Text.afterStart? start s).bind fun rest =>
    (Text.beforeEnding? ")" rest).map String.toList

/-- Whether three numbers between commas are those of a colour. -/
private def isTriple (cs : List Char) : Except ColorFault Bool := do
  let numbers ← (Text.splitList ',' cs).mapM fun digits =>
    if digits.isEmpty then .error .missingNumber
    else (Text.readDigits (digits.filterMap Text.decimalValue?)).mapError .numeral
  .ok (numbers.all (· ≤ 255))

/-- Whether a word in lower case is a colour: a name, six digits behind a hash, a number in a palette or
three numbers. -/
def isColor (word : String) : Except ColorFault Bool :=
  if isColorName word then .ok true
  else
    match word.toList, argument? "color(" word, argument? "rgb(" word with
    | '#' :: digits, _, _ =>
      .ok (digits.length = 6 && digits.all fun c => (Text.hexValue? c).isSome)
    | _, some digits, _ =>
      .ok (!digits.isEmpty && digits.length ≤ 3 && digits.all Char.isDigit &&
        Text.ofDigits (digits.filterMap Text.decimalValue?) ≤ 255)
    | _, none, some numbers =>
      if numbers.all (fun c => c == ',' || (Text.decimalValue? c).isSome) && numbers.count ',' = 2 then
        isTriple numbers
      else .ok false
    | _, none, none => .ok false

/-! ### Attributes -/

/-- The attributes of styles, in their order, each with its other names. -/
def attributes : List (String × List String) :=
  [("bold", ["b"]), ("dim", ["d"]), ("italic", ["i"]), ("underline", ["u"]), ("blink", []),
    ("blink2", []), ("reverse", ["r"]), ("conceal", ["c"]), ("strike", ["s"]),
    ("underline2", ["uu"]), ("frame", []), ("encircle", []), ("overline", ["o"])]

/-- The attribute that a word names. -/
def attribute? (word : String) : Option String :=
  (attributes.find? fun a => a.1 == word || a.2.contains word).map (·.1)

/-! ### Styles -/

/-- A style. Of an attribute that is set several times, the first setting in the list counts. -/
structure Style where
  attributes : List (String × Bool)
  color : Option String
  background : Option String
  link : Option String
  deriving DecidableEq, Repr

namespace Style

/-- The style that changes nothing. -/
def none : Style :=
  ⟨[], Option.none, Option.none, Option.none⟩

/-- A style with an attribute set. -/
def setting (s : Style) (name : String) (isOn : Bool) : Style :=
  { s with attributes := (name, isOn) :: s.attributes }

/-- The style that words name on top of another one; nothing if they name none. -/
def ofWords? (s : Style) : List String → Except ColorFault (Option Style)
  | [] => .ok (some s)
  | word :: rest =>
    let lower := Text.lower word
    if lower == "on" then
      match rest with
      | [] => .ok Option.none
      | color :: rest => do
        let color := Text.lower color
        if ← isColor color then ofWords? { s with background := some color } rest
        else .ok Option.none
    else if lower == "not" then
      match rest with
      | [] => .ok Option.none
      | word :: rest =>
        match attribute? word with
        | some a => ofWords? (s.setting a false) rest
        | Option.none => .ok Option.none
    else if lower == "link" then
      match rest with
      | [] => .ok Option.none
      | address :: rest => ofWords? { s with link := some address } rest
    else
      match attribute? lower with
      | some a => ofWords? (s.setting a true) rest
      | Option.none => do
        if ← isColor lower then ofWords? { s with color := some lower } rest
        else .ok Option.none

/-- The words of a style, its attributes in their order. -/
def words (s : Style) : List String :=
  let shown (a : String × List String) : List String :=
    match s.attributes.lookup a.1 with
    | some true => [a.1]
    | some false => ["not", a.1]
    | Option.none => []
  let behind (word : String) (o : Option String) : List String :=
    (o.map fun x => [word, x]).getD []
  Terminal.attributes.flatMap shown ++ s.color.toList ++ behind "on" s.background ++
    behind "link" s.link

/-- A style in words. -/
def text (s : Style) : String :=
  if s.words.isEmpty then "none" else Text.joinWith " " s.words

/-- The style that a text names; nothing if it names none. -/
def ofText? (s : String) : Except ColorFault (Option Style) :=
  ofWords? none <|
    (Terminal.words s.toList).map fun w => String.ofList (Text.stripList Text.isBlank w)

/-- The form in which texts that name the same style are equal. -/
def normalForm (s : String) : Except ColorFault String := do
  let plain := Text.strip Text.isBlank s
  if plain == "none" then .ok plain
  else
    match ← ofText? s with
    | some style => .ok style.text
    | Option.none => .ok (Text.lower plain)

end Style
end RouteHelpers.Terminal
