import RouteHelpers.Number.Binary64
import RouteHelpers.Text.Basic
import RouteHelpers.Text.Case
import RouteHelpers.Text.Lines
import RouteHelpers.Text.Numeral
import RouteHelpers.Text.Quoted
import RouteHelpers.Value.Timestamp
import RouteHelpers.Yaml.Token

/-!
What plain scalars mean.

A plain scalar is a truth value, a number, a date, nothing, or else a text; `Tag.ofPlain` decides by
its form, for which one line end behind it does not count. The readers of numbers and dates take any
text of their tag, so a text that is given the tag explicitly is read by the same rules.
-/

namespace RouteHelpers.Yaml

namespace Tag

/-- What the standard tags start with. -/
def standard : String := "tag:yaml.org,2002:"

/-- The tag of nothing. -/
def null : String := standard ++ "null"

/-- The tag of texts. -/
def text : String := standard ++ "str"

/-- The tag of sequences. -/
def sequence : String := standard ++ "seq"

/-- The tag of mappings. -/
def mapping : String := standard ++ "map"

/-- The tag of truth values. -/
def bool : String := standard ++ "bool"

/-- The tag of integers. -/
def int : String := standard ++ "int"

/-- The tag of floating-point numbers. -/
def float : String := standard ++ "float"

/-- The tag of dates and points in time. -/
def timestamp : String := standard ++ "timestamp"

/-- The tag of the key under which other mappings are merged in. -/
def merge : String := standard ++ "merge"

/-- The tag of the key of a default value. -/
def value : String := standard ++ "value"

end Tag

/-! ### Numbers by form -/

/-- A text without a sign in front. -/
def dropSign (cs : List Char) : List Char :=
  match cs with
  | '+' :: rest | '-' :: rest => rest
  | _ => cs

/-- Whether a text holds something, and only characters of a class or underscores. -/
private def allOrUnderscore (p : Char → Bool) (cs : List Char) : Bool :=
  !cs.isEmpty && cs.all fun c => p c || c == '_'

/-- Whether a text is a digit and then digits and underscores. -/
private def isDigits (cs : List Char) : Bool :=
  cs.head?.any Char.isDigit && allOrUnderscore Char.isDigit cs

/-- Whether a text is a part of a number to the base 60 behind its first one. -/
private def isSixtieth (cs : List Char) : Bool :=
  match cs with
  | [a] => a.isDigit
  | [a, b] => '0' ≤ a && a ≤ '5' && b.isDigit
  | _ => false

/-- Whether a text is several parts between colons, the first of which passes a test. -/
private def isSexagesimal (first : List Char → Bool) (cs : List Char) : Bool :=
  match Text.splitList ':' cs with
  | a :: b :: rest => first a && (b :: rest).all isSixtieth
  | _ => false

/-- Whether a text has the form of an integer. -/
def isInt (s : String) : Bool :=
  let cs := dropSign s.toList
  let startsAboveZero (cs : List Char) : Bool := cs.head? != some '0' && isDigits cs
  match cs with
  | ['0'] => true
  | '0' :: 'b' :: rest => allOrUnderscore (fun c => c == '0' || c == '1') rest
  | '0' :: 'x' :: rest => allOrUnderscore (fun c => (Text.hexValue? c).isSome) rest
  | '0' :: rest => allOrUnderscore (fun c => '0' ≤ c && c ≤ '7') rest
  | _ => startsAboveZero cs || isSexagesimal startsAboveZero cs

/-- Whether a text is nothing or an exponent with a sign. -/
private def isExponent (cs : List Char) : Bool :=
  match cs with
  | [] => true
  | e :: sign :: rest =>
    (e == 'e' || e == 'E') && (sign == '+' || sign == '-') && !rest.isEmpty && rest.all Char.isDigit
  | _ => false

/-- Whether a text has the form of a floating-point number. -/
def isFloat (s : String) : Bool :=
  let cs := dropSign s.toList
  let isPart (c : Char) : Bool := c.isDigit || c == '_'
  let (whole, fraction) := Text.cutList '.' cs
  match fraction with
  | none => false
  | some fraction =>
    let isFraction := fraction.all isPart
    let rest := fraction.dropWhile isPart
    if whole.isEmpty then
      ["inf", "Inf", "INF"].contains (String.ofList fraction) ||
        (s.toList.head? == some '.' &&
          (["nan", "NaN", "NAN"].contains (String.ofList fraction) ||
            (fraction.head?.any Char.isDigit && isExponent rest)))
    else (isDigits whole && isExponent rest) || (isSexagesimal isDigits whole && isFraction)

/-! ### Dates -/

/-- The digits at the start of a text, at least one and at most `most`, as a number. -/
private def digits? (least most : Nat) (cs : List Char) : Option (Nat × List Char) :=
  let taken := (cs.take most).takeWhile Char.isDigit
  if taken.length < least then none
  else some (taken.foldl (fun n c => n * 10 + (c.toNat - '0'.toNat)) 0, cs.drop taken.length)

/-- What follows a character at the start of a text. -/
private def after? (c : Char) (cs : List Char) : Option (List Char) :=
  if cs.head? == some c then some cs.tail else none

/-- The offset at the end of a point in time; nothing inside if there is none. -/
private def offset? (cs : List Char) : Option (Option Int) :=
  match cs.dropWhile fun c => c == ' ' || c == '\t' with
  | [] => if cs.isEmpty then some none else none
  | ['Z'] => some (some 0)
  | sign :: rest =>
    if sign == '+' || sign == '-' then do
      let (hours, rest) ← digits? 1 2 rest
      let (minutes, rest) ← if rest.isEmpty then some (0, rest)
        else (after? ':' rest).bind (digits? 2 2)
      if rest.isEmpty then
        let seconds : Int := Int.ofNat ((hours * 60 + minutes) * 60)
        some (some (if sign == '-' then 0 - seconds else seconds))
      else none
    else none

/-- The time of day behind a date. -/
private def timeOfDay? (cs : List Char) : Option TimeOfDay := do
  let rest ← match cs with
    | 'T' :: rest | 't' :: rest => some rest
    | c :: _ =>
      if c == ' ' || c == '\t' then some (cs.dropWhile fun c => c == ' ' || c == '\t') else none
    | [] => none
  let (hour, rest) ← digits? 1 2 rest
  let (minute, rest) ← (after? ':' rest).bind (digits? 2 2)
  let (second, rest) ← (after? ':' rest).bind (digits? 2 2)
  let (microsecond, rest) := match rest with
    | '.' :: rest =>
      let fraction := rest.takeWhile Char.isDigit
      let six := (fraction ++ List.replicate 6 '0').take 6
      (six.foldl (fun n c => n * 10 + (c.toNat - '0'.toNat)) 0, rest.drop fraction.length)
    | _ => (0, rest)
  let offset ← offset? rest
  some ⟨hour, minute, second, microsecond, offset⟩

/-- A text without one line end behind it. -/
private def beforeLineEnd (s : String) : String :=
  String.ofList (Text.cutFinalNewline s.toList).1

/-- The date or point in time that a text writes, whether or not its parts are in range. A line end may
follow it. -/
def timestamp? (s : String) : Option Timestamp := do
  let (year, rest) ← digits? 4 4 (beforeLineEnd s).toList
  let (month, rest) ← (after? '-' rest).bind (digits? 1 2)
  let (day, rest) ← (after? '-' rest).bind (digits? 1 2)
  if rest.isEmpty then some ⟨year, month, day, none⟩
  else do
    let time ← timeOfDay? rest
    some ⟨year, month, day, some time⟩

/-- Whether a text has the form of a date or point in time. A date alone has two digits each for
month and day. -/
def isTimestamp (s : String) : Bool :=
  match timestamp? s with
  | none => false
  | some t => t.time.isSome || (beforeLineEnd s).length == 10

/-! ### Tags -/

/-- The words that are truth values, in lower case. -/
def truthWords : List (String × Bool) :=
  [("yes", true), ("no", false), ("true", true), ("false", false), ("on", true), ("off", false)]

/-- Whether a text is a truth value in lower case, in upper case or with one capital. -/
def isBool (s : String) : Bool :=
  truthWords.any fun w => s == w.1 || s == Text.capitalize w.1 || s == Text.upper w.1

/-- The tag of a form. -/
private def tagOfForm (s : String) : String :=
  if isBool s then Tag.bool
  else if isFloat s then Tag.float
  else if isInt s then Tag.int
  else if s == "<<" then Tag.merge
  else if ["", "~", "null", "Null", "NULL"].contains s then Tag.null
  else if isTimestamp s then Tag.timestamp
  else if s == "=" then Tag.value
  else if ["!", "&", "*"].contains s then Tag.standard ++ "yaml"
  else Tag.text

/-- The tag of a plain scalar. -/
def Tag.ofPlain (s : String) : String :=
  if s == "\n" then Tag.text else tagOfForm (beforeLineEnd s)

/-! ### Values -/

/-- A number in a base. -/
private def inBase? (base : Nat) (cs : List Char) : Option Nat :=
  if cs.isEmpty then none
  else cs.foldl (fun n c => do
    let v ← Text.hexValue? c
    if v < base then some ((← n) * base + v) else none) (some 0)

/-- A text without the blanks around it, with decimal digits of any script as those of ASCII. -/
private def plainNumeral (cs : List Char) : List Char :=
  (Text.stripList Text.isBlank cs).map fun c =>
    match Text.decimalValue? c with
    | some n => Char.ofNat (0x30 + n)
    | none => c

/-- The letter that marks a number of a base. -/
private def markOf? : Nat → Option Char
  | 2 => some 'b'
  | 8 => some 'o'
  | 16 => some 'x'
  | _ => none

/-- The integer that a numeral writes: blanks may stand around it, and a sign and the mark of the base
in front. In base 10 the digits that it starts with may be too many, whatever follows them. -/
private def integer (base : Nat) (numeral : List Char) : Except ReadFault Int := do
  let cs := plainNumeral numeral
  let unsigned := dropSign cs
  let digits := match unsigned with
    | '0' :: c :: rest => if some c.toLower == markOf? base then rest else unsigned
    | _ => unsigned
  if base == 10 then
    let count := (digits.takeWhile Char.isDigit).length
    if Text.digitLimit < count then throw (.numeral (.tooLongToRead count))
  match inBase? base digits with
  | some n => .ok (if cs.head? == some '-' then 0 - Int.ofNat n else Int.ofNat n)
  | none => .error (.notInteger (Text.quoted (String.ofList numeral)) base)

/-- The integer that a text writes. -/
def int (s : String) : Except ReadFault Int :=
  let cs := s.toList.filter (· != '_')
  match cs with
  | [] => .error .emptyNumber
  | first :: _ =>
    let body := dropSign cs
    let signed (i : Int) : Int := if first == '-' then 0 - i else i
    match body with
    | [] => .error .emptyNumber
    | ['0'] => .ok 0
    | '0' :: 'b' :: rest => signed <$> integer 2 rest
    | '0' :: 'x' :: rest => signed <$> integer 16 rest
    | '0' :: _ => signed <$> integer 8 body
    | _ =>
      if body.contains ':' then do
        let parts ← (Text.splitList ':' body).mapM (integer 10)
        .ok (signed (parts.foldl (fun n p => n * 60 + p) 0))
      else signed <$> integer 10 body

/-- The magnitude that a decimal writes: digits with a point among or beside them, and perhaps an
exponent. -/
private def decimal? (cs : List Char) : Option Binary64 :=
  let (mantissa, exponent) := Text.cutList 'e' cs
  let (whole, fraction) := Text.cutList '.' mantissa
  let fraction := fraction.getD []
  let digits := whole ++ fraction
  let exponent? : Option Int := match exponent with
    | none => some 0
    | some e => (inBase? 10 (dropSign e)).map fun n =>
      if e.head? == some '-' then 0 - Int.ofNat n else Int.ofNat n
  match inBase? 10 digits, exponent? with
  | some n, some e => some (.ofDecimal false n (e - Int.ofNat fraction.length))
  | _, _ => none

/-- The floating-point number that a numeral in lower case writes: blanks may stand around it and a
sign in front, and it may be a word. -/
private def binary64? (cs : List Char) : Option Binary64 :=
  let cs := plainNumeral cs
  let unsigned := dropSign cs
  let magnitude : Option Binary64 := match String.ofList unsigned with
    | "inf" | "infinity" => some (.infinite false)
    | "nan" => some .notANumber
    | _ => decimal? unsigned
  magnitude.map fun x => if cs.head? == some '-' then x.neg else x

/-- The sum of the parts of a number to the base 60, the last part first. A part is weighted by the number
nearest to its power of 60, which has to be one. -/
private def inSixties (parts : List Binary64) : Except ReadFault Binary64 :=
  parts.zipIdx.foldlM (fun sum part => do
    match Binary64.ofInt (Nat.pow 60 part.2) with
    | .infinite _ => .error .powerTooLarge
    | weight => .ok (sum.add (part.1.mul weight))) (Binary64.zero false)

/-- The floating-point number that a text writes. -/
def float (s : String) : Except ReadFault Binary64 :=
  let cs := (Text.lower s).toList.filter (· != '_')
  match cs with
  | [] => .error .emptyNumber
  | first :: _ =>
    let body := dropSign cs
    let signed (x : Binary64) : Binary64 := if first == '-' then x.neg else x
    let read (cs : List Char) : Except ReadFault Binary64 :=
      match binary64? cs with
      | some x => .ok x
      | none => .error (.notNumber (Text.quoted (String.ofList cs)))
    match String.ofList body with
    | ".inf" => .ok (signed (.infinite false))
    | ".nan" => .ok .notANumber
    | _ =>
      if body.contains ':' then do
        let parts ← (Text.splitList ':' body).mapM read
        signed <$> inSixties parts.reverse
      else signed <$> read body

/-- The truth value that a text writes. -/
def bool (s : String) : Except ReadFault Bool :=
  match truthWords.lookup (Text.lower s) with
  | some b => .ok b
  | none => .error (.notTruthValue (Text.quoted (Text.lower s)))

/-- The number of days of a month. -/
def daysOf (year month : Nat) : Nat :=
  if month == 2 then
    if year % 4 == 0 && (year % 100 != 0 || year % 400 == 0) then 29 else 28
  else if [4, 6, 9, 11].contains month then 30
  else 31

/-- A span of time as messages show it. -/
private def spanLiteral (seconds : Int) : String :=
  let days := Int.fdiv seconds 86400
  let rest := Int.fmod seconds 86400
  let parts := (if days = 0 then [] else ["days=" ++ toString days]) ++
    (if rest = 0 then [] else ["seconds=" ++ toString rest])
  "datetime.timedelta(" ++ Text.joinWith ", " parts ++ ")"

/-- What is out of range in a date or point in time. -/
def outOfRange? (t : Timestamp) : Option String :=
  let offsetFault := t.time.bind (·.offset) |>.bind fun o =>
    if o.natAbs < 86400 then none
    else some ("offset must be a timedelta strictly between -timedelta(hours=24) and " ++
      "timedelta(hours=24), not " ++ spanLiteral o ++ ".")
  let dateFault :=
    if t.year == 0 then some "year 0 is out of range"
    else if t.month == 0 || 12 < t.month then some "month must be in 1..12"
    else if t.day == 0 || daysOf t.year t.month < t.day then some "day is out of range for month"
    else none
  let timeFault := t.time.bind fun d =>
    if 23 < d.hour then some "hour must be in 0..23"
    else if 59 < d.minute then some "minute must be in 0..59"
    else if 59 < d.second then some "second must be in 0..59"
    else none
  (offsetFault.or dateFault).or timeFault

/-- The date or point in time that a text writes. -/
def timestamp (s : String) : Except ReadFault Timestamp :=
  match timestamp? s with
  | none => .error .notTimestamp
  | some t =>
    match outOfRange? t with
    | some detail => .error (.outOfRange detail)
    | none => .ok t

end RouteHelpers.Yaml
