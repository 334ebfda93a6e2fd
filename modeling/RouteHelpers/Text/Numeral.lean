import RouteHelpers.Text.Basic
import RouteHelpers.Text.Character

/-!
Whole numbers in decimal notation.

A numeral may have blanks around it, a sign, digits of any script and single underscores between digits.
Numerals beyond `digitLimit` digits are neither read nor written.
-/

namespace RouteHelpers.Text

/-- The greatest number of digits that is read or written. -/
def digitLimit : Nat := 4300

/-- Why a number is not read or written. -/
inductive NumeralFault where
  | tooLongToRead (digits : Nat)
  | tooLongToWrite
  deriving DecidableEq, Repr

/-- What a reader is told. -/
def NumeralFault.message (f : NumeralFault) : String :=
  let excess := "Exceeds the limit (" ++ toString digitLimit ++ " digits) for integer string conversion"
  let advice := "; use sys.set_int_max_str_digits() to increase the limit"
  match f with
  | .tooLongToRead digits => excess ++ ": value has " ++ toString digits ++ " digits" ++ advice
  | .tooLongToWrite => excess ++ advice

/-- The number that decimal digits write. -/
def ofDigits (digits : List Nat) : Nat :=
  digits.foldl (fun n d => 10 * n + d) 0

/-- The number that decimal digits write, if they are not too many. -/
def readDigits (digits : List Nat) : Except NumeralFault Nat :=
  if digitLimit < digits.length then .error (.tooLongToRead digits.length) else .ok (ofDigits digits)

/-- A number in decimal notation, if it does not take too many digits. -/
def writeInteger (n : Int) : Except NumeralFault String :=
  if Nat.pow 10 digitLimit ≤ n.natAbs then .error .tooLongToWrite else .ok (toString n)

/-- Digits with single underscores between them. -/
def digitsOf? : List Char → Option (List Nat)
  | [] => none
  | c :: rest =>
    match decimalValue? c, rest with
    | none, _ => none
    | some d, [] => some [d]
    | some d, '_' :: more => (digitsOf? more).map (d :: ·)
    | some d, more => (digitsOf? more).map (d :: ·)

/-- Blanks that may stand around a numeral. -/
def isBlankAround (c : Char) : Bool :=
  isBlank c && !(0x1c ≤ c.toNat && c.toNat ≤ 0x1f)

/-- The sign and the digits of a numeral. -/
def numeralParts? (cs : List Char) : Option (Bool × List Nat) :=
  match stripList isBlankAround cs with
  | '-' :: rest => (digitsOf? rest).map fun ds => (true, ds)
  | '+' :: rest => (digitsOf? rest).map fun ds => (false, ds)
  | rest => (digitsOf? rest).map fun ds => (false, ds)

end RouteHelpers.Text
