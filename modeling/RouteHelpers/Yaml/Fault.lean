import RouteHelpers.Text.Numeral

/-!
Why a YAML document gives no value.

A document may have no form at all, or a form that its values do not have; some of these faults count as
the document's own, and others as faults of the program that reads it.
-/

namespace RouteHelpers.Yaml

/-- Why a document gives no value. -/
inductive ReadFault where
  /-- It is no YAML document, or one of a kind that is not read. -/
  | malformed
  /-- An escape names no character. -/
  | noCharacter
  /-- An escape names a number that is far beyond every character. -/
  | farFromCharacter
  /-- A text with the tag of integers is none in its base. -/
  | notInteger (literal : String) (base : Nat)
  /-- A text with the tag of integers is too long. -/
  | numeral (f : Text.NumeralFault)
  /-- A text with the tag of floating-point numbers is none. -/
  | notNumber (literal : String)
  /-- A text with the tag of floating-point numbers has too many parts between colons. -/
  | powerTooLarge
  /-- A text with the tag of a number is empty. -/
  | emptyNumber
  /-- A text with the tag of truth values is none. -/
  | notTruthValue (literal : String)
  /-- A text with the tag of timestamps is none. -/
  | notTimestamp
  /-- A timestamp has a part that is out of range. -/
  | outOfRange (detail : String)
  /-- A text in it holds one half of a pair of surrogates, so that it cannot be written to any file. -/
  | halfPair
  /-- What is in it is nested deeper than the reader goes. -/
  | tooDeep
  deriving DecidableEq, Repr

/-- What a reader is told, if anything beside that the document cannot be read. -/
def ReadFault.message : ReadFault → String
  | malformed => ""
  | noCharacter => "chr() arg not in range(0x110000)"
  | farFromCharacter => "Python int too large to convert to C int"
  | notInteger literal base =>
    -- a long literal is cut
    "invalid literal for int() with base " ++ toString base ++ ": " ++
      String.ofList (literal.toList.take 200)
  | numeral f => f.message
  | notNumber literal => "could not convert string to float: " ++ literal
  | powerTooLarge => "int too large to convert to float"
  | emptyNumber => "string index out of range"
  | notTruthValue literal => literal
  | notTimestamp => "'NoneType' object has no attribute 'groupdict'"
  | outOfRange detail => detail
  | halfPair => "surrogates not allowed"
  | tooDeep => "maximum recursion depth exceeded"

end RouteHelpers.Yaml
