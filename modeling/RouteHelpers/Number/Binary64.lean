/-!
Binary floating-point numbers of 64 bits, as exact values.

A finite number is a sign, a significand below `2 ^ 53` and an exponent of two, kept in the form in
which each value has one representation: the significand has 53 bits unless the exponent is the
least one. Rounding is done on fractions of natural numbers, to nearest and in a tie to the even
significand, so every operation here is exact arithmetic followed by one `ofFraction`.
-/

namespace RouteHelpers

/-- A floating-point number; `finite negative significand exponent` is
`± significand * 2 ^ exponent`. -/
inductive Binary64 where
  | notANumber
  | infinite (negative : Bool)
  | finite (negative : Bool) (significand : Nat) (exponent : Int)
  deriving DecidableEq, Repr, Inhabited

namespace Binary64

/-- The exponent of the numbers closest to zero. -/
def leastExponent : Int := -1074

/-- The exponent of the largest numbers. -/
def greatestExponent : Int := 971

/-- Zero. -/
def zero (negative : Bool) : Binary64 :=
  .finite negative 0 leastExponent

/-- The numerator and denominator of `n / d * 2 ^ shift`. -/
private def scaled (n d : Nat) (shift : Int) : Nat × Nat :=
  if 0 ≤ shift then (n * Nat.pow 2 shift.toNat, d) else (n, d * Nat.pow 2 (-shift).toNat)

/-- The quotient of two natural numbers rounded to nearest, a half going to the even neighbour. -/
def roundQuotient (n d : Nat) : Nat :=
  let q := n / d
  let r := n % d
  if 2 * r < d then q
  else if d < 2 * r then q + 1
  else if q % 2 = 0 then q else q + 1

/-- The number nearest to the fraction `n / d`. -/
def ofFraction (negative : Bool) (n d : Nat) : Binary64 :=
  if n = 0 then zero negative
  else
    -- `guess` is the exponent that leaves 53 bits, or one less
    let guess : Int := (Nat.log2 n : Int) - Nat.log2 d - 53
    let fits (e : Int) : Bool :=
      let (a, b) := scaled n d (-e)
      a < Nat.pow 2 53 * b
    let exact := if fits guess then guess else if fits (guess + 1) then guess + 1 else guess + 2
    let e := max exact leastExponent
    let (a, b) := scaled n d (-e)
    let m := roundQuotient a b
    let (m, e) := if m = Nat.pow 2 53 then (Nat.pow 2 52, e + 1) else (m, e)
    if greatestExponent < e then .infinite negative else .finite negative m e

/-- The number nearest to `digits * 10 ^ exponent`, for a decimal of `length` digits. Decimals far
out of range are settled by their size alone. -/
def ofDecimal (negative : Bool) (digits : Nat) (exponent : Int) : Binary64 :=
  let size : Int := (Nat.log2 digits : Int) / 4 + exponent
  if digits = 0 then zero negative
  else if 400 < size then .infinite negative
  else if (Nat.log2 digits : Int) + exponent < -1200 then zero negative
  else if 0 ≤ exponent then ofFraction negative (digits * Nat.pow 10 exponent.toNat) 1
  else ofFraction negative digits (Nat.pow 10 (-exponent).toNat)

/-- The number nearest to an integer. -/
def ofInt (i : Int) : Binary64 :=
  ofFraction (i < 0) i.natAbs 1

/-- A finite number as a fraction, sign apart. -/
def fraction (significand : Nat) (exponent : Int) : Nat × Nat :=
  scaled significand 1 exponent

/-- Whether a number is a zero of either sign. -/
def isZero : Binary64 → Bool
  | .finite _ 0 _ => true
  | _ => false

/-- The integer that a number equals, if it equals one. -/
def toInt? : Binary64 → Option Int
  | .finite negative m e =>
    let (n, d) := fraction m e
    if n % d = 0 then some (if negative then -(n / d : Nat) else (n / d : Nat)) else none
  | _ => none

/-- A finite number as a fraction with a signed numerator. -/
private def signedFraction (negative : Bool) (significand : Nat) (exponent : Int) : Int × Nat :=
  let (n, d) := fraction significand exponent
  (if negative then -(n : Int) else n, d)

/-- Whether a number is less than another; what is not a number is less than none. -/
def isLess : Binary64 → Binary64 → Bool
  | .finite s m e, .finite s' m' e' =>
    let (n, d) := signedFraction s m e
    let (n', d') := signedFraction s' m' e'
    n * d' < n' * d
  | .notANumber, _ | _, .notANumber => false
  | .infinite s, .infinite s' => s && !s'
  | .infinite s, .finite .. => s
  | .finite .., .infinite s => !s

/-- Whether a number has a minus sign. -/
def isNegative : Binary64 → Bool
  | .notANumber => false
  | .infinite s => s
  | .finite s _ _ => s

/-- The product of two numbers, rounded. -/
def mul (x y : Binary64) : Binary64 :=
  let negative := x.isNegative != y.isNegative
  match x, y with
  | .finite _ m e, .finite _ m' e' =>
    let (n, d) := fraction m e
    let (n', d') := fraction m' e'
    ofFraction negative (n * n') (d * d')
  | .notANumber, _ | _, .notANumber => .notANumber
  | x, y => if x.isZero || y.isZero then .notANumber else .infinite negative

/-- The sum of two numbers, rounded. A sum of zero has a minus sign only if both numbers have. -/
def add : Binary64 → Binary64 → Binary64
  | .finite s m e, .finite s' m' e' =>
    let (n, d) := signedFraction s m e
    let (n', d') := signedFraction s' m' e'
    let sum := n * d' + n' * d
    ofFraction (if sum = 0 then s && s' else sum < 0) sum.natAbs (d * d')
  | .notANumber, _ | _, .notANumber => .notANumber
  | .infinite s, .infinite s' => if s == s' then .infinite s else .notANumber
  | .infinite s, .finite .. => .infinite s
  | .finite .., .infinite s => .infinite s

/-- A number with the other sign. -/
def neg : Binary64 → Binary64
  | .notANumber => .notANumber
  | .infinite s => .infinite (!s)
  | .finite s m e => .finite (!s) m e

/-! ### Decimal text -/

/-- A decimal `digits * 10 ^ exponent`. -/
structure Decimal where
  digits : Nat
  exponent : Int
  deriving DecidableEq, Repr

/-- Whether a decimal reads back as the given number. -/
private def readsBack (m : Nat) (e : Int) (x : Decimal) : Bool :=
  ofDecimal false x.digits x.exponent == .finite false m e

/-- The decimal with `count` digits nearest to a positive number among those that read back as it;
`exponent10` is the exponent of its first digit. -/
private def nearestDecimal? (m : Nat) (e exponent10 : Int) (count : Nat) : Option Decimal :=
  let place := exponent10 - (count - 1 : Nat)
  let (n, d) := fraction m e
  let (a, b) := if 0 ≤ place then (n, d * Nat.pow 10 place.toNat) else (n * Nat.pow 10 (-place).toNat, d)
  let low : Decimal := ⟨a / b, place⟩
  let high : Decimal := ⟨a / b + 1, place⟩
  let lowIsNearer := 2 * (a % b) < b || (2 * (a % b) == b && low.digits % 2 == 0)
  match readsBack m e low, readsBack m e high with
  | true, true => some (if lowIsNearer then low else high)
  | true, false => some low
  | false, true => some high
  | false, false => none

/-- The first answer of `f` on `n, n + 1, …`, of which `fuel` are tried. -/
private def firstFrom (f : Nat → Option Decimal) : Nat → Nat → Option Decimal
  | _, 0 => none
  | n, fuel + 1 => (f n).orElse fun _ => firstFrom f (n + 1) fuel

/-- The exponent of the first decimal digit of a positive number. -/
private def firstDigitExponent (m : Nat) (e : Int) : Int :=
  let (n, d) := fraction m e
  if d ≤ n then (toString (n / d)).length - 1
  else
    -- the least k with n * 10 ^ k ≥ d
    let k := (toString ((d + n - 1) / n - 1)).length
    let k := if n * Nat.pow 10 (k - 1) ≥ d then k - 1 else k
    Int.negOfNat k

/-- The decimal with the fewest digits that reads back as a positive number, and of those the
nearest. Seventeen digits are always enough. -/
def shortest (m : Nat) (e : Int) : Decimal :=
  (firstFrom (nearestDecimal? m e (firstDigitExponent m e)) 1 17).getD ⟨m, e⟩

/-- The digits of a natural number without the zeros at its end, and how many those were. -/
private def significantDigits (n : Nat) : List Char × Nat :=
  let cs := (toString n).toList
  let kept := (cs.reverse.dropWhile (· == '0')).reverse
  (kept, cs.length - kept.length)

/-- How decimal text is laid out: the first digit's exponents for which it is written without an
exponent, and the least number of digits of an exponent. -/
structure Layout where
  leastPositional : Int
  positionalBelow : Int
  exponentDigits : Nat

/-- Positional from `0.0001` up to sixteen digits before the point; exponents have a sign and two
digits at least. -/
def layout : Layout := ⟨-4, 16, 2⟩

/-- Text of the decimal with the given digits whose first digit has the given exponent. -/
private def layOut (digits : List Char) (exponent : Int) : List Char :=
  if layout.leastPositional ≤ exponent && exponent < layout.positionalBelow then
    if exponent < 0 then
      ['0', '.'] ++ List.replicate (-exponent - 1).toNat '0' ++ digits
    else
      let whole := exponent.toNat + 1
      if digits.length ≤ whole then
        digits ++ List.replicate (whole - digits.length) '0' ++ ['.', '0']
      else digits.take whole ++ ['.'] ++ digits.drop whole
  else
    let power := (toString exponent.natAbs).toList
    let mantissa := match digits with
      | [] => []
      | [d] => [d]
      | d :: more => d :: '.' :: more
    mantissa ++ ['e', if exponent < 0 then '-' else '+'] ++
      List.replicate (layout.exponentDigits - power.length) '0' ++ power

/-- Text of a number: the fewest digits that read back, always with a point or an exponent. -/
def text : Binary64 → String
  | .notANumber => "nan"
  | .infinite false => "inf"
  | .infinite true => "-inf"
  | .finite negative m e =>
    let body :=
      if m = 0 then ['0', '.', '0']
      else
        let x := shortest m e
        let (digits, zeros) := significantDigits x.digits
        layOut digits (x.exponent + zeros + digits.length - 1)
    String.ofList (if negative then '-' :: body else body)

end Binary64
end RouteHelpers
