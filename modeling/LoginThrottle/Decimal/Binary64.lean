import LoginThrottle.Net.Numeral

/-!
# Binary numbers of 64 bits

The numbers that programs commonly compute with when they are not whole: which of them a
decimal numeral means, and which decimal numeral stands for one of them.

## Main Definitions

* `Binary64`: a binary number with 53 significant bits
* `Binary64.nearest`: the binary number nearest to a fraction
* `Binary64.read?`: the binary number that a text spells
* `Binary64.roundToCount`: the count nearest to a binary number
* `Binary64.render`: the shortest decimal that reads back, in positional notation

## Design Notes

Everything is exact arithmetic on whole numbers. A numeral means the nearest binary number,
of two equally near ones the one with an even significand.
-/

namespace LoginThrottle

/-- A binary number: `significand * 2 ^ exponent` up to its sign, with at most 53 bits in the
significand and the least exponent that this allows. -/
inductive Binary64
  | notANumber
  | infinite (negative : Bool)
  | finite (negative : Bool) (significand : Nat) (exponent : Int)
  deriving DecidableEq, Repr, Inhabited

namespace Binary64

/-- The least number with too many bits for a significand. -/
def significandBound : Nat := 0x20000000000000

/-- The exponent of the smallest binary numbers. -/
def leastExponent : Int := -1074

/-- The exponent of the largest binary numbers. -/
def largestExponent : Int := 971

/-- `numerator / denominator * 2 ^ (-exponent)` as a fraction. -/
def scale (numerator denominator : Nat) (exponent : Int) : Nat × Nat :=
  (numerator <<< (-exponent).toNat, denominator <<< exponent.toNat)

/-- The whole number nearest to a fraction, of two equally near ones the even one. -/
def roundHalfEven (fraction : Nat × Nat) : Nat :=
  let (numerator, denominator) := fraction
  let quotient := numerator / denominator
  let twice := 2 * (numerator % denominator)
  if twice < denominator then quotient
  else if denominator < twice then quotient + 1
  else quotient + quotient % 2

/-- The exponent of the binary numbers around a fraction that is not zero. -/
def exponentOf (numerator denominator : Nat) : Int :=
  let guess : Int := (numerator.log2 : Int) - denominator.log2 - 53
  let (scaled, unit) := scale numerator denominator guess
  max leastExponent (if scaled / unit < significandBound then guess else guess + 1)

/-- The binary number nearest to a fraction. -/
def nearest (negative : Bool) (numerator denominator : Nat) : Binary64 :=
  if numerator = 0 then
    finite negative 0 leastExponent
  else
    let exponent := exponentOf numerator denominator
    let significand := roundHalfEven (scale numerator denominator exponent)
    let (significand, exponent) :=
      if significand = significandBound then (significand / 2, exponent + 1)
      else (significand, exponent)
    if largestExponent < exponent then infinite negative
    else finite negative significand exponent

/-! ### Reading -/

/-- A decimal exponent beyond which all numbers are infinite or zero. -/
def exponentBound : Int := 400

/-- The binary number nearest to `digits * 10 ^ places`. -/
def ofDecimal (negative : Bool) (digits : Nat) (places : Int) : Binary64 :=
  let magnitude : Int := places + (Nat.toDigits 10 digits).length
  if digits = 0 || magnitude < -exponentBound then nearest negative 0 1
  else if exponentBound < magnitude then infinite negative
  else nearest negative (digits * Nat.pow 10 places.toNat) (Nat.pow 10 (-places).toNat)

/-- What follows a sign, and whether the sign was a minus. -/
def takeSign : List Char → Bool × List Char
  | '-' :: rest => (true, rest)
  | '+' :: rest => (false, rest)
  | text => (false, text)

/-- The names of numbers that have no digits, in lower case. -/
def named? (negative : Bool) (name : String) : Option Binary64 :=
  if name = "inf" || name = "infinity" then some (infinite negative)
  else if name = "nan" then some notANumber
  else none

/-- The power of ten that is named at the end of a numeral, zero if none is. -/
def exponentPart? (text : List Char) : Option Int :=
  match text with
  | [] => some 0
  | mark :: rest =>
    if mark = 'e' || mark = 'E' then
      let (negative, rest) := takeSign rest
      match spanDigits 10 rest with
      | ([], _) => none
      | (digits, []) =>
        let power : Int := ofDigits 10 digits
        some (if negative then -power else power)
      | _ => none
    else
      none

/-- The digits behind the point, and what follows them. -/
def fractionPart (text : List Char) : List Nat × List Char :=
  match text with
  | '.' :: rest => spanDigits 10 rest
  | text => ([], text)

/-- A numeral with digits. There must be one in front of the point or behind it. -/
def numeral? (negative : Bool) (text : List Char) : Option Binary64 := do
  let (whole, rest) := spanDigits 10 text
  let (fraction, rest) := fractionPart rest
  if whole.isEmpty && fraction.isEmpty then none
  let power ← exponentPart? rest
  return ofDecimal negative (ofDigits 10 (whole ++ fraction)) (power - fraction.length)

/-- The binary number that a text spells. -/
def read? (text : String) : Option Binary64 :=
  let (negative, rest) := takeSign text.toList
  (named? negative (String.ofList (rest.map Char.toLower))).or (numeral? negative rest)

/-! ### Rounding -/

/-- The whole number nearest to a binary number, without its sign. A half is rounded up. -/
def roundHalfUp (significand : Nat) (exponent : Int) : Nat :=
  let (numerator, denominator) := scale significand 1 (-exponent)
  (2 * numerator + denominator) / (2 * denominator)

/-- The count from zero to `bound` nearest to a binary number. What is not a number counts
as zero. -/
def roundToCount (bound : Nat) : Binary64 → Nat
  | notANumber | infinite true => 0
  | infinite false => bound
  | finite negative significand exponent =>
    if negative then 0 else min bound (roundHalfUp significand exponent)

/-- Whether a binary number is zero, with either sign. -/
def isZero : Binary64 → Bool
  | finite _ significand _ => significand = 0
  | _ => false

/-! ### Writing -/

/-- Whether `digits * 10 ^ places` reads as the given binary number. -/
def readsAs (significand : Nat) (exponent : Int) (digits : Nat) (places : Int) : Bool :=
  ofDecimal false digits places == finite false significand exponent

/-- The multiple of `10 ^ places` next below a binary number, by its digits, and whether the
one above it is nearer or as near. -/
def neighbour (significand : Nat) (exponent places : Int) : Nat × Bool :=
  let numerator := (significand <<< exponent.toNat) * Nat.pow 10 (-places).toNat
  let denominator := (1 <<< (-exponent).toNat) * Nat.pow 10 places.toNat
  (numerator / denominator, denominator ≤ 2 * (numerator % denominator))

/-- The digits of the shortest decimal on the grids `10 ^ places`, `10 ^ (places - 1)` and so
on that reads as a binary number, the nearer one if there are two. -/
def shortestFrom (significand : Nat) (exponent : Int) : Nat → Int → Nat × Int
  | 0, places => (0, places)
  | more + 1, places =>
    let (below, roundsUp) := neighbour significand exponent places
    let reads := fun digits => readsAs significand exponent digits places
    let (nearer, farther) := if roundsUp then (below + 1, below) else (below, below + 1)
    if reads nearer then (nearer, places)
    else if reads farther then (farther, places)
    else shortestFrom significand exponent more (places - 1)

/-- A power of ten that is no smaller than numbers with the given exponent. -/
def placesAbove (exponent : Int) : Int :=
  (exponent + 54) * 3 / 10 + 2

/-- The number of grids on which a decimal is looked for. -/
def gridCount : Nat := 64

/-- The shortest decimal that reads as a binary number: its digits and the power of ten of
the last of them. -/
def shortest (significand : Nat) (exponent : Int) : Nat × Int :=
  shortestFrom significand exponent gridCount (placesAbove exponent)

/-- `digits * 10 ^ places` without a power of ten. -/
def positional (digits : Nat) (places : Int) : String :=
  let characters := Nat.toDigits 10 digits
  if 0 ≤ places then
    String.ofList (characters ++ List.replicate places.toNat '0')
  else
    let fraction := (-places).toNat
    let padded := List.replicate (fraction + 1 - characters.length) '0' ++ characters
    let whole := padded.length - fraction
    String.ofList (padded.take whole ++ '.' :: padded.drop whole)

/-- The shortest decimal that reads as a binary number, in positional notation. -/
def render : Binary64 → String
  | notANumber => "NaN"
  | infinite negative => if negative then "-inf" else "inf"
  | finite negative significand exponent =>
    let sign := if negative then "-" else ""
    if significand = 0 then sign ++ "0"
    else
      let (digits, places) := shortest significand exponent
      sign ++ positional digits places

end Binary64

end LoginThrottle
