/-!
# Unsigned numerals

Reading and writing of unsigned whole numbers as they stand in addresses, ports and
prefix lengths.

## Main Definitions

* `NumeralStyle`: radix, length and range of the numerals at some place
* `NumeralStyle.read?`: the number at the front of a text, and what follows it
* `renderNat`, `renderHex`: a number as decimal or lower-case hexadecimal digits
-/

namespace LoginThrottle

/-- The value of a digit in bases up to sixteen, in either case. -/
def digitValue? (character : Char) : Option Nat :=
  if '0' ≤ character ∧ character ≤ '9' then some (character.toNat - '0'.toNat)
  else if 'a' ≤ character ∧ character ≤ 'f' then some (character.toNat - 'a'.toNat + 10)
  else if 'A' ≤ character ∧ character ≤ 'F' then some (character.toNat - 'A'.toNat + 10)
  else none

/-- The value of a digit of the given radix. -/
def digitOf? (radix : Nat) (character : Char) : Option Nat :=
  (digitValue? character).filter (· < radix)

/-- The digits at the front of a text, and what follows them. -/
def spanDigits (radix : Nat) : List Char → List Nat × List Char
  | [] => ([], [])
  | character :: rest =>
    match digitOf? radix character with
    | none => ([], character :: rest)
    | some digit =>
      let (digits, after) := spanDigits radix rest
      (digit :: digits, after)

/-- The number that digits stand for, the most significant one first. -/
def ofDigits (radix : Nat) (digits : List Nat) : Nat :=
  digits.foldl (fun value digit => value * radix + digit) 0

/-- How unsigned numbers are written at some place. -/
structure NumeralStyle where
  radix : Nat
  /-- The largest number of digits, if there is one. -/
  maxDigits : Option Nat
  /-- Whether zeros may stand in front of other digits. -/
  leadingZeros : Bool
  /-- The least number that is too large. -/
  bound : Nat

namespace NumeralStyle

/-- Whether a run of digits is a numeral of this style. -/
def accepts (style : NumeralStyle) (digits : List Nat) : Bool :=
  !digits.isEmpty
    && style.maxDigits.all (fun most => digits.length ≤ most)
    && (style.leadingZeros || digits.length ≤ 1 || digits.head? != some 0)
    && ofDigits style.radix digits < style.bound

/-- Reads the numeral at the front of a text. All digits there belong to it, so a run
of digits that is too long is no numeral. -/
def read? (style : NumeralStyle) (text : List Char) : Option (Nat × List Char) :=
  let (digits, rest) := spanDigits style.radix text
  if style.accepts digits then some (ofDigits style.radix digits, rest) else none

/-- Reads a text that is one numeral. -/
def readWhole? (style : NumeralStyle) (text : List Char) : Option Nat :=
  match style.read? text with
  | some (value, []) => some value
  | _ => none

end NumeralStyle

/-- The digits of a number, in lower case. -/
def renderRadix (radix value : Nat) : String :=
  String.ofList (Nat.toDigits radix value)

/-- A number in decimal digits. -/
def renderNat (value : Nat) : String :=
  renderRadix 10 value

/-- A number in lower-case hexadecimal digits. -/
def renderHex (value : Nat) : String :=
  renderRadix 16 value

/-- A number in decimal digits, with a sign if it is negative. -/
def renderInt : Int → String
  | .ofNat value => renderNat value
  | .negSucc value => "-" ++ renderNat (value + 1)

end LoginThrottle
