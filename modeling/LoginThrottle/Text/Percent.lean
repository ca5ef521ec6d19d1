import LoginThrottle.Net.Numeral
import LoginThrottle.Text.Utf8

/-!
# Texts with percent signs

Texts in places where only some visible characters may stand. All other bytes are written
as a percent sign and two hexadecimal digits.

## Main Definitions

* `percentEncode`: a text with the bytes that may not stand written in digits
* `percentDecode`: the text whose bytes are partly written in digits

## Design Notes

The percent sign itself stays as it is, so a text with percent signs of its own may read
back as another.
-/

namespace LoginThrottle

/-- The visible characters that are written in digits. -/
def reservedChars : List Char :=
  ['"', '#', '<', '>', '`', '?', '\x7b', '\x7d']

/-- Whether a byte stands for itself. -/
def isPercentSafe (byte : UInt8) : Bool :=
  32 < byte && byte < 127 && !reservedChars.contains (Char.ofNat byte.toNat)

/-- The digit of a value below sixteen, in upper case. -/
def upperHexDigit (value : Nat) : Char :=
  (Nat.digitChar value).toUpper

/-- How a byte is written. -/
def percentByte (byte : UInt8) : List Char :=
  if isPercentSafe byte then
    [Char.ofNat byte.toNat]
  else
    ['%', upperHexDigit (byte.toNat / 16), upperHexDigit (byte.toNat % 16)]

/-- A text with the bytes that may not stand written in digits. -/
def percentEncode (text : String) : String :=
  String.ofList (text.toUTF8.toList.flatMap percentByte)

/-- The bytes that characters stand for. A percent sign without two digits stands for
itself. -/
def percentBytes : List Char → List UInt8
  | [] => []
  | '%' :: high :: low :: rest =>
    match digitOf? 16 high, digitOf? 16 low with
    | some high, some low => UInt8.ofNat (high * 16 + low) :: percentBytes rest
    | _, _ => UInt8.ofNat '%'.toNat :: percentBytes (high :: low :: rest)
  | character :: rest => (String.singleton character).toUTF8.toList ++ percentBytes rest

/-- The text whose bytes are partly written in digits, if they make up a text. -/
def percentDecode (text : String) : Except Utf8Flaw String :=
  textOfBytes (percentBytes text.toList)

end LoginThrottle
