import LoginThrottle.Net.Numeral
import LoginThrottle.Text.Visible

/-!
# Quoted texts

A text between quotation marks, with escapes for the characters that a reader could
not see or could mistake.

## Main Definitions

* `escapeChar`: how one character stands between quotation marks
* `quote`: a text between quotation marks
-/

namespace LoginThrottle

/-- A character by its code point. -/
def codePointEscape (character : Char) : String :=
  "\\u\x7b" ++ renderHex character.toNat ++ "\x7d"

/-- How a character stands between quotation marks. -/
def escapeChar (character : Char) : String :=
  if character = '\x00' then "\\0"
  else if character = '\t' then "\\t"
  else if character = '\n' then "\\n"
  else if character = '\r' then "\\r"
  else if character = '\\' then "\\\\"
  else if character = '"' then "\\\""
  else if isVisible character then String.singleton character
  else codePointEscape character

/-- A text between quotation marks. -/
def quote (text : String) : String :=
  "\"" ++ String.join (text.toList.map escapeChar) ++ "\""

end LoginThrottle
