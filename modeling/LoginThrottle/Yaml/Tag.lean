import LoginThrottle.Net.Numeral
import LoginThrottle.Text.Utf8
import LoginThrottle.Yaml.Text
import LoginThrottle.Yaml.Token

/-!
# Tags and directives

How tags are spelled, and the directives that say which version of YAML a text is written
in and what the handles of its tags stand for.

## Main Definitions

* `tag?`: the tag at the front of a text
* `directive?`: the directive on the rest of a line
-/

namespace LoginThrottle.Yaml

/-- Whether a character may stand in a tag. Only tags between angle brackets may hold
punctuation of collections. -/
def isTagChar (verbatim : Bool) (character : Char) : Bool :=
  isNameChar character
    || [';', '/', '?', ':', '@', '&', '=', '+', '$', '.', '%', '!', '~', '*', '\'', '(',
      ')'].contains character
    || (verbatim && [',', '[', ']'].contains character)

/-- The byte that two hexadecimal digits behind a percent sign stand for. -/
def escapedByte? : List Char → Option (UInt8 × List Char)
  | '%' :: high :: low :: rest => do
    let high ← digitOf? 16 high
    let low ← digitOf? 16 low
    return (UInt8.ofNat (high * 16 + low), rest)
  | _ => none

/-- How many bytes follow the first byte of a character. -/
def laterCount? (first : UInt8) : Option Nat :=
  if first < 0x80 then some 0
  else if first < 0xc0 then none
  else if first < 0xe0 then some 1
  else if first < 0xf0 then some 2
  else if first < 0xf8 then some 3
  else none

/-- So many escaped bytes that go on with a character. -/
def laterBytes? : Nat → List Char → Option (List UInt8 × List Char)
  | 0, text => some ([], text)
  | more + 1, text => do
    let (byte, rest) ← escapedByte? text
    if byte < 0x80 || 0xc0 ≤ byte then none
    let (bytes, rest) ← laterBytes? more rest
    return (byte :: bytes, rest)

/-- The character whose encoding is written in escaped bytes. The replacement character stands
for bytes that look like an encoding and are none. -/
def escapedChar? (text : List Char) : Option (Char × List Char) := do
  let (first, rest) ← escapedByte? text
  let (later, rest) ← laterBytes? (← laterCount? first) rest
  match (textOfBytes? (first :: later)).map String.toList with
  | some [character] => return (character, rest)
  | _ => return ('\ufffd', rest)

/-- The characters of a tag at the front of a text, within `most` steps. -/
def tagText? (verbatim : Bool) : Nat → List Char → Option (List Char × List Char)
  | 0, text => some ([], text)
  | _, [] => some ([], [])
  | most + 1, character :: rest => do
    if isTagChar verbatim character then
      let (character, rest) ←
        if character = '%' then escapedChar? (character :: rest) else some (character, rest)
      let (later, rest) ← tagText? verbatim most rest
      return (character :: later, rest)
    else
      return ([], character :: rest)

/-- Text of a tag that is not empty. -/
def someTagText? (verbatim : Bool) (text : List Char) : Option (List Char × List Char) := do
  let (characters, rest) ← tagText? verbatim text.length text
  if characters.isEmpty then none else return (characters, rest)

/-- The text of a tag, which an escaped null character ends. -/
def tagString (characters : List Char) : String :=
  String.ofList (characters.takeWhile (· ≠ '\x00'))

/-- A tag in full, from behind the opening angle bracket. -/
def verbatimTag? (text : List Char) : Option (Token × List Char) := do
  let (characters, rest) ← someTagText? true text
  match rest with
  | '>' :: rest => return (.tag "" (tagString characters), rest)
  | _ => none

/-- A tag with a handle: a name between exclamation marks, two of them, or one. The mark
alone is a tag too. -/
def shorthandTag? (text : List Char) : Option (Token × List Char) := do
  let (name, rest) := text.span isNameChar
  match rest with
  | '!' :: rest =>
    let (suffix, rest) ← someTagText? false rest
    return (.tag ("!" ++ String.ofList name ++ "!") (tagString suffix), rest)
  | rest =>
    let (later, rest) ← tagText? false rest.length rest
    let suffix := tagString (name ++ later)
    return (if suffix.isEmpty then .tag "" "!" else .tag "!" suffix, rest)

/-- The tag at the front of a text, from behind its first mark. A tag ends a word, except
that within brackets a comma may follow it. -/
def tag? (inFlow : Bool) (text : List Char) : Option (Token × List Char) := do
  let (token, rest) ←
    match text with
    | '<' :: rest => verbatimTag? rest
    | text => shorthandTag? text
  if endsWord rest || (inFlow && rest.head? = some ',') then return (token, rest) else none

/-! ### Directives -/

/-- A part of a version number. -/
def versionStyle : NumeralStyle where
  radix := 10
  maxDigits := some 9
  leadingZeros := true
  bound := 1000000000

/-- The version that a directive names. -/
def version? (text : List Char) : Option (Token × List Char) := do
  let (major, rest) ← versionStyle.read? text
  match rest with
  | '.' :: rest =>
    let (minor, rest) ← versionStyle.read? rest
    return (.versionDirective major minor, rest)
  | _ => none

/-- A handle on its own. -/
def handle? : List Char → Option (List Char × List Char)
  | '!' :: rest =>
    let (name, rest) := rest.span isNameChar
    match rest with
    | '!' :: rest => some ('!' :: name ++ ['!'], rest)
    | rest => if name.isEmpty then some (['!'], rest) else none
  | _ => none

/-- What a directive says a handle stands for. -/
def tagDefinition? (text : List Char) : Option (Token × List Char) := do
  let (handle, rest) ← handle? text
  if !rest.head?.any isBlank then none
  let (expansion, rest) ← someTagText? true (rest.dropWhile isBlank)
  if endsWord rest then
    return (.tagDirective (String.ofList handle) (tagString expansion), rest)
  else
    none

/-- A directive, from behind the percent sign to the end of its line. -/
def directive? (text : List Char) : Option (Token × List Char) := do
  let (name, rest) := text.span isNameChar
  if !endsWord rest then none
  let rest := rest.dropWhile isBlank
  let (token, rest) ←
    if name = "YAML".toList then version? rest
    else if name = "TAG".toList then tagDefinition? rest
    else none
  let rest := rest.dropWhile isBlank
  let rest := if rest.head? = some '#' then rest.dropWhile (!isBreak ·) else rest
  if endsLine rest then return (token, rest) else none

end LoginThrottle.Yaml
