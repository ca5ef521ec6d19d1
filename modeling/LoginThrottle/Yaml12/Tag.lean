import LoginThrottle.Yaml.Tag
import LoginThrottle.Yaml12.Cursor

/-!
# Tags and directives of YAML 1.2 texts

How tags are spelled, and the directives in front of a document. Directives with unknown
names are allowed.

## Main Definitions

* `tag?`: the tag at the front of a text
* `directive?`: the directive on the rest of a line

## Design Notes

Characters of tags may be given by the bytes of their encoding, with a percent sign in front
of each. The bytes are put together to one number, without taking out the bits that say how
they belong together. So characters of one byte come out right, and no others.
-/

namespace LoginThrottle.Yaml12

open Yaml (Token escapedByte? handle? isBlank isFlowMark isNameChar laterCount? version?)

/-- Whether a character may stand in a tag between angle brackets. -/
def isUriChar (character : Char) : Bool :=
  isNameChar character
    || ['#', ';', '/', '?', ':', '@', '&', '=', '+', '$', ',', '.', '!', '~', '*', '\'', '(',
      ')', '[', ']', '%'].contains character

/-- Whether a character may stand in any tag. -/
def isTagChar (character : Char) : Bool :=
  isUriChar character && !isFlowMark character && character ≠ '!'

/-- The number that so many bytes add to the digits of another one. -/
def appendBytes? : Nat → Nat → List Char → Option (Nat × List Char)
  | 0, code, text => some (code, text)
  | more + 1, code, text => do
    let (byte, rest) ← escapedByte? text
    if 0x80 ≤ byte ∧ byte < 0xc0 then appendBytes? more (code * 0x100 + byte.toNat) rest
    else none

/-- The character that escaped bytes stand for. -/
def escapedChar? (text : List Char) : Option (Char × List Char) := do
  let (first, rest) ← escapedByte? text
  let (code, rest) ← appendBytes? (← laterCount? first) first.toNat rest
  if code.isValidChar then return (Char.ofNat code, rest) else none

/-- The characters at the front of a text for which something holds, with escapes resolved,
within `most` steps. -/
def tagText? (holds : Char → Bool) : Nat → List Char → Option (List Char × List Char)
  | 0, text => some ([], text)
  | _, [] => some ([], [])
  | most + 1, character :: rest => do
    if holds character then
      let (character, rest) ←
        if character = '%' then escapedChar? (character :: rest) else some (character, rest)
      let (later, rest) ← tagText? holds most rest
      return (character :: later, rest)
    else
      return ([], character :: rest)

/-- A tag in full, from behind the opening angle bracket. -/
def verbatimTag? (text : List Char) : Option (Token × List Char) := do
  let (characters, rest) ← tagText? isUriChar text.length text
  match rest with
  | '>' :: rest => return (.tag "" (String.ofList characters), rest)
  | _ => none

/-- A tag with a handle: a name between exclamation marks, two of them, or one. The mark
alone is a tag too. -/
def shorthandTag? (text : List Char) : Option (Token × List Char) := do
  let (name, rest) := text.span isNameChar
  match rest with
  | '!' :: rest =>
    let (suffix, rest) ← tagText? isTagChar rest.length rest
    if suffix.isEmpty then none
    return (.tag ("!" ++ String.ofList name ++ "!") (String.ofList suffix), rest)
  | rest =>
    let (later, rest) ← tagText? isTagChar rest.length rest
    match name ++ later with
    | [] => return (.tag "" "!", rest)
    | suffix => return (.tag "!" (String.ofList suffix), rest)

/-- The tag at the front of a text, from behind its first mark. A tag ends a word, except
that within brackets punctuation may follow it. -/
def tag? (inFlow : Bool) (text : List Char) : Option (Token × List Char) := do
  let (token, rest) ←
    match text with
    | '<' :: rest => verbatimTag? rest
    | text => shorthandTag? text
  if endsWord rest || (inFlow && rest.head?.any isFlowMark) then return (token, rest) else none

/-! ### Directives -/

/-- What a handle stands for. It starts with a mark or like a tag. -/
def expansion? (text : List Char) : Option (List Char × List Char) :=
  match text with
  | '!' :: rest => do
    let (later, rest) ← tagText? isUriChar rest.length rest
    return ('!' :: later, rest)
  | text => if text.head?.any isTagChar then tagText? isUriChar text.length text else none

/-- What a directive says a handle stands for. -/
def tagDefinition? (text : List Char) : Option (Token × List Char) := do
  let (handle, rest) ← handle? text
  let (expansion, rest) ← expansion? (rest.dropWhile isBlank)
  if endsWord rest then
    return (.tagDirective (String.ofList handle) (String.ofList expansion), rest)
  else
    none

/-- The token of a directive with an unknown name. It defines the handle without characters,
which stands for nothing anyway. -/
def unknownDirective : Token := .tagDirective "" ""

/-- A directive, from behind the percent sign. -/
def directive? (text : List Char) : Option (Token × List Char) := do
  let (name, rest) := text.span isNameChar
  if name.isEmpty || !endsWord rest then none
  if name = "YAML".toList then version? (rest.dropWhile isBlank)
  else if name = "TAG".toList then tagDefinition? (rest.dropWhile isBlank)
  else return (unknownDirective, rest.dropWhile (!isBreak ·))

end LoginThrottle.Yaml12
