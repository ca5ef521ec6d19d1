/-!
# The characters of YAML texts

Blanks, line breaks and how a run of both reads as part of a scalar.

## Main Definitions

* `isAllowed`: whether a character may occur in a text at all
* `lineBreak?`: the line break at the front of a text
* `Gap`: blanks and line breaks between two words
* `Gap.folded`: what a gap contributes to a scalar

## Design Notes

A line break that a scalar keeps is one character. All spellings of the ordinary line break
become a line feed, the line and paragraph separators stay what they are.
-/

namespace LoginThrottle.Yaml

/-- Whether a character may occur in a text at all. -/
def isAllowed (character : Char) : Bool :=
  let point := character.toNat
  point = 0x09 || point = 0x0a || point = 0x0d || point = 0x85
    || (0x20 ≤ point && point ≤ 0x7e)
    || (0xa0 ≤ point && point ≤ 0xd7ff)
    || (0xe000 ≤ point && point ≤ 0xfffd)
    || 0x10000 ≤ point

/-- Whether a character separates words on a line. -/
def isBlank (character : Char) : Bool :=
  character = ' ' || character = '\t'

/-- Whether a character breaks a line. -/
def isBreak (character : Char) : Bool :=
  character = '\n' || character = '\r' || character = '\u0085' || character = '\u2028'
    || character = '\u2029'

/-- Whether a word ends here: at a blank, at a line break or with the text. -/
def endsWord : List Char → Bool
  | [] => true
  | character :: _ => isBlank character || isBreak character

/-- Whether a line ends here. -/
def endsLine : List Char → Bool
  | [] => true
  | character :: _ => isBreak character

/-- The line break at the front of a text as one character, and what follows it. -/
def lineBreak? : List Char → Option (Char × List Char)
  | '\r' :: '\n' :: rest => some ('\n', rest)
  | '\u2028' :: rest => some ('\u2028', rest)
  | '\u2029' :: rest => some ('\u2029', rest)
  | character :: rest => if isBreak character then some ('\n', rest) else none
  | [] => none

/-- Whether a line starts with the mark between documents or the mark after one. -/
def isDocumentMark (text : List Char) : Bool :=
  match text with
  | '-' :: '-' :: '-' :: rest => endsWord rest
  | '.' :: '.' :: '.' :: rest => endsWord rest
  | _ => false

/-- Whether a character is part of names of anchors, handles and directives. -/
def isNameChar (character : Char) : Bool :=
  character.isAlphanum || character = '_' || character = '-'

/-- Whether a character belongs to the punctuation of collections in brackets. -/
def isFlowMark (character : Char) : Bool :=
  [',', '[', ']', '\x7b', '\x7d'].contains character

/-! ### Gaps -/

/-- Blanks, and then line breaks, each with the blanks that follow it. -/
structure Gap where
  blanks : List Char
  lines : List (Char × List Char)
  deriving Repr

namespace Gap

/-- The line breaks at the front of a text, each with the blanks that follow it. At most
`most` of them are taken. -/
def takeLines : Nat → List Char → List (Char × List Char) × List Char
  | 0, text => ([], text)
  | most + 1, text =>
    match lineBreak? text with
    | none => ([], text)
    | some (mark, rest) =>
      let (blanks, rest) := rest.span isBlank
      let (lines, rest) := takeLines most rest
      ((mark, blanks) :: lines, rest)

/-- The gap at the front of a text, and what follows it. -/
def take (text : List Char) : Gap × List Char :=
  let (blanks, rest) := text.span isBlank
  let (lines, rest) := takeLines rest.length rest
  (⟨blanks, lines⟩, rest)

/-- Whether there is nothing in the gap. -/
def isEmpty (gap : Gap) : Bool :=
  gap.blanks.isEmpty && gap.lines.isEmpty

/-- Whether the gap breaks a line. -/
def breaksLine (gap : Gap) : Bool :=
  !gap.lines.isEmpty

/-- The column behind a gap that breaks a line. -/
def column? (gap : Gap) : Option Nat :=
  gap.lines.getLast?.map fun line => line.2.length

/-- Whether the gap indents a line with a tab where a space is needed. -/
def hasTabBefore (gap : Gap) (indent : Nat) : Bool :=
  gap.lines.any fun line => (line.2.take indent).contains '\t'

/-- What a gap contributes to a scalar. Blanks within a line stay. A single line break
becomes a space, and of several the first is left out. -/
def folded (gap : Gap) : List Char :=
  match gap.lines with
  | [] => gap.blanks
  | [('\n', _)] => [' ']
  | ('\n', _) :: later => later.map Prod.fst
  | lines => lines.map Prod.fst

end Gap

end LoginThrottle.Yaml
