import LoginThrottle.Yaml.Text

/-!
# Places in YAML 1.2 texts

The newer version of the format only knows the ordinary line breaks, and it matters to it
whether anything but blanks stands in front of a place on its line.

## Main Definitions

* `Cursor`: the unread text and where it starts
* `Cursor.step`, `Cursor.passBreak`: pass a character or a line break
* `lineTail?`: what may stand behind a token on its line
-/

namespace LoginThrottle.Yaml12

open Yaml (isBlank isFlowMark isNameChar)

/-- Whether a character breaks a line. -/
def isBreak (character : Char) : Bool :=
  character = '\n' || character = '\r'

/-- Whether a word ends here: at a blank, at a line break or with the text. -/
def endsWord : List Char → Bool
  | [] => true
  | character :: _ => isBlank character || isBreak character

/-- Whether a line ends here. -/
def endsLine : List Char → Bool
  | [] => true
  | character :: _ => isBreak character

/-- Whether a line starts with the mark behind a document. -/
def isDocumentEnd : List Char → Bool
  | '.' :: '.' :: '.' :: rest => endsWord rest
  | _ => false

/-- Whether a line starts with the mark between documents or the mark behind one. -/
def isDocumentMark : List Char → Bool
  | '-' :: '-' :: '-' :: rest => endsWord rest
  | text => isDocumentEnd text

/-- The unread text and where it starts. -/
structure Cursor where
  rest : List Char
  line : Nat
  column : Nat
  /-- The number of characters before it. -/
  index : Nat
  /-- Whether there are only blanks before it on its line. -/
  leading : Bool

namespace Cursor

/-- The start of a text. -/
def start (text : List Char) : Cursor :=
  ⟨text, 0, 0, 0, true⟩

/-- Passes one character. The two characters of one line break count as one line. -/
def step (cursor : Cursor) : Cursor :=
  match cursor.rest with
  | [] => cursor
  | character :: rest =>
    let index := cursor.index + 1
    if isBlank character || (character = '\r' && rest.head? = some '\n') then
      ⟨rest, cursor.line, cursor.column + 1, index, cursor.leading⟩
    else if isBreak character then
      ⟨rest, cursor.line + 1, 0, index, true⟩
    else
      ⟨rest, cursor.line, cursor.column + 1, index, false⟩

/-- Passes so many characters. -/
def skip : Nat → Cursor → Cursor
  | 0, cursor => cursor
  | more + 1, cursor => skip more cursor.step

/-- Passes all characters up to an end of the unread text. -/
def moveTo (cursor : Cursor) (rest : List Char) : Cursor :=
  cursor.skip (cursor.rest.length - rest.length)

/-- Passes the characters at the front for which something holds. -/
def passWhile (holds : Char → Bool) (cursor : Cursor) : Cursor :=
  cursor.skip (cursor.rest.takeWhile holds).length

/-- Passes the rest of the line. -/
def passLine (cursor : Cursor) : Cursor :=
  cursor.passWhile (!isBreak ·)

/-- Passes the line break at the front, if there is one. -/
def passBreak (cursor : Cursor) : Cursor :=
  match cursor.rest with
  | '\r' :: '\n' :: _ => cursor.skip 2
  | character :: _ => if isBreak character then cursor.step else cursor
  | [] => cursor

end Cursor

/-- What stands behind a token on its line. -/
structure LineTail where
  spaces : Bool
  tabs : Bool
  /-- Where something else begins, or the line ends. -/
  cursor : Cursor

/-- Blanks and a comment at the front of a text. There must be a blank in front of a
comment. -/
def lineTail? (tabsToo : Bool) (cursor : Cursor) : Option LineTail :=
  let blanks := cursor.rest.takeWhile fun next => next = ' ' || (tabsToo && next = '\t')
  let behind := cursor.skip blanks.length
  let tail := fun cursor => LineTail.mk (blanks.contains ' ') (blanks.contains '\t') cursor
  if behind.rest.head? = some '#' then
    if blanks.isEmpty then none else some (tail behind.passLine)
  else
    some (tail behind)

/-- Where a line ends on which only blanks and a comment are left. -/
def emptyTail? (cursor : Cursor) : Option Cursor := do
  let tail ← lineTail? true cursor
  if endsLine tail.cursor.rest then return tail.cursor else none

/-! ### Gaps -/

/-- Blanks and line breaks between two words. -/
structure Gap where
  /-- The blanks, if no line break follows them. -/
  blanks : List Char
  /-- Whether a word stood before the first line break on its line. -/
  broken : Bool
  /-- The other line breaks. -/
  breaks : List Char
  deriving DecidableEq, Repr

namespace Gap

/-- Nothing between two words. -/
def none : Gap := ⟨[], false, []⟩

/-- The gap with one more blank. -/
def addBlank (gap : Gap) (blank : Char) : Gap :=
  { gap with blanks := gap.blanks ++ [blank] }

/-- The gap with one more line break, which may be the first behind a word. -/
def addBreak (gap : Gap) (behindWord : Bool) : Gap :=
  if behindWord then { gap with blanks := [], broken := true }
  else { gap with breaks := gap.breaks ++ ['\n'] }

/-- What a gap contributes to a scalar if the next word starts a line or not. A single line
break becomes a space, and of several the first is left out. -/
def folded (gap : Gap) (startsLine : Bool) : List Char :=
  if !startsLine then gap.blanks
  else if gap.broken && gap.breaks.isEmpty then [' ']
  else gap.breaks

end Gap

end LoginThrottle.Yaml12
