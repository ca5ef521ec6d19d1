import LoginThrottle.Yaml.Scalar
import LoginThrottle.Yaml12.Cursor

/-!
# The scalars of YAML 1.2 texts

How the text of a scalar is read in each of the five styles.

## Main Definitions

* `plainScalar?`: a scalar without quotation marks
* `quotedScalar?`: a scalar in single or double quotation marks
* `blockScalar?`: a scalar that keeps or folds the lines of an indented block

## Design Notes

Readers know where they are in the text: lines within scalars must be indented, also in
quotation marks and within brackets, and tabs are no indentation.
-/

namespace LoginThrottle.Yaml12

open Yaml (isBlank isFlowMark Chomping BlockHeader)

/-! ### Plain scalars -/

/-- Whether a plain scalar may go on with the character at the front. -/
def continuesPlain (inFlow : Bool) : List Char → Bool
  | [] => false
  | ':' :: rest => !(endsWord rest || (inFlow && rest.head?.any isFlowMark))
  | character :: _ => !(isBlank character || isBreak character || (inFlow && isFlowMark character))

/-- A word of a plain scalar. -/
def plainWord (inFlow : Bool) : List Char → List Char
  | [] => []
  | character :: rest =>
    if continuesPlain inFlow (character :: rest) then character :: plainWord inFlow rest else []

/-- The gap behind a word of a plain scalar, and where it ends, within `most` steps. A tab
may stand where a space is needed only on a line without a word. -/
def plainGap? (indent : Nat) : Nat → Gap → Cursor → Option (Gap × Cursor)
  | 0, gap, cursor => some (gap, cursor)
  | most + 1, gap, cursor =>
    match cursor.rest with
    | [] => some (gap, cursor)
    | character :: _ =>
      if isBreak character then
        plainGap? indent most (gap.addBreak !cursor.leading) cursor.passBreak
      else if !isBlank character then some (gap, cursor)
      else if !cursor.leading then plainGap? indent most (gap.addBlank character) cursor.step
      else if character = '\t' && cursor.column < indent then do
        plainGap? indent most gap (← emptyTail? cursor)
      else plainGap? indent most gap cursor.step

/-- Whether no plain scalar goes on here, at the start of a word. -/
def endsPlain (cursor : Cursor) : Bool :=
  cursor.rest.head? = some '#' || (cursor.column = 0 && isDocumentMark cursor.rest)

/-- Whether a word starts with a dash right before punctuation. -/
def isLoneDash : List Char → Bool
  | '-' :: next :: _ => isFlowMark next
  | _ => false

/-- The words of a plain scalar behind a gap, at most `most` of them. -/
def plainWords? (inFlow : Bool) (indent : Nat) :
    Nat → Gap → Cursor → Option (List Char × Cursor)
  | 0, _, cursor => some ([], cursor)
  | most + 1, gap, cursor =>
    if endsPlain cursor then some ([], cursor)
    else if inFlow && isLoneDash cursor.rest then none
    else
      let word := plainWord inFlow cursor.rest
      let text := if word.isEmpty then [] else gap.folded cursor.leading ++ word
      let behind := cursor.skip word.length
      if behind.rest.isEmpty || !endsWord behind.rest then some (text, behind)
      else do
        let (gap, next) ← plainGap? indent (behind.rest.length + 1) .none behind
        if !inFlow && next.column < indent then return (text, next)
        let (later, rest) ← plainWords? inFlow indent most gap next
        return (text ++ later, rest)

/-- A plain scalar at the front of a text, whose lines are indented by at least `indent`. -/
def plainScalar? (inFlow : Bool) (indent : Nat) (cursor : Cursor) :
    Option (List Char × Cursor) :=
  if inFlow && cursor.column < indent then none
  else plainWords? inFlow indent (cursor.rest.length + 1) .none cursor

/-! ### Quoted scalars -/

/-- The characters of a scalar in quotation marks up to a blank, a line break or the closing
mark, within `most` steps, and whether a line break behind a backslash ended them. -/
def quotedWord? (single : Bool) : Nat → Cursor → Option (List Char × Bool × Cursor)
  | 0, cursor => some ([], false, cursor)
  | most + 1, cursor =>
    let continueWith (text : List Char) (cursor : Cursor) :
        Option (List Char × Bool × Cursor) := do
      let (later, ended, cursor) ← quotedWord? single most cursor
      return (text ++ later, ended, cursor)
    match cursor.rest with
    | [] => some ([], false, cursor)
    | character :: rest =>
      if endsWord (character :: rest) then some ([], false, cursor)
      else if single then
        if character = '\'' then
          if rest.head? = some '\'' then continueWith ['\''] (cursor.skip 2)
          else some ([], false, cursor)
        else continueWith [character] cursor.step
      else if character = '"' then some ([], false, cursor)
      else if character = '\\' then
        if rest.head?.any isBreak then some ([], true, cursor.step.passBreak)
        else do
          let (escaped, after) ← Yaml.escaped? rest
          continueWith [escaped] (cursor.moveTo after)
      else continueWith [character] cursor.step

/-- The gap behind a word in quotation marks, whether the next word starts a line, and where
it does, within `most` steps. -/
def quotedGap? (indent : Nat) : Nat → (startsLine : Bool) → Gap → Cursor →
    Option (Gap × Bool × Cursor)
  | 0, startsLine, gap, cursor => some (gap, startsLine, cursor)
  | most + 1, startsLine, gap, cursor =>
    match cursor.rest with
    | [] => some (gap, startsLine, cursor)
    | character :: _ =>
      if isBreak character then
        quotedGap? indent most true (gap.addBreak !startsLine) cursor.passBreak
      else if !isBlank character then some (gap, startsLine, cursor)
      else if !startsLine then quotedGap? indent most false (gap.addBlank character) cursor.step
      else if character = '\t' && cursor.column < indent then none
      else quotedGap? indent most true gap cursor.step

/-- Whether the closing mark is next. -/
def closesQuote (single : Bool) (text : List Char) : Bool :=
  text.head? = some (if single then '\'' else '"')

/-- The words of a scalar in quotation marks and where its closing mark is, within `most`
steps. -/
def quotedWords? (single : Bool) (indent : Nat) : Nat → Cursor → Option (List Char × Cursor)
  | 0, _ => none
  | most + 1, cursor =>
    if cursor.rest.isEmpty || cursor.column < indent
        || (cursor.column = 0 && isDocumentMark cursor.rest) then none
    else do
      let (word, ended, behind) ← quotedWord? single (cursor.rest.length + 1) cursor
      if closesQuote single behind.rest then return (word, behind)
      let (gap, startsLine, next) ← quotedGap? indent (behind.rest.length + 1) ended .none behind
      let (later, rest) ← quotedWords? single indent most next
      return (word ++ gap.folded startsLine ++ later, rest)

/-- Whether a text may follow a scalar in quotation marks that stands on one line or not. -/
def mayFollowQuote (inFlow oneLine : Bool) : List Char → Bool
  | [] => true
  | character :: _ =>
    isBreak character || (inFlow && [',', ']', '\x7d'].contains character)
      || (character = ':' && (inFlow || oneLine))

/-- A scalar in quotation marks, whose later lines are indented by at least `indent`. -/
def quotedScalar? (single inFlow : Bool) (indent : Nat) (cursor : Cursor) :
    Option (List Char × Cursor) := do
  let (text, behind) ← quotedWords? single indent (cursor.rest.length + 1) cursor.step
  let tail ← lineTail? true behind.step
  if mayFollowQuote inFlow (tail.cursor.line = cursor.line) tail.cursor.rest then
    return (text, tail.cursor)
  else
    none

/-! ### Block scalars -/

/-- Passes empty lines and at most `indent` spaces of indentation, within `most` steps. The
line breaks are handed back. -/
def passIndent (indent : Nat) : Nat → Cursor → List Char × Cursor
  | 0, cursor => ([], cursor)
  | most + 1, cursor =>
    let spaces := (cursor.rest.takeWhile (· = ' ')).length
    let behind := cursor.skip (min spaces (indent - cursor.column))
    if behind.rest.head?.any isBreak then
      let (breaks, rest) := passIndent indent most behind.passBreak
      ('\n' :: breaks, rest)
    else
      ([], behind)

/-- Passes empty lines and all spaces of indentation, within `most` steps. The line breaks
are handed back, and the largest number of spaces on a line. -/
def passWidest : Nat → Cursor → List Char × Nat × Cursor
  | 0, cursor => ([], 0, cursor)
  | most + 1, cursor =>
    let behind := cursor.passWhile (· = ' ')
    if behind.rest.head?.any isBreak then
      let (breaks, widest, rest) := passWidest most behind.passBreak
      ('\n' :: breaks, max behind.column widest, rest)
    else
      ([], behind.column, behind)

/-- The lines of a block and what follows them. -/
structure BlockLines where
  text : List Char
  /-- The line break of the last line. -/
  ending : List Char
  /-- The empty lines behind it. -/
  breaks : List Char
  cursor : Cursor

/-- What stands between two lines of a block. Folding joins lines, except those that start
with a blank of their own. -/
def lineSeparator (folded indented : Bool) (ending breaks : List Char) : List Char :=
  if folded && !indented && !ending.isEmpty then
    if breaks.isEmpty then [' '] else breaks
  else
    ending ++ breaks

/-- Reads the lines of a block, within `most` steps. The line before ended with `ending` and
some empty lines, and was `indented` by blanks of its own or not. -/
def blockLines (folded : Bool) (indent : Nat) :
    Nat → (ending breaks : List Char) → (indented : Bool) → Cursor → BlockLines
  | 0, ending, breaks, _, cursor => ⟨[], ending, breaks, cursor⟩
  | most + 1, ending, breaks, indented, cursor =>
    if cursor.column ≠ indent || cursor.rest.isEmpty
        || (indent = 0 && isDocumentEnd cursor.rest) then
      ⟨[], ending, breaks, cursor⟩
    else
      let starts := cursor.rest.head?.any isBlank
      let content := cursor.rest.takeWhile (!isBreak ·)
      let text := lineSeparator folded (indented || starts) ending breaks ++ content
      let behind := cursor.skip content.length
      if behind.rest.isEmpty then
        ⟨text, [], [], behind⟩
      else
        let next := behind.passBreak
        let (breaks, next) := passIndent indent (next.rest.length + 1) next
        let later := blockLines folded indent most ['\n'] breaks starts next
        { later with text := text ++ later.text }

/-- The text of a block without lines of its own, where `opened` is the line break of the
line that opens it. -/
def emptyBlock (chomping : Chomping) (opened breaks : List Char) : List Char :=
  match chomping with
  | .strip => []
  | .clip => opened
  | .keep => if breaks.isEmpty then opened else breaks

/-- What stands behind the lines of a block. A last line that the text ends with counts as
ended if it is indented far enough. -/
def blockEnding (chomping : Chomping) (indent : Nat) (lines : BlockLines) : List Char :=
  let ended := lines.cursor.rest.isEmpty && max indent 1 ≤ lines.cursor.column
  let clipped := lines.ending ++ if ended then ['\n'] else []
  match chomping with
  | .strip => []
  | .clip => clipped
  | .keep => clipped ++ lines.breaks

/-- The text of a block scalar at the front of a text. The block around it is indented by
`outer`, if there is one. -/
def blockScalar? (folded : Bool) (outer : Option Nat) (cursor : Cursor) :
    Option (List Char × Cursor) := do
  let (header, rest) ← Yaml.blockHeader? cursor.rest.tail
  let tail ← emptyTail? (cursor.moveTo rest)
  let start := tail.passBreak
  if start.rest.head? = some '\t' then none
  let most := start.rest.length + 1
  let (breaks, indent, first) :=
    match header.indent with
    | some width =>
      let indent := outer.getD 0 + width
      let (breaks, first) := passIndent indent most start
      (breaks, indent, first)
    | none =>
      let (breaks, widest, first) := passWidest most start
      (breaks, max widest (outer.elim 0 (· + 1)), first)
  if first.rest.isEmpty then
    let opened := if first.line = cursor.line then [] else ['\n']
    return (if opened.isEmpty then [] else emptyBlock header.chomping opened breaks, first)
  if first.column < indent && outer.all (· < first.column) then none
  let lines := blockLines folded indent most [] breaks false first
  return (lines.text ++ blockEnding header.chomping indent lines, lines.cursor)

end LoginThrottle.Yaml12
