import LoginThrottle.Yaml.Lexer
import LoginThrottle.Yaml12.Scalar
import LoginThrottle.Yaml12.Tag

/-!
# From YAML 1.2 texts to tokens

Indentation becomes brackets, and keys that are only recognised by the colon behind them
get their mark after the fact.

## Main Definitions

* `Level`: how deep the lines of something are indented
* `Lexer`: the state between two tokens
* `tokens?`: the tokens of a text

## Design Notes

What stands behind a key or a dash must be indented deeper than it, also if it is no block of
its own. So between two blocks there can be a level that is closed without a token.

A pair in a sequence in brackets is a mapping of its own. Its brackets are put in when the
colon is found and when the element ends. Only one such mapping is kept in mind: a bracket
within a pair makes the lexer forget that the pair is still open.
-/

namespace LoginThrottle.Yaml12

open Yaml (Token ScalarStyle PendingKey isBlank isFlowMark)

/-- The largest number of characters of a key on one line. -/
def longestKey : Nat := 1024

/-- How deep the lines of something are indented. -/
structure Level where
  column : Nat
  /-- Whether this is a block, with a token where it ends. -/
  isBlock : Bool
  deriving DecidableEq, Repr

/-- The state between two tokens. -/
structure Lexer where
  cursor : Cursor
  /-- The open levels, the innermost first. -/
  levels : List Level
  /-- Where a key may have started, within the innermost open bracket. -/
  pending : Option PendingKey
  /-- The same within the brackets around it, one entry per open bracket. -/
  outer : List (Option PendingKey)
  /-- Whether a key may start here. -/
  keyAllowed : Bool
  /-- Whether pairs in brackets belong to a mapping that has begun. -/
  inMapping : Bool
  /-- Whether the last pair began a mapping of its own. -/
  inLonePair : Bool
  /-- Where a colon belongs to what stands right before it. -/
  adjacent : Nat
  /-- The tokens so far, the latest first. -/
  tokens : List Token

namespace Lexer

/-- The state before the first token. -/
def start (text : List Char) : Lexer :=
  ⟨.start text, [], none, [], true, false, false, 0, []⟩

/-- Whether a bracket is open. -/
def inFlow (lexer : Lexer) : Bool :=
  !lexer.outer.isEmpty

/-- The unread text. -/
def rest (lexer : Lexer) : List Char :=
  lexer.cursor.rest

/-- Goes on at another place. -/
def goTo (lexer : Lexer) (cursor : Cursor) : Lexer :=
  { lexer with cursor := cursor }

/-- Passes so many characters. -/
def skip (lexer : Lexer) (count : Nat) : Lexer :=
  lexer.goTo (lexer.cursor.skip count)

/-- Passes the blanks and the comment behind a token. -/
def passTail? (lexer : Lexer) : Option Lexer := do
  return lexer.goTo (← lineTail? true lexer.cursor).cursor

/-- Adds a token. -/
def emit (lexer : Lexer) (token : Token) : Lexer :=
  { lexer with tokens := token :: lexer.tokens }

/-- Adds a token behind the first `position` tokens. -/
def emitAt (lexer : Lexer) (position : Nat) (token : Token) : Lexer :=
  let later := lexer.tokens.length - position
  { lexer with tokens := lexer.tokens.take later ++ token :: lexer.tokens.drop later }

/-- Sets whether a key may start here. -/
def allowKey (lexer : Lexer) (allowed : Bool) : Lexer :=
  { lexer with keyAllowed := allowed }

/-! ### Levels -/

/-- How deep lines must be indented at least. -/
def indent (lexer : Lexer) : Nat :=
  lexer.levels.head?.elim 0 Level.column

/-- Whether a column lies deeper than the innermost level. -/
def isDeeper (lexer : Lexer) (column : Nat) : Bool :=
  lexer.levels.head?.all (·.column < column)

/-- Closes the innermost level if it is no block and no deeper than a column. -/
def dropNarrower (lexer : Lexer) (column : Nat) : Lexer :=
  match lexer.levels with
  | level :: levels =>
    if !level.isBlock && level.column ≤ column then { lexer with levels := levels } else lexer
  | [] => lexer

/-- Opens a block at a column behind the first `position` tokens, if the column lies
deeper than the open blocks and no bracket is open. -/
def openBlockAt (lexer : Lexer) (position column : Nat) (token : Token) : Lexer :=
  if lexer.inFlow then lexer
  else
    let lexer := lexer.dropNarrower column
    if lexer.isDeeper column then
      { lexer.emitAt position token with levels := ⟨column, true⟩ :: lexer.levels }
    else
      lexer

/-- Opens a block at a column behind all tokens. -/
def openBlock (lexer : Lexer) (column : Nat) (token : Token) : Lexer :=
  lexer.openBlockAt lexer.tokens.length column token

/-- Opens a level one column deeper than the innermost one, if that is a block and no bracket
is open. -/
def openLevel (lexer : Lexer) : Lexer :=
  match lexer.levels with
  | ⟨column, true⟩ :: _ =>
    if lexer.inFlow then lexer
    else { lexer with levels := ⟨column + 1, false⟩ :: lexer.levels }
  | _ => lexer

/-- Closes the levels that are not to stay open, from the innermost on. -/
def closeWhile (stays : Nat → Bool) : List Level → List Token → List Level × List Token
  | [], tokens => ([], tokens)
  | level :: levels, tokens =>
    if stays level.column then (level :: levels, tokens)
    else closeWhile stays levels (if level.isBlock then .blockEnd :: tokens else tokens)

/-- Closes the levels that are not to stay open, unless a bracket is open. -/
def closeLevels (lexer : Lexer) (stays : Nat → Bool) : Lexer :=
  if lexer.inFlow then lexer
  else
    let (levels, tokens) := closeWhile stays lexer.levels lexer.tokens
    { lexer with levels := levels, tokens := tokens }

/-- Closes all levels. -/
def closeAllLevels (lexer : Lexer) : Lexer :=
  lexer.closeLevels fun _ => false

/-- Closes the innermost levels that are no blocks. -/
def closeToBlock (lexer : Lexer) : Lexer :=
  { lexer with levels := lexer.levels.dropWhile (!·.isBlock) }

/-! ### Keys -/

/-- Gives up the innermost place at which a key may have started. -/
def dropPending (lexer : Lexer) : Option Lexer :=
  if lexer.pending.any PendingKey.required then none
  else some { lexer with pending := none }

/-- Remembers the cursor as a place at which a key may start. Within a block that has
begun at this column there must be a key. -/
def markPending (lexer : Lexer) : Lexer :=
  if lexer.keyAllowed then
    let cursor := lexer.cursor
    let required := !lexer.inFlow && lexer.levels.head? == some ⟨cursor.column, true⟩
    { lexer with
      pending := some ⟨lexer.tokens.length, cursor.line, cursor.column, cursor.index, required⟩ }
  else
    lexer

/-- Gives up a place that is too far back. Within brackets no place is. -/
def dropStale (lexer : Lexer) : Option Lexer :=
  let cursor := lexer.cursor
  let isStale := lexer.pending.any fun key =>
    key.line < cursor.line || key.index + longestKey < cursor.index
  if isStale && !lexer.inFlow then lexer.dropPending else some lexer

/-! ### White space -/

/-- Passes blanks, comments and line breaks in front of a token, within `most` steps. A line
of a block that is indented with a tab where a space is needed must be empty. -/
def passSpace? : Nat → Lexer → Option Lexer
  | 0, lexer => some lexer
  | most + 1, lexer =>
    let cursor := lexer.cursor
    match cursor.rest with
    | [] => some lexer
    | character :: _ =>
      if isBreak character then
        passSpace? most ((lexer.goTo cursor.passBreak).allowKey
          (lexer.keyAllowed || !lexer.inFlow))
      else if character = '#' then passSpace? most (lexer.goTo cursor.passLine)
      else if character = '\t' && cursor.leading && cursor.column < lexer.indent then do
        passSpace? most (lexer.goTo (← emptyTail? cursor))
      else if isBlank character then passSpace? most (lexer.skip 1)
      else some lexer

/-- Passes all white space and comments in front of a token. -/
def toToken? (lexer : Lexer) : Option Lexer :=
  passSpace? (lexer.rest.length + 1) lexer

/-- Passes spaces, comments and line breaks behind the mark of a key, within `most` steps,
and tells whether there was anything but comments. -/
def passKeySpace : Nat → Bool → Lexer → Bool × Lexer
  | 0, found, lexer => (found, lexer)
  | most + 1, found, lexer =>
    let cursor := lexer.cursor
    match cursor.rest with
    | [] => (found, lexer)
    | character :: _ =>
      if isBreak character then
        passKeySpace most true ((lexer.goTo cursor.passBreak).allowKey
          (lexer.keyAllowed || !lexer.inFlow))
      else if character = ' ' then passKeySpace most true (lexer.skip 1)
      else if character = '#' then passKeySpace most found (lexer.goTo cursor.passLine)
      else (found, lexer)

/-! ### Tokens -/

/-- A mark that starts or ends a document. Behind an end the line must be empty. -/
def documentMark (lexer : Lexer) (token : Token) : Option Lexer := do
  let lexer ← lexer.closeAllLevels.dropPending
  let lexer := ((lexer.allowKey false).emit token).skip 3
  if token = .documentEnd then return lexer.goTo (← emptyTail? lexer.cursor)
  return lexer

/-- A directive. -/
def directive (lexer : Lexer) : Option Lexer := do
  let lexer ← lexer.closeAllLevels.dropPending
  let (token, rest) ← directive? lexer.rest.tail
  let cursor ← emptyTail? (lexer.cursor.moveTo rest)
  return ((lexer.allowKey false).emit token).goTo cursor.passBreak

/-- The largest number of brackets within each other. -/
def deepestBracket : Nat := 255

/-- An opening bracket. -/
def openBracket (lexer : Lexer) (token : Token) : Option Lexer := do
  if deepestBracket ≤ lexer.outer.length then none
  let lexer := lexer.markPending.openLevel
  let lexer := { lexer with
    outer := lexer.pending :: lexer.outer
    pending := none
    inMapping := lexer.inMapping || token == Token.flowMappingStart }
  (((lexer.allowKey true).emit token).skip 1).passTail?

/-- Ends the mapping of a pair that stands for itself. -/
def closeLonePair (lexer : Lexer) : Lexer :=
  if lexer.inLonePair then
    { lexer.emit .flowMappingEnd with inLonePair := false, inMapping := false }
  else
    lexer

/-- A closing bracket. -/
def closeBracket (lexer : Lexer) (token : Token) : Option Lexer := do
  let lexer ← lexer.dropPending
  let lexer :=
    match lexer.outer with
    | [] => lexer
    | pending :: outer => { lexer with outer := outer, pending := pending }
  let lexer ← ((lexer.allowKey false).closeLonePair.emit token |>.skip 1).passTail?
  return if lexer.inFlow then { lexer with adjacent := lexer.cursor.index } else lexer

/-- The comma between the elements within brackets. -/
def comma (lexer : Lexer) : Option Lexer := do
  let lexer ← lexer.dropPending
  ((lexer.allowKey true).closeLonePair.emit .flowEntry |>.skip 1).passTail?

/-- The dash in front of an element of a block. A tab between two dashes is no indentation. -/
def dash (lexer : Lexer) : Option Lexer := do
  if lexer.inFlow || !lexer.keyAllowed then none
  let lexer := (lexer.skip 1).openBlock lexer.cursor.column .blockSequenceStart
  let tail ← lineTail? true lexer.cursor
  let next := tail.cursor.rest
  if tail.tabs && next.head? = some '-' && endsWord next.tail then none
  let lexer := lexer.goTo tail.cursor
  let lexer :=
    if next.head?.any fun mark => isBreak mark || isFlowMark mark then lexer.openLevel else lexer
  return ((← lexer.dropPending).allowKey true).emit .blockEntry

/-- The question mark in front of a key. There must be white space behind it, and no tab. -/
def questionMark (lexer : Lexer) : Option Lexer := do
  if !lexer.inFlow && !lexer.keyAllowed then none
  let lexer := lexer.openBlock lexer.cursor.column .blockMappingStart
  let lexer := { lexer with inMapping := lexer.inMapping || lexer.inFlow }
  let lexer := ((← lexer.dropPending).allowKey !lexer.inFlow).skip 1
  let (found, lexer) := passKeySpace (lexer.rest.length + 1) false lexer
  if !found || lexer.rest.head? = some '\t' then none
  return lexer.emit .key

/-- Whether only tabs stand between a colon and a value that starts like a word. -/
def hasOnlyTabs (cursor : Cursor) : Bool :=
  cursor.rest.head? = some '\t'
    && (lineTail? true cursor).any fun tail =>
      !tail.spaces && tail.cursor.rest.head?.any Yaml.isNameChar

/-- The colon in front of a value. -/
def colon (lexer : Lexer) : Option Lexer := do
  let line := lexer.cursor.line
  let column := lexer.cursor.column
  let lonePair := lexer.inFlow && !lexer.inMapping
  let lexer := { lexer.skip 1 with inLonePair := lonePair }
  if hasOnlyTabs lexer.cursor then none
  match lexer.pending with
  | some key =>
    if lonePair && key.line < line then none
    let lexer := lexer.emitAt key.position .key
    let lexer := if lonePair then lexer.emitAt key.position .flowMappingStart else lexer
    let lexer := (lexer.openBlockAt key.position key.column .blockMappingStart).openLevel
    return ({ lexer with pending := none }.allowKey false).emit .value
  | none =>
    if !lexer.inFlow && !lexer.keyAllowed then none
    let lexer := if lonePair then lexer.emit .flowMappingStart else lexer
    let lexer := (lexer.openBlock column .blockMappingStart).openLevel
    return (lexer.allowKey !lexer.inFlow).emit .value

/-- A name of an anchor. Any character but blanks, line breaks, byte order marks and
punctuation of brackets may stand in it. -/
def name? (text : List Char) : Option (String × List Char) :=
  let isPart := fun next : Char =>
    !(isBlank next || isBreak next || isFlowMark next || next = '\ufeff')
  let (name, rest) := text.span isPart
  if name.isEmpty then none else some (String.ofList name, rest)

/-- A token that may turn out to be a key, with what follows it. -/
def node (lexer : Lexer) (read : Option (Token × List Char)) : Option Lexer := do
  let (token, rest) ← read
  let lexer := lexer.markPending.allowKey false
  return (lexer.emit token).goTo (lexer.cursor.moveTo rest)

/-- A scalar in quotation marks. A colon belongs to it even if white space stands between. -/
def quoted (lexer : Lexer) (style : ScalarStyle) : Option Lexer := do
  let lexer := lexer.markPending.allowKey false
  let (text, cursor) ←
    quotedScalar? (style = .singleQuoted) lexer.inFlow lexer.indent lexer.cursor
  let lexer ← (lexer.goTo cursor).toToken?
  return { lexer with adjacent := lexer.cursor.index }.emit (.scalar style (String.ofList text))

/-- A scalar that is a block of lines. -/
def block (lexer : Lexer) (style : ScalarStyle) : Option Lexer := do
  let lexer := (lexer.markPending.allowKey true).closeToBlock
  let outer := lexer.levels.head?.map Level.column
  let (text, cursor) ← blockScalar? (style = .folded) outer lexer.cursor
  return (lexer.emit (.scalar style (String.ofList text))).goTo cursor

/-- A scalar without marks. A key may follow it on a new line. -/
def plain (lexer : Lexer) : Option Lexer := do
  let lexer := lexer.markPending.closeToBlock
  let indent := lexer.levels.head?.elim 0 (·.column + 1)
  let (text, cursor) ← plainScalar? lexer.inFlow indent lexer.cursor
  let lexer := (lexer.allowKey cursor.leading).goTo cursor
  return lexer.emit (.scalar .plain (String.ofList text))

/-- Whether a colon stands in front of a value here. -/
def startsValue (lexer : Lexer) (rest : List Char) : Bool :=
  endsWord rest
    || (lexer.inFlow && (rest.head?.any isFlowMark || lexer.cursor.index = lexer.adjacent))

/-- The token that starts with a character. -/
def token (lexer : Lexer) (character : Char) (rest : List Char) : Option Lexer :=
  if lexer.cursor.column = 0 && character = '%' then lexer.directive
  else if lexer.cursor.column = 0 && isDocumentMark lexer.rest then
    lexer.documentMark (if character = '-' then .documentStart else .documentEnd)
  else if lexer.cursor.column < lexer.indent then none
  else if character = '-' && endsWord rest then lexer.dash
  else if character = '?' && endsWord rest then lexer.questionMark
  else if character = ':' && lexer.startsValue rest then lexer.colon
  else
    match character with
    | '[' => lexer.openBracket .flowSequenceStart
    | '\x7b' => lexer.openBracket .flowMappingStart
    | ']' => lexer.closeBracket .flowSequenceEnd
    | '\x7d' => lexer.closeBracket .flowMappingEnd
    | ',' => lexer.comma
    | '*' => lexer.node ((name? rest).map fun named => (.reference named.1, named.2))
    | '&' => lexer.node ((name? rest).map fun named => (.anchor named.1, named.2))
    | '!' => lexer.node (tag? lexer.inFlow rest)
    | '\'' => lexer.quoted .singleQuoted
    | '"' => lexer.quoted .doubleQuoted
    | '%' | '@' | '`' => none
    | character =>
      if character = '|' && !lexer.inFlow then lexer.block .literal
      else if character = '>' && !lexer.inFlow then lexer.block .folded
      else lexer.plain

/-- Reads tokens to the end of the text, within `most` steps. -/
def run? : Nat → Lexer → Option Lexer
  | 0, _ => none
  | most + 1, lexer => do
    let lexer ← (← lexer.toToken?).dropStale
    let lexer := lexer.closeLevels (· ≤ lexer.cursor.column)
    match lexer.rest with
    | [] =>
      if (lexer.pending :: lexer.outer).any fun key => key.any PendingKey.required then none
      return lexer.closeAllLevels
    | character :: rest => run? most (← lexer.token character rest)

end Lexer

/-- The tokens of a text, which ends at the first null character. -/
def tokens? (text : String) : Option (List Token) := do
  let characters := text.toList.takeWhile (· ≠ '\x00')
  let lexer ← Lexer.run? (characters.length + 1) (.start characters)
  return lexer.tokens.reverse

end LoginThrottle.Yaml12
