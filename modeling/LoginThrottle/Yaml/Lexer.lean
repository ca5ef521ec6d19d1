import LoginThrottle.Yaml.Scalar
import LoginThrottle.Yaml.Tag

/-!
# From YAML texts to tokens

Indentation becomes brackets, and keys that are only recognised by the colon behind them
get their mark after the fact.

## Main Definitions

* `Cursor`: the unread text and where it starts
* `PendingKey`: a place at which a key may have started
* `Lexer`: the state between two tokens
* `Token.ofText?`: the tokens of a text

## Design Notes

A scalar, alias, tag, anchor or collection may turn out to be a key when a colon follows it.
Its place is remembered until then: a mark for the key, and one for a new block mapping if
the key is indented deeper than the blocks around it, go in front of it. A place is given
up when the line ends or becomes too long. Where a block mapping goes on there must be a
key, so there giving up is an error.
-/

namespace LoginThrottle.Yaml

/-! ### Places in the text -/

/-- The unread text and where it starts. -/
structure Cursor where
  rest : List Char
  line : Nat
  column : Nat
  /-- The number of bytes before it. -/
  index : Nat

namespace Cursor

/-- The start of a text. -/
def start (text : List Char) : Cursor :=
  ⟨text, 0, 0, 0⟩

/-- Passes one character. The two characters of one line break count as one line. -/
def step (cursor : Cursor) : Cursor :=
  match cursor.rest with
  | [] => cursor
  | character :: rest =>
    let index := cursor.index + character.utf8Size
    if character = '\r' && rest.head? = some '\n' then ⟨rest, cursor.line, 0, index⟩
    else if isBreak character then ⟨rest, cursor.line + 1, 0, index⟩
    else ⟨rest, cursor.line, cursor.column + 1, index⟩

/-- Passes so many characters. -/
def skip : Nat → Cursor → Cursor
  | 0, cursor => cursor
  | more + 1, cursor => skip more cursor.step

/-- Passes all characters up to an end of the unread text. -/
def moveTo (cursor : Cursor) (rest : List Char) : Cursor :=
  cursor.skip (cursor.rest.length - rest.length)

end Cursor

/-- A place at which a key may have started. -/
structure PendingKey where
  /-- The number of tokens before the key. -/
  position : Nat
  line : Nat
  column : Nat
  index : Nat
  /-- Whether there must be a key. -/
  required : Bool

/-- The largest number of bytes of a key on one line. -/
def longestKey : Nat := 1024

/-- The state between two tokens. -/
structure Lexer where
  cursor : Cursor
  /-- The columns of the open blocks, the innermost first. -/
  indents : List Nat
  /-- Where a key may have started, within the innermost open bracket. -/
  pending : Option PendingKey
  /-- The same within the brackets around it, one entry per open bracket. -/
  outer : List (Option PendingKey)
  /-- Whether a key may start here. -/
  keyAllowed : Bool
  /-- The tokens so far, the latest first. -/
  tokens : List Token

namespace Lexer

/-- The state before the first token. -/
def start (text : List Char) : Lexer :=
  ⟨.start text, [], none, [], true, []⟩

/-- Whether a bracket is open. -/
def inFlow (lexer : Lexer) : Bool :=
  !lexer.outer.isEmpty

/-- The unread text. -/
def rest (lexer : Lexer) : List Char :=
  lexer.cursor.rest

/-- Goes on at an end of the unread text. -/
def moveTo (lexer : Lexer) (rest : List Char) : Lexer :=
  { lexer with cursor := lexer.cursor.moveTo rest }

/-- Passes so many characters. -/
def skip (lexer : Lexer) (count : Nat) : Lexer :=
  { lexer with cursor := lexer.cursor.skip count }

/-- Adds a token. -/
def emit (lexer : Lexer) (token : Token) : Lexer :=
  { lexer with tokens := token :: lexer.tokens }

/-- Adds a token behind the first `position` tokens. -/
def emitAt (lexer : Lexer) (position : Nat) (token : Token) : Lexer :=
  let later := lexer.tokens.length - position
  { lexer with tokens := lexer.tokens.take later ++ token :: lexer.tokens.drop later }

/-- Sets whether a key may start here. -/
def allowKey (lexer : Lexer) (allowed : Bool) : Lexer :=
  { lexer with keyAllowed := allowed }

/-! ### Blocks -/

/-- Whether a column lies deeper than the innermost open block. -/
def isDeeper (lexer : Lexer) (column : Nat) : Bool :=
  lexer.indents.head?.all (· < column)

/-- Opens a block at a column behind the first `position` tokens, if the column lies
deeper than the open blocks and no bracket is open. -/
def openBlockAt (lexer : Lexer) (position column : Nat) (token : Token) : Lexer :=
  if lexer.inFlow || !lexer.isDeeper column then lexer
  else { lexer.emitAt position token with indents := column :: lexer.indents }

/-- Opens a block at the cursor. -/
def openBlock (lexer : Lexer) (token : Token) : Lexer :=
  lexer.openBlockAt lexer.tokens.length lexer.cursor.column token

/-- Closes the open blocks that are not to stay open, from the innermost on. -/
def closeWhile (stays : Nat → Bool) : List Nat → List Token → List Nat × List Token
  | [], tokens => ([], tokens)
  | column :: indents, tokens =>
    if stays column then (column :: indents, tokens)
    else closeWhile stays indents (.blockEnd :: tokens)

/-- Closes the blocks that are not to stay open, unless a bracket is open. -/
def closeBlocks (lexer : Lexer) (stays : Nat → Bool) : Lexer :=
  if lexer.inFlow then lexer
  else
    let (indents, tokens) := closeWhile stays lexer.indents lexer.tokens
    { lexer with indents := indents, tokens := tokens }

/-- Closes all blocks. -/
def closeAllBlocks (lexer : Lexer) : Lexer :=
  lexer.closeBlocks fun _ => false

/-! ### Keys -/

/-- Gives up the innermost place at which a key may have started. -/
def dropPending (lexer : Lexer) : Option Lexer :=
  if lexer.pending.any PendingKey.required then none
  else some { lexer with pending := none }

/-- Remembers the cursor as a place at which a key may start. Within a block that has
begun at this column there must be a key. -/
def markPending (lexer : Lexer) : Option Lexer :=
  if lexer.keyAllowed then do
    let lexer ← lexer.dropPending
    let cursor := lexer.cursor
    let required := !lexer.inFlow && lexer.indents.head? == some cursor.column
    return { lexer with
      pending := some ⟨lexer.tokens.length, cursor.line, cursor.column, cursor.index, required⟩ }
  else
    some lexer

/-- Whether a place is too far back for a key. -/
def isStale (cursor : Cursor) (key : PendingKey) : Bool :=
  key.line < cursor.line || key.index + longestKey < cursor.index

/-- Gives up a place that is too far back. -/
def refresh? (cursor : Cursor) : Option PendingKey → Option (Option PendingKey)
  | none => some none
  | some key =>
    if isStale cursor key then
      if key.required then none else some none
    else
      some (some key)

/-- Gives up all places that are too far back. -/
def dropStale (lexer : Lexer) : Option Lexer := do
  let pending ← refresh? lexer.cursor lexer.pending
  let outer ← lexer.outer.mapM (refresh? lexer.cursor)
  return { lexer with pending := pending, outer := outer }

/-! ### White space -/

/-- Passes blanks, comments and line breaks in front of a token, within `most` steps. At
the start of a line a tab is none of these, since it could be meant as indentation. A byte
order mark may start any line, and takes up a column there. -/
def passSpace : Nat → Lexer → Lexer
  | 0, lexer => lexer
  | most + 1, lexer =>
    match lexer.rest with
    | ' ' :: _ => passSpace most (lexer.skip 1)
    | '\t' :: _ =>
      if lexer.inFlow || !lexer.keyAllowed then passSpace most (lexer.skip 1) else lexer
    | '\ufeff' :: _ => if lexer.cursor.column = 0 then passSpace most (lexer.skip 1) else lexer
    | '#' :: _ => passSpace most (lexer.moveTo (lexer.rest.dropWhile (!isBreak ·)))
    | text =>
      match lineBreak? text with
      | some (_, rest) =>
        passSpace most ((lexer.moveTo rest).allowKey (lexer.keyAllowed || !lexer.inFlow))
      | none => lexer

/-! ### Tokens -/

/-- A mark that starts or ends a document. -/
def documentMark (lexer : Lexer) (token : Token) : Option Lexer := do
  let lexer ← lexer.closeAllBlocks.dropPending
  return ((lexer.allowKey false).emit token).skip 3

/-- A directive. -/
def directive (lexer : Lexer) : Option Lexer := do
  let lexer ← lexer.closeAllBlocks.dropPending
  let (token, rest) ← directive? lexer.rest.tail
  return ((lexer.allowKey false).emit token).moveTo rest

/-- An opening bracket. -/
def openBracket (lexer : Lexer) (token : Token) : Option Lexer := do
  let lexer ← lexer.markPending
  let lexer := { lexer with outer := lexer.pending :: lexer.outer, pending := none }
  return ((lexer.allowKey true).emit token).skip 1

/-- A closing bracket. -/
def closeBracket (lexer : Lexer) (token : Token) : Option Lexer := do
  let lexer ← lexer.dropPending
  let lexer :=
    match lexer.outer with
    | [] => lexer
    | pending :: outer => { lexer with outer := outer, pending := pending }
  return ((lexer.allowKey false).emit token).skip 1

/-- The comma between the elements within brackets. -/
def comma (lexer : Lexer) : Option Lexer := do
  let lexer ← lexer.dropPending
  return ((lexer.allowKey true).emit .flowEntry).skip 1

/-- The dash in front of an element of a block. -/
def dash (lexer : Lexer) : Option Lexer := do
  if !lexer.inFlow && !lexer.keyAllowed then none
  let lexer ← (lexer.openBlock .blockSequenceStart).dropPending
  return ((lexer.allowKey true).emit .blockEntry).skip 1

/-- The question mark in front of a key. -/
def questionMark (lexer : Lexer) : Option Lexer := do
  if !lexer.inFlow && !lexer.keyAllowed then none
  let lexer ← (lexer.openBlock .blockMappingStart).dropPending
  return ((lexer.allowKey !lexer.inFlow).emit .key).skip 1

/-- The colon in front of a value. -/
def colon (lexer : Lexer) : Option Lexer :=
  match lexer.pending with
  | some key =>
    let lexer := (lexer.emitAt key.position .key).openBlockAt key.position key.column
      .blockMappingStart
    some ((({ lexer with pending := none }.allowKey false).emit .value).skip 1)
  | none =>
    if !lexer.inFlow && !lexer.keyAllowed then none
    else some (((lexer.openBlock .blockMappingStart).allowKey !lexer.inFlow).emit .value |>.skip 1)

/-- A token that may turn out to be a key, with what follows it. -/
def node (lexer : Lexer) (read : Lexer → Option (Token × List Char)) : Option Lexer := do
  let lexer ← lexer.markPending
  let (token, rest) ← read lexer
  return ((lexer.allowKey false).emit token).moveTo rest

/-- A name behind a mark. It must end a word or be followed by a mark. -/
def name? (text : List Char) : Option (String × List Char) :=
  let (name, rest) := text.span isNameChar
  let ended := endsWord rest
    || rest.head?.any fun next => ['?', ':', ',', ']', '\x7d', '%', '@', '`'].contains next
  if name.isEmpty || !ended then none else some (String.ofList name, rest)

/-- A scalar in quotation marks. -/
def quoted (lexer : Lexer) (style : ScalarStyle) : Option Lexer :=
  lexer.node fun lexer => do
    let (text, rest) ← quotedScalar? style lexer.rest.length lexer.rest.tail
    return (.scalar style (String.ofList text), rest)

/-- A scalar that is a block of lines. -/
def block (lexer : Lexer) (style : ScalarStyle) : Option Lexer := do
  let lexer ← lexer.dropPending
  let (text, rest) ← blockScalar? (style = .folded) lexer.indents.head? lexer.rest.tail
  return ((lexer.allowKey true).emit (.scalar style (String.ofList text))).moveTo rest

/-- A scalar without marks. -/
def plain (lexer : Lexer) : Option Lexer := do
  let lexer ← lexer.markPending
  let indent := lexer.indents.head?.elim 0 (· + 1)
  let scalar ← plainScalar? lexer.inFlow indent lexer.rest
  let token := .scalar .plain (String.ofList scalar.text)
  return ((lexer.allowKey scalar.lineEnded).emit token).moveTo scalar.rest

/-- The marks that no plain scalar starts with, apart from those that are also looked at
together with what follows them. -/
def startMarks : List Char :=
  ['#', '&', '*', '!', '|', '>', '\'', '"', '%', '@', '`', '\t']

/-- Whether a plain scalar starts with a character that other tokens start with too. -/
def startsPlain (inFlow : Bool) (character : Char) (rest : List Char) : Bool :=
  match character with
  | '-' => !rest.head?.any isBlank
  | '?' | ':' => !inFlow && !endsWord rest
  | _ => !(startMarks.contains character)

/-- The token that starts with a character. -/
def token (lexer : Lexer) (character : Char) (rest : List Char) : Option Lexer :=
  if lexer.cursor.column = 0 && character = '%' then lexer.directive
  else if lexer.cursor.column = 0 && isDocumentMark lexer.rest then
    lexer.documentMark (if character = '-' then .documentStart else .documentEnd)
  else if character = '-' && endsWord rest then lexer.dash
  else if character = '?' && (lexer.inFlow || endsWord rest) then lexer.questionMark
  else if character = ':' && (lexer.inFlow || endsWord rest) then lexer.colon
  else
    match character with
    | '[' => lexer.openBracket .flowSequenceStart
    | '\x7b' => lexer.openBracket .flowMappingStart
    | ']' => lexer.closeBracket .flowSequenceEnd
    | '\x7d' => lexer.closeBracket .flowMappingEnd
    | ',' => lexer.comma
    | '*' => lexer.node fun _ => (name? rest).map fun named => (.reference named.1, named.2)
    | '&' => lexer.node fun _ => (name? rest).map fun named => (.anchor named.1, named.2)
    | '!' => lexer.node fun _ => tag? lexer.inFlow rest
    | '\'' => lexer.quoted .singleQuoted
    | '"' => lexer.quoted .doubleQuoted
    | character =>
      if character = '|' && !lexer.inFlow then lexer.block .literal
      else if character = '>' && !lexer.inFlow then lexer.block .folded
      else if startsPlain lexer.inFlow character rest then lexer.plain
      else none

/-- Reads tokens to the end of the text, within `most` steps. -/
def run? : Nat → Lexer → Option Lexer
  | 0, _ => none
  | most + 1, lexer => do
    let lexer ← (passSpace (lexer.rest.length + 1) lexer).dropStale
    let lexer := lexer.closeBlocks (· ≤ lexer.cursor.column)
    match lexer.rest with
    | [] => lexer.closeAllBlocks.dropPending
    | character :: rest => run? most (← lexer.token character rest)

end Lexer

/-- The tokens of a text. -/
def Token.ofText? (text : String) : Option (List Token) := do
  if !text.toList.all isAllowed then none
  let lexer ← Lexer.run? (text.toList.length + 1) (.start text.toList)
  return lexer.tokens.reverse

end LoginThrottle.Yaml
