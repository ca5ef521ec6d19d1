import LoginThrottle.Net.Numeral
import LoginThrottle.Yaml.Text
import LoginThrottle.Yaml.Token

/-!
# The scalars of YAML texts

How the text of a scalar is read in each of the five styles.

## Main Definitions

* `plainScalar?`: a scalar without quotation marks
* `quotedScalar?`: a scalar in single or double quotation marks
* `blockScalar?`: a scalar that keeps or folds the lines of an indented block

## Design Notes

All readers work on the characters behind the mark that starts the scalar, and hand back
the characters behind the scalar. They know about columns only what the line breaks within
the scalar tell them.
-/

namespace LoginThrottle.Yaml

/-! ### Plain scalars -/

/-- A word of a plain scalar. Within brackets a colon must not stand right before
punctuation. -/
def plainWord? (inFlow : Bool) : List Char → Option (List Char × List Char)
  | [] => some ([], [])
  | character :: rest =>
    if isBlank character || isBreak character then
      some ([], character :: rest)
    else if inFlow && character = ':' && rest.head?.any (fun next => isFlowMark next || next = '?')
    then
      none
    else if (character = ':' && endsWord rest) || (inFlow && isFlowMark character) then
      some ([], character :: rest)
    else do
      let (word, rest) ← plainWord? inFlow rest
      return (character :: word, rest)

/-- A plain scalar and what follows it. -/
structure PlainScalar where
  text : List Char
  /-- Whether the line of the scalar is over. -/
  lineEnded : Bool
  rest : List Char

/-- Whether a plain scalar ends before the text behind a gap. -/
def endsPlain (inFlow : Bool) (indent : Nat) (gap : Gap) (text : List Char) : Bool :=
  text.head? == some '#'
    || gap.column?.any fun column =>
      (!inFlow && column < indent) || (column = 0 && isDocumentMark text)

/-- What a plain scalar has behind a word: gaps and words in turn, at most `most` of them. -/
def plainRest? (inFlow : Bool) (indent : Nat) : Nat → List Char → Option PlainScalar
  | 0, text => some ⟨[], false, text⟩
  | most + 1, text =>
    let (gap, rest) := Gap.take text
    if gap.isEmpty then
      some ⟨[], false, text⟩
    else if gap.hasTabBefore indent then
      none
    else if endsPlain inFlow indent gap rest then
      some ⟨[], gap.breaksLine, rest⟩
    else do
      let (word, after) ← plainWord? inFlow rest
      if word.isEmpty then
        return ⟨[], gap.breaksLine, rest⟩
      else
        let later ← plainRest? inFlow indent most after
        return { later with text := gap.folded ++ word ++ later.text }

/-- A plain scalar at the front of a text. Its lines after the first are indented by at
least `indent`, unless it stands within brackets. -/
def plainScalar? (inFlow : Bool) (indent : Nat) (text : List Char) : Option PlainScalar := do
  let (word, rest) ← plainWord? inFlow text
  let later ← plainRest? inFlow indent rest.length rest
  return { later with text := word ++ later.text }

/-! ### Quoted scalars -/

/-- The characters that a single letter stands for behind a backslash. -/
def letterEscapes : List (Char × Char) :=
  [('0', '\x00'), ('a', '\x07'), ('b', '\x08'), ('t', '\t'), ('\t', '\t'), ('n', '\n'),
    ('v', '\x0b'), ('f', '\x0c'), ('r', '\r'), ('e', '\x1b'), (' ', ' '), ('"', '"'),
    ('/', '/'), ('\\', '\\'), ('N', '\u0085'), ('_', '\u00a0'), ('L', '\u2028'),
    ('P', '\u2029')]

/-- The letters behind which a code point is given by so many hexadecimal digits. -/
def codePointEscapes : List (Char × Nat) :=
  [('x', 2), ('u', 4), ('U', 8)]

/-- The character with a code point, if there is one. -/
def charAt? (point : Nat) : Option Char :=
  if point.isValidChar then some (Char.ofNat point) else none

/-- The character that an escape stands for, from behind the backslash. -/
def escaped? : List Char → Option (Char × List Char)
  | [] => none
  | letter :: rest =>
    match letterEscapes.lookup letter with
    | some character => some (character, rest)
    | none => do
      let width ← codePointEscapes.lookup letter
      let digits ← (rest.take width).mapM (digitOf? 16)
      if digits.length = width then
        let character ← charAt? (ofDigits 16 digits)
        return (character, rest.drop width)
      else
        none

/-- The text of a scalar in quotation marks, from behind the first mark and within
`most` steps. -/
def quotedScalar? (style : ScalarStyle) : Nat → List Char → Option (List Char × List Char)
  | 0, _ => none
  | _, [] => none
  | most + 1, character :: rest => do
    let continueWith (text rest : List Char) : Option (List Char × List Char) := do
      let (later, rest) ← quotedScalar? style most rest
      return (text ++ later, rest)
    let continueBehind (gap : Gap) (text rest : List Char) : Option (List Char × List Char) :=
      if gap.column? = some 0 && isDocumentMark rest then none else continueWith text rest
    if isBlank character || isBreak character then
      let (gap, rest) := Gap.take (character :: rest)
      continueBehind gap gap.folded rest
    else if style = .singleQuoted then
      match character, rest with
      | '\'', '\'' :: rest => continueWith ['\''] rest
      | '\'', rest => return ([], rest)
      | character, rest => continueWith [character] rest
    else
      match character with
      | '"' => return ([], rest)
      | '\\' =>
        if rest.head?.any isBreak then
          let (gap, rest) := Gap.take rest
          continueBehind gap (gap.lines.tail.map Prod.fst) rest
        else
          let (character, rest) ← escaped? rest
          continueWith [character] rest
      | character => continueWith [character] rest

/-! ### Block scalars -/

/-- What becomes of the line breaks at the end of a block. -/
inductive Chomping
  | strip
  | clip
  | keep
  deriving DecidableEq, Repr

/-- What stands on the line that opens a block. -/
structure BlockHeader where
  chomping : Chomping
  /-- By how much the block is indented, if that is said. -/
  indent : Option Nat

/-- What a sign says about the line breaks at the end. -/
def chomping? : Char → Option Chomping
  | '-' => some .strip
  | '+' => some .keep
  | _ => none

/-- How much a digit says a block is indented. -/
def indentDigit? (character : Char) : Option Nat :=
  (digitOf? 10 character).filter (0 < ·)

/-- Whether a character is a digit. -/
def isDecimalDigit (character : Char) : Bool :=
  (digitOf? 10 character).isSome

/-- The signs of a header, in either order, and what follows them. A zero says nothing
and is refused. -/
def blockHeader? (text : List Char) : Option (BlockHeader × List Char) :=
  let takeSign (text : List Char) : Option Chomping × List Char :=
    match text with
    | character :: rest =>
      match chomping? character with
      | some chomping => (some chomping, rest)
      | none => (none, character :: rest)
    | [] => (none, [])
  let takeDigit (text : List Char) : Option (Option Nat × List Char) :=
    match text with
    | character :: rest =>
      if isDecimalDigit character then
        (indentDigit? character).map fun indent => (some indent, rest)
      else
        some (none, character :: rest)
    | [] => some (none, [])
  let (early, rest) := takeSign text
  do
    let (indent, rest) ← takeDigit rest
    let (late, rest) := if early.isSome || indent.isNone then (none, rest) else takeSign rest
    return (⟨(early <|> late).getD .clip, indent⟩, rest)

/-- The text behind the line that opens a block. Only a comment may stand on it. -/
def behindHeader? (text : List Char) : Option (List Char) :=
  let rest := text.dropWhile isBlank
  let rest := if rest.head? = some '#' then rest.dropWhile (!isBreak ·) else rest
  if endsLine rest then some ((lineBreak? rest).map Prod.snd |>.getD []) else none

/-- The empty lines before a line of a block, and where that line starts. -/
structure BlockLead where
  breaks : List Char
  /-- The largest number of spaces at the start of any of these lines. -/
  widest : Nat
  /-- The number of spaces at the start of the line. -/
  column : Nat
  rest : List Char

/-- Reads empty lines, within `most` steps. No more than `indent` spaces at the start of a
line belong to its indentation, and no tab. -/
def blockLead? (indent : Option Nat) : Nat → List Char → Option BlockLead
  | 0, _ => none
  | most + 1, text =>
    let spaces := (text.takeWhile (· = ' ')).length
    let column := indent.elim spaces (min spaces)
    let rest := text.drop column
    if rest.head? = some '\t' && indent.all (column < ·) then
      none
    else
      match lineBreak? rest with
      | none => some ⟨[], column, column, rest⟩
      | some (mark, rest) => do
        let later ← blockLead? indent most rest
        return { later with breaks := mark :: later.breaks, widest := max column later.widest }

/-- A line of a block, how it ends and the empty lines behind it. -/
structure BlockLine where
  content : List Char
  ending : List Char
  emptyLines : List Char

/-- Reads the lines of a block from the start of a line behind its indentation, within
`most` steps. -/
def blockLines? (indent : Nat) : Nat → List Char → Option (List BlockLine × List Char)
  | 0, _ => none
  | most + 1, text => do
    let (content, rest) := text.span (!isBreak ·)
    let (ending, rest) :=
      match lineBreak? rest with
      | some (mark, rest) => ([mark], rest)
      | none => ([], rest)
    let lead ← blockLead? (some indent) (rest.length + 1) rest
    let line : BlockLine := ⟨content, ending, lead.breaks⟩
    if lead.column = indent && !lead.rest.isEmpty then
      let (lines, rest) ← blockLines? indent most lead.rest
      return (line :: lines, rest)
    else
      return ([line], lead.rest)

namespace BlockLine

/-- Whether a line starts with a blank of its own. -/
def isIndented (line : BlockLine) : Bool :=
  line.content.head?.any isBlank

/-- What stands between two lines of a block. Folding joins lines, except those that
start with a blank of their own. -/
def separator (folded : Bool) (line next : BlockLine) : List Char :=
  if folded && line.ending = ['\n'] && !line.isIndented && !next.isIndented then
    if line.emptyLines.isEmpty then [' '] else line.emptyLines
  else
    line.ending ++ line.emptyLines

/-- What stands behind the last line of a block. -/
def close (chomping : Chomping) (line : BlockLine) : List Char :=
  match chomping with
  | .strip => []
  | .clip => line.ending
  | .keep => line.ending ++ line.emptyLines

/-- The text of the lines of a block. -/
def join (folded : Bool) (chomping : Chomping) : List BlockLine → List Char
  | [] => []
  | [line] => line.content ++ line.close chomping
  | line :: next :: rest =>
    line.content ++ line.separator folded next ++ join folded chomping (next :: rest)

end BlockLine

/-- The text of a block scalar, from behind the mark that starts it. The block around it is
indented by `outer`, if there is one. -/
def blockScalar? (folded : Bool) (outer : Option Nat) (text : List Char) :
    Option (List Char × List Char) := do
  let (header, rest) ← blockHeader? text
  let rest ← behindHeader? rest
  let least := outer.elim 0 (· + 1)
  let given := header.indent.map (outer.getD 0 + ·)
  let lead ← blockLead? given (rest.length + 1) rest
  let indent := given.getD (max lead.widest (max least 1))
  if lead.column = indent && !lead.rest.isEmpty then
    let (lines, rest) ← blockLines? indent (lead.rest.length + 1) lead.rest
    return (lead.breaks ++ BlockLine.join folded header.chomping lines, rest)
  else
    return (if header.chomping = .keep then lead.breaks else [], lead.rest)

end LoginThrottle.Yaml
