import LoginThrottle.Net.Numeral
import LoginThrottle.Text.Alphanumeric

/-!
# Patterns

Which texts are well-formed regular expressions. Rules for logs may hold patterns for the
values of fields, and one that is not well formed spoils its rule.

## Main Definitions

* `PatternFlags`: how letters and classes are to be understood at some place
* `isPattern`: whether a text is a well-formed pattern

## Design Notes

A pattern is well formed if an automaton can be built from it without knowing anything
about scripts. So classes of letters or digits, edges of words and letters in either case
are only allowed where the pattern says that it is about bytes.
-/

namespace LoginThrottle

/-- How letters and classes are to be understood at some place. -/
structure PatternFlags where
  ignoresCase : Bool
  /-- Whether the pattern is about characters of all scripts and not about bytes. -/
  allScripts : Bool
  deriving DecidableEq, Repr

namespace Pattern

/-- Whether letters would have to be compared without regard to case in all scripts. -/
def foldsAll (flags : PatternFlags) : Bool :=
  flags.ignoresCase && flags.allScripts

/-! ### Escapes -/

/-- What stands behind a backslash. -/
inductive Escape
  /-- A character, and whether it is given by two hexadecimal digits. -/
  | literal (character : Char) (short : Bool)
  /-- One end of the text. -/
  | textEnd
  /-- The edge of a word. -/
  | wordEdge
  | charClass (negated : Bool)
  deriving DecidableEq, Repr

/-- The letters that stand for control characters. -/
def controlEscapes : List (Char × Char) :=
  [('a', '\x07'), ('f', '\x0c'), ('t', '\t'), ('n', '\n'), ('r', '\r'), ('v', '\x0b')]

/-- How many hexadecimal digits follow a letter. -/
def hexWidths : List (Char × Nat) :=
  [('x', 2), ('u', 4), ('U', 8)]

/-- Whether a character stands for itself behind a backslash. -/
def isEscapable (character : Char) : Bool :=
  character.toNat < 128 && !character.isAlphanum && character ≠ '<' && character ≠ '>'

/-- The character that so many hexadecimal digits spell. -/
def hexEscape? (width : Nat) (text : List Char) : Option (Escape × List Char) := do
  let digits ← (text.take width).mapM (digitOf? 16)
  let point := ofDigits 16 digits
  if digits.length = width ∧ point.isValidChar then
    return (.literal (Char.ofNat point) (width = 2), text.drop width)
  else
    none

/-- What stands behind a backslash, and what follows it. -/
def escape? : List Char → Option (Escape × List Char)
  | [] => none
  | letter :: rest =>
    if isEscapable letter then some (.literal letter false, rest)
    else if ['d', 's', 'w'].contains letter then some (.charClass false, rest)
    else if ['D', 'S', 'W'].contains letter then some (.charClass true, rest)
    else if ['A', 'z'].contains letter then some (.textEnd, rest)
    else if ['b', 'B', '<', '>'].contains letter then some (.wordEdge, rest)
    else
      match controlEscapes.lookup letter with
      | some character => some (.literal character false, rest)
      | none => do hexEscape? (← hexWidths.lookup letter) rest

/-- Whether what stands behind a backslash is allowed outside classes. -/
def Escape.isAllowed (flags : PatternFlags) : Escape → Bool
  | literal character short =>
    !foldsAll flags && (flags.allScripts || !short || character.toNat < 128)
  | textEnd => true
  | wordEdge => !flags.allScripts
  | charClass negated => !flags.allScripts && !negated

/-! ### Classes -/

/-- The names of classes that are written between colons. -/
def classNames : List String :=
  ["alnum", "alpha", "ascii", "blank", "cntrl", "digit", "graph", "lower", "print", "punct",
    "space", "upper", "word", "xdigit"]

/-- What follows the name of a class between colons, from behind the opening bracket. -/
def namedClass? (text : List Char) : Option (List Char) :=
  match text with
  | ':' :: rest =>
    let rest := if rest.head? = some '^' then rest.tail else rest
    let (name, rest) := rest.span (· ≠ ':')
    match rest with
    | ':' :: ']' :: rest => if classNames.contains (String.ofList name) then some rest else none
    | _ => none
  | _ => none

/-- An element of a class: a character, or nothing for a class within it. -/
def classElement? (flags : PatternFlags) : List Char → Option (Option Char × List Char)
  | [] => none
  | '\\' :: rest => do
    match ← escape? rest with
    | (.literal character _, rest) => return (some character, rest)
    | (.charClass negated, rest) =>
      if flags.allScripts || negated then none else return (none, rest)
    | _ => none
  | character :: rest => some (some character, rest)

/-- Whether a character may be an element of a class. -/
def isClassChar (flags : PatternFlags) (character : Char) : Bool :=
  flags.allScripts || character.toNat < 128

/-- An element or a range of a class, and what follows it. -/
def classRange? (flags : PatternFlags) (text : List Char) : Option (List Char) := do
  let (first, rest) ← classElement? flags text
  if !first.all (isClassChar flags) then none
  match rest with
  | '-' :: next :: later =>
    if next = ']' || next = '-' then return rest
    let (last, rest) ← classElement? flags (next :: later)
    if !last.all (isClassChar flags) then none
    if (← first) ≤ (← last) then return rest else none
  | ['-'] => none
  | rest => return rest

/-- What follows the opening bracket of a class and the characters that only mean
themselves there. -/
def classStart (text : List Char) : List Char :=
  let text := if text.head? = some '^' then text.tail else text
  match text with
  | '-' :: _ => text.dropWhile (· = '-')
  | ']' :: rest => rest
  | text => text

/-- What follows a class, from behind its start. So many brackets are open, besides the
first one. -/
def class? (flags : PatternFlags) : Nat → Nat → List Char → Option (List Char)
  | 0, _, _ => none
  | most + 1, depth, text =>
    match text with
    | [] => none
    | ']' :: rest =>
      match depth with
      | 0 => some rest
      | depth + 1 => class? flags most depth rest
    | '[' :: rest =>
      match namedClass? rest with
      | some rest => class? flags most depth rest
      | none => class? flags most (depth + 1) (classStart rest)
    | '&' :: '&' :: rest | '-' :: '-' :: rest | '~' :: '~' :: rest =>
      class? flags most depth rest
    | text => do class? flags most depth (← classRange? flags text)

/-! ### Groups -/

/-- The flags that a group may set. -/
def flagLetters : List Char := ['i', 'm', 's', 'U', 'u', 'R', 'x']

/-- The flags behind some letters. A letter may stand only once, a minus sign too, and
there must be one behind it. -/
def setFlags? (flags : PatternFlags) (negated : Bool) (seen : List Char) :
    List Char → Option PatternFlags
  | [] => if seen.head? = some '-' then none else some flags
  | letter :: rest =>
    if seen.contains letter then none
    else if letter = '-' then setFlags? flags true ('-' :: seen) rest
    else if !flagLetters.contains letter then none
    else
      let flags : PatternFlags :=
        if letter = 'i' then { flags with ignoresCase := !negated }
        else if letter = 'u' then { flags with allScripts := !negated }
        else flags
      setFlags? flags negated (letter :: seen) rest

/-- Whether a text is the name of a group. -/
def isGroupName : List Char → Bool
  | [] => false
  | first :: rest =>
    (first = '_' || (isAlphanumeric first && !first.isDigit))
      && rest.all fun next => isAlphanumeric next || ['_', '.', '[', ']'].contains next

/-- How a group begins. -/
inductive GroupStart
  /-- A group with flags of its own. -/
  | opened (flags : PatternFlags) (rest : List Char)
  /-- No group: flags for what follows. -/
  | flagged (flags : PatternFlags) (rest : List Char)

/-- How a group with a name begins. -/
def namedGroup? (flags : PatternFlags) (text : List Char) : Option GroupStart :=
  let (name, rest) := text.span (· ≠ '>')
  match rest with
  | '>' :: rest => if isGroupName name then some (.opened flags rest) else none
  | _ => none

/-- How a group begins, from behind its parenthesis. No group may look ahead or behind. -/
def groupStart? (flags : PatternFlags) : List Char → Option GroupStart
  | '?' :: 'P' :: '<' :: rest => namedGroup? flags rest
  | '?' :: '<' :: rest =>
    if rest.head? = some '=' || rest.head? = some '!' then none else namedGroup? flags rest
  | '?' :: rest => do
    let (letters, rest) := rest.span fun letter => letter ≠ ':' && letter ≠ ')'
    let inner ← setFlags? flags false [] letters
    match rest with
    | ':' :: rest => return .opened inner rest
    | ')' :: rest => if letters.isEmpty then none else return .flagged inner rest
    | _ => none
  | text => some (.opened flags text)

/-! ### Sequences -/

/-- What follows a sequence of alternatives within a group, or nothing at the end of the
pattern. A mark of repetition needs something that is `repeatable` in front of it. Marks with
bounds cannot be complete here, since no brace is ever closed. -/
def sequence? (inGroup : Bool) :
    Nat → PatternFlags → (repeatable : Bool) → List Char → Option (List Char)
  | 0, _, _, _ => none
  | most + 1, flags, repeatable, text =>
    match text with
    | [] => if inGroup then none else some []
    | ')' :: rest => if inGroup then some rest else none
    | '|' :: rest => sequence? inGroup most flags false rest
    | '(' :: rest => do
      match ← groupStart? flags rest with
      | .flagged flags rest => sequence? inGroup most flags false rest
      | .opened inner rest =>
        sequence? inGroup most flags true (← sequence? true most inner false rest)
    | '[' :: rest => do
      if foldsAll flags then none
      sequence? inGroup most flags true (← class? flags most 0 (classStart rest))
    | '\\' :: rest => do
      let (escape, rest) ← escape? rest
      if escape.isAllowed flags then sequence? inGroup most flags true rest else none
    | '\x7b' :: _ => none
    | character :: rest =>
      if ['*', '+', '?'].contains character then
        let rest := if rest.head? = some '?' then rest.tail else rest
        if repeatable then sequence? inGroup most flags true rest else none
      else if character = '^' || character = '$' then sequence? inGroup most flags true rest
      else if character = '.' then
        if flags.allScripts then sequence? inGroup most flags true rest else none
      else if foldsAll flags then none
      else sequence? inGroup most flags true rest

end Pattern

/-- Whether a text without closing braces is a well-formed pattern. -/
def isPattern (text : String) : Bool :=
  let characters := text.toList
  (Pattern.sequence? false (characters.length + 1) ⟨false, true⟩ false characters).isSome

/-- A group must be closed. -/
example : isPattern "/(/" = false := by decide +kernel

/-- Nested classes and groups are well formed. -/
example : isPattern "^(a|[b-d[:digit:]]+?)*$" = true := by decide +kernel

end LoginThrottle
