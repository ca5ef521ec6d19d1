import LoginThrottle.Decimal.Binary64
import LoginThrottle.Log
import LoginThrottle.Log.Pattern
import LoginThrottle.Text.Space
import LoginThrottle.Text.Utf8

/-!
# Rules for logs as texts

How the lines of a log that are wanted can be described in a text: rules with commas between
them.

## Main Definitions

* `LogRuleFlaw`: what can be wrong with the text of a rule
* `LogRule.read`: the rule that a text spells
* `LogFilter.choose`: the filter of a variable of the environment or a setting

## Design Notes

A rule is a level, the name of a part of the program, or both with an equals sign between
them. Behind the name, or in its place, brackets may hold the name of a stretch of work, and
in braces a field with or without a value: `part[work\x7bfield=value\x7d]=level`.

White space around a rule is passed over when its marks are looked for. The texts between
the marks are then taken from the whole text of the rule, by the number of bytes. So white
space behind a rule belongs to its level, and white space in front of it moves all texts of
the rule.
-/

namespace LoginThrottle

/-- What can be wrong with the text of a rule. -/
inductive LogRuleFlaw
  | shape
  | level
  /-- The value of a field is no pattern. -/
  | value
  deriving DecidableEq, Repr

/-- The text that describes a flaw. -/
def LogRuleFlaw.message : LogRuleFlaw → String
  | shape => "invalid filter directive"
  | level => "error parsing level filter: expected one of \"off\", \"error\", \"warn\", "
    ++ "\"info\", \"debug\", \"trace\", or a number 0-5"
  | value => "invalid field filter: error building NFA"

namespace LogRule

/-! ### Levels -/

/-- How the rank of a level is written. -/
def rankStyle : NumeralStyle where
  radix := 10
  maxDigits := none
  leadingZeros := true
  bound := 6

/-- The rank of a level by its name in any case, or by number. -/
def rank? (text : String) : Option Nat :=
  let name := text.map Char.toUpper
  if name = "OFF" then some 0
  else
    match LogLevel.all.find? fun level => level.name == name with
    | some level => some level.rank
    | none =>
      match text.toList with
      | '+' :: digits => rankStyle.readWhole? digits
      | digits => rankStyle.readWhole? digits

/-- The rank of a level behind an equals sign. Without a level all lines are wanted. -/
def givenRank (text : String) : Except LogRuleFlaw Nat :=
  if text.isEmpty then .ok LogLevel.trace.rank
  else (rank? text).elim (.error .level) .ok

/-! ### Fields -/

/-- Whether a text is a value in itself and no pattern. -/
def isPlainValue (text : String) : Bool :=
  text = "true" || text = "false" || (Binary64.read? text).isSome

/-- The name of a field, and whether a value is asked for. Of several values the first
counts. -/
def readField (text : String) : Except LogRuleFlaw (String × Bool) :=
  match text.splitOn "=" with
  | name :: value :: _ =>
    if isPlainValue value || isPattern value then .ok (name, true) else .error .value
  | _ => if text.isEmpty then .error .shape else .ok (text, false)

/-! ### Marks and the texts between them -/

/-- The text from one position in bytes to another. Positions within a character are a flaw
of the rule. -/
def textBetween (bytes : List UInt8) (start stop : Nat) : Except LogRuleFlaw String :=
  (textOfBytes? ((bytes.take stop).drop start)).elim (.error .shape) .ok

/-- The number of bytes of a text. -/
def byteCount (text : List Char) : Nat :=
  (String.ofList text).utf8ByteSize

/-- The rank behind everything else, where `rest` stands at a position. -/
def readRank (bytes : List UInt8) (position : Nat) (rest : List Char) :
    Except LogRuleFlaw Nat :=
  match rest with
  | [] => .ok LogLevel.trace.rank
  | '=' :: _ => do givenRank (← textBetween bytes (position + 1) bytes.length)
  | _ => .error .shape

/-- A rule with brackets, from behind the opening one. -/
def readBrackets (bytes : List UInt8) (target : Option String) (position : Nat)
    (text : List Char) : Except LogRuleFlaw LogRule := do
  let (work, rest) := text.span fun next => next ≠ ']' && next ≠ '\x7b'
  let behindWork := position + byteCount work
  match rest with
  | ']' :: rest =>
    return ⟨target, none, ← readRank bytes (behindWork + 1) rest, true⟩
  | _ :: rest =>
    let (field, rest) := rest.span (· ≠ '\x7d')
    let behindField := behindWork + 1 + byteCount field
    if rest.isEmpty then throw .shape
    let (name, valued) ← readField (← textBetween bytes (behindWork + 1) behindField)
    match rest.tail with
    | ']' :: rest =>
      let rank ← readRank bytes (behindField + 2) rest
      return ⟨target, some name, rank, valued || !work.isEmpty⟩
    | _ => throw .shape
  | [] => throw .shape

/-- Whether a rule may start with a character, other than a bracket. -/
def startsName (character : Char) : Bool :=
  isAlphanumeric character || ['-', ':', '_'].contains character

/-- The rule that a text spells. -/
def read (text : String) : Except LogRuleFlaw LogRule := do
  let bytes := text.toUTF8.toList
  match trimSpace text.toList with
  | [] => throw .shape
  | '[' :: rest => readBrackets bytes none 1 rest
  | first :: rest =>
    if !startsName first then throw .shape
    let (name, rest) := (first :: rest).span fun next => next ≠ '=' && next ≠ '['
    let position := byteCount name
    match rest with
    | [] =>
      match rank? text with
      | some rank => return everywhere rank
      | none => return ⟨some text, none, LogLevel.trace.rank, false⟩
    | '=' :: _ =>
      let target ← textBetween bytes 0 position
      return ⟨some target, none, ← readRank bytes position rest, false⟩
    | _ :: rest =>
      readBrackets bytes (some (← textBetween bytes 0 position)) (position + 1) rest

end LogRule

namespace LogFilter

/-- The texts between commas that are not empty. -/
def entries (text : String) : List String :=
  (text.splitOn ",").filter (· ≠ "")

/-- The filter of some rules. Without any, errors are wanted. -/
def ofRules (rules : List LogRule) (complaints : List String) : LogFilter :=
  ⟨if rules.isEmpty then [.everywhere LogLevel.error.rank] else rules, complaints⟩

/-- The filter that a text spells, if all of its rules are well formed. -/
def strict? (text : String) : Option LogFilter := do
  return ofRules (← (entries text).mapM fun entry => (LogRule.read entry).toOption) []

/-- What is said about a rule that is not well formed. -/
def complaint? (entry : String) : Option String :=
  match LogRule.read entry with
  | .ok _ => none
  | .error flaw => some ("ignoring `" ++ entry ++ "`: " ++ flaw.message)

/-- The filter of the rules that are well formed in a text. -/
def lossy (text : String) : LogFilter :=
  ofRules ((entries text).filterMap fun entry => (LogRule.read entry).toOption)
    ((entries text).filterMap complaint?)

/-- The filter of a variable of the environment if it spells one, else of a setting. -/
def choose (spelled : Option String) (setting : String) : LogFilter :=
  (spelled.bind strict?).getD (lossy setting)

end LogFilter

end LoginThrottle
