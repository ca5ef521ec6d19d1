/-!
# Logs

Lines that a program writes about what it does, and which of them are wanted.

## Main Definitions

* `LogLine`: a level, the part of the program that writes, what it says, and fields
* `LogRule`: up to which level some lines are wanted
* `LogFilter`: rules, and what was wrong with them
* `LogFilter.wants`: whether a line is wanted

## Design Notes

Of the rules that match a line, the most specific one decides: the one for the longest name
of a part, then one for a field, and among several for fields the one whose field comes last
by name. Of rules for the same lines the last counts. A line that no rule matches is not
wanted.
-/

namespace LoginThrottle

/-- How urgent a line is. -/
inductive LogLevel
  | error
  | warn
  | info
  | debug
  | trace
  deriving DecidableEq, Repr

namespace LogLevel

/-- All levels, the most urgent first. -/
def all : List LogLevel := [error, warn, info, debug, trace]

/-- The name of a level. -/
def name : LogLevel → String
  | error => "ERROR"
  | warn => "WARN"
  | info => "INFO"
  | debug => "DEBUG"
  | trace => "TRACE"

/-- How many levels are as urgent as this one or more. -/
def rank : LogLevel → Nat
  | error => 1
  | warn => 2
  | info => 3
  | debug => 4
  | trace => 5

end LogLevel

/-- A line of a log. -/
structure LogLine where
  level : LogLevel
  /-- The part of the program that writes the line. -/
  target : String
  message : String
  /-- The names of the values that the line holds besides its message. -/
  fields : List String
  deriving DecidableEq, Repr

namespace LogLine

/-- The level and what is said. -/
def render (line : LogLine) : String :=
  line.level.name ++ " " ++ line.message

/-- Whether a line has a field of the given name. The message is a field too. -/
def hasField (line : LogLine) (name : String) : Bool :=
  name = "message" || line.fields.contains name

end LogLine

/-- Up to which rank some lines are wanted. -/
structure LogRule where
  /-- How the names of the parts begin that write these lines. -/
  target : Option String
  /-- The name of a field that these lines have. -/
  field : Option String
  rank : Nat
  /-- Whether the rule is about stretches of work, or values of fields, and so matches no
  line. -/
  forSpans : Bool
  deriving DecidableEq, Repr

namespace LogRule

/-- A rule for all lines. -/
def everywhere (rank : Nat) : LogRule :=
  ⟨none, none, rank, false⟩

/-- Whether a rule is about a line. -/
def covers (rule : LogRule) (line : LogLine) : Bool :=
  !rule.forSpans && rule.target.all (fun start => line.target.startsWith start)
    && rule.field.all line.hasField

/-- How specific the part is that a rule is about. -/
def targetWeight (rule : LogRule) : Nat :=
  rule.target.elim 0 fun target => target.utf8ByteSize + 1

/-- The field that a rule is about, or the empty text, which comes before all names. -/
def fieldName (rule : LogRule) : String :=
  rule.field.getD ""

/-- Whether a rule is less specific than another one. -/
def isWeaker (rule other : LogRule) : Bool :=
  rule.targetWeight < other.targetWeight
    || (rule.targetWeight = other.targetWeight && rule.fieldName < other.fieldName)

end LogRule

/-- Rules, and what was wrong with them. -/
structure LogFilter where
  rules : List LogRule
  complaints : List String
  deriving DecidableEq, Repr

namespace LogFilter

/-- Of two rules the one that decides, where the second comes later. -/
def stronger (first : Option LogRule) (second : LogRule) : Option LogRule :=
  match first with
  | none => some second
  | some rule => if second.isWeaker rule then some rule else some second

/-- Whether a line is wanted. -/
def wants (filter : LogFilter) (line : LogLine) : Bool :=
  let matching := filter.rules.filter fun rule => rule.covers line
  (matching.foldl stronger none).any fun rule => line.level.rank ≤ rule.rank

end LogFilter

end LoginThrottle
