/-!
# The table of rules

Rules put addresses or networks on the white list or on the black list. The table
keeps them in the order in which they were created.

## Main Definitions

* `ListKind`: the two lists
* `Rule`: a text on one of the lists, with the number it was given
* `RuleTable`: the stored rules and the next free number
* `RuleTable.create`, `RuleTable.delete`, `RuleTable.ofList`, `RuleTable.find`

## Design Notes

A rule keeps the text as it was given. Whether a text means anything is for those to
decide who ask the table.
-/

namespace LoginThrottle

/-- The list that a rule belongs to. -/
inductive ListKind
  /-- Addresses that always pass. -/
  | white
  /-- Addresses that never pass. -/
  | black
  deriving DecidableEq, Repr, Inhabited

/-- The name of a list. -/
def ListKind.name : ListKind → String
  | white => "white"
  | black => "black"

/-- Both lists. -/
def ListKind.all : List ListKind := [white, black]

/-- The list with the given name. -/
def ListKind.ofName? (name : String) : Option ListKind :=
  all.find? fun kind => kind.name == name

/-- A text on one of the lists. A rule that has not been stored has number zero. -/
structure Rule where
  id : Int
  text : String
  list : ListKind
  deriving DecidableEq, Repr

/-- A rule that has not been stored. -/
def Rule.unsaved (text : String) (list : ListKind) : Rule :=
  ⟨0, text, list⟩

/-- Stored rules in the order of their creation, and the number of the next one. -/
structure RuleTable where
  rules : List Rule
  nextId : Int
  deriving DecidableEq, Repr

namespace RuleTable

/-- The table without rules. Numbers start at one. -/
def empty : RuleTable := ⟨[], 1⟩

/-- Stores a rule and hands out its number. -/
def create (table : RuleTable) (text : String) (list : ListKind) : Int × RuleTable :=
  (table.nextId, ⟨table.rules ++ [⟨table.nextId, text, list⟩], table.nextId + 1⟩)

/-- Deletes the rule with a number, if there is one. -/
def delete (table : RuleTable) (id : Int) : RuleTable :=
  { table with rules := table.rules.filter fun rule => rule.id ≠ id }

/-- The rules of a list. -/
def ofList (table : RuleTable) (list : ListKind) : List Rule :=
  table.rules.filter fun rule => rule.list = list

/-- The rules of a list with exactly the given text. -/
def find (table : RuleTable) (text : String) (list : ListKind) : List Rule :=
  table.rules.filter fun rule => rule.list = list ∧ rule.text = text

/-- The number of stored rules over both lists. -/
def size (table : RuleTable) : Nat :=
  table.rules.length

/-- Whether no rule is stored. -/
def isEmpty (table : RuleTable) : Bool :=
  table.rules.isEmpty

end RuleTable

end LoginThrottle
