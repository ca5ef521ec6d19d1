import LoginThrottle.Fault
import LoginThrottle.Net.Numeral
import LoginThrottle.Rule.Table

/-!
# The store of rules

A rule table behind calls that can fail, with a journal of the calls that were made.

## Main Definitions

* `RuleCall`: the calls that a store takes
* `RuleStore`: a table, the journal and when calls fail
* `RuleStore.create`, `RuleStore.delete`, `RuleStore.ofList`, `RuleStore.find`

## Design Notes

Whether a call fails may depend on the calls made before it. A call that fails is
entered into the journal and leaves the table as it was.
-/

namespace LoginThrottle

/-- A call of a rule store. -/
inductive RuleCall
  | create (text : String) (list : ListKind)
  | delete (id : Int)
  | ofList (list : ListKind)
  | find (text : String) (list : ListKind)
  deriving DecidableEq, Repr

namespace RuleCall

/-- The name of a kind of call. -/
def name : RuleCall → String
  | create _ _ => "create"
  | delete _ => "delete"
  | ofList _ => "get"
  | find _ _ => "find"

/-- Whether a call deletes a rule. -/
def isDelete : RuleCall → Bool
  | delete _ => true
  | _ => false

/-- The fault of a call that fails. -/
def fault (call : RuleCall) : Fault :=
  .storage (call.name ++ " failed")

/-- A call as a line of a journal. -/
def render : RuleCall → String
  | create text list => "create " ++ list.name ++ " " ++ text
  | delete id => "delete " ++ renderInt id
  | ofList list => "get " ++ list.name
  | find text list => "find " ++ list.name ++ " " ++ text

end RuleCall

/-- When calls fail: decided from the calls made so far, the latest first, and the
call itself. -/
abbrev RuleOutage := List RuleCall → RuleCall → Bool

namespace RuleOutage

/-- No call fails. -/
def never : RuleOutage := fun _ _ => false

/-- All calls with one of the given names fail, and so do deletions after the given
number of them, if there is one. -/
def ofNames (names : List String) (deletions : Option Nat) : RuleOutage := fun journal call =>
  names.contains call.name ||
    (call.isDelete && deletions.any fun most => most ≤ (journal.filter RuleCall.isDelete).length)

end RuleOutage

/-- A rule table behind calls that can fail. -/
structure RuleStore where
  table : RuleTable
  outage : RuleOutage
  /-- The calls made so far, the latest first. -/
  journal : List RuleCall

namespace RuleStore

/-- An empty store. -/
def new (outage : RuleOutage) : RuleStore :=
  ⟨.empty, outage, []⟩

/-- Makes a call: enters it into the journal and, unless it fails, answers it from the
table and files what it leaves of the table. -/
def perform {Answer : Type} (store : RuleStore) (call : RuleCall)
    (effect : RuleTable → Answer × RuleTable) : Except Fault Answer × RuleStore :=
  let entered := { store with journal := call :: store.journal }
  if store.outage store.journal call then
    (.error call.fault, entered)
  else
    let (answer, table) := effect store.table
    (.ok answer, { entered with table := table })

/-- Stores a rule and answers its number. -/
def create (store : RuleStore) (text : String) (list : ListKind) :
    Except Fault Int × RuleStore :=
  store.perform (.create text list) fun table => table.create text list

/-- Deletes the rule with a number. A number that no rule has is not a fault. -/
def delete (store : RuleStore) (id : Int) : Except Fault Unit × RuleStore :=
  store.perform (.delete id) fun table => ((), table.delete id)

/-- The rules of a list. -/
def ofList (store : RuleStore) (list : ListKind) : Except Fault (List Rule) × RuleStore :=
  store.perform (.ofList list) fun table => (table.ofList list, table)

/-- The rules of a list with exactly the given text. -/
def find (store : RuleStore) (text : String) (list : ListKind) :
    Except Fault (List Rule) × RuleStore :=
  store.perform (.find text list) fun table => (table.find text list, table)

end RuleStore

end LoginThrottle
