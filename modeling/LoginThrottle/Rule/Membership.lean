import LoginThrottle.Net.Network
import LoginThrottle.Rule.Store

/-!
# List membership and its management

Which addresses are on a list, and how texts come onto it and leave it again.

## Main Definitions

* `Rule.covers`: whether a rule is about an address
* `RuleStore.isListed`: whether an address is on a list
* `RuleStore.add`: put a text on a list
* `RuleStore.remove`: take a text off a list
* `RuleStore.serve`: one operation on a store, by its name

## Design Notes

A text is taken off a list rule by rule, in the order of creation. When a deletion
fails, the rules deleted before it are gone and the others stay, so that the same
removal can be tried again.
-/

namespace LoginThrottle

/-- Whether a rule is about a canonical address. A text that spells no set of
addresses is about none. -/
def Rule.covers (rule : Rule) (address : IpAddress) : Bool :=
  match AddressSet.read? rule.text with
  | some set => set.covers address
  | none => false

namespace RuleStore

/-- Whether the address that a text spells is on a list. -/
def isListed (store : RuleStore) (text : String) (list : ListKind) :
    Except Fault Bool × RuleStore :=
  match IpAddress.read? text with
  | none => (.error (.invalidAddress text), store)
  | some address =>
    match store.ofList list with
    | (.error fault, store) => (.error fault, store)
    | (.ok rules, store) => (.ok (rules.any fun rule => rule.covers address.canonical), store)

/-- Puts a text on a list. It must spell an address or a network. The same text may be
put on a list more than once. -/
def add (store : RuleStore) (text : String) (list : ListKind) : Except Fault Unit × RuleStore :=
  match AddressSet.read? text with
  | none => (.error (.invalidAddress text), store)
  | some _ =>
    let (created, store) := store.create text list
    (created.map fun _ => (), store)

/-- Deletes rules one by one, up to the first deletion that fails. -/
def deleteEach : List Rule → RuleStore → Except Fault Unit × RuleStore
  | [], store => (.ok (), store)
  | rule :: rest, store =>
    match store.delete rule.id with
    | (.error fault, store) => (.error fault, store)
    | (.ok _, store) => deleteEach rest store

/-- Takes a text off a list: deletes every rule of the list with exactly that text. -/
def remove (store : RuleStore) (text : String) (list : ListKind) :
    Except Fault Unit × RuleStore :=
  match store.find text list with
  | (.error fault, store) => (.error fault, store)
  | (.ok [], store) => (.error .ruleNotFound, store)
  | (.ok rules, store) => deleteEach rules store

/-! ### Single operations -/

/-- What can be asked of a store of rules. -/
inductive Operation
  | add (text : String) (list : ListKind)
  | remove (text : String) (list : ListKind)
  | isListed (text : String) (list : ListKind)
  /-- Stores a text without looking at it. -/
  | create (text : String) (list : ListKind)
  | delete (id : Int)
  | find (text : String) (list : ListKind)
  | ofList (list : ListKind)
  deriving DecidableEq, Repr

/-- What an operation on a store of rules answers. -/
inductive Answer
  | done
  | decision (listed : Bool)
  | number (id : Int)
  | rules (found : List Rule)
  deriving DecidableEq, Repr

/-- Performs one operation. -/
def serve (store : RuleStore) : Operation → Except Fault Answer × RuleStore
  | .add text list =>
    let (result, store) := store.add text list
    (result.map fun _ => .done, store)
  | .remove text list =>
    let (result, store) := store.remove text list
    (result.map fun _ => .done, store)
  | .isListed text list =>
    let (result, store) := store.isListed text list
    (result.map .decision, store)
  | .create text list =>
    let (result, store) := store.create text list
    (result.map .number, store)
  | .delete id =>
    let (result, store) := store.delete id
    (result.map fun _ => .done, store)
  | .find text list =>
    let (result, store) := store.find text list
    (result.map .rules, store)
  | .ofList list =>
    let (result, store) := store.ofList list
    (result.map .rules, store)

end RuleStore

end LoginThrottle
