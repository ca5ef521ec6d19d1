import LoginThrottle.Decimal.Binary64
import LoginThrottle.Yaml.Composition
import LoginThrottle.Yaml12.Lexer

/-!
# The values of YAML 1.2 texts

What scalars without quotation marks stand for, how values make up mappings, and what aliases
stand for.

## Main Definitions

* `Value`: scalars of each kind, sequences and mappings
* `Value.ofPlain`, `Value.ofTagged`: the value of a scalar without quotation marks
* `Value.pairs?`: the pairs that values make up
* `Value.ofText?`: the value of the only document of a text

## Design Notes

A scalar that is not of the kind that its tag names is no value, and neither is an alias
within the node that it stands for. Such a node is left out where a key should be: the next
node is the key then.
-/

namespace LoginThrottle.Yaml12

open Yaml (Node Properties ScalarStyle Tag)

/-- What a node of a text stands for. -/
inductive Value
  /-- No value at all. -/
  | missing
  | null
  | boolean (value : Bool)
  | integer (value : Int)
  /-- A number with a point or an exponent, as it is spelled. -/
  | real (spelling : String)
  | string (value : String)
  | sequence (elements : List Value)
  | mapping (pairs : List (Value × Value))
  deriving Repr, Inhabited, BEq

namespace Value

/-! ### Scalars -/

/-- The whole number that digits of a radix spell, with or without a sign. It must fit into
64 bits. -/
def integer? (radix : Nat) (text : List Char) : Option Value := do
  let (negative, digits) := Binary64.takeSign text
  let half := 0x8000000000000000
  let style : NumeralStyle := ⟨radix, none, true, if negative then half + 1 else half⟩
  let value ← style.readWhole? digits
  return integer (if negative then -value else value)

/-- The whole number that a scalar spells, with a mark for its radix or a plus sign in front
of it. -/
def marked? : List Char → Option Value
  | '0' :: 'x' :: digits => integer? 16 digits
  | '0' :: 'o' :: digits => integer? 8 digits
  | '+' :: digits => integer? 10 digits
  | _ => none

/-- The spellings of numbers that are larger than all others, or no numbers, other than those
that are read as numbers anyway. -/
def unboundedNames : List String :=
  [".inf", ".Inf", ".INF", "+.inf", "+.Inf", "+.INF", "-.inf", "-.Inf", "-.INF", ".nan", ".NAN"]

/-- The number that is not whole that a scalar spells. -/
def real? (text : String) : Option Value :=
  if unboundedNames.contains text || (Binary64.read? text).isSome then some (real text) else none

/-- What a scalar without quotation marks and without a tag stands for. -/
def ofPlain (text : String) : Value :=
  if text = "~" || text = "null" then null
  else if text = "true" then boolean true
  else if text = "false" then boolean false
  else
    let characters := text.toList
    (((marked? characters).or (integer? 10 characters)).or (real? text)).getD (string text)

/-- What a scalar without quotation marks stands for whose tag names its kind. -/
def ofTagged (kind text : String) : Value :=
  if kind = "bool" then
    if text = "true" then boolean true else if text = "false" then boolean false else missing
  else if kind = "int" then
    (integer? 10 text.toList).getD missing
  else if kind = "float" then
    (real? text).getD missing
  else if kind = "null" then
    if text = "~" || text = "null" then null else missing
  else
    string text

/-- The kind of scalars that a tag names, which may be none of the known ones. -/
def kindOf (tag : Tag) : String :=
  if tag.stem = Yaml.knownStem then tag.suffix else ""

/-- What a scalar stands for. A scalar that is left out stands for nothing. -/
def ofScalar (properties : Properties) (style : ScalarStyle) (text : String) : Value :=
  if style ≠ .plain then string text
  else
    match properties.tag with
    | some tag => ofTagged (kindOf tag) text
    | none => if properties.isEmpty && text.isEmpty then null else ofPlain text

/-! ### Mappings -/

/-- Whether there is no value. -/
def isMissing : Value → Bool
  | missing => true
  | _ => false

/-- The pairs that values make up behind some other pairs, where `key` is the key of the next
pair. No two keys may be the same. A key without a value behind it is dropped. -/
def pairsFrom? (key : Value) (pairs : List (Value × Value)) :
    List Value → Option (List (Value × Value))
  | [] => some pairs
  | value :: values =>
    if key.isMissing then pairsFrom? value pairs values
    else if pairs.any fun pair => pair.1 == key then none
    else pairsFrom? missing (pairs ++ [(key, value)]) values

/-- The pairs that keys and values in turn make up. -/
def pairs? (values : List Value) : Option (List (Value × Value)) :=
  pairsFrom? missing [] values

/-! ### Nodes -/

/-- The values of the anchored nodes that are complete. -/
abbrev Anchored := List (Nat × Value)

/-- Remembers the value of an anchored node. -/
def remember (properties : Properties) (value : Value) : StateT Anchored Option Value := do
  if let some anchor := properties.anchor then
    modify fun anchored => (anchor, value) :: anchored
  return value

mutual

/-- What a node stands for. An alias within the node that it stands for has no value. -/
def ofNode? : Node → StateT Anchored Option Value
  | .scalar properties style text => remember properties (ofScalar properties style text)
  | .sequence properties elements => do
    remember properties (sequence (← ofNodes? elements))
  | .mapping properties pairs => do
    match pairs? (← ofPairs? pairs) with
    | some pairs => remember properties (mapping pairs)
    | none => failure
  | .reference anchor => return ((← get).lookup anchor).getD missing

/-- What some nodes stand for. -/
def ofNodes? : List Node → StateT Anchored Option (List Value)
  | [] => return []
  | node :: nodes => do
    let value ← ofNode? node
    return value :: (← ofNodes? nodes)

/-- What keys and values in turn stand for. -/
def ofPairs? : List (Node × Node) → StateT Anchored Option (List Value)
  | [] => return []
  | (key, value) :: pairs => do
    let key ← ofNode? key
    let value ← ofNode? value
    return key :: value :: (← ofPairs? pairs)

end

/-- The value of the only document of a text, if it has any. Fails unless the text is well
formed and has at most one document. -/
def ofText? (text : String) : Option (Option Value) := do
  match ← Node.ofTokens? .version12 (← tokens? text) with
  | some root => return some (← (ofNode? root).run' [])
  | none => return none

end Value

end LoginThrottle.Yaml12
