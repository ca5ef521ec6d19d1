import LoginThrottle.Config.Schema
import LoginThrottle.Yaml.Composition

/-!
# Configurations in YAML

How settings are read from YAML when every scalar must be written in the way of its kind.

## Main Definitions

* `Yaml.Node.form`: how settings are read from the nodes of a document
* `Config.ofYaml`: the sound configuration that a text holds

## Design Notes

Only a scalar without quotation marks is a number, a flag or nothing at all. Any scalar is
a text. A section or list that is left out where its node should stand is empty.
-/

namespace LoginThrottle.Yaml.Node

/-- The node itself or the one that it stands for. -/
def resolve? (root : Node) : Node → Option Node
  | reference anchor => root.target? anchor
  | node => some node

/-- The text of a scalar. -/
def text? (root node : Node) : Option String :=
  match resolve? root node with
  | some (scalar _ _ text) => some text
  | _ => none

/-- A section: a mapping with scalars as keys. A setting must not stand in it twice. -/
def settings? (root : Node) (names : List String) (node : Node) : Option (Settings Node) :=
  match resolve? root node with
  | some (mapping _ pairs) => do
    let entries ← pairs.mapM fun pair => do return (← text? root pair.1, pair.2)
    if names.all fun name => (entries.filter fun entry => entry.1 = name).length ≤ 1 then
      return fun name => entries.lookup name
    else
      none
  | some (scalar _ .plain "") => some fun _ => none
  | _ => none

/-- The elements of a sequence. -/
def list? (root node : Node) : Option (List Node) :=
  match resolve? root node with
  | some (sequence _ elements) => some elements
  | some (scalar _ .plain "") => some []
  | _ => none

/-- The tag of a kind of scalars. -/
def scalarTag (kind : String) : String :=
  knownStem ++ kind

/-- The text of a scalar that may be of the given kind: it is plain, or literal with the
tag of that kind. -/
def plainText? (root : Node) (kind : String) (node : Node) : Option String :=
  match resolve? root node with
  | some (scalar _ .plain text) => some text
  | some (scalar properties .literal text) =>
    if properties.tagText? = some (scalarTag kind) then some text else none
  | _ => none

/-- How counts are written in a radix other than ten. -/
def radixStyle (radix : Nat) : NumeralStyle where
  radix := radix
  maxDigits := none
  leadingZeros := true
  bound := largestCount + 1

/-- How counts are written in decimal. -/
def decimalStyle : NumeralStyle :=
  { radixStyle 10 with leadingZeros := false }

/-- The count that a text spells. A plus sign may stand in front of it. -/
def countOf? (text : String) : Option Nat :=
  let unsigned :=
    match text.toList with
    | '+' :: rest => rest
    | text => text
  match unsigned with
  | '0' :: 'x' :: digits => (radixStyle 16).readWhole? digits
  | '0' :: 'o' :: digits => (radixStyle 8).readWhole? digits
  | '0' :: 'b' :: digits => (radixStyle 2).readWhole? digits
  | digits => decimalStyle.readWhole? digits

/-- The flag that a text spells. -/
def flagOf? (text : String) : Option Bool :=
  if ["true", "True", "TRUE"].contains text then some true
  else if ["false", "False", "FALSE"].contains text then some false
  else none

/-- Whether a text spells nothing. -/
def isNull (text : String) : Bool :=
  ["null", "Null", "NULL", "~"].contains text

/-- One of the given names, as a scalar or as the tag of a node that stands for nothing. -/
def choice? (root : Node) (names : List String) (node : Node) : Option String :=
  let known (name : String) : Option String :=
    if names.contains name then some name else none
  match resolve? root node with
  | some (scalar properties style text) =>
    match properties.tagText?.map String.toList with
    | some ('!' :: name) =>
      if style = .plain && (text.isEmpty || isNull text) then known (String.ofList name) else none
    | _ => known text
  | _ => none

/-- A node that may stand for nothing. The tag of nothing admits nothing else. -/
def present? (root node : Node) : Option (Option Node) :=
  match resolve? root node with
  | some (scalar properties .plain text) =>
    match properties.tagText? with
    | none => if text.isEmpty || isNull text then some none else some (some node)
    | some tag =>
      if tag = scalarTag "null" then
        if isNull text then some none else none
      else
        some (some node)
  | some _ => some (some node)
  | none => none

/-- How settings are read from the nodes of a document. -/
def form (root : Node) : Form Node where
  settings? := settings? root
  list? := list? root
  text? := text? root
  count? node := (plainText? root "int" node).bind countOf?
  flag? node := (plainText? root "bool" node).bind flagOf?
  choice? := choice? root
  present? := present? root

end LoginThrottle.Yaml.Node

namespace LoginThrottle

/-- The configuration that a text holds. A text without a document holds the default. -/
def Config.ofYaml? (text : String) : Option Config := do
  let root := (← Yaml.Node.ofText? text).getD .empty
  Config.read root.form root

/-- The fault of a text that holds no configuration. -/
def unreadableConfig : Fault :=
  .configuration "Failed to parse configuration"

/-- The sound configuration that a text holds. -/
def Config.ofYaml (text : String) : Except Fault Config :=
  match Config.ofYaml? text with
  | none => .error unreadableConfig
  | some config => config.validate

end LoginThrottle
