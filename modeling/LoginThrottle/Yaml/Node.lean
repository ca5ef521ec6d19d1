import LoginThrottle.Yaml.Token

/-!
# YAML nodes

The tree that a text describes, before anything is known about the kinds of its scalars.

## Main Definitions

* `Tag`: what a tag says about the kind of a node
* `Node`: scalars, sequences, mappings and aliases
* `Node.anchored`: the nodes that aliases can stand for
* `Node.target?`: the node that an alias stands for
-/

namespace LoginThrottle.Yaml

/-- A tag: what its handle stands for, and what stands behind the handle. -/
structure Tag where
  stem : String
  suffix : String
  deriving DecidableEq, Repr, Inhabited

/-- A tag in full. -/
def Tag.text (tag : Tag) : String :=
  tag.stem ++ tag.suffix

/-- What the tags of the known kinds of scalars begin with. -/
def knownStem : String := "tag:yaml.org,2002:"

/-- What may stand in front of a node. -/
structure Properties where
  anchor : Option Nat
  tag : Option Tag
  deriving DecidableEq, Repr, Inhabited

namespace Properties

/-- Whether there is nothing in front of a node. -/
def isEmpty (properties : Properties) : Bool :=
  properties.anchor.isNone && properties.tag.isNone

/-- The tag in full, if there is one. -/
def tagText? (properties : Properties) : Option String :=
  properties.tag.map Tag.text

end Properties

/-- The tree that a text describes. -/
inductive Node
  | scalar (properties : Properties) (style : ScalarStyle) (text : String)
  | sequence (properties : Properties) (elements : List Node)
  | mapping (properties : Properties) (pairs : List (Node × Node))
  /-- Stands for the node with the given anchor. -/
  | reference (anchor : Nat)
  deriving Repr, Inhabited

namespace Node

/-- The scalar that is not written at all. -/
def empty : Node :=
  scalar ⟨none, none⟩ .plain ""

mutual

/-- The anchored nodes of a tree with their anchors, each before those within it. -/
def anchored : Node → List (Nat × Node)
  | scalar properties style text =>
    (properties.anchor.map (·, scalar properties style text)).toList
  | sequence properties elements =>
    (properties.anchor.map (·, sequence properties elements)).toList ++ anchoredIn elements
  | mapping properties pairs =>
    (properties.anchor.map (·, mapping properties pairs)).toList ++ anchoredAmong pairs
  | reference _ => []

/-- The anchored nodes of some trees. -/
def anchoredIn : List Node → List (Nat × Node)
  | [] => []
  | node :: nodes => anchored node ++ anchoredIn nodes

/-- The anchored nodes of the trees of some pairs. -/
def anchoredAmong : List (Node × Node) → List (Nat × Node)
  | [] => []
  | (key, value) :: pairs => anchored key ++ anchored value ++ anchoredAmong pairs

end

/-- The node that an alias stands for: of several nodes with one anchor, the last. -/
def target? (root : Node) (anchor : Nat) : Option Node :=
  (root.anchored.reverse.find? fun entry => entry.1 = anchor).map Prod.snd

end Node

end LoginThrottle.Yaml
