/-!
# The tokens of YAML texts

What a text is made of once indentation has been turned into brackets.

## Main Definitions

* `Yaml.Token`: scalars, properties of nodes, and marks
* `Yaml.ScalarStyle`: how a scalar was written
-/

namespace LoginThrottle.Yaml

/-- How a scalar was written. -/
inductive ScalarStyle
  | plain
  | singleQuoted
  | doubleQuoted
  | literal
  | folded
  deriving DecidableEq, Repr

/-- A piece of a text. -/
inductive Token
  | versionDirective (major minor : Nat)
  | tagDirective (handle text : String)
  | documentStart
  | documentEnd
  | blockSequenceStart
  | blockMappingStart
  | blockEnd
  | flowSequenceStart
  | flowSequenceEnd
  | flowMappingStart
  | flowMappingEnd
  | blockEntry
  | flowEntry
  | key
  | value
  | reference (name : String)
  | anchor (name : String)
  | tag (handle suffix : String)
  | scalar (style : ScalarStyle) (text : String)
  deriving DecidableEq, Repr

end LoginThrottle.Yaml
