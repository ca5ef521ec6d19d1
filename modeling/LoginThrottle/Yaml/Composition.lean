import LoginThrottle.Yaml.Dialect
import LoginThrottle.Yaml.Lexer

/-!
# From tokens to nodes

The grammar of documents: how tokens make up a tree.

## Main Definitions

* `Composer`: the unread tokens, and the handles and anchors known so far
* `Composer.node`: the node that comes next
* `Node.ofTokens?`: the only document that tokens make up
* `Node.ofText?`: the only document of a text of the older version

## Design Notes

Anchors are numbered. A name can be anchored more than once, and an alias means the last
anchor of its name before it. Where the count of names is the number, a name that has been
anchored again shares its number with the next new name.
-/

namespace LoginThrottle.Yaml

/-- The unread tokens, and what is known about names. -/
structure Composer where
  dialect : Dialect
  tokens : List Token
  handles : Handles
  /-- The numbers of the names of anchors, the last one first. -/
  anchors : List (String × Nat)

/-- Reading tokens, which may fail. -/
abbrev Composing := StateT Composer Option

namespace Composer

/-- The next token. -/
def peek : Composing (Option Token) :=
  return (← get).tokens.head?

/-- Passes the next token. -/
def pass : Composing Unit :=
  modify fun composer => { composer with tokens := composer.tokens.tail }

/-- Whether the next token is one of the given ones. -/
def isNext (tokens : List Token) : Composing Bool :=
  return (← peek).any tokens.contains

/-- Passes the next token if it is the given one. -/
def passIf (token : Token) : Composing Bool := do
  if ← isNext [token] then
    pass
    return true
  else
    return false

/-- Passes the next token, which must be the given one. -/
def expect (token : Token) : Composing Unit := do
  if !(← passIf token) then failure

/-- Anchors a name and gives it a number. -/
def define (name : String) : Composing Nat :=
  modifyGet fun composer =>
    let number := composer.anchors.length
    let kept :=
      if composer.dialect.ownNumbers then composer.anchors
      else composer.anchors.filter fun entry => entry.1 ≠ name
    (number, { composer with anchors := (name, number) :: kept })

/-- The number of the last anchor of a name. -/
def anchorOf (name : String) : Composing Nat := do
  match (← get).anchors.lookup name with
  | some number => return number
  | none => failure

/-- A tag with its handle replaced by what it stands for. -/
def expanded (handle suffix : String) : Composing Tag := do
  let composer ← get
  match composer.dialect.expand? composer.handles handle with
  | some stem => return ⟨stem, suffix⟩
  | none => failure

/-- The anchor and the tag in front of a node, in either order. -/
def properties : Composing Properties := do
  match ← peek with
  | some (.anchor name) =>
    pass
    let anchor ← define name
    match ← peek with
    | some (.tag handle suffix) =>
      pass
      return ⟨some anchor, some (← expanded handle suffix)⟩
    | _ => return ⟨some anchor, none⟩
  | some (.tag handle suffix) =>
    pass
    let tag ← expanded handle suffix
    match ← peek with
    | some (.anchor name) =>
      pass
      return ⟨some (← define name), some tag⟩
    | _ => return ⟨none, some tag⟩
  | _ => return ⟨none, none⟩

/-! ### Nodes -/

/-- Whether a key is left out and may be, with its colon next. -/
def mayOmitKey : Composing Bool := do
  if (← get).dialect.keysOptional then isNext [.value] else return false

mutual

/-- The node that comes next. Behind a key of a block, dashes may start a sequence without
deeper indentation. -/
def node (inPair : Bool) : Nat → Composing Node
  | 0 => failure
  | depth + 1 => do
    if let some (.reference name) ← peek then
      pass
      return .reference (← anchorOf name)
    let properties ← properties
    match ← peek with
    | some (.scalar style text) =>
      pass
      return .scalar properties style text
    | some .flowSequenceStart =>
      pass
      return .sequence properties (← flowElements true depth)
    | some .flowMappingStart =>
      pass
      return .mapping properties (← flowPairs true depth)
    | some .blockSequenceStart =>
      pass
      return .sequence properties (← blockElements depth)
    | some .blockMappingStart =>
      pass
      return .mapping properties (← blockPairs depth)
    | next =>
      if inPair && next == some .blockEntry then
        return .sequence properties (← flatElements depth)
      else if properties.isEmpty then
        failure
      else
        return .scalar properties .plain ""

/-- The node that comes next, unless one of the given tokens shows that it was left out. -/
def nodeUnless (stops : List Token) (inPair : Bool) : Nat → Composing Node
  | 0 => failure
  | depth + 1 => do
    if ← isNext stops then return .empty
    node inPair depth

/-- The value behind a colon, if there is a colon. -/
def valueUnless (stops : List Token) (inPair : Bool) : Nat → Composing Node
  | 0 => failure
  | depth + 1 => do
    if ← passIf .value then nodeUnless stops inPair depth else return .empty

/-- The elements of an indented sequence. -/
def blockElements : Nat → Composing (List Node)
  | 0 => failure
  | depth + 1 => do
    if ← passIf .blockEnd then return []
    expect .blockEntry
    let element ← nodeUnless [.blockEntry, .blockEnd] false depth
    return element :: (← blockElements depth)

/-- The elements of a sequence that is not indented. -/
def flatElements : Nat → Composing (List Node)
  | 0 => failure
  | depth + 1 => do
    if ← passIf .blockEntry then
      let element ← nodeUnless [.blockEntry, .key, .value, .blockEnd] false depth
      return element :: (← flatElements depth)
    else
      return []

/-- The pairs of an indented mapping. -/
def blockPairs : Nat → Composing (List (Node × Node))
  | 0 => failure
  | depth + 1 => do
    if ← passIf .blockEnd then return []
    let stops := [.key, .value, .blockEnd]
    let key ←
      if ← passIf .key then nodeUnless stops true depth
      else if ← mayOmitKey then pure .empty
      else failure
    let value ← valueUnless stops true depth
    return (key, value) :: (← blockPairs depth)

/-- The elements of a sequence in brackets. A pair may stand for a mapping of its own. -/
def flowElements (first : Bool) : Nat → Composing (List Node)
  | 0 => failure
  | depth + 1 => do
    if ← passIf .flowSequenceEnd then return []
    if !first then
      expect .flowEntry
      if ← passIf .flowSequenceEnd then return []
    let element ← if ← passIf .key then lonePair depth else node false depth
    return element :: (← flowElements false depth)

/-- The mapping of one pair in a sequence in brackets. A key that is left out takes the
mark behind it along. -/
def lonePair : Nat → Composing Node
  | 0 => failure
  | depth + 1 => do
    let key ←
      if ← isNext [.value, .flowEntry, .flowSequenceEnd] then
        pass
        pure .empty
      else
        node false depth
    let value ← valueUnless [.flowEntry, .flowSequenceEnd] false depth
    return .mapping ⟨none, none⟩ [(key, value)]

/-- The pairs of a mapping in brackets. A key without a colon has no value. -/
def flowPairs (first : Bool) : Nat → Composing (List (Node × Node))
  | 0 => failure
  | depth + 1 => do
    if ← passIf .flowMappingEnd then return []
    if !first then
      expect .flowEntry
      if ← passIf .flowMappingEnd then return []
    let stops := [.flowEntry, .flowMappingEnd]
    let pair ←
      if ← passIf .key then
        let key ← nodeUnless (.value :: stops) false depth
        pure (key, ← valueUnless stops false depth)
      else if ← mayOmitKey then
        pure (.empty, ← valueUnless stops false depth)
      else
        pure (← node false depth, .empty)
    return pair :: (← flowPairs false depth)

end

/-! ### Documents -/

/-- Whether a token is a directive. -/
def isDirective : Token → Bool
  | .versionDirective _ _ | .tagDirective _ _ => true
  | _ => false

/-- Whether the text of a document is left out. -/
def isDocumentLeftOut : List Token → Bool
  | [] | .documentStart :: _ | .documentEnd :: _ => true
  | token :: _ => isDirective token

/-- The root of the document that comes next. -/
def root : Composing Node := do
  let tokens := (← get).tokens
  node false (4 * tokens.length + 4)

/-- Passes the marks behind a document. -/
def passDocumentEnds : Composing Unit :=
  modify fun composer =>
    { composer with tokens := composer.tokens.dropWhile (· == .documentEnd) }

/-- The first document, if there is one. -/
def document : Composing (Option Node) := do
  if (← get).dialect.endsFirst then passDocumentEnds
  let composer ← get
  if composer.tokens.isEmpty then return none
  let (directives, unread) := composer.tokens.span isDirective
  let some handles := composer.dialect.handles? directives | failure
  set { composer with tokens := unread, handles := handles }
  if ← passIf .documentStart then
    if isDocumentLeftOut (← get).tokens then return some .empty
    return some (← root)
  else if directives.isEmpty then
    return some (← root)
  else
    failure

/-- The only document. Marks of its end may follow it. -/
def onlyDocument : Composing (Option Node) := do
  let document ← document
  passDocumentEnds
  if (← get).tokens.isEmpty then return document
  failure

end Composer

/-- The only document that tokens make up, if they make up any. -/
def Node.ofTokens? (dialect : Dialect) (tokens : List Token) : Option (Option Node) :=
  Composer.onlyDocument.run' ⟨dialect, tokens, [], []⟩

/-- The only document of a text of the older version, if it has any. Fails unless the text is
well formed and has at most one document. -/
def Node.ofText? (text : String) : Option (Option Node) := do
  Node.ofTokens? .version11 (← Token.ofText? text)

end LoginThrottle.Yaml
