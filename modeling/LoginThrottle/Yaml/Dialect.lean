import LoginThrottle.Yaml.Node

/-!
# Versions of YAML

What the grammar of documents leaves to the version of the format.

## Main Definitions

* `Dialect`: the rules in which versions differ
* `Dialect.version11`: handles are defined once, and every pair has a key
* `Dialect.version12`: only the last directive counts, and keys may be left out
-/

namespace LoginThrottle.Yaml

/-- What the handles of tags stand for. -/
abbrev Handles := List (String × String)

/-- The rules in which versions differ. -/
structure Dialect where
  /-- Whether a key may be left out in front of a colon. -/
  keysOptional : Bool
  /-- Whether the mark behind a document may stand in front of the first one. -/
  endsFirst : Bool
  /-- Whether every anchor has a number of its own. Otherwise anchors are numbered by the count
  of names. -/
  ownNumbers : Bool
  /-- The handles that the directives in front of a document define, if they may stand
  together. -/
  handles? : List Token → Option Handles
  /-- What a handle stands for. -/
  expand? : Handles → String → Option String

namespace Dialect

/-! ### The older version -/

/-- The handles that need no directive. -/
def commonHandles : Handles :=
  [("!", "!"), ("!!", knownStem)]

/-- Whether a version of the format is understood. -/
def isKnownVersion (major minor : Nat) : Bool :=
  major = 1 && (minor = 1 || minor = 2)

/-- The handles that directives define. At most one of them may name a version, and none may
define a handle again. -/
def definedOnce? (versioned : Bool) (handles : Handles) : List Token → Option Handles
  | .versionDirective major minor :: directives =>
    if versioned || !isKnownVersion major minor then none
    else definedOnce? true handles directives
  | .tagDirective handle expansion :: directives =>
    if (handles.lookup handle).isSome then none
    else definedOnce? versioned ((handle, expansion) :: handles) directives
  | _ => some handles

/-- What a handle stands for. All handles must be defined. -/
def expandDefined? (handles : Handles) (handle : String) : Option String :=
  if handle.isEmpty then some "" else (handles ++ commonHandles).lookup handle

/-- The older version of the format. -/
def version11 : Dialect where
  keysOptional := false
  endsFirst := false
  ownNumbers := false
  handles? := definedOnce? false []
  expand? := expandDefined?

/-! ### The newer version -/

/-- Whether a directive names a version of the format. -/
def namesVersion : Token → Bool
  | .versionDirective _ _ => true
  | _ => false

/-- The handle that the last directive defines. At most one of them may name a version. -/
def definedLast? (directives : List Token) : Option Handles :=
  if (directives.filter namesVersion).length ≤ 1 then
    match directives.getLast? with
    | some (.tagDirective handle expansion) => some [(handle, expansion)]
    | _ => some []
  else
    none

/-- What a handle stands for. Handles between two marks must be defined, the others stand for
themselves if they are not. -/
def expandLoosely? (handles : Handles) (handle : String) : Option String :=
  match handles.lookup handle with
  | some expansion => some expansion
  | none =>
    if handle = "!!" then some knownStem
    else if handle = "" || handle = "!" then some handle
    else none

/-- The newer version of the format. -/
def version12 : Dialect where
  keysOptional := true
  endsFirst := true
  ownNumbers := true
  handles? := definedLast?
  expand? := expandLoosely?

end Dialect

end LoginThrottle.Yaml
