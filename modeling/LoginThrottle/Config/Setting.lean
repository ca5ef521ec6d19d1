import LoginThrottle.Config.Schema
import LoginThrottle.Decimal.Binary64
import LoginThrottle.Keyed

/-!
# Settings from several sources

A tree of settings into which the settings of one source after the other are put, and from
which a value of any kind is taken that can stand for the kind asked for.

## Main Definitions

* `Setting`: the tree
* `Setting.put`: put a setting under a name, merging tables
* `settingPath`: the steps to where a setting belongs
* `Setting.form`: how settings of each kind are taken from the tree

## Design Notes

Names do not depend on case. Sources cannot always say what kind a setting has: variables
of the environment, for instance, are always texts. So a text that spells a number or a
flag counts as one, a flag counts as zero or one, and so on.
-/

namespace LoginThrottle

/-- A tree of settings. -/
inductive Setting
  | nothing
  | flag (value : Bool)
  | whole (value : Int)
  | real (value : Binary64)
  | text (value : String)
  | list (elements : List Setting)
  | table (entries : List (String × Setting))
  deriving Inhabited

namespace Setting

/-- A character in lower case, so far as a letter of a name can come of it. The sign for one
kelvin is the only letter outside of the ordinary ones that turns into one of them. -/
def lowerChar (character : Char) : Char :=
  if character = '\u212a' then 'k' else character.toLower

/-- A text in lower case. -/
def lowerCase (text : String) : String :=
  text.map lowerChar

/-- The entries of a table. Anything else has none. -/
def entries : Setting → List (String × Setting)
  | table entries => entries
  | _ => []

/-- The elements of a list. Anything else has none. -/
def elements : Setting → List Setting
  | list elements => elements
  | _ => []

/-- What a table holds under a name, or an empty table. -/
def subtable (entries : List (String × Setting)) (name : String) : Setting :=
  (Keyed.findEntry name entries).getD (table [])

/-! ### Putting settings into the tree -/

mutual

/-- Puts a setting into a table under a name. A table is merged with what is there, all else
replaces it. -/
def put (name : String) : Setting → Setting → Setting
  | table incoming, target =>
    let name := lowerCase name
    let merged := putAll incoming (subtable target.entries name)
    table (Keyed.putEntry name merged target.entries)
  | setting, target => table (Keyed.putEntry (lowerCase name) setting target.entries)

/-- Puts settings into a table one after the other. -/
def putAll : List (String × Setting) → Setting → Setting
  | [], target => target
  | (name, setting) :: rest, target => putAll rest (put name setting target)

end

/-- A step from a setting to one within it. -/
inductive Step
  | name (name : String)
  /-- By position, counted from the end if negative. -/
  | position (index : Int)
  deriving DecidableEq, Repr

/-- A list that is long enough to have what an index means. It grows at the front if the index
is counted from the end. -/
def lengthenFor (index : Int) (elements : List Setting) : List Setting :=
  if 0 ≤ index then elements ++ List.replicate (index.toNat + 1 - elements.length) nothing
  else List.replicate (index.natAbs - elements.length) nothing ++ elements

/-- A list with what an index means changed, and lengthened for it if need be. -/
def changeAt (index : Int) (change : Setting → Setting) (elements : List Setting) :
    List Setting :=
  let elements := lengthenFor index elements
  let position := if 0 ≤ index then index.toNat else elements.length - index.natAbs
  elements.set position (change (elements.getD position nothing))

/-- Puts a setting where some steps lead. What does not fit a step on the way makes room
for an empty table or list. -/
def putAt (setting : Setting) : List Step → Setting → Setting
  | [], _ => setting
  | [.name name], target => put name setting target
  | .name name :: steps, target =>
    let inner := (Keyed.findEntry (lowerCase name) target.entries).getD nothing
    table (Keyed.putEntry (lowerCase name) (putAt setting steps inner) target.entries)
  | .position index :: steps, target => list (changeAt index (putAt setting steps) target.elements)

end Setting

/-! ### Paths -/

/-- Whether a character may stand in a name on a path. -/
def isPathNameChar (character : Char) : Bool :=
  character.isAlphanum || character = ' ' || character = '_' || character = '-'

/-- A name at the front of a path. -/
def pathName? (text : List Char) : Option (String × List Char) :=
  let (name, rest) := text.span isPathNameChar
  if name.isEmpty then none else some (String.ofList name, rest)

/-- Whether a character is a blank on a path. -/
def isPathBlank (character : Char) : Bool :=
  character = ' ' || character = '\t'

/-- A number between brackets at the front of a path, from behind the first bracket. It must
fit into 64 bits. -/
def pathIndex? (text : List Char) : Option (Int × List Char) := do
  let text := text.dropWhile isPathBlank
  let (negative, text) :=
    match text with
    | '-' :: rest => (true, rest)
    | text => (false, text)
  let (digits, rest) := spanDigits 10 text
  if digits.isEmpty then none
  let value := ofDigits 10 digits
  let half := 0x8000000000000000
  if (if negative then half else half - 1) < value then none
  let rest ← afterChar? ']' (rest.dropWhile isPathBlank)
  return (if negative then -(value : Int) else value, rest)

/-- The steps of a path behind its first name, within `most` steps. -/
def pathSteps? : Nat → List Char → Option (List Setting.Step)
  | 0, text => if text.isEmpty then some [] else none
  | most + 1, text => do
    match text with
    | [] => return []
    | '.' :: rest =>
      let (name, rest) ← pathName? rest
      return .name name :: (← pathSteps? most rest)
    | '[' :: rest =>
      let (index, rest) ← pathIndex? rest
      return .position index :: (← pathSteps? most rest)
    | _ => none

/-- The steps that a text describes: names with periods between them and numbers in
brackets. Any other text is one name. -/
def settingPath (text : String) : List Setting.Step :=
  let steps := do
    let (name, rest) ← pathName? text.toList
    return Setting.Step.name name :: (← pathSteps? rest.length rest)
  steps.getD [.name text]

/-! ### Taking settings from the tree -/

namespace Setting

/-- The texts that count as true, besides the number one. -/
def trueNames : List String := ["true", "on", "yes"]

/-- The texts that count as false, besides the number zero. -/
def falseNames : List String := ["false", "off", "no"]

/-- How counts are written. -/
def countStyle : NumeralStyle where
  radix := 10
  maxDigits := none
  leadingZeros := true
  bound := largestCount + 1

/-- The count that a text spells. -/
def countOf? (text : String) : Option Nat :=
  let name := lowerCase text
  if trueNames.contains name then some 1
  else if falseNames.contains name then some 0
  else
    match text.toList with
    | '+' :: digits => countStyle.readWhole? digits
    | digits => countStyle.readWhole? digits

/-- What can stand for a count. -/
def count? : Setting → Option Nat
  | whole value => if 0 ≤ value ∧ value ≤ largestCount then some value.toNat else none
  | real value => some (value.roundToCount largestCount)
  | flag value => some value.toNat
  | text value => countOf? value
  | nothing | list _ | table _ => none

/-- The flag that a text spells. -/
def flagOf? (text : String) : Option Bool :=
  let name := lowerCase text
  if name = "1" || trueNames.contains name then some true
  else if name = "0" || falseNames.contains name then some false
  else none

/-- What can stand for a flag. -/
def flag? : Setting → Option Bool
  | flag value => some value
  | whole value => some (value ≠ 0)
  | real value => some !value.isZero
  | text value => flagOf? value
  | nothing | list _ | table _ => none

/-- What can stand for a text. -/
def text? : Setting → Option String
  | text value => some value
  | flag value => some (if value then "true" else "false")
  | whole value => some (renderInt value)
  | real value => some value.render
  | nothing | list _ | table _ => none

/-- A section: a table, or a list of settings in order. -/
def settings? (names : List String) : Setting → Option (Settings Setting)
  | table entries => some fun name => Keyed.findEntry name entries
  | list elements => some fun name => (names.zip elements).lookup name
  | _ => none

/-- The elements of a list. -/
def list? : Setting → Option (List Setting)
  | list elements => some elements
  | _ => none

/-- One of the given names, as a text or as the only name in a table. -/
def choice? (names : List String) (setting : Setting) : Option String :=
  let known (name : String) : Option String :=
    names.find? fun candidate => lowerCase candidate == lowerCase name
  match setting with
  | text name => known name
  | table [(name, _)] => known name
  | _ => none

/-- A setting that may be nothing. -/
def present? : Setting → Option (Option Setting)
  | nothing => some none
  | setting => some (some setting)

/-- How settings of each kind are taken from the tree. -/
def form : Form Setting where
  settings? := settings?
  list? := list?
  text? := text?
  count? := count?
  flag? := flag?
  choice? := choice?
  present? := present?

end Setting

end LoginThrottle
