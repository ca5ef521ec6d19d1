import LoginThrottle.Net.Numeral
import LoginThrottle.Text.Utf8

/-!
# Messages on the wire

Messages are sequences of fields with numbers, in the binary format of protocol buffers.
Only texts are of interest here; fields with unknown numbers are passed over.

## Main Definitions

* `readVarint?`: a number in groups of seven bits
* `readKey`: the number of a field and the form of its value
* `skipField`: what follows a field of any form
* `readTexts`: the texts of the known fields of a message
* `writeTexts`: a message with the texts of its fields
* `MessageFault`: why a message cannot be read

## Design Notes

A field may occur more than once, and then its last text counts. A known field must hold a
text. Groups, which hold fields of their own, may be nested in each other up to a limit. An
empty text is not written, since a field that does not occur is empty.
-/

namespace LoginThrottle

/-- Why a message cannot be read. -/
inductive MessageFault
  | badVarint
  | badKey (key : Nat)
  | badForm (code : Nat)
  | badNumber
  | underflow
  | strayGroupEnd
  | tooDeep
  /-- A known field whose value has another form than a text. -/
  | wrongForm (name : String)
  | badText
  /-- The fault lies within a known field. -/
  | within (field : String) (fault : MessageFault)
  deriving DecidableEq, Repr

/-- The text that describes why a message cannot be read. -/
def MessageFault.message : MessageFault → String
  | badVarint => "invalid varint"
  | badKey key => "invalid key value: " ++ renderNat key
  | badForm code => "invalid wire type value: " ++ renderNat code
  | badNumber => "invalid tag value: 0"
  | underflow => "buffer underflow"
  | strayGroupEnd => "unexpected end group tag"
  | tooDeep => "recursion limit reached"
  | wrongForm name => "invalid wire type: " ++ name ++ " (expected LengthDelimited)"
  | badText => "invalid string value: data is not UTF-8 encoded"
  | within field fault => field ++ ": " ++ fault.message

/-- The form of the value of a field. -/
inductive FieldForm
  | varint
  | sixtyFourBits
  | lengthDelimited
  | groupStart
  | groupEnd
  | thirtyTwoBits
  deriving DecidableEq, Repr

namespace FieldForm

/-- The forms by their codes. -/
def all : List FieldForm :=
  [varint, sixtyFourBits, lengthDelimited, groupStart, groupEnd, thirtyTwoBits]

/-- The form with a code. -/
def ofCode? (code : Nat) : Option FieldForm :=
  all[code]?

/-- The name of a form. -/
def name : FieldForm → String
  | varint => "Varint"
  | sixtyFourBits => "SixtyFourBit"
  | lengthDelimited => "LengthDelimited"
  | groupStart => "StartGroup"
  | groupEnd => "EndGroup"
  | thirtyTwoBits => "ThirtyTwoBit"

end FieldForm

/-- What was read, or why it could not be read. -/
abbrev MessageResult := Except MessageFault

/-! ### Numbers -/

/-- The groups of seven bits of a number, the least significant first, with at most
`groups` of them. -/
def readGroups? : Nat → List UInt8 → Option (Nat × List UInt8)
  | 0, _ => none
  | _, [] => none
  | groups + 1, byte :: rest =>
    if byte < 128 then
      some (byte.toNat, rest)
    else do
      let (higher, rest) ← readGroups? groups rest
      return (byte.toNat - 128 + 128 * higher, rest)

/-- The largest number of groups in a number of 64 bits. -/
def varintGroups : Nat := 10

/-- A number of 64 bits in groups of seven bits. -/
def readVarint? (bytes : List UInt8) : Option (Nat × List UInt8) :=
  (readGroups? varintGroups bytes).filter fun read => read.1 < 0x10000000000000000

/-- A number of 64 bits. -/
def readVarint (bytes : List UInt8) : MessageResult (Nat × List UInt8) :=
  match readVarint? bytes with
  | some read => .ok read
  | none => .error .badVarint

/-- The number of a field and the form of its value. -/
def readKey (bytes : List UInt8) : MessageResult ((Nat × FieldForm) × List UInt8) := do
  let (key, rest) ← readVarint bytes
  if 0x100000000 ≤ key then
    .error (.badKey key)
  else
    match FieldForm.ofCode? (key % 8) with
    | none => .error (.badForm (key % 8))
    | some form =>
      if key / 8 = 0 then .error .badNumber else .ok ((key / 8, form), rest)

/-! ### Fields -/

/-- So many bytes and what follows them. -/
def takeBytes (count : Nat) (bytes : List UInt8) : MessageResult (List UInt8 × List UInt8) :=
  if bytes.length < count then .error .underflow
  else .ok (bytes.take count, bytes.drop count)

/-- As many bytes as the number in front of them says, and what follows them. -/
def takeDelimited (bytes : List UInt8) : MessageResult (List UInt8 × List UInt8) := do
  let (count, rest) ← readVarint bytes
  takeBytes count rest

/-- How deep groups may be nested. -/
def nestingLimit : Nat := 100

mutual

/-- What follows the value of a field, at most `depth` groups deep and within `most`
steps. -/
def skipField (number : Nat) (form : FieldForm) (depth : Nat) :
    Nat → List UInt8 → MessageResult (List UInt8)
  | 0, _ => .error .tooDeep
  | most + 1, bytes =>
    if depth = 0 then .error .tooDeep
    else
      match form with
      | .varint => (readVarint bytes).map Prod.snd
      | .sixtyFourBits => (takeBytes 8 bytes).map Prod.snd
      | .thirtyTwoBits => (takeBytes 4 bytes).map Prod.snd
      | .lengthDelimited => (takeDelimited bytes).map Prod.snd
      | .groupStart => skipGroup number (depth - 1) most bytes
      | .groupEnd => .error .strayGroupEnd

/-- What follows the end of a group, at most `depth` groups deep and within `most`
steps. -/
def skipGroup (number depth : Nat) : Nat → List UInt8 → MessageResult (List UInt8)
  | 0, _ => .error .tooDeep
  | most + 1, bytes =>
    match readKey bytes with
    | .error fault => .error fault
    | .ok ((inner, form), rest) =>
      if form = .groupEnd then
        if inner = number then .ok rest else .error .strayGroupEnd
      else
        match skipField inner form depth most rest with
        | .error fault => .error fault
        | .ok rest => skipGroup number depth most rest

end

/-- The text of a field. -/
def readText (form : FieldForm) (bytes : List UInt8) : MessageResult (String × List UInt8) := do
  if form ≠ .lengthDelimited then
    .error (.wrongForm form.name)
  else
    let (content, rest) ← takeDelimited bytes
    match textOfBytes? content with
    | some text => .ok (text, rest)
    | none => .error .badText

/-- The name of the field with a number, counted from one. -/
def fieldName? (names : List String) (number : Nat) : Option String :=
  names[number - 1]?

/-- The texts of the known fields of a message in the order in which they occur, read
within `most` steps. -/
def readFields (message : String) (names : List String) :
    Nat → List UInt8 → MessageResult (List (String × String))
  | _, [] => .ok []
  | 0, _ => .error .tooDeep
  | most + 1, bytes => do
    let ((number, form), rest) ← readKey bytes
    match fieldName? names number with
    | some name =>
      let (text, rest) ← (readText form rest).mapError (.within (message ++ "." ++ name))
      let later ← readFields message names most rest
      return (name, text) :: later
    | none =>
      let rest ← skipField number form nestingLimit (2 * rest.length + 2) rest
      readFields message names most rest

/-- The texts of the fields of a message by name. A field that does not occur is empty. -/
def readTexts (message : String) (names : List String) (bytes : List UInt8) :
    MessageResult (String → String) := do
  let fields ← readFields message names bytes.length bytes
  return fun name => (fields.reverse.lookup name).getD ""

/-! ### Writing -/

/-- A number in groups of seven bits, the least significant first. -/
def writeVarint (value : Nat) : List UInt8 :=
  if value < 128 then
    [UInt8.ofNat value]
  else
    UInt8.ofNat (value % 128 + 128) :: writeVarint (value / 128)

/-- A field with a number that holds a text. -/
def writeText (number : Nat) (text : String) : List UInt8 :=
  let content := text.toUTF8.toList
  if content.isEmpty then []
  else writeVarint (8 * number + 2) ++ writeVarint content.length ++ content

/-- A message with the texts of its fields, in the order of declaration. -/
def writeTexts (texts : List String) : List UInt8 :=
  (texts.zipIdx 1).flatMap fun field => writeText field.2 field.1

end LoginThrottle
