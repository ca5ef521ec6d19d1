/-!
# Metadata of remote calls

Values that travel with a call under keys, beside its message.

## Main Definitions

* `Metadata`: keys and values in the order in which they were sent
* `Metadata.first?`: the first value under a key
* `Metadata.text?`: the first value under a key as a text
* `Metadata.valueOf?`: a text as a value
* `Metadata.insert`: metadata with one value under a key

## Design Notes

A value is a sequence of bytes. It counts as a text only if it consists of visible
characters, spaces and tabs, and if it is not empty. The rule for writing is another one: a
value may hold all bytes but those of control characters.
-/

namespace LoginThrottle

/-- Keys and values in the order in which they were sent. -/
structure Metadata where
  entries : List (String × List UInt8)
  deriving DecidableEq, Inhabited

namespace Metadata

/-- No metadata. -/
def empty : Metadata := ⟨[]⟩

/-- A key without regard to case. -/
def normalize (key : String) : String :=
  key.map Char.toLower

/-- The first value under a key. -/
def first? (metadata : Metadata) (key : String) : Option (List UInt8) :=
  (metadata.entries.find? fun entry => normalize entry.1 == key).map Prod.snd

/-- Whether a byte is a visible character, a space or a tab. -/
def isTextByte (byte : UInt8) : Bool :=
  byte = 9 || (32 ≤ byte && byte < 127)

/-- The text of bytes that each are one character. -/
def textOf (bytes : List UInt8) : String :=
  String.ofList (bytes.map fun byte => Char.ofNat byte.toNat)

/-- The first value under a key, if it is a text. A later value does not stand in for it. -/
def text? (metadata : Metadata) (key : String) : Option String :=
  match metadata.first? key with
  | none | some [] => none
  | some bytes => if bytes.all isTextByte then some (textOf bytes) else none

/-- Whether a value that is written may hold a byte. -/
def isValueByte (byte : UInt8) : Bool :=
  byte = 9 || (32 ≤ byte && byte ≠ 127)

/-- A text as a value, if a value may hold all its bytes. -/
def valueOf? (text : String) : Option (List UInt8) :=
  let bytes := text.toUTF8.data.toList
  if bytes.all isValueByte then some bytes else none

/-- Metadata with one value under a key, in place of all that were there. -/
def insert (metadata : Metadata) (key : String) (value : List UInt8) : Metadata :=
  ⟨metadata.entries.filter (fun entry => normalize entry.1 != key) ++ [(key, value)]⟩

end Metadata

end LoginThrottle
