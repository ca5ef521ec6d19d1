import LoginThrottle.Net.Numeral

/-!
# Texts as bytes

Texts travel as bytes in UTF-8, and not every sequence of bytes is a text.

## Main Definitions

* `textOfBytes?`: the text that bytes make up
* `Utf8Flaw`: where and how bytes fail to make up a text
* `utf8Flaw?`: the first flaw of a sequence of bytes
* `textOfBytes`: the text that bytes make up, or their first flaw

## Design Notes

The first byte of a character says how many bytes follow it and from which range each of
them is. A flaw is counted from the first byte of the character in which it lies, and its
length is the number of bytes that could have begun a character.
-/

namespace LoginThrottle

/-- The text that bytes make up. -/
def textOfBytes? (bytes : List UInt8) : Option String :=
  String.fromUTF8? (ByteArray.mk bytes.toArray)

/-- Where bytes fail to make up a text. -/
structure Utf8Flaw where
  /-- The number of bytes in front of the flaw. -/
  index : Nat
  /-- The number of bytes that are wrong, or none if more of them could have followed. -/
  length : Option Nat
  deriving DecidableEq, Repr

/-- The text that describes a flaw. -/
def Utf8Flaw.message (flaw : Utf8Flaw) : String :=
  let place := " from index " ++ renderNat flaw.index
  match flaw.length with
  | some length => "invalid utf-8 sequence of " ++ renderNat length ++ " bytes" ++ place
  | none => "incomplete utf-8 byte sequence" ++ place

/-- A range of bytes with both ends included. -/
abbrev ByteRange := UInt8 × UInt8

/-- The bytes that may stand inside a character. -/
def innerBytes : ByteRange := (0x80, 0xbf)

/-- The bytes that may stand second in a character. Some are left out behind four of the
first bytes, so that no character has two forms and surrogates have none. -/
def secondBytes (first : UInt8) : ByteRange :=
  if first = 0xe0 then (0xa0, 0xbf)
  else if first = 0xed then (0x80, 0x9f)
  else if first = 0xf0 then (0x90, 0xbf)
  else if first = 0xf4 then (0x80, 0x8f)
  else innerBytes

/-- The ranges of the bytes behind a first byte, if a character can begin with it. -/
def tailRanges? (first : UInt8) : Option (List ByteRange) :=
  if first < 0x80 then some []
  else if first < 0xc2 then none
  else if first < 0xe0 then some [secondBytes first]
  else if first < 0xf0 then some [secondBytes first, innerBytes]
  else if first < 0xf5 then some [secondBytes first, innerBytes, innerBytes]
  else none

/-- The length of the flaw of a character whose first `seen` bytes are in order, if one of
the others is not. -/
def tailFlaw? (seen : Nat) : List ByteRange → List UInt8 → Option (Option Nat)
  | [], _ => none
  | _ :: _, [] => some none
  | range :: ranges, byte :: rest =>
    if range.1 ≤ byte && byte ≤ range.2 then tailFlaw? (seen + 1) ranges rest
    else some (some seen)

/-- The first flaw of the bytes behind `index` others, of which the first `inner` belong to
a character that is known to be in order. -/
def flawFrom? (index : Nat) : Nat → List UInt8 → Option Utf8Flaw
  | _, [] => none
  | inner + 1, _ :: rest => flawFrom? (index + 1) inner rest
  | 0, byte :: rest =>
    match tailRanges? byte with
    | none => some ⟨index, some 1⟩
    | some ranges =>
      match tailFlaw? 1 ranges rest with
      | some length => some ⟨index, length⟩
      | none => flawFrom? (index + 1) ranges.length rest

/-- The first flaw of a sequence of bytes. -/
def utf8Flaw? (bytes : List UInt8) : Option Utf8Flaw :=
  flawFrom? 0 0 bytes

/-- The text that bytes make up, or their first flaw. Bytes without a flaw are a text. -/
def textOfBytes (bytes : List UInt8) : Except Utf8Flaw String :=
  match textOfBytes? bytes with
  | some text => .ok text
  | none => .error ((utf8Flaw? bytes).getD ⟨bytes.length, none⟩)

/-- A character of three bytes that ends after two is incomplete. -/
example : utf8Flaw? [0x61, 0xe2, 0x82] = some ⟨1, none⟩ := by decide

/-- A surrogate has no form. -/
example : utf8Flaw? [0xed, 0xa0, 0x80] = some ⟨0, some 1⟩ := by decide

end LoginThrottle
