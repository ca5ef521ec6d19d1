import LoginThrottle.Net.Numeral

/-!
# Network addresses

Addresses of the two families of the Internet Protocol: what they are, how they are
spelled and when two of them mean the same host.

## Main Definitions

* `IpAddress`: an address of 32 or of 128 bits
* `IpAddress.canonical`: the short form of an address that exists in both families
* `IpAddress.read?`: the address that a text spells
* `IpAddress.render`: the preferred spelling of an address
* `AddressSpelling`: what addresses on their own and addresses of networks allow

## Design Notes

The reader takes a record of the two points in which spellings differ from place to
place: whether octets may have leading zeros, and whether `::` may stand for no
group at all.
-/

namespace LoginThrottle

/-- An address of the Internet Protocol. -/
inductive IpAddress
  | v4 (bits : BitVec 32)
  | v6 (bits : BitVec 128)
  deriving DecidableEq, Repr, Inhabited

/-- The points in which spellings of addresses differ from place to place. -/
structure AddressSpelling where
  /-- Whether an octet may have zeros in front of other digits. -/
  octetLeadingZeros : Bool
  /-- Whether `::` may stand for no group at all. -/
  emptyGap : Bool

namespace AddressSpelling

/-- How an address on its own is spelled. -/
def plain : AddressSpelling := ⟨false, false⟩

/-- How the address of a network is spelled. -/
def ofNetwork : AddressSpelling := ⟨true, true⟩

/-- One of the four numbers of a 32-bit address. -/
def octet (spelling : AddressSpelling) : NumeralStyle where
  radix := 10
  maxDigits := some 3
  leadingZeros := spelling.octetLeadingZeros
  bound := 256

/-- One of the eight groups of a 128-bit address. -/
def group : NumeralStyle where
  radix := 16
  maxDigits := some 4
  leadingZeros := true
  bound := 65536

end AddressSpelling

/-- What follows a character that a text must start with. -/
def afterChar? (expected : Char) : List Char → Option (List Char)
  | [] => none
  | character :: rest => if character = expected then some rest else none

/-- The number that big-endian digits of a large radix stand for, as bits. -/
def packBits (width radix : Nat) (parts : List Nat) : BitVec width :=
  BitVec.ofNat width (ofDigits radix parts)

namespace IpAddress

/-! ### Addresses of 32 bits -/

/-- Reads octets that are separated by periods. -/
def readOctets? (spelling : AddressSpelling) : Nat → List Char → Option (List Nat × List Char)
  | 0, text => some ([], text)
  | more + 1, text => do
    let (octet, text) ← spelling.octet.read? text
    let text ← if more = 0 then some text else afterChar? '.' text
    let (octets, text) ← readOctets? spelling more text
    return (octet :: octets, text)

/-- Reads a 32-bit address at the front of a text. -/
def readV4? (spelling : AddressSpelling) (text : List Char) :
    Option (BitVec 32 × List Char) := do
  let (octets, text) ← readOctets? spelling 4 text
  return (packBits 32 256 octets, text)

/-- The four octets of a 32-bit address. -/
def octets (bits : BitVec 32) : List Nat :=
  [24, 16, 8, 0].map fun shift => (bits.toNat >>> shift) % 256

/-- A 32-bit address in dotted decimal. -/
def renderV4 (bits : BitVec 32) : String :=
  ".".intercalate ((octets bits).map renderNat)

/-! ### Addresses of 128 bits -/

/-- Some consecutive groups of a 128-bit address. -/
structure Groups where
  values : List Nat
  /-- Whether the last two groups were spelled as a 32-bit address. -/
  dotted : Bool
  rest : List Char

/-- What follows the separator in front of a group. The first group has none. -/
def afterSeparator? (first : Bool) (text : List Char) : Option (List Char) :=
  if first then some text else afterChar? ':' text

/-- Reads up to `limit` groups. The last two may be spelled as a 32-bit address, which
ends the run. -/
def readGroups (spelling : AddressSpelling) : Nat → Bool → List Char → Groups
  | 0, _, text => ⟨[], false, text⟩
  | limit + 1, first, text =>
    let dotted :=
      if limit = 0 then none
      else (afterSeparator? first text).bind (readV4? spelling)
    match dotted with
    | some (bits, rest) => ⟨[bits.toNat / 65536, bits.toNat % 65536], true, rest⟩
    | none =>
      match (afterSeparator? first text).bind AddressSpelling.group.read? with
      | none => ⟨[], false, text⟩
      | some (value, rest) =>
        let later := readGroups spelling limit false rest
        { later with values := value :: later.values }

/-- The number of groups of a 128-bit address. -/
def groupCount : Nat := 8

/-- Reads a 128-bit address at the front of a text. A `::` stands for the groups of
zeros that are missing, and no dotted part may stand before it. -/
def readV6? (spelling : AddressSpelling) (text : List Char) :
    Option (BitVec 128 × List Char) :=
  let head := readGroups spelling groupCount true text
  if head.values.length = groupCount then
    some (packBits 128 65536 head.values, head.rest)
  else if head.dotted then
    none
  else do
    let text ← afterChar? ':' head.rest
    let text ← afterChar? ':' text
    let missing := groupCount - head.values.length
    let tail := readGroups spelling (if spelling.emptyGap then missing else missing - 1) true text
    let gap := List.replicate (missing - tail.values.length) 0
    return (packBits 128 65536 (head.values ++ gap ++ tail.values), tail.rest)

/-- The eight groups of a 128-bit address. -/
def groups (bits : BitVec 128) : List Nat :=
  [112, 96, 80, 64, 48, 32, 16, 0].map fun shift => (bits.toNat >>> shift) % 65536

/-- The 32-bit address that a 128-bit address stands for, if its first 96 bits say
that it stands for one. -/
def mapped? (bits : BitVec 128) : Option (BitVec 32) :=
  if bits.toNat >>> 32 = 0xffff then some (BitVec.ofNat 32 bits.toNat) else none

/-- The 128-bit address that stands for a 32-bit address. -/
def mapV4 (bits : BitVec 32) : BitVec 128 :=
  BitVec.ofNat 128 ((0xffff <<< 32) + bits.toNat)

/-- The length of the run of zeros at the front of a list. -/
def zeroRun : List Nat → Nat
  | 0 :: rest => zeroRun rest + 1
  | _ => 0

/-- Start and length of the first longest run of zeros, from position `start` on. -/
def longestZeroRun (start : Nat) : List Nat → Nat × Nat
  | [] => (start, 0)
  | value :: rest =>
    let here := zeroRun (value :: rest)
    let later := longestZeroRun (start + 1) rest
    if here < later.2 then later else (start, here)

/-- Groups in hexadecimal, separated by colons. -/
def renderGroups (values : List Nat) : String :=
  ":".intercalate (values.map renderHex)

/-- A 128-bit address: dotted at the end if it stands for a 32-bit address, else with
`::` for the first longest run of at least two groups of zeros. -/
def renderV6 (bits : BitVec 128) : String :=
  match mapped? bits with
  | some short => "::ffff:" ++ renderV4 short
  | none =>
    let values := groups bits
    let (start, length) := longestZeroRun 0 values
    if 1 < length then
      renderGroups (values.take start) ++ "::" ++ renderGroups (values.drop (start + length))
    else
      renderGroups values

/-! ### Either family -/

/-- Reads an address at the front of a text. -/
def readFront? (spelling : AddressSpelling) (text : List Char) :
    Option (IpAddress × List Char) :=
  match readV4? spelling text with
  | some (bits, rest) => some (.v4 bits, rest)
  | none => (readV6? spelling text).map fun (bits, rest) => (.v6 bits, rest)

/-- The address that a text spells. -/
def read? (text : String) : Option IpAddress :=
  match readFront? .plain text.toList with
  | some (address, []) => some address
  | _ => none

/-- The preferred spelling of an address. -/
def render : IpAddress → String
  | .v4 bits => renderV4 bits
  | .v6 bits => renderV6 bits

/-- The address itself, or the 32-bit address that it stands for. Two addresses mean
the same host when their canonical forms are equal. -/
def canonical : IpAddress → IpAddress
  | .v4 bits => .v4 bits
  | .v6 bits =>
    match mapped? bits with
    | some short => .v4 short
    | none => .v6 bits

/-- The address as 128 bits, with 32-bit addresses standing where they are mapped. -/
def embed : IpAddress → BitVec 128
  | .v4 bits => mapV4 bits
  | .v6 bits => bits

end IpAddress

end LoginThrottle
