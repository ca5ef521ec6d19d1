import LoginThrottle.Net.Address

/-!
# Networks and address sets

A network is all addresses that agree on their first bits. A rule names either one
address or a network.

## Main Definitions

* `IpNetwork`: an address of the network and the length of the common part
* `IpNetwork.contains`: whether an address lies in a network
* `AddressSet`: one address or one network
* `AddressSet.read?`: the set that a text spells
* `AddressSet.covers`: whether an address belongs to a set

## Design Notes

The bits of a network address behind its common part are ignored, so `10.0.0.7/24`
and `10.0.0.0/24` are the same set of addresses.
-/

namespace LoginThrottle

/-- A network: an address that lies in it and the number of leading bits that all its
addresses share. -/
inductive IpNetwork
  | v4 (bits : BitVec 32) (length : Fin 33)
  | v6 (bits : BitVec 128) (length : Fin 129)
  deriving DecidableEq, Repr

/-- Whether two words agree on their first `length` bits. -/
def sharesLeadingBits {width : Nat} (length : Nat) (first second : BitVec width) : Bool :=
  first.toNat >>> (width - length) == second.toNat >>> (width - length)

namespace IpNetwork

/-- How a prefix length below `bound` is written. -/
def lengthStyle (digits bound : Nat) : NumeralStyle where
  radix := 10
  maxDigits := some digits
  leadingZeros := true
  bound := bound

/-- Reads a slash and a prefix length below `bound` to the end of a text. -/
def readLength? (digits bound : Nat) (text : List Char) : Option (Fin bound) := do
  let text ← afterChar? '/' text
  let length ← (lengthStyle digits bound).readWhole? text
  if small : length < bound then some ⟨length, small⟩ else none

/-- The network that a text spells. -/
def read? (text : String) : Option IpNetwork :=
  match IpAddress.readFront? .ofNetwork text.toList with
  | none => none
  | some (.v4 bits, rest) => (readLength? 2 33 rest).map (.v4 bits)
  | some (.v6 bits, rest) => (readLength? 3 129 rest).map (.v6 bits)

/-- Whether an address lies in a network. An address of 32 bits lies in a 128-bit
network when the address that stands for it does. -/
def contains : IpNetwork → IpAddress → Bool
  | .v4 bits length, .v4 address => sharesLeadingBits length bits address
  | .v4 _ _, .v6 _ => false
  | .v6 bits length, address => sharesLeadingBits length bits address.embed

end IpNetwork

/-- What a rule is about: one address or one network. -/
inductive AddressSet
  | single (address : IpAddress)
  | network (block : IpNetwork)
  deriving DecidableEq, Repr

namespace AddressSet

/-- The address or else the network that a text spells. -/
def read? (text : String) : Option AddressSet :=
  match IpAddress.read? text with
  | some address => some (.single address)
  | none => (IpNetwork.read? text).map .network

/-- Whether a canonical address belongs to the set. -/
def covers : AddressSet → IpAddress → Bool
  | .single address, canonical => address.canonical == canonical
  | .network block, canonical => block.contains canonical

end AddressSet

end LoginThrottle
