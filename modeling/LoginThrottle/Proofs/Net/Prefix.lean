import LoginThrottle.Net.Network

/-!
# Addresses and networks as 128-bit prefixes

Every address stands for 128 bits and every network for the addresses that begin with
certain bits.  Networks of 32-bit addresses are prefixes of more than 96 bits.

## Main Definitions

* `AddressPrefix`: some leading bits, and `AddressPrefix.Holds` for the addresses that have them
* `IpNetwork.embed`: the prefix that a network stands for

## Main Statements

* `IpAddress.canonical_eq_canonical_iff`: canonical forms are equal when the 128 bits are
* `IpNetwork.contains_canonical_iff`: a network contains the addresses with its leading bits
-/

namespace LoginThrottle

/-- The first `length` bits of an address. -/
structure AddressPrefix where
  bits : BitVec 128
  length : Nat
  deriving DecidableEq, Repr

/-- An address begins with the bits of a prefix. -/
def AddressPrefix.Holds (leading : AddressPrefix) (address : BitVec 128) : Prop :=
  ∀ position < leading.length, leading.bits.getMsbD position = address.getMsbD position

/-- The prefix that a network stands for. -/
def IpNetwork.embed : IpNetwork → AddressPrefix
  | .v4 bits length => ⟨IpAddress.mapV4 bits, 96 + length⟩
  | .v6 bits length => ⟨bits, length⟩

/-! ### Leading bits -/

theorem getMsbD_eq_testBit_shift {width length position : Nat} (bits : BitVec width)
    (inside : position < length) (fits : length ≤ width) :
    bits.getMsbD position = (bits.toNat >>> (width - length)).testBit (length - 1 - position) := by
  rw [BitVec.getMsbD_eq_getLsbD, Nat.testBit_shiftRight, BitVec.testBit_toNat]
  have small : position < width := Nat.lt_of_lt_of_le inside fits
  have place : width - length + (length - 1 - position) = width - 1 - position := by omega
  simp [small, place]

theorem sharesLeadingBits_iff {width length : Nat} (fits : length ≤ width)
    (first second : BitVec width) :
    sharesLeadingBits length first second = true ↔
      ∀ position < length, first.getMsbD position = second.getMsbD position := by
  simp only [sharesLeadingBits, beq_iff_eq]
  constructor
  · intro same position inside
    rw [getMsbD_eq_testBit_shift first inside fits, same,
      ← getMsbD_eq_testBit_shift second inside fits]
  · intro agree
    refine Nat.eq_of_testBit_eq fun place => ?_
    by_cases inside : place < length
    · have mirrored : length - 1 - (length - 1 - place) = place := by omega
      have bit := agree (length - 1 - place) (by omega)
      rw [getMsbD_eq_testBit_shift first (by omega) fits,
        getMsbD_eq_testBit_shift second (by omega) fits, mirrored] at bit
      exact bit
    · -- Behind the leading bits there is nothing left after the shift.
      rw [Nat.testBit_shiftRight, Nat.testBit_shiftRight, BitVec.testBit_toNat,
        BitVec.testBit_toNat, BitVec.getLsbD_of_ge _ _ (by omega),
        BitVec.getLsbD_of_ge _ _ (by omega)]

/-! ### Addresses -/

namespace IpAddress

theorem toNat_mapV4 (bits : BitVec 32) :
    (mapV4 bits).toNat = 0xffff00000000 + bits.toNat := by
  have small := bits.isLt
  rw [mapV4, BitVec.toNat_ofNat, Nat.shiftLeft_eq]
  omega

@[simp] theorem mapped?_mapV4 (bits : BitVec 32) : mapped? (mapV4 bits) = some bits := by
  have small := bits.isLt
  have high : (mapV4 bits).toNat >>> 32 = 0xffff := by
    rw [toNat_mapV4, Nat.shiftRight_eq_div_pow]
    omega
  rw [mapped?, if_pos high, toNat_mapV4]
  refine congrArg some (BitVec.eq_of_toNat_eq ?_)
  rw [BitVec.toNat_ofNat]
  omega

theorem mapV4_of_mapped? {bits : BitVec 128} {short : BitVec 32}
    (mapped : mapped? bits = some short) : mapV4 short = bits := by
  rw [mapped?] at mapped
  split at mapped
  · next high =>
      simp only [Option.some.injEq] at mapped
      subst mapped
      rw [Nat.shiftRight_eq_div_pow] at high
      refine BitVec.eq_of_toNat_eq ?_
      rw [toNat_mapV4, BitVec.toNat_ofNat]
      omega
  · cases mapped

/-- The canonical form of an address stands for the same 128 bits. -/
@[simp] theorem embed_canonical (address : IpAddress) :
    address.canonical.embed = address.embed := by
  cases address with
  | v4 bits => rfl
  | v6 bits =>
      cases mapped : mapped? bits with
      | none => simp [canonical, mapped]
      | some short => simpa [canonical, mapped, embed] using mapV4_of_mapped? mapped

/-- The canonical form can be told from the 128 bits alone. -/
theorem canonical_eq_of_embed (address : IpAddress) :
    address.canonical =
      match mapped? address.embed with
      | some short => .v4 short
      | none => .v6 address.embed := by
  cases address with
  | v4 bits => simp [canonical, embed]
  | v6 bits => rfl

/-- Canonical forms are equal when the 128 bits are. -/
theorem canonical_eq_canonical_iff (first second : IpAddress) :
    first.canonical = second.canonical ↔ first.embed = second.embed := by
  constructor
  · intro same
    rw [← embed_canonical first, same, embed_canonical]
  · intro same
    rw [canonical_eq_of_embed first, canonical_eq_of_embed second, same]

/-- A canonical address of 128 bits is not a mapped one. -/
theorem mapped?_of_canonical {address : IpAddress} {bits : BitVec 128}
    (long : address.canonical = .v6 bits) : mapped? bits = none := by
  cases address with
  | v4 short => cases long
  | v6 whole =>
      cases mapped : mapped? whole with
      | none =>
          simp only [canonical, mapped, v6.injEq] at long
          exact long ▸ mapped
      | some short => simp [canonical, mapped] at long

end IpAddress

/-! ### Networks -/

namespace IpNetwork

open IpAddress

/-- Leading bits of a 32-bit address are leading bits behind the 96 that all mapped
addresses share. -/
theorem sharesLeadingBits_mapV4 {length : Nat} (fits : length ≤ 32) (first second : BitVec 32) :
    sharesLeadingBits (96 + length) (mapV4 first) (mapV4 second) =
      sharesLeadingBits length first second := by
  have split : 0xffff00000000 = 2 ^ (32 - length) * (0xffff * 2 ^ length) := by
    have whole : 2 ^ (32 - length) * 2 ^ length = 0x100000000 := by
      rw [← Nat.pow_add, Nat.sub_add_cancel fits]
    rw [Nat.mul_left_comm, whole]
  have shifted (bits : BitVec 32) :
      (mapV4 bits).toNat >>> (128 - (96 + length)) =
        0xffff * 2 ^ length + bits.toNat >>> (32 - length) := by
    have rest : 128 - (96 + length) = 32 - length := by omega
    rw [rest, toNat_mapV4, Nat.shiftRight_eq_div_pow, Nat.shiftRight_eq_div_pow, split,
      Nat.mul_add_div (Nat.two_pow_pos _)]
  simp only [sharesLeadingBits, shifted]
  rw [Bool.eq_iff_iff]
  simp

/-- An address that agrees with a mapped one on the first 96 bits is mapped itself. -/
theorem mapped?_of_sharesLeadingBits {length : Nat} (fits : length ≤ 32) {bits : BitVec 32}
    {address : BitVec 128} (agree : sharesLeadingBits (96 + length) (mapV4 bits) address = true) :
    ∃ short, mapped? address = some short := by
  have small := bits.isLt
  have rest : 128 - (96 + length) + length = 32 := by omega
  simp only [sharesLeadingBits, beq_iff_eq] at agree
  have high : address.toNat >>> 32 = 0xffff := by
    rw [← rest, Nat.shiftRight_add, ← agree, ← Nat.shiftRight_add, rest, toNat_mapV4,
      Nat.shiftRight_eq_div_pow]
    omega
  exact ⟨_, if_pos high⟩

/-- A network contains the addresses with its leading bits. -/
theorem contains_canonical_iff (network : IpNetwork) (address : IpAddress) :
    network.contains address.canonical = true ↔ network.embed.Holds address.embed := by
  cases network with
  | v6 bits length =>
      rw [contains, embed_canonical]
      exact sharesLeadingBits_iff (by omega) bits address.embed
  | v4 bits length =>
      have fits : (length : Nat) ≤ 32 := by omega
      rw [AddressPrefix.Holds, embed,
        ← sharesLeadingBits_iff (by omega : 96 + (length : Nat) ≤ 128), ← embed_canonical address]
      cases form : address.canonical with
      | v4 short => rw [contains, IpAddress.embed, sharesLeadingBits_mapV4 fits]
      | v6 whole =>
          simp only [contains, IpAddress.embed, Bool.false_eq_true, false_iff]
          intro agree
          obtain ⟨short, mapped⟩ := mapped?_of_sharesLeadingBits fits agree
          rw [mapped?_of_canonical form] at mapped
          cases mapped

end IpNetwork

end LoginThrottle
