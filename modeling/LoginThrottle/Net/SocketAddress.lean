import LoginThrottle.Net.Address

/-!
# Socket addresses

An address with a port, as servers listen on and clients call from.

## Main Definitions

* `SocketAddress`: address, port and the scope of a 128-bit address
* `SocketAddress.read?`: the socket address that a text spells
* `SocketAddress.render`: its spelling
-/

namespace LoginThrottle

/-- An address with a port. Only 128-bit addresses have a scope other than zero. -/
structure SocketAddress where
  ip : IpAddress
  port : Nat
  scope : Nat
  deriving DecidableEq, Repr, Inhabited

namespace SocketAddress

/-- A socket address without scope. -/
def plain (ip : IpAddress) (port : Nat) : SocketAddress :=
  ⟨ip, port, 0⟩

/-- How a port is written. -/
def portStyle : NumeralStyle where
  radix := 10
  maxDigits := none
  leadingZeros := true
  bound := 0x10000

/-- How a scope is written. -/
def scopeStyle : NumeralStyle where
  radix := 10
  maxDigits := none
  leadingZeros := true
  bound := 0x100000000

/-- Reads a colon and a port to the end of a text. -/
def readPort? (text : List Char) : Option Nat :=
  (afterChar? ':' text).bind portStyle.readWhole?

/-- Reads a scope at the front of a text, zero if there is none. -/
def readScope (text : List Char) : Nat × List Char :=
  match (afterChar? '%' text).bind scopeStyle.read? with
  | some (scope, rest) => (scope, rest)
  | none => (0, text)

/-- The socket address that a text spells: `address:port`, with brackets around a
128-bit address and its scope. -/
def read? (text : String) : Option SocketAddress :=
  match IpAddress.readV4? .plain text.toList with
  | some (bits, rest) => (readPort? rest).map (plain (.v4 bits))
  | none => do
    let inner ← afterChar? '[' text.toList
    let (bits, rest) ← IpAddress.readV6? .plain inner
    let (scope, rest) := readScope rest
    let rest ← afterChar? ']' rest
    let port ← readPort? rest
    return ⟨.v6 bits, port, scope⟩

/-- The spelling of a socket address. -/
def render (address : SocketAddress) : String :=
  match address.ip with
  | .v4 bits => IpAddress.renderV4 bits ++ ":" ++ renderNat address.port
  | .v6 bits =>
    let scope := if address.scope = 0 then "" else "%" ++ renderNat address.scope
    "[" ++ IpAddress.renderV6 bits ++ scope ++ "]:" ++ renderNat address.port

/-- Whether a server on this host can listen there: the address is a loopback address
or stands for all addresses of the host. -/
def isLocal (address : SocketAddress) : Bool :=
  match address.ip with
  | .v4 bits => bits.toNat == 0 || bits.toNat >>> 24 == 127
  | .v6 bits => bits.toNat ≤ 1

end SocketAddress

end LoginThrottle
