import LoginThrottle.Net.SocketAddress
import LoginThrottle.Proofs.Net.ReadBack

/-!
# Socket addresses that are read back

The spelling of a socket address spells that socket address and no other.

## Main Definitions

* `SocketAddress.IsProper`: port and scope are within their bounds

## Main Statements

* `SocketAddress.read?_render`: proper socket addresses are read back
* `SocketAddress.isProper_of_read?`: whatever is read is proper
-/

namespace LoginThrottle

namespace SocketAddress

open IpAddress

/-- Port and scope are within their bounds, and a 32-bit address has no scope. -/
structure IsProper (address : SocketAddress) : Prop where
  port_lt : address.port < 0x10000
  scope_lt : address.scope < 0x100000000
  unscoped : ∀ bits, address.ip = .v4 bits → address.scope = 0

theorem toList_renderNat (value : Nat) : (renderNat value).toList = Nat.toDigits 10 value :=
  String.toList_ofList

/-- The spelling of a socket address is not empty, since it has a colon before the port. -/
theorem render_ne_empty (address : SocketAddress) : address.render ≠ "" := by
  rw [Ne, ← String.toList_eq_nil_iff, render]
  cases address.ip with
  | v4 bits => simp
  | v6 bits => simp

theorem readPort?_renderNat {port : Nat} (small : port < 0x10000) :
    readPort? (':' :: Nat.toDigits 10 port) = some port := by
  refine NumeralStyle.readWhole?_toDigits (by decide) (by decide) ?_ small
  rintro _ ⟨⟩

/-- The scope as it stands behind an address. -/
def scopeText (scope : Nat) : List Char :=
  if scope = 0 then [] else '%' :: Nat.toDigits 10 scope

/-- A scope is read back from behind an address. -/
theorem readScope_scopeText {scope : Nat} (small : scope < 0x100000000) (behind : List Char) :
    readScope (scopeText scope ++ ']' :: behind) = (scope, ']' :: behind) := by
  unfold scopeText
  split
  · next unscoped =>
      rw [unscoped]
      rfl
  · have found : scopeStyle.read? (Nat.toDigits 10 scope ++ ']' :: behind) =
        some (scope, ']' :: behind) := by
      refine NumeralStyle.read?_toDigits (by decide) (by decide) ?_ small
        (endsNumeral_cons (by decide) behind)
      rintro _ ⟨⟩
    simp [readScope, afterChar?, found]

/-- Nothing behind an address might belong to it. -/
theorem endsAddress_scopeText (scope port : Nat) :
    EndsAddress (scopeText scope ++ ']' :: ':' :: Nat.toDigits 10 port) := by
  have undotted (value : Nat) : '.' ∉ Nat.toDigits 10 value :=
    notMem_toDigits (by decide) (by decide) (by decide) value
  unfold scopeText
  split
  · refine ⟨?_, endsNumeral_cons (by decide) _, rfl⟩
    simp [undotted]
  · refine ⟨?_, endsNumeral_cons (by decide) _, rfl⟩
    simp [undotted]

/-- The spelling of a proper socket address is read back. -/
theorem read?_render {address : SocketAddress} (proper : address.IsProper) :
    read? address.render = some address := by
  obtain ⟨ip, port, scope⟩ := address
  obtain ⟨port_lt, scope_lt, unscoped⟩ := proper
  have portRead := readPort?_renderNat port_lt
  cases ip with
  | v4 bits =>
      obtain rfl : scope = 0 := unscoped bits rfl
      have text : (render ⟨.v4 bits, port, 0⟩).toList =
          (renderV4 bits).toList ++ ':' :: Nat.toDigits 10 port := by
        simp [render, toList_renderNat]
      have ends : EndsNumeral 10 (':' :: Nat.toDigits 10 port) := endsNumeral_cons (by decide) _
      have found := readV4?_renderV4 bits ends
      rw [read?, text, found]
      exact congrArg (Option.map (plain (.v4 bits))) portRead
  | v6 bits =>
      have text : (render ⟨.v6 bits, port, scope⟩).toList =
          '[' :: ((renderV6 bits).toList ++
            (scopeText scope ++ ']' :: ':' :: Nat.toDigits 10 port)) := by
        unfold render scopeText
        by_cases unscoped : scope = 0 <;> simp [unscoped, toList_renderNat]
      have bracket : readV4? .plain ('[' :: ((renderV6 bits).toList ++
          (scopeText scope ++ ']' :: ':' :: Nat.toDigits 10 port))) = none :=
        readV4?_of_endsNumeral (endsNumeral_cons (by decide) _)
      have found := readV6?_renderV6 bits (endsAddress_scopeText scope port)
      rw [read?, text, bracket]
      simp [afterChar?, found, readScope_scopeText scope_lt, portRead]

theorem port_lt_of_readPort? {text : List Char} {port : Nat} (found : readPort? text = some port) :
    port < 0x10000 := by
  obtain ⟨rest, -, read⟩ := Option.bind_eq_some_iff.1 found
  exact NumeralStyle.lt_of_readWhole? read

theorem scope_lt_of_readScope (text : List Char) : (readScope text).1 < 0x100000000 := by
  unfold readScope
  split
  · next scope rest found =>
      obtain ⟨behind, -, read⟩ := Option.bind_eq_some_iff.1 found
      exact NumeralStyle.lt_of_read? read
  · exact (by decide : 0 < 0x100000000)

/-- Whatever is read is proper. -/
theorem isProper_of_read? {text : String} {address : SocketAddress}
    (found : read? text = some address) : address.IsProper := by
  rw [read?] at found
  split at found
  · next bits rest _ =>
      obtain ⟨port, portFound, rfl⟩ := Option.map_eq_some_iff.1 found
      exact ⟨port_lt_of_readPort? portFound, (by decide : 0 < 0x100000000), fun _ _ => rfl⟩
  · simp only [Option.bind_eq_bind, Option.bind_eq_some_iff, Option.pure_def, Option.some.injEq]
      at found
    obtain ⟨inner, -, ⟨bits, rest⟩, -, behind, -, port, portFound, rfl⟩ := found
    refine ⟨port_lt_of_readPort? portFound, scope_lt_of_readScope rest, ?_⟩
    intro short same
    cases same

end SocketAddress

end LoginThrottle
