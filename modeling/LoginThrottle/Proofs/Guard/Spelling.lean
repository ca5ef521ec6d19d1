import LoginThrottle.Proofs.Guard.Settlement
import LoginThrottle.Proofs.Station.Service

/-!
# What the lists make of a spelling

The lists see an attempt by its address and not by the text that spells it.  So two spellings of
one address are screened alike.

## Main Definitions

* `SpellAlike`: two texts spell one address, or they are one text that spells none

## Main Statements

* `Guard.screen_eq_of_spellAlike`: the lists say the same of both spellings
-/

namespace LoginThrottle

/-- Two texts spell addresses with one canonical form, or they are one text that spells none. -/
def SpellAlike (first second : String) : Prop :=
  (IpAddress.read? first).map IpAddress.canonical =
      (IpAddress.read? second).map IpAddress.canonical ∧
    (IpAddress.read? first = none → second = first)

instance (first second : String) : Decidable (SpellAlike first second) :=
  inferInstanceAs (Decidable (_ ∧ _))

namespace SpellAlike

variable {first second : String}

theorem refl (text : String) : SpellAlike text text :=
  ⟨rfl, fun _ => rfl⟩

/-- The texts are the same, or both of them spell an address. -/
theorem cases (alike : SpellAlike first second) :
    second = first ∨ ∃ one other, IpAddress.read? first = some one ∧
      IpAddress.read? second = some other ∧ one.canonical = other.canonical := by
  obtain ⟨same, unread⟩ := alike
  cases spelled : IpAddress.read? first with
  | none => exact .inl (unread spelled)
  | some one =>
      rw [spelled, Option.map_some, eq_comm, Option.map_eq_some_iff] at same
      obtain ⟨other, spelledToo, canonical_eq⟩ := same
      exact .inr ⟨one, other, rfl, spelledToo, canonical_eq.symm⟩

/-- No address is spelled by the empty text. -/
theorem eq_empty_iff (alike : SpellAlike first second) : second = "" ↔ first = "" := by
  rcases alike.cases with rfl | ⟨one, other, spelled, spelledToo, -⟩
  · exact Iff.rfl
  · exact ⟨fun empty => absurd empty (Station.ip_ne_of_read? spelledToo),
      fun empty => absurd empty (Station.ip_ne_of_read? spelled)⟩

/-- A list is asked for the address. -/
theorem isListed_eq (alike : SpellAlike first second) (store : RuleStore) (list : ListKind) :
    store.isListed second list = store.isListed first list := by
  rcases alike.cases with rfl | ⟨one, other, spelled, spelledToo, canonical_eq⟩
  · rfl
  · rw [RuleStore.isListed_eq, RuleStore.isListed_eq, spelled, spelledToo]
    simp only [canonical_eq]

end SpellAlike

/-! ### Attempts -/

theorem Identity.isAttempt_ofAttempt (ip login password : String) :
    (Identity.ofAttempt ip login password).isAttempt =
      (ip ≠ "" && login ≠ "" && password ≠ "" : Bool) := by
  have named (dimension value : String) :
      (Identity.ofAttempt ip login password).get? dimension = some value ↔
        (dimension, value) ∈ [(Dimension.ip.name, ip), (Dimension.login.name, login),
          (Dimension.password.name, password)] := by
    rw [Identity.get?_eq_some_iff, Identity.pairs_ofAttempt]
  have ipNamed := (named Dimension.ip.name ip).2 (by simp)
  have loginNamed := (named Dimension.login.name login).2 (by simp)
  have passwordNamed := (named Dimension.password.name password).2 (by simp)
  simp only [isAttempt, Dimension.all, List.all_cons, List.all_nil, Bool.and_true, ipNamed,
    loginNamed, passwordNamed, Bool.and_assoc]

namespace Guard

/-- The lists say the same of both spellings of an address. -/
theorem screen_eq_of_spellAlike (guard : Guard) {ip other : String} (alike : SpellAlike ip other)
    (login password : String) :
    guard.screen (.ofAttempt other login password) =
      guard.screen (.ofAttempt ip login password) := by
  have attempted : (Identity.ofAttempt other login password).isAttempt =
      (Identity.ofAttempt ip login password).isAttempt := by
    simp only [Identity.isAttempt_ofAttempt, ne_eq, alike.eq_empty_iff]
  have asked (between : Guard) (kind : ListKind) :
      between.checkList kind (.ofAttempt other login password) =
        between.checkList kind (.ofAttempt ip login password) := by
    rw [checkList_eq (Station.get?_ip_ofAttempt ip login password),
      checkList_eq (Station.get?_ip_ofAttempt other login password), alike.isListed_eq]
  simp only [screen, attempted, asked]

end Guard

end LoginThrottle
