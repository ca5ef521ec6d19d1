import LoginThrottle.Fault

/-!
# Limits and where they are kept

A limit sets the bucket capacity of one dimension. A limit store keeps a list of
them and can be asked for those of some dimensions.

## Main Definitions

* `Limit`: a capacity per dimension
* `LimitStore`: the stored limits and how often they were fetched
* `LimitStore.fetch`: the stored limits of some dimensions, in stored order
-/

namespace LoginThrottle

/-- The bucket capacity of one dimension. -/
structure Limit where
  dimension : String
  capacity : Nat
  description : Option String
  deriving DecidableEq, Repr, Inhabited

/-- A limit without a description. -/
def Limit.plain (dimension : String) (capacity : Nat) : Limit :=
  ⟨dimension, capacity, none⟩

/-- The stored limits of the given dimensions, in stored order. -/
def Limit.select (limits : List Limit) (dimensions : List String) : List Limit :=
  limits.filter fun limit => dimensions.contains limit.dimension

/-- A store of limits. The fetch with number `n`, counted from zero, fails when
`outage n` holds. -/
structure LimitStore where
  limits : List Limit
  outage : Nat → Bool
  fetches : Nat

namespace LimitStore

/-- A store that never fails. -/
def reliable (limits : List Limit) : LimitStore where
  limits := limits
  outage := fun _ => false
  fetches := 0

/-- A store whose first fetches fail. -/
def failingAtFirst (limits : List Limit) (failures : Nat) : LimitStore where
  limits := limits
  outage := fun fetch => decide (fetch < failures)
  fetches := 0

/-- The answer to the next fetch. -/
def answer (store : LimitStore) (dimensions : List String) : Except Fault (List Limit) :=
  if store.outage store.fetches then
    .error (.storage "fetch failed")
  else
    .ok (Limit.select store.limits dimensions)

/-- The store after one more fetch. -/
def counted (store : LimitStore) : LimitStore :=
  { store with fetches := store.fetches + 1 }

/-- Fetches the limits of some dimensions. -/
def fetch (store : LimitStore) (dimensions : List String) :
    Except Fault (List Limit) × LimitStore :=
  (store.answer dimensions, store.counted)

end LimitStore

end LoginThrottle
