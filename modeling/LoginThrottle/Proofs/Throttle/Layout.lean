import LoginThrottle.Proofs.Throttle.Upkeep

/-!
# The layout of a throttle

Once a throttle has its meters, nothing that can happen to it adds or removes one, changes a
capacity or fetches limits again.

## Main Definitions

* `Throttle.capacityAt?`: the capacity of the meter of a dimension
* `Throttle.LaidOut`: the meters are made, with these capacities and from this store

## Main Statements

* `Throttle.mem_dimensions_iff`: the dimensions served are those with a capacity
* `Throttle.capacityAt?_adopt`: what the capacities are when the meters are made
* `Throttle.Move.laidOut`, `Throttle.laidOut_of_evict`, `Throttle.laidOut_of_withdraw`: the
  layout stays
-/

namespace LoginThrottle

namespace Throttle

/-- The capacity of the meter of a dimension. -/
def capacityAt? (throttle : Throttle) (dimension : String) : Option Nat :=
  (throttle.currentMeters.find? dimension).map Meter.capacity

/-- The meters are made, with these capacities, and the store is as it is given. -/
structure LaidOut (throttle : Throttle) (store : LimitStore) (capacity : String → Option Nat) :
    Prop where
  made : throttle.meters ≠ none
  store_eq : throttle.store = store
  capacityAt?_eq : ∀ dimension, throttle.capacityAt? dimension = capacity dimension

variable {now : Instant} {throttle first second : Throttle} {deeds : List Deed}
  {store : LimitStore} {capacity : String → Option Nat} {key : String}

/-- A throttle with meters is laid out as it is. -/
theorem laidOut_self (made : throttle.meters ≠ none) :
    throttle.LaidOut throttle.store throttle.capacityAt? :=
  ⟨made, rfl, fun _ => rfl⟩

/-- The dimensions served are those with a capacity. -/
theorem mem_dimensions_iff {dimension : String} :
    dimension ∈ throttle.dimensions ↔ throttle.capacityAt? dimension ≠ none := by
  rw [capacityAt?, Ne, Option.map_eq_none_iff, ← Ne, Option.ne_none_iff_exists']
  constructor
  · intro member
    obtain ⟨⟨name, meter⟩, entry, rfl⟩ := List.mem_map.1 member
    exact ⟨meter, Keyed.find?_eq_some_iff.2 entry⟩
  · rintro ⟨meter, served⟩
    exact List.mem_map.2 ⟨_, Keyed.find?_eq_some_iff.1 served, rfl⟩

theorem capacityAt?_withMeter {dimension : String} {meter : Meter}
    (served : throttle.currentMeters.find? dimension = some meter) {changed : Meter}
    (capacity_eq : changed.capacity = meter.capacity) (name : String) :
    (throttle.withMeter dimension changed).capacityAt? name = throttle.capacityAt? name := by
  rw [capacityAt?, capacityAt?, find?_withMeter]
  split
  · next same =>
      subst same
      rw [served, Option.map_some, Option.map_some, capacity_eq]
  · rfl

/-! ### The layout when the meters are made -/

/-- Meters that are made have the capacities of the last limits of the dimensions asked for. -/
theorem capacityAt?_adopt (throttle : Throttle) (dimensions : List String) (dimension : String) :
    { throttle with
        meters := some (metersOf throttle.rate throttle.cost
          (Limit.select throttle.store.limits dimensions)) : Throttle }.capacityAt? dimension =
      if dimension ∈ dimensions then Limit.capacityOf? throttle.store.limits dimension
      else none := by
  rw [capacityAt?, currentMeters, Option.getD_some, find?_metersOf, Limit.capacityOf?_select]
  simp only [Option.map_map, Function.comp_def]
  exact Option.map_id'

/-! ### The layout stays -/

theorem Move.laidOut (move : Move now first deeds second) (laidOut : first.LaidOut store capacity) :
    second.LaidOut store capacity := by
  obtain ⟨made, store_eq, capacityAt?_eq⟩ := laidOut
  cases move with
  | fetch unmade => exact absurd unmade made
  | adopt unmade dimensions => exact absurd unmade made
  | price cost =>
      refine ⟨?_, store_eq, fun dimension => ?_⟩
      · exact fun unmade => made (Option.map_eq_none_iff.1 unmade)
      · rw [← capacityAt?_eq, capacityAt?, capacityAt?, find?_setCost, Option.map_map]
        rfl
  | @touch dimension meter served value effect held touch =>
      refine ⟨Option.some_ne_none _, store_eq, fun name => ?_⟩
      rw [capacityAt?_withMeter served (meter.capacity_withBucket value held), capacityAt?_eq]
  | refuse => exact ⟨made, store_eq, capacityAt?_eq⟩

theorem Moves.laidOut (moves : Moves now first deeds second)
    (laidOut : first.LaidOut store capacity) : second.LaidOut store capacity :=
  moves.preserves (fun throttle => throttle.LaidOut store capacity)
    (fun move holds => move.laidOut holds) laidOut

theorem laidOut_of_evict (evicted : first.evict key = .ok second)
    (laidOut : first.LaidOut store capacity) : second.LaidOut store capacity := by
  obtain ⟨dimension, value, meter, -, served, rfl⟩ := exists_of_evict evicted
  refine ⟨Option.some_ne_none _, laidOut.store_eq, fun name => ?_⟩
  rw [capacityAt?_withMeter served (meter.capacity_withBucket value none), laidOut.capacityAt?_eq]

theorem laidOut_of_withdraw {cost : Nat}
    (adjusted : first.adjustBucket key (fun bucket => bucket.withdraw cost) = some second)
    (laidOut : first.LaidOut store capacity) : second.LaidOut store capacity := by
  obtain ⟨chosen, rfl⟩ := exists_of_adjustBucket adjusted
  obtain ⟨made, store_eq, capacityAt?_eq⟩ := laidOut
  obtain ⟨meters, filed⟩ := Option.ne_none_iff_exists'.1 made
  refine ⟨?_, store_eq, fun dimension => ?_⟩
  · rw [filed]
    exact Option.some_ne_none _
  · rw [← capacityAt?_eq, capacityAt?, capacityAt?, currentMeters, currentMeters, filed,
      Option.map_some, Option.getD_some, Option.getD_some, Keyed.find?_mapEntries, Option.map_map]
    rfl

end Throttle

end LoginThrottle
