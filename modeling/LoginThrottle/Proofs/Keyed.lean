import LoginThrottle.Keyed

/-!
# Looking things up

Keys are distinct, so a look-up finds exactly the entries of a collection.

## Main Definitions

* `Keyed.dropping`: a collection without the entries of some keys

## Main Statements

* `Keyed.find?_eq_some_iff`: a value is found under a key exactly if the two are an entry
* `Keyed.find?_ofPairs`: what is filed first is found last
* `Keyed.entries_ofPairs`: pairs with distinct keys are filed as they stand
-/

namespace LoginThrottle

namespace Keyed

variable {Value : Type}

/-! ### On plain lists of entries -/

theorem mem_of_findEntry {key : String} {value : Value} {entries : List (String × Value)}
    (found : findEntry key entries = some value) : (key, value) ∈ entries := by
  induction entries with
  | nil => cases found
  | cons entry rest inductionHypothesis =>
      obtain ⟨name, old⟩ := entry
      unfold findEntry at found
      split at found
      · next same =>
          subst same
          rw [Option.some.inj found]
          exact List.mem_cons_self
      · exact List.mem_cons_of_mem _ (inductionHypothesis found)

theorem findEntry_of_mem {key : String} {value : Value} {entries : List (String × Value)}
    (distinct : (entries.map Prod.fst).Nodup) (member : (key, value) ∈ entries) :
    findEntry key entries = some value := by
  induction entries with
  | nil => cases member
  | cons entry rest inductionHypothesis =>
      obtain ⟨name, old⟩ := entry
      rw [List.map_cons, List.nodup_cons] at distinct
      rcases List.mem_cons.1 member with same | later
      · obtain ⟨rfl, rfl⟩ := Prod.mk.inj same
        simp [findEntry]
      · have different : name ≠ key := fun same =>
          distinct.1 (List.mem_map.2 ⟨_, later, same.symm⟩)
        rw [findEntry, if_neg different]
        exact inductionHypothesis distinct.2 later

theorem putEntry_of_findEntry {key : String} {value : Value} {entries : List (String × Value)}
    (found : findEntry key entries = some value) : putEntry key value entries = entries := by
  induction entries with
  | nil => cases found
  | cons entry rest inductionHypothesis =>
      obtain ⟨name, old⟩ := entry
      unfold findEntry at found
      split at found
      · next same => rw [putEntry, if_pos same, Option.some.inj found]
      · next different => rw [putEntry, if_neg different, inductionHypothesis found]

/-- What is filed under a known key takes the place of what was there. -/
theorem putEntry_of_mem {key : String} {entries : List (String × Value)}
    (distinct : (entries.map Prod.fst).Nodup) (known : key ∈ entries.map Prod.fst)
    (value : Value) :
    putEntry key value entries =
      entries.map fun entry => (entry.1, if entry.1 = key then value else entry.2) := by
  induction entries with
  | nil => cases known
  | cons entry rest inductionHypothesis =>
      obtain ⟨name, old⟩ := entry
      rw [List.map_cons, List.nodup_cons] at distinct
      rw [putEntry, List.map_cons]
      by_cases same : name = key
      · have others (later : String × Value) (member : later ∈ rest) :
            (later.1, if later.1 = key then value else later.2) = later := by
          have different : later.1 ≠ key := fun equal =>
            distinct.1 (List.mem_map.2 ⟨later, member, equal.trans same.symm⟩)
          rw [if_neg different]
        rw [if_pos same, if_pos same, (List.map_congr_left others).trans (List.map_id' rest)]
      · have knownLater : key ∈ rest.map Prod.fst :=
          (List.mem_cons.1 known).resolve_left fun equal => same equal.symm
        rw [if_neg same, if_neg same, inductionHypothesis distinct.2 knownLater]

theorem putEntry_of_not_mem {key : String} {entries : List (String × Value)}
    (unknown : key ∉ entries.map Prod.fst) (value : Value) :
    putEntry key value entries = entries ++ [(key, value)] := by
  induction entries with
  | nil => rfl
  | cons entry rest inductionHypothesis =>
      obtain ⟨name, old⟩ := entry
      rw [List.map_cons, List.mem_cons, not_or] at unknown
      have different : ¬ name = key := fun same => unknown.1 same.symm
      rw [putEntry, if_neg different, inductionHypothesis unknown.2, List.cons_append]

/-! ### The collection -/

/-- A value is found under a key exactly if the two are an entry. -/
theorem find?_eq_some_iff {collection : Keyed Value} {key : String} {value : Value} :
    collection.find? key = some value ↔ (key, value) ∈ collection.entries :=
  ⟨mem_of_findEntry, findEntry_of_mem collection.distinct⟩

/-- Filing what is already there changes nothing. -/
theorem put_of_find? {collection : Keyed Value} {key : String} {value : Value}
    (found : collection.find? key = some value) : collection.put key value = collection :=
  ext (putEntry_of_findEntry found)

/-- What is filed under a known key takes the place of what was there. -/
theorem put_eq_mapEntries {collection : Keyed Value} {key : String} {old : Value}
    (found : collection.find? key = some old) (value : Value) :
    collection.put key value =
      collection.mapEntries fun name held => if name = key then value else held :=
  ext (putEntry_of_mem collection.distinct
    (List.mem_map.2 ⟨(key, old), find?_eq_some_iff.1 found, rfl⟩) value)

theorem mapEntries_congr {Other : Type} {collection : Keyed Value}
    {change other : String → Value → Other}
    (same : ∀ key value, collection.find? key = some value → change key value = other key value) :
    collection.mapEntries change = collection.mapEntries other := by
  refine ext (List.map_congr_left fun entry member => ?_)
  exact congrArg (Prod.mk entry.1) (same entry.1 entry.2 (find?_eq_some_iff.2 member))

theorem mapEntries_id (collection : Keyed Value) :
    collection.mapEntries (fun _ value => value) = collection :=
  ext (List.map_id' collection.entries)

theorem mapEntries_mapEntries {Other Another : Type} (collection : Keyed Value)
    (first : String → Value → Other) (second : String → Other → Another) :
    (collection.mapEntries first).mapEntries second =
      collection.mapEntries fun key value => second key (first key value) := by
  refine ext ?_
  simp [mapEntries]

/-! ### Entries that are dropped -/

/-- The collection without the entries of some keys. -/
def dropping (collection : Keyed Value) (drops : String → Bool) : Keyed Value where
  entries := collection.entries.filter fun entry => !drops entry.1
  distinct := (List.filter_sublist.map Prod.fst).nodup collection.distinct

theorem find?_dropping (collection : Keyed Value) (drops : String → Bool) (key : String) :
    (collection.dropping drops).find? key =
      if drops key then none else collection.find? key := by
  refine Option.ext fun value => ?_
  rw [find?_eq_some_iff, dropping, List.mem_filter]
  cases dropped : drops key with
  | true => simp
  | false => simp [find?_eq_some_iff]

theorem erase_eq_dropping (collection : Keyed Value) (key : String) :
    collection.erase key = collection.dropping fun name => decide (name = key) := by
  refine ext (List.filter_congr fun entry _ => ?_)
  exact decide_not

theorem dropping_of_none {collection : Keyed Value} {drops : String → Bool}
    (none : ∀ key, drops key = false) : collection.dropping drops = collection :=
  ext (List.filter_eq_self.2 fun entry _ => by rw [none, Bool.not_false])

theorem dropping_dropping (collection : Keyed Value) (first second : String → Bool) :
    (collection.dropping first).dropping second =
      collection.dropping fun key => first key || second key := by
  refine ext ?_
  simp only [dropping, List.filter_filter, Bool.not_or, Bool.and_comm]

/-- Removing what is not there changes nothing. -/
theorem erase_of_find? {collection : Keyed Value} {key : String}
    (missing : collection.find? key = none) : collection.erase key = collection := by
  refine ext (List.filter_eq_self.2 ?_)
  intro entry member
  refine decide_eq_true fun same => ?_
  have found := find?_eq_some_iff.2 member
  rw [same, missing] at found
  cases found

/-- A change of all values goes for the value that is filed, too. -/
theorem mapValues_put {Other : Type} (collection : Keyed Value) (key : String) (value : Value)
    (change : Value → Other) :
    (collection.put key value).mapValues change =
      (collection.mapValues change).put key (change value) := by
  obtain ⟨entries, distinct⟩ := collection
  refine ext ?_
  simp only [mapValues, mapEntries, put]
  clear distinct
  induction entries with
  | nil => rfl
  | cons entry rest inductionHypothesis =>
      obtain ⟨name, old⟩ := entry
      by_cases same : name = key
      · simp [putEntry, same]
      · simp [putEntry, same, inductionHypothesis]

theorem mapValues_mapValues {Other Another : Type} (collection : Keyed Value)
    (first : Value → Other) (second : Other → Another) :
    (collection.mapValues first).mapValues second =
      collection.mapValues fun value => second (first value) := by
  refine ext ?_
  simp [mapValues, mapEntries]

@[simp] theorem keys_mapValues {Other : Type} (collection : Keyed Value)
    (change : Value → Other) : (collection.mapValues change).keys = collection.keys := by
  simp [keys, mapValues, mapEntries]

/-- Pairs with distinct keys are filed as they stand. -/
theorem entries_ofPairs {pairs : List (String × Value)} (distinct : (pairs.map Prod.fst).Nodup) :
    (ofPairs pairs).entries = pairs := by
  -- Filed into a collection that has none of their keys, the pairs follow its entries.
  have filed (collection : Keyed Value)
      (apart : ∀ pair ∈ pairs, pair.1 ∉ collection.entries.map Prod.fst) :
      (pairs.foldl (fun collection pair => collection.put pair.1 pair.2) collection).entries =
        collection.entries ++ pairs := by
    induction pairs generalizing collection with
    | nil => exact (List.append_nil _).symm
    | cons pair rest inductionHypothesis =>
        rw [List.map_cons, List.nodup_cons] at distinct
        have entries_put : (collection.put pair.1 pair.2).entries = collection.entries ++ [pair] :=
          putEntry_of_not_mem (apart pair List.mem_cons_self) pair.2
        rw [List.foldl_cons, inductionHypothesis distinct.2, entries_put, List.append_assoc,
          List.singleton_append]
        intro other later
        rw [entries_put, List.map_append, List.mem_append, not_or]
        refine ⟨apart other (List.mem_cons_of_mem pair later), ?_⟩
        intro same
        rw [List.map_singleton, List.mem_singleton] at same
        exact distinct.1 (List.mem_map.2 ⟨other, later, same⟩)
  exact filed empty fun _ _ => List.not_mem_nil

/-- What is filed first is found last. -/
theorem find?_ofPairs (pairs : List (String × Value)) (key : String) :
    (ofPairs pairs).find? key = (pairs.reverse.find? fun pair => pair.1 == key).map Prod.snd := by
  -- The pairs may be filed into any collection: an older entry is found if no pair has the key.
  have filed (collection : Keyed Value) :
      (pairs.foldl (fun collection pair => collection.put pair.1 pair.2) collection).find? key =
        ((pairs.reverse.find? fun pair => pair.1 == key).map Prod.snd).or
          (collection.find? key) := by
    induction pairs generalizing collection with
    | nil => rfl
    | cons pair rest inductionHypothesis =>
        rw [List.foldl_cons, inductionHypothesis, find?_put, List.reverse_cons, List.find?_append]
        cases List.find? (fun pair => pair.1 == key) rest.reverse with
        | some later => rfl
        | none =>
            by_cases same : key = pair.1
            · simp [same]
            · have different : ¬ pair.1 = key := fun equal => same equal.symm
              simp [same, different]
  exact (filed empty).trans Option.or_none

theorem mem_of_find?_ofPairs {pairs : List (String × Value)} {key : String} {value : Value}
    (found : (ofPairs pairs).find? key = some value) : (key, value) ∈ pairs := by
  rw [find?_ofPairs, Option.map_eq_some_iff] at found
  obtain ⟨⟨name, filed⟩, first, same⟩ := found
  have named := List.find?_some first
  simp only [beq_iff_eq] at named same
  subst named same
  exact List.mem_reverse.1 (List.mem_of_find?_eq_some first)

end Keyed

end LoginThrottle
