/-!
# Values filed under text keys

A `Keyed` collection files at most one value under each key and keeps the keys in
the order in which they were first filed.

## Main Definitions

* `Keyed`: the collection
* `Keyed.find?`, `Keyed.put`, `Keyed.erase`: look up, file and remove a value

## Design Notes

Keys are distinct in every collection, so a key says which entry is meant. The
order of the entries is part of the value: two collections that were built by the
same operations in the same order are equal.
-/

namespace LoginThrottle

/-- Values filed under distinct keys, in the order of first filing. -/
structure Keyed (Value : Type) where
  entries : List (String × Value)
  distinct : (entries.map Prod.fst).Nodup
  deriving DecidableEq

namespace Keyed

variable {Value : Type}

/-! ### On plain lists of entries -/

/-- The value of the first entry with the given key. -/
def findEntry (key : String) : List (String × Value) → Option Value
  | [] => none
  | (name, value) :: rest => if name = key then some value else findEntry key rest

/-- Replaces the value of the entry with the given key, or appends a new entry. -/
def putEntry (key : String) (value : Value) : List (String × Value) → List (String × Value)
  | [] => [(key, value)]
  | (name, old) :: rest =>
    if name = key then (name, value) :: rest else (name, old) :: putEntry key value rest

/-- Removes the entries with the given key. -/
def eraseEntry (key : String) (entries : List (String × Value)) : List (String × Value) :=
  entries.filter fun entry => entry.1 ≠ key

theorem keys_putEntry (key : String) (value : Value) (entries : List (String × Value)) :
    (putEntry key value entries).map Prod.fst =
      if key ∈ entries.map Prod.fst then entries.map Prod.fst
      else entries.map Prod.fst ++ [key] := by
  induction entries with
  | nil => simp [putEntry]
  | cons entry rest inductionHypothesis =>
    obtain ⟨name, old⟩ := entry
    by_cases same : name = key
    · simp [putEntry, same]
    · have different : ¬ key = name := fun equal => same equal.symm
      by_cases known : key ∈ rest.map Prod.fst
      · simp only [putEntry, if_neg same, List.map_cons, inductionHypothesis,
          List.mem_cons, known, or_true, if_true]
      · simp only [putEntry, if_neg same, List.map_cons, inductionHypothesis,
          List.mem_cons, different, known, or_self, if_false, List.cons_append]

theorem nodup_putEntry (key : String) (value : Value) {entries : List (String × Value)}
    (distinct : (entries.map Prod.fst).Nodup) :
    ((putEntry key value entries).map Prod.fst).Nodup := by
  rw [keys_putEntry]
  split
  · exact distinct
  · next unknown =>
    refine List.nodup_append.2 ⟨distinct, by simp, ?_⟩
    intro name known other isKey equal
    simp only [List.mem_singleton] at isKey
    exact unknown (isKey ▸ equal ▸ known)

theorem nodup_eraseEntry (key : String) {entries : List (String × Value)}
    (distinct : (entries.map Prod.fst).Nodup) :
    ((eraseEntry key entries).map Prod.fst).Nodup :=
  (List.filter_sublist.map Prod.fst).nodup distinct

theorem findEntry_putEntry (key name : String) (value : Value)
    (entries : List (String × Value)) :
    findEntry name (putEntry key value entries) =
      if name = key then some value else findEntry name entries := by
  induction entries with
  | nil => simp only [putEntry, findEntry, eq_comm]
  | cons entry rest inductionHypothesis =>
    obtain ⟨other, old⟩ := entry
    by_cases replaced : other = key
    · subst replaced
      by_cases same : name = other
      · simp [putEntry, findEntry, same]
      · simp [putEntry, findEntry, same, Ne.symm same]
    · simp only [putEntry, if_neg replaced, findEntry, inductionHypothesis]
      by_cases found : other = name
      · subst found
        simp [replaced]
      · simp [found]

theorem findEntry_eraseEntry (key name : String) (entries : List (String × Value)) :
    findEntry name (eraseEntry key entries) =
      if name = key then none else findEntry name entries := by
  induction entries with
  | nil => simp [eraseEntry, findEntry]
  | cons entry rest inductionHypothesis =>
    obtain ⟨other, old⟩ := entry
    by_cases erased : other = key
    · have step : eraseEntry key ((other, old) :: rest) = eraseEntry key rest := by
        simp [eraseEntry, erased]
      rw [step, inductionHypothesis]
      by_cases same : name = key
      · simp [same]
      · simp only [if_neg same, findEntry]
        rw [if_neg]
        exact fun equal => same (equal ▸ erased)
    · have step : eraseEntry key ((other, old) :: rest) = (other, old) :: eraseEntry key rest := by
        simp [eraseEntry, erased]
      rw [step]
      simp only [findEntry, inductionHypothesis]
      by_cases found : other = name
      · subst found
        simp [erased]
      · simp [found]

/-! ### The collection -/

/-- The collection without entries. -/
def empty : Keyed Value := ⟨[], List.nodup_nil⟩

instance : Inhabited (Keyed Value) := ⟨empty⟩

/-- The value filed under a key. -/
def find? (collection : Keyed Value) (key : String) : Option Value :=
  findEntry key collection.entries

/-- Files a value under a key, in the place of an older one if there is one. -/
def put (collection : Keyed Value) (key : String) (value : Value) : Keyed Value :=
  ⟨putEntry key value collection.entries, nodup_putEntry key value collection.distinct⟩

/-- Removes what is filed under a key. -/
def erase (collection : Keyed Value) (key : String) : Keyed Value :=
  ⟨eraseEntry key collection.entries, nodup_eraseEntry key collection.distinct⟩

/-- The keys in the order of first filing. -/
def keys (collection : Keyed Value) : List String :=
  collection.entries.map Prod.fst

/-- The values in the order of first filing. -/
def values (collection : Keyed Value) : List Value :=
  collection.entries.map Prod.snd

/-- The number of entries. -/
def size (collection : Keyed Value) : Nat :=
  collection.entries.length

/-- Changes every value, seeing its key, and keeps the keys. -/
def mapEntries {Other : Type} (collection : Keyed Value) (change : String → Value → Other) :
    Keyed Other where
  entries := collection.entries.map fun entry => (entry.1, change entry.1 entry.2)
  distinct := by
    have same : (collection.entries.map fun entry => (entry.1, change entry.1 entry.2)).map Prod.fst =
        collection.entries.map Prod.fst := by simp
    rw [same]
    exact collection.distinct

/-- Changes every value and keeps the keys. -/
def mapValues {Other : Type} (collection : Keyed Value) (change : Value → Other) : Keyed Other :=
  collection.mapEntries fun _ value => change value

/-- Files pairs one after the other, so the last value of a key stays. -/
def ofPairs (pairs : List (String × Value)) : Keyed Value :=
  pairs.foldl (fun collection pair => collection.put pair.1 pair.2) empty

@[ext] theorem ext {first second : Keyed Value} (same : first.entries = second.entries) :
    first = second := by
  cases first; cases second; simp_all

@[simp] theorem find?_empty (key : String) : (empty : Keyed Value).find? key = none := rfl

theorem find?_put (collection : Keyed Value) (key name : String) (value : Value) :
    (collection.put key value).find? name =
      if name = key then some value else collection.find? name :=
  findEntry_putEntry key name value collection.entries

@[simp] theorem find?_put_self (collection : Keyed Value) (key : String) (value : Value) :
    (collection.put key value).find? key = some value := by
  simp [find?_put]

theorem find?_put_of_ne (collection : Keyed Value) {key name : String} (value : Value)
    (different : name ≠ key) : (collection.put key value).find? name = collection.find? name := by
  simp [find?_put, different]

theorem find?_erase (collection : Keyed Value) (key name : String) :
    (collection.erase key).find? name = if name = key then none else collection.find? name :=
  findEntry_eraseEntry key name collection.entries

@[simp] theorem find?_erase_self (collection : Keyed Value) (key : String) :
    (collection.erase key).find? key = none := by
  simp [find?_erase]

theorem find?_mapEntries {Other : Type} (collection : Keyed Value)
    (change : String → Value → Other) (key : String) :
    (collection.mapEntries change).find? key = (collection.find? key).map (change key) := by
  obtain ⟨entries, distinct⟩ := collection
  simp only [find?, mapEntries]
  clear distinct
  induction entries with
  | nil => rfl
  | cons entry rest inductionHypothesis =>
    by_cases found : entry.1 = key
    · subst found
      simp [findEntry]
    · simp only [List.map_cons, findEntry, if_neg found, inductionHypothesis]

theorem find?_mapValues {Other : Type} (collection : Keyed Value) (change : Value → Other)
    (key : String) : (collection.mapValues change).find? key = (collection.find? key).map change :=
  find?_mapEntries collection (fun _ value => change value) key

end Keyed

end LoginThrottle
