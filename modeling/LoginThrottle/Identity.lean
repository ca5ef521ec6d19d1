/-!
# Identities

An identity names who makes an attempt: one text value per dimension, such as the
client address, the login and the password of a login attempt.

## Main Definitions

* `Dimension`: the dimensions of a login attempt
* `Identity`: values by dimension name
* `Identity.insert`, `Identity.get?`: name a value and ask for it

## Design Notes

The dimensions of an identity are kept in strictly increasing order of their
names, character by character. That order decides which meter is asked first.
-/

namespace LoginThrottle

/-- A dimension of a login attempt. -/
inductive Dimension
  | ip
  | login
  | password
  deriving DecidableEq, Repr

namespace Dimension

/-- The name under which a dimension appears in identities and limits. -/
def name : Dimension → String
  | ip => "ip"
  | login => "login"
  | password => "password"

/-- The dimensions of a login attempt in the order of their names. -/
def all : List Dimension := [ip, login, password]

end Dimension

/-- Values by dimension name, in strictly increasing order of the names. -/
structure Identity where
  pairs : List (String × String)
  sorted : pairs.Pairwise fun first second => first.1 < second.1
  deriving DecidableEq

namespace Identity

/-- Adds a pair to an ordered list, in the place of an older one of that name. -/
def insertPair (name value : String) : List (String × String) → List (String × String)
  | [] => [(name, value)]
  | (other, old) :: rest =>
    if name < other then
      (name, value) :: (other, old) :: rest
    else if other < name then
      (other, old) :: insertPair name value rest
    else
      (other, value) :: rest

theorem mem_insertPair {name value : String} {pair : String × String}
    {pairs : List (String × String)} (member : pair ∈ insertPair name value pairs) :
    pair.1 = name ∨ ∃ old ∈ pairs, old.1 = pair.1 := by
  induction pairs with
  | nil => simp_all [insertPair]
  | cons entry rest inductionHypothesis =>
    obtain ⟨other, old⟩ := entry
    simp only [insertPair] at member
    split at member
    · rcases List.mem_cons.1 member with rfl | later
      · exact .inl rfl
      · exact .inr ⟨pair, later, rfl⟩
    · split at member
      · rcases List.mem_cons.1 member with rfl | later
        · exact .inr ⟨_, List.mem_cons_self, rfl⟩
        · rcases inductionHypothesis later with same | ⟨entry, known, same⟩
          · exact .inl same
          · exact .inr ⟨entry, List.mem_cons_of_mem _ known, same⟩
      · rcases List.mem_cons.1 member with rfl | later
        · exact .inr ⟨(other, old), List.mem_cons_self, rfl⟩
        · exact .inr ⟨pair, List.mem_cons_of_mem _ later, rfl⟩

theorem sorted_insertPair (name value : String) {pairs : List (String × String)}
    (sorted : pairs.Pairwise fun first second => first.1 < second.1) :
    (insertPair name value pairs).Pairwise fun first second => first.1 < second.1 := by
  induction pairs with
  | nil => simp [insertPair]
  | cons entry rest inductionHypothesis =>
    obtain ⟨other, old⟩ := entry
    obtain ⟨head, tail⟩ := List.pairwise_cons.1 sorted
    simp only [insertPair]
    split
    · next before =>
      refine List.pairwise_cons.2 ⟨?_, sorted⟩
      intro pair member
      rcases List.mem_cons.1 member with rfl | later
      · exact before
      · exact String.lt_trans before (head pair later)
    · split
      · next after =>
        refine List.pairwise_cons.2 ⟨?_, inductionHypothesis tail⟩
        intro pair member
        rcases mem_insertPair member with same | ⟨entry, known, same⟩
        · exact same ▸ after
        · exact same ▸ head entry known
      · exact List.pairwise_cons.2 ⟨head, tail⟩

/-- The identity that names nothing. -/
def empty : Identity := ⟨[], .nil⟩

instance : Inhabited Identity := ⟨empty⟩

/-- Names a value, in the place of an older one of that dimension. -/
def insert (identity : Identity) (name value : String) : Identity :=
  ⟨insertPair name value identity.pairs, sorted_insertPair name value identity.sorted⟩

/-- The identity that names the given pairs; of two for one dimension the later counts. -/
def ofPairs (pairs : List (String × String)) : Identity :=
  pairs.foldl (fun identity pair => identity.insert pair.1 pair.2) empty

/-- The value named for a dimension. -/
def get? (identity : Identity) (name : String) : Option String :=
  (identity.pairs.find? fun pair => pair.1 == name).map Prod.snd

/-- The names of the dimensions, in order. -/
def dimensions (identity : Identity) : List String :=
  identity.pairs.map Prod.fst

/-- The number of dimensions. -/
def size (identity : Identity) : Nat :=
  identity.pairs.length

/-- Whether the identity names nothing. -/
def isEmpty (identity : Identity) : Bool :=
  identity.pairs.isEmpty

/-- The identity of a login attempt. -/
def ofAttempt (ip login password : String) : Identity :=
  ofPairs [(Dimension.ip.name, ip), (Dimension.login.name, login),
    (Dimension.password.name, password)]

/-- The identity of a client, without a password. -/
def ofClient (ip login : String) : Identity :=
  ofPairs [(Dimension.ip.name, ip), (Dimension.login.name, login)]

/-- Whether the identity names a text for every dimension of a login attempt. -/
def isAttempt (identity : Identity) : Bool :=
  Dimension.all.all fun dimension =>
    match identity.get? dimension.name with
    | some value => value ≠ ""
    | none => false

end Identity

end LoginThrottle
