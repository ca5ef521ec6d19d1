import LoginThrottle.Identity

/-!
# What an identity names

An identity names one value in a dimension, so asking for the value and looking through the
pairs come to the same.

## Main Statements

* `Identity.get?_eq_some_iff`: the value named for a dimension
* `Identity.ofPairs_eq_of_perm`: the order in which values are named does not matter
* `Identity.pairs_ofAttempt`, `Identity.pairs_ofClient`: what a login attempt and a client name,
  in order
-/

namespace LoginThrottle

namespace Identity

/-- In an ordered list, a name that is to come is not that of the first pair. -/
theorem ne_of_mem_sorted {name value other text : String} {rest : List (String × String)}
    (sorted : ((name, value) :: rest).Pairwise fun first second => first.1 < second.1)
    (member : (other, text) ∈ rest) : name ≠ other := by
  intro same
  have before : name < other := (List.pairwise_cons.1 sorted).1 _ member
  exact String.lt_irrefl other (same ▸ before)

/-- The value named for a dimension. -/
theorem get?_eq_some_iff {identity : Identity} {name value : String} :
    identity.get? name = some value ↔ (name, value) ∈ identity.pairs := by
  obtain ⟨pairs, sorted⟩ := identity
  simp only [get?]
  induction pairs with
  | nil => simp
  | cons pair rest inductionHypothesis =>
      obtain ⟨other, text⟩ := pair
      have known := inductionHypothesis (List.pairwise_cons.1 sorted).2
      by_cases same : other = name
      · subst same
        have absent : (other, value) ∉ rest := fun member => ne_of_mem_sorted sorted member rfl
        simp [absent, eq_comm]
      · have different : ¬ name = other := fun equal => same equal.symm
        simp [same, different, known]

/-- What a login attempt names, in the order of the names of the dimensions. -/
theorem pairs_ofAttempt (ip login password : String) :
    (ofAttempt ip login password).pairs =
      [(Dimension.ip.name, ip), (Dimension.login.name, login),
        (Dimension.password.name, password)] := by
  have loginBehind : ¬ Dimension.login.name < Dimension.ip.name := by decide
  have ipBefore : Dimension.ip.name < Dimension.login.name := by decide
  have passwordBehind : ¬ Dimension.password.name < Dimension.ip.name := by decide
  have ipBeforeToo : Dimension.ip.name < Dimension.password.name := by decide
  have passwordLast : ¬ Dimension.password.name < Dimension.login.name := by decide
  have loginBefore : Dimension.login.name < Dimension.password.name := by decide
  simp only [ofAttempt, ofPairs, List.foldl_cons, List.foldl_nil, insert, empty, insertPair,
    loginBehind, ipBefore, passwordBehind, ipBeforeToo, passwordLast, loginBefore, if_false,
    if_true]

theorem dimensions_ofAttempt (ip login password : String) :
    (ofAttempt ip login password).dimensions = Dimension.all.map Dimension.name := by
  rw [dimensions, pairs_ofAttempt]
  rfl

/-- What a client names that asks for a fresh start. -/
theorem pairs_ofClient (ip login : String) :
    (ofClient ip login).pairs = [(Dimension.ip.name, ip), (Dimension.login.name, login)] := by
  have loginBehind : ¬ Dimension.login.name < Dimension.ip.name := by decide
  have ipBefore : Dimension.ip.name < Dimension.login.name := by decide
  simp only [ofClient, ofPairs, List.foldl_cons, List.foldl_nil, insert, empty, insertPair,
    loginBehind, ipBefore, if_false, if_true]

theorem eq_of_pairs_eq {first second : Identity} (same : first.pairs = second.pairs) :
    first = second := by
  cases first
  cases same
  rfl

/-! ### The order of naming -/

theorem nodup_of_sorted {pairs : List (String × String)}
    (sorted : pairs.Pairwise fun first second => first.1 < second.1) :
    (pairs.map Prod.fst).Nodup := by
  refine List.pairwise_map.2 (sorted.imp ?_)
  intro first second less same
  exact String.lt_irrefl second.1 (same ▸ less)

/-- A name that is new is put somewhere among the others. -/
theorem perm_insertPair {name : String} (value : String) {pairs : List (String × String)}
    (fresh : name ∉ pairs.map Prod.fst) :
    (insertPair name value pairs).Perm ((name, value) :: pairs) := by
  induction pairs with
  | nil => exact .refl _
  | cons entry rest inductionHypothesis =>
      obtain ⟨other, old⟩ := entry
      rw [List.map_cons, List.mem_cons, not_or] at fresh
      rw [insertPair]
      split
      · exact .refl _
      · next notBefore =>
          split
          · exact ((inductionHypothesis fresh.2).cons (other, old)).trans (.swap _ _ rest)
          · next notAfter =>
              exact absurd (String.le_antisymm (String.not_lt.1 notAfter)
                (String.not_lt.1 notBefore)) fresh.1

/-- Values of distinct dimensions are all named in the end. -/
theorem perm_foldl_insert (identity : Identity) {named : List (String × String)}
    (distinct : ((identity.pairs ++ named).map Prod.fst).Nodup) :
    (named.foldl (fun identity pair => identity.insert pair.1 pair.2) identity).pairs.Perm
      (identity.pairs ++ named) := by
  induction named generalizing identity with
  | nil => simp
  | cons pair rest inductionHypothesis =>
      have shifted : ((pair :: identity.pairs) ++ rest).Perm (identity.pairs ++ pair :: rest) :=
        List.perm_middle.symm
      have distinctToo := (shifted.map Prod.fst).nodup_iff.2 distinct
      have fresh : pair.1 ∉ identity.pairs.map Prod.fst := by
        simp only [List.cons_append, List.map_cons, List.map_append, List.nodup_cons,
          List.mem_append, not_or] at distinctToo
        exact distinctToo.1.1
      have inserted : (identity.insert pair.1 pair.2).pairs.Perm (pair :: identity.pairs) :=
        perm_insertPair pair.2 fresh
      have grown := inserted.append_right rest
      exact (inductionHypothesis _ ((grown.map Prod.fst).nodup_iff.2 distinctToo)).trans
        (grown.trans shifted)

/-- The values of an identity may be named in any order. -/
theorem ofPairs_eq_of_perm {identity : Identity} {named : List (String × String)}
    (same : named.Perm identity.pairs) : ofPairs named = identity := by
  have distinct : (named.map Prod.fst).Nodup :=
    (same.map Prod.fst).nodup_iff.2 (nodup_of_sorted identity.sorted)
  have complete : (ofPairs named).pairs.Perm identity.pairs :=
    (perm_foldl_insert empty distinct).trans same
  refine eq_of_pairs_eq (complete.eq_of_pairwise ?_ (ofPairs named).sorted identity.sorted)
  intro first second _ _ less greater
  exact absurd greater (String.lt_asymm less)

end Identity

end LoginThrottle
