import LoginThrottle.Proofs.Net.Prefix
import LoginThrottle.Proofs.Net.Spelling
import LoginThrottle.Proofs.Rule.Store

/-!
# Membership in 128 bits

A list is a set of 128-bit prefixes.  An address is on it when it begins with one of them,
whichever way the address and the rules are spelled and whichever family they belong to.

## Main Definitions

* `TextCovers`: a text spells an address of the same 128 bits, or a network around it

## Main Statements

* `Rule.covers_canonical_iff`: what a rule is about
* `RuleStore.isListed_iff_exists_covering`: an address is listed when a rule covers its bits
-/

namespace LoginThrottle

/-- A text spells an address of the given 128 bits, or a network whose leading bits they
begin with. -/
def TextCovers (text : String) (address : BitVec 128) : Prop :=
  (∃ single, IpAddress.read? text = some single ∧ single.embed = address) ∨
    ∃ network, IpNetwork.read? text = some network ∧ network.embed.Holds address

/-- A rule is about an address when its text covers the 128 bits of the address. -/
theorem Rule.covers_canonical_iff (rule : Rule) (address : IpAddress) :
    rule.covers address.canonical = true ↔ TextCovers rule.text address.embed := by
  unfold covers AddressSet.read? TextCovers
  cases single : IpAddress.read? rule.text with
  | some found =>
      have noNetwork := IpNetwork.read?_eq_none_of_read? single
      simp [noNetwork, AddressSet.covers, IpAddress.canonical_eq_canonical_iff]
  | none =>
      cases network : IpNetwork.read? rule.text with
      | none => simp
      | some block => simp [AddressSet.covers, IpNetwork.contains_canonical_iff]

namespace RuleStore

/-- What a lookup that is answered makes of an address, in terms of its 128 bits. -/
theorem any_covers_iff (store : RuleStore) (list : ListKind) (address : IpAddress) :
    ((store.table.ofList list).any fun rule => rule.covers address.canonical) = true ↔
      ∃ rule ∈ store.table.rules, rule.list = list ∧ TextCovers rule.text address.embed := by
  simp only [List.any_eq_true, RuleTable.ofList, List.mem_filter, decide_eq_true_eq,
    Rule.covers_canonical_iff, and_assoc]

/-- The answer of a lookup that does not fail, as a statement about 128 bits. -/
theorem isListed_of_answers {store : RuleStore} {list : ListKind} {text : String}
    {address : IpAddress} (spelled : IpAddress.read? text = some address)
    (answers : store.fails (.ofList list) = false) :
    ∃ listed, (store.isListed text list).1 = .ok listed ∧
      (listed = true ↔
        ∃ rule ∈ store.table.rules, rule.list = list ∧ TextCovers rule.text address.embed) := by
  refine ⟨(store.table.ofList list).any fun rule => rule.covers address.canonical, ?_,
    any_covers_iff store list address⟩
  rw [isListed_eq, spelled]
  simp [lookup, answers, Except.map]

/-- Two answers are equal when they stand for equivalent statements. -/
theorem isListed_congr {first second : RuleStore} {list : ListKind} {text other : String}
    {address otherAddress : IpAddress} (spelled : IpAddress.read? text = some address)
    (spelledToo : IpAddress.read? other = some otherAddress)
    (answers : first.fails (.ofList list) = false)
    (answersToo : second.fails (.ofList list) = false)
    (same : (∃ rule ∈ second.table.rules, rule.list = list ∧
        TextCovers rule.text otherAddress.embed) ↔
      ∃ rule ∈ first.table.rules, rule.list = list ∧ TextCovers rule.text address.embed) :
    (second.isListed other list).1 = (first.isListed text list).1 := by
  obtain ⟨listed, result, meaning⟩ := isListed_of_answers spelled answers
  obtain ⟨listedToo, resultToo, meaningToo⟩ := isListed_of_answers spelledToo answersToo
  rw [result, resultToo, Bool.eq_iff_iff.2 (meaningToo.trans (same.trans meaning.symm))]

/-- An address is on a list exactly when a rule of the list covers its 128 bits.  So the
answer stays the same when the address is spelled in another way or in its mapped form, and
when texts of rules give way to others that cover the same addresses. -/
theorem isListed_iff_exists_covering (store : RuleStore) (list : ListKind) (text : String)
    (address : IpAddress) (spelled : IpAddress.read? text = some address)
    (answers : store.fails (.ofList list) = false) :
    (∃ listed, (store.isListed text list).1 = .ok listed ∧
      (listed = true ↔
        ∃ rule ∈ store.table.rules, rule.list = list ∧ TextCovers rule.text address.embed)) ∧
    (∀ other otherAddress, IpAddress.read? other = some otherAddress →
      otherAddress.embed = address.embed →
        (store.isListed other list).1 = (store.isListed text list).1) ∧
    ∀ (second : RuleStore) (respell : String → String),
      second.fails (.ofList list) = false →
      second.table.rules = store.table.rules.map (fun rule =>
        { rule with text := respell rule.text }) →
      (∀ rule ∈ store.table.rules, ∀ bits,
        TextCovers (respell rule.text) bits ↔ TextCovers rule.text bits) →
        (second.isListed text list).1 = (store.isListed text list).1 := by
  refine ⟨isListed_of_answers spelled answers, ?_, ?_⟩
  · intro other otherAddress spelledToo sameBits
    refine isListed_congr spelled spelledToo answers answers ?_
    rw [sameBits]
  · intro second respell answersToo rules sameCover
    refine isListed_congr spelled spelled answers answersToo ?_
    rw [rules]
    constructor
    · rintro ⟨_, member, onList, covered⟩
      obtain ⟨rule, known, rfl⟩ := List.mem_map.1 member
      exact ⟨rule, known, onList, (sameCover rule known _).1 covered⟩
    · rintro ⟨rule, known, onList, covered⟩
      exact ⟨_, List.mem_map_of_mem known, onList, (sameCover rule known _).2 covered⟩

/-- A store with a text that spells nothing, a network of 32-bit addresses and the mapped
form of another one. -/
def mixedStore : RuleStore :=
  ⟨⟨[⟨1, "localhost", .black⟩, ⟨2, "10.1.2.3/8", .black⟩, ⟨3, "::ffff:1.2.3.4/128", .white⟩], 4⟩,
    .never, []⟩

/-- The mapped form of an address is on the black list like the address itself. -/
theorem mapped_address_isListed :
    IpAddress.read? "::ffff:10.0.0.7" = some (.v6 0xffff0a000007#128) ∧
      mixedStore.fails (.ofList .black) = false ∧
      (mixedStore.isListed "::ffff:10.0.0.7" .black).1 = .ok true ∧
      (mixedStore.isListed "10.0.0.7" .black).1 =
        (mixedStore.isListed "::ffff:10.0.0.7" .black).1 := by
  have spelled : IpAddress.read? "::ffff:10.0.0.7" = some (.v6 0xffff0a000007#128) := by decide
  have answers : mixedStore.fails (.ofList .black) = false := rfl
  refine ⟨spelled, answers, rfl, ?_⟩
  exact (isListed_iff_exists_covering mixedStore .black _ _ spelled answers).2.1 "10.0.0.7"
    (.v4 0x0a000007#32) (by decide) (by decide)

end RuleStore

end LoginThrottle
