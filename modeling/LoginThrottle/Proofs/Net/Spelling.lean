import LoginThrottle.Net.Network

/-!
# Spellings of addresses and networks

An address is spelled without a slash and a network with one, so no text spells both.

## Main Definitions

* `SkipsTo`: a text goes on with another one behind a front without slashes

## Main Statements

* `IpAddress.readFront?_skipsTo`: the reader of addresses never goes past a slash
* `IpNetwork.read?_eq_none_of_read?`: the spelling of an address is not one of a network
-/

namespace LoginThrottle

/-- What separates the address of a network from its prefix length. -/
def lengthMark : Char := '/'

/-- The text is `rest` behind some characters none of which is a slash. -/
def SkipsTo (text rest : List Char) : Prop :=
  ∃ front, text = front ++ rest ∧ lengthMark ∉ front

namespace SkipsTo

variable {first second third : List Char}

theorem refl (text : List Char) : SkipsTo text text :=
  ⟨[], rfl, by simp⟩

theorem trans (one : SkipsTo first second) (two : SkipsTo second third) :
    SkipsTo first third := by
  obtain ⟨front, rfl, clean⟩ := one
  obtain ⟨middle, rfl, cleanToo⟩ := two
  refine ⟨front ++ middle, (List.append_assoc _ _ _).symm, ?_⟩
  simp only [List.mem_append, not_or]
  exact ⟨clean, cleanToo⟩

theorem cons {character : Char} {rest : List Char} (clean : character ≠ lengthMark)
    (skips : SkipsTo first rest) : SkipsTo (character :: first) rest := by
  obtain ⟨front, rfl, cleanFront⟩ := skips
  refine ⟨character :: front, rfl, ?_⟩
  simp only [List.mem_cons, not_or]
  exact ⟨fun equal => clean equal.symm, cleanFront⟩

/-- What is skipped up to the end of a text is the whole text. -/
theorem notMem_of_nil (skips : SkipsTo first []) : lengthMark ∉ first := by
  obtain ⟨front, rfl, clean⟩ := skips
  simpa using clean

theorem mem_of_mem (skips : SkipsTo first second) (member : lengthMark ∈ second) :
    lengthMark ∈ first := by
  obtain ⟨front, rfl, _⟩ := skips
  exact List.mem_append_right front member

end SkipsTo

/-! ### The parts of an address -/

theorem afterChar?_skipsTo {expected : Char} {text rest : List Char}
    (other : expected ≠ lengthMark) (found : afterChar? expected text = some rest) :
    SkipsTo text rest := by
  cases text with
  | nil => simp [afterChar?] at found
  | cons character behind =>
      by_cases same : character = expected
      · simp only [afterChar?, if_pos same, Option.some.injEq] at found
        subst found
        exact (SkipsTo.refl behind).cons (same ▸ other)
      · simp [afterChar?, same] at found

/-- A slash is no digit in any radix. -/
theorem digitOf?_lengthMark (radix : Nat) : digitOf? radix lengthMark = none := by
  have noDigit : digitValue? lengthMark = none := by decide
  simp [digitOf?, noDigit]

theorem spanDigits_skipsTo (radix : Nat) (text : List Char) :
    SkipsTo text (spanDigits radix text).2 := by
  induction text with
  | nil => exact SkipsTo.refl []
  | cons character behind inductionHypothesis =>
      cases digit : digitOf? radix character with
      | none =>
          simp only [spanDigits, digit]
          exact SkipsTo.refl _
      | some value =>
          simp only [spanDigits, digit]
          refine inductionHypothesis.cons ?_
          rintro rfl
          rw [digitOf?_lengthMark] at digit
          cases digit

theorem NumeralStyle.read?_skipsTo {style : NumeralStyle} {text rest : List Char} {value : Nat}
    (found : style.read? text = some (value, rest)) : SkipsTo text rest := by
  simp only [NumeralStyle.read?] at found
  split at found
  · simp only [Option.some.injEq, Prod.mk.injEq] at found
    rw [← found.2]
    exact spanDigits_skipsTo style.radix text
  · cases found

namespace IpAddress

theorem readOctets?_skipsTo {spelling : AddressSpelling} {count : Nat} {text rest : List Char}
    {octets : List Nat} (found : readOctets? spelling count text = some (octets, rest)) :
    SkipsTo text rest := by
  induction count generalizing text octets with
  | zero =>
      simp only [readOctets?, Option.some.injEq, Prod.mk.injEq] at found
      exact found.2 ▸ SkipsTo.refl text
  | succ more inductionHypothesis =>
      simp only [readOctets?, Option.bind_eq_bind, Option.pure_def,
        Option.bind_eq_some_iff, Prod.exists] at found
      obtain ⟨octet, behind, octetFound, found⟩ := found
      refine (NumeralStyle.read?_skipsTo octetFound).trans ?_
      -- Only the last octet has no period behind it.
      split at found
      · simp only [Option.bind_some, Option.bind_eq_some_iff, Option.some.injEq,
          Prod.exists, Prod.mk.injEq] at found
        obtain ⟨later, last, laterFound, _, rfl⟩ := found
        exact inductionHypothesis laterFound
      · simp only [Option.bind_eq_some_iff, Option.some.injEq, Prod.exists,
          Prod.mk.injEq] at found
        obtain ⟨afterMark, markFound, later, last, laterFound, _, rfl⟩ := found
        exact (afterChar?_skipsTo (by decide) markFound).trans
          (inductionHypothesis laterFound)

theorem readV4?_skipsTo {spelling : AddressSpelling} {text rest : List Char} {bits : BitVec 32}
    (found : readV4? spelling text = some (bits, rest)) : SkipsTo text rest := by
  simp only [readV4?, Option.bind_eq_bind, Option.pure_def, Option.bind_eq_some_iff,
    Option.some.injEq, Prod.exists, Prod.mk.injEq] at found
  obtain ⟨octets, behind, octetsFound, _, rfl⟩ := found
  exact readOctets?_skipsTo octetsFound

theorem afterSeparator?_skipsTo {first : Bool} {text rest : List Char}
    (found : afterSeparator? first text = some rest) : SkipsTo text rest := by
  cases first with
  | true =>
      simp only [afterSeparator?, if_true, Option.some.injEq] at found
      exact found ▸ SkipsTo.refl text
  | false => exact afterChar?_skipsTo (by decide) found

theorem readGroups_skipsTo (spelling : AddressSpelling) (limit : Nat) (first : Bool)
    (text : List Char) : SkipsTo text (readGroups spelling limit first text).rest := by
  induction limit generalizing first text with
  | zero => exact SkipsTo.refl text
  | succ limit inductionHypothesis =>
      rw [readGroups]
      split
      · next bits rest dotted =>
          split at dotted
          · cases dotted
          · obtain ⟨behind, separated, found⟩ := Option.bind_eq_some_iff.1 dotted
            exact (afterSeparator?_skipsTo separated).trans (readV4?_skipsTo found)
      · split
        · exact SkipsTo.refl text
        · next value rest grouped =>
            obtain ⟨behind, separated, found⟩ := Option.bind_eq_some_iff.1 grouped
            exact ((afterSeparator?_skipsTo separated).trans
              (NumeralStyle.read?_skipsTo found)).trans (inductionHypothesis false rest)

theorem readV6?_skipsTo {spelling : AddressSpelling} {text rest : List Char} {bits : BitVec 128}
    (found : readV6? spelling text = some (bits, rest)) : SkipsTo text rest := by
  have head := readGroups_skipsTo spelling groupCount true text
  rw [readV6?] at found
  split at found
  · simp only [Option.some.injEq, Prod.mk.injEq] at found
    exact found.2 ▸ head
  · split at found
    · cases found
    · simp only [Option.bind_eq_bind, Option.pure_def, Option.bind_eq_some_iff,
        Option.some.injEq, Prod.mk.injEq] at found
      obtain ⟨afterOne, oneFound, afterTwo, twoFound, _, rfl⟩ := found
      refine head.trans ((afterChar?_skipsTo (by decide) oneFound).trans ?_)
      exact (afterChar?_skipsTo (by decide) twoFound).trans (readGroups_skipsTo ..)

/-- The reader of addresses never goes past a slash. -/
theorem readFront?_skipsTo {spelling : AddressSpelling} {text rest : List Char}
    {address : IpAddress} (found : readFront? spelling text = some (address, rest)) :
    SkipsTo text rest := by
  rw [readFront?] at found
  split at found
  · next bits behind short =>
      simp only [Option.some.injEq, Prod.mk.injEq] at found
      exact found.2 ▸ readV4?_skipsTo short
  · simp only [Option.map_eq_some_iff, Prod.exists, Prod.mk.injEq] at found
    obtain ⟨bits, behind, long, _, rfl⟩ := found
    exact readV6?_skipsTo long

theorem notMem_lengthMark_of_read? {text : String} {address : IpAddress}
    (spelled : read? text = some address) : lengthMark ∉ text.toList := by
  rw [read?] at spelled
  split at spelled
  · next front found => exact (readFront?_skipsTo found).notMem_of_nil
  · cases spelled

end IpAddress

namespace IpNetwork

theorem mem_lengthMark_of_readLength? {digits bound : Nat} {text : List Char} {length : Fin bound}
    (found : readLength? digits bound text = some length) : lengthMark ∈ text := by
  cases text with
  | nil => simp [readLength?, afterChar?] at found
  | cons character behind =>
      by_cases mark : character = lengthMark
      · exact mark ▸ List.mem_cons_self
      · have other : ¬ character = '/' := mark
        simp [readLength?, afterChar?, other] at found

theorem mem_lengthMark_of_read? {text : String} {network : IpNetwork}
    (spelled : read? text = some network) : lengthMark ∈ text.toList := by
  rw [read?] at spelled
  split at spelled
  · cases spelled
  · next bits rest found =>
      obtain ⟨length, lengthFound, _⟩ := Option.map_eq_some_iff.1 spelled
      exact (IpAddress.readFront?_skipsTo found).mem_of_mem
        (mem_lengthMark_of_readLength? lengthFound)
  · next bits rest found =>
      obtain ⟨length, lengthFound, _⟩ := Option.map_eq_some_iff.1 spelled
      exact (IpAddress.readFront?_skipsTo found).mem_of_mem
        (mem_lengthMark_of_readLength? lengthFound)

/-- The spelling of an address is not one of a network. -/
theorem read?_eq_none_of_read? {text : String} {address : IpAddress}
    (spelled : IpAddress.read? text = some address) : read? text = none := by
  cases network : read? text with
  | none => rfl
  | some block =>
      exact absurd (mem_lengthMark_of_read? network)
        (IpAddress.notMem_lengthMark_of_read? spelled)

end IpNetwork

end LoginThrottle
