import LoginThrottle.Net.Numeral
import Mathlib.Data.List.Basic

/-!
# Numerals that are read back

A number that was written in digits is read back, whatever stands behind the digits, unless it
is another digit.

## Main Definitions

* `EndsNumeral`: no digit stands at the front of a text

## Main Statements

* `spanDigits_digitChars`: digits end where no other digit follows them
* `exists_digits`: the digits of a number stand for it, and no zero stands in front of others
* `NumeralStyle.read?_toDigits`: a number within the bounds of a style is read back
* `NumeralStyle.lt_of_read?`: what is read is within the bounds
-/

namespace LoginThrottle

variable {radix : Nat}

/-! ### Runs of digits -/

/-- No digit stands at the front of a text. -/
def EndsNumeral (radix : Nat) (text : List Char) : Prop :=
  spanDigits radix text = ([], text)

theorem endsNumeral_nil (radix : Nat) : EndsNumeral radix [] := rfl

theorem endsNumeral_cons {character : Char} (other : digitOf? radix character = none)
    (rest : List Char) : EndsNumeral radix (character :: rest) := by
  rw [EndsNumeral, spanDigits, other]

/-- What is no digit of a radix is no digit of a smaller one. -/
theorem EndsNumeral.mono {smaller : Nat} (le : smaller ≤ radix) {text : List Char}
    (ends : EndsNumeral radix text) : EndsNumeral smaller text := by
  cases text with
  | nil => exact endsNumeral_nil smaller
  | cons character rest =>
      refine endsNumeral_cons (Option.filter_eq_none_iff.2 fun digit value below => ?_) rest
      have found : digitOf? radix character = some digit := by
        rw [digitOf?, value]
        exact Option.filter_some_pos (decide_eq_true
          (Nat.lt_of_lt_of_le (of_decide_eq_true below) le))
      rw [EndsNumeral, spanDigits, found] at ends
      cases ends

theorem digitValue?_digitChar {digit : Nat} (small : digit < 16) :
    digitValue? (Nat.digitChar digit) = some digit := by
  have all : ∀ digit < 16, digitValue? (Nat.digitChar digit) = some digit := by decide
  exact all digit small

theorem digitOf?_digitChar {digit : Nat} (narrow : radix ≤ 16) (small : digit < radix) :
    digitOf? radix (Nat.digitChar digit) = some digit := by
  rw [digitOf?, digitValue?_digitChar (Nat.lt_of_lt_of_le small narrow)]
  exact Option.filter_some_pos (decide_eq_true small)

/-- Digits end where no other digit follows them. -/
theorem spanDigits_digitChars (narrow : radix ≤ 16) {digits : List Nat}
    (small : ∀ digit ∈ digits, digit < radix) {rest : List Char} (ends : EndsNumeral radix rest) :
    spanDigits radix (digits.map Nat.digitChar ++ rest) = (digits, rest) := by
  induction digits with
  | nil => exact ends
  | cons digit later inductionHypothesis =>
      have smallLater other member := small other (List.mem_cons_of_mem digit member)
      rw [List.map_cons, List.cons_append, spanDigits,
        digitOf?_digitChar narrow (small digit List.mem_cons_self),
        inductionHypothesis smallLater]

/-! ### The digits of a number -/

theorem ofDigits_append_singleton (radix : Nat) (digits : List Nat) (digit : Nat) :
    ofDigits radix (digits ++ [digit]) = ofDigits radix digits * radix + digit := by
  rw [ofDigits, ofDigits, List.foldl_append, List.foldl_cons, List.foldl_nil]

/-- The digits of a number stand for it, and only the number zero begins with a zero. -/
theorem exists_digits (wide : 1 < radix) (value : Nat) :
    ∃ digits, Nat.toDigits radix value = digits.map Nat.digitChar ∧
      (∀ digit ∈ digits, digit < radix) ∧ ofDigits radix digits = value ∧ digits ≠ [] ∧
        (digits.head? = some 0 → value = 0) := by
  induction value using Nat.strongRecOn with
  | ind value inductionHypothesis =>
      rcases Nat.lt_or_ge value radix with small | large
      · refine ⟨[value], Nat.toDigits_of_lt_base small, ?_, ?_, List.cons_ne_nil _ _, ?_⟩
        · intro digit member
          exact List.mem_singleton.1 member ▸ small
        · simp [ofDigits]
        · exact Option.some.inj
      · obtain ⟨digits, written, below, stands, nonempty, leading⟩ :=
          inductionHypothesis (value / radix) (Nat.div_lt_self (by omega) wide)
        refine ⟨digits ++ [value % radix], ?_, ?_, ?_, List.concat_ne_nil _ _, ?_⟩
        · rw [Nat.toDigits_of_base_le wide large, written, List.map_append, List.map_singleton]
        · intro digit member
          rcases List.mem_append.1 member with earlier | last
          · exact below digit earlier
          · exact List.mem_singleton.1 last ▸ Nat.mod_lt value (by omega)
        · rw [ofDigits_append_singleton, stands, Nat.mul_comm, Nat.div_add_mod]
        · intro zero
          rw [List.head?_append_of_ne_nil _ nonempty] at zero
          have none_before := (Nat.div_eq_zero_iff.1 (leading zero)).resolve_left (by omega)
          omega

/-- What digits are written in. -/
theorem notMem_toDigits (wide : 1 < radix) (narrow : radix ≤ 16) {character : Char}
    (other : digitValue? character = none) (value : Nat) :
    character ∉ Nat.toDigits radix value := by
  obtain ⟨digits, written, small, -⟩ := exists_digits wide value
  rw [written]
  intro member
  obtain ⟨digit, among, rfl⟩ := List.mem_map.1 member
  rw [digitValue?_digitChar (Nat.lt_of_lt_of_le (small digit among) narrow)] at other
  cases other

/-! ### Numerals of a style -/

namespace NumeralStyle

variable {style : NumeralStyle} {value : Nat} {text rest : List Char}

/-- A number within the bounds of a style is read back. -/
theorem read?_toDigits (wide : 1 < style.radix) (narrow : style.radix ≤ 16)
    (short : ∀ most ∈ style.maxDigits, (Nat.toDigits style.radix value).length ≤ most)
    (small : value < style.bound) (ends : EndsNumeral style.radix rest) :
    style.read? (Nat.toDigits style.radix value ++ rest) = some (value, rest) := by
  obtain ⟨digits, written, below, stands, nonempty, leading⟩ := exists_digits wide value
  have spanned := spanDigits_digitChars narrow below ends
  have lengths : (Nat.toDigits style.radix value).length = digits.length := by
    rw [written, List.length_map]
  have unpadded : digits.length ≤ 1 ∨ digits.head? ≠ some 0 := by
    by_cases zero : digits.head? = some 0
    · left
      rw [← lengths, leading zero, Nat.toDigits_zero]
      exact Nat.le_refl 1
    · exact .inr zero
  have accepted : style.accepts digits = true := by
    simp only [accepts, Bool.and_eq_true, Bool.or_eq_true, Bool.not_eq_true',
      List.isEmpty_eq_false_iff, decide_eq_true_eq, bne_iff_ne, Option.all_eq_true, ← lengths,
      stands]
    refine ⟨⟨⟨nonempty, fun most bounded => short most bounded⟩, ?_⟩, small⟩
    rw [lengths]
    rcases unpadded with single | other
    · exact .inl (.inr single)
    · exact .inr other
  rw [read?, written, spanned]
  simp only [accepted, if_true, stands]

/-- A text that is the numeral of a number is read back. -/
theorem readWhole?_toDigits (wide : 1 < style.radix) (narrow : style.radix ≤ 16)
    (short : ∀ most ∈ style.maxDigits, (Nat.toDigits style.radix value).length ≤ most)
    (small : value < style.bound) :
    style.readWhole? (Nat.toDigits style.radix value) = some value := by
  have found := read?_toDigits wide narrow short small (endsNumeral_nil style.radix)
  rw [List.append_nil] at found
  rw [readWhole?, found]

/-- No digit is no numeral. -/
theorem read?_of_endsNumeral (ends : EndsNumeral style.radix text) : style.read? text = none := by
  rw [read?, ends]
  rfl

/-- What is read is within the bounds. -/
theorem lt_of_read? (found : style.read? text = some (value, rest)) : value < style.bound := by
  simp only [read?] at found
  split at found
  · next accepted =>
      obtain ⟨rfl, -⟩ := Prod.mk.inj (Option.some.inj found)
      rw [accepts, Bool.and_eq_true, decide_eq_true_eq] at accepted
      exact accepted.2
  · cases found

theorem lt_of_readWhole? (found : style.readWhole? text = some value) : value < style.bound := by
  rw [readWhole?] at found
  split at found
  · next read =>
      obtain rfl := Option.some.inj found
      exact lt_of_read? read
  · cases found

end NumeralStyle

end LoginThrottle
