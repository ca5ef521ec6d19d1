/-!
# The order of texts as bytes

Texts are compared character by character.  The bytes that they travel as are in the same order,
because a greater character has greater bytes.

## Main Statements

* `utf8EncodeChar_append_lt`: the bytes of a greater character come later, whatever follows them
* `text_lt_iff_bytes_lt`: two texts are in the order of their bytes
-/

namespace LoginThrottle

/-- The bytes of a greater character come later, whatever follows them. -/
theorem utf8EncodeChar_append_lt {first second : Char} (less : first < second)
    (rest other : List UInt8) :
    String.utf8EncodeChar first ++ rest < String.utf8EncodeChar second ++ other := by
  have below : first.val.toNat < second.val.toNat := less
  have bound : second.val.toNat < 0x110000 := by
    have valid := second.valid
    unfold UInt32.isValidChar Nat.isValidChar at valid
    omega
  simp only [String.utf8EncodeChar]
  generalize first.val.toNat = low at below
  generalize second.val.toNat = high at below bound
  -- One case for each pair of lengths, decided by the digits of both numbers.
  repeat' split
  all_goals
    simp (disch := omega) only [List.cons_append, List.cons_lt_cons_iff, UInt8.lt_iff_toNat_lt,
      ← UInt8.toNat_inj, UInt8.toNat_ofNat', Nat.mod_eq_of_lt]
    omega

/-- Characters that come earlier have bytes that come earlier. -/
theorem flatMap_utf8EncodeChar_lt {first second : List Char} (less : first < second) :
    first.flatMap String.utf8EncodeChar < second.flatMap String.utf8EncodeChar := by
  induction first generalizing second with
  | nil =>
      cases second with
      | nil => exact absurd less (List.lt_irrefl _)
      | cons other later =>
          have some : String.utf8EncodeChar other ≠ [] := by
            simp only [String.utf8EncodeChar]
            repeat' split
            all_goals exact List.cons_ne_nil _ _
          obtain ⟨byte, bytes, spelled⟩ := List.exists_cons_of_ne_nil some
          rw [List.flatMap_cons, spelled]
          exact List.nil_lt_cons byte _
  | cons head rest inductionHypothesis =>
      cases second with
      | nil => exact absurd less (List.not_lt_nil _)
      | cons other later =>
          rw [List.flatMap_cons, List.flatMap_cons]
          rcases List.cons_lt_cons_iff.1 less with greater | ⟨rfl, behind⟩
          · exact utf8EncodeChar_append_lt greater _ _
          · exact List.append_left_lt (inductionHypothesis behind)

theorem toList_toUTF8 (text : String) :
    text.toUTF8.data.toList = text.toList.flatMap String.utf8EncodeChar := by
  rw [String.toUTF8, ← String.utf8Encode_toList]
  exact List.toList_data_toByteArray

/-- Texts are in the order of their bytes. -/
theorem text_lt_iff_bytes_lt (first second : String) :
    first < second ↔ first.toUTF8.data.toList < second.toUTF8.data.toList := by
  rw [toList_toUTF8, toList_toUTF8]
  constructor
  · exact flatMap_utf8EncodeChar_lt
  · intro less
    rcases Std.lt_trichotomy first second with before | rfl | after
    · exact before
    · exact absurd less (List.lt_irrefl _)
    · exact absurd (flatMap_utf8EncodeChar_lt after) (List.lt_asymm less)

end LoginThrottle
