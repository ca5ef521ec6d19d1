import LoginThrottle.BucketKey

/-!
# Reading bucket keys

The name of a dimension has no separator in it, so the first separator of a key stands
behind the name, whatever the value is.

## Main Statements

* `splitKey_bucketKey`: a key gives back the dimension and the value that it was made of
-/

namespace LoginThrottle

theorem separator_not_mem {dimension : String} (named : isDimensionName dimension = true) :
    keySeparator ∉ dimension.toList := by
  simp only [isDimensionName, Bool.and_eq_true, Bool.not_eq_true', List.contains_eq_mem,
    decide_eq_false_iff_not] at named
  exact named.2

/-- A key gives back the dimension and the value that it was made of. -/
theorem splitKey_bucketKey {dimension : String} (named : isDimensionName dimension = true)
    (value : String) : splitKey (bucketKey dimension value) = some (dimension, value) := by
  have spelled : (bucketKey dimension value).toList =
      dimension.toList ++ keySeparator :: value.toList := by
    simp [bucketKey]
  have allowed (character : Char) (member : character ∈ dimension.toList) :
      decide (character ≠ keySeparator) = true := by
    rw [decide_eq_true_iff]
    rintro rfl
    exact separator_not_mem named member
  have rest : (bucketKey dimension value).toList.dropWhile (· ≠ keySeparator) =
      keySeparator :: value.toList := by
    rw [spelled, List.dropWhile_append_of_pos allowed]
    simp
  have front : (bucketKey dimension value).toList.takeWhile (· ≠ keySeparator) =
      dimension.toList := by
    rw [spelled, List.takeWhile_append_of_pos allowed]
    simp
  simp only [splitKey, rest, front, String.ofList_toList]

end LoginThrottle
