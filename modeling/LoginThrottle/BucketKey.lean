/-!
# Bucket keys

One text that says which bucket is meant: the name of a dimension and a value in it,
with a separator between them.

## Main Definitions

* `bucketKey`: the key of the bucket of a value in a dimension
* `splitKey`: the dimension and the value that a key names
* `isDimensionName`: whether a text can name a dimension

## Design Notes

A key is split at its first separator. Values may hold any text, so it is the name of the
dimension that must do without separators.
-/

namespace LoginThrottle

/-- Separates the dimension from the value in the key of a bucket. -/
def keySeparator : Char := '_'

/-- The key of the bucket of a value in a dimension. -/
def bucketKey (dimension value : String) : String :=
  dimension ++ String.singleton keySeparator ++ value

/-- The parts of a key before and after its first separator. -/
def splitKey (key : String) : Option (String × String) :=
  match key.toList.dropWhile (· ≠ keySeparator) with
  | [] => none
  | _ :: value =>
    some (String.ofList (key.toList.takeWhile (· ≠ keySeparator)), String.ofList value)

/-- Whether a text can name a dimension: it is not empty and has no separator in it. -/
def isDimensionName (name : String) : Bool :=
  name ≠ "" && !name.toList.contains keySeparator

end LoginThrottle
