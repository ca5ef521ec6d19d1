import LoginThrottle.Text.Ranges

/-!
# White space

Which characters are white space in any script, and texts without the white space around
them.

## Main Definitions

* `spaceRanges`: the characters that are white space
* `trimSpace`: a text without the white space around it
-/

namespace LoginThrottle

/-- The characters that are white space. -/
def spaceRanges : List (Nat × Nat) :=
  [(0x9, 0xd), (0x20, 0x20), (0x85, 0x85), (0xa0, 0xa0), (0x1680, 0x1680), (0x2000, 0x200a),
   (0x2028, 0x2029), (0x202f, 0x202f), (0x205f, 0x205f), (0x3000, 0x3000)]

/-- Whether a character is white space. -/
def isSpace (character : Char) : Bool :=
  inRanges spaceRanges character.toNat

/-- A text without the white space around it. -/
def trimSpace (text : List Char) : List Char :=
  ((text.dropWhile isSpace).reverse.dropWhile isSpace).reverse

/-- What core calls white space is white space. -/
example : ((List.range 128).all fun codePoint =>
    !(Char.ofNat codePoint).isWhitespace || isSpace (Char.ofNat codePoint)) = true := by
  decide +kernel

end LoginThrottle
