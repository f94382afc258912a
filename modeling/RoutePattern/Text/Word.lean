import RoutePattern.Text.Alphabetic
import RoutePattern.Text.Numeral

/-! # Word characters

* `isWord`: letters and numerals of any script, and `_`; combining marks are none.
* `isAsciiWord`: those of them that the ASCII rules know.
-/

namespace RoutePattern.Text

/-- A letter or numeral of any script, or `_`. -/
def isWord (c : Char) : Bool := c = '_' || isAlphabetic c || isNumeral c

/-- A letter or digit of ASCII, or `_`. -/
def isAsciiWord (c : Char) : Bool := c = '_' || c.isAlphanum

end RoutePattern.Text
