import RoutePattern.Text.Bounds

/-! # White space

* `isBlank`: the white space of Unicode 14 with the four information separators, 29 characters.
* `isAsciiBlank`: the six of them that the ASCII rules know.
-/

namespace RoutePattern.Text

/-- Bounds of the runs of white space. -/
def blankBounds : List Nat := [
  9, 14, 28, 33, 133, 134, 160, 161, 5760, 5761, 8192, 8203, 8232, 8234, 8239, 8240, 8287, 8288,
  12288, 12289]

/-- White space of any script. -/
def isBlank (c : Char) : Bool := within blankBounds c.toNat

/-- White space under the ASCII rules: space, tab, line feed, vertical tab, form feed and return. -/
def isAsciiBlank (c : Char) : Bool := c = ' ' || (9 ≤ c.toNat && c.toNat ≤ 13)

end RoutePattern.Text
