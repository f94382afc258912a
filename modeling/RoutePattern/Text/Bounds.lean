import RoutePattern.Text.Basic

/-! # Classes of characters by their bounds

A class of characters that come in runs is the list of its bounds in order: the first code point
of a run, the first code point after it, and so on.

* `within`: the class holds a code point, that is, an odd number of bounds lies at or below it.
* `runStart`: the greatest bound at or below a code point, the start of its run if it is in one.
-/

namespace RoutePattern.Text

/-- `within` for the bounds left, given whether the code points below them are in the class. -/
def withinFrom : Bool → List Nat → Nat → Bool
  | inside, [], _ => inside
  | inside, b :: bs, n => if n < b then inside else withinFrom (!inside) bs n

/-- A code point lies in the class with these bounds. -/
def within (bounds : List Nat) (n : Nat) : Bool := withinFrom false bounds n

/-- The greatest bound at or below a code point, 0 if there is none. -/
def runStart (bounds : List Nat) (n : Nat) : Nat := (bounds.takeWhile (· ≤ n)).getLastD 0

end RoutePattern.Text
