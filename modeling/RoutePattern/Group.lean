import RoutePattern.Text.Basic

/-! # Capture groups

A capture group of a regular expression, by the place where it opens and the name it gives itself.
-/

namespace RoutePattern

/-- A capture group: the index of its parenthesis, and its name if it has one. -/
structure Group where
  index : Nat
  name : Option Text
  deriving DecidableEq, Repr

end RoutePattern
