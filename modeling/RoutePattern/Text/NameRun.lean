import RoutePattern.Text.Basic

/-! # Runs of names

The names that Unicode gives to characters are kept by runs: of characters that stand close together,
with names that start alike.

* `parts`: what stands between the occurrences of a character in a text.
* `afterStart?`: what is left of a text behind another.
* `NameRun.find?`: the code point of a name in a run.
-/

namespace RoutePattern.Text

/-- The parts of a text between the occurrences of a character. -/
def parts (c : Char) : Text → List Text
  | [] => [[]]
  | d :: t => if d = c then [] :: parts c t else (parts c t).modifyHead (d :: ·)

/-- The text after another that it starts with. -/
def afterStart? (start t : Text) : Option Text :=
  if start.isPrefixOf t then some (t.drop start.length) else none

/-- The names of a row of characters. -/
structure NameRun where
  /-- The code point of the first. -/
  first : Nat
  /-- How all the names start. -/
  common : String
  /-- How they go on, one after the other, with commas between them, and nothing where a code point
  has no name. A comma may end the line; the next one is then indented. -/
  rests : String
  deriving DecidableEq, Repr

namespace NameRun

/-- How the names go on, one after the other. -/
def endings (r : NameRun) : List Text :=
  (parts ',' r.rests.toList).map (·.dropWhile Char.isWhitespace)

/-- The code point of a name, if it is in the run. -/
def find? (r : NameRun) (name : Text) : Option Nat :=
  (afterStart? r.common.toList name).bind fun ending =>
    if ending.isEmpty then none else (r.endings.idxOf? ending).map (r.first + ·)

end NameRun

end RoutePattern.Text
