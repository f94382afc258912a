import RoutePattern.Regex.Tree
import RoutePattern.Text.Case
import RoutePattern.Text.Word

/-! # Which characters an expression matches

* `sameChar`: a character equals another, but for case if case does not count.
* `Member.holds`, `inSet`: a set holds a character. If case does not count, a range holds every
  character that has a variant in it.
-/

namespace RoutePattern.Regex

/-- The characters whose case is ignored. -/
def Flags.caseRule (f : Flags) : Text.CaseRule := if f.unicode then .unicode else .ascii

/-- A word character under the flags. -/
def Flags.isWord (f : Flags) (c : Char) : Bool :=
  if f.unicode then Text.isWord c else Text.isAsciiWord c

/-- The category holds a character. -/
def Category.holds (f : Flags) (c : Char) : Category → Bool
  | digit => if f.unicode then Text.isDecimal c else c.isDigit
  | space => if f.unicode then Text.isBlank c else Text.isAsciiBlank c
  | word => f.isWord c

/-- A character has a code point, but for case if case does not count. -/
def sameChar (f : Flags) (code : Nat) (c : Char) : Bool :=
  if f.ignoreCase then f.caseRule.same code c.toNat else code == c.toNat

/-- Two characters have one lower case, or are the same if case counts. -/
def sameLower (f : Flags) (a b : Char) : Bool :=
  if f.ignoreCase then f.caseRule.lower a.toNat == f.caseRule.lower b.toNat else a == b

/-- A range holds a code point. -/
def inRange (first last n : Nat) : Bool := first ≤ n && n ≤ last

/-- A member of a set holds a character. -/
def Member.holds (f : Flags) (c : Char) : Member → Bool
  | char n => sameChar f n c
  | range a b =>
    if f.ignoreCase then (f.caseRule.variants c.toNat).any (inRange a b) else inRange a b c.toNat
  | category k negated => k.holds f c != negated

/-- A set holds a character. -/
def inSet (f : Flags) (negated : Bool) (members : List Member) (c : Char) : Bool :=
  members.any (·.holds f c) != negated

end RoutePattern.Regex
