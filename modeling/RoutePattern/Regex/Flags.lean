import RoutePattern.Text.Basic

/-! # Flags

The flags of a regular expression, set from outside or by the expression itself.

* `Flags.bits`, `Flags.ofBits`: flags as a number.
* `Flags.inside`: the flags inside a group that turns some on and others off. A group that chooses
  between ASCII and Unicode rules drops the choice made outside.
-/

namespace RoutePattern.Regex

/-- What a letter in an expression may turn on. Two of these no text expression may use: `locale`,
which is for bytes, and `reserved`, which a group cannot set for itself. -/
inductive Flag
  | ignoreCase
  | locale
  | multiline
  | dotAll
  | verbose
  | ascii
  | reserved
  | unicode
  deriving DecidableEq, Repr

namespace Flag

/-- The flag of a letter. -/
def ofLetter? : Char → Option Flag
  | 'i' => some ignoreCase
  | 'L' => some locale
  | 'm' => some multiline
  | 's' => some dotAll
  | 'x' => some verbose
  | 'a' => some ascii
  | 't' => some reserved
  | 'u' => some unicode
  | _ => none

/-- The flag chooses the rules by which characters are classed. -/
def choosesRules : Flag → Bool
  | locale => true
  | ascii => true
  | unicode => true
  | _ => false

end Flag

/-- The flags that are on. -/
structure Flags where
  /-- Case does not count. -/
  ignoreCase : Bool := false
  /-- The start and end anchors also match at the lines of the text. -/
  multiline : Bool := false
  /-- The dot also matches a line feed. -/
  dotAll : Bool := false
  /-- Classes and case follow Unicode. -/
  unicode : Bool := false
  /-- White space and comments in the expression mean nothing. -/
  verbose : Bool := false
  /-- Classes and case follow ASCII. -/
  ascii : Bool := false
  reserved : Bool := false
  deriving DecidableEq, Repr

namespace Flags

/-- The flags with one more turned on. -/
def insert (f : Flags) : Flag → Flags
  | .ignoreCase => { f with ignoreCase := true }
  | .locale => f
  | .multiline => { f with multiline := true }
  | .dotAll => { f with dotAll := true }
  | .verbose => { f with verbose := true }
  | .ascii => { f with ascii := true }
  | .reserved => { f with reserved := true }
  | .unicode => { f with unicode := true }

/-- The flags on in either. -/
def union (f g : Flags) : Flags where
  ignoreCase := f.ignoreCase || g.ignoreCase
  multiline := f.multiline || g.multiline
  dotAll := f.dotAll || g.dotAll
  unicode := f.unicode || g.unicode
  verbose := f.verbose || g.verbose
  ascii := f.ascii || g.ascii
  reserved := f.reserved || g.reserved

/-- The flags on in the first and not in the second. -/
def diff (f g : Flags) : Flags where
  ignoreCase := f.ignoreCase && !g.ignoreCase
  multiline := f.multiline && !g.multiline
  dotAll := f.dotAll && !g.dotAll
  unicode := f.unicode && !g.unicode
  verbose := f.verbose && !g.verbose
  ascii := f.ascii && !g.ascii
  reserved := f.reserved && !g.reserved

/-- The flags on in both. -/
def inter (f g : Flags) : Flags := f.diff (f.diff g)

/-- The flags inside a group that turns `on` on and `off` off. -/
def inside (f on off : Flags) : Flags :=
  let f := if on.ascii || on.unicode then { f with ascii := false, unicode := false } else f
  (f.union on).diff off

/-- The flags as a number. -/
def bits (f : Flags) : Nat :=
  (if f.reserved then 1 else 0) + (if f.ignoreCase then 2 else 0) + (if f.multiline then 8 else 0)
    + (if f.dotAll then 16 else 0) + (if f.unicode then 32 else 0) + (if f.verbose then 64 else 0)
    + (if f.ascii then 256 else 0)

/-- The flags of a number. -/
def ofBits (n : Nat) : Flags where
  reserved := n.testBit 0
  ignoreCase := n.testBit 1
  multiline := n.testBit 3
  dotAll := n.testBit 4
  unicode := n.testBit 5
  verbose := n.testBit 6
  ascii := n.testBit 8

/-- The flags of a finished expression: Unicode rules unless ASCII rules were asked for. -/
def settled (f : Flags) : Flags := { f with unicode := f.unicode || !f.ascii }

end Flags

end RoutePattern.Regex
