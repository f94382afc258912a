import RoutePattern.Regex.Matcher
import RoutePattern.Regex.Reader

/-! # Patterns

A pattern is a regular expression that has been read, together with its source.

* `Pattern.read`: the pattern of a source under flags.
* `Pattern.match?`: the match at the start of a text that the pattern prefers.
-/

namespace RoutePattern

/-- A regular expression with its source. -/
structure Pattern extends Regex.Parsed where
  source : Text
  deriving DecidableEq, Repr

/-- A match: its end, and what each group has captured, if it has. -/
structure Match where
  stop : Nat
  groups : List (Option Text)
  deriving DecidableEq, Repr

namespace Pattern

/-- The pattern of a source under flags. -/
def read (flags : Regex.Flags) (source : Text) : Except Regex.Error Pattern :=
  (Regex.Reader.read flags source).map fun p => { p with source := source }

/-- What the groups of a pattern have captured at the end of a match. -/
def matchAt (p : Pattern) (s : Regex.Spot) : Match where
  stop := s.pos
  groups := (List.range p.groups.length).map fun i => s.captured? (i + 1)

/-- The preferred match at the start of a text. -/
def match? (p : Pattern) (t : Text) : Option Match :=
  (p.tree.run p.flags { behind := [], ahead := t } some).map p.matchAt

end Pattern

end RoutePattern
