import RoutePattern.Regex.Flags

/-! # Regular expressions

* `Regex`: the tree of an expression. Characters are given by their code points, capture groups by
  their numbers; a look-behind knows how far it looks back.
* `concat`, `choice`: a row of expressions, and the alternatives of one.
-/

namespace RoutePattern

namespace Regex

/-- The classes of characters that have an escape. -/
inductive Category
  | digit
  | space
  | word
  deriving DecidableEq, Repr

/-- A member of a set: a character, a range, or a category or what is outside it. -/
inductive Member
  | char (code : Nat)
  | range (first last : Nat)
  | category (c : Category) (negated : Bool)
  deriving DecidableEq, Repr

/-- A place in a text. -/
inductive Anchor
  /-- The start of the text, or of a line. -/
  | start
  /-- The end of the text, before or after a final line feed, or of a line. -/
  | stop
  | textStart
  | textEnd
  | boundary
  | notBoundary
  deriving DecidableEq, Repr

/-- How a repeat chooses among the numbers of times: many first, few first, or many and no other. -/
inductive Greed
  | greedy
  | lazy
  | possessive
  deriving DecidableEq, Repr

end Regex

/-- A regular expression. -/
inductive Regex
  | empty
  | char (code : Nat)
  | any
  | set (negated : Bool) (members : List Regex.Member)
  | anchor (a : Regex.Anchor)
  | seq (r s : Regex)
  | alt (r s : Regex)
  /-- The body at least `least` and at most `most` times, any number if there is no `most`. -/
  | rep (least : Nat) (most : Option Nat) (greed : Regex.Greed) (body : Regex)
  | capture (number : Nat) (body : Regex)
  | backref (number : Nat)
  | lookahead (negated : Bool) (body : Regex)
  /-- The body, from `back` characters before. -/
  | lookbehind (back : Nat) (negated : Bool) (body : Regex)
  /-- The first if the group has captured, the second if not. -/
  | cond (number : Nat) (yes no : Regex)
  /-- The first way to match the body and no other. -/
  | atomic (body : Regex)
  /-- A group that does not capture, and turns flags on and off. -/
  | flagged (on off : Regex.Flags) (body : Regex)
  deriving DecidableEq, Repr

namespace Regex

/-- Expressions one after the other. -/
def concat : List Regex → Regex
  | [] => empty
  | [r] => r
  | r :: rs => seq r (concat rs)

/-- An expression and its further alternatives, the first preferred. -/
def choice (r : Regex) : List Regex → Regex
  | [] => r
  | s :: rs => alt r (choice s rs)

/-- The expression is an anchor, which cannot be repeated. -/
def isAnchor : Regex → Bool
  | anchor _ => true
  | _ => false

/-- The expression is a repeat, which cannot be repeated again. -/
def isRepeat : Regex → Bool
  | rep .. => true
  | _ => false

end Regex

end RoutePattern
