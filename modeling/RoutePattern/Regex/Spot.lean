import RoutePattern.Regex.CharTest

/-! # Spots

A spot is where a match has got to: the text on both sides, and what the groups have captured.

* `Spot.eat?`, `Spot.eatText?`: on by one character, or by a text.
* `Spot.back?`: back by a number of characters.
* `Spot.capture`: what lies between two spots, captured.
* `Anchor.holds`: an anchor matches at a spot.
-/

namespace RoutePattern.Regex

/-- A place in a text, with the captures made so far. -/
structure Spot where
  /-- The text before the spot, the nearest character first. -/
  behind : Text
  ahead : Text
  /-- The captured texts by group, the latest first. -/
  captures : List (Nat × Text) := []
  deriving DecidableEq, Repr

namespace Spot

/-- The index of a spot. -/
def pos (s : Spot) : Nat := s.behind.length

/-- The spot behind the next character, if that passes a test. -/
def eat? (s : Spot) (test : Char → Bool) : Option Spot :=
  match s.ahead with
  | [] => none
  | c :: r => if test c then some { s with behind := c :: s.behind, ahead := r } else none

/-- The spot behind a text, if that comes next. -/
def eatText? (same : Char → Char → Bool) : Text → Spot → Option Spot
  | [], s => some s
  | c :: r, s => (s.eat? (same c)).bind (eatText? same r)

/-- The spot a number of characters before. -/
def back? (s : Spot) : Nat → Option Spot
  | 0 => some s
  | n + 1 =>
    match s.behind with
    | [] => none
    | c :: r => back? { s with behind := r, ahead := c :: s.ahead } n

/-- What a group has captured. -/
def captured? (s : Spot) (number : Nat) : Option Text := s.captures.lookup number

/-- A spot with the text since an earlier one captured. -/
def capture (number : Nat) (since s : Spot) : Spot :=
  { s with captures := (number, (s.behind.take (s.pos - since.pos)).reverse) :: s.captures }

/-- A spot with the captures of another. -/
def withCaptures (s t : Spot) : Spot := { s with captures := t.captures }

end Spot

/-- An anchor matches at a spot. There are no boundaries in an empty text, nor places without. -/
def Anchor.holds (f : Flags) (s : Spot) : Anchor → Bool
  | start => s.behind.isEmpty || (f.multiline && s.behind.head? = some '\n')
  | stop => s.ahead.isEmpty || s.ahead = ['\n'] || (f.multiline && s.ahead.head? = some '\n')
  | textStart => s.behind.isEmpty
  | textEnd => s.ahead.isEmpty
  | boundary => s.behind.head?.any f.isWord != s.ahead.head?.any f.isWord
  | notBoundary =>
    !(s.behind.isEmpty && s.ahead.isEmpty) && s.behind.head?.any f.isWord == s.ahead.head?.any f.isWord

end RoutePattern.Regex
