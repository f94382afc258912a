import RoutePattern.Text.Basic

/-! # Character classes in a text

The extent of a character class, found without a look at what its members mean: a backslash takes
the character after it along, a `]` in first place is a member, and the next `]` closes.

* `classSize`: the code points from the opening bracket through the closing one. A class left open
  reaches to the end of the text, and one code point past it if a lone backslash stands there.
-/

namespace RoutePattern.Scan

/-- The code points of the members of a class and of the bracket that closes it. -/
def membersSize : Text → Nat
  | [] => 0
  | ['\\'] => 2
  | '\\' :: _ :: r => membersSize r + 2
  | ']' :: _ => 1
  | _ :: r => membersSize r + 1

/-- The code points of a class, given the text from its opening bracket on. -/
def classSize (t : Text) : Nat :=
  match t.drop 1 with
  | '^' :: ']' :: r => membersSize r + 3
  | '^' :: r => membersSize r + 2
  | ']' :: r => membersSize r + 2
  | r => membersSize r + 1

theorem classSize_pos (t : Text) : 0 < classSize t := by
  unfold classSize; split <;> omega

end RoutePattern.Scan
