import RoutePattern.Scan.CharClass

/-! # Pieces of a text

A text of regular expression syntax falls into escapes, character classes and single characters.

* `pieces`: this division; `text_pieces` says that nothing is lost.
-/

namespace RoutePattern.Scan

/-- A piece of a text: a backslash with the character after it, a class, or any other character. -/
inductive Piece
  | escape (c : Option Char)
  | charClass (t : Text)
  | char (c : Char)
  deriving DecidableEq, Repr

namespace Piece

/-- The text of a piece. -/
def text : Piece → Text
  | escape c => '\\' :: c.toList
  | charClass t => t
  | char c => [c]

/-- The code points of a piece. -/
def size (p : Piece) : Nat := p.text.length

end Piece

/-- The pieces of a text, left to right. -/
def pieces (t : Text) : List Piece :=
  match t with
  | [] => []
  | ['\\'] => [.escape none]
  | '\\' :: c :: r => .escape (some c) :: pieces r
  | '[' :: r =>
    let n := classSize ('[' :: r)
    .charClass (('[' :: r).take n) :: pieces (('[' :: r).drop n)
  | c :: r => .char c :: pieces r
termination_by t.length
decreasing_by
  all_goals simp only [List.length_drop, List.length_cons]
  · omega
  · have := classSize_pos ('[' :: r); omega
  · omega

theorem text_pieces (t : Text) : (pieces t).flatMap Piece.text = t := by
  fun_induction pieces t with
  | case1 => rfl
  | case2 => rfl
  | case3 c r ih => simp [Piece.text, ih]
  | case4 r n ih => simp only [List.flatMap_cons, Piece.text, ih, List.take_append_drop]
  | case5 c r _ _ _ ih => simp [Piece.text, ih]

end RoutePattern.Scan
