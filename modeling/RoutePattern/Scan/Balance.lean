import RoutePattern.Scan.Piece

/-! # Balanced groups

* `groupSize?`: the code points of the balanced group at the start of a text. Parentheses count only
  outside escapes and classes; group headers have no say.
-/

namespace RoutePattern.Scan

/-- The code points up to the parenthesis that closes the outermost of `depth` open groups. -/
def closingSize? (depth : Int) : List Piece → Option Nat
  | [] => none
  | p :: ps =>
    match p with
    | .char '(' => (closingSize? (depth + 1) ps).map (· + 1)
    | .char ')' => if depth = 1 then some 1 else (closingSize? (depth - 1) ps).map (· + 1)
    | p => (closingSize? depth ps).map (· + p.size)

/-- The code points of the group that opens at the start of a text, if it is ever closed. -/
def groupSize? (t : Text) : Option Nat := closingSize? 0 (pieces t)

end RoutePattern.Scan
