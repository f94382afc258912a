import RoutePattern.Scan.Piece

/-! # Bare wildcards

A `*` at the start of a text, after a parenthesis that opens or after a bar has nothing to repeat.

* `expandWildcards`: every such star becomes the group `(.*)`, all else stays.
-/

namespace RoutePattern.Scan

/-- The group that stands for a bare star. -/
def wildcard : Text := ['(', '.', '*', ')']

/-- `expandWildcards` on pieces, given whether there is something before them to repeat. -/
def expandPieces (repeatable : Bool) : List Piece → Text
  | [] => []
  | p :: ps =>
    match p with
    | .char '*' => (if repeatable then ['*'] else wildcard) ++ expandPieces true ps
    | .char c => c :: expandPieces (c != '(' && c != '|') ps
    | p => p.text ++ expandPieces true ps

/-- A text with every bare star made a wildcard group. -/
def expandWildcards (t : Text) : Text := expandPieces false (pieces t)

end RoutePattern.Scan
