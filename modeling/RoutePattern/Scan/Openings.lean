import RoutePattern.Group
import RoutePattern.Scan.CharClass
import RoutePattern.Scan.Header

/-! # The capture groups of a text

* `openings`: every capture group that opens in a text, left to right, with escapes, classes and
  headers stepped over whole.
-/

namespace RoutePattern.Scan

/-- The capture groups of a text that starts at an index. -/
def openingsFrom (i : Nat) (t : Text) : List Group :=
  match t with
  | [] => []
  | '\\' :: r => openingsFrom (i + 2) (r.drop 1)
  | '[' :: r =>
    let n := classSize ('[' :: r)
    openingsFrom (i + n) (('[' :: r).drop n)
  | '(' :: r =>
    let h := Header.read ('(' :: r)
    let later := openingsFrom (i + h.size) (('(' :: r).drop h.size)
    if h.opening.captures then ⟨i, h.opening.name?⟩ :: later else later
  | _ :: r => openingsFrom (i + 1) r
termination_by t.length
decreasing_by
  all_goals simp only [List.length_drop, List.length_cons]
  · omega
  · have := classSize_pos ('[' :: r); omega
  · have := Header.read_size_pos ('(' :: r); omega
  · omega

/-- The capture groups of a text, left to right. -/
def openings (t : Text) : List Group := openingsFrom 0 t

end RoutePattern.Scan
