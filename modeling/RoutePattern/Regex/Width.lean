import RoutePattern.Regex.Tree

/-! # Widths

* `Regex.width`: the least and the greatest number of characters that an expression matches, as far
  as its tree tells. Both stop at a limit, which also stands for "any number".
-/

namespace RoutePattern.Regex

/-- What stands for any number of times or characters; no count in an expression reaches it. -/
def countLimit : Nat := 4294967295

/-- The least and the greatest number of characters. -/
structure Width where
  least : Nat
  greatest : Nat
  deriving DecidableEq, Repr

namespace Width

/-- A width kept below the limit. -/
def capped (least greatest : Nat) : Width := ⟨min least (countLimit - 1), min greatest countLimit⟩

/-- One after the other. -/
def add (v w : Width) : Width := capped (v.least + w.least) (v.greatest + w.greatest)

/-- One or the other. -/
def join (v w : Width) : Width := ⟨min v.least w.least, max v.greatest w.greatest⟩

/-- One a number of times. -/
def times (w : Width) (least : Nat) (most : Option Nat) : Width :=
  capped (w.least * least) (w.greatest * most.getD countLimit)

/-- Every match has the same number of characters. -/
def isFixed (w : Width) : Bool := w.least == w.greatest

end Width

/-- The width of an expression, given the widths of the groups it refers back to. -/
def width (group : Nat → Width) : Regex → Width
  | empty => ⟨0, 0⟩
  | char _ => ⟨1, 1⟩
  | any => ⟨1, 1⟩
  | set _ _ => ⟨1, 1⟩
  | anchor _ => ⟨0, 0⟩
  | seq r s => (r.width group).add (s.width group)
  | alt r s => (r.width group).join (s.width group)
  | rep least most _ body => (body.width group).times least most
  | capture _ body => body.width group
  | backref n => group n
  | lookahead _ _ => ⟨0, 0⟩
  | lookbehind _ _ _ => ⟨0, 0⟩
  | cond _ yes no => (yes.width group).join (no.width group)
  | atomic body => body.width group
  | flagged _ _ body => body.width group

end RoutePattern.Regex
