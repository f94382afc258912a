import RoutePattern.Group

/-! # Keys

A key says what a capture group of a route holds: its name, or a number where it has none.

* `nextNumber`: the number for the next group without a name: one more than the largest number in
  use, 0 if there is none.
* `assign`: the keys of a row of groups: the key known for the group's index, else the group's own
  name, else the next number.
-/

namespace RoutePattern

/-- What a key is called: by a name or by a number. -/
inductive KeyName
  | text (t : Text)
  | number (n : Int)
  deriving DecidableEq, Repr

/-- A key: its name, whether its group may be missing, and where it comes from. -/
structure Key where
  name : KeyName
  optional : Bool := false
  offset : Int := 0
  deriving DecidableEq, Repr

namespace Key

/-- The number of a key without a name. -/
def number? (k : Key) : Option Int :=
  match k.name with
  | .number n => some n
  | .text _ => none

/-- The number for the next group without a name. -/
def nextNumber (keys : List Key) : Int := (keys.filterMap number?).max?.getD (-1) + 1

end Key

/-- A key given to a group; `implicit` if the group brought it along and no parameter did. -/
structure Assigned where
  key : Key
  implicit : Bool
  deriving DecidableEq, Repr

/-- The keys known before, by the index where their group opens. -/
abbrev KnownKeys := List (Nat × Key)

/-- The key known for an index; the latest entry counts. -/
def KnownKeys.key? (known : KnownKeys) (index : Nat) : Option Key := known.reverse.lookup index

/-- The keys of a row of groups, the ones without a name numbered from `next` on. -/
def assign (known : KnownKeys) (next : Int) : List Group → List Assigned
  | [] => []
  | g :: gs =>
    match known.key? g.index, g.name with
    | some k, _ => ⟨k, false⟩ :: assign known next gs
    | none, some name => ⟨⟨.text name, false, g.index⟩, true⟩ :: assign known next gs
    | none, none => ⟨⟨.number next, false, g.index⟩, true⟩ :: assign known (next + 1) gs

end RoutePattern
