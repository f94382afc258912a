import RoutePattern.Regex.Reader.Escape

/-! # Sets

* `readSetStart`, `readSetMember`, `readSetAfter`, `readSetDash`: one symbol in each place of a set.
  A `]` closes only after a first member; a dash before it is a member.
-/

namespace RoutePattern.Regex.Reader

/-- The set is closed by the symbol at hand. -/
def State.closeSet (st : State) (s : OpenSet) : State :=
  { st.push (.set s.negated s.members.reverse) with sets := (s.start, st.pos + 1) :: st.sets }

/-- A symbol between members. -/
def readSetMember (st : State) (s : OpenSet) : Symbol → Except Error State
  | .escaped c => readSetEscape st (.member s) c
  | .plain c =>
    if c = ']' && !s.members.isEmpty then .ok (st.closeSet s)
    else .ok { st with mode := .setAfter s (.plain c) (.char c.toNat) }

/-- A symbol after the bracket that opens a set. -/
def readSetStart (st : State) (s : OpenSet) (y : Symbol) : Except Error State :=
  if y = .plain '^' then .ok { st with mode := .setMember { s with negated := true } }
  else readSetMember st s y

/-- A symbol after a member. -/
def readSetAfter (st : State) (s : OpenSet) (first : Symbol) (m : Member) (y : Symbol) :
    Except Error State :=
  if y = .plain '-' then .ok { st with mode := .setDash s first m }
  else readSetMember st (s.add m) y

/-- A symbol after the dash of a range. -/
def readSetDash (st : State) (s : OpenSet) (first : Symbol) (m : Member) :
    Symbol → Except Error State
  | .escaped c => readSetEscape st (.rangeEnd s first m) c
  | .plain c =>
    if c = ']' then .ok (st.closeSet ((s.add m).add (.char 45)))
    else st.closeRange s first m (.plain c) (.char c.toNat) (st.pos + 1)

end RoutePattern.Regex.Reader
