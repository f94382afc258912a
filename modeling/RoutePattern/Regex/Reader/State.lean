import RoutePattern.Group
import RoutePattern.Regex.Fault
import RoutePattern.Regex.Symbol
import RoutePattern.Regex.Width

/-! # The state of reading a regular expression

An expression is read symbol by symbol. What has been read is kept as the items of the alternative
at hand, the alternatives before it, and a frame for every group that is still open.

* `Mode`: the construct in whose middle the reader stands.
* `State`: mode, position, open groups, and what is known of groups, sets and conditions.
* `State.push`, `State.quantify`, `State.bar`, `State.enter`, `State.close`: how items, repeats,
  bars and groups change what has been read.
-/

namespace RoutePattern.Regex.Reader

/-- A set that is being read: where it starts and its members so far, the latest first. -/
structure OpenSet where
  start : Nat
  negated : Bool := false
  members : List Member := []
  deriving DecidableEq, Repr

/-- The set with one member more. -/
def OpenSet.add (s : OpenSet) (m : Member) : OpenSet := { s with members := m :: s.members }

/-- What an escape stands for: an item, a member of a set, or the last character of a range whose
first one was written as a symbol. -/
inductive Site
  | item
  | member (s : OpenSet)
  | rangeEnd (s : OpenSet) (first : Symbol) (m : Member)
  deriving DecidableEq, Repr

/-- What a name does: it names a group, refers back to one, asks whether one has captured, or stands
for a character. -/
inductive NameUse
  | define
  | refer
  | condition
  | character (site : Site)
  deriving DecidableEq, Repr

namespace NameUse

/-- The character that closes a name. -/
def close : NameUse → Char
  | define => '>'
  | refer => ')'
  | condition => ')'
  | character _ => '\x7d'

/-- What a name would name. -/
def subject : NameUse → String
  | character _ => "character name"
  | _ => "group name"

end NameUse

/-- The construct in whose middle the reader stands; `start` is where it starts. -/
inductive Mode
  /-- Between items. -/
  | items
  /-- After a repeat, which a mark may make lazy or possessive. -/
  | repeated
  /-- After a brace, with the digits read before and after a comma. -/
  | braces (start : Nat) (least : Text) (most : Option Text)
  | lineComment
  | comment (start : Nat)
  /-- After a parenthesis. -/
  | opened (start : Nat)
  /-- After `(?`. -/
  | header (start : Nat)
  /-- After `(?P`. -/
  | headerP (start : Nat)
  /-- After `(?<`. -/
  | headerAngle (start : Nat)
  /-- Inside a name. -/
  | name (use : NameUse) (start : Nat) (text : Text)
  /-- After a letter of the flags that a header turns on. -/
  | flagsOn (start : Nat) (on : Flags)
  /-- After the dash in a header. -/
  | flagsDash (start : Nat) (on : Flags)
  /-- After a letter of the flags that a header turns off. -/
  | flagsOff (start : Nat) (on off : Flags)
  /-- After the bracket that opens a set. -/
  | setStart (s : OpenSet)
  /-- Between members of a set. -/
  | setMember (s : OpenSet)
  /-- After a member that may start a range. -/
  | setAfter (s : OpenSet) (first : Symbol) (m : Member)
  /-- After the dash of a range. -/
  | setDash (s : OpenSet) (first : Symbol) (m : Member)
  /-- Inside a hexadecimal escape. -/
  | hex (site : Site) (letter : Char) (digits : Text)
  /-- After the escape that a character name follows. -/
  | nameBrace (site : Site)
  /-- Inside an octal escape. -/
  | octal (site : Site) (digits : Text)
  /-- Inside an escape that is a group's number, or octal with a third digit. -/
  | reference (digits : Text)
  deriving DecidableEq, Repr

/-- What an open group will be. -/
inductive Opener
  | capture (number : Nat)
  | flagged (on off : Flags)
  | atomic
  | lookahead (negated : Bool)
  | lookbehind (negated : Bool)
  | condition (number : Nat)
  deriving DecidableEq, Repr

/-- An open group, with what was read around it before it opened. -/
structure Frame where
  opener : Opener
  start : Nat
  branches : List Regex
  items : List Regex
  verbose : Bool
  behind : Option Nat
  deriving DecidableEq, Repr

/-- A capture group met so far; it has a width once it is closed. -/
structure MetGroup extends Group where
  width : Option Width := none
  deriving DecidableEq, Repr

/-- How far an expression has been read. -/
structure State where
  mode : Mode := .items
  /-- The index of the next symbol. -/
  pos : Nat := 0
  /-- The flags of the whole expression. -/
  flags : Flags := {}
  /-- White space and comments mean nothing here. -/
  verbose : Bool := false
  /-- The alternatives before the one at hand, the latest first. -/
  branches : List Regex := []
  /-- The items of the alternative at hand, the latest first. -/
  items : List Regex := []
  /-- The open groups, the innermost first. -/
  frames : List Frame := []
  /-- The capture groups by number, from 1. -/
  groups : List MetGroup := []
  /-- The extents of the sets, the latest first. -/
  sets : List (Nat × Nat) := []
  /-- The numbers that conditions asked for and where they first did, the latest first. -/
  asked : List (Nat × Nat) := []
  /-- Inside a look-behind, the number of the next group when the outermost one opened. -/
  behind : Option Nat := none
  /-- Some look-behind has no fixed width. -/
  variableLookbehind : Bool := false
  deriving DecidableEq, Repr

/-- Refuses the expression for a fault at an index. -/
def refuse {α : Type} (f : Fault) (index : Nat) : Except Error α := .error (.located f index)

namespace State

/-- The number of the next capture group. -/
def nextGroup (st : State) : Nat := st.groups.length + 1

/-- The capture group with a number. -/
def group? (st : State) (number : Nat) : Option MetGroup :=
  if number = 0 then none else st.groups[number - 1]?

/-- The group has been read to its end. -/
def isClosed (st : State) (number : Nat) : Bool :=
  ((st.group? number).bind (·.width)).isSome

/-- The number of the group with a name. -/
def groupNamed? (st : State) (name : Text) : Option Nat :=
  (st.groups.findIdx? (·.name = some name)).map (· + 1)

/-- The width of a group that is closed. -/
def groupWidth (st : State) (number : Nat) : Width :=
  ((st.group? number).bind (·.width)).getD ⟨0, 0⟩

/-- One item more. -/
def push (st : State) (r : Regex) : State := { st with items := r :: st.items, mode := .items }

/-- The last item repeated; the repeat stands at an index. -/
def quantify (st : State) (index least : Nat) (most : Option Nat) : Except Error State :=
  match st.items with
  | [] => refuse .nothingToRepeat index
  | r :: rs =>
    if r.isAnchor then refuse .nothingToRepeat index
    else if r.isRepeat then refuse .multipleRepeat index
    else .ok { st with items := .rep least most .greedy r :: rs, mode := .repeated }

/-- The last item, a repeat, made lazy or possessive. -/
def setGreed (st : State) (g : Greed) : State :=
  match st.items with
  | .rep least most _ r :: rs => { st with items := .rep least most g r :: rs, mode := .items }
  | _ => { st with mode := .items }

/-- A bar: the next alternative starts. A condition has two. -/
def bar (st : State) : Except Error State :=
  let next := { st with branches := concat st.items.reverse :: st.branches, items := [] }
  match st.frames with
  | ⟨.condition _, _, _, _, _, _⟩ :: _ =>
    if st.branches.isEmpty then .ok next else refuse .thirdBranch st.pos
  | _ => .ok next

/-- A group opens. -/
def enter (st : State) (opener : Opener) (start : Nat) (verbose : Bool) : State :=
  { st with
    mode := .items
    verbose := verbose
    branches := []
    items := []
    frames := ⟨opener, start, st.branches, st.items, st.verbose, st.behind⟩ :: st.frames }

/-- A capture group opens. -/
def enterCapture (st : State) (start : Nat) (name : Option Text) : State :=
  { st.enter (.capture st.nextGroup) start st.verbose with
    groups := st.groups ++ [{ index := start, name := name }] }

/-- A look-behind opens. -/
def enterLookbehind (st : State) (start : Nat) (negated : Bool) : State :=
  { st.enter (.lookbehind negated) start st.verbose with
    behind := some (st.behind.getD st.nextGroup) }

/-- The alternatives read since the innermost group opened, in order. -/
def alternatives (st : State) : Regex × List Regex :=
  match (concat st.items.reverse :: st.branches).reverse with
  | [] => (.empty, [])
  | r :: rs => (r, rs)

/-- What has been read since the innermost group opened. -/
def body (st : State) : Regex := choice st.alternatives.1 st.alternatives.2

/-- The width of a group's body, noted for the group. -/
def noteWidth (st : State) (number : Nat) : State :=
  { st with groups := st.groups.modify (number - 1) fun g =>
      { g with width := some (st.body.width st.groupWidth) } }

/-- What a group that closes becomes. -/
def closed (st : State) : Opener → Regex
  | .capture n => .capture n st.body
  | .flagged on off => .flagged on off st.body
  | .atomic => .atomic st.body
  | .lookahead negated => .lookahead negated st.body
  | .lookbehind negated => .lookbehind (st.body.width st.groupWidth).least negated st.body
  | .condition n => .cond n st.alternatives.1 (concat st.alternatives.2)

/-- What is noted of a group that closes. -/
def noteClosed (st : State) : Opener → State
  | .capture n => st.noteWidth n
  | .lookbehind _ =>
    { st with variableLookbehind :=
        st.variableLookbehind || !(st.body.width st.groupWidth).isFixed }
  | _ => st

/-- The innermost group closes. -/
def close (st : State) : Except Error State :=
  match st.frames with
  | [] => refuse .strayClose st.pos
  | f :: fs =>
    .ok { st.noteClosed f.opener with
      mode := .items
      verbose := f.verbose
      branches := f.branches
      items := st.closed f.opener :: f.items
      frames := fs
      behind := f.behind }

/-- A group may be referred to here: inside a look-behind it has to be closed and to have opened
before the look-behind. -/
def checkBehind (st : State) (number stop : Nat) : Except Error Unit :=
  match st.behind with
  | none => .ok ()
  | some limit =>
    if !st.isClosed number then refuse .openReference stop
    else if limit ≤ number then refuse .lookbehindReference stop
    else .ok ()

end State

end RoutePattern.Regex.Reader
