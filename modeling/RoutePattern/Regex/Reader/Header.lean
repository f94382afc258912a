import RoutePattern.Regex.CharacterName
import RoutePattern.Regex.Reader.Escape
import RoutePattern.Text.Alphabetic
import RoutePattern.Text.Identifier

/-! # Group headers and names

* `readHeader`, `readHeaderP`, `readHeaderAngle`: the characters after `(?` that say what a group is.
* `readFlagsOn`, `readFlagsDash`, `readFlagsOff`: the letters of flags in a header.
* `readName`: a name, and what becomes of it when it is closed.
-/

namespace RoutePattern.Regex.Reader

/-- The flag of a symbol. -/
def flagOf? : Symbol → Option Flag
  | .plain c => Flag.ofLetter? c
  | .escaped _ => none

/-- The symbol is a letter. -/
def isLetter : Symbol → Bool
  | .plain c => Text.isAlphabetic c
  | .escaped _ => false

/-! ## Flags -/

/-- A flag turned on in a header. Of the flags that choose rules only one may be. -/
def turnOn (st : State) (start : Nat) (on : Flags) (f : Flag) : Except Error State :=
  if f = .locale then refuse .localeFlag (st.pos + 1)
  else
    let on := on.insert f
    if f.choosesRules && on.ascii && on.unicode then refuse .incompatibleFlags (st.pos + 1)
    else .ok { st with mode := .flagsOn start on }

/-- A flag turned off in a header. -/
def turnOff (st : State) (start : Nat) (on off : Flags) (f : Flag) : Except Error State :=
  if f.choosesRules then refuse .turnsOffRules (st.pos + 1)
  else .ok { st with mode := .flagsOff start on (off.insert f) }

/-- A header whose flags hold for the whole expression, which has to start with it. -/
def setFlags (st : State) (start : Nat) (on : Flags) : Except Error State :=
  if st.frames.isEmpty && st.branches.isEmpty && st.items.isEmpty then
    let flags := st.flags.union on
    .ok { st with mode := .items, flags := flags, verbose := flags.verbose }
  else refuse .lateFlags start

/-- A group for which flags are turned on and off opens. -/
def enterFlagged (st : State) (start : Nat) (on off : Flags) : State :=
  st.enter (.flagged on off) start ((st.verbose || on.verbose) && !off.verbose)

/-- A symbol after a flag turned on. -/
def readFlagsOn (st : State) (start : Nat) (on : Flags) (y : Symbol) : Except Error State :=
  if y = .plain ')' then setFlags st start on
  else if y = .plain ':' || y = .plain '-' then
    if on.reserved then refuse .turnsOnReserved st.pos
    else if y = .plain ':' then .ok (enterFlagged st start on {})
    else .ok { st with mode := .flagsDash start on }
  else match flagOf? y with
    | some f => turnOn st start on f
    | none => refuse (if isLetter y then .unknownFlag else .missingFlagsEnd) st.pos

/-- A symbol after the dash in a header. -/
def readFlagsDash (st : State) (start : Nat) (on : Flags) (y : Symbol) : Except Error State :=
  match flagOf? y with
  | some f => turnOff st start on {} f
  | none => refuse (if isLetter y then .unknownFlag else .missingFlag) st.pos

/-- A symbol after a flag turned off. -/
def readFlagsOff (st : State) (start : Nat) (on off : Flags) (y : Symbol) : Except Error State :=
  if y = .plain ':' then
    if off.reserved then refuse .turnsOffReserved st.pos
    else if on.inter off ≠ {} then refuse .turnsOnAndOff st.pos
    else .ok (enterFlagged st start on off)
  else match flagOf? y with
    | some f => turnOff st start on off f
    | none => refuse (if isLetter y then .unknownFlag else .missingColon) st.pos

/-! ## Headers -/

/-- A symbol after `(?<`. -/
def readHeaderAngle (st : State) (start : Nat) (y : Symbol) : Except Error State :=
  if y = .plain '=' then .ok (st.enterLookbehind start false)
  else if y = .plain '!' then .ok (st.enterLookbehind start true)
  else refuse (.unknownExtension ('?' :: '<' :: y.text)) (st.pos - 2)

/-- A symbol after `(?P`. -/
def readHeaderP (st : State) (start : Nat) (y : Symbol) : Except Error State :=
  if y = .plain '<' then .ok { st with mode := .name .define start [] }
  else if y = .plain '=' then .ok { st with mode := .name .refer start [] }
  else refuse (.unknownExtension ('?' :: 'P' :: y.text)) (st.pos - 2)

/-- A symbol after `(?`. -/
def readHeader (st : State) (start : Nat) (y : Symbol) : Except Error State :=
  match y with
  | .plain ':' => .ok (enterFlagged st start {} {})
  | .plain 'P' => .ok { st with mode := .headerP start }
  | .plain '<' => .ok { st with mode := .headerAngle start }
  | .plain '=' => .ok (st.enter (.lookahead false) start st.verbose)
  | .plain '!' => .ok (st.enter (.lookahead true) start st.verbose)
  | .plain '>' => .ok (st.enter .atomic start st.verbose)
  | .plain '#' => .ok { st with mode := .comment start }
  | .plain '(' => .ok { st with mode := .name .condition start [] }
  | .plain '-' => .ok { st with mode := .flagsDash start {} }
  | y => match flagOf? y with
    | some f => turnOn st start {} f
    | none => refuse (.unknownExtension ('?' :: y.text)) (st.pos - 1)

/-! ## Names -/

/-- The greatest number of groups. -/
def groupLimit : Nat := 1073741823

/-- The name of a group that opens; it starts at an index. -/
def defineGroup (st : State) (start : Nat) (name : Text) (index : Nat) : Except Error State :=
  if !Text.isIdentifier name then refuse (.badGroupName name) index
  else match st.groupNamed? name with
    | some was => refuse (.redefinedName name st.nextGroup was) index
    | none => .ok (st.enterCapture start (some name))

/-- A reference back to the group with a name. -/
def referToGroup (st : State) (name : Text) (index : Nat) : Except Error State :=
  if !Text.isIdentifier name then refuse (.badGroupName name) index
  else match st.groupNamed? name with
    | none => refuse (.unknownGroup name) index
    | some number =>
      if st.isClosed number then
        (st.checkBehind number (st.pos + 1)).map fun _ => st.push (.backref number)
      else refuse .openReference index

/-- The group whose name or number a condition gives. A number may be that of a later group. -/
def askForGroup (st : State) (name : Text) (index : Nat) : Except Error (Nat × State) :=
  if Text.isIdentifier name then
    match st.groupNamed? name with
    | none => refuse (.unknownGroup name) index
    | some number => .ok (number, st)
  else match Text.readInt? name with
    | some (.ofNat number) =>
      if number = 0 then refuse .badGroupNumber index
      else if groupLimit ≤ number then refuse (.invalidReference number) index
      else if st.asked.any (·.1 = number) then .ok (number, st)
      else .ok (number, { st with asked := (number, index) :: st.asked })
    | _ => refuse (.badGroupName name) index

/-- A condition on a group opens. -/
def enterCondition (st : State) (start : Nat) (name : Text) (index : Nat) : Except Error State :=
  (askForGroup st name index).bind fun (number, st) =>
    (st.checkBehind number (st.pos + 1)).map fun _ =>
      st.enter (.condition number) start st.verbose

/-- The character with a name. -/
def placeNamed (st : State) (site : Site) (name : Text) (index : Nat) : Except Error State :=
  match characterNamed? name with
  | some code => st.placeChar site (.escaped 'N') code (st.pos + 1)
  | none => refuse (.unknownCharacter name) (index - 3)

/-- A name is closed by the symbol at hand. -/
def closeName (st : State) (use : NameUse) (start : Nat) (name : Text) : Except Error State :=
  let index := st.pos - name.length
  match use with
  | .define => defineGroup st start name index
  | .refer => referToGroup st name index
  | .condition => enterCondition st start name index
  | .character site => placeNamed st site name index

/-- A symbol inside a name. -/
def readName (st : State) (use : NameUse) (start : Nat) (name : Text) (y : Symbol) :
    Except Error State :=
  if y = .plain use.close then
    if name.isEmpty then refuse (.missingName use.subject) st.pos
    else closeName st use start name
  else .ok { st with mode := .name use start (name ++ y.text) }

end RoutePattern.Regex.Reader
