import RoutePattern.Regex.Reader.CharSet
import RoutePattern.Regex.Reader.Header

/-! # Reading a regular expression

* `step`: one symbol. A construct that goes on with the symbol takes it (`extend?`); else the
  construct ends (`settle`) and the symbol is read where the reader then stands (`react`).
* `finish`: the end of the expression.
* `loneError`: what is wrong with an expression that ends in a lone backslash; errors that stand
  before its last symbol come first (`loneError_of_error`).
* `read`: a whole expression; reading two texts one after the other is reading them in turn
  (`readFrom_append`).
-/

namespace RoutePattern.Regex

/-- An expression as it was read. -/
structure Parsed where
  tree : Regex
  /-- The flags that were given and those that the expression sets for itself. -/
  flags : Flags
  /-- The capture groups by number, from 1. -/
  groups : List Group
  /-- The extents of the sets, from the bracket that opens to behind the one that closes. -/
  sets : List (Nat × Nat)
  deriving DecidableEq, Repr

namespace Reader

/-! ## Between items -/

/-- White space that means nothing in verbose expressions. -/
def isSkipped (c : Char) : Bool :=
  c = ' ' || c = '\t' || c = '\n' || c = '\r' || c = '\x0b' || c = '\x0c'

/-- A character between items. -/
def readItem (st : State) (c : Char) : Except Error State :=
  if st.verbose && isSkipped c then .ok st
  else if st.verbose && c = '#' then .ok { st with mode := .lineComment }
  else match c with
    | '|' => st.bar
    | ')' => st.close
    | '(' => .ok { st with mode := .opened st.pos }
    | '[' => .ok { st with mode := .setStart { start := st.pos } }
    | '.' => .ok (st.push .any)
    | '^' => .ok (st.push (.anchor .start))
    | '$' => .ok (st.push (.anchor .stop))
    | '*' => st.quantify st.pos 0 none
    | '+' => st.quantify st.pos 1 none
    | '?' => st.quantify st.pos 0 (some 1)
    | '\x7b' => .ok { st with mode := .braces st.pos [] none }
    | c => .ok (st.push (.char c.toNat))

/-! ## Counts in braces -/

/-- The characters of a brace that opens no repeat, as items. -/
def State.pushLiterals (st : State) (t : Text) : State :=
  { st with mode := .items, items := t.reverse.map (fun c => .char c.toNat) ++ st.items }

/-- The text of a brace that opens no repeat. -/
def bracesText (least : Text) (most : Option Text) : Text :=
  '\x7b' :: least ++ (most.map (',' :: ·)).getD []

/-- The count that digits give. -/
def count? (digits : Text) : Except Error (Option Nat) :=
  if digits.isEmpty then .ok none
  else if countLimit ≤ numeral 10 digits then .error (.overflow .count)
  else .ok (some (numeral 10 digits))

/-- The repeat that braces give: a number of times, or between two. -/
def closeBraces (st : State) (start : Nat) (least : Text) (most : Option Text) :
    Except Error State :=
  (count? least).bind fun lo => (count? (most.getD least)).bind fun hi =>
    if hi.any (· < lo.getD 0) then refuse .reversedRepeat (start + 1)
    else st.quantify start (lo.getD 0) hi

/-- The braces with a symbol more, if it belongs to them. -/
def extendBraces? (st : State) (start : Nat) (least : Text) (most : Option Text) :
    Symbol → Option (Except Error State)
  | .escaped _ => none
  | .plain c =>
    if isDigit c then
      some (.ok { st with mode := match most with
        | none => .braces start (least ++ [c]) none
        | some digits => .braces start least (some (digits ++ [c])) })
    else if c = ',' && most.isNone then some (.ok { st with mode := .braces start least (some []) })
    else if c = '\x7d' && !(least.isEmpty && most.isNone) then some (closeBraces st start least most)
    else none

/-! ## One symbol -/

/-- The construct at hand with a symbol more, if it goes on with it. -/
def extend? (st : State) (y : Symbol) : Option (Except Error State) :=
  match st.mode with
  | .repeated =>
    if y = .plain '?' then some (.ok (st.setGreed .lazy))
    else if y = .plain '+' then some (.ok (st.setGreed .possessive))
    else none
  | .braces start least most => extendBraces? st start least most y
  | .opened start => if y = .plain '?' then some (.ok { st with mode := .header start }) else none
  | .octal site digits => extendOctal? st site digits y
  | .reference digits => extendReference? st digits y
  | _ => none

/-- The construct at hand ends where the next symbol does not belong to it. -/
def settle (st : State) : Except Error State :=
  match st.mode with
  | .repeated => .ok { st with mode := .items }
  | .braces _ least most => .ok (st.pushLiterals (bracesText least most))
  | .opened start => .ok (st.enterCapture start none)
  | .octal site digits =>
    st.placeChar site (.escaped (digits.headD '0')) (numeral 8 digits) st.pos
  | .reference digits => st.placeReference digits st.pos
  | _ => .ok st

/-- A symbol in a place that is no construct which could end before it. -/
def react (st : State) (y : Symbol) : Except Error State :=
  match st.mode with
  | .lineComment => .ok (if y = .plain '\n' then { st with mode := .items } else st)
  | .comment _ => .ok (if y = .plain ')' then { st with mode := .items } else st)
  | .header start => readHeader st start y
  | .headerP start => readHeaderP st start y
  | .headerAngle start => readHeaderAngle st start y
  | .name use start name => readName st use start name y
  | .flagsOn start on => readFlagsOn st start on y
  | .flagsDash start on => readFlagsDash st start on y
  | .flagsOff start on off => readFlagsOff st start on off y
  | .setStart s => readSetStart st s y
  | .setMember s => readSetMember st s y
  | .setAfter s first m => readSetAfter st s first m y
  | .setDash s first m => readSetDash st s first m y
  | .hex site letter digits => extendHex st site letter digits y
  | .nameBrace site =>
    if y = .plain '\x7b' then .ok { st with mode := .name (.character site) st.pos [] }
    else refuse .missingBrace st.pos
  | _ => match y with
    | .plain c => readItem st c
    | .escaped c => readItemEscape st c

/-- One symbol, taken by the construct at hand or read after its end. -/
def take (st : State) (y : Symbol) : Except Error State :=
  match extend? st y with
  | some next => next
  | none => (settle st).bind fun st => react st y

/-- One symbol, and on to the next. -/
def step (st : State) (y : Symbol) : Except Error State :=
  (take st y).map fun next => { next with pos := st.pos + y.size }

/-! ## The end -/

/-- The fault of an expression that ends inside a construct. -/
def openFault? (st : State) : Option (Fault × Nat) :=
  match st.mode with
  | .comment start => some (.openComment, start)
  | .header _ => some (.endInHeader, st.pos)
  | .headerP _ => some (.endInHeader, st.pos)
  | .headerAngle _ => some (.endInHeader, st.pos)
  | .name use _ name =>
    if name.isEmpty then some (.missingName use.subject, st.pos)
    else some (.openName use.close, st.pos - name.length)
  | .flagsOn _ _ => some (.missingFlagsEnd, st.pos)
  | .flagsDash _ _ => some (.missingFlag, st.pos)
  | .flagsOff _ _ _ => some (.missingColon, st.pos)
  | .setStart s => some (.openSet, s.start)
  | .setMember s => some (.openSet, s.start)
  | .setAfter s _ _ => some (.openSet, s.start)
  | .setDash s _ _ => some (.openSet, s.start)
  | .hex _ letter digits =>
    some (.incompleteEscape ('\\' :: letter :: digits), st.pos - (digits.length + 2))
  | .nameBrace _ => some (.missingBrace, st.pos)
  | _ => st.frames.head?.map fun f => (.openGroup, f.start)

/-- The first condition on a group that there is not. -/
def unmetCondition? (st : State) : Option (Nat × Nat) :=
  st.asked.reverse.find? fun a => st.groups.length < a.1

/-- The expression that has been read, if nothing is left open. -/
def conclude (st : State) : Except Error Parsed :=
  match openFault? st, unmetCondition? st with
  | some (fault, index), _ => refuse fault index
  | none, some (number, index) => refuse (.invalidReference number) index
  | none, none =>
    if st.variableLookbehind then .error .variableLookbehind
    else .ok {
      tree := st.body
      flags := st.flags.settled
      groups := st.groups.map MetGroup.toGroup
      sets := st.sets.reverse }

/-- The end of the expression. -/
def finish (st : State) : Except Error Parsed := (settle st).bind conclude

/-- The symbols of a text read from a state on. -/
def readFrom (st : State) (ys : List Symbol) : Except Error State := ys.foldlM step st

theorem readFrom_append (st : State) (xs ys : List Symbol) :
    readFrom st (xs ++ ys) = (readFrom st xs).bind fun st => readFrom st ys := by
  simp only [readFrom, List.foldlM_append]
  rfl

/-! ## A lone backslash

A symbol is only taken once the one behind it is known. With a lone backslash behind it a symbol is
still seen, and an error that shows at its sight comes before the backslash.
-/

/-- A symbol that is judged at sight: a bar or a parenthesis between items, and what does not belong
where an escape needs a digit or a brace. -/
def Mode.judges : Mode → Symbol → Bool
  | .items, .plain c => c = ')' || c = '|'
  | .hex _ _ _, .plain c => !isHex c
  | .hex _ _ _, .escaped _ => true
  | .nameBrace _, _ => true
  | _, _ => false

/-- One symbol that is seen but not taken. -/
def glance (st : State) (y : Symbol) : Except Error State :=
  if (extend? st y).isSome then .ok st
  else (settle st).bind fun st => if st.mode.judges y then react st y else .ok st

/-- The first error in symbols with a lone backslash behind them, whose index is given. -/
def loneError (st : State) (index : Nat) : List Symbol → Error
  | [] => .located .finalBackslash index
  | [y] => match glance st y with
    | .error e => e
    | .ok _ => .located .finalBackslash index
  | y :: ys => match step st y with
    | .error e => e
    | .ok next => loneError next index ys

/-- The backslash hides no error in symbols before the last one. -/
theorem loneError_of_error {st : State} {ys : List Symbol} {e : Error} (h : readFrom st ys = .error e)
    (index : Nat) (y : Symbol) : loneError st index (ys ++ [y]) = e := by
  induction ys generalizing st with
  | nil => cases h
  | cons x ys ih =>
    have rest : ys ++ [y] ≠ [] := by simp
    rw [readFrom, List.foldlM_cons] at h
    rw [List.cons_append, loneError]
    · cases hx : step st x with
      | error f =>
        rw [hx] at h
        exact Except.error.inj h
      | ok next =>
        rw [hx] at h
        exact ih h
    · exact rest

/-! ## A whole expression -/

/-- The state in which reading starts. -/
def start (flags : Flags) : State := { flags := flags, verbose := flags.verbose }

/-- A regular expression under flags. -/
def read (flags : Flags) (source : Text) : Except Error Parsed :=
  match symbols? source with
  | none =>
    let before := source.dropLast
    .error (loneError (start flags) before.length ((symbols? before).getD []))
  | some ys => (readFrom (start flags) ys).bind finish

end Reader

end RoutePattern.Regex
