import RoutePattern.Regex.Reader.State

/-! # Escapes

* `State.placeChar`: a character written as an escape, put where the escape stands.
* `readItemEscape`, `readSetEscape`: a backslash and its character, outside and inside a set.
* `extendHex`, `extendOctal?`, `extendReference?`: one digit more of an escape with digits.
-/

namespace RoutePattern.Regex.Reader

/-! ## Letters of escapes -/

/-- The anchor of a letter. -/
def anchorEscape? : Char → Option Anchor
  | 'A' => some .textStart
  | 'Z' => some .textEnd
  | 'b' => some .boundary
  | 'B' => some .notBoundary
  | _ => none

/-- The category of a letter; a capital stands for what is outside it. -/
def categoryEscape? : Char → Option Member
  | 'd' => some (.category .digit false)
  | 'D' => some (.category .digit true)
  | 's' => some (.category .space false)
  | 'S' => some (.category .space true)
  | 'w' => some (.category .word false)
  | 'W' => some (.category .word true)
  | _ => none

/-- The control character of a letter. -/
def controlEscape? : Char → Option Nat
  | 'a' => some 7
  | 'f' => some 12
  | 'n' => some 10
  | 'r' => some 13
  | 't' => some 9
  | 'v' => some 11
  | _ => none

/-- The number of hexadecimal digits after a letter. -/
def hexDigits? : Char → Option Nat
  | 'x' => some 2
  | 'u' => some 4
  | 'U' => some 8
  | _ => none

/-! ## Digits -/

/-- A digit under the ASCII rules. -/
def isDigit (c : Char) : Bool := '0' ≤ c && c ≤ '9'

/-- An octal digit. -/
def isOctal (c : Char) : Bool := '0' ≤ c && c ≤ '7'

/-- A hexadecimal digit. -/
def isHex (c : Char) : Bool := isDigit c || ('a' ≤ c && c ≤ 'f') || ('A' ≤ c && c ≤ 'F')

/-- The value of a hexadecimal digit. -/
def digitValue (c : Char) : Nat :=
  if isDigit c then c.toNat - 48 else if 'a' ≤ c then c.toNat - 87 else c.toNat - 55

/-- The number of a row of digits. -/
def numeral (base : Nat) (digits : Text) : Nat :=
  digits.foldl (fun n c => n * base + digitValue c) 0

/-- The greatest value of an octal escape. -/
def octalLimit : Nat := 255

/-- The greatest code point. -/
def codeLimit : Nat := 0x10ffff

/-- The greatest number that is taken for a code, whether or not a character has it. -/
def numberLimit : Nat := 0x7fffffff

/-! ## Placing a character -/

namespace State

/-- A range, read up to `stop`, ends with a member. -/
def closeRange (st : State) (s : OpenSet) (first : Symbol) (m : Member) (last : Symbol) (n : Member)
    (stop : Nat) : Except Error State :=
  let bad := refuse (.badRange first.text last.text) (stop - (first.size + 1 + last.size))
  match m, n with
  | .char a, .char b =>
    if b < a then bad else .ok { st with mode := .setMember (s.add (.range a b)) }
  | _, _ => bad

/-- A member of a set or of a range, written as an escape that was read up to `stop`. -/
def placeMember (st : State) (site : Site) (written : Symbol) (m : Member) (stop : Nat) :
    Except Error State :=
  match site with
  | .item => .ok (st.push (.set false [m]))
  | .member s => .ok { st with mode := .setAfter s written m }
  | .rangeEnd s first a => st.closeRange s first a written m stop

/-- A character, written as an escape that was read up to `stop`. -/
def placeChar (st : State) (site : Site) (written : Symbol) (code stop : Nat) :
    Except Error State :=
  match site with
  | .item => .ok (st.push (.char code))
  | site => st.placeMember site written (.char code) stop

/-- A reference back to a group; its escape has the digits and ends at the position. -/
def placeReference (st : State) (digits : Text) (stop : Nat) : Except Error State :=
  let number := numeral 10 digits
  if number < st.nextGroup then
    if st.isClosed number then
      (st.checkBehind number stop).map fun _ => st.push (.backref number)
    else refuse .openReference (stop - (digits.length + 1))
  else refuse (.invalidReference number) (stop - digits.length)

end State

/-! ## A backslash and its character -/

/-- An escape outside sets. -/
def readItemEscape (st : State) (c : Char) : Except Error State :=
  match anchorEscape? c, categoryEscape? c, controlEscape? c, hexDigits? c with
  | some a, _, _, _ => .ok (st.push (.anchor a))
  | _, some m, _, _ => .ok (st.push (.set false [m]))
  | _, _, some n, _ => .ok (st.push (.char n))
  | _, _, _, some _ => .ok { st with mode := .hex .item c [] }
  | none, none, none, none =>
    if c = 'N' then .ok { st with mode := .nameBrace .item }
    else if c = '0' then .ok { st with mode := .octal .item [c] }
    else if isDigit c then .ok { st with mode := .reference [c] }
    else if c.isAlpha then refuse (.badEscape ['\\', c]) st.pos
    else .ok (st.push (.char c.toNat))

/-- An escape inside a set. -/
def readSetEscape (st : State) (site : Site) (c : Char) : Except Error State :=
  match categoryEscape? c, controlEscape? c, hexDigits? c with
  | some m, _, _ => st.placeMember site (.escaped c) m (st.pos + 2)
  | _, some n, _ => st.placeChar site (.escaped c) n (st.pos + 2)
  | _, _, some _ => .ok { st with mode := .hex site c [] }
  | none, none, none =>
    if c = 'b' then st.placeChar site (.escaped c) 8 (st.pos + 2)
    else if c = 'N' then .ok { st with mode := .nameBrace site }
    else if isOctal c then .ok { st with mode := .octal site [c] }
    else if c.isAlphanum then refuse (.badEscape ['\\', c]) st.pos
    else st.placeChar site (.escaped c) c.toNat (st.pos + 2)

/-! ## Escapes with digits -/

/-- The digits of a hexadecimal escape with a symbol more. -/
def extendHex (st : State) (site : Site) (letter : Char) (digits : Text) (s : Symbol) :
    Except Error State :=
  let short := refuse (.incompleteEscape ('\\' :: letter :: digits)) (st.pos - (digits.length + 2))
  match s with
  | .escaped _ => short
  | .plain c =>
    if isHex c then
      let digits := digits ++ [c]
      if digits.length < (hexDigits? letter).getD 0 then
        .ok { st with mode := .hex site letter digits }
      else if numberLimit < numeral 16 digits then .error (.overflow .code)
      else if codeLimit < numeral 16 digits then
        refuse (.badEscape ('\\' :: letter :: digits)) (st.pos + 1 - (digits.length + 2))
      else st.placeChar site (.escaped letter) (numeral 16 digits) (st.pos + 1)
    else short

/-- The digits of an octal escape with a symbol more, if it belongs to them. -/
def extendOctal? (st : State) (site : Site) (digits : Text) :
    Symbol → Option (Except Error State)
  | .escaped _ => none
  | .plain c =>
    if isOctal c then
      let digits := digits ++ [c]
      if digits.length < 3 then some (.ok { st with mode := .octal site digits })
      else if octalLimit < numeral 8 digits then
        some (refuse (.octalTooLarge ('\\' :: digits)) (st.pos - digits.length))
      else some (st.placeChar site (.escaped (digits.headD '0')) (numeral 8 digits) (st.pos + 1))
    else none

/-- The digits of a reference with a symbol more, if it belongs to them. With three octal digits it
is no reference but an octal escape. -/
def extendReference? (st : State) (digits : Text) : Symbol → Option (Except Error State)
  | .escaped _ => none
  | .plain c =>
    if digits.length = 1 then
      if !isDigit c then none
      else if digits.all isOctal && isOctal c then
        some (.ok { st with mode := .reference (digits ++ [c]) })
      else some (st.placeReference (digits ++ [c]) (st.pos + 1))
    else extendOctal? st .item digits (.plain c)

end RoutePattern.Regex.Reader
