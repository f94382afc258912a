import RoutePattern.Text.Quoted

/-! # What is wrong with a regular expression

* `Fault`: the causes for which an expression is refused where it stands, with their texts.
* `Overflow`: the numbers in it that may be too large to be represented.
* `Error`: a fault with its index, an overflow, or a fault of the expression as a whole.
* `Error.message`: the text with the index, and with line and column if the expression has lines.
-/

namespace RoutePattern.Regex

/-- Why an expression is refused at some place. -/
inductive Fault
  | finalBackslash
  | badEscape (escape : Text)
  | incompleteEscape (escape : Text)
  | octalTooLarge (escape : Text)
  | missingBrace
  | unknownCharacter (name : Text)
  /-- No name stands where one has to; `what` is what it would name. -/
  | missingName (what : String)
  /-- A name goes on to the end, and the character that closes it is missing. -/
  | openName (close : Char)
  | openSet
  | badRange (first last : Text)
  | openGroup
  | openComment
  | strayClose
  | endInHeader
  | unknownExtension (header : Text)
  | badGroupName (name : Text)
  | redefinedName (name : Text) (number was : Nat)
  | unknownGroup (name : Text)
  | openReference
  | lookbehindReference
  | invalidReference (number : Nat)
  | badGroupNumber
  | thirdBranch
  | nothingToRepeat
  | multipleRepeat
  | reversedRepeat
  | lateFlags
  | localeFlag
  | incompatibleFlags
  | missingFlagsEnd
  | unknownFlag
  | missingFlag
  | missingColon
  | turnsOnReserved
  | turnsOffReserved
  | turnsOffRules
  | turnsOnAndOff
  deriving DecidableEq, Repr

/-- The text of a fault, without its place. -/
def Fault.text : Fault → Text
  | finalBackslash => "bad escape (end of pattern)".toList
  | badEscape e => "bad escape ".toList ++ e
  | incompleteEscape e => "incomplete escape ".toList ++ e
  | octalTooLarge e => "octal escape value ".toList ++ e ++ " outside of range 0-0o377".toList
  | missingBrace => "missing \x7b".toList
  | unknownCharacter n => "undefined character name ".toList ++ n.quoted
  | missingName what => "missing ".toList ++ what.toList
  | openName close => "missing ".toList ++ close :: ", unterminated name".toList
  | openSet => "unterminated character set".toList
  | badRange a b => "bad character range ".toList ++ a ++ '-' :: b
  | openGroup => "missing ), unterminated subpattern".toList
  | openComment => "missing ), unterminated comment".toList
  | strayClose => "unbalanced parenthesis".toList
  | endInHeader => "unexpected end of pattern".toList
  | unknownExtension h => "unknown extension ".toList ++ h
  | badGroupName n => "bad character in group name ".toList ++ n.quoted
  | redefinedName n number was =>
    "redefinition of group name ".toList ++ n.quoted ++ " as group ".toList ++ Text.ofNat number
      ++ "; was group ".toList ++ Text.ofNat was
  | unknownGroup n => "unknown group name ".toList ++ n.quoted
  | openReference => "cannot refer to an open group".toList
  | lookbehindReference =>
    "cannot refer to group defined in the same lookbehind subpattern".toList
  | invalidReference n => "invalid group reference ".toList ++ Text.ofNat n
  | badGroupNumber => "bad group number".toList
  | thirdBranch => "conditional backref with more than two branches".toList
  | nothingToRepeat => "nothing to repeat".toList
  | multipleRepeat => "multiple repeat".toList
  | reversedRepeat => "min repeat greater than max repeat".toList
  | lateFlags => "global flags not at the start of the expression".toList
  | localeFlag => "bad inline flags: cannot use 'L' flag with a str pattern".toList
  | incompatibleFlags => "bad inline flags: flags 'a', 'u' and 'L' are incompatible".toList
  | missingFlagsEnd => "missing -, : or )".toList
  | unknownFlag => "unknown flag".toList
  | missingFlag => "missing flag".toList
  | missingColon => "missing :".toList
  | turnsOnReserved => "bad inline flags: cannot turn on global flag".toList
  | turnsOffReserved => "bad inline flags: cannot turn off global flag".toList
  | turnsOffRules => "bad inline flags: cannot turn off flags 'a', 'u' and 'L'".toList
  | turnsOnAndOff => "bad inline flags: flag turned on and off".toList

/-- A number in an expression that is too large to be represented. -/
inductive Overflow
  /-- How often something is repeated. -/
  | count
  /-- The code of a character. -/
  | code
  deriving DecidableEq, Repr

/-- The text of an overflow. -/
def Overflow.text : Overflow → Text
  | count => "the repetition number is too large".toList
  | code => "int too large to convert to C int".toList

/-- Why an expression is refused. -/
inductive Error
  | located (fault : Fault) (index : Nat)
  | variableLookbehind
  | overflow (what : Overflow)
  deriving DecidableEq, Repr

namespace Error

/-- The line and column of an index, both from 1. -/
def place (source : Text) (index : Nat) : Nat × Nat :=
  let before := source.take index
  (before.count '\n' + 1, (before.reverse.takeWhile (· ≠ '\n')).length + 1)

/-- The text of an error in an expression. -/
def message (source : Text) : Error → Text
  | .located fault index =>
    let text := fault.text ++ " at position ".toList ++ Text.ofNat index
    if source.contains '\n' then
      let (line, column) := place source index
      text ++ " (line ".toList ++ Text.ofNat line ++ ", column ".toList ++ Text.ofNat column ++ [')']
    else text
  | .variableLookbehind => "look-behind requires fixed-width pattern".toList
  | .overflow what => what.text

end Error

end RoutePattern.Regex
