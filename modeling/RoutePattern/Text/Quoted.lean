import RoutePattern.Text.Printable

/-! # Quoted texts

A quoted text stands between quotes on one line, with escapes for what does not print.

* `quoteMark`: the single quote, unless the text has single quotes and no double ones.
* `quoted`: the quoted form. The quote and the backslash are escaped by a backslash; tab, line feed
  and return by their letters; every other character that does not print by its number, in the
  shortest of the forms with two, four and eight digits.
-/

namespace RoutePattern.Text

/-- The quote around a text. -/
def quoteMark (t : Text) : Char := if t.contains '\'' && !t.contains '"' then '"' else '\''

/-- A number in hexadecimal, with zeros in front up to a width. -/
def hexadecimal (width n : Nat) : Text := (Nat.toDigits 16 n).leftpad width '0'

/-- The escape of a character by its number. -/
def numberEscape (n : Nat) : Text :=
  if n < 0x100 then '\\' :: 'x' :: hexadecimal 2 n
  else if n < 0x10000 then '\\' :: 'u' :: hexadecimal 4 n
  else '\\' :: 'U' :: hexadecimal 8 n

/-- A character inside quotes. -/
def quotedChar (quote c : Char) : Text :=
  if c = quote || c = '\\' then ['\\', c]
  else if c = '\t' then ['\\', 't']
  else if c = '\n' then ['\\', 'n']
  else if c = '\r' then ['\\', 'r']
  else if isPrintable c then [c]
  else numberEscape c.toNat

/-- The quoted form of a text. -/
def quoted (t : Text) : Text :=
  let quote := quoteMark t
  quote :: t.flatMap (quotedChar quote) ++ [quote]

end RoutePattern.Text
