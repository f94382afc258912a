import RoutePattern.Text.Basic

/-! # Literal text in a regular expression

* `literal`: the expression for one character, a backslash in front if it could mean anything else.
-/

namespace RoutePattern.Regex

/-- The characters that mean something in some place of a regular expression. -/
def specialChars : List Char :=
  ['(', ')', '[', ']', '\x7b', '\x7d', '?', '*', '+', '-', '|', '^', '$', '\\', '.', '&', '~', '#',
    ' ', '\t', '\n', '\r', '\x0b', '\x0c']

/-- The expression that matches one character only. -/
def literal (c : Char) : Text := if specialChars.contains c then ['\\', c] else [c]

end RoutePattern.Regex
