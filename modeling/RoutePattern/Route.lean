import RoutePattern.Options
import RoutePattern.Regex.Pattern

/-! # Routes

* `Route`: what can be compiled: a template, a pattern, or a row of routes that stand for one
  another; and what is given in their place by mistake.
* `Route.shown`: a route as records show it.
-/

namespace RoutePattern

/-- The two kinds of rows; they differ only in how they are shown. -/
inductive RowShape
  | list
  | tuple
  deriving DecidableEq, Repr

/-- What can be compiled, and values of a kind that cannot. -/
inductive Route
  | template (t : Text)
  | pattern (p : Pattern)
  | row (shape : RowShape) (rs : List Route)
  | illTyped (k : Kind)
  deriving Repr

/-- The names of the flags that are shown, by their bits; Unicode rules are taken for granted. -/
def Regex.Flags.names (f : Regex.Flags) : List String :=
  (if f.reserved then ["re.TEMPLATE"] else []) ++ (if f.ignoreCase then ["re.IGNORECASE"] else [])
    ++ (if f.multiline then ["re.MULTILINE"] else []) ++ (if f.dotAll then ["re.DOTALL"] else [])
    ++ (if f.verbose then ["re.VERBOSE"] else []) ++ (if f.ascii then ["re.ASCII"] else [])

/-- How much of a quoted source is shown. -/
def Pattern.shownSize : Nat := 200

/-- A pattern as records show it. -/
def Pattern.shown (p : Pattern) : Text :=
  let names := p.flags.names
  "re.compile(".toList ++ p.source.quoted.take shownSize
    ++ (if names.isEmpty then [] else ", ".toList ++ ("|".intercalate names).toList) ++ [')']

/-- The elements of a row, already shown, in its brackets. A tuple of one has a comma. -/
def RowShape.shown : RowShape → List Text → Text
  | list, ts => '[' :: [',', ' '].intercalate ts ++ [']']
  | tuple, [t] => '(' :: t ++ [',', ')']
  | tuple, ts => '(' :: [',', ' '].intercalate ts ++ [')']

mutual

/-- A route as records show it. -/
def Route.shown : Route → Text
  | .template t => t.quoted
  | .pattern p => p.shown
  | .row shape rs => shape.shown (Route.shownAll rs)
  | .illTyped k => k.name.toList

/-- A row of routes as records show them. -/
def Route.shownAll : List Route → List Text
  | [] => []
  | r :: rs => r.shown :: Route.shownAll rs

end

end RoutePattern
