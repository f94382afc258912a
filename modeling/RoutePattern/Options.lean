import RoutePattern.Text.Basic

/-! # Options

* `Options`: whether a final slash is tolerated, whether the whole path has to match, whether case
  counts.
* `Options.read`: options from loosely typed settings. A null setting leaves the default; any other
  value counts as its truth (`Setting.truth?`); settings that are no options are passed over.
-/

namespace RoutePattern

/-- The kinds of values that settings and routes may be given as. -/
inductive Kind
  | null
  | bool
  | int
  | float
  | text
  | list
  | mapping
  deriving DecidableEq, Repr

/-- The name of a kind in messages. -/
def Kind.name : Kind → String
  | null => "NoneType"
  | bool => "bool"
  | int => "int"
  | float => "float"
  | text => "str"
  | list => "list"
  | mapping => "dict"

/-- A loosely typed value. Of a fraction only counts whether it is zero, of a list or mapping only
how many elements it has. -/
inductive Setting
  | null
  | bool (b : Bool)
  | int (n : Int)
  | float (isZero : Bool)
  | text (t : Text)
  | list (size : Nat)
  | mapping (size : Nat)
  deriving DecidableEq, Repr

/-- The truth of a value: zero and what is empty are false; null has none. -/
def Setting.truth? : Setting → Option Bool
  | null => none
  | bool b => some b
  | int n => some (n != 0)
  | float isZero => some !isZero
  | text t => some !t.isEmpty
  | list n => some (n != 0)
  | mapping n => some (n != 0)

/-- How a route is compiled. -/
structure Options where
  /-- A final slash is not optional. -/
  strict : Bool := false
  /-- The route has to match up to the end. -/
  toEnd : Bool := true
  /-- Case counts. -/
  sensitive : Bool := false
  deriving DecidableEq, Repr

/-- What options are given as: nothing, named settings, or a value that has no settings. -/
inductive OptionsSource
  | absent
  | settings (fields : List (Text × Setting))
  | other (k : Kind)
  deriving DecidableEq, Repr

/-- The given value has no settings. -/
structure NoSettings where
  kind : Kind
  deriving DecidableEq, Repr

/-- The text for a value without settings. -/
def NoSettings.message (e : NoSettings) : String :=
  "'" ++ e.kind.name ++ "' object has no attribute 'items'"

namespace Options

/-- The options with one setting made. -/
def set (o : Options) (name : Text) (v : Setting) : Options :=
  match v.truth? with
  | none => o
  | some b =>
    if name = "strict".toList then { o with strict := b }
    else if name = "end".toList then { o with toEnd := b }
    else if name = "sensitive".toList then { o with sensitive := b }
    else o

/-- The options from their source. -/
def read : OptionsSource → Except NoSettings Options
  | .absent => .ok {}
  | .settings fields => .ok (fields.foldl (fun o f => o.set f.1 f.2) {})
  | .other k => .error ⟨k⟩

end Options

end RoutePattern
