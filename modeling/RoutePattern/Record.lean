import RoutePattern.Key
import RoutePattern.Route

/-! # Records

* `Record`: what is reported while routes are compiled.
* `Record.message`, `Record.line`: its text, and the line that a stream receives.
-/

namespace RoutePattern

/-- What is reported: a key that no parameter brought along, or a route that compiled. -/
inductive Record
  | implicitGroup (name : KeyName) (index : Int)
  | compiled (route : Route) (source : Text)
  deriving Repr

/-- The name of a key as records show it. -/
def KeyName.shown : KeyName → Text
  | text t => t.quoted
  | number n => Text.ofInt n

namespace Record

/-- The text of a record. -/
def message : Record → Text
  | implicitGroup name index =>
    "Implicit group ".toList ++ name.shown ++ " at ".toList ++ Text.ofInt index
  | compiled route source => "Compiled ".toList ++ route.shown ++ " to ".toList ++ source

/-- The line of a record. -/
def line (r : Record) : Text :=
  "[path_to_regexp.compiler] - [DEBUG] - ".toList ++ r.message ++ ['\n']

end Record

end RoutePattern
