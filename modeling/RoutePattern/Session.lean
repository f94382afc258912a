import RoutePattern.Compile

/-! # Sessions

A session is a row of steps that share one list of keys and one log.

* `Logging`: who receives the records: nobody unless debugging is on, then every stream that was
  ever named, each once.
* `Session.step`: one step, with its answer and the text that each stream receives.
-/

namespace RoutePattern

/-- Who receives the records. -/
structure Logging where
  debug : Bool := false
  /-- The streams in the order in which they were first named. -/
  streams : List Text := []
  deriving DecidableEq, Repr

namespace Logging

/-- The stream that is meant when none is named. -/
def standardStream : Text := "stdout".toList

/-- The name of the log. -/
def name : String := "path_to_regexp"

/-- The least level of records that are passed on. -/
def level (g : Logging) : Nat := if g.debug then 10 else 40

/-- Debugging turned on or off, and a stream added unless it is there. -/
def configure (g : Logging) (debug : Bool) (stream : Option Text) : Logging where
  debug := debug
  streams :=
    let name := stream.getD standardStream
    if g.streams.contains name then g.streams else g.streams ++ [name]

/-- The text that each stream receives for a row of records; streams without text are left out. -/
def deliver (g : Logging) (records : List Record) : List (Text × Text) :=
  if g.debug && !records.isEmpty then g.streams.map fun s => (s, records.flatMap Record.line)
  else []

end Logging

/-- The state that the steps of a session share. -/
structure Session where
  keys : List Key := []
  logging : Logging := {}
  /-- The pattern compiled last. -/
  last : Option Pattern := none
  deriving Repr

/-- A step of a session. Without a route, the pattern compiled last is meant. -/
inductive Step
  | compile (options : OptionsSource) (route : Option Route)
  | clearKeys
  | seedKey (k : Key)
  | configure (debug : Bool) (stream : Option Text)
  deriving Repr

/-- The answer to a step. -/
inductive Answer
  /-- What compiling gave; `same` if the route was a pattern and came back. -/
  | compiled (result : Except Failure Pattern) (same : Bool) (keys : List Key)
  | keys (ks : List Key)
  | configured (level handlers : Nat)

/-- The answer to a step, and the text that each stream received. -/
structure Report where
  answer : Answer
  log : List (Text × Text) := []

/-- The route is a pattern, which comes back as it is. -/
def Route.isPattern : Route → Bool
  | .pattern _ => true
  | _ => false

namespace Session

/-- The route that a step means. -/
def route (s : Session) : Option Route → Route
  | some r => r
  | none =>
    match s.last with
    | some p => .pattern p
    | none => .illTyped .null

/-- A step that compiles. -/
def compileStep (s : Session) (options : OptionsSource) (r : Route) : Session × Report :=
  let (result, progress) := compileWith options r { keys := s.keys }
  let last := match result with
    | .ok p => some p
    | .error _ => s.last
  ({ s with keys := progress.keys, last := last },
    { answer := .compiled result r.isPattern progress.keys, log := s.logging.deliver progress.log })

/-- One step. -/
def step (s : Session) : Step → Session × Report
  | .compile options r => s.compileStep options (s.route r)
  | .clearKeys => ({ s with keys := [] }, { answer := .keys [] })
  | .seedKey k => ({ s with keys := s.keys ++ [k] }, { answer := .keys (s.keys ++ [k]) })
  | .configure debug stream =>
    let logging := s.logging.configure debug stream
    ({ s with logging := logging },
      { answer := .configured logging.level logging.streams.length })

/-- The reports of a row of steps. -/
def run (s : Session) : List Step → List Report
  | [] => []
  | t :: ts =>
    let (s, report) := s.step t
    report :: s.run ts

end Session

end RoutePattern
