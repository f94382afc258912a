import RoutePattern.Record
import RoutePattern.Scan.Openings
import RoutePattern.Template.Draft

/-! # Compiling routes

A route becomes one pattern. A template is drafted as an expression and anchored, a pattern stays as
it is, and the sources of a row are joined by bars. On the way, one key is added for every capture
group; keys and records made before a failure stay.

* `Options.anchored`: a template's expression between the anchors that the options ask for.
* `Progress.collect`: the keys of a source.
* `compile`, `compileAll`: a route, and the sources of a row of routes.
* `compileWith`: a route, with options that are yet to be read.
-/

namespace RoutePattern

/-- Why a route does not compile. -/
inductive Failure
  /-- The options are no settings. -/
  | options (e : NoSettings)
  | illTyped (k : Kind)
  /-- The expression is refused. -/
  | rejected (source : Text) (e : Regex.Error)
  /-- A number in the expression is too large to be represented. -/
  | overflow (what : Regex.Overflow)
  deriving DecidableEq, Repr

namespace Failure

/-- The failure for an expression that is refused. -/
def ofError (source : Text) : Regex.Error → Failure
  | .overflow what => overflow what
  | e => rejected source e

/-- The text of a failure. -/
def message : Failure → Text
  | options e => e.message.toList
  | illTyped k => ("Expected a string, compiled pattern or list, got " ++ k.name).toList
  | rejected source e =>
    "Invalid pattern '".toList ++ source ++ "': ".toList ++ e.message source
  | overflow what => what.text

end Failure

/-- The keys collected and the records made so far. -/
structure Progress where
  keys : List Key := []
  log : List Record := []
  deriving Repr

/-- What compiling gives: a result or a failure, and how far it got. -/
abbrev Outcome (α : Type) := Except Failure α × Progress

namespace Progress

/-- A key given to a group; it is reported if no parameter brought it along. -/
def note (p : Progress) (a : Assigned) : Progress where
  keys := p.keys ++ [a.key]
  log := if a.implicit then p.log ++ [.implicitGroup a.key.name a.key.offset] else p.log

/-- The keys for the groups of a source, those of parameters known by index. -/
def collect (p : Progress) (source : Text) (known : KnownKeys) : Progress :=
  (assign known (Key.nextNumber p.keys) (Scan.openings source)).foldl note p

theorem foldl_note (p : Progress) (as : List Assigned) :
    as.foldl note p =
      ⟨p.keys ++ as.map Assigned.key,
        p.log ++ (as.filter Assigned.implicit).map fun a =>
          .implicitGroup a.key.name a.key.offset⟩ := by
  induction as generalizing p with
  | nil => simp
  | cons a as ih => cases h : a.implicit <;> simp [ih, note, h]

theorem keys_collect (p : Progress) (source : Text) (known : KnownKeys) :
    (p.collect source known).keys =
      p.keys ++ (assign known (Key.nextNumber p.keys) (Scan.openings source)).map Assigned.key := by
  rw [collect, foldl_note]

/-- A route's finished source, read; the route is reported if it is accepted. -/
def conclude (p : Progress) (flags : Regex.Flags) (route : Route) (source : Text) :
    Outcome Pattern :=
  match Pattern.read flags source with
  | .ok q => (.ok q, { p with log := p.log ++ [.compiled route q.source] })
  | .error e => (.error (.ofError source e), p)

end Progress

/-- The flags of the patterns compiled under options. -/
def Options.flags (o : Options) : Regex.Flags := { ignoreCase := !o.sensitive }

/-- The text ends with a slash. -/
def endsInSlash (t : Text) : Bool := t.getLast? = some '/'

/-- A source that tolerates a final slash, unless the options are strict. -/
def Options.tolerant (o : Options) (source : Text) : Text :=
  if o.strict then source
  else if endsInSlash source then source ++ ['?']
  else source ++ ['/', '?']

/-- A source anchored at the end, or at the end of a segment. -/
def Options.ended (o : Options) (source : Text) : Text :=
  if o.toEnd then source ++ ['$']
  else if endsInSlash source then source
  else source ++ ['(', '?', ':', '/', '|', '$', ')']

/-- The finished source of a template. -/
def Options.anchored (o : Options) (source : Text) : Text := '^' :: o.ended (o.tolerant source)

/-- A template compiled. -/
def compileTemplate (o : Options) (t : Text) (p : Progress) : Outcome Pattern :=
  let d := draft t
  (p.collect d.source d.named).conclude o.flags (.template t) (o.anchored d.source)

mutual

/-- A route compiled. -/
def compile (o : Options) (r : Route) (p : Progress) : Outcome Pattern :=
  match r with
  | .template t => compileTemplate o t p
  | .pattern q => (.ok q, p.collect q.source [])
  | .row shape rs =>
    match compileAll o rs p with
    | (.ok sources, p) => p.conclude o.flags (.row shape rs) (['|'].intercalate sources)
    | (.error e, p) => (.error e, p)
  | .illTyped k => (.error (.illTyped k), p)

/-- The sources of a row of routes, each compiled after those before it. -/
def compileAll (o : Options) (rs : List Route) (p : Progress) : Outcome (List Text) :=
  match rs with
  | [] => (.ok [], p)
  | r :: rs =>
    match compile o r p with
    | (.ok q, p) =>
      match compileAll o rs p with
      | (.ok sources, p) => (.ok (q.source :: sources), p)
      | (.error e, p) => (.error e, p)
    | (.error e, p) => (.error e, p)

end

/-- A route compiled under options that are read first. -/
def compileWith (source : OptionsSource) (r : Route) (p : Progress) : Outcome Pattern :=
  match Options.read source with
  | .ok o => compile o r p
  | .error e => (.error (.options e), p)

end RoutePattern
