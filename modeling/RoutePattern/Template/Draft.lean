import RoutePattern.Key
import RoutePattern.Regex.Literal
import RoutePattern.Scan.Wildcard
import RoutePattern.Template.Token

/-! # From a template to a regular expression

A template is put into the syntax of regular expressions token by token. The one thing that a token
has to know of those before it is the guard: the literal text since the last slash, parameter, group
or class, as an expression. A parameter without a group of its own captures up to the next slash, and
with a guard also no further than the guard's next occurrence.

* `Token.written`: what a token becomes under a guard; `Token.guardAfter`: the guard it leaves.
* `Draft.push`: one token more; `draft`: all tokens of a template.
-/

namespace RoutePattern

namespace Param

/-- The dot in front of a parameter, as an expression. -/
def formatText (p : Param) : Text := if p.format then ['\\', '.'] else []

/-- The guard that holds for a parameter: none if a slash or dot of its own keeps it apart. -/
def guardFor (guard : Text) (p : Param) : Text := if p.slash || p.format then [] else guard

/-- What is written before the capture group of a parameter. -/
def opening (p : Param) : Text :=
  ['(', '?', ':'] ++ (if p.slash then ['/'] else []) ++ p.formatText

/-- The capture group of a parameter without one of its own. -/
def defaultGroup (guard : Text) (p : Param) : Text :=
  let guard := p.guardFor guard
  if guard.isEmpty then ['(', '[', '^', '/'] ++ p.formatText ++ [']', '+', '?', ')']
  else ['(', '(', '?', ':', '(', '?', '!', '/', '|'] ++ guard ++ [')', '.', ')', '+', '?', ')']

/-- A group written after a parameter, as a capture group. -/
def ownGroup (capture : Text) : Text :=
  let expanded := Scan.expandWildcards capture
  if (Scan.Header.read expanded).opening.captures then expanded else '(' :: expanded ++ [')']

/-- The capture group of a parameter. -/
def group (guard : Text) (p : Param) : Text :=
  match p.capture with
  | some capture => ownGroup capture
  | none => p.defaultGroup guard

/-- The group for the rest of the path after a starred parameter. -/
def restGroup (p : Param) : Text :=
  if p.marks.star then ['(', '(', '?', ':', '[', '/'] ++ p.formatText ++
    [']', '.', '+', '?', ')', '?', ')']
  else []

/-- What a parameter becomes. -/
def written (guard : Text) (p : Param) : Text :=
  p.opening ++ p.group guard ++ p.restGroup ++ ')' :: (if p.marks.optional then ['?'] else [])

end Param

namespace Token

/-- What a token becomes under a guard. -/
def written (guard : Text) : Token → Text
  | escape c => (escape c).text
  | param p => p.written guard
  | dot => ['\\', '.']
  | star => Scan.wildcard
  | slashGroup => ['/', '(', '?', ':']
  | header source none => source
  | header _ (some name) => ['(', '?', 'P', '<'] ++ name ++ ['>']
  | charClass source => source
  | literal c => [c]

/-- The guard after a token. -/
def guardAfter (guard : Text) : Token → Text
  | escape c => guard ++ (escape c).text
  | dot => guard ++ ['\\', '.']
  | literal c => if c = '/' then [] else guard ++ Regex.literal c
  | _ => []

end Token

/-- The expression for a template up to some token. -/
structure Draft where
  /-- The expression written so far. -/
  source : Text := []
  guard : Text := []
  /-- The code points of the template read so far. -/
  consumed : Nat := 0
  /-- The keys of the parameters, by the index of their capture group in `source`. -/
  named : KnownKeys := []
  deriving DecidableEq, Repr

namespace Draft

/-- The keys that a token adds. -/
def newKeys (d : Draft) : Token → KnownKeys
  | .param p =>
    [(d.source.length + p.opening.length,
      ⟨.text p.name, p.marks.optional, (d.consumed + p.text.length : Nat)⟩)]
  | _ => []

/-- The draft with one token more. -/
def push (d : Draft) (k : Token) : Draft where
  source := d.source ++ k.written d.guard
  guard := k.guardAfter d.guard
  consumed := d.consumed + k.size
  named := d.named ++ d.newKeys k

end Draft

/-- The expression for a template, without anchors. -/
def draft (t : Text) : Draft := (tokens t).foldl Draft.push {}

end RoutePattern
