import RoutePattern.Compile
import RoutePattern.Proofs.Template.Keys

/-! # Paths

A path is a template of segments: literal text, a parameter, or at the end a parameter that takes
the rest of the path.

* `Path.template`: the template of a path.
* `Path.Splits`: a text is what the segments stand for, with the values of the parameters.
* `Path.Answers`: a text fits a path; a final slash may be tolerated. `Before` says which values are
  preferred.
* `Path.Keyed`: the keys of a path.
-/

namespace RoutePattern

/-- The name of a parameter. -/
structure Word where
  text : Text
  nonempty : text ≠ []
  word : ∀ c ∈ text, Text.isWord c

/-- The characters that literal text in a path may not have. -/
def pathMarks : List Char :=
  ['/', '\\', '*', '(', ')', '[', ']', '\x7b', '\x7d', '+', '?', '|', '^', '$', ':']

/-- The literal text of a segment. -/
structure Literal where
  text : Text
  nonempty : text ≠ []
  plain : ∀ c ∈ text, c ∉ pathMarks

/-- A row of segments. -/
inductive Path
  | stop
  /-- A last parameter with a star. -/
  | rest (name : Word)
  | literal (w : Literal) (p : Path)
  | param (name : Word) (optional : Bool) (p : Path)

namespace Path

/-- The template of a path. -/
def template : Path → Text
  | stop => []
  | rest name => '/' :: ':' :: name.text ++ ['*']
  | literal w p => '/' :: w.text ++ p.template
  | param name optional p =>
    '/' :: ':' :: name.text ++ (if optional then ['?'] else []) ++ p.template

/-- A text that is empty or starts with a slash. -/
def IsTail (u : Text) : Prop := u = [] ∨ ∃ r, u = '/' :: r

theorem IsTail.append {u r : Text} (hu : IsTail u) (hr : IsTail r) : IsTail (u ++ r) := by
  rcases hu with rfl | ⟨v, rfl⟩
  · exact hr
  · exact .inr ⟨v ++ r, rfl⟩

theorem template_isTail (p : Path) : IsTail p.template := by
  cases p with
  | stop => exact .inl rfl
  | rest name => exact .inr ⟨_, rfl⟩
  | literal w p => exact .inr ⟨_, rfl⟩
  | param name optional p =>
    rw [template, List.append_assoc]
    exact .inr ⟨_, rfl⟩

/-! ## What a path stands for -/

/-- The value of a parameter. -/
def IsValue (v : Text) : Prop := v ≠ [] ∧ '/' ∉ v

/-- What a parameter with a star takes behind its value. -/
def IsRest (r : Text) : Prop := r = [] ∨ ∃ c q, r = '/' :: c :: q

/-- The text is the segments one after the other, the optional ones present or absent. -/
inductive Splits : Path → List (Option Text) → Text → Prop
  | stop : Splits stop [] []
  | rest {name : Word} {v r : Text} : IsValue v → IsRest r →
      Splits (rest name) [some v, some r] ('/' :: v ++ r)
  | literal {w : Literal} {p : Path} {vs : List (Option Text)} {u : Text} : Splits p vs u →
      Splits (literal w p) vs ('/' :: w.text ++ u)
  | present {name : Word} {optional : Bool} {p : Path} {v u : Text} {vs : List (Option Text)} :
      IsValue v → Splits p vs u → Splits (param name optional p) (some v :: vs) ('/' :: v ++ u)
  | absent {name : Word} {p : Path} {vs : List (Option Text)} {u : Text} : Splits p vs u →
      Splits (param name true p) (none :: vs) u

/-- The text is what the segments stand for, but for a final slash that is tolerated. -/
def Answers (strict : Bool) (p : Path) (vs : List (Option Text)) (s : Text) : Prop :=
  Splits p vs s ∨ (strict = false ∧ ∃ u, s = u ++ ['/'] ∧ Splits p vs u)

/-- Present comes before absent, from left to right, and a rest without the final slash before one
with it. -/
inductive Before : List (Option Text) → List (Option Text) → Prop
  | present {v : Text} {vs ws : List (Option Text)} : Before (some v :: vs) (none :: ws)
  | slash {r : Text} : Before [some r] [some (r ++ ['/'])]
  | later {v : Option Text} {vs ws : List (Option Text)} : Before vs ws → Before (v :: vs) (v :: ws)

/-! ## Keys -/

/-- The keys give the names of the parameters and whether they may be absent; for the rest of a
parameter with a star there is one with a number, which is `n`. -/
def Keyed (n : Int) : Path → List Key → Prop
  | stop, ks => ks = []
  | rest name, ks => ∃ k l, ks = [k, l] ∧ k.name = .text name.text ∧ k.optional = false ∧
      l.name = .number n ∧ l.optional = false
  | literal _ p, ks => p.Keyed n ks
  | param name optional p, ks =>
    ∃ k ls, ks = k :: ls ∧ k.name = .text name.text ∧ k.optional = optional ∧ p.Keyed n ls

end Path

end RoutePattern
