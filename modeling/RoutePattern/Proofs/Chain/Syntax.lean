import Mathlib.Data.List.Infix
import RoutePattern.Proofs.Path.Syntax

/-! # Chains

A chain is a segment of several parameters, each kept apart from the one in front of it by a dot or
by literal text.

* `Separator`, `Link`: what keeps two parameters apart, and the parameter behind it.
* `Chain.template`: the template of a chain.
* `Chain.Splits`: a text is what the chain stands for, with the values of the parameters. A
  separator comes up at no place of the value behind it (`Separator.Spares`).
* `Shorter`: the order in which values are preferred.
-/

namespace RoutePattern

/-- Literal text between parameters. It has no dot, and the name in front of it ends where it
starts. -/
structure Mark extends Literal where
  undotted : '.' ∉ text
  apart : text.takeWhile Text.isWord = []

/-- What keeps a parameter apart from the one in front of it. -/
inductive Separator
  | dot
  | mark (w : Mark)

/-- A separator, and the parameter behind it. -/
structure Link where
  separator : Separator
  name : Word

/-- A parameter behind a slash, and those that are linked to it. -/
structure Chain where
  first : Word
  links : List Link

def Separator.text : Separator → Text
  | dot => ['.']
  | mark w => w.text

/-- The template of a link. -/
def Link.text (k : Link) : Text := k.separator.text ++ ':' :: k.name.text

/-- The template of a chain. -/
def Chain.template (p : Chain) : Text := '/' :: ':' :: p.first.text ++ p.links.flatMap Link.text

/-! ## What a chain stands for -/

/-- The separator starts at no place of the value `x`, where the text goes on with `u`. -/
def Separator.Spares (d : Separator) (x u : Text) : Prop :=
  ∀ a b, x = a ++ b → b ≠ [] → ¬ d.text <+: b ++ u

theorem Separator.spares_iff (d : Separator) (x u : Text) :
    d.Spares x u ↔ ∀ b ∈ x.tails, b ≠ [] → ¬ d.text <+: b ++ u := by
  simp only [List.mem_tails]
  exact ⟨fun h b ⟨a, hb⟩ => h a b hb.symm, fun h a b hx => h b ⟨a, hx.symm⟩⟩

instance (d : Separator) (x u : Text) : Decidable (d.Spares x u) :=
  decidable_of_iff _ (d.spares_iff x u).symm

/-- The text is the links one after the other. -/
inductive Link.Splits : List Link → List Text → Text → Prop
  | nil : Splits [] [] []
  | cons {k : Link} {ks : List Link} {x u : Text} {xs : List Text} : Path.IsValue x →
      k.separator.Spares x u → Splits ks xs u →
      Splits (k :: ks) (x :: xs) (k.separator.text ++ x ++ u)

/-- The text is a slash, a value and the links. -/
inductive Chain.Splits (p : Chain) : List Text → Text → Prop
  | intro {x u : Text} {xs : List Text} : Path.IsValue x → Link.Splits p.links xs u →
      p.Splits (x :: xs) ('/' :: x ++ u)

/-- The first values that differ in their lengths are shorter. -/
def Shorter (xs ys : List Text) : Prop :=
  List.Lex (· < ·) (xs.map List.length) (ys.map List.length)

end RoutePattern
