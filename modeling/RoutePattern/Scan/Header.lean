import RoutePattern.Text.Basic

/-! # Group headers in a text

What stands at the opening of a group, up to where its contents go on.

* `Opening`: whether the group captures, and under which name.
* `Header.read`: the header at the start of a text. A comment counts as one header through its
  closing parenthesis. Both `(?P<` and `(?<` give a name, unless `=` or `!` makes the latter a
  look-behind. Of any other `(?` header only the two first characters are taken.
-/

namespace RoutePattern.Scan

/-- How a group opens: it captures, it captures under a name, or it does not capture. -/
inductive Opening
  | plain
  | named (name : Text)
  | silent
  deriving DecidableEq, Repr

namespace Opening

/-- The group captures. -/
def captures : Opening → Bool
  | plain => true
  | named _ => true
  | silent => false

/-- The name of the group. -/
def name? : Opening → Option Text
  | named n => some n
  | _ => none

end Opening

/-- A group header: how the group opens, and the code points of the header. -/
structure Header where
  opening : Opening
  size : Nat
  deriving DecidableEq, Repr

namespace Header

/-- The header whose name starts after `before` code points; without a `>` it names nothing. -/
def readName (before : Nat) (t : Text) : Header :=
  match t.cut? '>' with
  | some (name, _) => ⟨.named name, before + name.length + 1⟩
  | none => ⟨.silent, before⟩

/-- The comment whose text starts after `before` code points; left open it takes everything. -/
def readComment (before : Nat) (t : Text) : Header :=
  match t.cut? ')' with
  | some (comment, _) => ⟨.silent, before + comment.length + 1⟩
  | none => ⟨.silent, before + t.length⟩

/-- The header at the start of a text. -/
def read : Text → Header
  | '(' :: '?' :: '#' :: r => readComment 3 r
  | '(' :: '?' :: 'P' :: '<' :: r => readName 4 r
  | '(' :: '?' :: '<' :: '=' :: _ => ⟨.silent, 2⟩
  | '(' :: '?' :: '<' :: '!' :: _ => ⟨.silent, 2⟩
  | '(' :: '?' :: '<' :: r => readName 3 r
  | '(' :: '?' :: _ => ⟨.silent, 2⟩
  | _ => ⟨.plain, 1⟩

theorem readName_size_pos {n : Nat} (h : 0 < n) (t : Text) : 0 < (readName n t).size := by
  unfold readName
  split
  · exact Nat.succ_pos _
  · exact h

theorem readComment_size_pos {n : Nat} (h : 0 < n) (t : Text) : 0 < (readComment n t).size := by
  unfold readComment
  split
  · exact Nat.succ_pos _
  · exact Nat.add_pos_left h _

theorem read_size_pos (t : Text) : 0 < (read t).size := by
  unfold read
  split <;> first
    | exact readComment_size_pos (by decide) _
    | exact readName_size_pos (by decide) _
    | simp

end Header

end RoutePattern.Scan
