import RoutePattern.Scan.Balance
import RoutePattern.Scan.Header
import RoutePattern.Template.Param

/-! # Tokens of a template

A template is a row of tokens: parameters with all that belongs to them, wildcards, pieces of
regular expression syntax that are kept whole, and literal characters.

* `Token.first`: the token at the start of a nonempty text.
* `tokens`: the tokens of a template; `text_tokens` says that nothing is lost.
-/

namespace RoutePattern

/-- A parameter: its name, the balanced group written after it, and its marks. -/
structure Param extends ParamName where
  capture : Option Text
  marks : Modifiers
  deriving DecidableEq, Repr

/-- The text of a parameter. -/
def Param.text (p : Param) : Text :=
  p.toParamName.text ++ p.capture.getD [] ++ p.marks.text

/-- A token of a template. -/
inductive Token
  /-- A backslash with the character after it, if one is left. -/
  | escape (c : Option Char)
  | param (p : Param)
  | dot
  | star
  /-- A slash and a parenthesis: a group that does not capture. -/
  | slashGroup
  /-- A group header kept whole, with a colon after it; `name` if it names a capture group. -/
  | header (source : Text) (name : Option Text)
  | charClass (source : Text)
  | literal (c : Char)
  deriving DecidableEq, Repr

namespace Token

/-- The text of a token. -/
def text : Token → Text
  | escape c => '\\' :: c.toList
  | param p => p.text
  | dot => ['.']
  | star => ['*']
  | slashGroup => ['/', '(']
  | header source _ => source
  | charClass source => source
  | literal c => [c]

/-- The code points of a token. -/
def size (k : Token) : Nat := k.text.length

/-- The parameter whose name stands at the start of a text that goes on with `rest`. -/
def readParam (name : ParamName) (rest : Text) : Param :=
  let capture := match rest with
    | '(' :: _ => (Scan.groupSize? rest).map rest.take
    | _ => none
  let after := rest.drop (capture.getD []).length
  { name with capture := capture, marks := .read after }

/-- The group header at the start of a text, with the colon after it. -/
def readHeader (t : Text) : Token :=
  let h := Scan.Header.read t
  let n := if (t.drop h.size).head? = some ':' then h.size + 1 else h.size
  .header (t.take n) h.opening.name?

/-- The token at the start of a text where no parameter stands. -/
def firstPlain (c : Char) (r : Text) : Token :=
  match c, r with
  | '\\', [] => .escape none
  | '\\', d :: _ => .escape (some d)
  | '.', _ => .dot
  | '*', _ => .star
  | '/', '(' :: '?' :: _ => .literal '/'
  | '/', '(' :: _ => .slashGroup
  | '(', '?' :: _ => readHeader (c :: r)
  | '[', _ => .charClass ((c :: r).take (Scan.classSize (c :: r)))
  | c, _ => .literal c

/-- The token at the start of the text `c :: r`. -/
def first (c : Char) (r : Text) : Token :=
  match ParamName.read? (c :: r) with
  | some name => .param (readParam name ((c :: r).drop name.text.length))
  | none => firstPlain c r

theorem text_readParam_isPrefix (name : ParamName) (rest : Text) :
    (readParam name rest).text <+: name.text ++ rest := by
  have hc : ∀ o : Option Nat, (o.map rest.take).getD [] <+: rest := by
    intro o; cases o <;> simp [List.take_prefix]
  have key : ∀ u : Text, u <+: rest →
      name.text ++ u ++ (Modifiers.read (rest.drop u.length)).text <+: name.text ++ rest := by
    intro u hu
    rw [List.append_assoc, List.prefix_append_right_inj]
    conv => rhs; rw [← List.prefix_iff_eq_append.1 hu]
    exact (List.prefix_append_right_inj _).2 (Modifiers.text_read_isPrefix _)
  unfold readParam Param.text
  split
  · exact key _ (hc _)
  · exact key [] List.nil_prefix

theorem text_firstPlain_isPrefix (c : Char) (r : Text) : (firstPlain c r).text <+: c :: r := by
  unfold firstPlain
  split <;> simp [text, readHeader, List.take_prefix]

theorem text_first_isPrefix (c : Char) (r : Text) : (first c r).text <+: c :: r := by
  unfold first
  split
  · next name h =>
    have := text_readParam_isPrefix name ((c :: r).drop name.text.length)
    rwa [List.prefix_iff_eq_append.1 (ParamName.text_isPrefix_of_read? h)] at this
  · exact text_firstPlain_isPrefix c r

theorem size_first_pos (c : Char) (r : Text) : 0 < (first c r).size := by
  have take_pos : ∀ (n : Nat) (d : Char) (s : Text), 0 < n → 0 < ((d :: s).take n).length := by
    intro n d s h; simp; omega
  unfold first
  split
  · next name _ =>
    have := name.text_length_pos
    simp only [size, text, Param.text, List.length_append, readParam]
    omega
  · unfold firstPlain
    split <;> simp only [size, text, readHeader, List.length_cons, Option.toList, List.length_nil]
    all_goals first
      | omega
      | (apply take_pos; have := Scan.classSize_pos; first | exact this _ | skip)
    split
    · omega
    · exact Scan.Header.read_size_pos _

end Token

/-- The tokens of a template, left to right. -/
def tokens (t : Text) : List Token :=
  match t with
  | [] => []
  | c :: r =>
    let k := Token.first c r
    k :: tokens ((c :: r).drop k.size)
termination_by t.length
decreasing_by
  have := Token.size_first_pos c r
  simp only [List.length_drop, List.length_cons]
  omega

theorem text_tokens (t : Text) : (tokens t).flatMap Token.text = t := by
  fun_induction tokens t with
  | case1 => rfl
  | case2 c r k ih =>
    rw [List.flatMap_cons, ih]
    exact List.prefix_iff_eq_append.1 (Token.text_first_isPrefix c r)

end RoutePattern
