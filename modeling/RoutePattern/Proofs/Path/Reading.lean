import RoutePattern.Proofs.Path.Syntax
import RoutePattern.Proofs.Reader.Build
import RoutePattern.Proofs.Template.Reading
import RoutePattern.Proofs.Template.Walk

/-! # What the template of a path is read as

* `Path.tokens`, `Path.source`: the tokens of the template, and the expression that they become.
* `Path.items`, `Path.opens`: what the expression is read as, and where its groups open.
* `builds_path`: the reader reads the one as the other.
* `read_between`: what is read as items is read between its anchors.
-/

namespace RoutePattern

open Scan Regex Regex.Reader

/-! ## Tokens -/

namespace Path

/-- The token of a character of literal text. -/
def charToken (c : Char) : Token := if c = '.' then .dot else .literal c

/-- A parameter behind a slash. -/
def slashParam (name : Word) (marks : Modifiers) : Param := ⟨⟨true, false, name.text⟩, none, marks⟩

/-- The tokens of the template of a path. -/
def tokens : Path → List Token
  | stop => []
  | rest name => [.param (slashParam name ⟨true, false⟩)]
  | literal w p => .literal '/' :: w.text.map charToken ++ p.tokens
  | param name optional p => .param (slashParam name ⟨false, optional⟩) :: p.tokens

end Path

theorem Literal.ne {w : Literal} {c d : Char} (hc : c ∈ w.text) (hd : d ∈ pathMarks) : c ≠ d := by
  rintro rfl
  exact w.plain c hc hd

theorem Path.IsTail.head?_ne {u : Text} {c : Char} (h : IsTail u) (hc : c ≠ '/') :
    u.head? ≠ some c := by
  rcases h with rfl | ⟨v, rfl⟩
  · simp
  · simpa using hc.symm

/-- No word stands behind a character that is no colon. -/
theorem readWord?_eq_none {slash format : Bool} {u : Text} (h : u.head? ≠ some ':') :
    ParamName.readWord? slash format u = none := by
  unfold ParamName.readWord?
  split
  · exact absurd rfl h
  · rfl

/-- A character that starts nothing is a token by itself. -/
theorem firstPlain_char {c : Char} {u : Text} (hc : c ∉ ['\\', '*', '(', '['])
    (hu : c = '/' → u.head? ≠ some '(') : Token.firstPlain c u = Path.charToken c := by
  unfold Token.firstPlain Path.charToken
  split
  · exact absurd (by decide) hc
  · exact absurd (by decide) hc
  · rfl
  · exact absurd (by decide) hc
  · exact absurd rfl (hu rfl)
  · exact absurd rfl (hu rfl)
  · exact absurd (by decide) hc
  · exact absurd (by decide) hc
  · rw [if_neg (by assumption)]

/-- A character of literal text is a token by itself; a dot, unless a colon follows. -/
theorem first_char {w : Literal} {c : Char} {u : Text} (hc : c ∈ w.text)
    (hu : c = '.' → u.head? ≠ some ':') : Token.first c u = Path.charToken c := by
  have ne : ∀ d ∈ pathMarks, c ≠ d := fun d hd => Literal.ne hc hd
  have colon : (c :: u).head? ≠ some ':' := by simpa using ne ':' (by decide)
  have name : ParamName.read? (c :: u) = none := by
    unfold ParamName.read?
    split
    · next h => exact absurd (List.cons.inj h).1 (ne '/' (by decide))
    · next h => exact absurd (List.cons.inj h).1 (ne '/' (by decide))
    · next h =>
      obtain ⟨dot, rfl⟩ := List.cons.inj h
      exact readWord?_eq_none (hu dot)
    · exact readWord?_eq_none colon
  have starts : ∀ d ∈ ['\\', '*', '(', '['], d ∈ pathMarks := by decide
  rw [Token.first, name]
  exact firstPlain_char (fun h => ne c (starts c h) rfl) fun h => absurd h (ne '/' (by decide))

theorem size_charToken (c : Char) : (Path.charToken c).size = 1 := by
  unfold Path.charToken
  split <;> rfl

/-- The characters of literal text, and what follows it. -/
theorem tokens_chars {w : Literal} {t u : Text} (ht : ∀ c ∈ t, c ∈ w.text)
    (hu : '.' ∈ t → u.head? ≠ some ':') :
    tokens (t ++ u) = t.map Path.charToken ++ tokens u := by
  induction t with
  | nil => rfl
  | cons c t ih =>
    have next : c = '.' → (t ++ u).head? ≠ some ':' := by
      rintro rfl
      cases t with
      | nil => exact hu (by simp)
      | cons d t => simpa using Literal.ne (ht d (by simp)) (by decide)
    have first : Token.first c (t ++ u) = Path.charToken c := first_char (ht c (by simp)) next
    rw [List.cons_append, tokens]
    rw [first, size_charToken, List.drop_one, List.tail_cons,
      ih (fun d hd => ht d (by simp [hd])) fun hd => hu (by simp [hd])]
    rfl

/-- The slash in front of literal text. -/
theorem first_slash {w : Literal} {u : Text} (hu : Path.IsTail u) :
    Token.first '/' (w.text ++ u) = .literal '/' := by
  obtain ⟨c, t, hw⟩ := List.exists_cons_of_ne_nil w.nonempty
  have mem : ∀ d ∈ c :: t, d ∈ w.text := fun d hd => hw ▸ hd
  have colon : ∀ v : Text, (∀ d ∈ v, d ∈ w.text) → (v ++ u).head? ≠ some ':' := by
    intro v hv
    cases v with
    | nil => exact hu.head?_ne (by decide)
    | cons d v => simpa using Literal.ne (hv d (by simp)) (by decide)
  have name : ParamName.read? ('/' :: (w.text ++ u)) = none := by
    rw [hw]
    unfold ParamName.read?
    split
    · next h =>
      obtain ⟨rfl, rfl⟩ := List.cons.inj (List.cons.inj h).2
      exact readWord?_eq_none (colon t fun d hd => mem d (by simp [hd]))
    · next h =>
      obtain rfl := (List.cons.inj h).2
      exact readWord?_eq_none (colon (c :: t) mem)
    · next h => cases (List.cons.inj h).1
    · exact readWord?_eq_none (by simp)
  have paren : c ≠ '(' := Literal.ne (mem c (by simp)) (by decide)
  rw [Token.first, name, hw]
  exact firstPlain_char (by decide) fun _ => by simpa using paren

/-- A parameter with its marks. -/
theorem tokens_param {name : Word} {marks : Modifiers} {u : Text} (hu : Path.IsTail u) :
    tokens ('/' :: (':' :: name.text ++ marks.text ++ u)) =
      .param (Path.slashParam name marks) :: tokens u := by
  have after : (marks.text ++ u).takeWhile Text.isWord = [] ∧
      (marks.text ++ u).head? ≠ some '(' ∧ Modifiers.read (marks.text ++ u) = marks := by
    have word : ∀ c ∈ ['*', '?', '/'], Text.isWord c = false := by decide
    obtain ⟨star, optional⟩ := marks
    rcases hu with rfl | ⟨v, rfl⟩ <;> cases star <;> cases optional <;>
      simp [Modifiers.text, Modifiers.read, word]
  obtain ⟨stops, paren, read⟩ := after
  have param := tokens_named (p := ⟨true, false, name.text⟩) name.word name.nonempty stops paren read
  simpa [ParamName.text, Path.slashParam] using param

/-- The tokens of the template of a path. -/
theorem tokens_template (p : Path) : tokens p.template = p.tokens := by
  induction p with
  | stop => rw [Path.template, tokens, Path.tokens]
  | rest name =>
    have star := @tokens_param name ⟨true, false⟩ [] (.inl rfl)
    rw [tokens] at star
    simpa [Path.template, Path.tokens, Modifiers.text] using star
  | literal w p ih =>
    have colon : p.template.head? ≠ some ':' := p.template_isTail.head?_ne (by decide)
    rw [Path.template, List.cons_append, tokens, first_slash p.template_isTail, Path.tokens, ← ih,
      List.cons_append, ← tokens_chars (fun _ hc => hc) fun _ => colon]
    rfl
  | param name optional p ih =>
    have param := @tokens_param name ⟨false, optional⟩ _ p.template_isTail
    rw [ih] at param
    simpa [Path.template, Path.tokens, Modifiers.text] using param

/-! ## The expression -/

namespace Path

/-- What a character of literal text becomes. -/
def charSource (c : Char) : Text := if c = '.' then ['\\', '.'] else [c]

/-- The group for a value. -/
def valueSource : Text := '(' :: (['[', '^', '/', ']', '+', '?'] ++ [')'])

/-- The group for what follows the value of a parameter with a star. -/
def restSource : Text := '(' :: (['(', '?', ':', '[', '/', ']', '.', '+', '?', ')', '?'] ++ [')'])

/-- The expression for a parameter without a star. -/
def paramSource (optional : Bool) : Text :=
  ['(', '?', ':'] ++ ('/' :: valueSource) ++ [')'] ++ if optional then ['?'] else []

/-- The expression for a path. -/
def source : Path → Text
  | stop => []
  | rest _ => ['(', '?', ':'] ++ ('/' :: valueSource ++ restSource) ++ [')']
  | literal w p => '/' :: w.text.flatMap charSource ++ p.source
  | param _ optional p => paramSource optional ++ p.source

theorem written_charToken (c : Char) (g : Text) : (charToken c).written g = charSource c := by
  unfold charToken charSource
  split <;> rfl

/-- A character leaves itself in the guard. -/
theorem guardAfter_charToken {c : Char} (hc : c ≠ '/') (g : Text) :
    (charToken c).guardAfter g = g ++ Regex.literal c := by
  unfold charToken
  split
  · next dot => rw [dot]; rfl
  · rw [Token.guardAfter, if_neg hc]

theorem writtenFrom_chars {t : Text} (ht : '/' ∉ t) (g : Text) (ks : List Token) :
    writtenFrom g (t.map charToken ++ ks) =
      t.flatMap charSource ++ writtenFrom (g ++ t.flatMap Regex.literal) ks := by
  induction t generalizing g with
  | nil => exact congrArg (writtenFrom · ks) (List.append_nil g).symm
  | cons c t ih =>
    rw [List.mem_cons, not_or] at ht
    rw [List.map_cons, List.cons_append, writtenFrom, written_charToken, ih ht.2,
      guardAfter_charToken (Ne.symm ht.1), List.flatMap_cons, List.flatMap_cons, List.append_assoc,
      List.append_assoc]

theorem writtenFrom_tokens (p : Path) (g : Text) : writtenFrom g p.tokens = p.source := by
  induction p generalizing g with
  | stop => rfl
  | rest name => rfl
  | literal w p ih =>
    have slash : '/' ∉ w.text := fun h => w.plain _ h (by decide)
    rw [tokens, List.cons_append, writtenFrom, source, List.cons_append]
    show '/' :: writtenFrom [] _ = _
    rw [writtenFrom_chars slash, ih]
  | param name optional p ih =>
    rw [tokens, writtenFrom, ih, source]
    rfl

/-- The draft of the template of a path. -/
theorem source_draft (p : Path) : (draft p.template).source = p.source := by
  rw [RoutePattern.source_draft, tokens_template]
  exact writtenFrom_tokens p []

/-! ## Items -/

/-- One or more characters up to a slash, as few as there can be. -/
def valueItem : Regex := .rep 1 none .lazy (.set true [.char 47])

/-- A slash and more, as little as there can be, or nothing. -/
def restItem : Regex :=
  .rep 0 (some 1) .greedy (.flagged {} {} (concat [.set false [.char 47], .rep 1 none .lazy .any]))

/-- An item that may be absent. -/
def perhaps (optional : Bool) (r : Regex) : Regex :=
  if optional then .rep 0 (some 1) .greedy r else r

/-- What the expression for a path is read as, the groups numbered from `n` on. -/
def items (n : Nat) : Path → List Regex
  | stop => []
  | rest _ =>
    [.flagged {} {} (concat [.char 47, .capture n valueItem, .capture (n + 1) restItem])]
  | literal w p => .char 47 :: w.text.map (fun c => .char c.toNat) ++ p.items n
  | param _ optional p =>
    perhaps optional (.flagged {} {} (concat [.char 47, .capture n valueItem])) :: p.items (n + 1)

/-- What the expression of a path ends in. -/
def ending (strict : Bool) : List Regex :=
  (if strict then [] else [.rep 0 (some 1) .greedy (.char 47)]) ++ [.anchor .stop]

/-- What the expression of a path between its anchors is read as. -/
def anchoredItems (strict : Bool) (p : Path) : List Regex :=
  .anchor .start :: (p.items 1 ++ ending strict)

/-- Where the groups of the expression open if it starts at an index, with the parameters that open
them. -/
def opens (i : Nat) : Path → List (Nat × Option Param)
  | stop => []
  | rest name =>
    [(i + 4, some (slashParam name ⟨true, false⟩)), (i + 4 + valueSource.length, none)]
  | literal w p => p.opens (i + ('/' :: w.text.flatMap charSource).length)
  | param name optional p =>
    (i + 4, some (slashParam name ⟨false, optional⟩)) :: p.opens (i + (paramSource optional).length)

/-- The groups of the expression. -/
def groups (i : Nat) (p : Path) : List Group := (p.opens i).map fun x => ⟨x.1, none⟩

end Path

variable {st nx : State}

theorem builds_slash (h : st.Ready) :
    ∃ nx, Builds st ['/'] nx [.char 47] [] ∧ nx.mode = .items := builds_char h (by decide)

/-- A character that means nothing between items, or a dot that is escaped. -/
theorem builds_charSource {c : Char} (h : st.Ready) (hc : c ∈ itemMarks → c = '.') :
    ∃ nx, Builds st (Path.charSource c) nx [.char c.toNat] [] := by
  unfold Path.charSource
  split
  · next dot =>
    subst dot
    obtain ⟨nx, hb, -⟩ := builds_dot h
    exact ⟨nx, hb⟩
  · next dot =>
    obtain ⟨nx, hb, -⟩ := builds_char (c := c) h fun hm => dot (hc hm)
    exact ⟨nx, hb⟩

theorem builds_literal {w : Literal} {t : Text} (ht : ∀ c ∈ t, c ∈ w.text) (h : st.Ready) :
    ∃ nx, Builds st (t.flatMap Path.charSource) nx (t.map fun c => .char c.toNat) [] := by
  induction t generalizing st with
  | nil => exact ⟨st, .nil h⟩
  | cons c t ih =>
    have marks : ∀ d ∈ itemMarks, d = '.' ∨ d ∈ pathMarks := by decide
    obtain ⟨m, first⟩ := builds_charSource h fun hm =>
      (marks c hm).resolve_right (w.plain c (ht c (by simp)))
    obtain ⟨nx, rest⟩ := ih (fun d hd => ht d (by simp [hd])) first.ready
    exact ⟨nx, first.append rest⟩

theorem builds_value (h : st.Ready) :
    ∃ nx, Builds st Path.valueSource nx [.capture st.nextGroup Path.valueItem] [⟨st.pos, none⟩] ∧
      nx.mode = .items := by
  obtain ⟨m, one, mode⟩ := builds_noSlash (ready_entered st)
  obtain ⟨m', many, -⟩ := builds_lazy one mode rfl rfl
  exact builds_capture h (by simp) (by simp) many

theorem builds_rest (h : st.Ready) :
    ∃ nx, Builds st Path.restSource nx [.capture st.nextGroup Path.restItem] [⟨st.pos, none⟩] ∧
      nx.mode = .items := by
  obtain ⟨m, slash, -⟩ := builds_slashSet (ready_grouped st.entered)
  exact builds_more h slash

/-- The slash and the group for a value. -/
theorem builds_slashValue (h : st.Ready) :
    ∃ nx, Builds st ('/' :: Path.valueSource) nx
      [.char 47, .capture st.nextGroup Path.valueItem] [⟨st.pos + 1, none⟩] := by
  obtain ⟨m, slash, -⟩ := builds_slash h
  obtain ⟨nx, value, -⟩ := builds_value slash.ready
  rw [slash.nextGroup, slash.pos] at value
  exact ⟨nx, slash.append value⟩

theorem builds_perhaps {t : Text} {optional : Bool} {r : Regex} {gs : List Group}
    (h : Builds st t nx [r] gs) (hm : nx.mode = .items) (ha : r.isAnchor = false)
    (hr : r.isRepeat = false) :
    ∃ s, Builds st (t ++ if optional then ['?'] else []) s [Path.perhaps optional r] gs := by
  cases optional with
  | false => exact ⟨nx, by simpa [Path.perhaps] using h⟩
  | true => exact builds_optional h hm ha hr

/-- The expression for a path is read as the items of the path. -/
theorem builds_path (p : Path) (h : st.Ready) :
    ∃ nx, Builds st p.source nx (p.items st.nextGroup) (p.groups st.pos) := by
  induction p generalizing st with
  | stop => exact ⟨st, .nil h⟩
  | rest name =>
    obtain ⟨m, value⟩ := builds_slashValue (ready_grouped st)
    obtain ⟨m', rest, -⟩ := builds_rest value.ready
    rw [value.nextGroup, value.pos] at rest
    obtain ⟨nx, group, -⟩ := builds_silent h (value.append rest)
    exact ⟨nx, group⟩
  | literal w p ih =>
    obtain ⟨m, slash, -⟩ := builds_slash h
    obtain ⟨m', chars⟩ := builds_literal (w := w) (fun _ hc => hc) slash.ready
    have whole := slash.append chars
    obtain ⟨nx, rest⟩ := ih whole.ready
    rw [whole.nextGroup, whole.pos] at rest
    exact ⟨nx, whole.append rest⟩
  | param name optional p ih =>
    obtain ⟨m, value⟩ := builds_slashValue (ready_grouped st)
    obtain ⟨m', group, mode⟩ := builds_silent h value
    obtain ⟨m'', param⟩ := @builds_perhaps _ _ _ optional _ _ group mode rfl rfl
    obtain ⟨nx, rest⟩ := ih param.ready
    rw [param.nextGroup, param.pos] at rest
    exact ⟨nx, param.append rest⟩

/-! ## Anchors -/

/-- Between its anchors an expression is read as items if it is so behind a caret. Its groups are
numbered from one on. -/
theorem read_between {strict : Bool} {t : Text} {rs : List Regex} {P : List Group → Prop}
    (slash : strict = false → endsInSlash t = false)
    (builds : ∀ st : State, st.Ready → st.nextGroup = 1 → st.pos = 1 →
      ∃ nx gs, Builds st t nx rs gs ∧ P gs) :
    ∃ q, Pattern.read (Options.flags ⟨strict, true, true⟩)
        (Options.anchored ⟨strict, true, true⟩ t) = .ok q ∧
      q.tree = concat (.anchor .start :: (rs ++ Path.ending strict)) ∧
      q.flags = { unicode := true } ∧ P q.groups := by
  have ready : (start (Options.flags ⟨strict, true, true⟩)).Ready := ⟨.inl rfl, rfl⟩
  obtain ⟨m1, first, -⟩ := builds_start ready
  obtain ⟨m2, gs, between, groups⟩ := builds m1 first.ready first.nextGroup first.pos
  have tolerance : ∃ m3, Builds m2 (if strict then [] else ['/', '?']) m3
      (if strict then [] else [.rep 0 (some 1) .greedy (.char 47)]) [] := by
    cases strict with
    | true => exact ⟨m2, .nil between.ready⟩
    | false =>
      obtain ⟨m3, one, mode⟩ := builds_slash between.ready
      exact builds_optional one mode rfl rfl
  obtain ⟨m3, tolerance⟩ := tolerance
  obtain ⟨m4, last, -⟩ := builds_stop tolerance.ready
  have whole := first.append (between.append (tolerance.append last))
  have source : Options.anchored ⟨strict, true, true⟩ t =
      ['^'] ++ (t ++ ((if strict then [] else ['/', '?']) ++ ['$'])) := by
    cases strict with
    | true => simp [Options.anchored, Options.ended, Options.tolerant]
    | false => simp [Options.anchored, Options.ended, Options.tolerant, slash rfl]
  obtain ⟨sets, finished⟩ := finish_of_builds whole
  rw [source]
  refine ⟨⟨_, _⟩, pattern_read_eq_ok.2 ⟨rfl, m4, whole.passes.reads, finished⟩, rfl, rfl, ?_⟩
  simpa using groups

end RoutePattern
