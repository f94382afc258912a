import RoutePattern.Proofs.Chain.Syntax
import RoutePattern.Proofs.Path.Reading
import RoutePattern.Proofs.Plain.Reading

/-! # What the template of a chain is read as

* `Link.tokens`, `Link.source`: the tokens of a link, and the expression that they become.
* `Separator.items`: what the expression of a link is read as.
* `read_chain`: the expression of a chain between its anchors is read without a fault.
-/

namespace RoutePattern

open Scan Regex Regex.Reader

/-! ## Tokens -/

namespace Link

/-- The parameter of a link. -/
def param (k : Link) : Param :=
  match k.separator with
  | .dot => ⟨⟨false, true, k.name.text⟩, none, ⟨false, false⟩⟩
  | .mark _ => ⟨⟨false, false, k.name.text⟩, none, ⟨false, false⟩⟩

/-- The tokens of a link. A dot belongs to the parameter. -/
def tokens (k : Link) : List Token :=
  match k.separator with
  | .dot => [.param k.param]
  | .mark w => w.text.map Path.charToken ++ [.param k.param]

end Link

/-- Behind a parameter stands nothing that belongs to it. -/
structure IsApart (u : Text) : Prop where
  stops : u.takeWhile Text.isWord = []
  bare : ∀ c ∈ ['(', '*', '?'], u.head? ≠ some c

theorem isApart_append {v u : Text} (hv : v ≠ []) (h : IsApart v) : IsApart (v ++ u) := by
  obtain ⟨c, v, rfl⟩ := List.exists_cons_of_ne_nil hv
  have word : Text.isWord c = false := by
    cases hc : Text.isWord c with
    | false => rfl
    | true =>
      have stops := h.stops
      rw [List.takeWhile_cons_of_pos hc] at stops
      cases stops
  exact ⟨List.takeWhile_cons_of_neg (by simp [word]), h.bare⟩

theorem isApart_separator (d : Separator) (u : Text) : IsApart (d.text ++ u) := by
  cases d with
  | dot =>
    have dot : Text.isWord '.' = false := by decide
    exact isApart_append (by simp [Separator.text]) ⟨by simp [Separator.text, dot], by decide⟩
  | mark w =>
    refine isApart_append w.nonempty ⟨w.apart, fun c hc he => ?_⟩
    have marks : ∀ c ∈ ['(', '*', '?'], c ∈ pathMarks := by decide
    exact w.plain c (List.mem_of_head? he) (marks c hc)

theorem isApart_links (ks : List Link) : IsApart (ks.flatMap Link.text) := by
  cases ks with
  | nil => exact ⟨rfl, by simp⟩
  | cons k ks =>
    rw [List.flatMap_cons, Link.text, List.append_assoc]
    exact isApart_separator _ _

/-- A parameter with nothing behind its name. -/
theorem tokens_apart (slash format : Bool) (name : Word) {u : Text} (h : IsApart u) :
    tokens (ParamName.text ⟨slash, format, name.text⟩ ++ u) =
      .param ⟨⟨slash, format, name.text⟩, none, ⟨false, false⟩⟩ :: tokens u :=
  @tokens_named ⟨slash, format, name.text⟩ ⟨false, false⟩ u name.word name.nonempty h.stops
    (h.bare '(' (by decide)) (read_bare (h.bare '*' (by decide)) (h.bare '?' (by decide)))

theorem tokens_links (ks : List Link) : tokens (ks.flatMap Link.text) = ks.flatMap Link.tokens := by
  induction ks with
  | nil => rw [List.flatMap_nil, tokens]; rfl
  | cons k ks ih =>
    have rest := isApart_links ks
    obtain ⟨d, name⟩ := k
    rw [List.flatMap_cons, List.flatMap_cons, ← ih]
    cases d with
    | dot => exact tokens_apart false true name rest
    | mark w =>
      have chars := tokens_chars (w := w.toLiteral) (t := w.text)
        (u := ':' :: name.text ++ ks.flatMap Link.text) (fun _ hc => hc)
        fun h => absurd h w.undotted
      have param : tokens (':' :: name.text ++ ks.flatMap Link.text) = _ :=
        tokens_apart false false name rest
      rw [param] at chars
      simpa [Link.text, Separator.text, Link.tokens, Link.param] using chars

/-! ## The expression -/

/-- The group for the value of a linked parameter. -/
def Separator.valueSource : Separator → Text
  | dot => '(' :: (['[', '^', '/', '\\', '.', ']', '+', '?'] ++ [')'])
  | mark w => '(' :: (['(', '?', ':', '(', '?', '!', '/', '|'] ++
      (w.text.flatMap literal ++ [')', '.', ')']) ++ ['+', '?', ')'])

/-- The expression for a link. -/
def Link.source (k : Link) : Text :=
  match k.separator with
  | .dot => ['(', '?', ':'] ++ (['\\', '.'] ++ Separator.valueSource .dot) ++ [')']
  | .mark w => w.text.flatMap Path.charSource ++
      (['(', '?', ':'] ++ Separator.valueSource (.mark w) ++ [')'])

/-- The expression for a chain. -/
def Chain.source (p : Chain) : Text := Path.paramSource false ++ p.links.flatMap Link.source

theorem writtenFrom_links (ks : List Link) :
    writtenFrom [] (ks.flatMap Link.tokens) = ks.flatMap Link.source := by
  induction ks with
  | nil => rfl
  | cons k ks ih =>
    obtain ⟨d, name⟩ := k
    rw [List.flatMap_cons, List.flatMap_cons, ← ih]
    cases d with
    | dot => rfl
    | mark w =>
      have slash : '/' ∉ w.text := fun h => w.plain _ h (by decide)
      have guard : (w.text.flatMap literal).isEmpty = false := by
        simpa using flatMap_literal_ne_nil w.nonempty
      rw [Link.tokens, List.append_assoc, Path.writtenFrom_chars slash, Link.source,
        List.append_assoc, List.nil_append]
      congr 1
      simp [writtenFrom, Token.written, Param.written, Param.group, Link.param, Param.opening,
        Param.defaultGroup, Param.guardFor, Param.formatText, Param.restGroup, guard,
        Separator.valueSource, Token.guardAfter]

theorem Chain.source_draft (p : Chain) : (draft p.template).source = p.source := by
  have first : tokens p.template = .param ⟨⟨true, false, p.first.text⟩, none, ⟨false, false⟩⟩ ::
      p.links.flatMap Link.tokens := by
    rw [← tokens_links]
    exact tokens_apart true false p.first (isApart_links p.links)
  rw [RoutePattern.source_draft, first, writtenFrom]
  exact congrArg (Path.paramSource false ++ ·) (writtenFrom_links p.links)

/-! ## Items -/

/-- One character of the value behind a separator. -/
def Separator.valueChar : Separator → Regex
  | dot => .set true [.char 47, .char 46]
  | mark w => .flagged {} {} (concat
      [.lookahead true (.alt (.char 47) (concat (w.text.map fun c => .char c.toNat))), .any])

/-- The group for a value, as few characters as there can be. -/
def Separator.valueItem (n : Nat) (d : Separator) : Regex :=
  .capture n (.rep 1 none .lazy d.valueChar)

/-- What the expression of a link is read as. -/
def Separator.items (n : Nat) : Separator → List Regex
  | dot => [.flagged {} {} (concat [.char 46, valueItem n dot])]
  | mark w => w.text.map (fun c => .char c.toNat) ++ [.flagged {} {} (valueItem n (mark w))]

/-- What the expressions of links are read as, the groups numbered from `n` on. -/
def Link.items (n : Nat) : List Link → List Regex
  | [] => []
  | k :: ks => k.separator.items n ++ items (n + 1) ks

/-- What the expression of a chain between its anchors is read as. -/
def Chain.anchoredItems (p : Chain) : List Regex :=
  .anchor .start :: (.flagged {} {} (concat [.char 47, .capture 1 Path.valueItem]) ::
    Link.items 2 p.links ++ Path.ending true)

variable {st : State}

theorem builds_valueItem (d : Separator) (h : st.Ready) :
    ∃ nx, Builds st d.valueSource nx [d.valueItem st.nextGroup] [⟨st.pos, none⟩] := by
  cases d with
  | dot =>
    obtain ⟨m, set, mode⟩ := builds_noSlashDot (ready_entered st)
    exact builds_captured h set mode rfl rfl (by decide)
  | mark w => exact builds_guardedGroup h w.text

theorem builds_link (k : Link) (h : st.Ready) :
    ∃ nx g, Builds st k.source nx (k.separator.items st.nextGroup) [g] := by
  obtain ⟨d, name⟩ := k
  cases d with
  | dot =>
    obtain ⟨m, dot, -⟩ := builds_dot (ready_grouped st)
    obtain ⟨m', value⟩ := builds_valueItem .dot dot.ready
    rw [dot.nextGroup] at value
    obtain ⟨nx, group, -⟩ := builds_silent h (dot.append value)
    exact ⟨nx, _, group⟩
  | mark w =>
    obtain ⟨m, chars⟩ := builds_literal (w := w.toLiteral) (fun _ hc => hc) h
    obtain ⟨m', value⟩ := builds_valueItem (.mark w) (ready_grouped m)
    obtain ⟨nx, group, -⟩ := builds_silent chars.ready value
    rw [show m.grouped.nextGroup = m.nextGroup from rfl, chars.nextGroup] at group
    exact ⟨nx, _, chars.append group⟩

theorem builds_links (ks : List Link) (h : st.Ready) :
    ∃ nx gs, Builds st (ks.flatMap Link.source) nx (Link.items st.nextGroup ks) gs ∧
      gs.length = ks.length := by
  induction ks generalizing st with
  | nil => exact ⟨st, [], .nil h, rfl⟩
  | cons k ks ih =>
    obtain ⟨m, g, first⟩ := builds_link k h
    obtain ⟨nx, gs, rest, size⟩ := ih first.ready
    rw [first.nextGroup] at rest
    exact ⟨nx, [g] ++ gs, first.append rest, by simp [size]⟩

/-- The expression of a chain between its anchors is read as the items of the chain. -/
theorem read_chain (p : Chain) : ∃ q,
    Pattern.read (Options.flags ⟨true, true, true⟩)
      (Options.anchored ⟨true, true, true⟩ p.source) = .ok q ∧
    q.tree = concat p.anchoredItems ∧ q.flags = { unicode := true } ∧
    q.groups.length = p.links.length + 1 := by
  refine read_between (P := (·.length = p.links.length + 1)) nofun fun st ready next _ => ?_
  obtain ⟨m, value⟩ := builds_slashValue (ready_grouped st)
  obtain ⟨m', first, -⟩ := builds_silent ready value
  obtain ⟨nx, gs, links, size⟩ := builds_links p.links first.ready
  rw [first.nextGroup, next] at links
  rw [show st.grouped.nextGroup = st.nextGroup from rfl, next] at first
  exact ⟨nx, _, first.append links, by simp [size]⟩

end RoutePattern
