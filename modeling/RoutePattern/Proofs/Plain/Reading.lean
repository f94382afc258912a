import RoutePattern.Proofs.Plain.Syntax
import RoutePattern.Proofs.Template.Guarded
import RoutePattern.Proofs.Template.Keys

/-! # Reading what a plain template becomes

What the tokens of a plain template become is read without a fault, whatever stands in front.

* `Walks`: a text is read outside of all groups, from item to item.
* `guards_literal`, `builds_refusal`: a guard of literal text is read through, and as what;
  `builds_guardedGroup`: so is the capture group that it guards.
* `Draft.groups`: the groups that a token opens; `walks_token`, `walks_tokens`: the reader meets
  these.
-/

namespace RoutePattern

open Scan Regex Regex.Reader

namespace Regex.Reader

variable {st nx : State} {t : Text} {gs : List Group}

/-! ## From item to item -/

/-- What reading alternatives leaves alone. -/
def State.kept (st : State) : List Frame × List (Nat × Nat) × Bool :=
  (st.frames, st.asked, st.variableLookbehind)

/-- The text is read as items and bars with some groups in them. -/
structure Walks (st : State) (t : Text) (nx : State) (gs : List Group) : Prop where
  passes : Passes st t nx
  ready : nx.Ready
  found : nx.found = st.found ++ gs
  kept : nx.kept = st.kept

theorem Builds.walks {rs : List Regex} (h : Builds st t nx rs gs) : Walks st t nx gs := by
  refine ⟨h.passes, h.ready, h.found, ?_⟩
  have around := h.around
  simp only [State.around, Prod.mk.injEq] at around
  obtain ⟨-, frames, -, -, asked, -, variableLookbehind⟩ := around
  rw [State.kept, State.kept, frames, asked, variableLookbehind]

theorem Walks.nil (h : st.Ready) : Walks st [] st [] := (Builds.nil h).walks

theorem Walks.append {s : State} {u : Text} {hs : List Group} (h : Walks st t s gs)
    (h' : Walks s u nx hs) : Walks st (t ++ u) nx (gs ++ hs) where
  passes := h.passes.append h'.passes
  ready := h'.ready
  found := by rw [h'.found, h.found, List.append_assoc]
  kept := h'.kept.trans h.kept

theorem Walks.pos (h : Walks st t nx gs) : nx.pos = st.pos + t.length := h.passes.pos

theorem Walks.frames (h : Walks st t nx gs) : nx.frames = st.frames := congrArg Prod.fst h.kept

/-- A bar outside of all groups. -/
theorem walks_bar (h : st.Ready) (hf : st.frames = []) : ∃ nx, Walks st ['|'] nx [] := by
  have bar : st.rested.bar = .ok { st.rested with
      branches := concat st.items.reverse :: st.branches, items := [] } := by
    unfold State.bar
    split
    · next frames =>
      rw [show st.rested.frames = [] from hf] at frames
      cases frames
    · rfl
  have step : step st (.plain '|') = .ok { st.rested with
      branches := concat st.items.reverse :: st.branches, items := [], pos := st.pos + 1 } := by
    rw [step_plain h (by decide) (by decide), show readItem st.rested '|' = st.rested.bar from rfl,
      bar]
    rfl
  refine ⟨_, .one (y := .plain '|') (by decide) h.quiet step, ⟨.inl rfl, rfl⟩, ?_, rfl⟩
  exact (List.append_nil _).symm

/-! ## Guards -/

/-- The escape of a character that is neither a letter nor a digit is the character. -/
theorem readItemEscape_verbatim {c : Char} (hc : c.isAlphanum = false) (st : State) :
    readItemEscape st c = .ok (st.push (.char c.toNat)) := by
  have ne : ∀ d : Char, d.isAlphanum = true → c ≠ d := by
    rintro d hd rfl
    rw [hc] at hd
    cases hd
  have letter : c.isAlpha = false := (Bool.or_eq_false_iff.1 hc).1
  have digit : isDigit c = false := (Bool.or_eq_false_iff.1 hc).2
  have anchor : anchorEscape? c = none := by
    unfold anchorEscape?
    split <;> first | rfl | exact absurd rfl (ne _ (by decide))
  have category : categoryEscape? c = none := by
    unfold categoryEscape?
    split <;> first | rfl | exact absurd rfl (ne _ (by decide))
  have control : controlEscape? c = none := by
    unfold controlEscape?
    split <;> first | rfl | exact absurd rfl (ne _ (by decide))
  have hex : hexDigits? c = none := by
    unfold hexDigits?
    split <;> first | rfl | exact absurd rfl (ne _ (by decide))
  unfold readItemEscape
  rw [anchor, category, control, hex]
  simp [ne 'N' (by decide), ne '0' (by decide), digit, letter]

/-- The characters that mean something are neither letters nor digits. -/
theorem isAlphanum_special {c : Char} (hc : c ∈ specialChars) : c.isAlphanum = false := by
  revert c
  decide

/-- A character of literal text is one symbol, which is read as the character. -/
theorem step_literal (h : st.Ready) (c : Char) : ∃ y, y.text = literal c ∧ y ≠ .plain '\\' ∧
    RoutePattern.IsLiteral (pieceOf y) ∧
    step st y = .ok { st.rested.push (.char c.toNat) with pos := st.pos + y.size } := by
  unfold literal
  by_cases hc : c ∈ specialChars
  · refine ⟨.escaped c, by simp [hc, Symbol.text], nofun, rfl, ?_⟩
    rw [step_escaped h, readItemEscape_verbatim (isAlphanum_special hc)]
    rfl
  · refine ⟨.plain c, by simp [hc, Symbol.text], ?_, hc, ?_⟩
    · rintro ⟨⟩
      exact hc (by decide)
    · have marks : ∀ d ∈ itemMarks, d ∈ specialChars := by decide
      exact step_char h fun hm => hc (marks c hm)

/-- Literal text is read as its characters. -/
theorem builds_guard {a m : State} (h : m.Ready) (hv : a.verbose = false) (ha : a.Adds m)
    (w : Text) : ∃ m', Builds m (w.flatMap literal) m' (w.map fun c => .char c.toNat) [] ∧
      a.Adds m' := by
  induction w generalizing m with
  | nil => exact ⟨m, .nil h, ha⟩
  | cons c w ih =>
    obtain ⟨y, text, hy, isLiteral, hs⟩ := step_literal h c
    have first := builds_pushed h hy hs
    obtain ⟨m', rest, adds⟩ := ih first.ready (adds_step ha hv isLiteral hs)
    rw [text] at first
    exact ⟨m', first.append rest, adds⟩

/-- A guard of literal text is read in its look-ahead, up to where that ends. -/
theorem peeks_literal (st : State) (w : Text) :
    ∃ m nx, Builds st.peeking (w.flatMap literal) m (w.map fun c => .char c.toNat) [] ∧
      st.peeking.Adds m ∧ step m (.plain ')') = .ok nx := by
  obtain ⟨m, build, adds⟩ :=
    builds_guard (a := st.peeking) (m := st.peeking) ⟨.inl rfl, rfl⟩ rfl ⟨trivial, rfl, rfl, rfl⟩ w
  have around := adds.around
  simp only [State.around, Prod.mk.injEq] at around
  exact ⟨m, _, build, adds, step_close build.ready around.2.1⟩

theorem guards_literal (st : State) (w : Text) : st.Guards (w.flatMap literal) := by
  obtain ⟨m, nx, build, adds, close⟩ := peeks_literal st w
  exact ⟨m, nx, build.passes, adds, close⟩

/-- The look-ahead of a guard of literal text refuses a slash and the text. -/
theorem builds_refusal (h : st.Ready) (w : Text) :
    ∃ nx, Builds st (['(', '?', '!', '/', '|'] ++ (w.flatMap literal ++ [')'])) nx
      [.lookahead true (.alt (.char 47) (concat (w.map fun c => .char c.toNat)))] [] := by
  obtain ⟨m, nx, build, adds, close⟩ := peeks_literal st w
  obtain ⟨s, settled, look, -⟩ := builds_peeking h build.passes adds close
  obtain rfl := Except.ok.inj (build.ready.settle.symm.trans settled)
  have items : m.rested.items.reverse = w.map fun c => .char c.toNat := by
    rw [State.rested, build.items]
    simp [State.peeking, State.enter]
  rw [items] at look
  exact ⟨nx, look⟩

end Regex.Reader

/-- One character of a value that is guarded by literal text. -/
def guardedChar (w : Text) : Regex :=
  .flagged {} {} (concat
    [.lookahead true (.alt (.char 47) (concat (w.map fun c => .char c.toNat))), .any])

/-- The capture group of a parameter that is guarded by literal text captures one or more characters,
as few as there can be. -/
theorem builds_guardedGroup {st : State} (h : st.Ready) (w : Text) :
    ∃ nx, Builds st ('(' :: (['(', '?', ':', '(', '?', '!', '/', '|'] ++
        (w.flatMap literal ++ [')', '.', ')']) ++ ['+', '?', ')'])) nx
      [.capture st.nextGroup (.rep 1 none .lazy (guardedChar w))] [⟨st.pos, none⟩] := by
  obtain ⟨m, refusal⟩ := builds_refusal (ready_grouped st.entered) w
  obtain ⟨m', any, -⟩ := builds_any refusal.ready
  obtain ⟨m'', char, mode⟩ := builds_silent (ready_entered st) (refusal.append any)
  have text : ['(', '?', ':'] ++ (['(', '?', '!', '/', '|'] ++
      (w.flatMap literal ++ [')']) ++ ['.']) ++ [')'] =
      '(' :: (['?', ':', '(', '?', '!', '/', '|'] ++ (w.flatMap literal ++ [')', '.', ')'])) := by
    simp
  rw [text] at char
  exact builds_captured h char mode rfl rfl (by decide)

/-! ## Tokens -/

/-- The groups that a token of a plain template opens, by their indexes in the expression, with what
asks for their keys. -/
def Draft.groups (d : Draft) : Token → List (Nat × Call)
  | .param p =>
    (d.source.length + p.opening.length, .param p.name p.marks.optional) ::
      if p.marks.star then
        [(d.source.length + p.opening.length + (p.group d.guard).length, .star)]
      else []
  | .star => [(d.source.length, .star)]
  | _ => []

/-- The groups that a row of tokens opens that is drafted after others. -/
def groupsFrom (d : Draft) : List Token → List (Nat × Call)
  | [] => []
  | k :: ks => d.groups k ++ groupsFrom (d.push k) ks

/-- The groups of an expression that starts at an index; none of them has a name. -/
def unnamed (base : Nat) (xs : List (Nat × Call)) : List Group :=
  xs.map fun x => ⟨base + x.1, none⟩

variable {st : State}

/-- What stands in front of the group of a parameter. -/
theorem builds_front (p : Param) (h : st.Ready) :
    ∃ nx rs, Builds st ((if p.slash then ['/'] else []) ++ p.formatText) nx rs [] := by
  have slash : ∃ nx rs, Builds st (if p.slash then ['/'] else []) nx rs [] := by
    cases p.slash with
    | false => exact ⟨st, [], .nil h⟩
    | true =>
      obtain ⟨nx, build, -⟩ := builds_char (c := '/') h (by decide)
      exact ⟨nx, _, build⟩
  obtain ⟨m, rs, first⟩ := slash
  unfold Param.formatText
  cases p.format with
  | false => exact ⟨m, rs, by simpa using first⟩
  | true =>
    obtain ⟨nx, dot, -⟩ := builds_dot first.ready
    exact ⟨nx, _, first.append dot⟩

/-- The group for the rest of the path, if the parameter has a star. -/
theorem builds_restGroup (p : Param) (h : st.Ready) :
    ∃ nx rs, Builds st p.restGroup nx rs (if p.marks.star then [⟨st.pos, none⟩] else []) := by
  unfold Param.restGroup Param.formatText
  cases p.marks.star with
  | false => exact ⟨st, [], .nil h⟩
  | true =>
    cases p.format with
    | false =>
      obtain ⟨m, set, -⟩ := builds_slashSet (ready_grouped st.entered)
      obtain ⟨nx, build, -⟩ := builds_more h set
      exact ⟨nx, _, build⟩
    | true =>
      obtain ⟨m, set, -⟩ := builds_slashDotSet (ready_grouped st.entered)
      obtain ⟨nx, build, -⟩ := builds_more h set
      exact ⟨nx, _, build⟩

theorem builds_param {p : Param} {w : Text} {d : Draft} {base : Nat} (hp : p.capture = none)
    (hd : d.guard = w.flatMap literal) (h : st.Ready) (hpos : st.pos = base + d.source.length) :
    ∃ nx rs, Builds st (p.written d.guard) nx rs (unnamed base (d.groups (.param p))) := by
  have group : p.group d.guard = p.defaultGroup d.guard := by rw [Param.group, hp]
  have guarded : ∀ s : State, p.GuardedAt d.guard s := by
    intro s he
    unfold Param.guardFor at he ⊢
    split at he
    · cases he
    · next apart =>
      rw [if_neg apart, hd]
      exact guards_literal _ w
  obtain ⟨m1, front, before⟩ := builds_front p (ready_grouped st)
  obtain ⟨m2, b, capture, -, -⟩ := builds_defaultGroup p before.ready (guarded m1)
  obtain ⟨m3, rest, after⟩ := builds_restGroup p capture.ready
  obtain ⟨m4, whole, mode⟩ := builds_silent h (before.append (capture.append after))
  have pos : m1.pos = base + (d.source.length + p.opening.length) := by
    rw [before.pos, show st.grouped.pos = st.pos + 3 from rfl, hpos, Param.opening]
    simp only [List.length_append, List.length_cons, List.length_nil]
    omega
  have pos' : m2.pos = base + (d.source.length + p.opening.length + (p.group d.guard).length) := by
    rw [capture.pos, pos, group]
    omega
  have groups : unnamed base (d.groups (.param p)) =
      [] ++ ([⟨m1.pos, none⟩] ++ if p.marks.star then [⟨m2.pos, none⟩] else []) := by
    rw [pos, pos', unnamed, Draft.groups]
    cases p.marks.star <;> rfl
  rw [groups, Param.written, group]
  cases p.marks.optional with
  | false => exact ⟨m4, _, by simpa [Param.opening] using whole⟩
  | true =>
    obtain ⟨nx, once⟩ := builds_optional whole mode rfl rfl
    exact ⟨nx, _, by simpa [Param.opening] using once⟩

/-- A star becomes a group for anything. -/
theorem builds_wildcard (h : st.Ready) :
    ∃ nx rs, Builds st wildcard nx rs [⟨st.pos, none⟩] := by
  obtain ⟨m, any, mode⟩ := builds_any (ready_entered st)
  obtain ⟨m', many⟩ := builds_many any mode rfl rfl
  obtain ⟨nx, build, -⟩ := builds_capture h (by simp) (by simp) many
  exact ⟨nx, _, build⟩

/-- A literal character is an item, an anchor or a bar. -/
theorem walks_char {c : Char} (hc : (Token.literal c).IsPlain) (h : st.Ready)
    (hf : st.frames = []) : ∃ nx, Walks st [c] nx [] := by
  by_cases bar : c = '|'
  · subst bar
    exact walks_bar h hf
  by_cases start : c = '^'
  · subst start
    obtain ⟨nx, build, -⟩ := builds_start h
    exact ⟨nx, build.walks⟩
  by_cases stop : c = '$'
  · subst stop
    obtain ⟨nx, build, -⟩ := builds_stop h
    exact ⟨nx, build.walks⟩
  have marks : ∀ d ∈ itemMarks, d ∈ syntaxMarks ∨ d ∈ ['.', '*', '|', '^', '$'] := by decide
  obtain ⟨nx, build, -⟩ := builds_char (c := c) h fun hm => by
    obtain ⟨plain, dot, star⟩ := hc
    rcases marks c hm with hm | hm
    · exact plain hm
    · simp [dot, star, bar, start, stop] at hm
  exact ⟨nx, build.walks⟩

/-- What a token of a plain template becomes is read, with its groups. -/
theorem walks_token {k : Token} {w : Text} {d : Draft} {base : Nat} (hk : k.IsPlain)
    (hd : d.guard = w.flatMap literal) (h : st.Ready) (hf : st.frames = [])
    (hpos : st.pos = base + d.source.length) :
    ∃ nx, Walks st (k.written d.guard) nx (unnamed base (d.groups k)) := by
  cases k with
  | param p =>
    obtain ⟨nx, rs, build⟩ := builds_param hk hd h hpos
    exact ⟨nx, build.walks⟩
  | star =>
    obtain ⟨nx, rs, build⟩ := builds_wildcard h
    rw [hpos] at build
    exact ⟨nx, build.walks⟩
  | dot =>
    obtain ⟨nx, build, -⟩ := builds_dot h
    exact ⟨nx, build.walks⟩
  | literal c => exact walks_char hk h hf
  | _ => exact hk.elim

/-- The guard that a token of a plain template leaves is literal text. -/
theorem guardAfter_literal {k : Token} (hk : k.IsPlain) (w : Text) :
    ∃ w' : Text, k.guardAfter (w.flatMap literal) = w'.flatMap literal := by
  cases k with
  | param p => exact ⟨[], rfl⟩
  | star => exact ⟨[], rfl⟩
  | dot => exact ⟨w ++ ['.'], by simp [Token.guardAfter, literal, specialChars]⟩
  | literal c =>
    by_cases slash : c = '/'
    · exact ⟨[], by rw [Token.guardAfter, if_pos slash]; rfl⟩
    · exact ⟨w ++ [c], by rw [Token.guardAfter, if_neg slash]; simp⟩
  | _ => exact hk.elim

/-- Induction on the tokens: what a row of them becomes is read, with the groups of all. -/
theorem walks_tokens {ks : List Token} {w : Text} {d : Draft} {base : Nat}
    (hk : ∀ k ∈ ks, k.IsPlain) (hd : d.guard = w.flatMap literal) (h : st.Ready)
    (hf : st.frames = []) (hpos : st.pos = base + d.source.length) :
    ∃ nx, Walks st (writtenFrom d.guard ks) nx (unnamed base (groupsFrom d ks)) := by
  induction ks generalizing w d st with
  | nil => exact ⟨st, .nil h⟩
  | cons k ks ih =>
    obtain ⟨m, first⟩ := walks_token (hk k (by simp)) hd h hf hpos
    obtain ⟨w', guard⟩ := guardAfter_literal (hk k (by simp)) w
    rw [← hd] at guard
    have pos : m.pos = base + (d.push k).source.length := by
      rw [first.pos, length_push, hpos]
      omega
    obtain ⟨nx, rest⟩ := ih (d := d.push k) (fun l hl => hk l (by simp [hl])) guard first.ready
      (first.frames.trans hf) pos
    refine ⟨nx, ?_⟩
    rw [writtenFrom, groupsFrom, unnamed, List.map_append]
    exact first.append rest

end RoutePattern
