import RoutePattern.Proofs.Match.Captures
import RoutePattern.Proofs.Reader.Build
import RoutePattern.Proofs.Template.Written

/-! # The group of a parameter that has none of its own

* `State.Adds`: the reader is somewhere in literal text; `adds_guard`: a guard keeps it there.
* `State.Guards`: a guard is read through in its look-ahead; one that is accepted is
  (`guards_of_accepts`).
* `builds_defaultGroup`: what the group of a parameter without one of its own is read as.
-/

namespace RoutePattern

open Scan Regex Regex.Reader

/-! ## Literal text -/

namespace Regex.Reader

/-- An item may start here, or an escape is at hand. -/
def Mode.IsLiteral : Mode → Prop
  | .items => True
  | .hex site _ _ => site = .item
  | .nameBrace site => site = .item
  | .octal site _ => site = .item
  | .reference _ => True
  | _ => False

/-- Since the state `a` only items without parts have been read. -/
structure State.Adds (a st : State) : Prop where
  mode : st.mode.IsLiteral
  around : st.around = a.around
  groups : st.groups = a.groups
  nodes : allNodes st.items = allNodes a.items

variable {a st nx : State}

theorem State.Adds.with_mode (h : a.Adds st) {m : Mode} (hm : m.IsLiteral) :
    a.Adds { st with mode := m } := ⟨hm, h.around, h.groups, h.nodes⟩

theorem State.Adds.with_pos (h : a.Adds st) (pos : Nat) : a.Adds { st with pos := pos } :=
  ⟨h.mode, h.around, h.groups, h.nodes⟩

theorem State.Adds.push (h : a.Adds st) {r : Regex} (hr : r.isLeaf) : a.Adds (st.push r) := by
  refine ⟨trivial, h.around, h.groups, ?_⟩
  rw [State.push, allNodes, List.flatMap_cons, nodes_of_isLeaf hr]
  exact h.nodes

theorem State.Adds.placed (h : a.Adds st) (hp : Placed st .item nx) : a.Adds nx := by
  obtain ⟨r, hr, rfl⟩ := hp
  exact h.push hr

theorem State.Adds.verbose (h : a.Adds st) (ha : a.verbose = false) : st.verbose = false := by
  have around := h.around
  simp only [State.around, Prod.mk.injEq] at around
  exact around.2.2.1.trans ha

/-- Where an escape with digits ends, or no escape is at hand. -/
theorem adds_settle (h : a.Adds st) (hs : settle st = .ok nx) :
    a.Adds nx ∧ nx.mode.IsSettled := by
  have mode := h.mode
  cases settle_ok hs with
  | octal hm placed =>
    rw [hm] at mode
    obtain rfl := mode
    exact ⟨h.placed placed, settled_of_placed placed⟩
  | reference n _ => exact ⟨h.push rfl, trivial⟩
  | settled hn => exact ⟨h, hn⟩
  | _ => rw [‹st.mode = _›] at mode; exact mode.elim

theorem adds_extend {y : Symbol} (h : a.Adds st) (he : extend? st y = some (.ok nx)) :
    a.Adds nx := by
  have mode := h.mode
  cases extend?_ok he with
  | octal hm read =>
    rw [hm] at mode
    obtain rfl := mode
    obtain ⟨c, -, -, rfl | hp⟩ := extendOctal?_ok read
    · exact h.with_mode rfl
    · exact h.placed hp
  | reference _ read =>
    obtain ⟨c, -, -, rfl | rfl | ⟨r, hr, rfl⟩⟩ := extendReference?_ok read
    · exact h.with_mode trivial
    · exact h.with_mode rfl
    · exact h.push hr
  | _ => rw [‹st.mode = _›] at mode; exact mode.elim

theorem adds_react {y : Symbol} (h : a.Adds st) (ha : a.verbose = false)
    (hy : RoutePattern.IsLiteral (pieceOf y)) (hn : st.mode.IsSettled)
    (hr : react st y = .ok nx) : a.Adds nx := by
  have mode := h.mode
  have marks : ∀ c ∈ specialChars, y ≠ .plain c := by
    rintro c hc rfl
    exact hy hc
  cases react_ok hn hr with
  | escape _ read =>
    rcases readItemEscape_ok read with ⟨r, hl, rfl⟩ | rfl | rfl | rfl | ⟨-, rfl⟩
    · exact h.push hl
    · exact h.with_mode rfl
    · exact h.with_mode rfl
    · exact h.with_mode rfl
    · exact h.with_mode trivial
  | @item c _ _ read =>
    have verbose : ¬ st.verbose := by simp [h.verbose ha]
    have not : ∀ d ∈ specialChars, c ≠ d := fun d hd he => marks d hd (he ▸ rfl)
    rcases readItem_ok read with ⟨hv, -⟩ | ⟨hv, -⟩ | ⟨hc, -⟩ | ⟨hc, -⟩ | ⟨hc, -⟩ | ⟨hc, -⟩ |
      ⟨hc, -⟩ | ⟨hc, -⟩ | ⟨-, -, r, hl, rfl⟩
    · exact absurd hv verbose
    · exact absurd hv verbose
    · exact absurd hc (not _ (by decide))
    · exact absurd hc (not _ (by decide))
    · exact absurd hc (not _ (by decide))
    · exact absurd hc (not _ (by decide))
    · exact absurd hc (not _ (by decide))
    · have repeats : ∀ d ∈ ['*', '+', '?'], d ∈ specialChars := by decide
      exact absurd rfl (not c (repeats c hc))
    · exact h.push hl
  | hex hm read =>
    rw [hm] at mode
    obtain rfl := mode
    obtain ⟨c, -, -, rfl | hp⟩ := extendHex_ok read
    · exact h.with_mode rfl
    · exact h.placed hp
  | nameBrace _ => exact absurd rfl (marks _ (by decide))
  | _ => rw [‹st.mode = _›] at mode; exact mode.elim

theorem adds_step {y : Symbol} (h : a.Adds st) (ha : a.verbose = false)
    (hy : RoutePattern.IsLiteral (pieceOf y)) (hs : step st y = .ok nx) : a.Adds nx := by
  obtain ⟨s, ht, rfl⟩ := step_ok hs
  refine State.Adds.with_pos ?_ _
  rcases take_ok ht with he | ⟨-, s', h1, h2⟩
  · exact adds_extend h he
  · obtain ⟨h', hn⟩ := adds_settle h h1
    exact adds_react h' ha hy hn h2

theorem State.Adds.quiet (h : a.Adds st) : st.mode.Quiet := by
  have mode := h.mode
  unfold Mode.Quiet
  split
  · next hm => rw [hm] at mode; exact mode
  · next hm => rw [hm] at mode; exact mode
  · next hm => rw [hm] at mode; exact mode
  · trivial

/-- Induction on the pieces: a guard that is accepted is read as items without parts. -/
theorem adds_guard {g v : Text} (h : a.Adds st) (ha : a.verbose = false) (hg : IsGuard g)
    (hacc : Accepts st (g ++ v)) : ∃ nx, Passes st g nx ∧ a.Adds nx ∧ Accepts nx v := by
  obtain ⟨ps, hp, rfl⟩ := hg
  induction ps generalizing st with
  | nil => exact ⟨st, .done st, h, hacc⟩
  | cons p ps ih =>
    obtain ⟨y, rfl, hb⟩ : ∃ y, p = pieceOf y ∧ y ≠ .plain '\\' := by
      have literal := hp p (by simp)
      cases p with
      | charClass t => exact literal.elim
      | escape c =>
        obtain ⟨d, rfl⟩ := Option.isSome_iff_exists.1 literal
        exact ⟨.escaped d, rfl, by simp⟩
      | char c =>
        refine ⟨.plain c, rfl, fun hc => literal ?_⟩
        rw [Symbol.plain.inj hc]
        decide
    have text : (pieceOf y).text = y.text := by cases y <;> rfl
    rw [spell, List.flatMap_cons, text, List.append_assoc] at hacc
    obtain ⟨s, hs, hacc⟩ := (accepts_symbol hb).1 hacc
    obtain ⟨nx, h1, h2, h3⟩ :=
      ih (adds_step h ha (hp _ (by simp)) hs) (fun q hq => hp q (by simp [hq])) hacc
    refine ⟨nx, ?_, h2, h3⟩
    rw [spell, List.flatMap_cons, text]
    exact .step hb h.quiet hs h1

/-! ## The look-ahead of a guard -/

/-- The state behind the start of a look-ahead that refuses a slash. -/
def State.peeking (st : State) : State :=
  { st.rested.enter (.lookahead true) st.pos false with
    branches := [.char 47]
    pos := st.pos + 5 }

theorem passes_peeking (h : st.Ready) : Passes st ['(', '?', '!', '/', '|'] st.peeking :=
  .plain (by decide) h.quiet (step_paren h) <| .plain (by decide) trivial rfl <|
    .plain (by decide) trivial rfl <| .plain (by decide) trivial rfl <|
    .plain (by decide) trivial rfl <| .done _

/-- Between literal items a parenthesis closes a group: an escape that is still open does not go on
with it. -/
theorem close_of_react (h : a.Adds st) (ha : a.verbose = false) (hn : st.mode.IsSettled)
    (hr : react st (.plain ')') = .ok nx) : st.close = .ok nx := by
  have mode := h.mode
  generalize hy : Symbol.plain ')' = y at hr
  cases react_ok hn hr with
  | item _ read =>
    obtain rfl := Symbol.plain.inj hy
    simpa [readItem, h.verbose ha] using read
  | hex _ read =>
    obtain ⟨c, rfl, hx, -⟩ := extendHex_ok read
    obtain rfl := Symbol.plain.inj hy
    exact absurd hx (by decide)
  | escape _ _ => cases hy
  | nameBrace _ => exact absurd hy (by decide)
  | _ => rw [‹st.mode = _›] at mode; exact mode.elim

/-- Literal text ends at a parenthesis that closes a group. -/
theorem adds_close (h : a.Adds st) (ha : a.verbose = false) (hs : step st (.plain ')') = .ok nx) :
    ∃ s s', settle st = .ok s ∧ a.Adds s ∧ s.close = .ok s' ∧ nx = { s' with pos := st.pos + 1 } := by
  obtain ⟨s', ht, rfl⟩ := step_ok hs
  rcases take_ok ht with he | ⟨-, s, h1, h2⟩
  · rw [extend?_eq_none (by decide) rfl] at he; cases he
  · obtain ⟨h', hn⟩ := adds_settle h h1
    exact ⟨s, s', h1, h', close_of_react h' ha hn h2, rfl⟩

/-- A guard is read as literal text in a look-ahead, up to the parenthesis that closes it. -/
def State.Guards (st : State) (g : Text) : Prop :=
  ∃ m nx, Passes st.peeking g m ∧ st.peeking.Adds m ∧ step m (.plain ')') = .ok nx

theorem guards_of_accepts {g v : Text} (h : st.Ready) (hg : IsGuard g)
    (ha : Accepts st (['(', '?', '!', '/', '|'] ++ (g ++ ')' :: v))) : st.Guards g := by
  have peeking : st.peeking.Adds st.peeking := ⟨trivial, rfl, rfl, rfl⟩
  obtain ⟨m, pass, adds, ha⟩ := adds_guard peeking rfl hg ((passes_peeking h).accepts.1 ha)
  obtain ⟨nx, hs, -⟩ := (accepts_plain (by decide)).1 ha
  exact ⟨m, nx, pass, adds, hs⟩

/-- The look-ahead ends where its literal text does; `s` is the state with all of that read. -/
theorem builds_peeking {m : State} {g : Text} (h : st.Ready) (pass : Passes st.peeking g m)
    (adds : st.peeking.Adds m) (hs : step m (.plain ')') = .ok nx) :
    ∃ s, settle m = .ok s ∧ Builds st (['(', '?', '!', '/', '|'] ++ (g ++ [')'])) nx
      [.lookahead true (.alt (.char 47) (concat s.items.reverse))] [] ∧
      (concat s.items.reverse).nodes = [] := by
  have close : Passes m [')'] nx := .one (y := .plain ')') (by decide) adds.quiet hs
  obtain ⟨s, s', settled, adds', hc, rfl⟩ := adds_close adds rfl hs
  have around := adds'.around
  simp only [State.around, Prod.mk.injEq] at around
  obtain ⟨branches, frames, -, flags, asked, -, variableLookbehind⟩ := around
  have body : s.body = .alt (.char 47) (concat s.items.reverse) := by
    rw [State.body, State.alternatives, branches]
    rfl
  have nodes : (concat s.items.reverse).nodes = [] := by
    rw [nodes_concat]
    refine List.perm_nil.1 ((allNodes_reverse s.items).trans ?_)
    rw [adds'.nodes]
    exact .refl _
  rw [State.close, frames] at hc
  obtain rfl := Except.ok.inj hc
  refine ⟨s, settled, ⟨(passes_peeking h).append (pass.append close),
    ⟨.inl rfl, rfl⟩, ?_, ?_, ?_⟩, nodes⟩
  · show Regex.lookahead true s.body :: st.items = _
    rw [body]
    rfl
  · have found : s.found = st.found := congrArg (·.map MetGroup.toGroup) adds'.groups
    rw [List.append_nil]
    exact found
  · rw [← h.around]
    exact congrArg₂ (fun flags kept => (st.branches, st.frames, false, flags, kept)) flags
      (congrArg₂ (fun asked late => (asked, st.behind, late)) asked variableLookbehind)

theorem builds_lookahead {g : Text} (h : st.Ready) (hg : st.Guards g) :
    ∃ nx r, Builds st (['(', '?', '!', '/', '|'] ++ (g ++ [')'])) nx
      [.lookahead true (.alt (.char 47) r)] [] ∧ r.nodes = [] := by
  obtain ⟨m, nx, pass, adds, hs⟩ := hg
  obtain ⟨s, -, build, nodes⟩ := builds_peeking h pass adds hs
  exact ⟨nx, _, build, nodes⟩

end Regex.Reader

/-! ## The capture group -/

variable {st : State} {g v : Text}

/-- What a parameter without a group of its own captures. -/
def Param.Admits (p : Param) (c : Char) : Prop := c ≠ '/' ∧ (p.format → c ≠ '.')

/-- The characters up to a slash, and up to a dot if the parameter has one in front. -/
theorem builds_apart (p : Param) (h : st.Ready) :
    ∃ nx b, Builds st (['[', '^', '/'] ++ p.formatText ++ [']']) nx [b] [] ∧ nx.mode = .items ∧
      b.isAnchor = false ∧ b.isRepeat = false ∧ b.nodes = [] ∧ Eats p.Admits b := by
  have admits : ∀ (ms : List Member), .char 47 ∈ ms → (p.format → .char 46 ∈ ms) →
      Eats p.Admits (.set true ms) := by
    intro ms slash dot f s t ht
    obtain ⟨c, hc, hb⟩ := eats_set ms f s t ht
    refine ⟨c, ⟨?_, fun hf => ?_⟩, hb⟩
    · rintro rfl; exact hc slash
    · rintro rfl; exact hc (dot hf)
  unfold Param.formatText
  cases hf : p.format with
  | false =>
    obtain ⟨nx, hb, hm⟩ := builds_noSlash h
    exact ⟨nx, _, hb, hm, rfl, rfl, rfl, admits _ (by simp) (by simp [hf])⟩
  | true =>
    obtain ⟨nx, hb, hm⟩ := builds_noSlashDot h
    exact ⟨nx, _, hb, hm, rfl, rfl, rfl, admits _ (by simp) (by simp)⟩

/-- The characters up to a slash and up to where the guard comes again. -/
theorem builds_guarded (h : st.Ready) (hg : st.grouped.Guards g) :
    ∃ nx b, Builds st (['(', '?', ':', '(', '?', '!', '/', '|'] ++ (g ++ [')', '.', ')'])) nx [b]
      [] ∧ nx.mode = .items ∧ b.isAnchor = false ∧ b.isRepeat = false ∧ b.nodes = [] ∧
      Eats (· ≠ '/') b := by
  obtain ⟨m, r, look, nodes⟩ := builds_lookahead (ready_grouped st) hg
  obtain ⟨m', any, -⟩ := builds_any look.ready
  obtain ⟨nx, hb, hm⟩ := builds_silent h (look.append any)
  refine ⟨nx, _, by simpa using hb, hm, rfl, rfl, ?_, @eats_guarded '/' r⟩
  simp [Regex.nodes, nodes]

/-- The guard of a parameter is read through in the group of the parameter, if it has one. -/
def Param.GuardedAt (p : Param) (g : Text) (st : State) : Prop :=
  (p.guardFor g).isEmpty = false → st.entered.grouped.Guards (p.guardFor g)

theorem guardedAt_of_accepts (p : Param) (h : st.Ready) (hg : IsGuard g)
    (ha : Accepts st (p.defaultGroup g ++ v)) : p.GuardedAt g st := by
  intro he
  have guard : IsGuard (p.guardFor g) := by
    unfold Param.guardFor
    split
    · exact isGuard_nil
    · exact hg
  have paren : Passes st ['('] st.rested.opening :=
    .one (y := .plain '(') (by decide) h.quiet (step_paren h)
  have inside := accepts_opening (c := '(') (by decide) (by decide)
    (paren.accepts.1 (by simpa [Param.defaultGroup, he] using ha))
  exact guards_of_accepts (ready_grouped _) guard
    ((passes_silent (ready_entered st)).accepts.1 (by simpa using inside))

/-- The group around an expression for one character. -/
theorem builds_captured {m : State} {b : Regex} {c : Char} {u : Text} (h : st.Ready)
    (hb : Builds st.entered (c :: u) m [b] []) (hm : m.mode = .items) (ha : b.isAnchor = false)
    (hr : b.isRepeat = false) (hc : c ≠ '?') :
    ∃ nx, Builds st ('(' :: (c :: u ++ ['+', '?', ')'])) nx
      [.capture st.nextGroup (.rep 1 none .lazy b)] [⟨st.pos, none⟩] := by
  obtain ⟨m', many, -⟩ := builds_lazy hb hm ha hr
  obtain ⟨nx, group, -⟩ := builds_capture h (by simp) (by simpa using hc) many
  exact ⟨nx, by simpa using group⟩

/-- The group of a parameter without one of its own captures one or more of the characters that the
parameter admits, as few as there can be. -/
theorem builds_defaultGroup (p : Param) (h : st.Ready) (hg : p.GuardedAt g st) :
    ∃ nx b, Builds st (p.defaultGroup g) nx [.capture st.nextGroup (.rep 1 none .lazy b)]
      [⟨st.pos, none⟩] ∧ b.nodes = [] ∧ Eats p.Admits b := by
  unfold Param.defaultGroup
  dsimp only
  cases he : (p.guardFor g).isEmpty with
  | true =>
    obtain ⟨m, b, hb, hm, hanchor, hrepeat, nodes, eats⟩ := builds_apart p (ready_entered st)
    obtain ⟨nx, group⟩ := builds_captured h hb hm hanchor hrepeat (by decide)
    exact ⟨nx, b, by simpa using group, nodes, eats⟩
  | false =>
    have format : p.format = false := by
      cases hf : p.format with
      | false => rfl
      | true => simp [Param.guardFor, hf] at he
    obtain ⟨m, b, hb, hm, hanchor, hrepeat, nodes, eats⟩ :=
      builds_guarded (ready_entered st) (hg he)
    obtain ⟨nx, group⟩ := builds_captured h hb hm hanchor hrepeat (by decide)
    refine ⟨nx, b, by simpa using group, nodes, fun f s t ht => ?_⟩
    obtain ⟨c, hc, hb⟩ := eats f s t ht
    exact ⟨c, ⟨hc, by simp [format]⟩, hb⟩

end RoutePattern
