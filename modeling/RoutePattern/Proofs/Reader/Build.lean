import RoutePattern.Proofs.Reader.Outside

/-! # What a text is read as

`Builds st t nx rs gs`: from `st` to `nx` the text `t` is read as the items `rs`, and the groups
`gs` are met on the way; all around stays as it is.

* `Builds.append`: two texts in turn.
* `builds_char`, `builds_any`, `builds_set`: single items.
* `builds_capture`, `builds_silent`: a group around items.
* `builds_lazy`, `builds_optional`, `builds_many`: a repeat of an item.
* `finish_of_builds`: what items give at the end of an expression.
-/

namespace RoutePattern.Regex

@[simp] theorem concat_singleton (r : Regex) : concat [r] = r := rfl

@[simp] theorem concat_cons_cons (r s : Regex) (rs : List Regex) :
    concat (r :: s :: rs) = seq r (concat (s :: rs)) := rfl

namespace Reader

open Scan

variable {st nx : State}

/-- What reading items leaves alone. -/
def State.around (st : State) :
    List Regex × List Frame × Bool × Flags × List (Nat × Nat) × Option Nat × Bool :=
  (st.branches, st.frames, st.verbose, st.flags, st.asked, st.behind, st.variableLookbehind)

/-- The reader stands between items, and nothing is verbose. -/
structure State.Ready (st : State) : Prop where
  mode : st.mode = .items ∨ st.mode = .repeated
  verbose : st.verbose = false

/-- The text is read as items with some groups in them. -/
structure Builds (st : State) (t : Text) (nx : State) (rs : List Regex) (gs : List Group) :
    Prop where
  passes : Passes st t nx
  ready : nx.Ready
  items : nx.items = rs.reverse ++ st.items
  found : nx.found = st.found ++ gs
  around : nx.around = st.around

theorem Builds.nil (h : st.Ready) : Builds st [] st [] [] :=
  ⟨.done st, h, rfl, by simp, rfl⟩

theorem Builds.append {st s nx : State} {t u : Text} {rs qs : List Regex} {gs hs : List Group}
    (h : Builds st t s rs gs) (h' : Builds s u nx qs hs) :
    Builds st (t ++ u) nx (rs ++ qs) (gs ++ hs) where
  passes := h.passes.append h'.passes
  ready := h'.ready
  items := by rw [h'.items, h.items, List.reverse_append, List.append_assoc]
  found := by rw [h'.found, h.found, List.append_assoc]
  around := h'.around.trans h.around

theorem Builds.pos {t : Text} {rs : List Regex} {gs : List Group} (h : Builds st t nx rs gs) :
    nx.pos = st.pos + t.length := h.passes.pos

theorem Builds.nextGroup {t : Text} {rs : List Regex} {gs : List Group}
    (h : Builds st t nx rs gs) : nx.nextGroup = st.nextGroup + gs.length := by
  have met := congrArg List.length h.found
  simp only [State.found, List.length_map, List.length_append] at met
  simp only [State.nextGroup, met]
  omega

/-- The state between items, with no repeat at hand. -/
def State.rested (st : State) : State := { st with mode := .items, verbose := false }

theorem State.Ready.quiet (h : st.Ready) : st.mode.Quiet := by
  rcases h.mode with hm | hm <;> rw [hm] <;> trivial

theorem State.Ready.place (h : st.Ready) : st.mode.IsPlace := by
  rcases h.mode with hm | hm <;> rw [hm] <;> trivial

theorem State.Ready.entered (h : st.Ready) (i : Nat) : st.mode ≠ .opened i := by
  rcases h.mode with hm | hm <;> rw [hm] <;> nofun

theorem State.Ready.settle (h : st.Ready) : settle st = .ok st.rested := by
  have terse : st.rested = { st with mode := .items } := by rw [State.rested, ← h.verbose]
  rcases h.mode with hm | hm
  · have same : st.rested = st := by rw [terse, ← hm]
    rw [same, settle_eq (by rw [hm]; trivial)]
  · rw [terse]
    unfold Reader.settle
    rw [hm]

theorem State.Ready.around (h : st.Ready) : st.rested.around = st.around := by
  rw [State.around, State.around, h.verbose]
  rfl

theorem step_plain {c : Char} (h : st.Ready) (h1 : c ≠ '?') (h2 : c ≠ '+') :
    step st (.plain c) =
      (readItem st.rested c).map fun nx => { nx with pos := st.pos + 1 } := by
  have extend : extend? st (.plain c) = none := by
    rcases h.mode with hm | hm <;> simp [extend?, hm, h1, h2]
  rw [step, take, extend, h.settle]
  rfl

theorem step_escaped (h : st.Ready) (c : Char) :
    step st (.escaped c) =
      (readItemEscape st.rested c).map fun nx => { nx with pos := st.pos + 2 } := by
  have extend : extend? st (.escaped c) = none := by
    rcases h.mode with hm | hm <;> simp [extend?, hm]
  rw [step, take, extend, h.settle]
  rfl

theorem Passes.plain {s : State} {c : Char} {t : Text} (hc : c ≠ '\\') (hq : st.mode.Quiet)
    (hs : Reader.step st (.plain c) = .ok s) (h : Passes s t nx) : Passes st (c :: t) nx :=
  .step (y := .plain c) (by simpa using hc) hq hs h

/-! ## Single items -/

theorem builds_pushed {y : Symbol} {r : Regex} (h : st.Ready) (hy : y ≠ .plain '\\')
    (hs : step st y = .ok { st.rested.push r with pos := st.pos + y.size }) :
    Builds st y.text { st.rested.push r with pos := st.pos + y.size } [r] [] :=
  ⟨.one hy h.quiet hs, ⟨.inl rfl, rfl⟩, rfl, by simp [State.rested, State.found, State.push],
    h.around⟩

theorem builds_push {y : Symbol} {r : Regex} (h : st.Ready) (hy : y ≠ .plain '\\')
    (hs : step st y = .ok { st.rested.push r with pos := st.pos + y.size }) :
    ∃ nx, Builds st y.text nx [r] [] ∧ nx.mode = .items :=
  ⟨_, builds_pushed h hy hs, rfl⟩

/-- Characters that mean something between items. -/
def itemMarks : List Char :=
  ['|', ')', '(', '[', '.', '^', '$', '*', '+', '?', '\x7b', '\\']

theorem step_char {c : Char} (h : st.Ready) (hc : c ∉ itemMarks) :
    step st (.plain c) = .ok { st.rested.push (.char c.toNat) with pos := st.pos + 1 } := by
  have marks : ∀ d ∈ itemMarks, c ≠ d := fun d hd he => hc (he ▸ hd)
  rw [step_plain h (marks '?' (by decide)) (marks '+' (by decide))]
  have read : readItem st.rested c = .ok (st.rested.push (.char c.toNat)) := by
    unfold readItem
    simp only [State.rested, Bool.false_and, Bool.false_eq_true, if_false]
    split <;> first | rfl | exact absurd rfl (marks _ (by decide))
  rw [read]
  rfl

theorem builds_char {c : Char} (h : st.Ready) (hc : c ∉ itemMarks) :
    ∃ nx, Builds st [c] nx [.char c.toNat] [] ∧ nx.mode = .items := by
  refine builds_push (y := .plain c) h ?_ (step_char h hc)
  rintro ⟨⟩
  exact hc (by decide)

theorem builds_any (h : st.Ready) : ∃ nx, Builds st ['.'] nx [.any] [] ∧ nx.mode = .items :=
  builds_push (y := .plain '.') h (by decide) (by rw [step_plain h (by decide) (by decide)]; rfl)

theorem builds_dot (h : st.Ready) :
    ∃ nx, Builds st ['\\', '.'] nx [.char 46] [] ∧ nx.mode = .items :=
  builds_push (y := .escaped '.') h (by decide) (by rw [step_escaped h]; rfl)

theorem builds_start (h : st.Ready) :
    ∃ nx, Builds st ['^'] nx [.anchor .start] [] ∧ nx.mode = .items :=
  builds_push (y := .plain '^') h (by decide) (by rw [step_plain h (by decide) (by decide)]; rfl)

theorem builds_stop (h : st.Ready) :
    ∃ nx, Builds st ['$'] nx [.anchor .stop] [] ∧ nx.mode = .items :=
  builds_push (y := .plain '$') h (by decide) (by rw [step_plain h (by decide) (by decide)]; rfl)

/-! ## Sets -/

/-- The state behind the bracket that opens a set. -/
def State.bracketed (st : State) : State :=
  { st.rested with mode := .setStart { start := st.pos }, pos := st.pos + 1 }

/-- A set, read from behind its bracket on. -/
theorem builds_set {t : Text} {r : Regex} (h : st.Ready) (hp : Passes st.bracketed t nx)
    (hx : nx = { st.rested.push r with pos := st.pos + 1 + t.length, sets := nx.sets }) :
    Builds st ('[' :: t) nx [r] [] ∧ nx.mode = .items := by
  have bracket : step st (.plain '[') = .ok st.bracketed := by
    rw [step_plain h (by decide) (by decide)]; rfl
  refine ⟨⟨.plain (by decide) h.quiet bracket hp, ?_, ?_, ?_, ?_⟩, ?_⟩
  · rw [hx]; exact ⟨.inl rfl, rfl⟩
  · rw [hx]; rfl
  · rw [hx]; simp [State.rested, State.push, State.found]
  · rw [hx]; exact h.around
  · rw [hx]; rfl

theorem builds_slashSet (h : st.Ready) :
    ∃ nx, Builds st ['[', '/', ']'] nx [.set false [.char 47]] [] ∧ nx.mode = .items :=
  ⟨_, builds_set h (.plain (by decide) trivial rfl <| .plain (by decide) trivial rfl <|
    .done _) rfl⟩

theorem builds_slashDotSet (h : st.Ready) :
    ∃ nx, Builds st ['[', '/', '\\', '.', ']'] nx [.set false [.char 47, .char 46]] [] ∧
      nx.mode = .items :=
  ⟨_, builds_set h (.plain (by decide) trivial rfl <|
    .step (y := .escaped '.') (by decide) trivial rfl <| .plain (by decide) trivial rfl <|
    .done _) rfl⟩

theorem builds_noSlash (h : st.Ready) :
    ∃ nx, Builds st ['[', '^', '/', ']'] nx [.set true [.char 47]] [] ∧ nx.mode = .items :=
  ⟨_, builds_set h (.plain (by decide) trivial rfl <| .plain (by decide) trivial rfl <|
    .plain (by decide) trivial rfl <| .done _) rfl⟩

theorem builds_noSlashDot (h : st.Ready) :
    ∃ nx, Builds st ['[', '^', '/', '\\', '.', ']'] nx [.set true [.char 47, .char 46]] [] ∧
      nx.mode = .items :=
  ⟨_, builds_set h (.plain (by decide) trivial rfl <| .plain (by decide) trivial rfl <|
    .step (y := .escaped '.') (by decide) trivial rfl <| .plain (by decide) trivial rfl <|
    .done _) rfl⟩

/-! ## Groups -/

/-- The group behind whose start the state `nx` is. -/
structure State.Opens (st : State) (o : Opener) (nx : State) : Prop where
  ready : nx.Ready
  branches : nx.branches = []
  items : nx.items = []
  frames : ∃ i, nx.frames = ⟨o, i, st.branches, st.items, st.verbose, st.behind⟩ :: st.frames
  kept : (nx.flags, nx.asked, nx.variableLookbehind) = (st.flags, st.asked, st.variableLookbehind)

/-- The state behind the parenthesis that closes a group. -/
def State.shut (st : State) (f : Frame) (fs : List Frame) : State :=
  { st.noteClosed f.opener with
    mode := .items
    verbose := f.verbose
    branches := f.branches
    items := st.closed f.opener :: f.items
    frames := fs
    behind := f.behind
    pos := st.pos + 1 }

theorem step_close {f : Frame} {fs : List Frame} (h : st.Ready) (hf : st.frames = f :: fs) :
    step st (.plain ')') = .ok (st.rested.shut f fs) := by
  have close : readItem st.rested ')' = st.rested.close := rfl
  rw [step_plain h (by decide) (by decide), close, State.close]
  rw [show st.rested.frames = f :: fs from hf]
  rfl

theorem body_eq {rs : List Regex} (hb : st.branches = []) (hi : st.items = rs.reverse) :
    st.body = concat rs := by
  simp [State.body, State.alternatives, hb, hi, choice]

theorem noteClosed_kept {o : Opener} (ho : ∀ b, o ≠ .lookbehind b) :
    ((st.noteClosed o).flags, (st.noteClosed o).asked, (st.noteClosed o).variableLookbehind) =
      (st.flags, st.asked, st.variableLookbehind) := by
  cases o with
  | lookbehind b => exact absurd rfl (ho b)
  | _ => rfl

/-- A group, from behind its start on. -/
theorem builds_group {s m : State} {o : Opener} {t u : Text} {r : Regex} {rs : List Regex}
    {gs hs : List Group} (ho : ∀ b, o ≠ .lookbehind b) (hst : st.Ready) (h : st.Opens o s)
    (hg : s.found = st.found ++ gs) (hb : Builds s t m rs hs) (hu : Passes st (u ++ t) m)
    (hr : ∀ s : State, s.body = concat rs → s.closed o = r) :
    ∃ nx, Builds st (u ++ t ++ [')']) nx [r] (gs ++ hs) ∧ nx.mode = .items := by
  obtain ⟨i, frames⟩ := h.frames
  have around := hb.around
  simp only [State.around, Prod.mk.injEq] at around
  obtain ⟨a1, a2, a3, a4, a5, a6, a7⟩ := around
  have kept := h.kept
  simp only [Prod.mk.injEq] at kept
  have body : m.rested.body = concat rs :=
    body_eq (a1.trans h.branches) (by rw [State.rested, hb.items, h.items, List.append_nil])
  have noted := @noteClosed_kept m.rested o ho
  simp only [Prod.mk.injEq] at noted
  have close := hb.ready.quiet
  refine ⟨_, ⟨hu.append (.one (by decide) close (step_close hb.ready (a2.trans frames))),
    ⟨.inl rfl, hst.verbose⟩, ?_, ?_, ?_⟩, rfl⟩
  · exact congrArg (· :: st.items) (hr _ body)
  · have found : (m.rested.noteClosed o).found = m.found := found_noteClosed o
    rw [← List.append_assoc, ← hg, ← hb.found, ← found]
    rfl
  · simp only [State.around, State.shut, Prod.mk.injEq, true_and]
    refine ⟨noted.1.trans (a4.trans kept.1), noted.2.1.trans (a5.trans kept.2.1), ?_⟩
    exact noted.2.2.trans (a7.trans kept.2.2)

/-- The state behind a parenthesis that opens a capture group. -/
def State.entered (st : State) : State :=
  { st.rested.enterCapture st.pos none with pos := st.pos + 1 }

/-- The state behind the header of a group that does not capture. -/
def State.grouped (st : State) : State :=
  { enterFlagged st.rested st.pos {} {} with pos := st.pos + 3 }

theorem step_paren (h : st.Ready) : step st (.plain '(') = .ok st.rested.opening := by
  rw [step_plain h (by decide) (by decide)]; rfl

/-- A symbol other than a question mark is read inside the group that a parenthesis has opened. -/
theorem step_opening {y : Symbol} (hy : y ≠ .plain '?') :
    step st.rested.opening y = step st.entered y := by
  have opening : extend? st.rested.opening y = none := by
    simp [extend?, State.opening, hy]
  have entered : extend? st.entered y = none := rfl
  rw [step, take, opening, step, take, entered]
  rfl

theorem passes_opening {t : Text} (ht : t ≠ []) (hq : t.head? ≠ some '?')
    (h : Passes st.entered t nx) : Passes st.rested.opening t nx := by
  cases h with
  | done => exact absurd rfl ht
  | @step _ s _ y u hy hm hs h =>
    have first : y ≠ .plain '?' := by rintro rfl; exact hq rfl
    exact .step hy trivial (by rw [step_opening first]; exact hs) h

theorem ready_entered (st : State) : st.entered.Ready := ⟨.inl rfl, rfl⟩

theorem ready_grouped (st : State) : st.grouped.Ready := ⟨.inl rfl, rfl⟩

/-- Behind a parenthesis, a text that is no header is accepted inside the group. -/
theorem accepts_opening {c : Char} {t : Text} (hb : c ≠ '\\') (hq : c ≠ '?')
    (h : Accepts st.rested.opening (c :: t)) : Accepts st.entered (c :: t) := by
  rw [accepts_plain hb, step_opening (by simpa using hq)] at h
  exact (accepts_plain hb).2 h

theorem builds_capture {m : State} {t : Text} {rs : List Regex} {gs : List Group} (h : st.Ready)
    (ht : t ≠ []) (hq : t.head? ≠ some '?') (hb : Builds st.entered t m rs gs) :
    ∃ nx, Builds st ('(' :: (t ++ [')'])) nx [.capture st.nextGroup (concat rs)]
      (⟨st.pos, none⟩ :: gs) ∧ nx.mode = .items := by
  have opens : st.Opens (.capture st.nextGroup) st.entered :=
    ⟨ready_entered st, rfl, rfl, ⟨st.pos, by rw [h.verbose]; rfl⟩, rfl⟩
  have passes : Passes st (['('] ++ t) m :=
    .plain (by decide) h.quiet (step_paren h) (passes_opening ht hq hb.passes)
  have found : st.entered.found = st.found ++ [⟨st.pos, none⟩] := found_enterCapture _ _
  exact builds_group (u := ['(']) (by simp) h opens found hb passes
    fun s hs => by rw [State.closed, hs]

theorem passes_silent (h : st.Ready) : Passes st ['(', '?', ':'] st.grouped :=
  .plain (by decide) h.quiet (step_paren h) <| .plain (by decide) trivial rfl <|
    .plain (by decide) trivial rfl <| .done _

theorem builds_silent {m : State} {t : Text} {rs : List Regex} {gs : List Group} (h : st.Ready)
    (hb : Builds st.grouped t m rs gs) :
    ∃ nx, Builds st (['(', '?', ':'] ++ t ++ [')']) nx [.flagged {} {} (concat rs)] gs ∧
      nx.mode = .items := by
  have opens : st.Opens (.flagged {} {}) st.grouped :=
    ⟨ready_grouped st, rfl, rfl, ⟨st.pos, by rw [h.verbose]; rfl⟩, rfl⟩
  have found : st.grouped.found = st.found ++ [] := (List.append_nil _).symm
  exact builds_group (by simp) h opens found hb ((passes_silent h).append hb.passes)
    fun s hs => by rw [State.closed, hs]

/-! ## Repeats -/

theorem Builds.quantify {t : Text} {c : Char} {r : Regex} {gs : List Group} {least : Nat}
    {most : Option Nat} (h : Builds st t nx [r] gs) (hm : nx.mode = .items)
    (ha : r.isAnchor = false) (hr : r.isRepeat = false)
    (hc : (c, least, most) ∈ [('+', 1, none), ('?', 0, some 1), ('*', 0, none)]) :
    ∃ s, Builds st (t ++ [c]) s [.rep least most .greedy r] gs ∧ s.mode = .repeated ∧
      s.items = .rep least most .greedy r :: st.items := by
  have quantify : nx.rested.quantify nx.rested.pos least most =
      .ok { nx.rested with items := .rep least most .greedy r :: st.items, mode := .repeated } := by
    have items : nx.rested.items = r :: st.items := h.items
    unfold State.quantify
    rw [items]
    simp [ha, hr]
  have settled : settle nx = .ok nx.rested := h.ready.settle
  have step : step nx (.plain c) = .ok { nx.rested with
      items := .rep least most .greedy r :: st.items, mode := .repeated, pos := nx.pos + 1 } := by
    have extend : extend? nx (.plain c) = none := by simp [extend?, hm]
    have read : readItem nx.rested c = nx.rested.quantify nx.rested.pos least most := by
      simp only [List.mem_cons, List.not_mem_nil, or_false, Prod.mk.injEq] at hc
      rcases hc with ⟨rfl, rfl, rfl⟩ | ⟨rfl, rfl, rfl⟩ | ⟨rfl, rfl, rfl⟩ <;> rfl
    rw [Reader.step, take, extend, settled]
    show ((readItem nx.rested c).map _) = _
    rw [read, quantify]
    rfl
  have mark : c ≠ '\\' := by
    rintro rfl
    simp at hc
  refine ⟨_, ⟨h.passes.append (.one (y := .plain c) (by simpa using mark) h.ready.quiet step),
    ⟨.inr rfl, rfl⟩, rfl, ?_, ?_⟩, rfl, rfl⟩
  · exact h.found
  · exact h.ready.around.trans h.around

/-- One or more times, as few as there can be. -/
theorem builds_lazy {t : Text} {r : Regex} {gs : List Group} (h : Builds st t nx [r] gs)
    (hm : nx.mode = .items) (ha : r.isAnchor = false) (hr : r.isRepeat = false) :
    ∃ s, Builds st (t ++ ['+', '?']) s [.rep 1 none .lazy r] gs ∧ s.mode = .items := by
  obtain ⟨m, hb, mode, items⟩ := h.quantify hm ha hr (.head _)
  generalize hs : ({ m with
    items := .rep 1 none .lazy r :: st.items, mode := .items, pos := m.pos + 1 } : State) = s
  have step : step m (.plain '?') = .ok s := by
    have extend : extend? m (.plain '?') = some (.ok (m.setGreed .lazy)) := by simp [extend?, mode]
    rw [Reader.step, take, extend, State.setGreed, items, ← hs]
    rfl
  have passes := hb.passes.append (.one (y := .plain '?') (by simp) hb.ready.quiet step)
  rw [List.append_assoc] at passes
  subst hs
  exact ⟨_, ⟨passes, ⟨.inl rfl, hb.ready.verbose⟩, rfl, hb.found, hb.around⟩, rfl⟩

/-- Once if there can be, or not at all. -/
theorem builds_optional {t : Text} {r : Regex} {gs : List Group} (h : Builds st t nx [r] gs)
    (hm : nx.mode = .items) (ha : r.isAnchor = false) (hr : r.isRepeat = false) :
    ∃ s, Builds st (t ++ ['?']) s [.rep 0 (some 1) .greedy r] gs := by
  obtain ⟨s, hb, -⟩ := h.quantify hm ha hr (.tail _ (.head _))
  exact ⟨s, hb⟩

/-- Any number of times, as many as there can be. -/
theorem builds_many {t : Text} {r : Regex} {gs : List Group} (h : Builds st t nx [r] gs)
    (hm : nx.mode = .items) (ha : r.isAnchor = false) (hr : r.isRepeat = false) :
    ∃ s, Builds st (t ++ ['*']) s [.rep 0 none .greedy r] gs := by
  obtain ⟨s, hb, -⟩ := h.quantify hm ha hr (.tail _ (.tail _ (.head _)))
  exact ⟨s, hb⟩

/-- A capture group for an item and more, as little as there can be, or for nothing. -/
theorem builds_more {m : State} {t : Text} {r : Regex} (h : st.Ready)
    (hb : Builds st.entered.grouped t m [r] []) :
    ∃ nx, Builds st ('(' :: (['(', '?', ':'] ++ (t ++ ['.', '+', '?']) ++ [')'] ++ ['?'] ++ [')']))
      nx [.capture st.nextGroup (.rep 0 (some 1) .greedy
        (.flagged {} {} (concat [r, .rep 1 none .lazy .any])))] [⟨st.pos, none⟩] ∧
      nx.mode = .items := by
  obtain ⟨m2, any, mode⟩ := builds_any hb.ready
  obtain ⟨m3, many, -⟩ := builds_lazy any mode rfl rfl
  obtain ⟨m4, group, mode⟩ := builds_silent (ready_entered st) (hb.append many)
  obtain ⟨m5, once⟩ := builds_optional group mode rfl rfl
  exact builds_capture h (by simp) (by simp) once

/-! ## The end -/

/-- Between items and outside of all groups an expression may end, if no condition and no
look-behind is at fault. -/
theorem conclude_outside (hm : st.mode = .items) (hf : st.frames = []) (ha : st.asked = [])
    (hv : st.variableLookbehind = false) : conclude st =
      .ok ⟨st.body, st.flags.settled, st.groups.map MetGroup.toGroup, st.sets.reverse⟩ := by
  have closed : openFault? st = none := by
    rw [openFault?, hm]
    simp only [hf]
    rfl
  have met : unmetCondition? st = none := by
    rw [unmetCondition?, ha]
    rfl
  rw [conclude, closed, met]
  dsimp only
  rw [hv]
  rfl

/-- What is read to its end as items between no groups is their row. -/
theorem finish_of_builds {flags : Flags} {t : Text} {nx : State} {rs : List Regex}
    {gs : List Group} (h : Builds (start flags) t nx rs gs) :
    ∃ sets, finish nx = .ok ⟨concat rs, flags.settled, gs, sets⟩ := by
  have around := h.ready.around.trans h.around
  simp only [State.around, Prod.mk.injEq] at around
  obtain ⟨branches, frames, -, kept, asked, -, variableLookbehind⟩ := around
  have body : nx.rested.body = concat rs := by
    refine body_eq branches ?_
    have items : nx.rested.items = rs.reverse ++ [] := h.items
    rw [items, List.append_nil]
  have found : nx.rested.groups.map MetGroup.toGroup = gs := h.found
  refine ⟨nx.rested.sets.reverse, ?_⟩
  rw [finish, h.ready.settle]
  show conclude nx.rested = _
  rw [conclude_outside rfl frames asked variableLookbehind, body, kept, found]
  rfl

end Reader

end RoutePattern.Regex
