import RoutePattern.Proofs.Reader.Build
import RoutePattern.Proofs.Template.Ending

/-! # An expression without its anchors

What is accepted between anchors is accepted alone, but for a comment that the end closes.

* `reads_anchored`: the expression, read between the anchors and alone.
* `accepted_alone`: it is accepted alone.
* `ends_of_anchored`, `read_ended`: an expression that is accepted alone comes to where the end is
  read, and there it is accepted between all anchors.
* `tree_of_anchored`: the end is the last item of an expression that has one alternative.
-/

namespace RoutePattern

open Regex Regex.Reader

namespace Regex.Reader

variable {s : State}

/-- Whether an expression may end does not depend on the items at hand. -/
theorem conclude_items {q : Parsed} (hs : s.mode = .items) (h : conclude s = .ok q)
    (is : List Regex) (p : Nat) : ∃ q', conclude { s with items := is, pos := p } = .ok q' := by
  have fault : openFault? { s with items := is, pos := p } = openFault? s := by
    simp [openFault?, hs]
  have unmet : unmetCondition? { s with items := is, pos := p } = unmetCondition? s := rfl
  unfold conclude at h ⊢
  rw [fault, unmet]
  cases hf : openFault? s with
  | some x => simp [hf] at h
  | none =>
    cases hu : unmetCondition? s with
    | some x => simp [hf, hu] at h
    | none =>
      rw [hf, hu] at h
      dsimp only at h ⊢
      by_cases hv : s.variableLookbehind = true
      · simp [hv] at h
      · exact ⟨_, if_neg hv⟩

/-- Between items nothing is left to be settled. -/
theorem settle_items (hs : s.mode = .items) (is : List Regex) (p : Nat) :
    settle { s with items := is, pos := p } = .ok { s with items := is, pos := p } :=
  settle_eq (by rw [show State.mode _ = s.mode from rfl, hs]; trivial)

theorem finish_items {q : Parsed} (hs : s.mode = .items) (h : conclude s = .ok q)
    (is : List Regex) (p : Nat) : ∃ q', finish { s with items := is, pos := p } = .ok q' := by
  obtain ⟨q', hq'⟩ := conclude_items hs h is p
  exact ⟨q', bind_eq_ok.2 ⟨_, settle_items hs is p, hq'⟩⟩

theorem conclude_of_finish {q : Parsed} {is : List Regex} {p : Nat} (hs : s.mode = .items)
    (h : finish { s with items := is, pos := p } = .ok q) : ∃ q', conclude s = .ok q' := by
  obtain ⟨s', settled, concluded⟩ := bind_eq_ok.1 h
  rw [settle_items hs] at settled
  obtain rfl := Except.ok.inj settled
  exact conclude_items (s := { s with items := is, pos := p }) hs concluded s.items s.pos

end Regex.Reader

variable {o : Options} {fl : Flags} {source : Text} {ys : List Symbol}

theorem reads_anchored {nx : State} (hfl : fl.verbose = false) (hs : symbols? source = some ys)
    (h : Reads (start o.flags) (o.anchored source) nx) :
    ∃ a st, Reads (start fl) source a ∧ Reads (begun o.flags) source st ∧
      Shifted fl (begun o.flags) a st ∧ Reads st (o.ending (endsInSlash source)) nx := by
  have plain : o.flags.verbose = false := rfl
  rw [anchored_ending, reads_start plain] at h
  obtain ⟨st, hst, h⟩ := (reads_append hs).1 h
  obtain ⟨a, ha, shifted⟩ :=
    shifted_reads (isBase_begun plain) hst (shifted_start (isBase_begun plain) hfl) (.inl ⟨rfl, rfl⟩)
  exact ⟨a, st, ha, hst, shifted, h⟩

/-- A slash that ends the expression is its last item. -/
theorem last_slash {st : State} (h : Reads (begun o.flags) source st) (hp : st.mode.IsPlace)
    (hs : endsInSlash source = true) : st.mode = .items ∧ ∃ rs, st.items = .char 47 :: rs :=
  slash_of_reads h (of_decide_eq_true hs) nofun hp

/-- An item may start behind the expression, unless the end closes a comment. -/
theorem place_of_anchored {a st nx : State} {q : Parsed} (hst : Reads (begun o.flags) source st)
    (h : Shifted fl (begun o.flags) a st) (hnx : Reads st (o.ending (endsInSlash source)) nx)
    (hq : finish nx = .ok q) :
    st.mode.IsPlace ∨ (o.toEnd = false ∧ ∃ i, a.mode = .comment i) := by
  have fresh : st.mode.Fresh := fresh_of_reads hst nofun
  rcases place_of_ending fresh (frames_of_lineComment h) ⟨nx, q, hnx, hq⟩ with hp | ⟨hend, i, hm⟩
  · exact .inl hp
  · refine .inr ⟨hend, ?_⟩
    rw [h.mode] at hm
    cases hma : a.mode with
    | comment j => exact ⟨j, rfl⟩
    | _ =>
      rw [hma] at hm
      cases hm

/-- What is accepted between the anchors is accepted alone, unless the end closes a comment. -/
theorem accepted_alone (hfl : fl.verbose = false) (hs : symbols? source = some ys)
    (ha : Accepts (start o.flags) (o.anchored source)) :
    (∃ x, Pattern.read fl source = .ok x) ∨
      (o.toEnd = false ∧ ∃ a i, Reads (start fl) source a ∧ a.mode = .comment i) := by
  obtain ⟨nx, q, h, hq⟩ := ha
  obtain ⟨a, st, ha, hst, shifted, hnx⟩ := reads_anchored hfl hs h
  rcases place_of_anchored hst shifted hnx hq with hp | ⟨hend, i, hm⟩
  · obtain ⟨s, rs, ends⟩ := settles_of_ending hp (last_slash hst hp) hnx
    obtain rfl := hnx.unique (reads_ending o ends)
    obtain ⟨q', hq'⟩ := conclude_of_finish ends.mode hq
    have finished : finish st = .ok q' := bind_eq_ok.2 ⟨s, ends.settled, hq'⟩
    obtain ⟨x, hx⟩ := shifted_finish ⟨rfl, rfl⟩ shifted finished
    exact .inl ⟨⟨x, source⟩, pattern_read_eq_ok.2 ⟨rfl, a, ha, hx⟩⟩
  · exact .inr ⟨hend, a, i, ha, hm⟩

/-- An expression that is no choice has one alternative. -/
theorem branches_of_body {st : State} (h : ∀ r r', st.body ≠ .alt r r') : st.branches = [] := by
  have rows : (concat st.items.reverse :: st.branches).reverse.length = st.branches.length + 1 := by
    simp
  unfold State.body State.alternatives at h
  cases hr : (concat st.items.reverse :: st.branches).reverse with
  | nil =>
    rw [hr] at rows
    cases rows
  | cons r rs =>
    rw [hr] at h rows
    cases rs with
    | nil => exact List.length_eq_zero_iff.1 (by simpa using rows.symm)
    | cons r' rs => exact absurd rfl (h r (choice r' rs))

/-- An expression that is accepted alone comes to where the end is read, and the end adds to its
items. -/
theorem ends_of_anchored {a st nx : State} {x q : Parsed} (hx : finish a = .ok x)
    (hst : Reads (begun o.flags) source st) (h : Shifted fl (begun o.flags) a st)
    (hnx : Reads st (o.ending (endsInSlash source)) nx) (hq : finish nx = .ok q) :
    ∃ s rs, EndsAt (endsInSlash source) st s rs := by
  rcases place_of_anchored hst h hnx hq with hp | ⟨-, i, hm⟩
  · exact settles_of_ending hp (last_slash hst hp) hnx
  · rcases place_of_finish hx with hp | ⟨hl, -⟩
    · rw [hm] at hp
      exact hp.elim
    · rw [hm] at hl
      cases hl

/-- An expression that is read up to where it may end is read between the anchors, whichever these
are. -/
theorem read_ended {st s : State} {rs : List Regex} {c : Parsed}
    (hst : Reads (begun o.flags) source st) (h : EndsAt (endsInSlash source) st s rs)
    (hc : conclude s = .ok c) :
    ∃ q, Pattern.read o.flags (o.anchored source) = .ok q ∧ q.flags = s.flags.settled ∧
      q.tree = State.body { s with items := (o.lastItems (endsInSlash source)).reverse ++ rs } := by
  have whole := Reads.plain (c := '^') (by decide) (step_start rfl) (hst.append (reads_ending o h))
  rw [← anchored_ending] at whole
  obtain ⟨q, finished⟩ := finish_items h.mode hc _ _
  refine ⟨⟨q, o.anchored source⟩, pattern_read_eq_ok.2 ⟨rfl, _, whole, finished⟩, ?_⟩
  obtain ⟨s', settled, -, -, tree, flags, -⟩ := finish_ok finished
  rw [settle_items h.mode] at settled
  obtain rfl := Except.ok.inj settled
  exact ⟨flags, tree⟩

/-- If an expression has one alternative, the end is the last item of what is between the
anchors. -/
theorem tree_of_anchored {x q : Pattern} (hfl : fl.verbose = false)
    (hx : Pattern.read fl source = .ok x) (hb : ∀ r r', x.tree ≠ .alt r r')
    (hq : Pattern.read o.flags (o.anchored source) = .ok q) :
    q.flags = o.flags.settled ∧ ∃ rs r, q.tree = concat (rs ++ [r]) ∧ o.Ends r := by
  obtain ⟨-, b, hb', hfb⟩ := pattern_read_eq_ok.1 hx
  obtain ⟨ys, hs, -⟩ := reads_iff.1 hb'
  obtain ⟨-, nx, h, hnx⟩ := pattern_read_eq_ok.1 hq
  obtain ⟨a, st, ha, hst, shifted, hend⟩ := reads_anchored hfl hs h
  obtain rfl := hb'.unique ha
  obtain ⟨s, rs, ends⟩ := ends_of_anchored hfb hst shifted hend hnx
  obtain rfl := hend.unique (reads_ending o ends)
  obtain ⟨b', hb', shifted'⟩ := shifted_settle (.inl ⟨rfl, rfl⟩) shifted s ends.settled
  obtain ⟨b'', hb'', -, frames, tree, -⟩ := finish_ok hfb
  obtain rfl := Except.ok.inj (hb'.symm.trans hb'')
  have own : b'.branches = [] := branches_of_body (tree ▸ hb)
  obtain ⟨s', hs', -, -, qtree, qflags, -⟩ := finish_ok hnx
  rw [settle_items ends.mode] at hs'
  obtain rfl := Except.ok.inj hs'
  obtain ⟨y, asked, -, rfl⟩ := shifted'.eq
  have branches : ((begun o.flags).after y asked b').branches = [] := by
    rw [State.after, State.branchesAfter, frames, own]
    rfl
  obtain ⟨ls, r, last, isEnd⟩ := lastItems_ends o (endsInSlash source)
  refine ⟨qflags, rs.reverse ++ ls, r, qtree.trans (body_eq branches ?_), isEnd⟩
  simp [last]

end RoutePattern
