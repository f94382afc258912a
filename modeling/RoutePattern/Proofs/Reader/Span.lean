import RoutePattern.Proofs.Reader.Outside

/-! # Texts that keep the reader outside

`Trail.Spans T t T'`: the text `t` falls into closed pieces that are allowed from the trail `T` on
and lead to the trail `T'`.

* `Spans.append`, `spans_piece`, `spans_chars`: spans are put together from pieces.
* `passes_spans`: where a span is accepted, it is read from outside to outside.
* `passes_group`: the same for a group, whatever has just been read in front of it.
-/

namespace RoutePattern.Regex.Reader

open Scan

namespace Trail

instance : (T : Trail) → (p : Piece) → Decidable (T.Allows p)
  | head, .char c => inferInstanceAs (Decidable (c ≠ '#' ∧ c ≠ '(' ∧ c ≠ 'x'))
  | flags, .char c => inferInstanceAs (Decidable (c ≠ 'x'))
  | clear, _ => isTrue trivial
  | paren, _ => isTrue trivial
  | head, .escape _ => isTrue trivial
  | head, .charClass _ => isTrue trivial
  | flags, .escape _ => isTrue trivial
  | flags, .charClass _ => isTrue trivial

instance decidableCalm : (T : Trail) → (ps : List Piece) → Decidable (T.Calm ps)
  | _, [] => isTrue trivial
  | T, p :: ps => @instDecidableAnd _ _ _ (decidableCalm (T.next p) ps)

/-- The text falls into closed pieces, allowed from the one trail on, that lead to the other. -/
def Spans (T : Trail) (t : Text) (T' : Trail) : Prop :=
  ∃ ps, (∀ p ∈ ps, p.IsClosed) ∧ spell ps = t ∧ T.Calm ps ∧ T.after ps = T'

variable {T T' T'' : Trail} {t u : Text}

theorem Spans.nil (T : Trail) : T.Spans [] T := ⟨[], by simp, rfl, trivial, rfl⟩

theorem Spans.append (h : T.Spans t T') (h' : T'.Spans u T'') : T.Spans (t ++ u) T'' := by
  obtain ⟨ps, h1, h2, h3, rfl⟩ := h
  obtain ⟨qs, i1, i2, i3, rfl⟩ := h'
  refine ⟨ps ++ qs, fun p hp => ?_, ?_, calm_append.2 ⟨h3, i3⟩, ?_⟩
  · exact (List.mem_append.1 hp).elim (h1 p) (i1 p)
  · rw [spell, List.flatMap_append, ← h2, ← i2]
  · exact List.foldl_append

theorem Spans.cons {c : Char} (h : T.Spans [c] T') (h' : T'.Spans u T'') :
    T.Spans (c :: u) T'' := h.append h'

theorem spans_piece {p : Piece} (h : p.IsClosed) (ha : T.Allows p) : T.Spans p.text (T.next p) :=
  ⟨[p], by simpa using h, by simp [spell], ⟨ha, trivial⟩, rfl⟩

theorem spans_plain {c : Char} (h1 : c ≠ '\\') (h2 : c ≠ '[') (ha : T.Allows (.char c)) :
    T.Spans [c] (T.next (.char c)) := spans_piece (p := .char c) ⟨h1, h2⟩ ha

theorem spans_escape (c : Char) : T.Spans ['\\', c] .clear := by
  have := spans_piece (T := T) (p := .escape (some c)) rfl (by cases T <;> trivial)
  rwa [next_escape] at this

theorem spans_class (h : ClosedClass t) : T.Spans t .clear := by
  have := spans_piece (T := T) (p := .charClass t) h (by cases T <;> trivial)
  rwa [next_charClass] at this

theorem spans_chars (h : ∀ c ∈ t, c ≠ '\\' ∧ c ≠ '[') (hc : T.Calm (t.map .char))
    (ha : T.after (t.map .char) = T') : T.Spans t T' :=
  ⟨_, closed_chars h, spell_chars t, hc, ha⟩

theorem after_append (ps qs : List Piece) : T.after (ps ++ qs) = (T.after ps).after qs :=
  List.foldl_append

/-- Behind a header, characters without a parenthesis begin none. -/
theorem clear_chars {w : Text} (h : ∀ c ∈ w, c ≠ '(') :
    clear.Calm (w.map .char) ∧ clear.after (w.map .char) = .clear := by
  induction w with
  | nil => exact ⟨trivial, rfl⟩
  | cons c w ih =>
    have next : clear.next (.char c) = .clear := clear_next (h c (by simp))
    obtain ⟨h1, h2⟩ := ih fun d hd => h d (by simp [hd])
    refine ⟨⟨trivial, ?_⟩, ?_⟩
    · rw [next]; exact h1
    · rw [List.map_cons, Trail.after, List.foldl_cons, next]; exact h2

end Trail

/-! ## Reading a span -/

variable {st : State} {T T' : Trail} {t v : Text}

theorem passes_spans (hs : T.Spans t T') (h : st.Outside) (hf : st.mode.Follows T)
    (ha : Accepts st (t ++ v)) :
    ∃ nx, Passes st t nx ∧ nx.Outside ∧ nx.mode.Follows T' ∧ Accepts nx v := by
  obtain ⟨ps, h1, rfl, h3, rfl⟩ := hs
  exact passes_pieces h1 h hf h3 ha

/-- A parenthesis with a mark behind it opens a group wherever it is accepted. -/
theorem passes_group {c : Char} (hc : c ∈ ['?', '.', '(', '[']) (hs : Trail.paren.Spans (c :: t) T')
    (h : st.Outside) (ha : Accepts st ('(' :: c :: t ++ v)) :
    st.mode.IsPlace ∧
      ∃ nx, Passes st ('(' :: c :: t) nx ∧ nx.Outside ∧ nx.mode.Follows T' ∧ Accepts nx v := by
  obtain ⟨hp, s, -, -, hso, -, hstep, ha⟩ := open_group (c := c) h hc ha
  have outside : s.opening.Outside := ⟨⟨hso.verbose, hso.flags, hso.frames⟩, trivial⟩
  obtain ⟨nx, h1, h2, h3, h4⟩ := passes_spans hs outside rfl ha
  exact ⟨hp, nx, (Passes.one (by decide) h.mode.quiet hstep).append h1, h2, h3, h4⟩

end RoutePattern.Regex.Reader
