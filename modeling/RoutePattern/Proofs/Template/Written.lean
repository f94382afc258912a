import RoutePattern.Proofs.Reader.Span
import RoutePattern.Proofs.Scan.Headers
import RoutePattern.Template.Draft

/-! # What parameters become

* `IsGuard`: the guard is a row of escapes and of characters that mean nothing.
* `Param.IsBalanced`: the group written after a parameter is a row of closed pieces.
* `spans_written`: a parameter becomes a group that the reader goes through from outside to outside.
-/

namespace RoutePattern

open Scan Regex Regex.Reader

/-! ## Guards -/

/-- The piece is an escape, or a character that means nothing. -/
def IsLiteral : Piece → Prop
  | .escape c => c.isSome
  | .char c => c ∉ specialChars
  | .charClass _ => False

/-- The guard is a row of escapes and of characters that mean nothing. -/
def IsGuard (guard : Text) : Prop := ∃ ps, (∀ p ∈ ps, IsLiteral p) ∧ spell ps = guard

theorem isGuard_nil : IsGuard [] := ⟨[], by simp, rfl⟩

theorem IsGuard.append {g h : Text} (hg : IsGuard g) (hh : IsGuard h) : IsGuard (g ++ h) := by
  obtain ⟨ps, h1, rfl⟩ := hg
  obtain ⟨qs, h2, rfl⟩ := hh
  exact ⟨ps ++ qs, fun p hp => (List.mem_append.1 hp).elim (h1 p) (h2 p), by simp [spell]⟩

theorem isGuard_escape (c : Char) : IsGuard ['\\', c] :=
  ⟨[.escape (some c)], by simp [IsLiteral], rfl⟩

theorem isGuard_literal (c : Char) : IsGuard (literal c) := by
  unfold literal
  split
  · exact isGuard_escape c
  · next h => exact ⟨[.char c], by simpa [IsLiteral] using h, rfl⟩

theorem literal_ne_nil (c : Char) : literal c ≠ [] := by
  unfold literal
  split <;> simp

theorem flatMap_literal_ne_nil {t : Text} (h : t ≠ []) : t.flatMap literal ≠ [] := by
  cases t with
  | nil => exact absurd rfl h
  | cons c t => simp [literal_ne_nil]

theorem isGuard_guardAfter {g : Text} {k : Token} (hg : IsGuard g) (hk : k ≠ .escape none) :
    IsGuard (k.guardAfter g) := by
  cases k with
  | escape c =>
    cases c with
    | none => exact absurd rfl hk
    | some c => exact hg.append (isGuard_escape c)
  | dot => exact hg.append (isGuard_escape '.')
  | literal c =>
    rw [Token.guardAfter]
    split
    · exact isGuard_nil
    · exact hg.append (isGuard_literal c)
  | _ => exact isGuard_nil

theorem IsLiteral.isClosed {p : Piece} (h : IsLiteral p) : p.IsClosed := by
  cases p with
  | escape c => exact h
  | charClass t => exact h.elim
  | char c =>
    refine ⟨?_, ?_⟩ <;> (rintro rfl; exact h (by decide))

theorem IsLiteral.next_clear {p : Piece} (h : IsLiteral p) : Trail.clear.next p = .clear := by
  cases p with
  | char c =>
    have hc : c ≠ '(' := by rintro rfl; exact h (by decide)
    exact Trail.clear_next hc
  | _ => rfl

theorem IsGuard.spans {g : Text} (h : IsGuard g) : Trail.clear.Spans g .clear := by
  obtain ⟨ps, h, rfl⟩ := h
  induction ps with
  | nil => exact .nil _
  | cons p ps ih =>
    have := Trail.spans_piece (h p (by simp)).isClosed (Trail.allows_clear p)
    rw [(h p (by simp)).next_clear] at this
    exact this.append (ih fun q hq => h q (by simp [hq]))

/-! ## Groups of parameters -/

/-- A row of pieces with its bare stars expanded. Only a parenthesis or nothing may stand before a
bare star, so its group does not end up inside a header. -/
theorem spans_expandPieces {ps : List Piece} {T : Trail} {repeatable : Bool}
    (hp : ∀ p ∈ ps, p.IsClosed) (hc : T.Calm ps)
    (hr : repeatable = false → T = .clear ∨ T = .paren) :
    T.Spans (expandPieces repeatable ps) (T.after ps) := by
  induction ps generalizing T repeatable with
  | nil => exact .nil _
  | cons p ps ih =>
    have closed : ∀ q ∈ ps, q.IsClosed := fun q hq => hp q (by simp [hq])
    have first := Trail.spans_piece (hp p (by simp)) hc.1
    have rest : T.Spans (p.text ++ expandPieces true ps) ((T.next p).after ps) :=
      first.append (ih closed hc.2 nofun)
    cases p with
    | escape c => exact rest
    | charClass t => exact rest
    | char c =>
      by_cases hs : c = '*'
      · subst hs
        rw [expandPieces]
        cases repeatable with
        | true => exact rest
        | false =>
          have star : T.Spans wildcard .clear ∧ T.next (.char '*') = .clear := by
            rcases hr rfl with rfl | rfl <;>
              exact ⟨Trail.spans_chars (by decide) (by decide) rfl, rfl⟩
          have later := @ih (T.next (.char '*')) true closed hc.2 nofun
          rw [star.2] at later
          rw [Trail.after, List.foldl_cons, star.2]
          exact star.1.append later
      · rw [expandPieces.eq_3 _ _ _ (by simpa using hs)]
        refine first.cons (ih closed hc.2 fun h => ?_)
        have hc : c = '(' ∨ c = '|' := by
          rw [Bool.and_eq_false_iff] at h
          simpa using h
        rcases hc with rfl | rfl
        · exact .inr (T.next_paren)
        · exact .inl (Trail.next_eq_clear (by decide) (by decide) rfl)

theorem expandPieces_paren (repeatable : Bool) (ps : List Piece) :
    expandPieces repeatable (.char '(' :: ps) = '(' :: expandPieces false ps := by
  rw [expandPieces.eq_3 _ _ _ (by simp)]
  rfl

theorem expandPieces_ne_nil {ps : List Piece} {repeatable : Bool} (hp : ∀ p ∈ ps, p.IsClosed)
    (h : ps ≠ []) : expandPieces repeatable ps ≠ [] := by
  cases ps with
  | nil => exact absurd rfl h
  | cons p ps =>
    cases p with
    | escape c => simp [expandPieces, Piece.text]
    | charClass t =>
      obtain ⟨r, rfl, -⟩ := hp (.charClass t) (by simp)
      simp [expandPieces, Piece.text]
    | char c =>
      unfold expandPieces
      split
      · split <;> simp [wildcard]
      · simp
      · simp_all

theorem captures_readName {n : Nat} {t : Text} (h : (Header.readName n t).opening.captures)
    (u : Text) : (Header.readName n (t ++ u)).opening.captures := by
  rcases Header.readName_cases n t with silent | ⟨name, v, rfl, hn, -⟩
  · rw [silent] at h
    cases h
  · rw [List.append_assoc, List.cons_append, Header.readName, Text.cut?_of_not_mem hn]
    rfl

theorem captures_plain {c : Char} (h : c ≠ '?') (r : Text) :
    (Header.read ('(' :: c :: r)).opening.captures := by
  rw [Header.read_plain h]
  rfl

/-- A group that captures does so whatever follows it. -/
theorem captures_append {c : Char} {r : Text}
    (h : (Header.read ('(' :: c :: r)).opening.captures) (u : Text) :
    (Header.read ('(' :: c :: (r ++ u))).opening.captures := by
  by_cases hc : c ≠ '?'
  · exact captures_plain hc _
  obtain rfl := Decidable.not_not.1 hc
  rcases Header.read_cases r with ⟨s, rfl⟩ | ⟨s, rfl, name⟩ | ⟨s, rfl, name⟩ | silent
  · change (Header.readComment 3 s).opening.captures at h
    rcases Header.readComment_cases 3 s with ⟨-, silent⟩ | ⟨_, _, -, -, silent⟩ <;>
      (rw [silent] at h; cases h)
  · rw [name] at h
    exact captures_readName h u
  · cases s with
    | nil => cases h
    | cons d s =>
      by_cases hd : d = '=' ∨ d = '!'
      · rcases hd with rfl | rfl <;> cases h
      · rw [not_or] at hd
        rw [name] at h
        rw [List.cons_append, List.cons_append, Header.read_name hd.1 hd.2]
        exact captures_readName h u
  · rw [silent] at h
    cases h

/-- The group written after a parameter is a row of closed pieces, nothing in it is a comment, a
condition or a verbose header. -/
def IsBalanced (capture : Text) : Prop :=
  ∃ ps, (∀ p ∈ ps, p.IsClosed) ∧ spell (.char '(' :: ps) = capture ∧
    Trail.paren.Calm ps ∧ Trail.paren.after ps = .clear

theorem spans_ownGroup {capture : Text} (h : IsBalanced capture) :
    ∃ c t, Param.ownGroup capture = '(' :: c :: t ∧ Trail.paren.Spans (c :: t) .clear ∧
      ∀ u, (Header.read ('(' :: c :: (t ++ u))).opening.captures := by
  obtain ⟨ps, h1, rfl, h3, h4⟩ := h
  have closed : ∀ p ∈ Piece.char '(' :: ps, p.IsClosed := by
    intro p hp
    rcases List.mem_cons.1 hp with rfl | hp
    · exact ⟨by decide, by decide⟩
    · exact h1 p hp
  have inner : Trail.paren.Spans (expandPieces false ps) .clear :=
    h4 ▸ spans_expandPieces h1 h3 fun _ => .inr rfl
  unfold Param.ownGroup expandWildcards
  rw [pieces_spell closed, expandPieces_paren]
  dsimp only
  split
  · next hc =>
    cases he : expandPieces false ps with
    | nil =>
      have : ps ≠ [] := by rintro rfl; cases h4
      exact absurd he (expandPieces_ne_nil h1 this)
    | cons c t =>
      rw [he] at hc inner
      exact ⟨c, t, rfl, inner, captures_append hc⟩
  · refine ⟨'(', _, rfl, ?_, fun u => captures_plain (by decide) _⟩
    have outer : Trail.paren.Spans ['('] .paren := Trail.spans_chars (by decide) (by decide) rfl
    have close : Trail.clear.Spans [')'] .clear := Trail.spans_chars (by decide) (by decide) rfl
    exact (outer.cons inner).append close

theorem spans_formatText (p : Param) : Trail.clear.Spans p.formatText .clear := by
  unfold Param.formatText
  split
  · exact Trail.spans_escape '.'
  · exact .nil _

theorem spans_defaultGroup {g : Text} (hg : IsGuard g) (p : Param) :
    ∃ c t, p.defaultGroup g = '(' :: c :: t ∧ c ∈ ['[', '('] ∧ Trail.paren.Spans (c :: t) .clear := by
  have lazy : Trail.clear.Spans ['+', '?', ')'] .clear :=
    Trail.spans_chars (by decide) (by decide) rfl
  unfold Param.defaultGroup
  dsimp only
  split
  · have set : ClosedClass (['[', '^', '/'] ++ p.formatText ++ [']']) := by
      unfold Param.formatText
      split <;> exact ⟨_, rfl, rfl⟩
    have := (Trail.spans_class (T := .paren) set).append lazy
    exact ⟨'[', _, by simp; rfl, by decide, by simpa using this⟩
  · have guard : IsGuard (p.guardFor g) := by
      unfold Param.guardFor
      split
      · exact isGuard_nil
      · exact hg
    have front : Trail.paren.Spans ['(', '?', ':', '(', '?', '!', '/', '|'] .clear :=
      Trail.spans_chars (by decide) (by decide) rfl
    have back : Trail.clear.Spans [')', '.', ')'] .clear :=
      Trail.spans_chars (by decide) (by decide) rfl
    have := ((front.append guard.spans).append back).append lazy
    exact ⟨'(', _, by simp; rfl, by decide, by simpa using this⟩

theorem spans_restGroup (p : Param) : Trail.clear.Spans p.restGroup .clear := by
  unfold Param.restGroup
  split
  · have front : Trail.clear.Spans ['(', '(', '?', ':'] .clear :=
      Trail.spans_chars (by decide) (by decide) rfl
    have set : ClosedClass (['[', '/'] ++ p.formatText ++ [']']) := by
      unfold Param.formatText
      split <;> exact ⟨_, rfl, rfl⟩
    have back : Trail.clear.Spans ['.', '+', '?', ')', '?', ')'] .clear :=
      Trail.spans_chars (by decide) (by decide) rfl
    simpa using (front.append (Trail.spans_class set)).append back
  · exact .nil _

/-- The capture group of a parameter, from its parenthesis on. -/
theorem spans_group {g : Text} {p : Param} (hg : IsGuard g)
    (hp : ∀ capture, p.capture = some capture → IsBalanced capture) :
    ∃ c t, p.group g = '(' :: c :: t ∧ Trail.paren.Spans (c :: t) .clear ∧
      ∀ u, (Header.read ('(' :: c :: (t ++ u))).opening.captures := by
  unfold Param.group
  split
  · next capture h =>
    exact spans_ownGroup (hp capture h)
  · obtain ⟨c, t, h1, h2, h3⟩ := spans_defaultGroup hg p
    refine ⟨c, t, h1, h3, fun u => captures_plain ?_ _⟩
    rintro rfl
    exact absurd h2 (by decide)

theorem spans_opening (p : Param) :
    ∃ t, p.opening = '(' :: '?' :: t ∧ Trail.paren.Spans ('?' :: t) .clear := by
  have front : Trail.paren.Spans ['?', ':'] .clear := Trail.spans_chars (by decide) (by decide) rfl
  have slash : Trail.clear.Spans (if p.slash then ['/'] else []) .clear := by
    split
    · exact Trail.spans_chars (by decide) (by decide) rfl
    · exact .nil _
  exact ⟨_, by simp [Param.opening]; rfl, by
    simpa using (front.append slash).append (spans_formatText p)⟩

/-- A parameter becomes a group that is read from outside to outside. -/
theorem spans_written {g : Text} {p : Param} (hg : IsGuard g)
    (hp : ∀ capture, p.capture = some capture → IsBalanced capture) :
    ∃ t, p.written g = '(' :: '?' :: t ∧ Trail.paren.Spans ('?' :: t) .clear := by
  obtain ⟨t, h1, h2⟩ := spans_opening p
  obtain ⟨c, u, h3, h4, -⟩ := spans_group hg hp
  have paren : Trail.clear.Spans ['('] .paren := Trail.spans_chars (by decide) (by decide) rfl
  have close : Trail.clear.Spans (')' :: if p.marks.optional then ['?'] else []) .clear := by
    split <;> exact Trail.spans_chars (by decide) (by decide) rfl
  refine ⟨_, by rw [Param.written, h1, h3]; simp only [List.cons_append, List.append_assoc]; rfl, ?_⟩
  have := ((h2.append (paren.cons h4)).append (spans_restGroup p)).append close
  simpa using this

end RoutePattern
