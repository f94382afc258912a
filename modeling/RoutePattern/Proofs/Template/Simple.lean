import RoutePattern.Proofs.Reader.Span

/-! # Templates without comments, conditions and verbose headers

* `IsSimple`: what is asked of a template.
* `IsCalm`: what is asked of its pieces. `IsSimple.calm`: those of a simple template are calm.
-/

namespace RoutePattern

open Scan Regex Regex.Reader

/-- The template has no comment, no condition on a group, and no header with flags that makes
expressions verbose. -/
structure IsSimple (t : Text) : Prop where
  comment : ¬ ['(', '?', '#'] <:+: t
  condition : ¬ ['(', '?', '('] <:+: t
  verbose : ∀ letters : Text, (∀ c ∈ letters, (Flag.ofLetter? c).isSome) →
    ¬ (('(' :: '?' :: letters) ++ ['x']).map Piece.char <:+: pieces t

/-- The pieces of the template are allowed one after the other: none of them, outside classes, makes
up a comment, a condition or a verbose header. -/
def IsCalm (t : Text) : Prop := Trail.clear.Calm (pieces t)

namespace Regex.Reader.Trail

/-- The pieces end with a trail. -/
def Behind : Trail → List Piece → Prop
  | clear, _ => True
  | paren, ps => ∃ qs, ps = qs ++ [.char '(']
  | head, ps => ∃ qs, ps = qs ++ [.char '(', .char '?']
  | flags, ps => ∃ qs, ∃ letters : Text, (∀ c ∈ letters, (Flag.ofLetter? c).isSome) ∧
      ps = qs ++ ('(' :: '?' :: letters).map .char

theorem Behind.next {T : Trail} {ps : List Piece} (h : T.Behind ps) (p : Piece) :
    (T.next p).Behind (ps ++ [p]) := by
  cases p with
  | escape c => rw [next_escape]; trivial
  | charClass t => rw [next_charClass]; trivial
  | char c =>
    by_cases hp : c = '('
    · subst hp; rw [next_paren]; exact ⟨ps, rfl⟩
    cases T with
    | clear => rw [clear_next hp]; trivial
    | paren =>
      obtain ⟨qs, rfl⟩ := h
      rw [paren_next hp]
      split
      · next hq => exact ⟨qs, by rw [hq]; simp⟩
      · trivial
    | head =>
      obtain ⟨qs, rfl⟩ := h
      rw [letter_next (.inl rfl) hp]
      split
      · next hl => exact ⟨qs, [c], by simpa using hl, by simp⟩
      · trivial
    | flags =>
      obtain ⟨qs, letters, hls, rfl⟩ := h
      rw [letter_next (.inr rfl) hp]
      split
      · next hl =>
        refine ⟨qs, letters ++ [c], fun d hd => ?_, by simp⟩
        rcases List.mem_append.1 hd with hd | hd
        · exact hls d hd
        · rw [List.mem_singleton.1 hd]; exact hl
      · trivial

end Regex.Reader.Trail

/-- The text of a row of pieces stands in the template. -/
theorem infix_of_pieces {t : Text} {ps qs rs : List Piece} (h : pieces t = ps ++ qs ++ rs) :
    spell qs <:+: t :=
  ⟨spell ps, spell rs, by rw [← text_pieces t, h, spell, spell, spell, List.flatMap_append,
    List.flatMap_append]⟩

theorem IsSimple.allows {t : Text} {T : Trail} {ps qs : List Piece} {p : Piece} (h : IsSimple t)
    (ht : pieces t = ps ++ p :: qs) (hb : T.Behind ps) : T.Allows p := by
  cases p with
  | escape c => cases T <;> trivial
  | charClass s => cases T <;> trivial
  | char c =>
    cases T with
    | clear => trivial
    | paren => trivial
    | head =>
      obtain ⟨rs, rfl⟩ := hb
      have text : ['(', '?', c] <:+: t :=
        @infix_of_pieces t rs [.char '(', .char '?', .char c] qs (by simp [ht])
      refine ⟨?_, ?_, ?_⟩
      · rintro rfl; exact h.comment text
      · rintro rfl; exact h.condition text
      · rintro rfl; exact h.verbose [] (by simp) ⟨rs, qs, by simp [ht]⟩
    | flags =>
      obtain ⟨rs, letters, hl, rfl⟩ := hb
      rintro rfl
      exact h.verbose letters hl ⟨rs, qs, by simp [ht]⟩

theorem IsSimple.calm {t : Text} (h : IsSimple t) : IsCalm t := by
  have go : ∀ (qs ps : List Piece) (T : Trail), pieces t = ps ++ qs → T.Behind ps → T.Calm qs := by
    intro qs
    induction qs with
    | nil => intro _ _ _ _; trivial
    | cons q qs ih =>
      intro ps T ht hb
      exact ⟨h.allows ht hb, ih (ps ++ [q]) _ (by simp [ht]) (hb.next q)⟩
  exact go _ [] .clear rfl trivial

end RoutePattern
