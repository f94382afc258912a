import RoutePattern.Proofs.Template.Written

/-! # Tokens as pieces

A template is read in tokens, its syntax in pieces. No token ends in the middle of a piece.

* `text_name`, `capture_balanced`: the parts of a parameter.
* `trail_param`: behind a parameter no header is at hand.
* `header_cases`: the headers that a template keeps.
-/

namespace RoutePattern

open Scan Regex Regex.Reader

/-! ## Names -/

/-- The characters of a word are none that mean anything. -/
theorem word_ne {c : Char} (h : Text.isWord c) : c ≠ '\\' ∧ c ≠ '[' ∧ c ≠ '(' := by
  have marks : ∀ c ∈ ['\\', '[', '('], Text.isWord c = false := by decide
  refine ⟨?_, ?_, ?_⟩ <;> (rintro rfl; rw [marks _ (by decide)] at h; cases h)

theorem word_of_readWord? {s f : Bool} {t : Text} {p : ParamName}
    (h : ParamName.readWord? s f t = some p) :
    (∀ c ∈ p.name, Text.isWord c) ∧ p.name ≠ [] := by
  unfold ParamName.readWord? at h
  split at h
  · next r =>
    split at h
    · cases h
    · next hn =>
      obtain rfl := Option.some.inj h
      exact ⟨List.all_eq_true.1 List.all_takeWhile, by simpa using hn⟩
  · cases h

theorem word_of_read? {t : Text} {p : ParamName} (h : ParamName.read? t = some p) :
    (∀ c ∈ p.name, Text.isWord c) ∧ p.name ≠ [] := by
  unfold ParamName.read? at h
  split at h <;> exact word_of_readWord? h

/-- A word ends where the characters of words do. -/
theorem takeWhile_word {name r : Text} (hw : ∀ c ∈ name, Text.isWord c)
    (hr : r.takeWhile Text.isWord = []) : (name ++ r).takeWhile Text.isWord = name := by
  rw [List.takeWhile_append_of_pos hw, hr, List.append_nil]

/-- A name stands where it is written, if no character of a word follows. -/
theorem read?_text {p : ParamName} {r : Text} (hw : ∀ c ∈ p.name, Text.isWord c)
    (hn : p.name ≠ []) (hr : r.takeWhile Text.isWord = []) :
    ParamName.read? (p.text ++ r) = some p := by
  obtain ⟨slash, format, name⟩ := p
  have word : (name ++ r).takeWhile Text.isWord = name := takeWhile_word hw hr
  cases slash <;> cases format <;>
    simp [ParamName.text, ParamName.read?, ParamName.readWord?, word, hn]

/-- The name of a parameter is a row of plain characters, and ends a header. -/
theorem text_name {p : ParamName} (h : ∀ c ∈ p.name, Text.isWord c) (T : Trail) :
    (∀ c ∈ p.text, c ≠ '\\' ∧ c ≠ '[') ∧ T.after (p.text.map .char) = .clear := by
  constructor
  · intro c hc
    simp only [ParamName.text, List.append_assoc, List.mem_append, List.mem_cons] at hc
    rcases hc with hc | hc | rfl | hc
    · split at hc
      · obtain rfl := List.mem_singleton.1 hc; decide
      · cases hc
    · split at hc
      · obtain rfl := List.mem_singleton.1 hc; decide
      · cases hc
    · decide
    · exact ⟨(word_ne (h c hc)).1, (word_ne (h c hc)).2.1⟩
  · have colon : ∀ T : Trail, T.next (.char ':') = .clear := fun T =>
      Trail.next_eq_clear (by decide) (by decide) rfl
    simp only [ParamName.text, List.map_append, List.map_cons, Trail.after, List.foldl_append,
      List.foldl_cons, colon]
    exact (Trail.clear_chars fun c hc => (word_ne (h c hc)).2.2).2

/-! ## Parameters -/

theorem readParam_bare {name : ParamName} {r : Text} (h : r.head? ≠ some '(') :
    Token.readParam name r = { name with capture := none, marks := .read r } := by
  unfold Token.readParam
  split
  · simp at h
  · rfl

/-- A name, and behind it the marks of its parameter. -/
theorem tokens_named {p : ParamName} {marks : Modifiers} {u : Text}
    (hw : ∀ c ∈ p.name, Text.isWord c) (hn : p.name ≠ [])
    (hr : (marks.text ++ u).takeWhile Text.isWord = [])
    (paren : (marks.text ++ u).head? ≠ some '(') (read : Modifiers.read (marks.text ++ u) = marks) :
    tokens (p.text ++ (marks.text ++ u)) =
      .param { p with capture := none, marks := marks } :: tokens u := by
  have found := read?_text hw hn hr
  have behind : (p.text ++ (marks.text ++ u)).drop p.text.length = marks.text ++ u := List.drop_left
  have text : p.text ++ (marks.text ++ u) =
      (Token.param { p with capture := none, marks := marks }).text ++ u := by
    simp [Token.text, Param.text]
  have nonempty : p.text ++ (marks.text ++ u) ≠ [] := by simp [ParamName.text]
  obtain ⟨c, v, hv⟩ := List.exists_cons_of_ne_nil nonempty
  rw [hv] at found behind text ⊢
  have first : Token.first c v = .param { p with capture := none, marks := marks } := by
    rw [Token.first, found]
    dsimp only
    rw [behind, readParam_bare paren, read]
  rw [tokens, first, text, Token.size, List.drop_left]

/-- The pieces of a row of plain characters, and what follows it. -/
theorem calm_chars {t r : Text} {T : Trail} (h : ∀ c ∈ t, c ≠ '\\' ∧ c ≠ '[')
    (hc : T.Calm (pieces (t ++ r))) :
    T.Calm (t.map .char) ∧ (T.after (t.map .char)).Calm (pieces r) := by
  rw [← spell_chars t, pieces_append (closed_chars h)] at hc
  exact Trail.calm_append.1 hc

/-- The group after a parameter is balanced, and nothing of a header is at hand behind it. -/
theorem capture_balanced {r : Text} {n : Nat} (h : groupSize? ('(' :: r) = some n)
    (hc : Trail.clear.Calm (pieces ('(' :: r))) :
    IsBalanced (('(' :: r).take n) ∧ Trail.clear.Calm (pieces (('(' :: r).drop n)) := by
  obtain ⟨qs, hq, ht⟩ := groupSize?_spec h
  have whole := List.take_append_drop n ('(' :: r)
  rw [ht] at whole ⊢
  obtain ⟨ps, rfl⟩ : ∃ ps, qs = .char '(' :: ps := by
    cases qs with
    | nil => simp at whole
    | cons q qs =>
      refine ⟨qs, ?_⟩
      cases q with
      | escape c => simp [Piece.text] at whole
      | charClass t =>
        obtain ⟨s, rfl, -⟩ := hq (.charClass t) (by simp)
        simp [Piece.text] at whole
      | char c => rw [show c = '(' by simpa [Piece.text] using congrArg List.head? whole]
  have closed : ∀ p ∈ (Piece.char '(' :: ps) ++ [.char ')'], p.IsClosed := by
    intro p hp
    rcases List.mem_append.1 hp with hp | hp
    · exact hq p hp
    · rw [List.mem_singleton.1 hp]; exact ⟨by decide, by decide⟩
  have spelled : spell (Piece.char '(' :: ps) ++ [')'] =
      spell ((Piece.char '(' :: ps) ++ [.char ')']) := by simp [spell, Piece.text]
  have ends : Trail.paren.after (ps ++ [.char ')']) = .clear := by
    have last : ∀ T : Trail, T.next (.char ')') = .clear :=
      fun T => Trail.next_eq_clear (by decide) (by decide) rfl
    rw [Trail.after, List.foldl_append]
    exact last _
  rw [← whole, spelled, pieces_append closed] at hc
  obtain ⟨calm, rest⟩ := Trail.calm_append.1 hc
  refine ⟨⟨ps ++ [Piece.char ')'], fun p hp => closed p (List.mem_cons_of_mem _ hp), ?_, calm.2,
    ends⟩, ?_⟩
  · exact spelled.symm
  rw [show Trail.clear.after ((Piece.char '(' :: ps) ++ [.char ')']) = .clear from ends] at rest
  exact rest

theorem trail_marks {r : Text} (h : Trail.clear.Calm (pieces r)) :
    Trail.clear.Calm (pieces (r.drop (Modifiers.read r).text.length)) := by
  have plain : ∀ m : Modifiers, (∀ c ∈ m.text, c ≠ '\\' ∧ c ≠ '[') ∧
      Trail.clear.after (m.text.map .char) = .clear := by
    rintro ⟨star, optional⟩
    cases star <;> cases optional <;> decide
  obtain ⟨u, hu⟩ := Modifiers.text_read_isPrefix r
  obtain ⟨h1, h2⟩ := plain (Modifiers.read r)
  generalize Modifiers.read r = m at *
  subst hu
  rw [List.drop_left]
  exact h2 ▸ (calm_chars h1 h).2

theorem drop_take_length {α : Type} (n : Nat) (l : List α) :
    l.drop (l.take n).length = l.drop n := by
  conv => lhs; arg 2; rw [← List.take_append_drop n l]
  exact List.drop_left

/-- A parameter's group is balanced, and behind the parameter no header is at hand. -/
theorem trail_param {c : Char} {r : Text} {p : Param} {T : Trail}
    (hk : Token.first c r = .param p) (hc : T.Calm (pieces (c :: r))) :
    (∀ capture, p.capture = some capture → IsBalanced capture) ∧
      Trail.clear.Calm (pieces ((c :: r).drop (Token.param p).size)) := by
  unfold Token.first at hk
  split at hk
  · next name hn =>
    obtain rfl := Token.param.inj hk
    obtain ⟨rest, hr⟩ := ParamName.text_isPrefix_of_read? hn
    obtain ⟨plain, ends⟩ := text_name (word_of_read? hn).1 T
    have calm : Trail.clear.Calm (pieces rest) := ends ▸ (calm_chars plain (hr ▸ hc)).2
    rw [← hr, List.drop_left]
    have size : ∀ (capture : Option Text) (m : Modifiers),
        (name.text ++ rest).drop
            (Token.param { name with capture := capture, marks := m }).size =
          (rest.drop (capture.getD []).length).drop m.text.length := by
      intro capture m
      rw [Token.size, Token.text, Param.text, List.length_append, List.length_append,
        ← List.drop_drop, ← List.drop_drop, List.drop_left]
    have no_capture : ∀ capture, (none : Option Text) = some capture → IsBalanced capture := by
      intro capture h
      cases h
    unfold Token.readParam
    dsimp only
    rw [size]
    split
    · next s =>
      cases hg : groupSize? ('(' :: s) with
      | none => exact ⟨no_capture, trail_marks calm⟩
      | some n =>
        obtain ⟨balanced, later⟩ := capture_balanced hg calm
        simp only [Option.map_some, Option.getD_some, drop_take_length]
        refine ⟨fun capture h => ?_, trail_marks later⟩
        rw [← Option.some.inj h]
        exact balanced
    · exact ⟨no_capture, trail_marks calm⟩
  · next hn =>
    unfold Token.firstPlain at hk
    split at hk <;> cases hk

/-! ## Headers -/

/-- The colon at the start of a text, if there is one. -/
def leadingColon (t : Text) : Text := if t.head? = some ':' then [':'] else []

theorem readHeader_eq {front u : Text} {o : Opening}
    (h : Header.read (front ++ u) = ⟨o, front.length⟩) :
    Token.readHeader (front ++ u) = .header (front ++ leadingColon u) o.name? := by
  unfold Token.readHeader leadingColon
  dsimp only
  rw [h]
  dsimp only
  rw [List.drop_left]
  split
  · next hu =>
    obtain ⟨s, rfl⟩ : ∃ s, u = ':' :: s := by
      cases u with
      | nil => cases hu
      | cons c s => exact ⟨s, by rw [show c = ':' by simpa using hu]⟩
    rw [List.take_length_add_append]
    rfl
  · rw [List.take_left, List.append_nil]

/-- A header stays as it is, or gives a name that stands between `<` and `>`. -/
def KeepsHeader (t : Text) : Prop :=
  (∃ front u, t = front ++ u ∧ front ∈ [['(', '?'], ['(', '?', 'P', '<'], ['(', '?', '<']] ∧
      Token.readHeader t = .header (front ++ leadingColon u) none) ∨
    ∃ front name u, t = front ++ (name ++ '>' :: u) ∧
      front ∈ [['(', '?', 'P', '<'], ['(', '?', '<']] ∧ '>' ∉ name ∧
      Token.readHeader t = .header (front ++ (name ++ '>' :: leadingColon u)) (some name)

theorem keepsHeader_named {front t : Text} (hf : front ∈ [['(', '?', 'P', '<'], ['(', '?', '<']])
    (hr : Header.read (front ++ t) = Header.readName front.length t) :
    KeepsHeader (front ++ t) := by
  rcases Header.readName_cases front.length t with h | ⟨name, u, rfl, hn, h⟩
  · exact .inl ⟨front, t, rfl, List.mem_cons_of_mem _ hf, readHeader_eq (hr.trans h)⟩
  · refine .inr ⟨front, name, u, rfl, hf, hn, ?_⟩
    have assoc : ∀ v : Text, front ++ (name ++ '>' :: v) = (front ++ name ++ ['>']) ++ v := by
      intro v; simp
    rw [assoc u, assoc (leadingColon u)]
    refine readHeader_eq (o := .named name) ?_
    rw [← assoc u, hr, h]
    simp [Nat.add_assoc]

/-- A header is a comment, or it is kept. -/
theorem comment_or_keepsHeader (r : Text) :
    (∃ s, r = '#' :: s) ∨ KeepsHeader ('(' :: '?' :: r) := by
  rcases Header.read_cases r with comment | ⟨s, rfl, h⟩ | ⟨s, rfl, h⟩ | h
  · exact .inl comment
  · exact .inr (@keepsHeader_named ['(', '?', 'P', '<'] s (by simp) h)
  · exact .inr (@keepsHeader_named ['(', '?', '<'] s (by simp) h)
  · exact .inr (.inl ⟨['(', '?'], r, rfl, by simp, @readHeader_eq ['(', '?'] r _ h⟩)

/-- Of the headers that a template keeps, a comment is none. -/
theorem header_cases {r : Text} {T : Trail} (hc : T.Calm (pieces ('(' :: '?' :: r))) :
    KeepsHeader ('(' :: '?' :: r) := by
  rcases comment_or_keepsHeader r with ⟨s, rfl⟩ | keeps
  · rw [pieces_plain (by decide) (by decide), pieces_plain (by decide) (by decide),
      pieces_plain (by decide) (by decide), Trail.Calm, Trail.next_paren] at hc
    exact absurd rfl hc.2.2.1.1
  · exact keeps

end RoutePattern
