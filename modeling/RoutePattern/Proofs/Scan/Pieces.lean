import RoutePattern.Proofs.Scan.Extent
import RoutePattern.Scan.Balance

/-! # Closed pieces

A piece is closed if it does not depend on what follows it: an escape with its character, a class
with its closing bracket, or a plain character.

* `pieces_append`: closed pieces stay the pieces of their text, whatever follows.
* `closed_of_split`: of the pieces of a text only the last one may be open.
* `pieces_at`: closed pieces that reach over one place are the same; `IsSpelled`: their texts.
* `groupSize?_spec`: a balanced group is a row of closed pieces that ends with a parenthesis.
-/

namespace RoutePattern.Scan

/-- The text of a class with its closing bracket. -/
def ClosedClass (t : Text) : Prop := ∃ r, t = '[' :: r ∧ classExtent? r = some r.length

/-- What follows the piece does not matter for where it ends. -/
def Piece.IsClosed : Piece → Prop
  | .escape c => c.isSome
  | .charClass t => ClosedClass t
  | .char c => c ≠ '\\' ∧ c ≠ '['

/-- The text of a row of pieces. -/
abbrev spell (ps : List Piece) : Text := ps.flatMap Piece.text

theorem pieces_plain {c : Char} (h1 : c ≠ '\\') (h2 : c ≠ '[') (r : Text) :
    pieces (c :: r) = .char c :: pieces r := by
  rw [pieces] <;> simp_all

theorem pieces_escape (c : Char) (r : Text) :
    pieces ('\\' :: c :: r) = .escape (some c) :: pieces r := by rw [pieces]

theorem pieces_class (r : Text) :
    pieces ('[' :: r) = .charClass (('[' :: r).take (classSize ('[' :: r))) ::
      pieces (('[' :: r).drop (classSize ('[' :: r))) := by rw [pieces]

/-- A class that closes within a text, and is as long as the scanner says. -/
theorem classSize_closed {r : Text} {n : Nat} (h : classExtent? r = some n) :
    classSize ('[' :: r) = n + 1 := by
  rcases classSize_cases r with ⟨m, h1, h2⟩ | ⟨h1, -⟩
  · rw [h] at h1
    rw [h2, Option.some.inj h1]
  · rw [h] at h1; cases h1

theorem classSize_append {t : Text} (h : ClosedClass t) (u : Text) :
    classSize (t ++ u) = t.length := by
  obtain ⟨r, rfl, hr⟩ := h
  exact classSize_closed (classExtent?_append hr u).1

theorem pieces_text_append {p : Piece} (h : p.IsClosed) (r : Text) :
    pieces (p.text ++ r) = p :: pieces r := by
  cases p with
  | escape c =>
    cases c with
    | none => cases h
    | some c => exact pieces_escape c r
  | char c => exact pieces_plain h.1 h.2 r
  | charClass t =>
    have size := classSize_append h r
    obtain ⟨s, rfl, -⟩ := h
    simp only [Piece.text, List.cons_append] at size ⊢
    rw [pieces_class, size, ← List.cons_append, List.take_left, List.drop_left]

theorem pieces_append {ps : List Piece} (h : ∀ p ∈ ps, p.IsClosed) (r : Text) :
    pieces (spell ps ++ r) = ps ++ pieces r := by
  induction ps with
  | nil => rfl
  | cons p ps ih =>
    rw [spell, List.flatMap_cons, List.append_assoc, pieces_text_append (h p (by simp)),
      ih fun q hq => h q (by simp [hq]), List.cons_append]

theorem pieces_spell {ps : List Piece} (h : ∀ p ∈ ps, p.IsClosed) : pieces (spell ps) = ps := by
  have := pieces_append h []
  rwa [List.append_nil, pieces, List.append_nil] at this

/-- The text of plain characters. -/
theorem spell_chars (t : Text) : spell (t.map .char) = t := by
  simp [spell, List.flatMap_map, Piece.text]

theorem closed_chars {t : Text} (h : ∀ c ∈ t, c ≠ '\\' ∧ c ≠ '[') :
    ∀ p ∈ t.map Piece.char, p.IsClosed := by
  intro p hp
  obtain ⟨c, hc, rfl⟩ := List.mem_map.1 hp
  exact h c hc

theorem closedClass_take {r : Text} {n : Nat} (h : classExtent? r = some n) :
    ClosedClass (('[' :: r).take (classSize ('[' :: r))) := by
  rw [classSize_closed h, List.take_succ_cons]
  obtain ⟨-, hn⟩ := classExtent?_append h []
  refine ⟨_, rfl, ?_⟩
  rw [List.length_take, Nat.min_eq_left hn]
  exact classExtent?_take h

/-- A class that is left open takes the whole text. -/
theorem class_cases (r : Text) :
    ClosedClass (('[' :: r).take (classSize ('[' :: r))) ∨
      ('[' :: r).take (classSize ('[' :: r)) = '[' :: r ∧
        ('[' :: r).drop (classSize ('[' :: r)) = [] := by
  obtain ⟨n, extent, -⟩ | ⟨-, size⟩ := classSize_cases r
  · exact .inl (closedClass_take extent)
  · have le : ('[' :: r).length ≤ classSize ('[' :: r) := size
    exact .inr ⟨List.take_of_length_le le, List.drop_eq_nil_of_le le⟩

theorem closed_of_split {t : Text} {ps qs : List Piece} {p : Piece} (h : pieces t = ps ++ p :: qs)
    (hq : qs ≠ []) : p.IsClosed := by
  fun_induction pieces t generalizing ps with
  | case1 => simp at h
  | case2 =>
    cases ps with
    | nil => exact absurd (List.cons.inj h).2.symm hq
    | cons q ps => simp at h
  | case3 c r ih =>
    cases ps with
    | nil => rw [← (List.cons.inj h).1]; rfl
    | cons q ps => exact ih (List.cons.inj h).2
  | case4 r n =>
    rename_i ih
    cases ps with
    | nil =>
      obtain ⟨rfl, hr⟩ := List.cons.inj h
      obtain closed | ⟨-, rest⟩ := class_cases r
      · exact closed
      · rw [rest, pieces] at hr
        exact absurd hr.symm hq
    | cons q ps => exact ih (List.cons.inj h).2
  | case5 c r h1 h2 h3 ih =>
    cases ps with
    | nil =>
      rw [← (List.cons.inj h).1]
      exact ⟨Text.ne_backslash h1 h2, h3⟩
    | cons q ps => exact ih (List.cons.inj h).2

theorem Piece.IsClosed.text_ne_nil {p : Piece} (h : p.IsClosed) : p.text ≠ [] := by
  cases p with
  | charClass t =>
    obtain ⟨r, rfl, -⟩ := h
    exact List.cons_ne_nil _ _
  | _ => exact List.cons_ne_nil _ _

/-- Closed pieces of one text that reach over the same place are the same piece. -/
theorem pieces_at {ps qs : List Piece} {p q : Piece} {v w : Text} (hps : ∀ r ∈ ps, r.IsClosed)
    (hp : p.IsClosed) (hqs : ∀ r ∈ qs, r.IsClosed) (hq : q.IsClosed)
    (h : spell ps ++ (p.text ++ v) = spell qs ++ (q.text ++ w))
    (le : (spell qs).length ≤ (spell ps).length)
    (lt : (spell ps).length < (spell qs ++ q.text).length) : ps = qs ∧ p = q := by
  have same := congrArg pieces h
  rw [pieces_append hps, pieces_append hqs, pieces_text_append hp, pieces_text_append hq] at same
  rcases List.append_eq_append_iff.1 same with ⟨rs, rfl, hr⟩ | ⟨rs, rfl, hr⟩
  · cases rs with
    | nil => exact ⟨(List.append_nil ps).symm, (List.cons.inj hr).1⟩
    | cons r rs =>
      obtain rfl := (List.cons.inj hr).1
      have longer := List.length_pos_iff.2 hp.text_ne_nil
      rw [spell, spell, List.flatMap_append, List.flatMap_cons, List.length_append,
        List.length_append] at le
      omega
  · cases rs with
    | nil => exact ⟨List.append_nil qs, (List.cons.inj hr).1.symm⟩
    | cons r rs =>
      obtain rfl := (List.cons.inj hr).1
      rw [spell, spell, List.flatMap_append, List.flatMap_cons, List.length_append,
        List.length_append, List.length_append] at lt
      omega

/-! ## Texts of closed pieces -/

/-- The text falls into closed pieces. -/
def IsSpelled (t : Text) : Prop := ∃ ps, (∀ p ∈ ps, p.IsClosed) ∧ spell ps = t

theorem isSpelled_chars {t : Text} (h : ∀ c ∈ t, c ≠ '\\' ∧ c ≠ '[') : IsSpelled t :=
  ⟨_, closed_chars h, spell_chars t⟩

theorem Piece.IsClosed.isSpelled {p : Piece} (h : p.IsClosed) : IsSpelled p.text :=
  ⟨[p], by simpa using h, by simp [spell]⟩

theorem IsSpelled.append {t u : Text} (h : IsSpelled t) (h' : IsSpelled u) :
    IsSpelled (t ++ u) := by
  obtain ⟨ps, closed, rfl⟩ := h
  obtain ⟨qs, closed', rfl⟩ := h'
  exact ⟨ps ++ qs, List.forall_mem_append.2 ⟨closed, closed'⟩, by simp [spell]⟩

/-! ## Balanced groups -/

theorem closingSize?_spec {d : Int} {ps : List Piece} {n : Nat} (h : closingSize? d ps = some n) :
    ∃ qs rs, ps = qs ++ .char ')' :: rs ∧ n = (spell qs).length + 1 := by
  fun_induction closingSize? d ps generalizing n with
  | case1 => cases h
  | case2 d ps ih =>
    obtain ⟨m, hm, rfl⟩ := Option.map_eq_some_iff.1 h
    obtain ⟨qs, rs, rfl, rfl⟩ := ih hm
    exact ⟨.char '(' :: qs, rs, rfl, by simp [Piece.text]⟩
  | case3 ps => exact ⟨[], ps, rfl, (Option.some.inj h).symm⟩
  | case4 d ps hd ih =>
    obtain ⟨m, hm, rfl⟩ := Option.map_eq_some_iff.1 h
    obtain ⟨qs, rs, rfl, rfl⟩ := ih hm
    exact ⟨.char ')' :: qs, rs, rfl, by simp [Piece.text]⟩
  | case5 d ps p h1 h2 ih =>
    obtain ⟨m, hm, rfl⟩ := Option.map_eq_some_iff.1 h
    obtain ⟨qs, rs, rfl, rfl⟩ := ih hm
    refine ⟨p :: qs, rs, rfl, ?_⟩
    simp only [spell, List.flatMap_cons, List.length_append, Piece.size]
    omega

theorem groupSize?_spec {t : Text} {n : Nat} (h : groupSize? t = some n) :
    ∃ qs, (∀ p ∈ qs, p.IsClosed) ∧ t.take n = spell qs ++ [')'] := by
  obtain ⟨qs, rs, hp, rfl⟩ := closingSize?_spec h
  refine ⟨qs, fun p hm => ?_, ?_⟩
  · obtain ⟨as, bs, rfl⟩ := List.append_of_mem hm
    exact @closed_of_split t as (bs ++ .char ')' :: rs) p (by simpa using hp) (by simp)
  · have text := text_pieces t
    rw [hp, List.flatMap_append, List.flatMap_cons] at text
    rw [← text, ← List.append_assoc]
    exact List.take_left' (by simp [Piece.text])

end RoutePattern.Scan
