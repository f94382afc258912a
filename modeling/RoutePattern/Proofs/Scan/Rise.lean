import RoutePattern.Proofs.Scan.Groups

/-! # How many parentheses a text leaves open

* `rise t`: the parentheses that open in a text, less those that close.
* `rise_append`, `IsMatched.rise`: the rise of texts in a row, and of a text that leaves none open.
* `Unclosed d t`: one of `d` open groups, or a group that opens the text, is not closed in the text;
  `Unclosed.append`: behind the first part of such a text so many groups are open.
-/

namespace RoutePattern.Scan

/-- The groups that open with a piece, less those that close with it. -/
def Piece.rise : Piece → Int
  | .char '(' => 1
  | .char ')' => -1
  | _ => 0

/-- The rise of a row of pieces. -/
def rises : List Piece → Int
  | [] => 0
  | p :: ps => p.rise + rises ps

/-- The parentheses that open in a text, less those that close. -/
def rise (t : Text) : Int := rises (pieces t)

variable {ps qs : List Piece} {t u : Text} {p : Piece} {d : Int}

theorem rise_of_ne (h1 : p ≠ .char '(') (h2 : p ≠ .char ')') : p.rise = 0 := Piece.rise.eq_3 p h1 h2

theorem rises_append (ps qs : List Piece) : rises (ps ++ qs) = rises ps + rises qs := by
  induction ps with
  | nil => exact (Int.zero_add _).symm
  | cons p ps ih => rw [List.cons_append, rises, rises, ih, Int.add_assoc]

theorem rise_spell (h : ∀ p ∈ ps, p.IsClosed) : rise (spell ps) = rises ps := by
  rw [rise, pieces_spell h]

theorem rise_append (h : IsSpelled t) (u : Text) : rise (t ++ u) = rise t + rise u := by
  obtain ⟨ps, closed, rfl⟩ := h
  rw [rise_spell closed, rise, pieces_append closed, rises_append]
  rfl

theorem Matched.rises (h : Matched ps) : rises ps = 0 := by
  induction h with
  | nil => rfl
  | piece h1 h2 _ ih => rw [Scan.rises, rise_of_ne h1 h2, ih]; rfl
  | group _ _ ih1 ih2 =>
    rw [Scan.rises, rises_append, Scan.rises, ih1, ih2]
    rfl

/-- Parentheses that match leave none open. -/
theorem IsMatched.rise (h : IsMatched t) : rise t = 0 := by
  obtain ⟨ps, closed, matched, rfl⟩ := h
  rw [rise_spell closed, matched.rises]

/-- Where groups are open that are not closed behind, they have been open ever since. -/
theorem unclosed_pieces (hd : 1 ≤ d) (h : closingSize? d (ps ++ qs) = none) :
    1 ≤ d + rises ps ∧ closingSize? (d + rises ps) qs = none := by
  induction ps generalizing d with
  | nil => exact ⟨by simpa [rises] using hd, by simpa [rises] using h⟩
  | cons p ps ih =>
    rw [List.cons_append] at h
    rw [rises, ← Int.add_assoc]
    by_cases h1 : p = .char '('
    · subst h1
      rw [closingSize?_open, Option.map_eq_none_iff] at h
      exact ih (d := d + 1) (by omega) h
    · by_cases h2 : p = .char ')'
      · subst h2
        have more : d ≠ 1 := by
          rintro rfl
          rw [closingSize?_last] at h
          cases h
        rw [closingSize?_close more, Option.map_eq_none_iff] at h
        exact ih (d := d - 1) (by omega) h
      · rw [closingSize?_piece h1 h2, Option.map_eq_none_iff] at h
        rw [rise_of_ne h1 h2, Int.add_zero]
        exact ih hd h

theorem Piece.IsClosed.eq_paren (h : p.IsClosed) (hp : (p.text ++ u).head? = some '(') :
    p = .char '(' := by
  cases p with
  | escape c => cases hp
  | char c => rw [Option.some.inj hp]
  | charClass t =>
    obtain ⟨r, rfl, -⟩ := h
    cases hp

/-- In front of the text `d` groups are open, or the text opens one, and the outermost of them is not
closed in it. -/
def Unclosed (d : Int) (t : Text) : Prop :=
  closingSize? d (pieces t) = none ∧ (1 ≤ d ∨ (d = 0 ∧ t.head? = some '('))

/-- So many groups are open behind the first of two texts, and the second does not close the
outermost one either. -/
theorem Unclosed.append (h : Unclosed d (t ++ u)) (ht : IsSpelled t)
    (hn : t = [] → u.head? ≠ some '(') : 1 ≤ d + rise t ∧ Unclosed (d + rise t) u := by
  obtain ⟨ps, closed, rfl⟩ := ht
  obtain ⟨none, depth⟩ := h
  rw [pieces_append closed] at none
  rw [rise_spell closed]
  have open_ : 1 ≤ d + rises ps ∧ closingSize? (d + rises ps) (pieces u) = Option.none := by
    rcases depth with hd | ⟨rfl, head⟩
    · exact unclosed_pieces hd none
    · -- the first piece is the parenthesis that opens the group
      cases ps with
      | nil => exact absurd head (hn rfl)
      | cons p ps =>
        rw [spell, List.flatMap_cons, List.append_assoc] at head
        obtain rfl := (closed p (by simp)).eq_paren head
        rw [List.cons_append, closingSize?_open, Option.map_eq_none_iff] at none
        rw [rises, ← Int.add_assoc]
        exact unclosed_pieces (by decide) none
  exact ⟨open_.1, open_.2, .inl open_.1⟩

end RoutePattern.Scan
