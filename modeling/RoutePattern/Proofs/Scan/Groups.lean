import RoutePattern.Proofs.Scan.Pieces
import RoutePattern.Scan.Wildcard

/-! # Texts with matching parentheses

* `Matched`, `IsMatched`: the parentheses of a row of pieces match; so do those of a text.
* `closingSize?_matched`, `exists_matched`: the group at hand closes behind such a row.
* `Matched.count_le`, `Matched.ne_opening`: no more of them close than open.
* `IsGroup`: a text with matching parentheses between two more. `IsGroup.groupSize?`,
  `exists_group`: these are the balanced groups, whatever follows them.
* `IsGroup.expandWildcards`: the wildcards of a group are expanded inside its parentheses.
* `GroupAt`: where a group stands in a text.
-/

namespace RoutePattern.Scan

/-- The parentheses of a row of pieces match. -/
inductive Matched : List Piece → Prop
  | nil : Matched []
  | piece {p : Piece} {ps : List Piece} :
      p ≠ .char '(' → p ≠ .char ')' → Matched ps → Matched (p :: ps)
  | group {ps qs : List Piece} :
      Matched ps → Matched qs → Matched (.char '(' :: (ps ++ .char ')' :: qs))

variable {ps qs rs : List Piece} {c r s t u : Text} {i n : Nat}

theorem Matched.append (h : Matched ps) (h' : Matched qs) : Matched (ps ++ qs) := by
  induction h with
  | nil => exact h'
  | piece h1 h2 _ ih => exact .piece h1 h2 ih
  | @group ps rs hp _ _ ih =>
    have assoc : Piece.char '(' :: (ps ++ .char ')' :: rs) ++ qs =
        .char '(' :: (ps ++ .char ')' :: (rs ++ qs)) := by simp
    exact assoc ▸ .group hp ih

theorem matched_pieces (h : ∀ p ∈ ps, p ≠ .char '(' ∧ p ≠ .char ')') : Matched ps := by
  induction ps with
  | nil => exact .nil
  | cons p ps ih =>
    obtain ⟨h1, h2⟩ := h p (by simp)
    exact .piece h1 h2 (ih fun q hq => h q (by simp [hq]))

/-! ## Where a group closes -/

theorem closingSize?_open (d : Int) (ps : List Piece) :
    closingSize? d (.char '(' :: ps) = (closingSize? (d + 1) ps).map (· + 1) := by rw [closingSize?]

theorem closingSize?_close {d : Int} (h : d ≠ 1) (ps : List Piece) :
    closingSize? d (.char ')' :: ps) = (closingSize? (d - 1) ps).map (· + 1) := by
  rw [closingSize?, if_neg h]

theorem closingSize?_last (ps : List Piece) : closingSize? 1 (.char ')' :: ps) = some 1 := by
  rw [closingSize?, if_pos rfl]

theorem closingSize?_piece {p : Piece} (h1 : p ≠ .char '(') (h2 : p ≠ .char ')') (d : Int)
    (ps : List Piece) : closingSize? d (p :: ps) = (closingSize? d ps).map (· + p.size) := by
  rw [closingSize?.eq_4 _ _ _ h1 h2]

theorem length_spell_cons (p : Piece) (ps : List Piece) :
    (spell (p :: ps)).length = (spell ps).length + p.size := by
  rw [spell, List.flatMap_cons, List.length_append, Nat.add_comm]
  rfl

/-- Matching parentheses close none of the groups that are open. -/
theorem closingSize?_matched (h : Matched ps) {d : Int} (hd : 1 ≤ d) (qs : List Piece) :
    closingSize? d (ps ++ qs) = (closingSize? d qs).map (· + (spell ps).length) := by
  induction h generalizing d qs with
  | nil => simp
  | @piece p ps h1 h2 _ ih =>
    have size := length_spell_cons p ps
    rw [List.cons_append, closingSize?_piece h1 h2, ih hd, Option.map_map]
    congr 1
    funext n
    simp only [Function.comp_apply]
    omega
  | @group ps rs _ _ ih1 ih2 =>
    have size : (spell (.char '(' :: (ps ++ .char ')' :: rs))).length =
        (spell ps).length + (spell rs).length + 2 := by
      simp [Piece.text]
      omega
    rw [List.cons_append, closingSize?_open, List.append_assoc, ih1 (by omega), List.cons_append,
      closingSize?_close (by omega), show d + 1 - 1 = d by omega, ih2 hd]
    simp only [Option.map_map]
    congr 1
    funext n
    simp only [Function.comp_apply]
    omega

/-- The innermost open group closes behind matching parentheses, the others behind that. -/
theorem exists_matched {d : Nat} (h : (closingSize? (d + 1) ps).isSome) :
    ∃ qs rs, Matched qs ∧ ps = qs ++ .char ')' :: rs ∧ (d ≠ 0 → (closingSize? d rs).isSome) := by
  induction hs : ps.length using Nat.strongRecOn generalizing ps d with
  | _ size ih =>
    cases ps with
    | nil => cases h
    | cons p ps =>
      rw [List.length_cons] at hs
      by_cases h1 : p = .char '('
      · subst h1
        rw [closingSize?_open, Option.isSome_map] at h
        obtain ⟨inner, rest, m1, rfl, next⟩ := ih _ (by omega) (d := d + 1) h rfl
        rw [List.length_append, List.length_cons] at hs
        obtain ⟨qs, rs, m2, rfl, later⟩ := ih _ (by omega) (d := d) (next (by omega)) rfl
        exact ⟨.char '(' :: (inner ++ .char ')' :: qs), rs, .group m1 m2, by simp, later⟩
      · by_cases h2 : p = .char ')'
        · subst h2
          refine ⟨[], ps, .nil, rfl, fun hd => ?_⟩
          rwa [closingSize?_close (by omega), Option.isSome_map,
            show (d + 1 - 1 : Int) = d by omega] at h
        · rw [closingSize?_piece h1 h2, Option.isSome_map] at h
          obtain ⟨qs, rs, m, rfl, later⟩ := ih _ (by omega) h rfl
          exact ⟨p :: qs, rs, .piece h1 h2 m, rfl, later⟩

/-! ## Parentheses that close -/

theorem Matched.count_eq (h : Matched ps) : ps.count (.char ')') = ps.count (.char '(') := by
  induction h with
  | nil => rfl
  | piece h1 h2 _ ih => rw [List.count_cons_of_ne h2, List.count_cons_of_ne h1, ih]
  | group _ _ ih1 ih2 =>
    simp
    omega

/-- As far as matching parentheses go, no more of them close than open. -/
theorem Matched.count_le (h : Matched ps) (hq : qs <+: ps) :
    qs.count (.char ')') ≤ qs.count (.char '(') := by
  induction h generalizing qs with
  | nil => rw [List.prefix_nil.1 hq]; exact Nat.le_refl _
  | piece h1 h2 _ ih =>
    rcases List.prefix_cons_iff.1 hq with rfl | ⟨us, rfl, hu⟩
    · exact Nat.le_refl _
    · rw [List.count_cons_of_ne h2, List.count_cons_of_ne h1]
      exact ih hu
  | @group ps rs first _ ih1 ih2 =>
    rcases List.prefix_cons_iff.1 hq with rfl | ⟨us, rfl, vs, hu⟩
    · exact Nat.le_refl _
    have equal := first.count_eq
    rcases List.append_eq_append_iff.1 hu with ⟨xs, rfl, -⟩ | ⟨xs, rfl, hx⟩
    · have := ih1 (List.prefix_append us xs)
      simp
      omega
    · rcases List.prefix_cons_iff.1 ⟨vs, hx.symm⟩ with rfl | ⟨ys, rfl, hy⟩
      · simp
        omega
      · have := ih2 hy
        simp
        omega

/-- Matching parentheses do not end in a group that is left open. -/
theorem Matched.ne_opening (h : Matched ps) (h' : Matched rs) : ps ≠ qs ++ .char '(' :: rs := by
  rintro rfl
  have le := h.count_le (List.prefix_append qs _)
  have whole := h.count_eq
  have inner := h'.count_eq
  simp at whole
  omega

/-! ## Texts -/

/-- The parentheses of a text match, and it ends outside escapes and classes. -/
def IsMatched (t : Text) : Prop := ∃ ps, (∀ p ∈ ps, p.IsClosed) ∧ Matched ps ∧ spell ps = t

theorem IsMatched.isSpelled (h : IsMatched t) : IsSpelled t := by
  obtain ⟨ps, closed, -, text⟩ := h
  exact ⟨ps, closed, text⟩

theorem isMatched_nil : IsMatched [] := ⟨[], by simp, .nil, rfl⟩

theorem IsMatched.append (h : IsMatched t) (h' : IsMatched u) : IsMatched (t ++ u) := by
  obtain ⟨ps, closed, matched, rfl⟩ := h
  obtain ⟨qs, closed', matched', rfl⟩ := h'
  exact ⟨ps ++ qs, List.forall_mem_append.2 ⟨closed, closed'⟩, matched.append matched',
    by simp [spell]⟩

theorem isMatched_chars (h : ∀ c ∈ t, c ∉ ['\\', '[', '(', ')']) : IsMatched t := by
  have plain : ∀ c ∈ t, c ≠ '\\' ∧ c ≠ '[' ∧ c ≠ '(' ∧ c ≠ ')' := fun c hc => by
    simpa using h c hc
  refine ⟨t.map .char, closed_chars fun c hc => ⟨(plain c hc).1, (plain c hc).2.1⟩,
    matched_pieces fun p hp => ?_, spell_chars t⟩
  obtain ⟨c, hc, rfl⟩ := List.mem_map.1 hp
  obtain ⟨-, -, h1, h2⟩ := plain c hc
  simp [h1, h2]

theorem isMatched_escape (c : Char) : IsMatched ['\\', c] :=
  ⟨[.escape (some c)], by simp [Piece.IsClosed], matched_pieces (by simp), rfl⟩

theorem isMatched_class (h : ClosedClass t) : IsMatched t :=
  ⟨[.charClass t], by simpa [Piece.IsClosed] using h, matched_pieces (by simp),
    by simp [Piece.text]⟩

/-- A text whose parentheses match, between two more. -/
def IsGroup (c : Text) : Prop := ∃ t, IsMatched t ∧ c = '(' :: (t ++ [')'])

theorem IsMatched.group (h : IsMatched t) : IsGroup ('(' :: (t ++ [')'])) := ⟨t, h, rfl⟩

theorem IsGroup.isMatched (h : IsGroup c) : IsMatched c := by
  obtain ⟨_, ⟨ps, closed, matched, rfl⟩, rfl⟩ := h
  have opens : (Piece.char '(').IsClosed := ⟨by decide, by decide⟩
  have closes : (Piece.char ')').IsClosed := ⟨by decide, by decide⟩
  have all : ∀ p ∈ Piece.char '(' :: (ps ++ [.char ')']), p.IsClosed :=
    List.forall_mem_cons.2 ⟨opens, List.forall_mem_append.2
      ⟨closed, List.forall_mem_singleton.2 closes⟩⟩
  exact ⟨_, all, .group matched .nil, by simp [Piece.text]⟩

/-- A group is balanced, whatever follows it. -/
theorem IsGroup.groupSize? (h : IsGroup c) (r : Text) : groupSize? (c ++ r) = some c.length := by
  obtain ⟨_, ⟨ps, closed, matched, rfl⟩, rfl⟩ := h
  have assoc : '(' :: (spell ps ++ [')']) ++ r = '(' :: (spell ps ++ ')' :: r) := by simp
  rw [assoc, Scan.groupSize?, pieces_plain (by decide) (by decide), pieces_append closed,
    pieces_plain (by decide) (by decide), closingSize?_open,
    closingSize?_matched matched (by omega),
    show (0 + 1 : Int) = 1 by rfl, closingSize?_last]
  simp only [Option.map_some, Option.some.injEq, List.length_cons, List.length_append,
    List.length_nil]
  omega

/-- What is balanced is a group. -/
theorem exists_group (h : groupSize? ('(' :: r) = some n) :
    ∃ c u, IsGroup c ∧ '(' :: r = c ++ u ∧ n = c.length := by
  have opens := h
  rw [Scan.groupSize?, pieces_plain (by decide) (by decide), closingSize?_open] at opens
  obtain ⟨m, hm, -⟩ := Option.map_eq_some_iff.1 opens
  obtain ⟨qs, rs, matched, hp, -⟩ := exists_matched (d := 0) (Option.isSome_iff_exists.2 ⟨m, hm⟩)
  have closed : ∀ p ∈ qs, p.IsClosed := by
    intro p hq
    obtain ⟨as, bs, rfl⟩ := List.append_of_mem hq
    exact @closed_of_split r as (bs ++ .char ')' :: rs) p (by simpa using hp) (by simp)
  have text : '(' :: r = '(' :: (spell qs ++ [')']) ++ spell rs := by
    rw [← text_pieces r, hp]
    simp [Piece.text]
  have group : IsGroup ('(' :: (spell qs ++ [')'])) := IsMatched.group ⟨qs, closed, matched, rfl⟩
  refine ⟨_, spell rs, group, text, ?_⟩
  rw [text, group.groupSize?] at h
  exact (Option.some.inj h).symm

theorem isGroup_of_groupSize? (h : groupSize? ('(' :: r) = some ('(' :: r).length) :
    IsGroup ('(' :: r) := by
  obtain ⟨c, u, group, hr, hn⟩ := exists_group h
  rw [hr, List.length_append] at hn
  rw [hr, List.eq_nil_of_length_eq_zero (l := u) (by omega), List.append_nil]
  exact group

/-! ## Wildcards -/

theorem expandPieces_star (b : Bool) (ps : List Piece) :
    expandPieces b (.char '*' :: ps) =
      (if b then ['*'] else wildcard) ++ expandPieces true ps := by
  rw [expandPieces]

theorem expandPieces_char {c : Char} (h : c ≠ '*') (b : Bool) (ps : List Piece) :
    expandPieces b (.char c :: ps) = c :: expandPieces (c != '(' && c != '|') ps :=
  expandPieces.eq_3 _ _ _ (by simpa using h)

/-- Wildcards are expanded piece by piece. -/
theorem expandPieces_append_char {c : Char} (hc : c ≠ '*') (b : Bool) (ps qs : List Piece) :
    expandPieces b (ps ++ .char c :: qs) =
      expandPieces b ps ++ c :: expandPieces (c != '(' && c != '|') qs := by
  induction ps generalizing b with
  | nil => exact expandPieces_char hc b qs
  | cons p ps ih =>
    cases p with
    | escape d => simp [expandPieces, ih]
    | charClass t => simp [expandPieces, ih]
    | char d =>
      by_cases hd : d = '*'
      · subst hd
        simp [expandPieces_star, ih]
      · simp [expandPieces_char hd, ih]

/-- A parenthesis that closes can be repeated. -/
theorem expandPieces_close (b : Bool) (ps qs : List Piece) :
    expandPieces b (ps ++ .char ')' :: qs) =
      expandPieces b ps ++ ')' :: expandPieces true qs :=
  expandPieces_append_char (by decide) b ps qs

/-- Parentheses that match still do when wildcards are expanded between them. -/
theorem isMatched_expandPieces (h : Matched ps) (closed : ∀ p ∈ ps, p.IsClosed) (b : Bool) :
    IsMatched (expandPieces b ps) := by
  have wild : IsMatched wildcard := (isMatched_chars (t := ['.', '*']) (by decide)).group.isMatched
  induction h generalizing b with
  | nil => exact isMatched_nil
  | @piece p ps h1 h2 _ ih =>
    have rest := ih fun q hq => closed q (by simp [hq])
    have first := closed p (by simp)
    cases p with
    | escape c =>
      obtain ⟨c, rfl⟩ := Option.isSome_iff_exists.1 first
      exact (isMatched_escape c).append (rest true)
    | charClass t => exact (isMatched_class first).append (rest true)
    | char c =>
      by_cases hc : c = '*'
      · subst hc
        rw [expandPieces_star]
        cases b with
        | true => exact (isMatched_chars (by decide)).append (rest true)
        | false => exact wild.append (rest true)
      · rw [expandPieces_char hc]
        have plain : IsMatched [c] := isMatched_chars (by
          simp only [List.mem_singleton, forall_eq]
          simp_all [Piece.IsClosed])
        exact plain.append (rest _)
  | @group ps qs _ _ ih1 ih2 =>
    rw [expandPieces_char (by decide), expandPieces_close, ← List.cons_append]
    have inner := ih1 (fun p hp => closed p (by simp [hp])) false
    have rest := ih2 (fun p hp => closed p (by simp [hp])) true
    simpa using inner.group.isMatched.append rest

/-- In a group the wildcards are expanded inside its parentheses, and it stays a group. -/
theorem IsGroup.expandWildcards (h : IsGroup c) : IsGroup (expandWildcards c) := by
  obtain ⟨_, ⟨ps, closed, matched, rfl⟩, rfl⟩ := h
  have pieces : pieces ('(' :: (spell ps ++ [')'])) = .char '(' :: (ps ++ [.char ')']) := by
    rw [pieces_plain (by decide) (by decide), pieces_append closed,
      pieces_plain (by decide) (by decide), pieces]
  rw [Scan.expandWildcards, pieces, expandPieces_char (by decide), expandPieces_close]
  exact (isMatched_expandPieces matched closed false).group

/-! ## Places -/

/-- A group of `n` characters stands at an index of a text. -/
def GroupAt (s : Text) (i n : Nat) : Prop :=
  ∃ a c b, IsGroup c ∧ s = a ++ (c ++ b) ∧ i = a.length ∧ n = c.length

theorem GroupAt.append (h : GroupAt s i n) (t : Text) : GroupAt (s ++ t) i n := by
  obtain ⟨a, c, b, group, rfl, hi, hn⟩ := h
  exact ⟨a, c, b ++ t, group, by simp, hi, hn⟩

theorem GroupAt.groupSize? (h : GroupAt s i n) : groupSize? (s.drop i) = some n := by
  obtain ⟨a, c, b, group, rfl, rfl, rfl⟩ := h
  rw [List.drop_left, group.groupSize?]

theorem GroupAt.head (h : GroupAt s i n) : s[i]? = some '(' := by
  obtain ⟨a, _, b, ⟨t, -, rfl⟩, rfl, rfl, -⟩ := h
  simp

theorem GroupAt.pos (h : GroupAt s i n) : 0 < n := by
  obtain ⟨a, _, b, ⟨t, -, rfl⟩, -, -, rfl⟩ := h
  simp

theorem GroupAt.le_length (h : GroupAt s i n) : i + n ≤ s.length := by
  obtain ⟨a, c, b, -, rfl, rfl, rfl⟩ := h
  simp only [List.length_append]
  omega

end RoutePattern.Scan
