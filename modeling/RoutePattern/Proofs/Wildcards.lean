import RoutePattern.Proofs.Reader.Bare
import RoutePattern.Proofs.Scan.Groups

/-! # Bare wildcards of a capture

Of the stars in the group of a parameter, those behind a parenthesis or a bar become wildcards. What
else starts a body or an alternative are the headers of groups, and comments.

* `symbols?_spell`: closed pieces are rows of symbols; `last_symbol`: how they end.
* `star_of_expanded`: no star of an expanded text stands behind a parenthesis or a bar.
* `wildcards_expanded`: an expanded star has nothing to repeat only behind a header, a comment or white
  space that means nothing; there it stays as it is, and so does every star behind an item.
  `header_keeps_star`: such a star.
-/

namespace RoutePattern

open Scan Regex Regex.Reader

variable {ps qs as bs cs : List Piece} {p q : Piece} {c t u : Text} {b : Bool} {st nx : State}
  {fl : Flags}

/-! ## Pieces as symbols -/

/-- The text ends with a bracket that is a symbol of its own. -/
def EndsInBracket (t : Text) : Prop := ∃ u, t = u ++ [']'] ∧ (symbols? u).isSome

theorem EndsInBracket.cons {d : Char} (hd : d ≠ '\\') (h : EndsInBracket t) :
    EndsInBracket (d :: t) := by
  obtain ⟨u, rfl, hu⟩ := h
  exact ⟨d :: u, rfl, by rwa [symbols?_plain hd, Option.isSome_map]⟩

theorem length_of_extent {x : Option Nat} {m n : Nat} (h : x.map (· + m) = some (n + m)) :
    x = some n := by
  obtain ⟨k, rfl, hk⟩ := Option.map_eq_some_iff.1 h
  exact congrArg some (Nat.add_right_cancel hk)

theorem endsInBracket_members (h : membersExtent? t = some t.length) : EndsInBracket t := by
  fun_induction membersExtent? t with
  | case1 => cases h
  | case2 => cases h
  | case3 d r ih =>
    obtain ⟨u, rfl, hu⟩ := ih (length_of_extent h)
    exact ⟨'\\' :: d :: u, rfl, by rwa [symbols?_escaped, Option.isSome_map]⟩
  | case4 r =>
    obtain rfl : r = [] := List.eq_nil_of_length_eq_zero (by simpa using h.symm)
    exact ⟨[], rfl, rfl⟩
  | case5 d r h1 h2 h3 ih =>
    exact .cons (Text.ne_backslash h1 h2) (ih (length_of_extent h))

/-- A class ends with the bracket that closes it. -/
theorem endsInBracket_class (h : ClosedClass t) : EndsInBracket t := by
  have first : ∀ {t : Text}, firstExtent? t = some t.length → EndsInBracket t := by
    intro t h
    unfold firstExtent? at h
    split at h
    · exact .cons (by decide) (endsInBracket_members (length_of_extent h))
    · exact endsInBracket_members h
  obtain ⟨r, rfl, h⟩ := h
  refine .cons (by decide) ?_
  unfold classExtent? at h
  split at h
  · exact .cons (by decide) (first (length_of_extent h))
  · exact first h

theorem isSome_symbols?_append (ht : (symbols? t).isSome) (hu : (symbols? u).isSome) :
    (symbols? (t ++ u)).isSome := by
  obtain ⟨ys, hy⟩ := Option.isSome_iff_exists.1 ht
  rwa [symbols?_append hy, Option.isSome_map]

/-- The last symbol of a closed piece: that of the piece, or the bracket that closes a class. -/
theorem last_symbol (h : q.IsClosed) :
    ∃ (u : Text) (y : Symbol), q.text = u ++ y.text ∧ (symbols? u).isSome ∧ y ≠ .plain '\\' ∧
      ∀ d, y = .plain d → d = ']' ∨ q = .char d := by
  cases q with
  | escape d =>
    obtain ⟨d, rfl⟩ := Option.isSome_iff_exists.1 h
    exact ⟨[], .escaped d, rfl, rfl, nofun, nofun⟩
  | char d =>
    refine ⟨[], .plain d, rfl, rfl, fun hd => h.1 (Symbol.plain.inj hd), fun e he => .inr ?_⟩
    rw [Symbol.plain.inj he]
  | charClass t =>
    obtain ⟨u, ht, hu⟩ := endsInBracket_class h
    exact ⟨u, .plain ']', ht, hu, by decide, fun d hd => .inl (Symbol.plain.inj hd).symm⟩

/-- Closed pieces are rows of symbols. -/
theorem isSome_symbols?_spell (h : ∀ p ∈ ps, p.IsClosed) : (symbols? (spell ps)).isSome := by
  induction ps with
  | nil => rfl
  | cons p ps ih =>
    obtain ⟨u, y, ht, hu, hy, -⟩ := last_symbol (h p (by simp))
    have one : (symbols? y.text).isSome := by
      cases y with
      | plain d => rw [Symbol.text, symbols?_plain fun hd => hy (congrArg _ hd)]; rfl
      | escaped d => rfl
    have rest := ih fun q hq => h q (by simp [hq])
    rw [spell, List.flatMap_cons, ht]
    exact isSome_symbols?_append (isSome_symbols?_append hu one) rest

theorem closed_pieces (h : IsSpelled t) : ∀ p ∈ pieces t, p.IsClosed := by
  obtain ⟨ps, closed, rfl⟩ := h
  rwa [pieces_spell closed]

/-! ## Where the stars stand -/

/-- What a text of closed pieces is expanded to falls into closed pieces. -/
theorem isSpelled_expandPieces (h : ∀ p ∈ ps, p.IsClosed) (b : Bool) :
    IsSpelled (expandPieces b ps) := by
  have wild : IsSpelled wildcard := isSpelled_chars (by decide)
  induction ps generalizing b with
  | nil => exact ⟨[], by simp, rfl⟩
  | cons p ps ih =>
    have first := (h p (by simp)).isSpelled
    have rest := ih fun q hq => h q (by simp [hq])
    cases p with
    | escape d => exact first.append (rest true)
    | charClass t => exact first.append (rest true)
    | char d =>
      by_cases hd : d = '*'
      · subst hd
        rw [expandPieces_star]
        cases b with
        | true => exact first.append (rest true)
        | false => exact wild.append (rest true)
      · rw [expandPieces_char hd]
        exact first.append (rest _)

/-- Every star of a text stands behind a piece that is no parenthesis and no bar, but for one at the
start if something to repeat stands before the text. -/
def StarsFollow (b : Bool) (t : Text) : Prop :=
  ∀ as bs, pieces t = as ++ .char '*' :: bs →
    (as = [] ∧ b = true) ∨ ∃ cs q, as = cs ++ [q] ∧ q ≠ .char '(' ∧ q ≠ .char '|'

theorem StarsFollow.cons {b' : Bool} (hp : p.IsClosed) (hs : p = .char '*' → b = true)
    (hb : b' = true → p ≠ .char '(' ∧ p ≠ .char '|') (h : StarsFollow b' t) :
    StarsFollow b (p.text ++ t) := by
  intro as bs ht
  rw [pieces_text_append hp] at ht
  cases as with
  | nil => exact .inl ⟨rfl, hs (List.cons.inj ht).1⟩
  | cons a as =>
    obtain ⟨same, rest⟩ := List.cons.inj ht
    subst same
    rcases h as bs rest with ⟨rfl, h⟩ | ⟨cs, q, rfl, hq⟩
    · exact .inr ⟨[], p, rfl, hb h⟩
    · exact .inr ⟨p :: cs, q, rfl, hq⟩

/-- No star of an expanded text stands behind a parenthesis or a bar. -/
theorem starsFollow_expandPieces (h : ∀ p ∈ ps, p.IsClosed) (b : Bool) :
    StarsFollow b (expandPieces b ps) := by
  induction ps generalizing b with
  | nil =>
    intro as bs ht
    rw [expandPieces, pieces] at ht
    simp at ht
  | cons p ps ih =>
    have closed := h p (by simp)
    have rest := ih fun q hq => h q (by simp [hq])
    cases p with
    | escape d => exact .cons closed (fun h => by cases h) (fun _ => by simp) (rest true)
    | charClass t => exact .cons closed (fun h => by cases h) (fun _ => by simp) (rest true)
    | char d =>
      by_cases hd : d = '*'
      · subst hd
        rw [expandPieces_star]
        cases b with
        | true => exact .cons closed (fun _ => rfl) (fun _ => by decide) (rest true)
        | false =>
          have plain : ∀ d ∈ wildcard, d ≠ '\\' ∧ d ≠ '[' := by decide
          have close := StarsFollow.cons (p := .char ')') (b := true) (plain _ (by decide))
            (fun h => by cases h) (fun _ => by decide) (rest true)
          have star := StarsFollow.cons (p := .char '*') (b := true) (plain _ (by decide))
            (fun _ => rfl) (fun _ => by decide) close
          have any := StarsFollow.cons (p := .char '.') (b := false) (plain _ (by decide))
            (fun h => by cases h) (fun _ => by decide) star
          have opens := StarsFollow.cons (p := .char '(') (b := false) (plain _ (by decide))
            (fun h => by cases h) (fun h => by cases h) any
          exact opens
      · rw [expandPieces_char hd]
        refine .cons closed (fun hs => absurd (Piece.char.inj hs) hd) (fun hb => ?_) (rest _)
        simpa using hb

/-- A star is expanded where it stands behind a parenthesis or a bar. -/
theorem expandPieces_star_append (cs : List Piece) (q : Piece) (qs : List Piece) (b : Bool) :
    expandPieces b (cs ++ q :: .char '*' :: qs) = expandPieces b (cs ++ [q]) ++
      ((if q = .char '(' ∨ q = .char '|' then wildcard else ['*']) ++ expandPieces true qs) := by
  induction cs generalizing b with
  | nil =>
    cases q with
    | escape d => simp [expandPieces]
    | charClass t => simp [expandPieces]
    | char d =>
      by_cases hd : d = '*'
      · subst hd
        simp [expandPieces]
      · rw [List.nil_append, List.nil_append, expandPieces_char hd, expandPieces_char hd,
          expandPieces_star]
        by_cases h1 : d = '('
        · simp [h1, expandPieces]
        · by_cases h2 : d = '|'
          · simp [h2, expandPieces]
          · simp [h1, h2, expandPieces]
  | cons p cs ih =>
    cases p with
    | escape d => simp [expandPieces, ih]
    | charClass t => simp [expandPieces, ih]
    | char d =>
      by_cases hd : d = '*'
      · subst hd
        simp [expandPieces_star, ih]
      · simp [expandPieces_char hd, ih]

/-! ## What is left bare -/

/-- The last symbol of a text belongs to a header or a comment, or means nothing where it stands. -/
def EndsInPreface (st : State) (t : Text) : Prop :=
  ∃ u y a, t = u ++ y.text ∧ Reads st u a ∧ Prefaces a y

/-- The body of a group or an alternative starts behind a parenthesis or a bar, or behind a header, a
comment or what means nothing. -/
theorem endsInPreface (hq : q.IsClosed) (hc : ∀ p ∈ cs, p.IsClosed) (h1 : q ≠ .char '(')
    (h2 : q ≠ .char '|') (hs : st.Sound) (hr : Reads st (spell (cs ++ [q])) nx) (hb : nx.Bare) :
    EndsInPreface st (spell (cs ++ [q])) := by
  obtain ⟨u, y, hy, hu, lone, last⟩ := last_symbol hq
  have text : spell (cs ++ [q]) = (spell cs ++ u) ++ y.text := by
    simp [spell, hy]
  obtain ⟨ys, symbols⟩ :=
    Option.isSome_iff_exists.1 (isSome_symbols?_append (isSome_symbols?_spell hc) hu)
  rw [text] at hr ⊢
  obtain ⟨a, reads, rest⟩ := (reads_append symbols).1 hr
  have sound := sound_of_reads reads hs
  have next : step a y = .ok nx := by
    cases y with
    | plain d =>
      obtain ⟨s, hx, done⟩ := (reads_plain fun hd => lone (congrArg _ hd)).1 rest
      rwa [reads_nil.1 done]
    | escaped d =>
      obtain ⟨s, hx, done⟩ := reads_escaped.1 rest
      rwa [reads_nil.1 done]
  rcases (moves_step sound next).of_bare hb with rfl | rfl | preface
  · exact absurd ((last '(' rfl).resolve_left (by decide)) h1
  · exact absurd ((last '|' rfl).resolve_left (by decide)) h2
  · exact ⟨_, y, a, rfl, reads, preface⟩

/-- A star of an expanded text has something to repeat, unless a header or a comment, or what means
nothing, stands directly before it. -/
theorem preface_of_star (h : ∀ p ∈ ps, p.IsClosed)
    (hp : pieces (expandPieces false ps) = as ++ .char '*' :: bs) (hs : st.Sound)
    (hr : Reads st (spell as) nx) (hb : nx.Bare) : EndsInPreface st (spell as) := by
  have closed := closed_pieces (isSpelled_expandPieces h false)
  rcases starsFollow_expandPieces h false as bs hp with ⟨-, h⟩ | ⟨cs, q, rfl, h1, h2⟩
  · cases h
  · have all : ∀ p ∈ cs ++ [q], p.IsClosed := fun p hm => closed p (hp ▸ List.mem_append_left _ hm)
    exact endsInPreface (all q (by simp)) (fun p hm => all p (by simp [hm])) h1 h2 hs hr hb

/-- Behind a parenthesis or a bar that ends an expanded text no item stands. -/
theorem not_filled_of_expanded {d : Char} (h : ∀ p ∈ cs, p.IsClosed) (hd : d = '(' ∨ d = '|')
    (hs : st.mode.Fresh) (hr : Reads st (expandPieces b (cs ++ [.char d])) nx) : ¬ nx.Filled := by
  have last : expandPieces b (cs ++ [.char d]) = expandPieces b cs ++ [d] :=
    expandPieces_append_char (by rcases hd with rfl | rfl <;> decide) b cs []
  obtain ⟨ps, closed, text⟩ := isSpelled_expandPieces h b
  obtain ⟨ys, symbols⟩ := Option.isSome_iff_exists.1 (text ▸ isSome_symbols?_spell closed)
  rw [last] at hr
  obtain ⟨a, reads, rest⟩ := (reads_append symbols).1 hr
  obtain ⟨s, hx, done⟩ := (reads_plain (by rcases hd with rfl | rfl <;> decide)).1 rest
  rw [reads_nil.1 done]
  exact not_filled_of_step (fresh_of_reads reads hs) hd hx

/-- A star of the text that a group is expanded to has nothing to repeat only where a header or a
comment, or what means nothing, stands directly before it. A star of the group itself becomes a
wildcard where it has nothing to repeat, but for such places, and stays where an item stands before
it. -/
theorem wildcards_expanded {front : Text} (balanced : groupSize? ('(' :: c) = some ('(' :: c).length)
    (before : Reads (start fl) front st) :
    (∀ ps qs nx, pieces (expandWildcards ('(' :: c)) = ps ++ .char '*' :: qs →
      Reads st (spell ps) nx → nx.Bare → EndsInPreface st (spell ps)) ∧
    ∀ ps qs, pieces ('(' :: c) = ps ++ .char '*' :: qs →
      ∃ star ∈ [wildcard, ['*']], expandWildcards ('(' :: c) =
          expandWildcards (spell ps) ++ (star ++ expandPieces true qs) ∧
        ∀ nx, Reads st (expandWildcards (spell ps)) nx →
          (nx.Bare → star = wildcard ∨ EndsInPreface st (expandWildcards (spell ps))) ∧
          (nx.Filled → star = ['*']) := by
  have sound : st.Sound := sound_of_reads before (sound_start fl)
  have own := closed_pieces (isGroup_of_groupSize? balanced).isMatched.isSpelled
  refine ⟨fun ps qs nx hp hr hb => preface_of_star own hp sound hr hb, fun ps qs hp => ?_⟩
  have closed : ∀ p ∈ ps, p.IsClosed := fun p hm => own p (hp ▸ List.mem_append_left _ hm)
  obtain ⟨cs, q, rfl⟩ : ∃ cs q, ps = cs ++ [q] := by
    rcases List.eq_nil_or_concat ps with rfl | ⟨cs, q, h⟩
    · rw [pieces_plain (by decide) (by decide)] at hp
      cases hp
    · exact ⟨cs, q, h.trans List.concat_eq_append⟩
  have front : expandWildcards (spell (cs ++ [q])) = expandPieces false (cs ++ [q]) := by
    rw [expandWildcards, pieces_spell closed]
  have whole := expandPieces_star_append cs q qs false
  rw [show cs ++ q :: .char '*' :: qs = pieces ('(' :: c) by rw [hp]; simp] at whole
  rw [front]
  by_cases hq : q = .char '(' ∨ q = .char '|'
  · rw [if_pos hq] at whole
    refine ⟨wildcard, by simp, whole, fun nx hr => ⟨fun _ => .inl rfl, fun filled => ?_⟩⟩
    obtain ⟨d, rfl, hd⟩ : ∃ d, q = .char d ∧ (d = '(' ∨ d = '|') := by
      rcases hq with rfl | rfl
      · exact ⟨_, rfl, .inl rfl⟩
      · exact ⟨_, rfl, .inr rfl⟩
    have fresh : st.mode.Fresh := fresh_of_reads before fun s hs => by cases hs
    exact absurd filled
      (not_filled_of_expanded (fun p hm => closed p (by simp [hm])) hd fresh hr)
  · rw [if_neg hq] at whole
    refine ⟨['*'], by simp, whole, fun nx hr => ⟨fun bare => .inr ?_, fun _ => rfl⟩⟩
    have stays := expandPieces_star_append cs q [] false
    obtain ⟨rs, closed', text⟩ := isSpelled_expandPieces closed false
    have star : pieces (expandPieces false (cs ++ q :: [.char '*'])) = rs ++ .char '*' :: [] := by
      rw [stays, if_neg hq, ← text, pieces_append closed', expandPieces, List.append_nil,
        pieces_plain (by decide) (by decide), pieces]
    have all : ∀ p ∈ cs ++ q :: [.char '*'], p.IsClosed := by
      rw [List.append_cons]
      exact List.forall_mem_append.2 ⟨closed, List.forall_mem_singleton.2 ⟨by decide, by decide⟩⟩
    rw [← text] at hr ⊢
    exact preface_of_star all star sound hr bare

/-- In `(?:*)` the star is left bare behind the header; in `(*)` it becomes a wildcard. -/
theorem wildcards_expanded_group :
    ∃ st, Reads (start {}) "(?:".toList st ∧
      (groupSize? "(?:*)".toList = some "(?:*)".toList.length ∧
        pieces (expandWildcards "(?:*)".toList) =
          "(?:".toList.map .char ++ .char '*' :: [.char ')'] ∧
        ∃ nx, Reads st (spell ("(?:".toList.map .char)) nx ∧ nx.Bare ∧
          EndsInPreface st (spell ("(?:".toList.map .char))) ∧
      groupSize? "(*)".toList = some "(*)".toList.length ∧
      ∃ star ∈ [wildcard, ['*']], expandWildcards "(*)".toList =
          expandWildcards (spell [.char '(']) ++ (star ++ expandPieces true [.char ')']) ∧
        ∀ nx, Reads st (expandWildcards (spell [.char '('])) nx →
          (nx.Bare → star = wildcard ∨
            EndsInPreface st (expandWildcards (spell [.char '(']))) ∧
          (nx.Filled → star = ['*']) := by
  have headed : groupSize? "(?:*)".toList = some "(?:*)".toList.length := by decide +kernel
  have left : pieces (expandWildcards "(?:*)".toList) =
      "(?:".toList.map .char ++ .char '*' :: [.char ')'] := by decide +kernel
  have size : groupSize? "(*)".toList = some "(*)".toList.length := by decide +kernel
  have row : pieces "(*)".toList = [.char '('] ++ .char '*' :: [.char ')'] := by decide +kernel
  obtain ⟨st, before, nx, reads, bare⟩ : ∃ st, Reads (start {}) "(?:".toList st ∧
      ∃ nx, Reads st (spell ("(?:".toList.map .char)) nx ∧ nx.Bare :=
    ⟨_, .plain (by decide) rfl (.plain (by decide) rfl (.plain (by decide) rfl (.done _))),
      _, .plain (by decide) rfl (.plain (by decide) rfl (.plain (by decide) rfl (.done _))),
      .inl ⟨rfl, rfl⟩⟩
  exact ⟨st, before,
    ⟨headed, left, nx, reads, bare, (wildcards_expanded headed before).1 _ _ nx left reads bare⟩,
    size, (wildcards_expanded size before).2 _ _ row⟩

/-- Behind the header of a group a star stays, and has nothing to repeat. -/
theorem header_keeps_star :
    groupSize? "(?:*)".toList = some 5 ∧ expandWildcards "(?:*)".toList = "(?:*)".toList ∧
      Pattern.read {} "(?:*)".toList = .error (.located .nothingToRepeat 3) := by
  exact ⟨by decide +kernel, by decide +kernel, by rfl⟩

end RoutePattern
