import RoutePattern.Proofs.Scan.Groups
import RoutePattern.Proofs.Scan.Headers

/-! # Short headers of named groups

A named group starts with `(?P<`, or with `(?<` for short. The scanner reads both alike.

* `Shortened t u`: some of the headers of `t` are short in `u`.
* `SameClosing ps qs`: of both rows of pieces, or of neither, all open groups are left open.
  `Shortened.closing`: so it is with the pieces of such texts.
* `ShortenedRow ps qs`: the same of pieces, with whole headers. `IsGroup.shortened`: a group stays a
  group.
* `Header.read_shortened`: what follows a header may be shortened.
-/

namespace RoutePattern.Scan

variable {a b b' c name t u x : Text} {ps qs as bs : List Piece} {p q : Piece} {n : Nat}

/-! ## Texts -/

/-- The text `u` is `t` with some of its `(?P<` spelled `(?<`. -/
inductive Shortened : Text → Text → Prop
  | nil : Shortened [] []
  | cons (c : Char) {t u : Text} : Shortened t u → Shortened (c :: t) (c :: u)
  | name {t u : Text} : Shortened t u →
      Shortened ('(' :: '?' :: 'P' :: '<' :: t) ('(' :: '?' :: '<' :: u)

namespace Shortened

theorem refl (t : Text) : Shortened t t := by
  induction t with
  | nil => exact .nil
  | cons c t ih => exact .cons c ih

theorem append (h : Shortened t u) (h' : Shortened b b') : Shortened (t ++ b) (u ++ b') := by
  induction h with
  | nil => exact h'
  | cons c _ ih => exact .cons c ih
  | name _ ih => exact .name ih

/-- What is shortened stands behind the first two characters of a header. -/
theorem take_two (h : Shortened t u) : t.take 2 = u.take 2 := by
  have one : ∀ {t u : Text}, Shortened t u → t.take 1 = u.take 1 := by
    intro t u h
    cases h <;> rfl
  cases h with
  | nil => rfl
  | cons c h => exact congrArg (c :: ·) (one h)
  | name h => rfl

theorem head?_eq (h : Shortened t u) : t.head? = u.head? := by
  cases h <;> rfl

theorem nil_right (h : Shortened [] u) : u = [] := by
  cases h
  rfl

theorem mem_iff {c : Char} (h : Shortened t u) (hc : c ≠ 'P') : c ∈ t ↔ c ∈ u := by
  induction h with
  | nil => exact Iff.rfl
  | cons d _ ih => rw [List.mem_cons, List.mem_cons, ih]
  | name _ ih => simp only [List.mem_cons, ih, hc, false_or]

theorem takeWhile_eq {f : Char → Bool} (h : Shortened t u) (hf : f '(' = false) :
    t.takeWhile f = u.takeWhile f := by
  induction h with
  | nil => rfl
  | cons c _ ih => rw [List.takeWhile_cons, List.takeWhile_cons, ih]
  | name _ _ =>
    rw [List.takeWhile_cons_of_neg (by simp [hf]), List.takeWhile_cons_of_neg (by simp [hf])]

end Shortened

/-! ## Where groups close -/

/-- Of both rows, or of neither, all open groups are left open. -/
def SameClosing (ps qs : List Piece) : Prop :=
  ∀ d : Int, closingSize? d ps = none ↔ closingSize? d qs = none

/-- The piece opens no group and closes none. -/
def Piece.IsSilent (p : Piece) : Prop := p ≠ .char '(' ∧ p ≠ .char ')'

namespace SameClosing

theorem refl (ps : List Piece) : SameClosing ps ps := fun _ => Iff.rfl

theorem trans {rs : List Piece} (h : SameClosing ps qs) (h' : SameClosing qs rs) :
    SameClosing ps rs := fun d => (h d).trans (h' d)

theorem cons (p : Piece) (h : SameClosing ps qs) : SameClosing (p :: ps) (p :: qs) := by
  intro d
  by_cases opens : p = .char '('
  · subst opens
    rw [closingSize?_open, closingSize?_open, Option.map_eq_none_iff, Option.map_eq_none_iff, h]
  · by_cases closes : p = .char ')'
    · subst closes
      by_cases last : d = 1
      · subst last
        rw [closingSize?_last, closingSize?_last]
      · rw [closingSize?_close last, closingSize?_close last, Option.map_eq_none_iff,
          Option.map_eq_none_iff, h]
    · rw [closingSize?_piece opens closes, closingSize?_piece opens closes,
        Option.map_eq_none_iff, Option.map_eq_none_iff, h]

/-- A piece that opens and closes nothing does not count. -/
theorem left (hp : p.IsSilent) (h : SameClosing ps qs) : SameClosing (p :: ps) qs := by
  intro d
  rw [closingSize?_piece hp.1 hp.2, Option.map_eq_none_iff, h]

theorem right (hq : q.IsSilent) (h : SameClosing ps qs) : SameClosing ps (q :: qs) := by
  intro d
  rw [closingSize?_piece hq.1 hq.2, Option.map_eq_none_iff, h]

end SameClosing

/-! ## A letter in a class -/

/-- Members that are left open go on behind a question mark. -/
theorem membersExtent?_append_mark (h : membersExtent? x = none) (w : Text) :
    membersExtent? (x ++ '?' :: w) = (membersExtent? w).map (· + (x.length + 1)) := by
  have more : ∀ m n k : Nat, n + m = k →
      ((membersExtent? w).map (· + n)).map (· + m) = (membersExtent? w).map (· + k) := by
    intro m n k hk
    rw [Option.map_map]
    congr 1
    funext i
    show i + n + m = i + k
    omega
  fun_induction membersExtent? x with
  | case1 => exact membersExtent?_member (by decide) (by decide) w
  | case2 => exact membersExtent?_escape '?' w
  | case3 c r ih =>
    rw [List.cons_append, List.cons_append, membersExtent?_escape,
      ih (Option.map_eq_none_iff.1 h)]
    exact more _ _ _ rfl
  | case4 r => cases h
  | case5 c r lone pair close ih =>
    have hc : c ≠ '\\' := Text.ne_backslash lone pair
    rw [List.cons_append, membersExtent?_member hc close, ih (Option.map_eq_none_iff.1 h)]
    exact more _ _ _ rfl

theorem firstExtent?_append_mark (h : firstExtent? x = none) (w : Text) :
    firstExtent? (x ++ '?' :: w) = (membersExtent? w).map (· + (x.length + 1)) := by
  cases x with
  | nil => exact membersExtent?_member (by decide) (by decide) w
  | cons c x =>
    by_cases hc : c = ']'
    · subst hc
      rw [List.cons_append, firstExtent?_close,
        membersExtent?_append_mark (Option.map_eq_none_iff.1 h), Option.map_map]
      rfl
    · rw [firstExtent?_of_ne (by simp [hc])] at h
      rw [List.cons_append, firstExtent?_of_ne (by simp [hc])]
      exact membersExtent?_append_mark h w

theorem classExtent?_append_mark (h : classExtent? x = none) (w : Text) :
    classExtent? (x ++ '?' :: w) = (membersExtent? w).map (· + (x.length + 1)) := by
  cases x with
  | nil => exact membersExtent?_member (by decide) (by decide) w
  | cons c x =>
    by_cases hc : c = '^'
    · subst hc
      rw [List.cons_append, classExtent?_caret,
        firstExtent?_append_mark (Option.map_eq_none_iff.1 h), Option.map_map]
      rfl
    · rw [classExtent?_of_ne (by simp [hc])] at h
      rw [List.cons_append, classExtent?_of_ne (by simp [hc])]
      exact firstExtent?_append_mark h w

/-- What stands behind the bracket that closes the members at the start of a text. -/
def behindMembers (t : Text) : Text := ((membersExtent? t).map t.drop).getD []

theorem behindMembers_letter (y : Text) : behindMembers ('P' :: y) = behindMembers y := by
  rw [behindMembers, membersExtent?_member (by decide) (by decide), behindMembers]
  cases membersExtent? y <;> rfl

/-- The class that is left open before a question mark, and what stands behind it. -/
theorem pieces_open_class (h : classExtent? x = none) (w : Text) :
    ∃ t, pieces ('[' :: (x ++ '?' :: w)) = .charClass t :: pieces (behindMembers w) := by
  have extent := classExtent?_append_mark h w
  rw [pieces_class]
  refine ⟨_, congrArg _ ?_⟩
  rw [behindMembers]
  cases hw : membersExtent? w with
  | none =>
    rw [hw] at extent
    obtain ⟨n, closed, -⟩ | ⟨-, size⟩ := classSize_cases (x ++ '?' :: w)
    · rw [extent] at closed
      cases closed
    · rw [List.drop_eq_nil_of_le (Nat.succ_le_of_lt size)]
      rfl
  | some k =>
    rw [hw] at extent
    rw [classSize_closed extent]
    have front : '[' :: (x ++ '?' :: w) = ('[' :: (x ++ ['?'])) ++ w := by simp
    have size : k + (x.length + 1) + 1 = ('[' :: (x ++ ['?'])).length + k := by
      simp only [List.length_cons, List.length_append, List.length_nil]
      omega
    rw [front, size, List.drop_length_add_append]
    rfl

/-- The letter behind a question mark plays no part in where groups close. -/
theorem sameClosing_letter (x y : Text) :
    SameClosing (pieces (x ++ '?' :: 'P' :: y)) (pieces (x ++ '?' :: y)) := by
  have letter : (Piece.char 'P').IsSilent := ⟨by decide, by decide⟩
  have silent : ∀ t, (Piece.charClass t).IsSilent := by
    intro t
    constructor <;> simp
  have plain : pieces ('P' :: y) = .char 'P' :: pieces y := pieces_plain (by decide) (by decide) y
  fun_induction pieces x with
  | case1 =>
    rw [List.nil_append, List.nil_append, pieces_plain (by decide) (by decide), plain,
      pieces_plain (by decide) (by decide)]
    exact .cons _ (.left letter (.refl _))
  | case2 =>
    show SameClosing (pieces ('\\' :: '?' :: 'P' :: y)) (pieces ('\\' :: '?' :: y))
    rw [pieces_escape, plain, pieces_escape]
    exact .cons _ (.left letter (.refl _))
  | case3 c r ih =>
    rw [List.cons_append, List.cons_append, List.cons_append, List.cons_append, pieces_escape,
      pieces_escape]
    exact .cons _ ih
  | case4 r n ih =>
    cases extent : classExtent? r with
    | some m =>
      have closed : (Piece.charClass (('[' :: r).take n)).IsClosed := closedClass_take extent
      have split : ∀ z, ('[' :: r) ++ z = ('[' :: r).take n ++ (('[' :: r).drop n ++ z) := by
        intro z
        rw [← List.append_assoc, List.take_append_drop]
      have read : ∀ z, pieces (('[' :: r) ++ z) =
          .charClass (('[' :: r).take n) :: pieces (('[' :: r).drop n ++ z) := by
        intro z
        rw [split z]
        exact pieces_text_append closed _
      rw [read, read]
      exact .cons _ ih
    | none =>
      obtain ⟨t, long⟩ := pieces_open_class extent ('P' :: y)
      obtain ⟨u, short⟩ := pieces_open_class extent y
      rw [List.cons_append, List.cons_append, long, short, behindMembers_letter]
      exact .left (silent t) (.right (silent u) (.refl _))
  | case5 c r lone pair bracket ih =>
    have slash : c ≠ '\\' := Text.ne_backslash lone pair
    rw [List.cons_append, List.cons_append, pieces_plain slash bracket,
      pieces_plain slash bracket]
    exact .cons _ ih

/-- Groups that are left open still are where headers are shortened. -/
theorem Shortened.closing (h : Shortened t u) : SameClosing (pieces t) (pieces u) := by
  -- what stands before the header may be a class that is left open
  have behind : ∀ x, SameClosing (pieces (x ++ t)) (pieces (x ++ u)) := by
    induction h with
    | nil => exact fun x => .refl _
    | cons c _ ih =>
      intro x
      have := ih (x ++ [c])
      simpa using this
    | @name t u _ ih =>
      intro x
      have first := sameClosing_letter (x ++ ['(']) ('<' :: t)
      have rest := ih (x ++ ['(', '?', '<'])
      simp only [List.append_assoc, List.cons_append, List.nil_append] at first rest
      exact first.trans rest
  exact behind []

/-! ## Pieces -/

/-- The header of a named group. -/
def longHeader (name : Text) : Text := ['(', '?', 'P', '<'] ++ (name ++ ['>'])

/-- The same, spelled without the letter. -/
def shortHeader (name : Text) : Text := ['(', '?', '<'] ++ (name ++ ['>'])

/-- The name may stand in a short header. An equals sign or an exclamation mark in front would make it
a look-behind. -/
structure IsShortable (name : Text) : Prop where
  closed : '>' ∉ name
  ahead : name.head? ≠ some '='
  not_ahead : name.head? ≠ some '!'

/-- The row `qs` is `ps` with some headers of named groups spelled for short. -/
inductive ShortenedRow : List Piece → List Piece → Prop
  | nil : ShortenedRow [] []
  | piece (p : Piece) {ps qs : List Piece} : ShortenedRow ps qs → ShortenedRow (p :: ps) (p :: qs)
  | header {name : Text} {ps qs : List Piece} : IsShortable name → ShortenedRow ps qs →
      ShortenedRow ((longHeader name).map .char ++ ps) ((shortHeader name).map .char ++ qs)

theorem shortened_header (name : Text) : Shortened (longHeader name) (shortHeader name) :=
  .name (.refl _)

theorem ShortenedRow.text (h : ShortenedRow ps qs) : Shortened (spell ps) (spell qs) := by
  induction h with
  | nil => exact .nil
  | piece p _ ih =>
    rw [spell, spell, List.flatMap_cons, List.flatMap_cons]
    exact (Shortened.refl _).append ih
  | header _ _ ih =>
    rw [spell, spell, List.flatMap_append, List.flatMap_append]
    simpa only [spell_chars] using (shortened_header _).append ih

/-- A shortened row has lost nothing but letters. -/
theorem ShortenedRow.sublist (h : ShortenedRow ps qs) : qs.Sublist ps := by
  induction h with
  | nil => exact List.Sublist.slnil
  | piece p _ ih => exact ih.cons_cons p
  | @header name ps qs _ _ ih =>
    have letter : (shortHeader name).Sublist (longHeader name) :=
      (((List.Sublist.refl _).cons 'P').cons_cons '?').cons_cons '('
    exact (letter.map _).append ih

/-! ## Groups -/

/-- A piece closes the outermost group, or the count goes on behind it. -/
theorem closing_cons {d : Int} (h : closingSize? d (p :: ps) = some n) :
    (p = .char ')' ∧ n = 1) ∨ ∃ e m, n = m + p.size ∧ closingSize? e ps = some m ∧
      ∀ qs k, closingSize? e qs = some k → closingSize? d (p :: qs) = some (k + p.size) := by
  by_cases opens : p = .char '('
  · subst opens
    rw [closingSize?_open] at h
    obtain ⟨m, hm, rfl⟩ := Option.map_eq_some_iff.1 h
    refine .inr ⟨d + 1, m, rfl, hm, fun qs k hk => ?_⟩
    rw [closingSize?_open, hk]
    rfl
  · by_cases closes : p = .char ')'
    · subst closes
      by_cases last : d = 1
      · subst last
        rw [closingSize?_last] at h
        exact .inl ⟨rfl, (Option.some.inj h).symm⟩
      · rw [closingSize?_close last] at h
        obtain ⟨m, hm, rfl⟩ := Option.map_eq_some_iff.1 h
        refine .inr ⟨d - 1, m, rfl, hm, fun qs k hk => ?_⟩
        rw [closingSize?_close last, hk]
        rfl
    · rw [closingSize?_piece opens closes] at h
      obtain ⟨m, hm, rfl⟩ := Option.map_eq_some_iff.1 h
      refine .inr ⟨d, m, rfl, hm, fun qs k hk => ?_⟩
      rw [closingSize?_piece opens closes, hk]
      rfl

/-- The outermost group closes where the row ends. -/
def ClosesLast (d : Int) (ps : List Piece) : Prop := closingSize? d ps = some (spell ps).length

theorem ClosesLast.letter {d : Int} (h : ClosesLast d (as ++ .char 'P' :: bs)) :
    ClosesLast d (as ++ bs) := by
  unfold ClosesLast at h ⊢
  induction as generalizing d with
  | nil =>
    rw [List.nil_append, closingSize?_piece (by decide) (by decide)] at h
    obtain ⟨m, hm, length⟩ := Option.map_eq_some_iff.1 h
    rw [length_spell_cons] at length
    rw [List.nil_append, hm, Nat.add_right_cancel length]
  | cons a as ih =>
    rw [List.cons_append] at h ⊢
    obtain ⟨rfl, last⟩ | ⟨e, m, length, inner, step⟩ := closing_cons h
    · -- a group that closes here would leave no place for the letter
      rw [length_spell_cons, spell, List.flatMap_append, List.length_append, List.flatMap_cons,
        List.length_append] at last
      exact absurd last (by simp only [Piece.size, Piece.text, List.length_singleton]; omega)
    · rw [length_spell_cons] at length
      obtain rfl := Nat.add_right_cancel length
      rw [step _ _ (ih inner), length_spell_cons]

theorem ShortenedRow.closesLast {d : Int} (h : ShortenedRow ps qs) (as : List Piece)
    (closes : ClosesLast d (as ++ ps)) : ClosesLast d (as ++ qs) := by
  induction h generalizing as with
  | nil => exact closes
  | piece p _ ih =>
    have next := ih (as ++ [p])
    simp only [List.append_assoc, List.singleton_append] at next
    exact next closes
  | @header name ps qs _ _ ih =>
    have next := ih (as ++ (shortHeader name).map .char)
    rw [List.append_assoc, List.append_assoc] at next
    apply next
    have letter := @ClosesLast.letter (as ++ [.char '(', .char '?'])
      ((['<'] ++ (name ++ ['>'])).map .char ++ ps) d
    simp only [List.append_assoc, List.cons_append, List.nil_append] at letter
    exact letter closes

/-- A group is one with short headers, too, and is read as such. -/
theorem IsGroup.shortened (hc : IsGroup c) (h : ShortenedRow (pieces c) qs) :
    IsGroup (spell qs) ∧ pieces (spell qs) = qs := by
  obtain ⟨ps, closed, -, rfl⟩ := hc.isMatched
  rw [pieces_spell closed] at h
  have read : pieces (spell qs) = qs := pieces_spell fun q hq => closed q (h.sublist.subset hq)
  have size : ClosesLast 0 ps := by
    have own := hc.groupSize? []
    rwa [List.append_nil, Scan.groupSize?, pieces_spell closed] at own
  have short : Scan.groupSize? (spell qs) = some (spell qs).length := by
    rw [Scan.groupSize?, read]
    exact h.closesLast [] size
  obtain ⟨t, -, text⟩ := hc
  have head := h.text.head?_eq
  rw [text] at head
  obtain ⟨r, hr⟩ := List.head?_eq_some_iff.1 head.symm
  rw [hr] at short
  exact ⟨hr ▸ isGroup_of_groupSize? short, read⟩

/-! ## Headers -/

namespace Header

variable {o : Opening}

theorem readName_append_of_mem (h : '>' ∈ a) (n : Nat) (b : Text) :
    readName n (a ++ b) = readName n a := by
  unfold readName
  rw [Text.cut?_append]
  cases cut : a.cut? '>' with
  | some p => rfl
  | none => exact absurd h (Text.cut?_eq_none.1 cut)

theorem le_readName_size (n : Nat) (t : Text) : n ≤ (readName n t).size := by
  obtain silent | ⟨name, u, -, -, named⟩ := readName_cases n t
  · exact Nat.le_of_eq (congrArg Header.size silent).symm
  · rw [named]
    show n ≤ n + name.length + 1
    omega

theorem le_readComment_size (n : Nat) (t : Text) : n ≤ (readComment n t).size := by
  obtain ⟨-, silent⟩ | ⟨comment, u, -, -, silent⟩ := readComment_cases n t
  · rw [silent]
    exact Nat.le_add_right _ _
  · rw [silent]
    show n ≤ n + comment.length + 1
    omega

/-- A name that ends within `a`, or the lack of one, stays where headers behind are shortened. -/
theorem readName_shortened (h : readName n (a ++ b) = ⟨o, n + a.length⟩) (hb : Shortened b b') :
    readName n (a ++ b') = ⟨o, n + a.length⟩ := by
  by_cases inside : '>' ∈ a
  · rwa [readName_append_of_mem inside] at h ⊢
  · have alone : a.cut? '>' = none := Text.cut?_eq_none.2 inside
    have behind : b.cut? '>' = none := by
      cases cut : b.cut? '>' with
      | none => rfl
      | some p =>
        rw [readName, Text.cut?_append, alone, cut] at h
        have size : n + (a ++ p.1).length + 1 = n + a.length := congrArg Header.size h
        rw [List.length_append] at size
        omega
    have behind' : b'.cut? '>' = none :=
      Text.cut?_eq_none.2 fun mem => Text.cut?_eq_none.1 behind ((hb.mem_iff (by decide)).2 mem)
    rw [readName, Text.cut?_append, alone, behind] at h
    rw [readName, Text.cut?_append, alone, behind']
    exact h

theorem readComment_shortened (h : readComment n (a ++ b) = ⟨o, n + a.length⟩)
    (hb : Shortened b b') : readComment n (a ++ b') = ⟨o, n + a.length⟩ := by
  by_cases inside : ')' ∈ a
  · rwa [readComment_append inside] at h ⊢
  · -- a comment that is not closed in `a` takes what is behind it, so nothing is
    obtain rfl : b = [] := by
      obtain ⟨-, silent⟩ | ⟨comment, u, split, -, silent⟩ := readComment_cases n (a ++ b)
      · rw [silent] at h
        have size : n + (a ++ b).length = n + a.length := congrArg Header.size h
        rw [List.length_append] at size
        exact List.eq_nil_of_length_eq_zero (by omega)
      · rw [silent] at h
        have size : n + comment.length + 1 = n + a.length := congrArg Header.size h
        have front : a = comment ++ [')'] := by
          have same : a ++ b = (comment ++ [')']) ++ u := by simpa using split
          exact (List.append_inj same (by rw [List.length_append, List.length_singleton]; omega)).1
        exact absurd (front ▸ by simp) inside
    rwa [hb.nil_right]

/-- The header behind `(?<`: a name, unless the next character makes it a look-behind. -/
theorem read_angle (h1 : t.head? ≠ some '=') (h2 : t.head? ≠ some '!') :
    read ('(' :: '?' :: '<' :: t) = readName 3 t := by
  cases t with
  | nil => rfl
  | cons c t =>
    exact read_name (fun h => h1 (congrArg some h)) (fun h => h2 (congrArg some h)) t

theorem read_behind (h : t.head? = some '=' ∨ t.head? = some '!') :
    read ('(' :: '?' :: '<' :: t) = ⟨.silent, 2⟩ := by
  obtain h | h := h <;> obtain ⟨u, rfl⟩ := List.head?_eq_some_iff.1 h <;> rfl

theorem read_of_size (h : (read ('(' :: '?' :: t)).size = 2) :
    read ('(' :: '?' :: t) = ⟨.silent, 2⟩ := by
  obtain ⟨s, rfl⟩ | ⟨s, rfl, read⟩ | ⟨s, rfl, read⟩ | silent := read_cases t
  · have least : 3 ≤ 2 := h ▸ le_readComment_size 3 s
    omega
  · have least := le_readName_size 4 s
    rw [← read, h] at least
    omega
  · have least := le_readName_size 3 s
    rw [← read, h] at least
    omega
  · exact silent

/-- A header of two characters stays where what follows is shortened. -/
theorem read_shortened_silent (h : (read ('(' :: '?' :: b)).size = 2) (hb : Shortened b b') :
    read ('(' :: '?' :: b') = ⟨.silent, 2⟩ := by
  have two := hb.take_two
  obtain ⟨s, rfl⟩ | ⟨s, rfl, -⟩ | ⟨s, rfl, -⟩ | silent := read_cases b'
  · obtain ⟨t, rfl⟩ := List.head?_eq_some_iff.1 hb.head?_eq
    have least : 3 ≤ 2 := h ▸ le_readComment_size 3 t
    omega
  · obtain ⟨t, rfl⟩ : ∃ t, b = 'P' :: '<' :: t := by
      refine ⟨b.drop 2, ?_⟩
      rw [← List.take_append_drop 2 b, two]
      rfl
    have least : 4 ≤ 2 := h ▸ le_readName_size 4 t
    omega
  · obtain ⟨t, rfl⟩ := List.head?_eq_some_iff.1 hb.head?_eq
    have same : t.head? = s.head? := by
      cases hb with
      | cons _ hb => exact hb.head?_eq
    apply read_behind
    rw [← same]
    apply Decidable.byContradiction
    intro none
    rw [not_or] at none
    rw [read_angle none.1 none.2] at h
    have least : 3 ≤ 2 := h ▸ le_readName_size 3 t
    omega
  · exact silent

/-- A header stays where headers behind it are shortened. -/
theorem read_shortened (h : read ('(' :: '?' :: (a ++ b)) = ⟨o, 2 + a.length⟩)
    (hb : Shortened b b') : read ('(' :: '?' :: (a ++ b')) = ⟨o, 2 + a.length⟩ := by
  cases a with
  | nil =>
    have size : (read ('(' :: '?' :: b)).size = 2 := congrArg Header.size h
    have silent := (read_of_size size).symm.trans h
    exact (read_shortened_silent size hb).trans silent
  | cons c a =>
    have length : 2 + (c :: a).length = 3 + a.length := by
      rw [List.length_cons]
      omega
    rw [length] at h ⊢
    rw [List.cons_append] at h ⊢
    obtain ⟨s, hs⟩ | ⟨s, hs, -⟩ | ⟨s, hs, -⟩ | silent := read_cases (c :: (a ++ b))
    · obtain ⟨rfl, -⟩ := List.cons.inj hs
      exact readComment_shortened h hb
    · obtain ⟨rfl, angle⟩ := List.cons.inj hs
      cases a with
      | nil =>
        obtain rfl : b = '<' :: s := angle
        have size : (readName 4 s).size = 3 := congrArg Header.size h
        have least := le_readName_size 4 s
        omega
      | cons d a =>
        obtain ⟨rfl, -⟩ := List.cons.inj angle
        rw [show 3 + ('<' :: a).length = 4 + a.length by rw [List.length_cons]; omega] at h ⊢
        exact readName_shortened h hb
    · obtain ⟨rfl, -⟩ := List.cons.inj hs
      have same := ((Shortened.refl a).append hb).head?_eq
      have named : ¬ ((a ++ b).head? = some '=' ∨ (a ++ b).head? = some '!') := by
        intro behind
        rw [read_behind behind] at h
        have size : 2 = 3 + a.length := congrArg Header.size h
        omega
      rw [not_or] at named
      rw [read_angle named.1 named.2] at h
      rw [read_angle (same ▸ named.1) (same ▸ named.2)]
      exact readName_shortened h hb
    · rw [silent] at h
      have size : 2 = 3 + a.length := congrArg Header.size h
      omega

/-- The short header of a name. -/
theorem read_shortHeader (hn : IsShortable name) (u : Text) :
    read (shortHeader name ++ u) = ⟨.named name, (shortHeader name).length⟩ := by
  have text : shortHeader name ++ u = '(' :: '?' :: '<' :: (name ++ '>' :: u) := by
    simp [shortHeader]
  have head : ∀ c, c ≠ '>' → name.head? ≠ some c → (name ++ '>' :: u).head? ≠ some c := by
    intro c hc none
    cases name with
    | nil => exact fun h => hc (Option.some.inj h).symm
    | cons d name => exact none
  rw [text, read_angle (head _ (by decide) hn.ahead) (head _ (by decide) hn.not_ahead),
    readName, Text.cut?_of_not_mem hn.closed]
  simp only [shortHeader, List.length_append, List.length_cons, List.length_nil, Header.mk.injEq,
    true_and]
  omega

end Header

end RoutePattern.Scan
