import RoutePattern.Proofs.Anchors
import RoutePattern.Proofs.Reader.Depth
import RoutePattern.Proofs.Template.Closing

/-! # Groups that a template leaves open

A group behind the name of a parameter that is never closed becomes part of the expression, and
leaves a group open there.

* `Keeps`: a token and what it becomes leave as many parentheses open. `keeps_first`: so does every
  token but one that is left open itself.
* `not_accepts_unclosed`: nothing is accepted that ends with a text in which a group is left open.
* `compile_unterminated`: a template with such a group is refused, unless the reader takes one of the
  parentheses for part of a comment or of an escape. `comment_hides_group`: a template where it does.
-/

namespace RoutePattern

open Scan Regex Regex.Reader

variable {st : State} {c : Char} {g r t u v w e : Text} {k : Token} {p : Param} {o : Options}
  {d : Int}

/-! ## Parameters and endings -/

theorem isMatched_formatText (p : Param) : IsMatched p.formatText := by
  unfold Param.formatText
  split
  · exact isMatched_escape '.'
  · exact isMatched_nil

theorem isMatched_optional (b : Bool) (c : Char) (hc : c ∉ ['\\', '[', '(', ')']) :
    IsMatched (if b then [c] else []) := by
  split
  · exact isMatched_chars (by simpa using hc)
  · exact isMatched_nil

theorem isMatched_restGroup (p : Param) : IsMatched p.restGroup := by
  unfold Param.restGroup
  split
  · have set : ClosedClass (['[', '/'] ++ p.formatText ++ [']']) := by
      unfold Param.formatText
      split <;> exact ⟨_, rfl, rfl⟩
    have mark : IsMatched ['?', ':'] := isMatched_chars (by decide)
    have any : IsMatched ['.', '+', '?'] := isMatched_chars (by decide)
    have body := (mark.append ((isMatched_class set).append any)).group
    have inner := body.isMatched.append (u := ['?']) (isMatched_chars (by decide))
    simpa using inner.group.isMatched
  · exact isMatched_nil

/-- The parentheses of what a parameter becomes match. -/
theorem isMatched_written (hg : IsGuard g) (hp : ∀ t, p.capture = some t → IsGroup t) :
    IsMatched (p.written g) := by
  have mark : IsMatched ['?', ':'] := isMatched_chars (by decide)
  have slash := isMatched_optional p.slash '/' (by decide)
  have group := (isGroup_group hg hp).isMatched
  have inner := mark.append (slash.append ((isMatched_formatText p).append
    (group.append (isMatched_restGroup p))))
  have whole := inner.group.isMatched.append (isMatched_optional p.marks.optional '?' (by decide))
  simpa [Param.written, Param.opening] using whole

theorem isMatched_name {name : ParamName} (h : ∀ c ∈ name.name, Text.isWord c) :
    IsMatched name.text := by
  have marks : ∀ c ∈ ['\\', '[', '(', ')'], Text.isWord c = false := by decide
  have word : IsMatched name.name := isMatched_chars fun c hc hm => by
    have letter := h c hc
    rw [marks c hm] at letter
    cases letter
  have colon : IsMatched [':'] := isMatched_chars (by decide)
  have front := (isMatched_optional name.slash '/' (by decide)).append
    (isMatched_optional name.format '.' (by decide))
  simpa [ParamName.text] using front.append (colon.append word)

/-- The parentheses of a parameter match. -/
theorem isMatched_text (hw : ∀ c ∈ p.name, Text.isWord c)
    (hp : ∀ t, p.capture = some t → IsGroup t) : IsMatched p.text := by
  have own : IsMatched (p.capture.getD []) := by
    cases h : p.capture with
    | none => exact isMatched_nil
    | some t => exact (hp t h).isMatched
  have marks := (isMatched_optional p.marks.star '*' (by decide)).append
    (isMatched_optional p.marks.optional '?' (by decide))
  exact ((isMatched_name hw).append own).append marks

theorem isMatched_closing (o : Options) : IsMatched o.closing := by
  unfold Options.closing
  split
  · exact isMatched_chars (by decide)
  · exact (IsMatched.group (t := ['?', ':', '/', '|', '$']) (isMatched_chars (by decide))).isMatched

/-- The parentheses of what stands behind an expression match. -/
theorem isMatched_ending (o : Options) (slash : Bool) : IsMatched (o.ending slash) := by
  have question : IsMatched ['?'] := isMatched_chars (by decide)
  have optional : IsMatched ['/', '?'] := isMatched_chars (by decide)
  rcases ending_cases o slash with ⟨h, -⟩ | h | ⟨-, h⟩ | h <;> rw [h]
  · exact isMatched_nil
  · exact isMatched_closing o
  · exact question.append (isMatched_closing o)
  · exact optional.append (isMatched_closing o)

/-- So do those behind its first character, unless that is a parenthesis. -/
theorem isMatched_tail (h : o.strict = true → o.toEnd = true) (slash : Bool) :
    IsMatched (o.ending slash).tail := by
  obtain ⟨strict, toEnd, sensitive⟩ := o
  have closing := isMatched_closing { strict := false, toEnd := toEnd, sensitive := sensitive }
  cases strict with
  | true =>
    obtain rfl : toEnd = true := h rfl
    cases slash <;> exact isMatched_nil
  | false =>
    cases slash with
    | true => exact closing
    | false =>
      have question : IsMatched ['?'] := isMatched_chars (by decide)
      exact question.append closing

/-! ## Tokens -/

/-- A token and what it becomes fall into closed pieces and leave as many parentheses open. -/
structure Keeps (g : Text) (k : Token) : Prop where
  text : IsSpelled k.text
  written : IsSpelled (k.written g)
  rise : rise k.text = rise (k.written g)

theorem Keeps.of_matched (ht : IsMatched k.text) (hw : IsMatched (k.written g)) : Keeps g k :=
  ⟨ht.isSpelled, hw.isSpelled, ht.rise.trans hw.rise.symm⟩

theorem Keeps.of_same (hw : k.written g = k.text) (ht : IsSpelled k.text) : Keeps g k :=
  ⟨ht, hw ▸ ht, by rw [hw]⟩

/-- A text falls into closed pieces, or ends with a lone backslash or a class that is left open. -/
theorem spelled_or_open (t : Text) :
    IsSpelled t ∨ ∃ u w, t = u ++ w ∧ IsSpelled u ∧
      (w = ['\\'] ∨ ∃ r, w = '[' :: r ∧ classExtent? r = none) := by
  have extend : ∀ {p : Piece} {r : Text}, p.IsClosed →
      (IsSpelled r ∨ ∃ u w, r = u ++ w ∧ IsSpelled u ∧
        (w = ['\\'] ∨ ∃ s, w = '[' :: s ∧ classExtent? s = none)) →
      IsSpelled (p.text ++ r) ∨ ∃ u w, p.text ++ r = u ++ w ∧ IsSpelled u ∧
        (w = ['\\'] ∨ ∃ s, w = '[' :: s ∧ classExtent? s = none) := by
    rintro p r hp (h | ⟨u, w, rfl, hu, hw⟩)
    · exact .inl (hp.isSpelled.append h)
    · exact .inr ⟨p.text ++ u, w, (List.append_assoc _ _ _).symm, hp.isSpelled.append hu, hw⟩
  fun_induction pieces t with
  | case1 => exact .inl ⟨[], by simp, rfl⟩
  | case2 => exact .inr ⟨[], ['\\'], rfl, ⟨[], by simp, rfl⟩, .inl rfl⟩
  | case3 c r ih => exact extend (p := .escape (some c)) rfl ih
  | case4 r n ih =>
    cases he : classExtent? r with
    | none => exact .inr ⟨[], '[' :: r, rfl, ⟨[], by simp, rfl⟩, .inr ⟨r, rfl, he⟩⟩
    | some m =>
      have whole := extend (p := .charClass _) (closedClass_take he) ih
      rwa [Piece.text, List.take_append_drop] at whole
  | case5 c r h1 h2 h3 ih =>
    exact extend (p := .char c) ⟨Text.ne_backslash h1 h2, h3⟩ ih

/-- In a comment, everything up to the parenthesis that closes it belongs to it. -/
theorem comment_of_reads {nx : State} {i : Nat} (hm : st.mode = .comment i) (ht : ')' ∉ t)
    (h : Reads st t nx) : nx.mode = .comment i := by
  refine h.keeps_without (P := fun s => s.mode = .comment i) ht (fun hy hs hx => ?_) hm
  obtain ⟨-, -, next⟩ := comment_step hs hx
  rw [next, if_neg hy]

/-- A comment falls into closed pieces, if no class seems to open in it. -/
theorem isSpelled_comment (hn : ')' ∉ t) (hs : st.mode.Classless)
    (hu : Uncommented st ('(' :: '?' :: '#' :: (t ++ ')' :: v)))
    (ha : Accepts st ('(' :: '?' :: '#' :: (t ++ ')' :: v))) :
    IsSpelled ('(' :: '?' :: '#' :: (t ++ [')'])) := by
  rcases spelled_or_open ('(' :: '?' :: '#' :: (t ++ [')'])) with h | ⟨u, w, hw, spelled, rest⟩
  · exact h
  exfalso
  have whole : '(' :: '?' :: '#' :: (t ++ ')' :: v) = u ++ (w ++ v) := by
    rw [← List.append_assoc, ← hw]
    simp
  rcases rest with rfl | ⟨r, rfl, -⟩
  · have ends : ['(', '?', '#'] ++ t ++ [')'] = u ++ ['\\'] := by simpa using hw
    exact absurd (List.append_inj' ends rfl).2 (by decide)
  · obtain ⟨a, rfl, ha'⟩ : ∃ a, u = '(' :: '?' :: '#' :: a ∧ t ++ [')'] = a ++ '[' :: r := by
      match u with
      | [] => simp at hw
      | [c] => simp at hw
      | [c, d] => simp at hw
      | c :: d :: e :: a =>
        simp only [List.cons_append, List.cons.injEq] at hw
        obtain ⟨rfl, rfl, rfl, hw⟩ := hw
        exact ⟨a, rfl, hw⟩
    have inside : ')' ∉ a := by
      rcases List.append_eq_append_iff.1 ha' with ⟨b, -, hb⟩ | ⟨b, rfl, -⟩
      · cases b <;> simp at hb
      · exact fun hm => hn (List.mem_append_left b hm)
    rw [whole] at ha hu
    obtain ⟨nx, reads, -, -, hu', -⟩ := rises_spelled spelled hs hu ha
    have bare : st.mode.IsBare := hs.resolve_right (hu.here (by decide))
    obtain ⟨s, i, opens, hm⟩ := comment_of_accepts bare ha
    refine hu'.here (by decide) ?_
    rw [comment_of_reads hm inside (opens.rest reads)]
    trivial

theorem isMatched_named {name : Text} (h : Named name) : IsMatched name :=
  isMatched_chars fun c hc hm => h c hc
    ((by decide : ['\\', '[', '(', ')'] ⊆ nameMarks) hm)

theorem isMatched_leadingColon (u : Text) : IsMatched (leadingColon u) := by
  unfold leadingColon
  split
  · exact isMatched_chars (by decide)
  · exact isMatched_nil

/-- One parenthesis more opens than closes. -/
theorem rise_between (ht : IsMatched t) (hu : IsMatched u) :
    IsSpelled (t ++ '(' :: u) ∧ rise (t ++ '(' :: u) = 1 := by
  have paren : IsSpelled ['('] := isSpelled_chars (by decide)
  refine ⟨ht.isSpelled.append (paren.append hu.isSpelled), ?_⟩
  rw [rise_append ht.isSpelled, ht.rise, rise, pieces_plain (by decide) (by decide), rises,
    show rises (pieces u) = 0 from hu.rise]
  rfl

/-- A header with a name and what it becomes. -/
theorem keeps_named {front name : Text} (hfront : front ∈ [['(', '?', 'P', '<'], ['(', '?', '<']])
    (hn : Named name) (u : Text) :
    Keeps g (.header (front ++ (name ++ '>' :: leadingColon u)) (some name)) := by
  have whole : ∀ f ∈ [['(', '?', 'P', '<'], ['(', '?', '<']], ∀ t, IsMatched t →
      IsSpelled (f ++ (name ++ '>' :: t)) ∧ rise (f ++ (name ++ '>' :: t)) = 1 := by
    intro f hf t ht
    obtain ⟨m, rfl, hm⟩ : ∃ m : Text, f = '(' :: m ∧ IsMatched m := by
      simp only [List.mem_cons, List.not_mem_nil, or_false] at hf
      rcases hf with rfl | rfl
      · exact ⟨_, rfl, isMatched_chars (by decide)⟩
      · exact ⟨_, rfl, isMatched_chars (by decide)⟩
    have ends : IsMatched ['>'] := isMatched_chars (by decide)
    exact rise_between isMatched_nil (hm.append ((isMatched_named hn).append (ends.append ht)))
  obtain ⟨h1, h2⟩ := whole front hfront _ (isMatched_leadingColon u)
  obtain ⟨h3, h4⟩ := whole ['(', '?', 'P', '<'] (by simp) [] isMatched_nil
  have written : (Token.header (front ++ (name ++ '>' :: leadingColon u)) (some name)).written g =
      ['(', '?', 'P', '<'] ++ (name ++ ['>']) := by simp [Token.written]
  exact ⟨h1, written ▸ h3, by rw [written, h4]; exact h2⟩

/-- A header without a name stays as it is. -/
theorem keeps_front {front : Text} (hfront : IsSpelled front) (u : Text) :
    Keeps g (.header (front ++ leadingColon u) none) :=
  .of_same rfl (hfront.append (isMatched_leadingColon u).isSpelled)

/-- A header, where its comment is closed. -/
theorem keeps_header (hk : Token.readHeader ('(' :: '?' :: r) = k) (hs : st.mode.Classless)
    (hu : Uncommented st (k.written g ++ v)) (ha : Accepts st (k.written g ++ v)) :
    Keeps g k ∨ (k.text = '(' :: '?' :: r ∧ k.written g = k.text) := by
  rcases comment_or_keepsHeader r with ⟨s, rfl⟩ |
    ⟨front, u, he, hfront, hk'⟩ | ⟨front, name, u, he, hfront, hn, hk'⟩
  · rcases Header.readComment_cases 3 s with ⟨-, read⟩ | ⟨comment, u, rfl, hn, read⟩
    · -- the comment takes everything
      have size : Header.read ('(' :: '?' :: '#' :: s ++ []) = ⟨.silent, s.length + 3⟩ := by
        rw [List.append_nil, Nat.add_comm]
        exact read
      have whole : Token.readHeader ('(' :: '?' :: '#' :: s ++ []) =
          .header ('(' :: '?' :: '#' :: s ++ []) none := readHeader_eq size
      rw [List.append_nil, hk] at whole
      exact .inr (whole ▸ ⟨rfl, rfl⟩)
    · left
      have front : '(' :: '?' :: '#' :: (comment ++ ')' :: u) =
          '(' :: '?' :: '#' :: (comment ++ [')']) ++ u := by simp
      have size : Header.read ('(' :: '?' :: '#' :: (comment ++ [')']) ++ u) =
          ⟨.silent, (comment ++ [')']).length + 3⟩ := by
        rw [← front, List.length_append, Nat.add_comm, ← Nat.add_assoc]
        exact read
      have header : Token.readHeader ('(' :: '?' :: '#' :: (comment ++ [')']) ++ u) =
          .header ('(' :: '?' :: '#' :: (comment ++ [')']) ++ leadingColon u) none :=
        readHeader_eq size
      rw [← front, hk] at header
      subst header
      have text : ('(' :: '?' :: '#' :: (comment ++ [')']) ++ leadingColon u) ++ v =
          '(' :: '?' :: '#' :: (comment ++ ')' :: (leadingColon u ++ v)) := by simp
      rw [Token.written, text] at hu ha
      exact keeps_front (isSpelled_comment hn hs hu ha) u
  · left
    have plain : ∀ f ∈ [['(', '?'], ['(', '?', 'P', '<'], ['(', '?', '<']],
        ∀ c ∈ f, c ≠ '\\' ∧ c ≠ '[' := by decide
    rw [← hk, hk']
    exact keeps_front (isSpelled_chars (plain front hfront)) u
  · left
    rw [hk] at hk'
    subst hk'
    have bare : st.mode.IsBare := by
      rw [Token.written] at hu
      exact hs.resolve_right (hu.here (by decide))
    exact keeps_named hfront (named_of_header hn bare ha) u

/-- A token leaves as many parentheses open as what it becomes, unless it takes all that is left. -/
theorem keeps_first (hk : Token.first c r = k) (hg : IsGuard g) (hs : st.mode.Classless)
    (hu : Uncommented st (k.written g ++ v)) (ha : Accepts st (k.written g ++ v)) :
    Keeps g k ∨ (k.text = c :: r ∧ k.written g = k.text) := by
  by_cases closed : k.IsClosed
  · cases k with
    | escape d =>
      have piece : (Piece.escape d).IsClosed := closed
      exact .inl (.of_same rfl piece.isSpelled)
    | param p =>
      have own : ∀ t, p.capture = some t → IsGroup t := fun t ht =>
        capture_readParam (readParam_of_first hk ▸ ht)
      exact .inl (.of_matched (isMatched_text (word_of_first hk) own) (isMatched_written hg own))
    | dot => exact .inl (.of_matched (isMatched_chars (by decide)) (isMatched_escape '.'))
    | star =>
      have any : IsMatched ['.', '*'] := isMatched_chars (by decide)
      exact .inl (.of_matched (isMatched_chars (by decide)) any.group.isMatched)
    | slashGroup =>
      have slash : IsMatched ['/'] := isMatched_chars (by decide)
      have mark : IsMatched ['?', ':'] := isMatched_chars (by decide)
      obtain ⟨h1, h2⟩ := rise_between slash isMatched_nil
      obtain ⟨h3, h4⟩ := rise_between slash mark
      exact .inl ⟨h1, h3, h2.trans h4.symm⟩
    | header source name =>
      obtain ⟨s, hr, hh⟩ := readHeader_of_first hk
      rw [hr] at hh ⊢
      exact keeps_header hh hs hu ha
    | charClass source =>
      have piece : (Piece.charClass source).IsClosed := closed
      exact .inl (.of_same rfl piece.isSpelled)
    | literal d =>
      refine .inl (.of_same rfl (isSpelled_chars fun e he => ?_))
      obtain rfl := List.mem_singleton.1 he
      exact plain_literal hk
  · subst hk
    rcases open_first closed with ⟨h, rfl, rfl⟩ | ⟨h, rfl, -⟩ <;> exact .inr (h ▸ ⟨rfl, rfl⟩)

theorem Keeps.ne_lone (h : Keeps g k) : k ≠ .escape none := by
  rintro rfl
  obtain ⟨ps, closed, text⟩ := h.text
  have pieces := pieces_spell closed
  rw [text, show (Token.escape none).text = ['\\'] from rfl, Scan.pieces] at pieces
  have last := closed (.escape none) (by rw [← pieces]; simp)
  cases last

/-! ## Open groups -/

/-- Where a text leaves a group open, nothing is accepted that goes on with matching parentheses and
closes no class. -/
theorem not_accepts_unclosed (hw : Unclosed d w) (hd : d ≤ st.depth) (hs : st.mode.Classless)
    (hu : Uncommented st (w ++ e)) (he : IsMatched e) (hset : ']' ∉ e)
    (hb : symbols? w = none → IsMatched e.tail) : ¬ Accepts st (w ++ e) := by
  intro ha
  rcases spelled_or_open w with spelled | ⟨t, rest, rfl, spelled, lone | ⟨r, hr, open_⟩⟩
  · obtain ⟨nx, -, h1, h2, h3, h4⟩ := rises_spelled spelled hs hu ha
    rw [← List.append_nil w] at hw
    have deep := (hw.append spelled (by simp)).1
    exact not_accepts_deep he.isSpelled he.rise h1 h3 (by omega) h4
  · subst lone
    rw [List.append_assoc] at hu ha
    obtain ⟨nx, reads, h1, h2, h3, h4⟩ := rises_spelled spelled hs hu ha
    have deep := (hw.append spelled fun _ => by decide).1
    obtain ⟨ys, hy, -⟩ := reads_iff.1 reads
    have tail : IsMatched e.tail := hb (by rw [symbols?_append hy]; rfl)
    cases e with
    | nil => exact not_accepts_backslash h4
    | cons c e =>
      have escape := (isMatched_escape c).append tail
      exact not_accepts_deep (t := '\\' :: c :: e) escape.isSpelled escape.rise h1 h3 (by omega) h4
  · subst hr
    rw [List.append_assoc] at hu ha
    obtain ⟨nx, -, h1, -, h3, h4⟩ := rises_spelled spelled hs hu ha
    have bare : nx.mode.IsBare := h1.resolve_right (h3.here (by decide))
    obtain ⟨s, hx, ha⟩ := (accepts_plain (by decide)).1 h4
    rcases set_of_step bare hx with spoilt | ⟨i, hm⟩
    · exact not_accepts_spoilt spoilt _ ha
    · refine not_accepts_open (by rw [hm]; rfl) ?_ ha
      rw [hm]
      exact classExtent?_append_none open_ hset

theorem text_first_append (c : Char) (r : Text) :
    c :: r = (Token.first c r).text ++ (c :: r).drop (Token.first c r).size :=
  (List.prefix_iff_eq_append.1 (Token.text_first_isPrefix c r)).symm

/-- The same where the rest of a template leaves a group open. -/
theorem not_accepts_tokens (ht : Unclosed d t) (hg : IsGuard g) (hd : d ≤ st.depth)
    (hs : st.mode.Classless) (hu : Uncommented st (writtenFrom g (tokens t) ++ e))
    (he : IsMatched e) (hset : ']' ∉ e)
    (hb : symbols? (writtenFrom g (tokens t)) = none → IsMatched e.tail) :
    ¬ Accepts st (writtenFrom g (tokens t) ++ e) := by
  fun_induction tokens t generalizing d g st with
  | case1 => exact not_accepts_unclosed ht hd hs hu he hset hb
  | case2 c r k =>
    rename_i ih
    intro ha
    have text : c :: r = k.text ++ (c :: r).drop k.size := text_first_append c r
    rw [writtenFrom, List.append_assoc] at hu ha
    rcases keeps_first (k := k) rfl hg hs hu ha with keeps | ⟨all, same⟩
    · obtain ⟨nx, reads, h1, h2, h3, h4⟩ := rises_spelled keeps.written hs hu ha
      rw [text] at ht
      have nonempty : k.text ≠ [] := by
        have := Token.size_first_pos c r
        exact List.length_pos_iff.1 this
      obtain ⟨-, rest⟩ := ht.append keeps.text fun h => absurd h nonempty
      have same : rise k.text = rise (k.written g) := keeps.rise
      refine ih rest (isGuard_guardAfter hg keeps.ne_lone) (by omega) h1 h3 (fun h => hb ?_) h4
      obtain ⟨ys, hy, -⟩ := reads_iff.1 reads
      rw [writtenFrom, symbols?_append hy, h]
      rfl
    · have rest : (c :: r).drop k.size = [] := by
        rw [Token.size, all, List.drop_length]
      rw [writtenFrom, rest, tokens, writtenFrom, List.append_nil, same, all] at hb
      rw [rest, tokens, writtenFrom, List.nil_append, same, all] at hu ha
      exact not_accepts_unclosed ht hd hs hu he hset hb ha

/-- What opens no group in a comment of an anchored expression opens none behind its first anchor. -/
theorem uncommented_begun (h : Uncommented (start o.flags) (o.anchored w)) :
    Uncommented (begun o.flags) (w ++ o.ending (endsInSlash w)) := by
  rw [anchored_ending] at h
  exact h.rest (t := ['^']) (.plain (by decide) (step_start rfl) (.done _))

theorem accepts_begun {q : Pattern} (h : Pattern.read o.flags (o.anchored w) = .ok q) :
    Accepts (begun o.flags) (w ++ o.ending (endsInSlash w)) := by
  have ha := accepts_of_read h
  rwa [anchored_ending, accepts_start rfl] at ha

/-- Tokens that are not the last ones are read, and lead to no class. -/
theorem reads_tokens {as bs : List Token} (ht : tokens t = as ++ bs) (hbs : bs ≠ [])
    (hg : IsGuard g) (hs : st.mode.Classless) (hu : Uncommented st (writtenFrom g as ++ v))
    (ha : Accepts st (writtenFrom g as ++ v)) :
    ∃ nx, Reads st (writtenFrom g as) nx ∧ nx.mode.Classless ∧ Uncommented nx v ∧ Accepts nx v ∧
      IsGuard (guardFrom g as) := by
  induction as generalizing t g st with
  | nil => exact ⟨st, .done st, hs, hu, ha, hg⟩
  | cons k as ih =>
    cases t with
    | nil => simp [tokens] at ht
    | cons c r =>
      rw [tokens] at ht
      obtain ⟨hk, ht⟩ := List.cons.inj ht
      rw [hk] at ht
      rw [writtenFrom, List.append_assoc] at hu ha
      rcases keeps_first hk hg hs hu ha with keeps | ⟨all, -⟩
      · obtain ⟨nx, h1, h2, -, h3, h4⟩ := rises_spelled keeps.written hs hu ha
        obtain ⟨s, i1, i2⟩ := ih ht (isGuard_guardAfter hg keeps.ne_lone) h2 h3 h4
        exact ⟨s, h1.append i1, i2⟩
      · rw [Token.size, all, List.drop_length, tokens] at ht
        exact absurd (List.append_eq_nil_iff.1 ht.symm).2 hbs

/-! ## Templates -/

/-- A parenthesis that is never closed does not belong to the parameter in front of it. -/
theorem text_of_unclosed {as bs : List Token} (ht : tokens t = as ++ .param p :: bs)
    (text : t = as.flatMap Token.text ++ (p.toParamName.text ++ '(' :: u))
    (unclosed : groupSize? ('(' :: u) = none) :
    p.text = p.toParamName.text ∧ bs.flatMap Token.text = '(' :: u := by
  have rest : (Token.param p :: bs).flatMap Token.text = p.toParamName.text ++ '(' :: u := by
    have whole := text_tokens t
    rw [ht, List.flatMap_append, text] at whole
    exact List.append_cancel_left whole
  obtain ⟨c, r, hr, first, -⟩ := first_of_tokens ht
  have read := readParam_of_first first
  rw [← hr, rest, List.drop_left] at read
  have none : p.capture = none ∧ p.marks = ⟨false, false⟩ := by
    rw [read]
    simp [Token.readParam, unclosed, Modifiers.read]
  have own : p.text = p.toParamName.text := by
    simp [Param.text, none, Modifiers.text]
  rw [List.flatMap_cons, show (Token.param p).text = p.text from rfl, own] at rest
  exact ⟨own, List.append_cancel_left rest⟩

/-- A template is refused if a parenthesis behind the name of a parameter opens a group that is never
closed. For that, no parenthesis or bracket may stand in a comment of the expression, and the end
may not complete a lone backslash to an escaped parenthesis. -/
theorem compile_unterminated {as bs : List Token} (ht : tokens t = as ++ .param p :: bs)
    (text : t = as.flatMap Token.text ++ (p.toParamName.text ++ '(' :: u))
    (unclosed : groupSize? ('(' :: u) = none)
    (hc : Uncommented (start o.flags) (o.anchored (draft t).source))
    (hb : symbols? (draft t).source = none → o.strict = true → o.toEnd = true) (q : Progress) :
    ∃ e, compile o (.template t) q =
      (.error (.ofError (o.anchored (draft t).source) e),
        q.collect (draft t).source (draft t).named) := by
  rw [compile, compileTemplate, Progress.conclude]
  cases hq : Pattern.read o.flags (o.anchored (draft t).source) with
  | error e => exact ⟨e, rfl⟩
  | ok x =>
    exfalso
    have ha := accepts_begun hq
    have hc := uncommented_begun hc
    -- the tokens up to the name of the parameter, and those from the parenthesis on
    have behind := (text_of_unclosed ht text unclosed).2
    have nonempty : bs ≠ [] := by
      rintro rfl
      cases behind
    have split : tokens t = (as ++ [.param p]) ++ bs := by rw [ht, List.append_assoc]; rfl
    have rest : tokens ('(' :: u) = bs := behind ▸ tokens_rest split
    have source : (draft t).source = writtenFrom [] (as ++ [.param p]) ++
        writtenFrom (guardFrom [] (as ++ [.param p])) (tokens ('(' :: u)) := by
      rw [source_draft, split, writtenFrom_append, rest]
    rw [source, List.append_assoc] at hc ha
    have bare : (begun o.flags).mode.Classless := .inl trivial
    obtain ⟨nx, reads, h1, h2, h3, h4⟩ := reads_tokens split nonempty isGuard_nil bare hc ha
    have open_ : Unclosed 0 ('(' :: u) := ⟨unclosed, .inr ⟨rfl, rfl⟩⟩
    refine not_accepts_tokens open_ h4 (Int.natCast_nonneg _) h1 h2 (isMatched_ending o _)
      (not_mem_endings (by decide) (ending_mem o _)) (fun lone => isMatched_tail (hb ?_) _) h3
    obtain ⟨ys, hy, -⟩ := reads_iff.1 reads
    rw [source, symbols?_append hy, lone]
    rfl

theorem compile_unterminated_param :
    ∃ e, compile {} (.template "/:id(a".toList) {} =
      (.error (.ofError "^(?:/([^/]+?))(a/?$".toList e),
        Progress.collect {} "(?:/([^/]+?))(a".toList
          [(4, ⟨.text "id".toList, false, 4⟩)]) := by
  have row : tokens "/:id(a".toList = [] ++ .param ⟨⟨true, false, "id".toList⟩, none, ⟨false, false⟩⟩ ::
      [.literal '(', .literal 'a'] := by
    decide +kernel
  have open_ : groupSize? "(a".toList = none := by decide +kernel
  have source : (draft "/:id(a".toList).source = "(?:/([^/]+?))(a".toList := by decide +kernel
  have named : (draft "/:id(a".toList).named = [(4, ⟨.text "id".toList, false, 4⟩)] := by
    decide +kernel
  have anchored : Options.anchored {} "(?:/([^/]+?))(a".toList = "^(?:/([^/]+?))(a/?$".toList := by
    decide +kernel
  obtain ⟨e, h⟩ := compile_unterminated (o := {}) row rfl open_
    (by
      rw [source, anchored]
      exact uncommented_of_not_mem (by decide) id)
    (fun _ _ => rfl) {}
  rw [source, named, anchored] at h
  exact ⟨e, h⟩

/-- In a comment behind the parenthesis another one is hidden from the reader, so that what closes the
comment for the one closes the group for the other. -/
theorem comment_hides_group :
    groupSize? "(?#(x)".toList = none ∧
      ((compile {} (.template "/:id(?#(x)".toList) {}).1.toOption.map (·.source)) =
        some "^(?:/([^/]+?))(?#(x)/?$".toList := by
  constructor <;> decide +kernel

/-- The parenthesis that opens behind a lone backslash is a character, and the one behind it closes the
group. -/
example :
    groupSize? "(a\\".toList = none ∧
      ((compile { strict := true, toEnd := false } (.template "/:id(a\\".toList) {}).1.toOption.map
        (·.source)) = some "^(?:/([^/]+?))(a\\(?:/|$)".toList := by
  constructor <;> decide +kernel

end RoutePattern
