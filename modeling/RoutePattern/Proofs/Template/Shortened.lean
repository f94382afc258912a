import RoutePattern.Proofs.Headers
import RoutePattern.Proofs.Placement
import RoutePattern.Proofs.Scan.Shortened
import RoutePattern.Proofs.Template.Closing

/-! # Templates with short headers

Where headers of named groups are shortened, a template has the same tokens, with short headers.

* `Token.Shortened k k'`: the header that the token is, or some of those in the group of the parameter
  that it is, are short.
* `read?_shortened`, `readParam_shortened`, `readHeader_shortened`: what a token starts with does not
  depend on short headers behind it. `first_shortened`: so it is with the first token.
* `tokens_shortened`: so it is with all tokens.
-/

namespace RoutePattern

open Scan

/-- The token `k'` is `k` with short headers: its own, or some of those in its capture group. -/
inductive Token.Shortened : Token → Token → Prop
  | same (k : Token) : Shortened k k
  | header {name colon : Text} : IsShortable name →
      Shortened (.header (longHeader name ++ colon) (some name))
        (.header (shortHeader name ++ colon) (some name))
  | capture {p : Param} {capture : Text} {qs : List Piece} : p.capture = some capture →
      ShortenedRow (pieces capture) qs →
      Shortened (.param p) (.param { p with capture := some (spell qs) })

variable {c : Char} {a b r t u v w : Text} {k k' : Token} {ks ls : List Token} {p : Param}

theorem Token.Shortened.text (h : k.Shortened k') : Scan.Shortened k.text k'.text := by
  cases h with
  | same => exact .refl _
  | header _ => exact (shortened_header _).append (.refl _)
  | @capture p capture qs own row =>
    have inner := row.text
    rw [spell, text_pieces] at inner
    have whole := ((Scan.Shortened.refl p.toParamName.text).append inner).append
      (.refl p.marks.text)
    rw [Token.text, Token.text, Param.text, Param.text, own]
    exact whole

theorem shortened_texts (h : List.Forall₂ Token.Shortened ks ls) :
    Scan.Shortened (ks.flatMap Token.text) (ls.flatMap Token.text) := by
  induction h with
  | nil => exact .nil
  | cons first _ ih =>
    rw [List.flatMap_cons, List.flatMap_cons]
    exact first.text.append ih

/-! ## Parameters -/

theorem readWord?_shortened (h : Scan.Shortened t u) (slash format : Bool) :
    ParamName.readWord? slash format t = ParamName.readWord? slash format u := by
  cases h with
  | nil => rfl
  | name h => rfl
  | @cons c t u h =>
    by_cases colon : c = ':'
    · subst colon
      have word := h.takeWhile_eq (f := Text.isWord) (by decide)
      simp only [ParamName.readWord?, word]
    · rw [ParamName.readWord?.eq_2 _ _ _ (by simp [colon]),
        ParamName.readWord?.eq_2 _ _ _ (by simp [colon])]

/-- The name of a parameter ends before the next header. -/
theorem read?_shortened (h : Scan.Shortened t u) : ParamName.read? t = ParamName.read? u := by
  have bare : ∀ {d : Char} {v : Text}, d ≠ '/' → d ≠ '.' →
      ParamName.read? (d :: v) = ParamName.readWord? false false (d :: v) := by
    intro d v h1 h2
    rw [ParamName.read?] <;> simp [h1, h2]
  cases h with
  | nil => rfl
  | name h => rfl
  | @cons c t u h =>
    by_cases slash : c = '/'
    · subst slash
      cases h with
      | nil => rfl
      | name h => rfl
      | @cons d t u h =>
        by_cases dot : d = '.'
        · subst dot
          exact readWord?_shortened h true true
        · have read : ∀ v, ParamName.read? ('/' :: d :: v) =
              ParamName.readWord? true false (d :: v) := by
            intro v
            rw [ParamName.read?]
            simp [dot]
          rw [read, read]
          exact readWord?_shortened (.cons d h) true false
    · by_cases dot : c = '.'
      · subst dot
        exact readWord?_shortened h false true
      · rw [bare slash dot, bare slash dot]
        exact readWord?_shortened (.cons c h) false false

theorem readMarks_shortened (h : Scan.Shortened t u) : Modifiers.read t = Modifiers.read u := by
  cases h with
  | nil => rfl
  | name h => rfl
  | @cons c t u h =>
    by_cases star : c = '*'
    · subst star
      cases h with
      | nil => rfl
      | name h => rfl
      | @cons d t u h =>
        by_cases mark : d = '?'
        · subst mark
          rfl
        · rw [Modifiers.read.eq_2 _ (by simp [mark]), Modifiers.read.eq_2 _ (by simp [mark])]
    · by_cases mark : c = '?'
      · subst mark
        rfl
      · rw [Modifiers.read.eq_4 _ (by simp [star]) (by simp [star]) (by simp [mark]),
          Modifiers.read.eq_4 _ (by simp [star]) (by simp [star]) (by simp [mark])]

theorem readParam_own (hc : IsGroup t) (name : ParamName) (u : Text) :
    Token.readParam name (t ++ u) = { name with capture := some t, marks := .read u } := by
  have paren : (Token.readParam name (t ++ u)).capture =
      (groupSize? (t ++ u)).map (t ++ u).take := by
    obtain ⟨s, -, rfl⟩ := hc
    rfl
  have own : (Token.readParam name (t ++ u)).capture = some t := by
    rw [paren, hc.groupSize?, Option.map_some, List.take_left]
  have whole : Token.readParam name (t ++ u) =
      { name with
        capture := (Token.readParam name (t ++ u)).capture
        marks := .read ((t ++ u).drop ((Token.readParam name (t ++ u)).capture.getD []).length) } :=
    rfl
  rw [whole, own, Option.getD_some, List.drop_left]

/-- A name without a group of its own still has none. -/
theorem readParam_bare_shortened {name : ParamName} (h : Scan.Shortened a b)
    (none : (Token.readParam name a).capture = none) :
    Token.readParam name b = Token.readParam name a := by
  by_cases paren : a.head? = some '('
  · obtain ⟨s, rfl⟩ := List.head?_eq_some_iff.1 paren
    obtain ⟨s', rfl⟩ := List.head?_eq_some_iff.1 (h.head?_eq.symm.trans paren)
    have unclosed : groupSize? ('(' :: s) = Option.none := Option.map_eq_none_iff.1 none
    have unclosed' : groupSize? ('(' :: s') = Option.none := (h.closing 0).1 unclosed
    simp only [Token.readParam, unclosed, unclosed', Option.map_none, Option.getD_none,
      List.length_nil, List.drop_zero, readMarks_shortened h]
  · rw [readParam_bare paren, readParam_bare (h.head?_eq ▸ paren), readMarks_shortened h]

/-- A parameter where headers are shortened in its group and behind it. -/
theorem readParam_shortened (hk : (Token.param p).Shortened k')
    (hp : p = Token.readParam p.toParamName (p.capture.getD [] ++ (p.marks.text ++ v)))
    (hv : Scan.Shortened v w) :
    ∃ p', k' = .param p' ∧ p'.toParamName = p.toParamName ∧
      p' = Token.readParam p.toParamName (p'.capture.getD [] ++ (p'.marks.text ++ w)) := by
  have marked : Scan.Shortened (p.marks.text ++ v) (p.marks.text ++ w) :=
    (Scan.Shortened.refl _).append hv
  -- a group of its own, and what it is read as with other text behind it
  have own : ∀ {t t'}, p.capture = some t → (IsGroup t → IsGroup t') →
      { p with capture := some t' } =
        Token.readParam p.toParamName (t' ++ (p.marks.text ++ w)) := by
    intro t t' ht group
    rw [ht, Option.getD_some] at hp
    have hc : IsGroup t := capture_readParam (hp ▸ ht)
    rw [readParam_own hc] at hp
    have marks : p.marks = Modifiers.read (p.marks.text ++ v) := congrArg Param.marks hp
    rw [readParam_own (group hc), ← readMarks_shortened marked, ← marks]
  cases hk with
  | same =>
    refine ⟨p, rfl, rfl, ?_⟩
    cases ht : p.capture with
    | none =>
      rw [ht, Option.getD_none, List.nil_append] at hp
      rw [Option.getD_none, List.nil_append, readParam_bare_shortened marked (hp ▸ ht), ← hp]
    | some t =>
      have read := own ht id
      rw [Option.getD_some, ← read, ← ht]
  | @capture _ t qs ht row =>
    exact ⟨_, rfl, rfl, own ht fun hc => (hc.shortened row).1⟩

/-! ## Headers -/

/-- A header where others behind it are shortened. -/
theorem readHeader_shortened {front : Text} {o : Opening}
    (h : Header.read ('(' :: '?' :: (front ++ a)) = ⟨o, 2 + front.length⟩) (ha : Scan.Shortened a b) :
    Token.readHeader ('(' :: '?' :: (front ++ b)) =
      .header ('(' :: '?' :: (front ++ leadingColon a)) o.name? := by
  have read : Header.read (('(' :: '?' :: front) ++ b) = ⟨o, ('(' :: '?' :: front).length⟩ := by
    have short := Header.read_shortened h ha
    rw [Nat.add_comm] at short
    exact short
  have colon : leadingColon a = leadingColon b := by
    rw [leadingColon, leadingColon, ha.head?_eq]
  rw [colon]
  exact readHeader_eq read

/-- The header of a group, up to the end of a name or of a comment. -/
theorem exists_header (r : Text) :
    ∃ front a o, r = front ++ a ∧
      Header.read ('(' :: '?' :: r) = ⟨o, 2 + front.length⟩ := by
  have le := Header.read_size_le ('?' :: r)
  have least : 2 ≤ (Header.read ('(' :: '?' :: r)).size := by
    obtain ⟨s, rfl⟩ | ⟨s, rfl, read⟩ | ⟨s, rfl, read⟩ | read := Header.read_cases r
    · have size := Header.le_readComment_size 3 s
      show 2 ≤ (Header.readComment 3 s).size
      omega
    · have size := Header.le_readName_size 4 s
      rw [read]
      omega
    · have size := Header.le_readName_size 3 s
      rw [read]
      omega
    · exact Nat.le_of_eq (congrArg Header.size read).symm
  generalize Header.read ('(' :: '?' :: r) = x at le least ⊢
  obtain ⟨o, n⟩ := x
  refine ⟨r.take (n - 2), r.drop (n - 2), o, (List.take_append_drop _ _).symm, ?_⟩
  congr 1
  rw [List.length_take]
  simp only [List.length_cons] at le least
  omega

/-- A header that stays as it is. -/
theorem header_same (hk : Token.readHeader ('(' :: '?' :: r) = k)
    (hr : '(' :: '?' :: r = k.text ++ v) (hv : Scan.Shortened v w) :
    ∃ s, k.text ++ w = '(' :: '?' :: s ∧ Token.readHeader ('(' :: '?' :: s) = k := by
  obtain ⟨front, a, o, rfl, read⟩ := exists_header r
  have own := readHeader_shortened read (.refl a)
  rw [hk] at own
  subst own
  have rest : a = leadingColon a ++ v := by simpa [Token.text] using hr
  have short : Scan.Shortened a (leadingColon a ++ w) := by
    conv => lhs; rw [rest]
    exact (Scan.Shortened.refl _).append hv
  exact ⟨front ++ (leadingColon a ++ w), by simp [Token.text], readHeader_shortened read short⟩

theorem read_longHeader {name : Text} (hn : '>' ∉ name) (u : Text) :
    Header.read (longHeader name ++ u) = ⟨.named name, (longHeader name).length⟩ := by
  have text : longHeader name ++ u = '(' :: '?' :: 'P' :: '<' :: (name ++ '>' :: u) := by
    simp [longHeader]
  rw [text]
  show Header.readName 4 _ = _
  rw [Header.readName, Text.cut?_of_not_mem hn]
  simp only [longHeader, List.length_append, List.length_cons, List.length_nil, Header.mk.injEq,
    true_and]
  omega

/-- A header that is shortened, with the colon behind it. -/
theorem header_short {name colon : Text} (hn : IsShortable name)
    (hk : Token.readHeader (longHeader name ++ (colon ++ v)) =
      .header (longHeader name ++ colon) (some name)) (hv : Scan.Shortened v w) :
    Token.readHeader (shortHeader name ++ (colon ++ w)) =
      .header (shortHeader name ++ colon) (some name) := by
  rw [readHeader_eq (read_longHeader hn.closed _)] at hk
  obtain ⟨text, -⟩ := Token.header.inj hk
  have same : leadingColon (colon ++ v) = colon := List.append_cancel_left text
  have same' : leadingColon (colon ++ w) = colon := by
    rw [leadingColon, ← ((Scan.Shortened.refl colon).append hv).head?_eq]
    exact same
  rw [readHeader_eq (Header.read_shortHeader hn _), same']
  rfl

/-! ## Tokens -/

/-- A token that is no parameter, and stays as it is. -/
theorem firstPlain_same (hk : Token.firstPlain c r = k) (hr : c :: r = k.text ++ v)
    (hv : Scan.Shortened v w) : ∃ s, k.text ++ w = c :: s ∧ Token.firstPlain c s = k := by
  unfold Token.firstPlain at hk
  split at hk
  · subst hk
    obtain rfl : v = [] := (List.cons.inj hr).2.symm
    exact ⟨[], by rw [hv.nil_right]; rfl, rfl⟩
  · subst hk
    exact ⟨_, rfl, rfl⟩
  · subst hk
    exact ⟨w, rfl, rfl⟩
  · subst hk
    exact ⟨w, rfl, rfl⟩
  · next tail =>
    subst hk
    obtain rfl : '(' :: '?' :: tail = v := (List.cons.inj hr).2
    obtain ⟨u, rfl⟩ : ∃ u, w = '(' :: '?' :: u := by
      refine ⟨w.drop 2, ?_⟩
      rw [← List.take_append_drop 2 w, ← hv.take_two]
      rfl
    exact ⟨_, rfl, rfl⟩
  · next tail mark =>
    subst hk
    obtain rfl : tail = v := (List.cons.inj (List.cons.inj hr).2).2
    refine ⟨'(' :: w, rfl, Token.firstPlain.eq_6 w fun u hu => ?_⟩
    have head := hv.head?_eq
    rw [hu] at head
    obtain ⟨t, ht⟩ := List.head?_eq_some_iff.1 head
    exact mark t ht
  · obtain ⟨s, text, read⟩ := header_same hk hr hv
    exact ⟨'?' :: s, text, read⟩
  · subst hk
    obtain closed | ⟨whole, -⟩ := class_cases r
    · have ⟨s, hs, _⟩ := closed
      refine ⟨s ++ w, by rw [Token.text, hs]; rfl, ?_⟩
      rw [Token.firstPlain.eq_8, ← List.cons_append, ← hs, classSize_append closed, List.take_left]
    · rw [Token.text, whole] at hr ⊢
      obtain rfl : v = [] := by simpa using hr
      exact ⟨r, by rw [hv.nil_right, List.append_nil], by rw [Token.firstPlain.eq_8, whole]⟩
  · next dot star bracket lone pair outer slash header =>
    subst hk
    obtain rfl : r = v := (List.cons.inj hr).2
    have backslash : c ≠ '\\' := Text.ne_backslash lone pair
    have head : ∀ {d u}, w = d :: u → ∃ t, r = d :: t := by
      intro d u hu
      exact List.head?_eq_some_iff.1 (hv.head?_eq.trans (hu ▸ rfl))
    refine ⟨w, rfl, Token.firstPlain.eq_9 _ _ dot star bracket
      (fun hc _ => backslash hc) (fun _ _ hc _ => backslash hc) ?_ ?_ ?_⟩
    · intro u hc hu
      obtain ⟨t, ht⟩ := head hu
      exact slash t hc ht
    · intro u hc hu
      obtain ⟨t, ht⟩ := head hu
      exact slash t hc ht
    · intro u hc hu
      obtain ⟨t, ht⟩ := head hu
      exact header t hc ht

theorem firstPlain_ne_param : Token.firstPlain c r ≠ .param p := by
  intro h
  unfold Token.firstPlain at h
  split at h <;> cases h

theorem firstPlain_shortened (hk : Token.firstPlain c r = k) (hr : c :: r = k.text ++ v)
    (hk' : k.Shortened k') (hv : Scan.Shortened v w) :
    ∃ s, k'.text ++ w = c :: s ∧ Token.firstPlain c s = k' := by
  cases hk' with
  | same => exact firstPlain_same hk hr hv
  | @header name colon hn =>
    obtain ⟨rfl, rfl⟩ := List.cons.inj hr
    have read : Token.readHeader (longHeader name ++ (colon ++ v)) =
        .header (longHeader name ++ colon) (some name) := by
      rw [← List.append_assoc]
      exact hk
    have short := header_short hn read hv
    rw [← List.append_assoc] at short
    exact ⟨_, rfl, short⟩
  | capture _ _ => exact absurd hk firstPlain_ne_param

/-- The first token is the same, with short headers, where it is shortened and what follows it. -/
theorem first_shortened (hk : Token.first c r = k) (hr : c :: r = k.text ++ v)
    (hk' : k.Shortened k') (hv : Scan.Shortened v w) :
    ∃ s, k'.text ++ w = c :: s ∧ Token.first c s = k' := by
  have whole : Scan.Shortened (c :: r) (k'.text ++ w) := hr ▸ hk'.text.append hv
  have named := read?_shortened whole
  cases hn : ParamName.read? (c :: r) with
  | none =>
    rw [Token.first, hn] at hk
    obtain ⟨s, text, first⟩ := firstPlain_shortened hk hr hk' hv
    rw [text, hn] at named
    exact ⟨s, text, by rw [Token.first, ← named]; exact first⟩
  | some name =>
    rw [Token.first, hn] at hk
    dsimp only at hk
    subst hk
    generalize hp : Token.readParam name ((c :: r).drop name.text.length) = p at hr hk'
    obtain rfl : name = p.toParamName := congrArg Param.toParamName hp
    have parts : ∀ (q : Param) (u : Text), q.text ++ u =
        q.toParamName.text ++ (q.capture.getD [] ++ (q.marks.text ++ u)) := by
      intro q u
      simp [Param.text]
    rw [hr, Token.text, parts, List.drop_left] at hp
    obtain ⟨p', rfl, same, read⟩ := readParam_shortened hk' hp.symm hv
    obtain ⟨s, hs⟩ := List.head?_eq_some_iff.1 whole.head?_eq.symm
    refine ⟨s, hs, ?_⟩
    rw [hs, hn] at named
    rw [Token.first, ← named]
    dsimp only
    rw [← hs, Token.text, parts, same, List.drop_left, ← read]

/-- The tokens of a template are the same, with short headers, where it is shortened. -/
theorem tokens_shortened (h : List.Forall₂ Token.Shortened (tokens t) ls) :
    tokens (ls.flatMap Token.text) = ls := by
  fun_induction tokens t generalizing ls with
  | case1 =>
    cases h
    exact (tokens.eq_1)
  | case2 c r k =>
    rename_i ih
    cases h with
    | @cons _ k' _ ls first rest =>
      have behind := shortened_texts rest
      rw [text_tokens] at behind
      have text : c :: r = k.text ++ (c :: r).drop k.size :=
        (List.prefix_iff_eq_append.1 (Token.text_first_isPrefix c r)).symm
      obtain ⟨s, hs, first⟩ := first_shortened rfl text first behind
      rw [List.flatMap_cons, hs, tokens_first first hs.symm, ih rest]

end RoutePattern
