import RoutePattern.Proofs.Template.Reading

/-! # Plain templates

A plain template has none of the syntax of regular expressions that groups, sets, escapes and counts
are made of: it is a row of characters, parameters and stars.

* `IsPlain`: the characters of a template that is plain.
* `calls`: what such a template asks keys for, `called`: the names that it asks for.
* `Token.IsPlain`, `plain_tokens`: its tokens, and what each asks keys for.
-/

namespace RoutePattern

/-- The marks that a plain template does not have, but for a question mark behind a parameter. -/
def syntaxMarks : List Char := ['\\', '(', ')', '[', '\x7b', '+', '?']

/-- The template has none of the marks, but that one question mark may stand directly behind a
parameter and its star. -/
inductive IsPlain : Text → Prop
  | nil : IsPlain []
  | char {c : Char} {t : Text} : c ∉ syntaxMarks → IsPlain t → IsPlain (c :: t)
  | optional {name t : Text} (star : Bool) : name ≠ [] → (∀ c ∈ name, Text.isWord c) → IsPlain t →
      IsPlain (':' :: (name ++ (Modifiers.text ⟨star, true⟩ ++ t)))

/-! ## What a template asks keys for -/

/-- What a template asks a key for: a parameter, which may be absent if it has a mark, or a star. -/
inductive Call
  | param (name : Text) (optional : Bool)
  | star
  deriving DecidableEq, Repr

/-- The parameter behind a colon. -/
def paramCall? (t : Text) : Option Call :=
  let name := t.takeWhile Text.isWord
  if name.isEmpty then none
  else some (.param name (Modifiers.read (t.dropWhile Text.isWord)).optional)

/-- What a plain template asks keys for, from left to right: every parameter and every star, also
one that belongs to a parameter. -/
def calls : Text → List Call
  | [] => []
  | c :: r =>
    (if c = ':' then (paramCall? r).toList else if c = '*' then [.star] else []) ++ calls r

/-- The names of the keys that are asked for, and whether their groups may be missing; stars are
numbered from `n` on. -/
def called (n : Int) : List Call → List (KeyName × Bool)
  | [] => []
  | .param name optional :: cs => (.text name, optional) :: called n cs
  | .star :: cs => (.number n, false) :: called (n + 1) cs

/-! ## Characters -/

theorem IsPlain.tail {c : Char} {t : Text} (h : IsPlain (c :: t)) (hc : c ≠ ':') :
    c ∉ syntaxMarks ∧ IsPlain t := by
  cases h with
  | char marks plain => exact ⟨marks, plain⟩
  | optional => exact absurd rfl hc

/-- A character that is in no word is none of one. -/
theorem ne_of_isWord {c d : Char} (hc : Text.isWord c) (hd : Text.isWord d = false) : c ≠ d := by
  rintro rfl
  rw [hc] at hd
  cases hd

theorem IsPlain.behind_word {u t : Text} (hu : ∀ c ∈ u, Text.isWord c) (h : IsPlain (u ++ t)) :
    IsPlain t := by
  induction u with
  | nil => exact h
  | cons c u ih =>
    have colon : c ≠ ':' := ne_of_isWord (hu c (by simp)) (by decide)
    exact ih (fun d hd => hu d (by simp [hd])) (h.tail colon).2

theorem IsPlain.colon {u : Text} (h : IsPlain (':' :: u)) :
    IsPlain u ∨ ∃ star name t, u = name ++ (Modifiers.text ⟨star, true⟩ ++ t) ∧ name ≠ [] ∧
      (∀ c ∈ name, Text.isWord c) ∧ IsPlain t := by
  generalize hv : ':' :: u = v at h
  cases h with
  | nil => cases hv
  | char _ plain => exact .inl ((List.cons.inj hv).2 ▸ plain)
  | optional star nonempty word plain =>
    exact .inr ⟨star, _, _, (List.cons.inj hv).2, nonempty, word, plain⟩

/-- None of the marks is the first character. -/
theorem IsPlain.head?_ne {c : Char} {t : Text} (h : IsPlain t) (hc : c ∈ syntaxMarks) :
    t.head? ≠ some c := by
  cases t with
  | nil => simp
  | cons d t =>
    intro he
    obtain rfl : d = c := by simpa using he
    have colon : d ≠ ':' := by rintro rfl; exact absurd hc (by decide)
    exact (h.tail colon).1 hc

theorem read_star {t : Text} (h : t.head? ≠ some '?') :
    Modifiers.read ('*' :: t) = ⟨true, false⟩ := by
  unfold Modifiers.read
  split <;> simp_all

theorem read_bare {t : Text} (h1 : t.head? ≠ some '*') (h2 : t.head? ≠ some '?') :
    Modifiers.read t = ⟨false, false⟩ := by
  unfold Modifiers.read
  split <;> simp_all

theorem read_text (star : Bool) (t : Text) :
    Modifiers.read (Modifiers.text ⟨star, true⟩ ++ t) = ⟨star, true⟩ := by
  cases star <;> rfl

theorem takeWhile_dropWhile (test : Char → Bool) (t : Text) :
    (t.dropWhile test).takeWhile test = [] := by
  induction t with
  | nil => rfl
  | cons c t ih =>
    by_cases hc : test c = true
    · rwa [List.dropWhile_cons_of_pos hc]
    · rw [List.dropWhile_cons_of_neg hc, List.takeWhile_cons_of_neg hc]

/-- Behind the name of a parameter stand its marks, and what is left is plain. -/
theorem IsPlain.behind_name {name r : Text} (hw : ∀ c ∈ name, Text.isWord c)
    (hr : r.takeWhile Text.isWord = []) (h : IsPlain (':' :: (name ++ r))) :
    r.head? ≠ some '(' ∧ ∃ t, r = (Modifiers.read r).text ++ t ∧ IsPlain t := by
  rcases h.colon with plain | ⟨star, name', t, he, -, hw', plain⟩
  · have plain := plain.behind_word hw
    refine ⟨plain.head?_ne (by decide), ?_⟩
    cases r with
    | nil => exact ⟨[], rfl, plain⟩
    | cons c r =>
      by_cases star : c = '*'
      · subst star
        have rest := (plain.tail (by decide)).2
        rw [read_star (rest.head?_ne (by decide))]
        exact ⟨r, rfl, rest⟩
      · rw [read_bare (by simpa using star) (plain.head?_ne (by decide))]
        exact ⟨c :: r, rfl, plain⟩
  · have stops : (Modifiers.text ⟨star, true⟩ ++ t).takeWhile Text.isWord = [] := by
      have word : ∀ c ∈ ['*', '?'], Text.isWord c = false := by decide
      cases star <;> simp [Modifiers.text, word]
    have names := congrArg (List.takeWhile Text.isWord) he
    rw [takeWhile_word hw hr, takeWhile_word hw' stops] at names
    subst names
    obtain rfl := List.append_cancel_left he
    refine ⟨by cases star <;> simp [Modifiers.text], t, ?_, plain⟩
    rw [read_text]

/-! ## Tokens -/

/-- The name of a parameter stands behind a colon, and takes all characters of words that follow. -/
theorem read?_eq_some {t : Text} {p : ParamName} (h : ParamName.read? t = some p) :
    ∃ r, t = p.text ++ r ∧ r.takeWhile Text.isWord = [] := by
  have text : ∀ {s f : Bool} {u : Text}, ParamName.readWord? s f u = some p →
      ∃ r, (if s then ['/'] else []) ++ (if f then ['.'] else []) ++ u = p.text ++ r ∧
        r.takeWhile Text.isWord = [] := by
    intro s f u h
    unfold ParamName.readWord? at h
    split at h
    · next v =>
      split at h
      · cases h
      · obtain rfl := Option.some.inj h
        refine ⟨v.dropWhile Text.isWord, ?_, takeWhile_dropWhile _ _⟩
        rw [ParamName.text, List.append_assoc _ (':' :: _), List.cons_append,
          List.takeWhile_append_dropWhile]
    · cases h
  unfold ParamName.read? at h
  split at h <;> exact text h

namespace Token

/-- A token of a plain template. -/
def IsPlain : Token → Prop
  | param p => p.capture = none
  | dot => True
  | star => True
  | literal c => c ∉ syntaxMarks ∧ c ≠ '.' ∧ c ≠ '*'
  | _ => False

/-- What a token of a plain template asks keys for. -/
def calls : Token → List Call
  | param p => .param p.name p.marks.optional :: if p.marks.star then [.star] else []
  | star => [.star]
  | _ => []

end Token

theorem calls_word {u t : Text} (hu : ∀ c ∈ u, Text.isWord c) : calls (u ++ t) = calls t := by
  induction u with
  | nil => rfl
  | cons c u ih =>
    have colon : c ≠ ':' := ne_of_isWord (hu c (by simp)) (by decide)
    have star : c ≠ '*' := ne_of_isWord (hu c (by simp)) (by decide)
    rw [List.cons_append, calls, if_neg colon, if_neg star, List.nil_append]
    exact ih fun d hd => hu d (by simp [hd])

theorem calls_marks (m : Modifiers) (t : Text) :
    calls (m.text ++ t) = (if m.star then [.star] else []) ++ calls t := by
  obtain ⟨star, optional⟩ := m
  cases star <;> cases optional <;> rfl

/-- What stands in front of the colon of a parameter asks for nothing. -/
theorem IsPlain.name {p : ParamName} {r : Text} (h : IsPlain (p.text ++ r)) :
    IsPlain (':' :: (p.name ++ r)) ∧ calls (p.text ++ r) = calls (':' :: (p.name ++ r)) := by
  obtain ⟨slash, format, name⟩ := p
  cases slash <;> cases format
  · exact ⟨h, rfl⟩
  · exact ⟨(h.tail (by decide)).2, rfl⟩
  · exact ⟨(h.tail (by decide)).2, rfl⟩
  · exact ⟨((h.tail (by decide)).2.tail (by decide)).2, rfl⟩

/-- A parameter at the start of a plain template. -/
theorem IsPlain.param {t : Text} {name : ParamName} (h : IsPlain t)
    (hn : ParamName.read? t = some name) :
    ∃ p u, Token.readParam name (t.drop name.text.length) = p ∧ t = p.text ++ u ∧
      p.capture = none ∧ IsPlain u ∧ calls t = (Token.param p).calls ++ calls u := by
  obtain ⟨r, rfl, stops⟩ := read?_eq_some hn
  obtain ⟨word, nonempty⟩ := word_of_read? hn
  obtain ⟨colon, same⟩ := h.name
  obtain ⟨paren, u, hu, plain⟩ := colon.behind_name word stops
  rw [List.drop_left, readParam_bare paren]
  refine ⟨_, u, rfl, ?_, rfl, plain, ?_⟩
  · rw [Param.text, Option.getD_none, List.append_nil, List.append_assoc, ← hu]
  · have rest : r.dropWhile Text.isWord = r := by
      have whole := @List.takeWhile_append_dropWhile _ Text.isWord r
      rwa [stops] at whole
    have asked : paramCall? (name.name ++ r) =
        some (.param name.name (Modifiers.read r).optional) := by
      rw [paramCall?, takeWhile_word word stops, List.dropWhile_append_of_pos word, rest]
      simp [nonempty]
    have marks : calls r = (if (Modifiers.read r).star then [.star] else []) ++ calls u := by
      conv => lhs; rw [hu]
      exact calls_marks _ u
    rw [same, calls, if_pos rfl, asked, calls_word word, marks]
    rfl

/-- The first token of a plain template is plain, and so is what is left. -/
theorem IsPlain.first {c : Char} {r : Text} (h : IsPlain (c :: r)) :
    ∃ t, c :: r = (Token.first c r).text ++ t ∧ (Token.first c r).IsPlain ∧ IsPlain t ∧
      calls (c :: r) = (Token.first c r).calls ++ calls t := by
  unfold Token.first
  split
  · next name hn =>
    obtain ⟨p, t, hp, text, capture, plain, asked⟩ := h.param hn
    rw [hp]
    exact ⟨t, text, capture, plain, asked⟩
  · next hn =>
    by_cases colon : c = ':'
    · subst colon
      have bare : r.takeWhile Text.isWord = [] := by
        change ParamName.readWord? false false (':' :: r) = none at hn
        unfold ParamName.readWord? at hn
        by_cases empty : (r.takeWhile Text.isWord).isEmpty = true
        · exact List.isEmpty_iff.1 empty
        · simp [empty] at hn
      have asked : paramCall? r = none := by rw [paramCall?, bare]; rfl
      rcases h.colon with plain | ⟨star, name, t, rfl, nonempty, word, -⟩
      · refine ⟨r, rfl, ⟨by decide, by decide, by decide⟩, plain, ?_⟩
        rw [calls, if_pos rfl, asked]
        rfl
      · rw [List.takeWhile_append_of_pos word] at bare
        exact absurd (List.append_eq_nil_iff.1 bare).1 nonempty
    obtain ⟨marks, plain⟩ := h.tail colon
    have not : ∀ d ∈ syntaxMarks, c ≠ d := fun d hd he => marks (he ▸ hd)
    unfold Token.firstPlain
    split
    · exact absurd rfl (not _ (by decide))
    · exact absurd rfl (not _ (by decide))
    · exact ⟨r, rfl, trivial, plain, rfl⟩
    · exact ⟨r, rfl, trivial, plain, rfl⟩
    · exact absurd rfl (plain.head?_ne (by decide))
    · exact absurd rfl (plain.head?_ne (by decide))
    · exact absurd rfl (not _ (by decide))
    · exact absurd rfl (not _ (by decide))
    · next dot star _ _ _ _ _ _ =>
      refine ⟨r, rfl, ⟨marks, dot, star⟩, plain, ?_⟩
      rw [calls, if_neg colon, if_neg star]
      rfl

/-- All tokens of a plain template are plain, and they ask for the same keys as the template. -/
theorem plain_tokens {t : Text} (h : IsPlain t) :
    (∀ k ∈ tokens t, k.IsPlain) ∧ (tokens t).flatMap Token.calls = calls t := by
  induction t using tokens.induct with
  | case1 =>
    rw [tokens]
    exact ⟨by simp, rfl⟩
  | case2 c r k ih =>
    obtain ⟨t, text, first, plain, asked⟩ := h.first
    have rest : (c :: r).drop k.size = t := by
      rw [text]
      exact List.drop_left
    rw [rest] at ih
    obtain ⟨tokens_plain, tokens_asked⟩ := ih plain
    rw [tokens, rest]
    refine ⟨?_, ?_⟩
    · intro l hl
      rcases List.mem_cons.1 hl with rfl | hl
      · exact first
      · exact tokens_plain l hl
    · rw [List.flatMap_cons, tokens_asked, asked]

/-- A colon without a name is a character like others, and a star behind the mark of a parameter is
none of the parameter's. -/
example : calls "/:a*?::é?*".toList = [.param ['a'] true, .star, .param ['é'] true, .star] := by
  decide +kernel

end RoutePattern
