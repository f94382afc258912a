import RoutePattern.Proofs.Path.Reading
import RoutePattern.Proofs.Plain.Syntax
import RoutePattern.Proofs.Template.Continued

/-! # Templates in parts

Where a template goes on with a slash, it is drafted in two parts: no token goes on across the
slash, and the guard that the first part has left ends there.

* `first_append`, `tokens_append`: the tokens in front of a slash.
* `agree_slash`: behind a slash no guard counts.
* `draft_append`: the draft of a template in two parts.
-/

namespace RoutePattern

open Regex

variable {c : Char} {r t u v : Text}

/-! ## Tokens in front of a slash -/

theorem symbols?_of_not_mem (h : '\\' ∉ t) : symbols? t = some (t.map .plain) := by
  induction t with
  | nil => rfl
  | cons c t ih =>
    simp only [List.mem_cons, not_or] at h
    rw [symbols?_plain (Ne.symm h.1), ih h.2]
    rfl

theorem readWord?_append (slash format : Bool) (r v : Text) :
    ParamName.readWord? slash format (r ++ '/' :: v) = ParamName.readWord? slash format r := by
  have stops : ∀ s : Text, (s ++ '/' :: v).takeWhile Text.isWord = s.takeWhile Text.isWord := by
    intro s
    rw [List.takeWhile_append, List.takeWhile_cons_of_neg (by decide), List.append_nil]
    split
    · next h => exact ((List.takeWhile_prefix _).eq_of_length h).symm
    · rfl
  cases r with
  | nil => rfl
  | cons c r =>
    by_cases hc : c = ':'
    · subst hc
      simp only [List.cons_append, ParamName.readWord?, stops]
    · rw [readWord?_eq_none (by simpa using hc), readWord?_eq_none (by simpa using hc)]

theorem read?_append (c : Char) (r v : Text) :
    ParamName.read? (c :: (r ++ '/' :: v)) = ParamName.read? (c :: r) := by
  by_cases hs : c = '/'
  · subst hs
    cases r with
    | nil => rfl
    | cons d s =>
      by_cases hd : d = '.'
      · subst hd
        exact readWord?_append true true s v
      · have plain : ∀ u : Text, ParamName.read? ('/' :: d :: u) =
            ParamName.readWord? true false (d :: u) := by
          intro u
          rw [ParamName.read?.eq_2 _ fun _ h => hd (List.cons.inj h).1]
        rw [List.cons_append, plain, plain]
        exact readWord?_append true false (d :: s) v
  · by_cases hd : c = '.'
    · subst hd
      exact readWord?_append false true r v
    · have plain : ∀ u : Text, ParamName.read? (c :: u) =
          ParamName.readWord? false false (c :: u) := by
        intro u
        unfold ParamName.read?
        split <;> first | rfl | (exfalso; simp_all)
      rw [plain, plain]
      exact readWord?_append false false (c :: r) v

theorem read_append (r v : Text) : Modifiers.read (r ++ '/' :: v) = Modifiers.read r := by
  rcases r with _ | ⟨c, r⟩
  · rfl
  by_cases hs : c = '*'
  · subst hs
    rcases r with _ | ⟨d, r⟩
    · rfl
    by_cases hd : d = '?'
    · subst hd; rfl
    · rw [List.cons_append, read_star (by simpa using hd), read_star (by simpa using hd)]
  · by_cases hq : c = '?'
    · subst hq; rfl
    · rw [read_bare (by simpa using hs) (by simpa using hq),
        read_bare (by simpa using hs) (by simpa using hq)]

theorem first_append (paren : '(' ∉ c :: r) (bracket : '[' ∉ c :: r) (hc : c = '\\' → r ≠ []) :
    Token.first c (r ++ '/' :: v) = Token.first c r := by
  unfold Token.first
  rw [read?_append]
  cases hn : ParamName.read? (c :: r) with
  | some name =>
    obtain ⟨rest, hr⟩ := ParamName.text_isPrefix_of_read? hn
    have head : rest.head? ≠ some '(' := fun h =>
      paren (hr ▸ List.mem_append_right _ (List.mem_of_head? h))
    have head' : (rest ++ '/' :: v).head? ≠ some '(' := by
      cases rest with
      | nil => simp
      | cons d rest => simpa using head
    have drop : (c :: (r ++ '/' :: v)).drop name.text.length = rest ++ '/' :: v := by
      rw [← List.cons_append, ← hr, List.append_assoc, List.drop_left]
    dsimp only
    rw [drop, ← hr, List.drop_left, readParam_bare head, readParam_bare head', read_append]
  | none =>
    dsimp only
    by_cases hb : c = '\\'
    · subst hb
      obtain ⟨d, s, rfl⟩ := List.exists_cons_of_ne_nil (hc rfl)
      rfl
    by_cases hs : c = '*'
    · subst hs; rfl
    have plain : c ∉ ['\\', '*', '(', '['] := by
      simp only [List.mem_cons, not_or] at paren bracket
      simp [hb, hs, Ne.symm paren.1, Ne.symm bracket.1]
    rw [firstPlain_char plain, firstPlain_char plain]
    · rintro - h
      exact paren (List.mem_cons_of_mem _ (List.mem_of_head? h))
    · rintro - h
      cases r with
      | nil => simp at h
      | cons d r => exact paren (by simp_all)

/-- A token that starts with no backslash has none. -/
theorem plain_first (paren : '(' ∉ c :: r) (bracket : '[' ∉ c :: r) (hc : c ≠ '\\') :
    '\\' ∉ (Token.first c r).text := by
  unfold Token.first
  split
  · next name hn =>
    obtain ⟨rest, hr⟩ := ParamName.text_isPrefix_of_read? hn
    have head : rest.head? ≠ some '(' := fun h =>
      paren (hr ▸ List.mem_append_right _ (List.mem_of_head? h))
    have marks : ∀ m : Modifiers, '\\' ∉ m.text := by
      rintro ⟨star, optional⟩
      cases star <;> cases optional <;> decide
    have plain := (text_name (word_of_read? hn).1 .clear).1
    rw [← hr, List.drop_left, readParam_bare head]
    simp only [Token.text, Param.text, Option.getD_none, List.append_nil, List.mem_append, not_or]
    exact ⟨fun h => (plain _ h).1 rfl, marks _⟩
  · by_cases hs : c = '*'
    · subst hs; simp [Token.firstPlain, Token.text]
    have alone : c ∉ ['\\', '*', '(', '['] := by
      simp only [List.mem_cons, not_or] at paren bracket
      simp [hc, hs, Ne.symm paren.1, Ne.symm bracket.1]
    rw [firstPlain_char alone]
    · unfold Path.charToken
      split
      · decide
      · simpa [Token.text] using Ne.symm hc
    · rintro - h
      exact paren (List.mem_cons_of_mem _ (List.mem_of_head? h))

/-- A token takes whole symbols of a template without groups and classes. -/
theorem symbols?_behind_first (paren : '(' ∉ c :: r) (bracket : '[' ∉ c :: r)
    (h : (symbols? (c :: r)).isSome) :
    (symbols? ((c :: r).drop (Token.first c r).size)).isSome := by
  by_cases hb : c = '\\'
  · subst hb
    obtain ⟨d, s, rfl⟩ : ∃ d s, r = d :: s := by
      cases r with
      | nil => cases h
      | cons d s => exact ⟨d, s, rfl⟩
    rwa [symbols?, Option.isSome_map] at h
  · obtain ⟨rest, hr⟩ := Token.text_first_isPrefix c r
    have plain := plain_first paren bracket hb
    rw [← hr, symbols?_append (symbols?_of_not_mem plain), Option.isSome_map] at h
    rwa [← hr, Token.size, List.drop_left]

/-- In front of a slash stand the tokens of the text up to there. -/
theorem tokens_append (paren : '(' ∉ u) (bracket : '[' ∉ u) (whole : (symbols? u).isSome)
    (v : Text) : tokens (u ++ '/' :: v) = tokens u ++ tokens ('/' :: v) := by
  fun_induction tokens u with
  | case1 => rfl
  | case2 c r k ih =>
    have escape : c = '\\' → r ≠ [] := by
      rintro rfl rfl
      cases whole
    have first : Token.first c (r ++ '/' :: v) = k := first_append paren bracket escape
    obtain ⟨rest, hr⟩ := Token.text_first_isPrefix c r
    have drop : (c :: (r ++ '/' :: v)).drop k.size = (c :: r).drop k.size ++ '/' :: v := by
      rw [← List.cons_append, ← hr, List.append_assoc, Token.size, List.drop_left, List.drop_left]
    rw [List.cons_append, tokens]
    rw [first, drop, ih (fun h => paren (List.mem_of_mem_drop h))
      (fun h => bracket (List.mem_of_mem_drop h)) (symbols?_behind_first paren bracket whole)]
    rfl

/-! ## Behind a slash -/

theorem slash_of_read? {p : ParamName} (h : ParamName.read? ('/' :: r) = some p) :
    p.slash = true := by
  have slash : ∀ {format : Bool} {t : Text}, ParamName.readWord? true format t = some p →
      p.slash = true := by
    intro format t h
    unfold ParamName.readWord? at h
    split at h
    · split at h
      · cases h
      · rw [← Option.some.inj h]
    · cases h
  cases r with
  | nil => cases h
  | cons d s =>
    by_cases hd : d = '.'
    · subst hd
      exact slash h
    · rw [ParamName.read?.eq_2 _ fun _ h => hd (List.cons.inj h).1] at h
      exact slash h

/-- The token at a slash neither uses a guard nor keeps it. -/
theorem guard_first_slash (r : Text) :
    (Token.first '/' r).usesGuard = false ∧ (Token.first '/' r).keepsGuard = false := by
  unfold Token.first
  split
  · next name hn =>
    have slash : (Token.readParam name (('/' :: r).drop name.text.length)).slash = true :=
      slash_of_read? hn
    simp [Token.usesGuard, Token.keepsGuard, slash]
  · unfold Token.firstPlain
    split <;> first
      | exact ⟨rfl, rfl⟩
      | simp_all

/-- Behind a slash no guard counts. -/
theorem agree_slash (g r : Text) : (draftUnder g ('/' :: r)).Agree (draft ('/' :: r)) := by
  refine agree_draftUnder ?_ g
  obtain ⟨uses, keeps⟩ := guard_first_slash r
  rw [tokens]
  simp [usesGuard, uses, keeps]

/-! ## Two parts -/

/-- A template without groups and classes, behind which the slash of another one stands, is drafted
as it is alone, and so is the other one, but that its groups open behind the expression for the
first and its parameters end behind the first. -/
theorem draft_append (paren : '(' ∉ u) (bracket : '[' ∉ u) (whole : (symbols? u).isSome)
    (v : Text) :
    (draft (u ++ '/' :: v)).source = (draft u).source ++ (draft ('/' :: v)).source ∧
      (draft (u ++ '/' :: v)).named = (draft u).named ++
        (draft ('/' :: v)).named.shift (draft u).source.length u.length := by
  have parts : draft (u ++ '/' :: v) =
      (draft u).followedBy (draftUnder (draft u).guard ('/' :: v)) := by
    calc draft (u ++ '/' :: v)
        = (tokens ('/' :: v)).foldl Draft.push (draft u) := by
          rw [draft, tokens_append paren bracket whole, List.foldl_append]
          rfl
      _ = (draft u).followedBy (draftUnder (draft u).guard ('/' :: v)) := Draft.foldl_push _ _
  have behind := agree_slash (draft u).guard v
  rw [parts, ← Draft.consumed_draft u, ← behind.source, ← behind.named]
  exact ⟨rfl, rfl⟩

/-- The first part leaves a guard, and the second one a group open. -/
theorem draft_append_guard :
    ('(' ∉ "/:a\\*-".toList ∧ '[' ∉ "/:a\\*-".toList ∧ (symbols? "/:a\\*-".toList).isSome) ∧
      (draft "/:a\\*-/.:b?:c(".toList).source =
        (draft "/:a\\*-".toList).source ++ (draft "/.:b?:c(".toList).source ∧
      (draft "/:a\\*-/.:b?:c(".toList).named = (draft "/:a\\*-".toList).named ++
        (draft "/.:b?:c(".toList).named.shift (draft "/:a\\*-".toList).source.length 6 :=
  ⟨by decide, draft_append (u := "/:a\\*-".toList) (by decide) (by decide) (by decide)
    ".:b?:c(".toList⟩

end RoutePattern
