import RoutePattern.Compile
import RoutePattern.Proofs.Reader.Agreement
import RoutePattern.Proofs.Template.Simple
import RoutePattern.Proofs.Template.Walk

/-! # Anchored expressions

What stands behind the expression of a template opens no group and closes no class.

* `Options.ending`: the text that options put behind an expression; `anchored_ending`.
* `endings`: the texts that an anchored expression may end with.
* `first_of_tokens`: every token is the first one of what is left of its template.
* `closed_tokens`: an accepted template has no class left open, and a lone backslash only at its
  end.
-/

namespace RoutePattern

open Scan Regex Regex.Reader

/-! ## Endings -/

theorem endsInSlash_append {t u : Text} (h : u ≠ []) : endsInSlash (t ++ u) = endsInSlash u := by
  unfold endsInSlash
  rw [List.getLast?_append, List.getLast?_eq_some_getLast h]
  rfl

/-- The end of an expression: the end of the text, or of a segment of it. -/
def Options.closing (o : Options) : Text :=
  if o.toEnd then ['$'] else ['(', '?', ':', '/', '|', '$', ')']

/-- What stands behind an expression, by whether it ends with a slash. -/
def Options.ending (o : Options) (slash : Bool) : Text :=
  if o.strict then if slash && !o.toEnd then [] else o.closing
  else (if slash then ['?'] else ['/', '?']) ++ o.closing

theorem anchored_ending (o : Options) (source : Text) :
    o.anchored source = '^' :: (source ++ o.ending (endsInSlash source)) := by
  obtain ⟨strict, toEnd, sensitive⟩ := o
  unfold Options.anchored Options.ended Options.tolerant Options.ending Options.closing
  cases hs : endsInSlash source <;> cases strict <;> cases toEnd <;>
    simp [hs, endsInSlash_append, show endsInSlash ['?'] = false from rfl,
      show endsInSlash ['/', '?'] = false from rfl]

theorem ending_cases (o : Options) (slash : Bool) :
    (o.ending slash = [] ∧ slash = true ∧ o.toEnd = false) ∨ o.ending slash = o.closing ∨
      (slash = true ∧ o.ending slash = '?' :: o.closing) ∨
      o.ending slash = '/' :: '?' :: o.closing := by
  obtain ⟨strict, toEnd, sensitive⟩ := o
  unfold Options.ending
  cases strict <;> cases slash <;> cases toEnd <;> simp

theorem ending_eq_nil {o : Options} {slash : Bool} (h : o.ending slash = []) :
    slash = true ∧ o.toEnd = false := by
  obtain ⟨strict, toEnd, sensitive⟩ := o
  revert h
  unfold Options.ending Options.closing
  cases strict <;> cases slash <;> cases toEnd <;> simp

/-- What may stand behind an expression, by whether it ends with a slash. -/
def endings (slash : Bool) : List Text :=
  if slash then [[], ['$'], ['?', '$'], ['?', '(', '?', ':', '/', '|', '$', ')']]
  else [['$'], ['(', '?', ':', '/', '|', '$', ')'], ['/', '?', '$'],
    ['/', '?', '(', '?', ':', '/', '|', '$', ')']]

theorem ending_mem (o : Options) (slash : Bool) : o.ending slash ∈ endings slash := by
  obtain ⟨strict, toEnd, sensitive⟩ := o
  unfold Options.ending Options.closing
  cases strict <;> cases toEnd <;> cases slash <;> simp [endings]

theorem not_mem_endings {c : Char} {slash : Bool} {e : Text}
    (hc : c ∉ ['/', '?', '$', '(', ':', '|', ')']) (he : e ∈ endings slash) : c ∉ e := by
  have all : ∀ slash, ∀ e ∈ endings slash, e ⊆ ['/', '?', '$', '(', ':', '|', ')'] := by decide
  exact fun h => hc (all slash e he h)

theorem anchored_eq (o : Options) (source : Text) :
    ∃ e ∈ endings (endsInSlash source), o.anchored source = '^' :: (source ++ e) :=
  ⟨_, ending_mem o _, anchored_ending o source⟩

/-! ## The tokens of an accepted template -/

/-- The tokens of the rest of a template. -/
theorem tokens_rest {t : Text} {ks ls : List Token} (h : tokens t = ks ++ ls) :
    tokens (ls.flatMap Token.text) = ls := by
  induction ks generalizing t with
  | nil =>
    rw [List.nil_append] at h
    rw [← h, text_tokens]
  | cons k ks ih =>
    cases t with
    | nil => simp [tokens] at h
    | cons c r =>
      rw [tokens] at h
      exact ih (List.cons.inj h).2

/-- Every token of a template is the first one of what is left there. -/
theorem first_of_tokens {t : Text} {k : Token} {ks ls : List Token} (h : tokens t = ks ++ k :: ls) :
    ∃ c r, (k :: ls).flatMap Token.text = c :: r ∧ Token.first c r = k ∧
      tokens ((c :: r).drop k.size) = ls := by
  have rest := tokens_rest h
  cases hu : (k :: ls).flatMap Token.text with
  | nil => simp [hu, tokens] at rest
  | cons c r =>
    rw [hu, tokens] at rest
    obtain ⟨hk, hls⟩ := List.cons.inj rest
    exact ⟨c, r, rfl, hk, hk ▸ hls⟩

/-- A token that does not end by itself takes the rest of the template. -/
theorem open_first {c : Char} {r : Text} (h : ¬ (Token.first c r).IsClosed) :
    (Token.first c r = .escape none ∧ c = '\\' ∧ r = []) ∨
      (Token.first c r = .charClass ('[' :: r) ∧ c = '[' ∧ classExtent? r = none) := by
  unfold Token.first at h ⊢
  split at h
  · exact absurd trivial h
  · next hn =>
    unfold Token.firstPlain at h ⊢
    split at h
    · exact .inl ⟨rfl, rfl, rfl⟩
    · exact absurd rfl h
    · exact absurd trivial h
    · exact absurd trivial h
    · exact absurd trivial h
    · exact absurd trivial h
    · exact absurd trivial h
    · rcases classSize_cases r with ⟨n, h1, -⟩ | ⟨h1, h2⟩
      · exact absurd (closedClass_take h1) h
      · refine .inr ⟨?_, rfl, h1⟩
        rw [List.take_of_length_le (by simp only [List.length_cons]; omega)]
    · exact absurd trivial h

theorem exists_first_not {α : Type} {P : α → Prop} (l : List α) :
    (∀ x ∈ l, P x) ∨ ∃ as x bs, l = as ++ x :: bs ∧ (∀ a ∈ as, P a) ∧ ¬ P x := by
  induction l with
  | nil => exact .inl (by simp)
  | cons x l ih =>
    by_cases hx : P x
    · rcases ih with h | ⟨as, y, bs, rfl, has, hy⟩
      · exact .inl (by simpa using ⟨hx, h⟩)
      · exact .inr ⟨x :: as, y, bs, rfl, by simpa using ⟨hx, has⟩, hy⟩
    · exact .inr ⟨[], x, l, rfl, by simp, hx⟩

/-- An accepted template has no class left open, and a lone backslash only at its end. -/
theorem closed_tokens {t e : Text} {st : State} (ht : IsCalm t) (he : ']' ∉ e)
    (ho : st.Outside) (hf : st.mode.Follows .clear)
    (ha : Accepts st (writtenFrom [] (tokens t) ++ e)) :
    ∃ ks tail, tokens t = ks ++ tail ∧ (∀ k ∈ ks, k.IsClosed) ∧
      (tail = [] ∨ tail = [.escape none]) := by
  rcases exists_first_not (P := Token.IsClosed) (tokens t) with h | ⟨ks, k, ls, hks, hcl, hk⟩
  · exact ⟨tokens t, [], by simp, h, .inl rfl⟩
  · obtain ⟨c, r, -, hkc, hls⟩ := first_of_tokens hks
    subst hkc
    rcases open_first hk with ⟨h1, rfl, rfl⟩ | ⟨h1, rfl, h2⟩
    · refine ⟨ks, [.escape none], ?_, hcl, .inr rfl⟩
      rw [h1] at hks hls
      have last : ls = [] := by rw [← hls]; simp [Token.size, Token.text, tokens]
      rw [hks, last]
    · exfalso
      rw [h1, Token.size, Token.text, List.drop_length, tokens] at hls
      rw [hks, h1, ← hls, writtenFrom_append, List.append_assoc] at ha
      obtain ⟨T, nx, -, -, h3, -, h4⟩ := leads_tokens hks hcl isGuard_nil ht ho hf ha
      obtain ⟨s, -, -, h5, h6⟩ := open_set h3 (by simpa [writtenFrom, Token.written] using h4)
      refine not_accepts_open (by rw [h5]; rfl) ?_ h6
      rw [h5]
      exact classExtent?_append_none h2 he

end RoutePattern
