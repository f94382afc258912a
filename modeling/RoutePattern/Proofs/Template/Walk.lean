import RoutePattern.Proofs.Reader.Place
import RoutePattern.Proofs.Template.Reading

/-! # Reading what a template becomes

The reader goes through the expression for a template token by token. A header that is begun in the
expression is begun in the template too, so in a template without comments, conditions and verbose
headers the reader stays outside.

* `Leads`: a text is read from outside to outside, and the rest of the template goes on calmly.
* `leads_first`, `leads_tokens`: a token, and the first tokens of a template.
-/

namespace RoutePattern

open Scan Regex Regex.Reader

/-- The token ends by itself: it is no lone backslash and no class that is left open. -/
def Token.IsClosed : Token → Prop
  | escape c => c.isSome
  | charClass source => ClosedClass source
  | _ => True

/-- A text is read from outside to outside, and what is left of the template goes on calmly. -/
def Leads (st : State) (t v rest : Text) : Prop :=
  ∃ T nx, T.Calm (pieces rest) ∧ Passes st t nx ∧ nx.Outside ∧ nx.mode.Follows T ∧ Accepts nx v

variable {st : State} {T T' : Trail} {c : Char} {g r t v rest : Text}

theorem leads_spans (hs : T.Spans t T') (hr : T'.Calm (pieces rest)) (ho : st.Outside)
    (hf : st.mode.Follows T) (ha : Accepts st (t ++ v)) : Leads st t v rest := by
  obtain ⟨nx, h1, h2, h3, h4⟩ := passes_spans hs ho hf ha
  exact ⟨T', nx, hr, h1, h2, h3, h4⟩

/-- Where no header is begun in the expression, one may be begun in the template. -/
theorem leads_clear (hs : T.Spans t .clear) (hr : T'.Calm (pieces rest)) (ho : st.Outside)
    (hf : st.mode.Follows T) (ha : Accepts st (t ++ v)) : Leads st t v rest := by
  obtain ⟨nx, h1, h2, h3, h4⟩ := passes_spans hs ho hf ha
  exact ⟨T', nx, hr, h1, h2, h3.of_clear T', h4⟩

theorem leads_group (hc : c ∈ ['?', '.', '(', '[']) (hs : Trail.paren.Spans (c :: t) .clear)
    (hr : T'.Calm (pieces rest)) (ho : st.Outside) (ha : Accepts st ('(' :: c :: t ++ v)) :
    Leads st ('(' :: c :: t) v rest := by
  obtain ⟨-, nx, h1, h2, h3, h4⟩ := passes_group hc hs ho ha
  exact ⟨T', nx, hr, h1, h2, h3.of_clear T', h4⟩

/-! ## Headers -/

theorem plain_of_named {w : Text} (h : Named w) : ∀ c ∈ w, c ≠ '\\' ∧ c ≠ '[' ∧ c ≠ '(' := by
  intro c hc
  refine ⟨?_, ?_, ?_⟩ <;> (rintro rfl; exact h _ hc (by decide))

theorem leadingColon_append (u : Text) : ∃ w, u = leadingColon u ++ w := by
  unfold leadingColon
  split
  · next h =>
    cases u with
    | nil => cases h
    | cons c s => exact ⟨s, by rw [show c = ':' by simpa using h]; rfl⟩
  · exact ⟨u, rfl⟩

theorem plain_leadingColon (u : Text) : ∀ c ∈ leadingColon u, c ≠ '\\' ∧ c ≠ '[' ∧ c ≠ '(' := by
  unfold leadingColon
  split <;> decide

/-- A header without a name for the scanner stays as it is. -/
theorem leads_header {front u : Text} {k : Token}
    (hk : k = .header (front ++ leadingColon u) none)
    (hfront : ∀ c ∈ front, c ≠ '\\' ∧ c ≠ '[') (hc : T.Calm (pieces (front ++ u)))
    (ho : st.Outside) (hf : st.mode.Follows T) (ha : Accepts st (k.written g ++ v)) :
    Leads st (k.written g) v ((front ++ u).drop k.size) := by
  subst hk
  obtain ⟨w, hw⟩ := leadingColon_append u
  have plain : ∀ c ∈ front ++ leadingColon u, c ≠ '\\' ∧ c ≠ '[' := by
    intro c hm
    rcases List.mem_append.1 hm with hm | hm
    · exact hfront c hm
    · exact ⟨(plain_leadingColon u c hm).1, (plain_leadingColon u c hm).2.1⟩
  have text : front ++ u = (front ++ leadingColon u) ++ w := by rw [List.append_assoc, ← hw]
  rw [text] at hc ⊢
  obtain ⟨h1, h2⟩ := calm_chars plain hc
  refine leads_spans (Trail.spans_chars plain h1 rfl) ?_ ho hf ha
  rw [Token.size, Token.text, List.drop_left]
  exact h2

theorem plain_name {name u : Text} (hn : Named name)
    (hu : ∀ c ∈ u, c ≠ '\\' ∧ c ≠ '[' ∧ c ≠ '(') :
    ∀ c ∈ name ++ '>' :: u, c ≠ '\\' ∧ c ≠ '[' ∧ c ≠ '(' := by
  intro c hm
  rcases List.mem_append.1 hm with hm | hm
  · exact plain_of_named hn c hm
  · rcases List.mem_cons.1 hm with rfl | hm
    · decide
    · exact hu c hm

theorem spans_namedHeader {name : Text} (hn : Named name) (ha : T.Allows (.char '(')) :
    T.Spans (['(', '?', 'P', '<'] ++ name ++ ['>']) .clear := by
  have paren := Trail.spans_plain (c := '(') (by decide) (by decide) ha
  have front : Trail.paren.Spans ['?', 'P', '<'] .clear :=
    Trail.spans_chars (by decide) (by decide) rfl
  have plain := plain_name hn (u := []) (by simp)
  have clear := Trail.clear_chars fun c hm => (plain c hm).2.2
  have back := Trail.spans_chars (fun c hm => ⟨(plain c hm).1, (plain c hm).2.1⟩) clear.1 clear.2
  rw [Trail.next_paren] at paren
  exact (paren.append front).append back

/-- A header with a name is written with `P` and without a colon. -/
theorem leads_named {front name u : Text} {k : Token}
    (hk : k = .header (front ++ (name ++ '>' :: leadingColon u)) (some name))
    (hfront : front ∈ [['(', '?', 'P', '<'], ['(', '?', '<']]) (hn : '>' ∉ name)
    (hc : T.Calm (pieces (front ++ (name ++ '>' :: u)))) (ho : st.Outside)
    (hf : st.mode.Follows T) (ha : Accepts st (k.written g ++ v)) :
    Leads st (k.written g) v ((front ++ (name ++ '>' :: u)).drop k.size) := by
  subst hk
  have fronts : ∀ f ∈ [['(', '?', 'P', '<'], ['(', '?', '<']], (∀ c ∈ f, c ≠ '\\' ∧ c ≠ '[') ∧
      ∃ s, f = '(' :: s ∧ Trail.paren.after (s.map .char) = .clear := by
    intro f hf
    simp only [List.mem_cons, List.not_mem_nil, or_false] at hf
    rcases hf with rfl | rfl
    · exact ⟨by decide, _, rfl, rfl⟩
    · exact ⟨by decide, _, rfl, rfl⟩
  obtain ⟨plainFront, s, rfl, endsFront⟩ := fronts front hfront
  have named : Named name := named_of_header hn ho.mode.bare ha
  have allows : T.Allows (.char '(') := by
    rw [List.cons_append, pieces_plain (by decide) (by decide)] at hc
    exact hc.1
  obtain ⟨w, hw⟩ := leadingColon_append u
  have text : ('(' :: s) ++ (name ++ '>' :: u) =
      (('(' :: s) ++ (name ++ '>' :: leadingColon u)) ++ w := by
    simp only [List.append_assoc, List.cons_append, ← hw]
  have plainBack := plain_name named (plain_leadingColon u)
  have plain : ∀ c ∈ ('(' :: s) ++ (name ++ '>' :: leadingColon u), c ≠ '\\' ∧ c ≠ '[' := by
    intro c hm
    rcases List.mem_append.1 hm with hm | hm
    · exact plainFront c hm
    · exact ⟨(plainBack c hm).1, (plainBack c hm).2.1⟩
  have ends : T.after ((('(' :: s) ++ (name ++ '>' :: leadingColon u)).map .char) = .clear := by
    have front : T.after (('(' :: s).map .char) = .clear := by
      rw [List.map_cons, Trail.after, List.foldl_cons, Trail.next_paren]
      exact endsFront
    rw [List.map_append, Trail.after_append, front]
    exact (Trail.clear_chars fun c hm => (plainBack c hm).2.2).2
  rw [text] at hc ⊢
  refine leads_spans (spans_namedHeader named allows) ?_ ho hf ha
  rw [Token.size, Token.text, List.drop_left, ← ends]
  exact (calm_chars plain hc).2

/-! ## Tokens -/

/-- A token without a parameter is read from outside to outside. -/
theorem leads_firstPlain {k : Token} (hk : Token.firstPlain c r = k) (hcl : k.IsClosed)
    (hc : T.Calm (pieces (c :: r))) (ho : st.Outside) (hf : st.mode.Follows T)
    (ha : Accepts st (k.written g ++ v)) :
    Leads st (k.written g) v ((c :: r).drop k.size) := by
  have piece : ∀ {d s}, d ≠ '\\' → d ≠ '[' → T.Calm (pieces (d :: s)) →
      T.Allows (.char d) ∧ (T.next (.char d)).Calm (pieces s) := by
    intro d s h1 h2 h
    rwa [pieces_plain h1 h2] at h
  unfold Token.firstPlain at hk
  split at hk <;> subst hk
  · cases hcl
  · next d s =>
    rw [pieces_escape, Trail.Calm, Trail.next_escape] at hc
    exact leads_spans (Trail.spans_escape d) hc.2 ho hf ha
  · have rest := (piece (by decide) (by decide) hc).2
    rw [Trail.next_eq_clear (by decide) (by decide) rfl] at rest
    exact leads_spans (Trail.spans_escape '.') rest ho hf ha
  · have star : Trail.paren.Spans ['.', '*', ')'] .clear :=
      Trail.spans_chars (by decide) (by decide) rfl
    exact leads_group (by decide) star (piece (by decide) (by decide) hc).2 ho ha
  · next s =>
    obtain ⟨h1, h2⟩ := piece (by decide) (by decide) hc
    exact leads_spans (Trail.spans_plain (by decide) (by decide) h1) h2 ho hf ha
  · next s _ =>
    obtain ⟨h1, h2⟩ := piece (by decide) (by decide) hc
    have slash := Trail.spans_plain (c := '/') (by decide) (by decide) h1
    have group : Trail.clear.Spans ['(', '?', ':'] .clear :=
      Trail.spans_chars (by decide) (by decide) rfl
    rw [Trail.next_eq_clear (by decide) (by decide) rfl] at slash h2
    rw [pieces_plain (by decide) (by decide)] at h2
    exact leads_clear (slash.append group) h2.2 ho hf ha
  · next s =>
    rcases header_cases hc with ⟨front, u, he, hfront, hk⟩ | ⟨front, name, u, he, hfront, hn, hk⟩
    · have plain : ∀ f ∈ [['(', '?'], ['(', '?', 'P', '<'], ['(', '?', '<']],
          ∀ c ∈ f, c ≠ '\\' ∧ c ≠ '[' := by decide
      rw [he] at hk hc ha ⊢
      exact leads_header hk (plain front hfront) hc ho hf ha
    · rw [he] at hk hc ha ⊢
      exact leads_named hk hfront hn hc ho hf ha
  · next s =>
    rw [pieces_class, Trail.Calm, Trail.next_charClass] at hc
    rw [Token.size, Token.text, drop_take_length]
    exact leads_spans (Trail.spans_class hcl) hc.2 ho hf ha
  · next _ _ h8 h1 h2 _ _ _ =>
    have hb : c ≠ '\\' := Text.ne_backslash h1 h2
    obtain ⟨h3, h4⟩ := piece hb h8 hc
    exact leads_spans (Trail.spans_plain hb h8 h3) h4 ho hf ha

/-- The first token of a template is read from outside to outside. -/
theorem leads_first {k : Token} (hk : Token.first c r = k) (hcl : k.IsClosed) (hg : IsGuard g)
    (hc : T.Calm (pieces (c :: r))) (ho : st.Outside) (hf : st.mode.Follows T)
    (ha : Accepts st (k.written g ++ v)) :
    Leads st (k.written g) v ((c :: r).drop k.size) := by
  have hk' := hk
  unfold Token.first at hk'
  split at hk'
  · subst hk'
    obtain ⟨h1, h2⟩ := trail_param hk hc
    obtain ⟨t, ht, spans⟩ := spans_written hg h1
    rw [Token.written, ht] at ha ⊢
    exact leads_group (by decide) spans h2 ho ha
  · exact leads_firstPlain hk' hcl hc ho hf ha

/-! ## Rows of tokens -/

/-- What a row of tokens becomes, from a guard on. -/
def writtenFrom (guard : Text) : List Token → Text
  | [] => []
  | k :: ks => k.written guard ++ writtenFrom (k.guardAfter guard) ks

/-- The guard after a row of tokens. -/
def guardFrom (guard : Text) (ks : List Token) : Text :=
  ks.foldl (fun g k => k.guardAfter g) guard

theorem source_foldl (d : Draft) (ks : List Token) :
    (ks.foldl Draft.push d).source = d.source ++ writtenFrom d.guard ks := by
  induction ks generalizing d with
  | nil => simp [writtenFrom]
  | cons k ks ih =>
    rw [List.foldl_cons, ih, writtenFrom, ← List.append_assoc]
    rfl

/-- The expression of a template is what its tokens become. -/
theorem source_draft (t : Text) : (draft t).source = writtenFrom [] (tokens t) := source_foldl {} _

theorem isGuard_guardFrom {ks : List Token} (hg : IsGuard g) (hcl : ∀ k ∈ ks, k.IsClosed) :
    IsGuard (guardFrom g ks) := by
  induction ks generalizing g with
  | nil => exact hg
  | cons k ks ih =>
    have closed := hcl k (by simp)
    have hg' : IsGuard (k.guardAfter g) := isGuard_guardAfter hg (by rintro rfl; cases closed)
    exact ih hg' fun l hl => hcl l (by simp [hl])

theorem writtenFrom_append (guard : Text) (ks ls : List Token) :
    writtenFrom guard (ks ++ ls) =
      writtenFrom guard ks ++ writtenFrom (guardFrom guard ks) ls := by
  induction ks generalizing guard with
  | nil => rfl
  | cons k ks ih => simp [writtenFrom, guardFrom, ih]

/-- Induction on the tokens: any number of them from the start of a template is read from outside to
outside. -/
theorem leads_tokens {ks ls : List Token} (ht : tokens t = ks ++ ls)
    (hcl : ∀ k ∈ ks, k.IsClosed) (hg : IsGuard g) (hc : T.Calm (pieces t)) (ho : st.Outside)
    (hf : st.mode.Follows T) (ha : Accepts st (writtenFrom g ks ++ v)) :
    Leads st (writtenFrom g ks) v (ls.flatMap Token.text) := by
  induction ks generalizing t g st T with
  | nil =>
    rw [← text_tokens t, ht] at hc
    exact ⟨T, st, hc, .done st, ho, hf, ha⟩
  | cons k ks ih =>
    cases t with
    | nil => simp [tokens] at ht
    | cons c r =>
      rw [tokens] at ht
      obtain ⟨hk, ht⟩ := List.cons.inj ht
      rw [writtenFrom, List.append_assoc] at ha
      have closed := hcl k (by simp)
      obtain ⟨T', s, h1, h2, h3, h4, h5⟩ := leads_first hk closed hg hc ho hf ha
      have hg' : IsGuard (k.guardAfter g) := isGuard_guardAfter hg (by rintro rfl; cases closed)
      obtain ⟨T'', nx, i1, i2, i3⟩ :=
        ih (hk ▸ ht) (fun k hk => hcl k (by simp [hk])) hg' h1 h3 h4 h5
      exact ⟨T'', nx, i1, h2.append i2, i3⟩

end RoutePattern
