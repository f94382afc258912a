import Mathlib.Data.List.Induction
import RoutePattern.Proofs.Placement
import RoutePattern.Proofs.Plain.Syntax
import RoutePattern.Proofs.Template.Leaf

/-! # Where a group closes in a template

The tokens of an accepted template are made of its pieces. So a parenthesis that closes a group is a
token by itself, but for the groups of parameters.

* `exists_token`: some token reaches over any place in a row of tokens.
* `isSpelled_token`, `isSpelled_tokens`: the text of closed tokens falls into closed pieces.
* `close_in_token`: a parenthesis that closes in the middle of a token.
* `tokens_closing`: the tokens from the parenthesis on at which the last group closes.
-/

namespace RoutePattern

open Scan Regex Regex.Reader

variable {a b t u v : Text} {k : Token} {as bs : List Token} {flags : Flags}

/-! ## Tokens and pieces -/

/-- Somewhere in a row of tokens, one of them reaches over the place. -/
theorem exists_token {ks : List Token} (h : ks.flatMap Token.text = u ++ v) (hv : v ≠ []) :
    ∃ as k bs a b, ks = as ++ k :: bs ∧ as.flatMap Token.text ++ a = u ∧ k.text = a ++ b ∧
      b ≠ [] ∧ v = b ++ bs.flatMap Token.text := by
  induction ks generalizing u with
  | nil => exact absurd (List.append_eq_nil_iff.1 h.symm).2 hv
  | cons k ks ih =>
    rw [List.flatMap_cons] at h
    rcases List.append_eq_append_iff.1 h with ⟨w, rfl, hw⟩ | ⟨w, hk, hw⟩
    · obtain ⟨as, l, bs, a, b, rfl, ha, hl, hb, hv⟩ := ih hw
      exact ⟨k :: as, l, bs, a, b, rfl, by simp [← ha], hl, hb, hv⟩
    · by_cases hn : w = []
      · subst hn
        rw [List.append_nil] at hk
        obtain ⟨as, l, bs, a, b, rfl, ha, hl, hb, hv⟩ := ih (u := []) (by simpa using hw.symm)
        exact ⟨k :: as, l, bs, a, b, rfl, by simp [← hk, (List.append_eq_nil_iff.1 ha)], hl, hb, hv⟩
      · exact ⟨[], k, ks, u, w, rfl, rfl, hk, hn, hw⟩

theorem ne_of_word (hb : ∀ c ∈ b, Text.isWord c) {c : Char} (hc : Text.isWord c = false) : c ∉ b :=
  fun h => ne_of_isWord (hb c h) hc rfl

/-- Texts are the same up to the last of a character. -/
theorem append_cons_inj {c : Char} {a b u v : Text} (h : a ++ c :: u = b ++ c :: v) (hu : c ∉ u)
    (hv : c ∉ v) : a = b := by
  rcases List.append_eq_append_iff.1 h with ⟨w, rfl, hw⟩ | ⟨w, rfl, hw⟩
  · cases w with
    | nil => exact (List.append_nil a).symm
    | cons d w => exact absurd ((List.cons.inj hw).2 ▸ by simp) hu
  · cases w with
    | nil => exact List.append_nil b
    | cons d w => exact absurd ((List.cons.inj hw).2 ▸ by simp) hv

theorem readHeader_of_first {c : Char} {r source : Text} {name : Option Text}
    (h : Token.first c r = .header source name) :
    ∃ s, c :: r = '(' :: '?' :: s ∧ Token.readHeader (c :: r) = .header source name := by
  unfold Token.first at h
  split at h
  · cases h
  · unfold Token.firstPlain at h
    split at h <;> first | exact ⟨_, rfl, h⟩ | cases h

/-- The characters that no header has in an accepted template. -/
def headerMarks : List Char := ['\\', '[', ')']

theorem plain_literal {c d : Char} {r : Text} (h : Token.first c r = .literal d) :
    d ≠ '\\' ∧ d ≠ '[' := by
  unfold Token.first at h
  split at h
  · cases h
  · unfold Token.firstPlain at h
    split at h <;> cases h
    · decide
    · next h4 h5 h6 _ _ _ =>
      refine ⟨?_, h4⟩
      rintro rfl
      cases r with
      | nil => exact h5 rfl rfl
      | cons d r => exact h6 d r rfl rfl

/-- A closed token is a row of closed pieces. -/
theorem isSpelled_token {c : Char} {r : Text} (hk : Token.first c r = k) (closed : k.IsClosed)
    (plain : ∀ source name, k = .header source name → ∀ c ∈ source, c ∉ headerMarks) :
    IsSpelled k.text := by
  cases k with
  | escape d =>
    have piece : (Piece.escape d).IsClosed := closed
    exact piece.isSpelled
  | param p =>
    have name : IsSpelled p.toParamName.text :=
      isSpelled_chars (text_name (word_of_first hk) .clear).1
    have marks : IsSpelled p.marks.text := by
      refine isSpelled_chars ?_
      generalize p.marks = m
      obtain ⟨star, optional⟩ := m
      cases star <;> cases optional <;> decide
    have own : IsSpelled (p.capture.getD []) := by
      cases h : p.capture with
      | none => exact ⟨[], by simp, rfl⟩
      | some g =>
        have group : IsGroup g := capture_readParam (readParam_of_first hk ▸ h)
        obtain ⟨ps, closed, -, text⟩ := group.isMatched
        exact ⟨ps, closed, text⟩
    exact (name.append own).append marks
  | dot => exact isSpelled_chars (by decide)
  | star => exact isSpelled_chars (by decide)
  | slashGroup => exact isSpelled_chars (by decide)
  | header source name =>
    refine isSpelled_chars fun c hc => ?_
    have marks := plain source name rfl c hc
    simp only [headerMarks, List.mem_cons, not_or] at marks
    exact ⟨marks.1, marks.2.1⟩
  | charClass source =>
    have piece : (Piece.charClass source).IsClosed := closed
    exact piece.isSpelled
  | literal d =>
    refine isSpelled_chars fun e he => ?_
    obtain rfl := List.mem_singleton.1 he
    exact plain_literal hk

/-! ## Parentheses that close -/

/-- A parenthesis closes in the middle of a token only if the token is another piece, or if it closes
a group behind a name. -/
theorem close_in_token {c : Char} {r : Text} (hk : Token.first c r = k) (closed : k.IsClosed)
    (plain : ∀ source name, k = .header source name → ∀ c ∈ source, c ∉ headerMarks)
    (text : k.text = a ++ ')' :: b) (hb : ')' ∉ b) :
    a = [] ∨ (∃ p : Piece, p.IsClosed ∧ p ≠ .char ')' ∧ k.text = p.text) ∨
      ∃ ns ss, (∀ p ∈ ns ++ .char '(' :: ss, p.IsClosed) ∧ Matched ss ∧
        a = spell (ns ++ .char '(' :: ss) ∧ .char ':' ∈ ns := by
  have single : ∀ d, k.text = [d] → a = [] := by
    intro d hd
    rw [text] at hd
    cases a with
    | nil => rfl
    | cons e a => simp at hd
  cases k with
  | escape d => exact .inr (.inl ⟨.escape d, closed, by simp, rfl⟩)
  | param p =>
    have name := word_of_first hk
    have marks : ∀ m : Modifiers, ')' ∉ m.text := by
      rintro ⟨star, optional⟩
      cases star <;> cases optional <;> decide
    have apart : ')' ∉ p.toParamName.text := by
      have word : ')' ∉ p.name := ne_of_word name (by decide)
      simp only [ParamName.text]
      split <;> split <;> simpa using word
    cases h : p.capture with
    | none =>
      have mem : ')' ∈ (Token.param p).text := text ▸ by simp
      simp only [Token.text, Param.text, h, Option.getD_none, List.mem_append] at mem
      rcases mem with (mem | mem) | mem
      · exact absurd mem apart
      · cases mem
      · exact absurd mem (marks _)
    | some g =>
      obtain ⟨_, ⟨ss, hss, matched, rfl⟩, rfl⟩ : IsGroup g :=
        capture_readParam (readParam_of_first hk ▸ h)
      have whole : (Token.param p).text =
          (p.toParamName.text ++ '(' :: spell ss) ++ ')' :: p.marks.text := by
        simp [Token.text, Param.text, h]
      have before := append_cons_inj (whole.symm.trans text) (marks _) hb
      have paren : (Piece.char '(').IsClosed := ⟨by decide, by decide⟩
      refine .inr (.inr ⟨p.toParamName.text.map .char, ss, ?_, matched, ?_, ?_⟩)
      · exact List.forall_mem_append.2 ⟨closed_chars (text_name name .clear).1,
          List.forall_mem_cons.2 ⟨paren, hss⟩⟩
      · rw [← before]
        simp [List.flatMap_map, Piece.text]
      · exact List.mem_map_of_mem (by simp [ParamName.text])
  | dot => exact .inl (single _ rfl)
  | star => exact .inl (single _ rfl)
  | slashGroup =>
    have mem : ')' ∈ Token.slashGroup.text := text ▸ by simp
    exact absurd mem (by decide)
  | header source name =>
    have mem : ')' ∈ (Token.header source name).text := text ▸ by simp
    exact absurd (by decide) (plain source name rfl ')' mem)
  | charClass source => exact .inr (.inl ⟨.charClass source, closed, by simp, rfl⟩)
  | literal d => exact .inl (single _ rfl)

section Accepted

variable (hf : flags.verbose = false) (ht : IsCalm t)
  (ha : Accepts (start flags) ('^' :: ((draft t).source ++ v)))
include hf ht ha

/-- A header of an accepted template has no piece but characters, and nothing closes in it. -/
theorem header_plain {source : Text} {name : Option Text}
    (hk : tokens t = as ++ .header source name :: bs) (hcl : ∀ k ∈ as, k.IsClosed) :
    ∀ c ∈ source, c ∉ headerMarks := by
  obtain ⟨T, m, calm, -, outside, -, ha⟩ := leads_before hf ht hk hcl ha
  obtain ⟨c, r, text, first, -⟩ := first_of_tokens hk
  obtain ⟨w, hw, read⟩ := readHeader_of_first first
  rw [hw] at text read
  rw [text] at calm
  rw [writtenFrom, List.append_assoc] at ha
  have colon : ∀ u, ∀ c ∈ leadingColon u, c ∉ headerMarks := by
    intro u
    unfold leadingColon
    split <;> decide
  have fronts : ∀ front ∈ [['(', '?'], ['(', '?', 'P', '<'], ['(', '?', '<']],
      ∀ c ∈ front, c ∉ headerMarks := by decide
  have marks : ∀ c ∈ headerMarks, c ∈ nameMarks := by decide
  rcases header_cases calm with ⟨front, u, -, hfront, hu⟩ | ⟨front, n, u, -, hfront, hn, hu⟩
  · obtain ⟨rfl, -⟩ := Token.header.inj (hu.symm.trans read)
    intro c hc
    exact (List.mem_append.1 hc).elim (fronts front hfront c) (colon u c)
  · obtain ⟨rfl, rfl⟩ := Token.header.inj (hu.symm.trans read)
    have named : Named n := named_of_header hn outside.mode.bare ha
    intro c hc
    simp only [List.mem_append, List.mem_cons] at hc
    rcases hc with hc | hc | rfl | hc
    · exact fronts front (List.mem_cons_of_mem _ hfront) c hc
    · exact fun h => named c hc (marks c h)
    · decide
    · exact colon u c hc

/-- The first tokens of an accepted template are a row of closed pieces. -/
theorem isSpelled_tokens (hk : tokens t = as ++ bs) (hcl : ∀ k ∈ as, k.IsClosed) :
    IsSpelled (as.flatMap Token.text) := by
  induction as using List.reverseRecOn generalizing bs with
  | nil => exact ⟨[], by simp, rfl⟩
  | append_singleton as k ih =>
    rw [List.append_assoc] at hk
    have before : ∀ l ∈ as, l.IsClosed := fun l hl => hcl l (List.mem_append_left _ hl)
    obtain ⟨c, r, -, first, -⟩ := first_of_tokens hk
    have last : IsSpelled k.text := by
      refine isSpelled_token first (hcl k (by simp)) ?_
      rintro source name rfl
      exact header_plain hf ht ha hk before
    rw [List.flatMap_append, List.flatMap_singleton]
    exact (ih hk before).append last

/-- No token reaches over the parenthesis at which a group closes, if there is none behind it. -/
theorem starts_at_close {ps : List Piece} (hk : tokens t = as ++ k :: bs)
    (hcl : ∀ l ∈ as, l.IsClosed) (hkc : k.IsClosed)
    (closed : ∀ p ∈ .char '/' :: .char '(' :: ps, p.IsClosed) (matched : Matched ps)
    (before : as.flatMap Token.text ++ a = '/' :: '(' :: spell ps)
    (text : k.text = a ++ ')' :: b) (hb : ')' ∉ b) : a = [] := by
  obtain ⟨qs, hqs, hq⟩ := isSpelled_tokens hf ht ha hk hcl
  obtain ⟨c, r, -, first, -⟩ := first_of_tokens hk
  have spelled : spell (.char '/' :: .char '(' :: ps) = spell qs ++ a := by
    rw [hq, before]
    rfl
  have paren : (Piece.char ')').IsClosed := ⟨by decide, by decide⟩
  have plain : ∀ source name, k = .header source name → ∀ c ∈ source, c ∉ headerMarks := by
    rintro source name rfl
    exact header_plain hf ht ha hk hcl
  rcases close_in_token first hkc plain text hb with rfl | ⟨p, hp, other, alone⟩ |
    ⟨ns, ss, hns, inner, rfl, colon⟩
  · rfl
  · have same := pieces_at closed (p := .char ')') (v := b) (w := []) paren hqs hp
      (by rw [spelled, List.append_nil, ← alone, text, List.append_assoc]; rfl)
      (by simp [spelled]) (by simp [spelled, ← alone, text])
    exact absurd same.2.symm other
  · have inside : ∀ p ∈ qs ++ (ns ++ .char '(' :: ss), p.IsClosed :=
      List.forall_mem_append.2 ⟨hqs, hns⟩
    have same := pieces_at closed (p := .char ')') (v := []) (w := []) paren inside paren
      (by simp only [spelled, spell, List.flatMap_append]) (by simp [spelled])
      (by simp [spelled, Piece.text])
    rw [← List.append_assoc] at same
    -- the group of the parameter is inside of the one that closes here, and closes before it does
    obtain ⟨ms, hms⟩ : ∃ ms, qs ++ ns = .char '/' :: .char '(' :: ms := by
      rcases hN : qs ++ ns with _ | ⟨p, _ | ⟨q, ms⟩⟩
      · rw [(List.append_eq_nil_iff.1 hN).2] at colon
        cases colon
      · have mem : Piece.char ':' ∈ [p] := hN ▸ List.mem_append_right qs colon
        rw [hN, ← List.mem_singleton.1 mem] at same
        simp at same
      · rw [hN] at same
        simp only [List.cons_append, List.cons.injEq] at same
        exact ⟨ms, by rw [same.1.1, same.1.2.1]⟩
    rw [hms] at same
    simp only [List.cons_append, List.cons.injEq, true_and] at same
    exact absurd same.1 (matched.ne_opening inner)

/-- The tokens of an accepted template do not reach over the parenthesis at which its last group
closes. -/
theorem tokens_closing {ks : List Token} {stray : Bool} {ps : List Piece}
    (hks : ClosedUpTo t ks stray) (closed : ∀ p ∈ .char '/' :: .char '(' :: ps, p.IsClosed)
    (matched : Matched ps) (text : t = '/' :: '(' :: spell ps ++ ')' :: u) (hu : ')' ∉ u) :
    ∃ as, tokens t = as ++ tokens (')' :: u) := by
  obtain ⟨as, k, bs, a, b, hk, before, hkt, hb, behind⟩ :=
    exists_token ((text_tokens t).trans text) (by simp)
  obtain ⟨c, b, rfl⟩ := List.exists_cons_of_ne_nil hb
  obtain ⟨rfl, rest⟩ := List.cons.inj behind
  have hkc : k.IsClosed := by
    have mem : k ∈ tokens t := hk ▸ by simp
    rw [hks.tokens, List.mem_append] at mem
    rcases mem with mem | mem
    · exact hks.closed k mem
    · cases stray with
      | false => cases mem
      | true =>
        rw [List.mem_singleton.1 mem] at hkt
        have paren : ')' ∈ (Token.escape none).text := hkt ▸ by simp
        exact absurd paren (by decide)
  have start := starts_at_close hf ht ha hk (hks.before hk) hkc closed matched before hkt
    fun h => hu (rest ▸ List.mem_append_left _ h)
  subst start
  have tail := tokens_rest hk
  rw [List.flatMap_cons, hkt, List.nil_append, ← behind] at tail
  exact ⟨as, tail ▸ hk⟩

end Accepted

end RoutePattern
