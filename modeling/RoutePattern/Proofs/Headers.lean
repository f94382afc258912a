import RoutePattern.Proofs.Path.Reading
import RoutePattern.Proofs.Template.Continued
import RoutePattern.Regex.Flags

/-! # Templates that start with a group header

A header is put in front of a template. What the draft of the template becomes then depends on how
much of the header is kept whole: of most only the two first characters are, and the others are
literal text that a parameter behind them has for a guard.

* `Heading`: the headers of groups in templates.
* `Draft.SetBehind`: a draft that is another one set behind a text.
* `setBehind_kept`, `setBehind_chars`: a header that is kept, and the literal characters behind it.
* `draft_heading`: the template is drafted behind the header as it is alone, just if the header
  spares it.
-/

namespace RoutePattern

open Scan Regex

/-- The header of a group in a template. -/
inductive Heading
  /-- A group that does not capture. -/
  | silent
  | atomic
  /-- A look-ahead or a look-behind. -/
  | look (behind negated : Bool)
  /-- A group with a name, spelled without `P` if it is foreign. -/
  | named (foreign : Bool) (name : Text) (closed : '>' ∉ name)
      (apart : foreign → name.head? ≠ some '=' ∧ name.head? ≠ some '!')
  /-- A group with flags of its own. -/
  | flags (letters : Text) (nonempty : letters ≠ [])
      (known : ∀ c ∈ letters, c = '-' ∨ (Flag.ofLetter? c).isSome)
  | comment (text : Text) (closed : ')' ∉ text)

namespace Heading

/-- What stands behind the parenthesis and the question mark. -/
def mark : Heading → Text
  | silent => [':']
  | atomic => ['>']
  | look behind negated => (if behind then ['<'] else []) ++ [if negated then '!' else '=']
  | named foreign name _ _ => (if foreign then ['<'] else ['P', '<']) ++ (name ++ ['>'])
  | flags letters _ _ => letters ++ [':']
  | comment text _ => '#' :: (text ++ [')'])

/-- The text of a header. -/
def text (h : Heading) : Text := '(' :: '?' :: h.mark

/-- A header in the syntax of regular expressions. -/
def written : Heading → Text
  | named _ name _ _ => ['(', '?', 'P', '<'] ++ name ++ ['>']
  | h => h.text

/-- The header leaves nothing behind that changes the template after it. A name takes a colon with
it, and a comment one that stands for itself. What else is not kept whole is literal text, which no
parameter may have for a guard, and the colon behind flags may not start a parameter. -/
def Spares (v : Text) : Heading → Prop
  | silent => True
  | atomic => usesGuard (tokens v) = false
  | look _ _ => usesGuard (tokens v) = false
  | named _ _ _ _ => v.head? ≠ some ':'
  | flags _ _ _ => ParamName.read? (':' :: v) = none ∧ usesGuard (tokens v) = false
  | comment _ _ => v.head? = some ':' → ParamName.read? v = none ∧ usesGuard (tokens v) = false

end Heading

/-! ## Drafts set behind a text -/

/-- A draft is another one, set behind a text that comes from `n` code points of the template. -/
structure Draft.SetBehind (d : Draft) (lead : Text) (n : Nat) (e : Draft) : Prop where
  source : d.source = lead ++ e.source
  named : d.named = e.named.shift lead.length n

variable {c : Char} {d e f : Draft} {g r s t u v : Text} {k : Token} {m n : Nat}

theorem Draft.SetBehind.iff_of_behind (h : e.SetBehind u m f) :
    d.SetBehind t n e ↔ d.SetBehind (t ++ u) (n + m) f := by
  constructor
  · rintro ⟨source, named⟩
    exact ⟨by rw [source, h.source, List.append_assoc],
      by rw [named, h.named, KnownKeys.shift_shift, List.length_append]⟩
  · rintro ⟨source, named⟩
    exact ⟨by rw [source, h.source, List.append_assoc],
      by rw [named, h.named, KnownKeys.shift_shift, List.length_append]⟩

theorem Draft.SetBehind.trans (h : d.SetBehind t n e) (h' : e.SetBehind u m f) :
    d.SetBehind (t ++ u) (n + m) f :=
  h'.iff_of_behind.1 h

/-- Two drafts are the same behind a text if they have the same expressions and keys. -/
theorem Draft.SetBehind.iff_same (h : d.SetBehind t n e) :
    d.SetBehind t n f ↔ e.source = f.source ∧ e.named = f.named := by
  constructor
  · rintro ⟨source, named⟩
    exact ⟨List.append_cancel_left (h.source.symm.trans source),
      KnownKeys.shift_inj.1 (h.named.symm.trans named)⟩
  · rintro ⟨source, named⟩
    exact ⟨source ▸ h.source, named ▸ h.named⟩

theorem setBehind_first (ht : tokens t = k :: tokens r) (hk : ∀ p, k ≠ .param p) (g : Text) :
    (draftUnder g t).SetBehind (k.written g) k.size (draftUnder (k.guardAfter g) r) := by
  have first : draftUnder g t = (Draft.push { guard := g } k).followedBy
      (draftUnder (k.guardAfter g) r) := by
    rw [draftUnder, ht, List.foldl_cons, Draft.foldl_push]
    rfl
  rw [first]
  constructor
  · simp [Draft.followedBy, Draft.push]
  · simp [Draft.followedBy, Draft.push, Draft.newKeys_of_ne hk]

/-! ## Literal characters -/

/-- A character that is no mark of templates, and no colon, is a token by itself. -/
theorem first_mark (hc : c ∉ ['\\', '*', '(', '[', '/', '.'])
    (hr : ParamName.read? (c :: r) = none) : Token.first c r = .literal c := by
  have dot : c ≠ '.' := by rintro rfl; exact hc (by decide)
  rw [Token.first, hr]
  dsimp only
  rw [firstPlain_char (by simp_all) (by rintro rfl; exact absurd (by decide) hc), Path.charToken,
    if_neg dot]

theorem read?_mark (hc : c ∉ ['/', '.', ':']) (r : Text) : ParamName.read? (c :: r) = none := by
  simp only [List.mem_cons, List.not_mem_nil, or_false, not_or] at hc
  unfold ParamName.read?
  split
  · next h => exact absurd (List.cons.inj h).1 hc.1
  · next h => exact absurd (List.cons.inj h).1 hc.1
  · next h => exact absurd (List.cons.inj h).1 hc.2.1
  · exact readWord?_eq_none (by simpa using hc.2.2)

/-- The tokens of a template, by the first of them. -/
theorem tokens_first (h : Token.first c r = k) (hu : c :: r = k.text ++ u) :
    tokens (c :: r) = k :: tokens u := by
  rw [tokens]
  rw [h, hu, Token.size, List.drop_left]

theorem tokens_mark (hc : c ∉ ['\\', '*', '(', '[', '/', '.'])
    (hr : ParamName.read? (c :: r) = none) : tokens (c :: r) = .literal c :: tokens r :=
  tokens_first (first_mark hc hr) rfl

theorem setBehind_literal (hc : c ∉ ['\\', '*', '(', '[', '/', '.'])
    (hr : ParamName.read? (c :: r) = none) (g : Text) :
    (draftUnder g (c :: r)).SetBehind [c] 1 (draftUnder (g ++ literal c) r) := by
  have slash : c ≠ '/' := by rintro rfl; exact hc (by decide)
  have := setBehind_first (tokens_mark hc hr) (by simp) g
  rwa [Token.guardAfter, if_neg slash] at this

/-- Literal text stays as it is, and leaves a guard. -/
theorem setBehind_chars (ht : ∀ c ∈ t, c ∉ ['\\', '*', '(', '[', '/', '.', ':']) (g r : Text) :
    (draftUnder g (t ++ r)).SetBehind t t.length (draftUnder (g ++ t.flatMap literal) r) := by
  induction t generalizing g with
  | nil => exact ⟨by simp, by simp [KnownKeys.shift]⟩
  | cons c t ih =>
    have hc := ht c (by simp)
    have first := setBehind_literal (c := c) (r := t ++ r) (by simp_all)
      (read?_mark (by simp_all) _) g
    have rest := first.trans (ih (fun d hd => ht d (by simp [hd])) (g ++ literal c))
    rw [List.append_assoc] at rest
    simpa [Nat.add_comm] using rest

/-- The expression for a parameter starts with a parenthesis. -/
theorem head_param {p : ParamName} (h : ParamName.read? (c :: r) = some p) (g : Text) :
    (draftUnder g (c :: r)).source.head? = some '(' := by
  rw [source_draftUnder, tokens]
  rw [Token.first, h]
  rfl

/-- A name starts with a literal character, if its colon is taken away. -/
theorem head_name {p : ParamName} (h : ParamName.read? (':' :: r) = some p) :
    ∃ c, c ≠ '(' ∧ (draft r).source.head? = some c := by
  have named : (r.takeWhile Text.isWord) ≠ [] := by
    intro none_
    rw [ParamName.read?, ParamName.readWord?, none_] at h
    · cases h
    all_goals simp
  cases r with
  | nil => exact absurd rfl named
  | cons c r =>
    have word : Text.isWord c := by
      by_contra hc
      exact named (List.takeWhile_cons_of_neg hc)
    have marks : ∀ d ∈ ['\\', '*', '(', '[', '/', '.', ':'], Text.isWord d = false := by decide
    have plain : ∀ d ∈ ['\\', '*', '(', '[', '/', '.', ':'], c ≠ d := by
      rintro d hd rfl
      rw [marks c hd] at word
      cases word
    have first := setBehind_chars (t := [c]) (by simpa using plain) [] r
    rw [draftUnder_nil] at first
    exact ⟨c, plain '(' (by decide), congrArg List.head? first.source⟩

/-! ## Headers -/

/-- A header that is kept is a token, together with a colon behind it. -/
theorem tokens_kept {o : Opening} (h : Header.read ('(' :: '?' :: (s ++ u)) = ⟨o, s.length + 2⟩)
    (hu : u = leadingColon u ++ v) :
    tokens ('(' :: '?' :: (s ++ u)) =
      .header ('(' :: '?' :: (s ++ leadingColon u)) o.name? :: tokens v := by
  have first : Token.first '(' ('?' :: (s ++ u)) =
      .header ('(' :: '?' :: (s ++ leadingColon u)) o.name? :=
    @readHeader_eq ('(' :: '?' :: s) u o h
  refine tokens_first first ?_
  conv => lhs; rw [hu]
  simp [Token.text]

/-- A header without a name stays as it is. -/
theorem setBehind_kept (h : Header.read ('(' :: '?' :: (s ++ u)) = ⟨.silent, s.length + 2⟩)
    (hu : u = leadingColon u ++ v) :
    (draft ('(' :: '?' :: (s ++ u))).SetBehind ('(' :: '?' :: (s ++ leadingColon u))
      (s ++ leadingColon u).length.succ.succ (draft v) :=
  setBehind_first (tokens_kept h hu) (by simp) []

/-- Literal characters behind the start of a header. -/
theorem setBehind_marks (hc : ∀ c ∈ t, c ∉ ['\\', '*', '(', '[', '/', '.', ':']) (hn : t ≠ [])
    (h : Header.read ('(' :: '?' :: (t ++ v)) = ⟨.silent, 2⟩) :
    (draft ('(' :: '?' :: (t ++ v))).SetBehind ('(' :: '?' :: t) (t.length + 2)
      (draftUnder (t.flatMap literal) v) := by
  have colon : leadingColon (t ++ v) = [] := by
    cases t with
    | nil => exact absurd rfl hn
    | cons c t =>
      have := hc c (by simp)
      simp only [List.mem_cons, not_or] at this
      simp [leadingColon, this]
  have front := setBehind_kept (s := []) (u := t ++ v) (v := t ++ v) h (by rw [colon]; rfl)
  rw [colon] at front
  have := front.trans (draftUnder_nil (t ++ v) ▸ setBehind_chars hc [] v)
  simpa [Nat.add_comm] using this

/-- Behind literal characters a template is drafted as it is alone, if it uses no guard. -/
theorem marks_spare (hc : ∀ c ∈ t, c ∉ ['\\', '*', '(', '[', '/', '.', ':']) (hn : t ≠ [])
    (h : Header.read ('(' :: '?' :: (t ++ v)) = ⟨.silent, 2⟩) :
    (draft ('(' :: '?' :: (t ++ v))).SetBehind ('(' :: '?' :: t) (t.length + 2) (draft v) ↔
      usesGuard (tokens v) = false := by
  rw [(setBehind_marks hc hn h).iff_same]
  exact agree_draftUnder_iff (flatMap_literal_ne_nil hn)

/-- A colon starts a parameter, or it is literal text. -/
theorem colon_cases (v g : Text) :
    (ParamName.read? (':' :: v) ≠ none ∧ (draftUnder g (':' :: v)).source.head? = some '(' ∧
        ∃ c, c ≠ '(' ∧ (draft v).source.head? = some c) ∨
      ParamName.read? (':' :: v) = none ∧
        (draftUnder g (':' :: v)).SetBehind [':'] 1 (draftUnder (g ++ [':']) v) := by
  cases h : ParamName.read? (':' :: v) with
  | some p => exact .inl ⟨by simp, head_param h g, head_name h⟩
  | none => exact .inr ⟨rfl, setBehind_literal (by decide) h g⟩

theorem usesGuard_colon (h : ParamName.read? (':' :: v) = none) :
    usesGuard (tokens (':' :: v)) = usesGuard (tokens v) := by
  rw [tokens_mark (by decide) h]
  rfl

theorem colon_or_not (v : Text) :
    (∃ w, v = ':' :: w) ∨ (v.head? ≠ some ':' ∧ leadingColon v = []) := by
  by_cases hv : v.head? = some ':'
  · cases v with
    | nil => cases hv
    | cons c r => exact .inl ⟨r, by rw [show c = ':' by simpa using hv]⟩
  · exact .inr ⟨hv, if_neg hv⟩

/-- A colon that a name takes with it is missed. -/
theorem named_spares {name : Text}
    (h : Header.read ('(' :: '?' :: (s ++ v)) = ⟨.named name, s.length + 2⟩) :
    (draft ('(' :: '?' :: (s ++ v))).SetBehind (['(', '?', 'P', '<'] ++ name ++ ['>'])
      (s.length + 2) (draft v) ↔ v.head? ≠ some ':' := by
  obtain ⟨w, hw⟩ := leadingColon_append v
  have behind := setBehind_first (tokens_kept h hw) (by simp) []
  rcases colon_or_not v with ⟨v, rfl⟩ | ⟨hv, none_⟩
  · obtain rfl : v = w := (List.cons.inj hw).2
    refine iff_of_false (fun alone => ?_) (by simp)
    have same : (draft v).source = (draft (':' :: v)).source :=
      List.append_cancel_left (behind.source.symm.trans alone.source)
    rcases colon_cases v [] with ⟨-, paren, c, hc, head⟩ | ⟨-, colon⟩
    · rw [draftUnder_nil, ← same, head] at paren
      exact hc (Option.some.inj paren)
    · have longer := congrArg List.length colon.source
      rw [draftUnder_nil, ← same, List.length_append, source_draft, source_draftUnder] at longer
      have := length_writtenFrom_le (tokens v) [':']
      simp only [List.length_cons, List.length_nil, List.nil_append] at longer this
      omega
  · rw [none_, List.nil_append] at hw
    subst hw
    refine iff_of_true ?_ hv
    rw [none_, List.append_nil] at behind
    exact behind

/-- A colon behind a comment is literal text, though it would start a parameter. -/
theorem comment_spares (h : Header.read ('(' :: '?' :: (s ++ v)) = ⟨.silent, s.length + 2⟩) :
    (draft ('(' :: '?' :: (s ++ v))).SetBehind ('(' :: '?' :: s) (s.length + 2) (draft v) ↔
      (v.head? = some ':' → ParamName.read? v = none ∧ usesGuard (tokens v) = false) := by
  obtain ⟨w, hw⟩ := leadingColon_append v
  have behind := setBehind_kept h hw
  rcases colon_or_not v with ⟨v, rfl⟩ | ⟨hv, none_⟩
  · obtain rfl : v = w := (List.cons.inj hw).2
    have behind : (draft ('(' :: '?' :: (s ++ ':' :: v))).SetBehind ('(' :: '?' :: s ++ [':'])
        (s.length + 2 + 1) (draft v) := by
      simpa [leadingColon] using behind
    rcases colon_cases v [] with ⟨param, paren, -⟩ | ⟨none_, colon⟩
    · refine iff_of_false (fun alone => ?_) fun h => param (h rfl).1
      have same := alone.source
      rw [behind.source, List.append_assoc] at same
      rw [draftUnder_nil, ← List.append_cancel_left same] at paren
      cases paren
    · rw [draftUnder_nil] at colon
      rw [colon.iff_of_behind, behind.iff_same, eq_comm,
        @eq_comm _ (draft v).named, List.nil_append, agree_draftUnder_iff (by simp),
        usesGuard_colon none_]
      exact ⟨fun h _ => ⟨none_, h⟩, fun h => (h rfl).2⟩
  · rw [none_, List.nil_append] at hw
    subst hw
    refine iff_of_true ?_ fun h => absurd h hv
    simpa [none_] using behind

theorem flag_not_mem {l : List Char} (h : c = '-' ∨ (Flag.ofLetter? c).isSome)
    (hl : ∀ d ∈ l, d ≠ '-' ∧ (Flag.ofLetter? d).isSome = false) : c ∉ l := by
  intro hc
  obtain ⟨h1, h2⟩ := hl c hc
  rcases h with h | h
  · exact h1 h
  · rw [h2] at h
    cases h

/-- A colon behind flags may start a parameter. -/
theorem flags_spare (hc : ∀ c ∈ t, c ∉ ['\\', '*', '(', '[', '/', '.', ':']) (hn : t ≠ [])
    (h : Header.read ('(' :: '?' :: (t ++ ':' :: v)) = ⟨.silent, 2⟩) :
    (draft ('(' :: '?' :: (t ++ ':' :: v))).SetBehind ('(' :: '?' :: (t ++ [':'])) (t.length + 3)
      (draft v) ↔ ParamName.read? (':' :: v) = none ∧ usesGuard (tokens v) = false := by
  have behind := setBehind_marks hc hn h
  rcases colon_cases v (t.flatMap literal) with ⟨param, paren, -⟩ | ⟨none_, colon⟩
  · refine iff_of_false (fun alone => ?_) fun h => param h.1
    have same : ('(' :: '?' :: t) ++ (draftUnder (t.flatMap literal) (':' :: v)).source =
        ('(' :: '?' :: t) ++ ':' :: (draft v).source := by
      simpa using behind.source.symm.trans alone.source
    rw [List.append_cancel_left same] at paren
    cases paren
  · have whole : (draft ('(' :: '?' :: (t ++ ':' :: v))).SetBehind ('(' :: '?' :: (t ++ [':']))
        (t.length + 3) (draftUnder (t.flatMap literal ++ [':']) v) := behind.trans colon
    rw [whole.iff_same, agree_draftUnder_iff (by simp)]
    simp [none_]

/-- A template behind a group header is drafted as it is alone, but that its groups open behind the
header and its parameters end behind it, just if the header spares the template. -/
theorem draft_heading (h : Heading) (v : Text) :
    ((draft (h.text ++ v)).source = h.written ++ (draft v).source ∧
        (draft (h.text ++ v)).named = (draft v).named.shift h.written.length h.text.length) ↔
      h.Spares v := by
  have pair : ((draft (h.text ++ v)).source = h.written ++ (draft v).source ∧
      (draft (h.text ++ v)).named = (draft v).named.shift h.written.length h.text.length) ↔
      (draft (h.text ++ v)).SetBehind h.written h.text.length (draft v) :=
    ⟨fun ⟨source, named⟩ => ⟨source, named⟩, fun h => ⟨h.source, h.named⟩⟩
  rw [pair]
  cases h with
  | silent => exact iff_of_true (setBehind_kept (s := []) rfl rfl) trivial
  | atomic => exact marks_spare (t := ['>']) (by decide) (by simp) rfl
  | look behind negated =>
    cases behind <;> cases negated
    · exact marks_spare (t := ['=']) (by decide) (by simp) rfl
    · exact marks_spare (t := ['!']) (by decide) (by simp) rfl
    · exact marks_spare (t := ['<', '=']) (by decide) (by simp) rfl
    · exact marks_spare (t := ['<', '!']) (by decide) (by simp) rfl
  | named foreign name closed apart =>
    have cut : ∀ n,
        Header.readName n (name ++ ['>'] ++ v) = ⟨.named name, n + name.length + 1⟩ := by
      intro n
      rw [List.append_assoc, Header.readName, List.cons_append, Text.cut?_of_not_mem closed]
    cases foreign with
    | false =>
      refine named_spares (s := 'P' :: '<' :: (name ++ ['>'])) (v := v) ?_
      refine (cut 4).trans ?_
      simp
      omega
    | true =>
      refine named_spares (s := '<' :: (name ++ ['>'])) (v := v) ?_
      have name_ : Header.read ('(' :: '?' :: '<' :: (name ++ ['>'] ++ v)) =
          Header.readName 3 (name ++ ['>'] ++ v) := by
        cases name with
        | nil => rfl
        | cons c name =>
          obtain ⟨h1, h2⟩ := apart rfl
          exact Header.read_name (by simpa using h1) (by simpa using h2) _
      refine (name_.trans (cut 3)).trans ?_
      simp
      omega
  | flags letters nonempty known =>
    have marks : ∀ c ∈ letters, c ∉ ['\\', '*', '(', '[', '/', '.', ':'] := fun c hc =>
      flag_not_mem (known c hc) (by decide)
    have read : Header.read ('(' :: '?' :: (letters ++ ':' :: v)) = ⟨.silent, 2⟩ := by
      cases letters with
      | nil => exact absurd rfl nonempty
      | cons c letters => exact Header.read_silent (flag_not_mem (known c (by simp)) (by decide)) _
    have := flags_spare marks nonempty read
    simpa [Heading.text, Heading.mark, Heading.written, Heading.Spares] using this
  | comment text closed =>
    refine comment_spares (s := '#' :: (text ++ [')'])) (v := v) ?_
    have cut : Text.cut? ')' (text ++ [')'] ++ v) = some (text, v) := by
      rw [List.append_assoc, List.cons_append]
      exact Text.cut?_of_not_mem closed v
    change Header.readComment 3 (text ++ [')'] ++ v) = _
    rw [Header.readComment, cut]
    simp
    omega

/-- A parameter behind a header that does not spare it: its colon is missed behind a name and is
literal text behind a comment, the colon behind flags starts it, and behind a look-ahead it has a
guard. -/
theorem heading_changes_param :
    (draft "(?P<n>:x".toList).source ≠ "(?P<n>".toList ++ (draft ":x".toList).source ∧
      (draft "(?#c):x".toList).source ≠ "(?#c)".toList ++ (draft ":x".toList).source ∧
      (draft "(?i:x".toList).source ≠ "(?i:".toList ++ (draft "x".toList).source ∧
      (draft "(?=:x".toList).source ≠ "(?=".toList ++ (draft ":x".toList).source := by
  decide +kernel

end RoutePattern
