import RoutePattern.Proofs.Reader.Lead
import RoutePattern.Proofs.Template.Ending

/-! # Templates that refer to no group

A template without references becomes an expression without references: what is put in between its
parts makes up none with them.

* `RefersNowhere`: what is asked of a template; `bare_of_refersNowhere`: its characters one by one.
* `Lead.Writes`: what is written for a part of a template is clean, and leads nowhere that the part
  does not.
* `clean_anchored`: the anchored expression of such a template is clean.
-/

namespace RoutePattern

open Scan Regex Regex.Reader

/-- The template refers to no group by number or by name, and has no condition on a group. -/
structure RefersNowhere (t : Text) : Prop where
  number : ∀ d, isDigit d → ¬ ['\\', d] <:+: t
  name : ¬ ['(', '?', 'P', '='] <:+: t
  condition : ¬ ['(', '?', '('] <:+: t

namespace Regex.Reader.Lead

/-! ## Leads in a template -/

/-- The character makes up no reference to a group and no condition. -/
def Bears : Lead → Char → Prop
  | slash, c => isDigit c = false
  | head, c => c ≠ '('
  | headP, c => c ≠ '='
  | _, _ => True

/-- No characters of the text make up a reference to a group or a condition. -/
def Bare : Lead → Text → Prop
  | _, [] => True
  | L, c :: t => L.Bears c ∧ (L.next c).Bare t

theorem bare_append {L : Lead} {t u : Text} : L.Bare (t ++ u) ↔ L.Bare t ∧ (L.after t).Bare u := by
  induction t generalizing L with
  | nil => simp [Bare, after]
  | cons c t ih =>
    simp only [List.cons_append, Bare, ih, and_assoc]
    rfl

/-- The text ends with a lead. -/
def Behind : Lead → Text → Prop
  | clear, _ => True
  | slash, t => ∃ u, t = u ++ ['\\']
  | paren, t => ∃ u, t = u ++ ['(']
  | head, t => ∃ u, t = u ++ ['(', '?']
  | headP, t => ∃ u, t = u ++ ['(', '?', 'P']
  | ask, t => ∃ u, t = u ++ ['(', '?', '(']

theorem Behind.next {L : Lead} {t : Text} (h : L.Behind t) (c : Char) :
    (L.next c).Behind (t ++ [c]) := by
  unfold Lead.next
  split
  · exact ⟨t, rfl⟩
  · obtain ⟨u, rfl⟩ := h
    exact ⟨u, by simp⟩
  · exact ⟨t, rfl⟩
  · obtain ⟨u, rfl⟩ := h
    exact ⟨u, by simp⟩
  · obtain ⟨u, rfl⟩ := h
    exact ⟨u ++ ['(', '?'], by simp⟩
  · obtain ⟨u, rfl⟩ := h
    exact ⟨u, by simp⟩
  · trivial

end Regex.Reader.Lead

theorem RefersNowhere.bears {t u v : Text} {c : Char} {L : Lead} (h : RefersNowhere t)
    (ht : t = u ++ c :: v) (hb : L.Behind u) : L.Bears c := by
  cases L with
  | slash =>
    obtain ⟨w, rfl⟩ := hb
    exact Bool.eq_false_iff.2 fun hd => h.number c hd ⟨w, v, by rw [ht]; simp⟩
  | head =>
    obtain ⟨w, rfl⟩ := hb
    rintro rfl
    exact h.condition ⟨w, v, by rw [ht]; simp⟩
  | headP =>
    obtain ⟨w, rfl⟩ := hb
    rintro rfl
    exact h.name ⟨w, v, by rw [ht]; simp⟩
  | _ => trivial

theorem bare_of_refersNowhere {t : Text} (h : RefersNowhere t) : Lead.clear.Bare t := by
  have go : ∀ (v u : Text) (L : Lead), t = u ++ v → L.Behind u → L.Bare v := by
    intro v
    induction v with
    | nil => exact fun _ _ _ _ => trivial
    | cons c v ih => exact fun u L ht hb => ⟨h.bears ht hb, ih _ _ (by simp [ht]) (hb.next c)⟩
  exact go t [] .clear rfl trivial

namespace Regex.Reader.Lead

variable {L L' : Lead} {w r : Text}

/-! ## What is written for a part -/

/-- The lead is none, or the other one, and nothing is asked for. -/
def Under (L L' : Lead) : Prop := L = clear ∨ (L = L' ∧ L ≠ ask)

theorem Under.ne_ask (h : L.Under L') : L ≠ ask := by
  rcases h with rfl | ⟨-, h⟩
  · exact nofun
  · exact h

theorem clear_under : clear.Under L' := .inl rfl

/-- What is written for a part of a template is clean, and leads nowhere that the part does not. -/
structure Writes (L L' : Lead) (w r : Text) : Prop where
  clean : L.Clean w
  under : (L.after w).Under (L'.after r)

theorem Writes.append {v q : Text} (h : Writes L L' w r)
    (h' : (L.after w).Writes (L'.after r) v q) : Writes L L' (w ++ v) (r ++ q) where
  clean := clean_append.2 ⟨h.clean, h'.clean⟩
  under := by rw [after_append, after_append]; exact h'.under

/-- A character leads where it does behind any lead, unless it makes up a condition. -/
theorem clear_next_under {c : Char} (hb : L'.Bears c) : (clear.next c).Under (L'.next c) := by
  by_cases hs : c = '\\'
  · subst hs
    exact .inr ⟨by simp, by simp⟩
  · by_cases hp : c = '('
    · subst hp
      refine .inr ⟨?_, nofun⟩
      rw [next_paren, next_paren, if_neg nofun, if_neg]
      rintro rfl
      exact hb rfl
    · refine .inl ?_
      unfold Lead.next
      split <;> simp_all

theorem Under.next {c : Char} (hu : L.Under L') (hb : L'.Bears c) :
    (L.next c).Under (L'.next c) := by
  have ask : ∀ {L : Lead}, L ≠ ask → L.Bears c → L.next c ≠ Lead.ask := by
    intro L hl hb he
    unfold Lead.next at he
    split at he <;> first | exact hb rfl | cases he
  rcases hu with rfl | ⟨rfl, hl⟩
  · exact clear_next_under hb
  · exact .inr ⟨rfl, ask hl hb⟩

/-- A part may stay as it is. -/
theorem writes_copy (hu : L.Under L') (hb : L'.Bare r) : Writes L L' r r := by
  induction r generalizing L L' with
  | nil => exact ⟨trivial, hu⟩
  | cons c r ih =>
    obtain ⟨clean, under⟩ := ih (hu.next hb.1) hb.2
    refine ⟨⟨?_, clean⟩, under⟩
    rcases hu with rfl | ⟨rfl, hl⟩
    · trivial
    · cases L with
      | slash => exact hb.1
      | headP => exact hb.1
      | ask => exact absurd rfl hl
      | _ => trivial

/-- The text makes up no reference, whatever stands before it, and leads nowhere. -/
def Seals (w : Text) : Prop :=
  ∀ L ∈ [clear, slash, paren, head, headP], L.Clean w ∧ L.after w = clear

instance (w : Text) : Decidable (Seals w) :=
  inferInstanceAs (Decidable (∀ L ∈ [clear, slash, paren, head, headP], _))

theorem Seals.at (h : Seals w) (hl : L ≠ ask) : L.Clean w ∧ L.after w = clear := by
  refine h L ?_
  cases L with
  | ask => exact absurd rfl hl
  | _ => simp

theorem Seals.writes (h : Seals w) (hu : L.Under L') (r : Text) : Writes L L' w r :=
  ⟨(h.at hu.ne_ask).1, (h.at hu.ne_ask).2 ▸ clear_under⟩

/-- A text that asks for nothing, between two that seal what stands before them. -/
theorem Seals.around {v : Text} (h : Seals w) (hr : clear.Clean r) (hn : clear.after r ≠ ask)
    (h' : Seals v) : Seals (w ++ r ++ v) := by
  intro L hl
  obtain ⟨clean, ends⟩ := h L hl
  obtain ⟨clean', ends'⟩ := h'.at hn
  refine ⟨clean_append.2 ⟨clean_append.2 ⟨clean, ends ▸ hr⟩, ?_⟩, ?_⟩
  · rwa [after_append, ends]
  · rw [after_append, after_append, ends, ends']

end Regex.Reader.Lead

open Lead

variable {L L' : Lead} {g : Text}

/-! ## Parameters -/

/-- A guard is clean, and leads nowhere that the template does not. -/
structure Guards (g : Text) (L' : Lead) : Prop where
  clean : clear.Clean g
  under : (clear.after g).Under L'

theorem guards_nil (L' : Lead) : Guards [] L' := ⟨trivial, clear_under⟩

theorem Guards.append {w r : Text} (hg : Guards g L') (h : (clear.after g).Writes L' w r) :
    Guards (g ++ w) (L'.after r) where
  clean := clean_append.2 ⟨hg.clean, h.clean⟩
  under := by rw [after_append]; exact h.under

theorem writes_expandPieces {ps : List Piece} {repeatable : Bool} (hu : L.Under L')
    (hb : L'.Bare (spell ps)) : Writes L L' (expandPieces repeatable ps) (spell ps) := by
  induction ps generalizing L L' repeatable with
  | nil => exact ⟨trivial, hu⟩
  | cons p ps ih =>
    rw [spell, List.flatMap_cons, bare_append] at hb
    rw [spell, List.flatMap_cons]
    have first := writes_copy hu hb.1
    have rest : ∀ b, Writes L L' (p.text ++ expandPieces b ps) (p.text ++ ps.flatMap Piece.text) :=
      fun b => first.append (ih first.under hb.2)
    cases p with
    | escape c => exact rest true
    | charClass t => exact rest true
    | char c =>
      by_cases hs : c = '*'
      · subst hs
        rw [expandPieces]
        cases repeatable with
        | true => exact rest true
        | false =>
          have star : Seals wildcard := by decide
          have wild := star.writes hu ['*']
          exact wild.append (ih wild.under hb.2)
      · rw [expandPieces.eq_3 _ _ _ (by simpa using hs)]
        exact rest _

/-- The group written after a parameter. -/
theorem clean_ownGroup {capture : Text} (hc : ∃ u, capture = '(' :: u) (hb : L'.Bare capture) :
    clear.Clean (Param.ownGroup capture) ∧ clear.after (Param.ownGroup capture) ≠ ask := by
  obtain ⟨u, rfl⟩ := hc
  have text : spell (pieces ('(' :: u)) = '(' :: u := text_pieces _
  have inner : Writes clear L' (expandPieces false (pieces ('(' :: u))) (spell (pieces ('(' :: u))) :=
    writes_expandPieces clear_under (text.symm ▸ hb)
  have paren : expandPieces false (pieces ('(' :: u)) = '(' :: expandPieces false (pieces u) := by
    rw [pieces_plain (by decide) (by decide), expandPieces_paren]
  unfold Param.ownGroup expandWildcards
  dsimp only
  split
  · exact ⟨inner.clean, inner.under.ne_ask⟩
  · -- one parenthesis more stands before the group, and leads where one does
    have close : Seals [')'] := by decide
    obtain ⟨clean, ends⟩ := close.at inner.under.ne_ask
    rw [paren] at inner clean ends ⊢
    have front : clear.Clean ('(' :: '(' :: expandPieces false (pieces u)) :=
      ⟨trivial, trivial, inner.clean.2⟩
    have same : clear.after ('(' :: '(' :: expandPieces false (pieces u)) =
        clear.after ('(' :: expandPieces false (pieces u)) := rfl
    refine ⟨clean_append.2 ⟨front, same ▸ clean⟩, ?_⟩
    rw [after_append, same, ends]
    decide

theorem clean_defaultGroup (hg : Guards g L') (p : Param) :
    clear.Clean (p.defaultGroup g) ∧ clear.after (p.defaultGroup g) ≠ ask := by
  have sealed : ∀ {w : Text}, Seals w → clear.Clean w ∧ clear.after w ≠ ask := by
    intro w h
    obtain ⟨clean, ends⟩ := h clear (by simp)
    exact ⟨clean, by rw [ends]; decide⟩
  unfold Param.defaultGroup
  dsimp only
  split
  · unfold Param.formatText
    split <;> exact sealed (by decide)
  · have guard : Guards (p.guardFor g) L' := by
      unfold Param.guardFor
      split
      · exact guards_nil L'
      · exact hg
    have front : Seals ['(', '(', '?', ':', '(', '?', '!', '/', '|'] := by decide
    have back : Seals [')', '.', ')', '+', '?', ')'] := by decide
    exact sealed (front.around guard.clean guard.under.ne_ask back)

/-- A parameter leads nowhere, whatever stands before it. -/
theorem seals_written {p : Param} (hg : Guards g L')
    (hp : ∀ capture, p.capture = some capture →
      (∃ u, capture = '(' :: u) ∧ ∃ M : Lead, M.Bare capture) : Seals (p.written g) := by
  have group : clear.Clean (p.group g) ∧ clear.after (p.group g) ≠ ask := by
    unfold Param.group
    split
    · next u hu =>
      obtain ⟨paren, M, bare⟩ := hp u hu
      exact clean_ownGroup paren bare
    · exact clean_defaultGroup hg p
  have opening : Seals p.opening := by
    unfold Param.opening Param.formatText
    cases p.slash <;> cases p.format <;> decide
  have rest : Seals (p.restGroup ++ ')' :: if p.marks.optional then ['?'] else []) := by
    unfold Param.restGroup Param.formatText
    cases p.format <;> cases p.marks.star <;> cases p.marks.optional <;> decide
  rw [Param.written, List.append_assoc]
  exact opening.around group.1 group.2 rest

/-! ## Tokens -/

/-- The group of a parameter starts with a parenthesis, and a name stands between `<` and `>`. -/
def Token.IsWhole : Token → Prop
  | .param p => ∀ capture, p.capture = some capture → ∃ u, capture = '(' :: u
  | .header source (some name) =>
    ∃ front ∈ [['(', '?', 'P', '<'], ['(', '?', '<']], ∃ u, source = front ++ (name ++ '>' :: u)
  | _ => True

theorem whole_readHeader (r : Text) : (Token.readHeader ('(' :: '?' :: r)).IsWhole := by
  have kept : KeepsHeader ('(' :: '?' :: r) → (Token.readHeader ('(' :: '?' :: r)).IsWhole := by
    rintro (⟨front, u, -, -, h⟩ | ⟨front, name, u, -, hf, -, h⟩)
    · rw [h]
      trivial
    · rw [h]
      exact ⟨front, hf, _, rfl⟩
  rcases Header.read_cases r with ⟨s, rfl⟩ | ⟨s, rfl, h⟩ | ⟨s, rfl, h⟩ | h
  · have silent : (Header.read ('(' :: '?' :: '#' :: s)).opening.name? = none := by
      rw [Header.read, Header.readComment]
      split <;> rfl
    rw [Token.readHeader, silent]
    trivial
  · exact kept (@keepsHeader_named ['(', '?', 'P', '<'] s (by simp) h)
  · exact kept (@keepsHeader_named ['(', '?', '<'] s (by simp) h)
  · exact kept (.inl ⟨['(', '?'], r, rfl, by simp, @readHeader_eq ['(', '?'] r _ h⟩)

theorem whole_first (c : Char) (r : Text) : (Token.first c r).IsWhole := by
  unfold Token.first
  split
  · intro capture h
    unfold Token.readParam at h
    dsimp only at h
    split at h
    · next s hs =>
      obtain ⟨n, hn, rfl⟩ := Option.map_eq_some_iff.1 h
      rw [hs, groupSize?, pieces_plain (by decide) (by decide)] at hn
      rw [hs]
      obtain ⟨m, -, rfl⟩ := Option.map_eq_some_iff.1 hn
      exact ⟨s.take m, rfl⟩
    · cases h
  · unfold Token.firstPlain
    split <;> first | exact whole_readHeader _ | trivial

/-- A character of the guard stays as it is, or has a backslash in front. -/
theorem writes_literal {c : Char} (hu : L.Under L') (hb : L'.Bears c) :
    Writes L L' (literal c) [c] := by
  unfold literal
  split
  · next hs =>
    have digit : isDigit c = false := by
      have none : ∀ d ∈ specialChars, isDigit d = false := by decide
      exact none c (by simpa using hs)
    have slash : L.Allows '\\' := by
      cases L with
      | ask => exact absurd rfl hu.ne_ask
      | _ => decide
    have escaped : (L.next '\\').Allows c := by rwa [next_backslash]
    have leads : (L.next '\\').next c = clear.next c := by
      rw [next_backslash]
      exact slash_next c
    refine ⟨⟨slash, escaped, trivial⟩, ?_⟩
    show ((L.next '\\').next c).Under (L'.next c)
    rw [leads]
    exact clear_next_under hb
  · exact writes_copy hu ⟨hb, trivial⟩

/-- What a token becomes, and the guard behind it. -/
theorem writes_token {k : Token} (hk : k.IsWhole) (hu : L.Under L') (hb : L'.Bare k.text)
    (hg : Guards g L') :
    Writes L L' (k.written g) k.text ∧ Guards (k.guardAfter g) (L'.after k.text) := by
  cases k with
  | escape c => exact ⟨writes_copy hu hb, hg.append (writes_copy hg.under hb)⟩
  | param p =>
    have bare : ∀ capture, p.capture = some capture →
        (∃ u, capture = '(' :: u) ∧ ∃ M : Lead, M.Bare capture := by
      intro capture hc
      rw [Token.text, Param.text, hc, bare_append, bare_append] at hb
      exact ⟨hk capture hc, _, hb.1.2⟩
    exact ⟨(seals_written hg bare).writes hu _, guards_nil _⟩
  | dot =>
    have dot : Seals ['\\', '.'] := by decide
    exact ⟨dot.writes hu _, hg.append (dot.writes hg.under _)⟩
  | star =>
    have star : Seals wildcard := by decide
    exact ⟨star.writes hu _, guards_nil _⟩
  | slashGroup =>
    have group : Seals ['/', '(', '?', ':'] := by decide
    exact ⟨group.writes hu _, guards_nil _⟩
  | header source name =>
    cases name with
    | none => exact ⟨writes_copy hu hb, guards_nil _⟩
    | some name =>
      obtain ⟨front, -, u, rfl⟩ := hk
      rw [Token.text, bare_append, bare_append] at hb
      have inner : Writes clear (L'.after front) name name := writes_copy clear_under hb.2.1
      have before : Seals ['(', '?', 'P', '<'] := by decide
      have behind : Seals ['>'] := by decide
      have whole := before.around inner.clean inner.under.ne_ask behind
      exact ⟨whole.writes hu _, guards_nil _⟩
  | charClass source => exact ⟨writes_copy hu hb, guards_nil _⟩
  | literal c =>
    refine ⟨writes_copy hu hb, ?_⟩
    rw [Token.guardAfter]
    split
    · exact guards_nil _
    · exact hg.append (writes_literal hg.under hb.1)

theorem writes_tokens {ks : List Token} (hk : ∀ k ∈ ks, k.IsWhole) (hu : L.Under L')
    (hb : L'.Bare (ks.flatMap Token.text)) (hg : Guards g L') :
    Writes L L' (writtenFrom g ks) (ks.flatMap Token.text) := by
  induction ks generalizing L L' g with
  | nil => exact ⟨trivial, hu⟩
  | cons k ks ih =>
    rw [List.flatMap_cons, bare_append] at hb
    obtain ⟨first, guard⟩ := writes_token (hk k (by simp)) hu hb.1 hg
    rw [writtenFrom, List.flatMap_cons]
    exact first.append (ih (fun l hl => hk l (by simp [hl])) first.under hb.2 guard)

theorem whole_tokens (t : Text) : ∀ k ∈ tokens t, k.IsWhole := by
  fun_induction tokens t with
  | case1 => simp
  | case2 c r k ih =>
    intro l hl
    rcases List.mem_cons.1 hl with rfl | hl
    · exact whole_first c r
    · exact ih l hl

/-- The anchored expression of a template that refers to no group is clean. -/
theorem clean_anchored {t : Text} (ht : RefersNowhere t) (o : Options) :
    clear.Clean (o.anchored (draft t).source) := by
  have written : Writes clear clear (writtenFrom [] (tokens t)) ((tokens t).flatMap Token.text) :=
    writes_tokens (whole_tokens t) clear_under
      ((text_tokens t).symm ▸ bare_of_refersNowhere ht) (guards_nil _)
  have ending : ∀ slash, ∀ L ≠ ask, L.Clean (o.ending slash) := by
    obtain ⟨strict, toEnd, sensitive⟩ := o
    intro slash L hl
    unfold Options.ending Options.closing
    cases L with
    | ask => exact absurd rfl hl
    | _ => cases strict <;> cases toEnd <;> cases sensitive <;> cases slash <;> decide
  rw [anchored_ending, source_draft]
  exact ⟨trivial, clean_append.2 ⟨written.clean, ending _ _ written.under.ne_ask⟩⟩

end RoutePattern
