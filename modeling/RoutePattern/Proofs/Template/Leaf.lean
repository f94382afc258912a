import RoutePattern.Proofs.Reader.Place
import RoutePattern.Proofs.Template.Anchored

/-! # The groups of an anchored expression

`passes_anchored`: where an anchored expression is accepted, alone or in a row of alternatives, the
reader meets the groups that the scanner finds in the expression without its anchors.

* `StartsApart`: texts before which a construct may end and an item may start.
* `leads_before`, `leads_param`: the expression of a template is read up to a token.
* `opening_mem`: the scanner finds a group where the group of a parameter opens.
-/

namespace RoutePattern

open Scan Regex Regex.Reader

variable {st nx : State} {t u v w : Text}

/-! ## Where an item may start -/

/-- The text starts with something that parts items, if with anything. -/
def StartsApart (v : Text) : Prop :=
  v = [] ∨ (∃ c u, v = c :: u ∧ c ∈ ['/', '$', '|', '?']) ∨ (∃ u, v = '(' :: '?' :: u) ∨
    ∃ c u, v = '\\' :: c :: u

theorem place_of_startsApart (ho : st.Outside) (hv : StartsApart v) (ha : Accepts st v) :
    st.mode.IsPlace := by
  rcases hv with rfl | ⟨c, u, rfl, hc⟩ | ⟨u, rfl⟩ | ⟨c, u, rfl⟩
  · obtain ⟨q, hq⟩ := accepts_nil.1 ha
    rcases place_of_finish hq with place | ⟨hm, -⟩
    · exact place
    · have outside := ho.mode
      rw [hm] at outside
      exact outside.elim
  · have parts : ∀ c ∈ ['/', '$', '|', '?'], Parts (.plain c) ∧ c ≠ '\\' ∧ c ≠ '(' := by decide
    obtain ⟨h1, h2, h3⟩ := parts c hc
    exact (place_of_accepts ho h1 (by simpa using h2) (by simpa using h3) ha).1
  · exact (open_group (c := '?') ho (by decide) ha).1
  · exact (place_of_accepts (y := .escaped c) ho trivial (by simp) (by simp) ha).1

/-- Where an item may start, and no group has just been opened. -/
structure Regex.Reader.State.Rests (st : State) : Prop where
  outside : st.Outside
  place : st.mode.IsPlace
  entered : ∀ i, st.mode ≠ .opened i

theorem sight_of_isPlace {m : Mode} (h : m.IsPlace) (hn : ∀ i, m ≠ .opened i) (pos : Nat)
    (rest : Text) : m.sight pos rest = openingsFrom pos rest := by
  cases m with
  | opened i => exact absurd rfl (hn i)
  | octal site d => rw [show site = .item from h]; rfl
  | items => rfl
  | repeated => rfl
  | braces => rfl
  | reference => rfl
  | _ => exact h.elim

/-- Where an item may start, nothing is left to be found at the end. -/
theorem scanned_nil (h : st.mode.IsPlace) (hn : ∀ i, st.mode ≠ .opened i) (pos : Nat) :
    st.scanned pos [] = st.found := by
  rw [State.scanned, sight_of_isPlace h hn, openingsFrom_nil, List.append_nil]

/-- The scanner finds what the reader has met. -/
theorem openings_of_passes (pass : Passes (start {}) t nx) (h : nx.mode.IsPlace)
    (hn : ∀ i, nx.mode ≠ .opened i) : openings t = nx.found := by
  obtain ⟨-, -, sees⟩ := pass.sees trivial
  have found := sees []
  rw [scanned_nil h hn, List.append_nil] at found
  exact found.symm

theorem placed_of_isPlace {m : Mode} (h : m.IsPlace) (hn : ∀ i, m ≠ .opened i) (pos : Nat) :
    m.Placed pos := by
  cases m with
  | opened i => exact absurd rfl (hn i)
  | items => trivial
  | repeated => trivial
  | braces => trivial
  | octal => trivial
  | reference => trivial
  | _ => exact h.elim

theorem follows_paren {m : Mode} (h : m.IsPlace) : m.Follows .paren := by
  cases m <;> trivial

theorem follows_clear {m : Mode} (h : m.IsPlace) (hn : ∀ i, m ≠ .opened i) : m.Follows .clear := by
  cases m with
  | opened i => exact absurd rfl (hn i)
  | _ => trivial

/-! ## What stands behind an expression -/

/-- The backslash that may be left at the end of an expression. -/
def stray (b : Bool) : Text := if b then ['\\'] else []

theorem openingsFrom_silent (i : Nat) (r : Text) :
    openingsFrom i ('(' :: '?' :: ':' :: r) = openingsFrom (i + 3) r := by
  rw [openingsFrom_group, show Header.read ('(' :: '?' :: ':' :: r) = ⟨.silent, 2⟩ from rfl]
  exact openingsFrom_plain (by decide) (by decide) (by decide) _ _

theorem openingsFrom_entered {c : Char} (h : c ≠ '?') (i : Nat) (r : Text) :
    openingsFrom i ('(' :: c :: r) = ⟨i, none⟩ :: openingsFrom (i + 1) (c :: r) := by
  rw [openingsFrom_group, Header.read_plain h]
  rfl

/-- What stands behind an expression that does not end with a slash. -/
theorem ending_cons {e : Text} (he : e ∈ endings false) :
    ∃ c r, e = c :: r ∧ (c = '$' ∨ c = '/' ∨ ∃ u, c = '(' ∧ r = '?' :: u) := by
  simp only [endings, Bool.false_eq_true, if_false, List.mem_cons, List.not_mem_nil,
    or_false] at he
  rcases he with rfl | rfl | rfl | rfl
  · exact ⟨_, _, rfl, .inl rfl⟩
  · exact ⟨_, _, rfl, .inr (.inr ⟨_, rfl, rfl⟩)⟩
  · exact ⟨_, _, rfl, .inr (.inl rfl)⟩
  · exact ⟨_, _, rfl, .inr (.inl rfl)⟩

/-- Nothing behind an expression opens a group that captures. -/
theorem openingsFrom_ending {slash b : Bool} {e : Text} (he : e ∈ endings slash)
    (hb : b → slash = false) (i : Nat) : openingsFrom i (stray b ++ e) = [] := by
  have plain : ∀ j (c : Char) r, c ∈ ['/', '|', '$', ')', '?', ':'] →
      openingsFrom j (c :: r) = openingsFrom (j + 1) r := by
    intro j c r hc
    apply openingsFrom_plain <;> (rintro rfl; exact absurd hc (by decide))
  cases slash with
  | true =>
    obtain rfl : b = false := Bool.eq_false_iff.2 fun h => absurd (hb h) (by simp)
    simp only [endings, if_true, List.mem_cons, List.not_mem_nil, or_false] at he
    rcases he with rfl | rfl | rfl | rfl <;>
      simp [stray, plain, openingsFrom_silent, openingsFrom_nil]
  | false =>
    simp only [endings, Bool.false_eq_true, if_false, List.mem_cons, List.not_mem_nil,
      or_false] at he
    rcases he with rfl | rfl | rfl | rfl <;> cases b <;>
      simp [stray, plain, openingsFrom_silent, openingsFrom_nil]

theorem openingsFrom_stray (b : Bool) (i : Nat) : openingsFrom i (stray b) = [] := by
  cases b with
  | false => exact openingsFrom_nil i
  | true => rw [stray, if_pos rfl, openingsFrom]; exact openingsFrom_nil _

/-- What stands behind an expression is nothing to the scanner. -/
theorem sight_ending {m : Mode} {slash b : Bool} {e : Text} (hm : m.IsPlace)
    (hn : slash → ∀ i, m ≠ .opened i) (he : e ∈ endings slash) (hb : b → slash = false)
    (pos : Nat) : m.sight pos (stray b ++ e) = m.sight pos (stray b) := by
  by_cases ho : ∃ i, m = .opened i
  · obtain ⟨i, rfl⟩ := ho
    have first : ∀ v : Text, (∀ r, v ≠ '?' :: r) →
        openingsFrom i ('(' :: v) = ⟨i, none⟩ :: openingsFrom (i + 1) v := by
      intro v hv
      cases v with
      | nil => rw [openingsFrom_group]; rfl
      | cons c r => exact openingsFrom_entered (fun h => hv r (h ▸ rfl)) i r
    obtain rfl : slash = false := Bool.eq_false_iff.2 fun h => hn h i rfl
    obtain ⟨c, r, rfl, hc⟩ := ending_cons he
    have head : c ≠ '?' := by rcases hc with rfl | rfl | ⟨u, rfl, -⟩ <;> decide
    simp only [Mode.sight]
    rw [first, first, openingsFrom_ending he hb, openingsFrom_stray]
    · cases b <;> simp [stray]
    · cases b <;> simp [stray, head]
  · have hn' : ∀ i, m ≠ .opened i := fun i h => ho ⟨i, h⟩
    rw [sight_of_isPlace hm hn', sight_of_isPlace hm hn', openingsFrom_ending he hb,
      openingsFrom_stray]

theorem startsApart_ending {slash b : Bool} {e : Text} (he : e ∈ endings slash)
    (hb : b → slash = false) (hw : StartsApart w) : StartsApart (stray b ++ (e ++ w)) := by
  cases slash with
  | true =>
    obtain rfl : b = false := Bool.eq_false_iff.2 fun h => absurd (hb h) (by simp)
    simp only [endings, if_true, List.mem_cons, List.not_mem_nil, or_false] at he
    rcases he with rfl | rfl | rfl | rfl
    · exact hw
    · exact .inr (.inl ⟨_, _, rfl, by decide⟩)
    · exact .inr (.inl ⟨_, _, rfl, by decide⟩)
    · exact .inr (.inl ⟨_, _, rfl, by decide⟩)
  | false =>
    obtain ⟨c, r, rfl, hc⟩ := ending_cons he
    cases b with
    | true => exact .inr (.inr (.inr ⟨c, r ++ w, rfl⟩))
    | false =>
      rcases hc with rfl | rfl | ⟨u, rfl, rfl⟩
      · exact .inr (.inl ⟨_, _, rfl, by decide⟩)
      · exact .inr (.inl ⟨_, _, rfl, by decide⟩)
      · exact .inr (.inr (.inl ⟨u ++ w, rfl⟩))

theorem spans_ending {slash b : Bool} {e : Text} (he : e ∈ endings slash)
    (hb : b → slash = false) :
    ∃ T, (if slash then Trail.clear else Trail.paren).Spans (stray b ++ e) T := by
  cases slash with
  | true =>
    obtain rfl : b = false := Bool.eq_false_iff.2 fun h => absurd (hb h) (by simp)
    simp only [endings, if_true, List.mem_cons, List.not_mem_nil, or_false] at he
    rcases he with rfl | rfl | rfl | rfl <;>
      exact ⟨_, Trail.spans_chars (by decide) (by decide) rfl⟩
  | false =>
    simp only [endings, Bool.false_eq_true, if_false, List.mem_cons, List.not_mem_nil,
      or_false] at he
    cases b with
    | false =>
      rcases he with rfl | rfl | rfl | rfl <;>
        exact ⟨_, Trail.spans_chars (by decide) (by decide) rfl⟩
    | true =>
      rcases he with rfl | rfl | rfl | rfl <;>
        exact ⟨_, (Trail.spans_escape _).append (Trail.spans_chars (by decide) (by decide) rfl)⟩

theorem ending_last {slash : Bool} {e : Text} (he : e ∈ endings slash) :
    (e = [] ∧ slash) ∨ ∃ c, e.getLast? = some c ∧ c ≠ '(' := by
  cases slash <;>
    simp only [endings, if_true, Bool.false_eq_true, if_false, List.mem_cons, List.not_mem_nil,
      or_false] at he
  · rcases he with rfl | rfl | rfl | rfl <;> exact .inr ⟨_, rfl, by decide⟩
  · rcases he with rfl | rfl | rfl | rfl
    · exact .inl ⟨rfl, rfl⟩
    all_goals exact .inr ⟨_, rfl, by decide⟩

/-! ## Reading an anchored expression -/

variable {o : Options} {ks : List Token} {b : Bool}

/-- The tokens of a template: they end by themselves, but for a backslash that may be left. -/
structure ClosedUpTo (t : Text) (ks : List Token) (b : Bool) : Prop where
  tokens : tokens t = ks ++ if b then [.escape none] else []
  closed : ∀ k ∈ ks, k.IsClosed

theorem ClosedUpTo.source (h : ClosedUpTo t ks b) :
    (draft t).source = writtenFrom [] ks ++ stray b := by
  rw [source_draft, h.tokens, writtenFrom_append]
  cases b <;> rfl

theorem ClosedUpTo.slash (h : ClosedUpTo t ks b) (hb : b) :
    endsInSlash (draft t).source = false := by
  rw [h.source, hb, endsInSlash_append (by simp [stray])]
  rfl

/-- A token before another one is not the backslash that is left. -/
theorem ClosedUpTo.before {as bs : List Token} {l : Token} (h : ClosedUpTo t ks b)
    (hk : RoutePattern.tokens t = as ++ l :: bs) : ∀ k ∈ as, k.IsClosed := by
  intro k hm
  apply h.closed k
  rw [h.tokens] at hk
  cases b with
  | false =>
    rw [if_neg (by simp), List.append_nil] at hk
    rw [hk]
    exact List.mem_append_left _ hm
  | true =>
    have last := congrArg List.dropLast hk
    rw [if_pos rfl, List.dropLast_concat, List.dropLast_append_of_ne_nil (by simp)] at last
    rw [last]
    exact List.mem_append_left _ hm

/-- Where an anchored expression is accepted, in front of a bar or at the end, the reader meets the
groups that the scanner finds in the expression without anchors. -/
theorem passes_anchored (ht : IsCalm t) (hk : ClosedUpTo t ks b) (ho : st.Outside)
    (hm : st.mode = .items) (hw : w = [] ∨ ∃ u, w = '|' :: u)
    (ha : Accepts st (o.anchored (draft t).source ++ w)) :
    ∃ nx, Passes st (o.anchored (draft t).source) nx ∧ nx.Rests ∧ Accepts nx w ∧
      nx.found = st.found ++ openingsFrom (st.pos + 1) (draft t).source := by
  obtain ⟨e, he, heq⟩ := anchored_eq o (draft t).source
  have hb := hk.slash
  have apart : StartsApart w := by
    rcases hw with rfl | ⟨u, rfl⟩
    · exact .inl rfl
    · exact .inr (.inl ⟨_, _, rfl, by decide⟩)
  rw [heq, hk.source] at ha ⊢
  rw [hk.source] at he hb
  generalize hs : endsInSlash (writtenFrom [] ks ++ stray b) = slash at he hb
  have last : slash → (['^'] ++ writtenFrom [] ks).getLast? = some '/' := by
    intro h
    obtain rfl : b = false := Bool.eq_false_iff.2 fun hb' => absurd (hb hb') (by simp [h])
    rw [stray, if_neg (by simp), List.append_nil, h, endsInSlash, decide_eq_true_eq] at hs
    rw [List.getLast?_append, hs]
    rfl
  have placed : st.mode.Placed st.pos := by rw [hm]; trivial
  have caret : Trail.clear.Spans ['^'] .clear := Trail.spans_chars (by decide) (by decide) rfl
  obtain ⟨s, p1, ho1, hf1, ha⟩ := passes_spans (v := writtenFrom [] ks ++ (stray b ++ (e ++ w)))
    caret ho (by rw [hm]; trivial) (by simpa using ha)
  obtain ⟨T, m, -, p2, ho2, -, ha⟩ := leads_tokens hk.tokens hk.closed isGuard_nil ht ho1 hf1 ha
  have body := p1.append p2
  have place := place_of_startsApart ho2 (startsApart_ending he hb apart) ha
  have entered : slash → ∀ i, m.mode ≠ .opened i := fun h =>
    body.not_opened (last h) (by decide)
  obtain ⟨T', spans⟩ := spans_ending he hb
  have follows : m.mode.Follows (if slash then .clear else .paren) := by
    split
    · next h => exact follows_clear place (entered h)
    · exact follows_paren place
  rw [← List.append_assoc] at ha
  obtain ⟨nx, p3, ho3, -, ha⟩ := passes_spans spans ho2 follows ha
  have whole := body.append p3
  have entered' : ∀ i, nx.mode ≠ .opened i := by
    rcases ending_last he with ⟨rfl, h⟩ | ⟨c, hc, hp⟩
    · obtain rfl : b = false := Bool.eq_false_iff.2 fun hb' => absurd (hb hb') (by simp [h])
      exact whole.not_opened (c := '/') (by simpa [stray] using last h) (by decide)
    · refine whole.not_opened (c := c) ?_ hp
      rw [← List.append_assoc, List.getLast?_append, hc]
      rfl
  have place' := place_of_startsApart ho3 apart ha
  refine ⟨nx, ?_, ⟨ho3, place', entered'⟩, ha, ?_⟩
  · simpa using whole
  · obtain ⟨-, -, before⟩ := body.sees placed
    obtain ⟨-, -, after⟩ := whole.sees placed
    have start : ∀ v, st.scanned st.pos ('^' :: v) = st.found ++ openingsFrom (st.pos + 1) v := by
      intro v
      rw [State.scanned, hm]
      exact congrArg (st.found ++ ·) (openingsFrom_plain (by decide) (by decide) (by decide) _ _)
    calc nx.found = m.scanned m.pos (stray b ++ e) := by
          rw [← scanned_nil place' entered', after, before, List.append_nil]
      _ = m.scanned m.pos (stray b) := by
          rw [State.scanned, sight_ending place entered he hb, State.scanned]
      _ = st.found ++ openingsFrom (st.pos + 1) (writtenFrom [] ks ++ stray b) := by
          rw [before, ← start]; rfl

/-! ## The groups of parameters -/

theorem openingsFrom_opening (p : Param) (i : Nat) (u : Text) :
    openingsFrom i (p.opening ++ u) = openingsFrom (i + p.opening.length) u := by
  have slash : ∀ j r, openingsFrom j ('/' :: r) = openingsFrom (j + 1) r := fun j r =>
    openingsFrom_plain (by decide) (by decide) (by decide) j r
  unfold Param.opening Param.formatText
  cases p.slash <;> cases p.format <;> simp [openingsFrom_silent, slash]

/-- A parameter is met where an item may start. -/
theorem sight_param {m : Mode} {p : Param} {g : Text} {pos : Nat} (hm : m.IsPlace)
    (hp : m.Placed pos) (hg : IsGuard g)
    (hc : ∀ capture, p.capture = some capture → IsBalanced capture) (v : Text) :
    ∃ n, ⟨pos + p.opening.length, n⟩ ∈ m.sight pos (p.written g ++ v) := by
  obtain ⟨c, t, hgroup, -, captures⟩ := spans_group hg hc
  obtain ⟨r, hr⟩ : ∃ r, p.written g ++ v = p.opening ++ ('(' :: c :: (t ++ r)) :=
    ⟨p.restGroup ++ (')' :: (if p.marks.optional then ['?'] else []) ++ v), by
      rw [Param.written, hgroup]; simp only [List.append_assoc, List.cons_append]⟩
  have mem : ∃ n, ⟨pos + p.opening.length, n⟩ ∈ openingsFrom pos (p.written g ++ v) := by
    rw [hr, openingsFrom_opening, openingsFrom_group, if_pos (captures r)]
    exact ⟨(Header.read ('(' :: c :: (t ++ r))).opening.name?, by simp⟩
  obtain ⟨n, mem⟩ := mem
  refine ⟨n, ?_⟩
  by_cases ho : ∃ i, m = .opened i
  · obtain ⟨i, rfl⟩ := ho
    obtain rfl : pos = i + 1 := hp
    obtain ⟨s, hs, -⟩ := spans_written hg hc
    simp only [Mode.sight]
    rw [hs] at mem ⊢
    rw [List.cons_append, openingsFrom_entered (by decide)]
    exact List.mem_cons_of_mem _ mem
  · rwa [sight_of_isPlace hm fun i h => ho ⟨i, h⟩]

theorem source_split {p : Param} {ls : List Token} (hk : tokens t = ks ++ .param p :: ls) :
    (draft t).source = writtenFrom [] ks ++ (p.written (guardFrom [] ks) ++
      writtenFrom (Token.guardAfter (guardFrom [] ks) (.param p)) ls) := by
  rw [source_draft, hk, writtenFrom_append]
  rfl

/-- The expression of a template is read up to a token. -/
theorem leads_before {flags : Flags} {ls : List Token} (hf : flags.verbose = false)
    (ht : IsCalm t) (hk : tokens t = ks ++ ls) (hcl : ∀ k ∈ ks, k.IsClosed)
    (ha : Accepts (start flags) ('^' :: ((draft t).source ++ v))) :
    Leads (start flags) ('^' :: writtenFrom [] ks) (writtenFrom (guardFrom [] ks) ls ++ v)
      (ls.flatMap Token.text) := by
  have outside : (start flags).Outside := ⟨⟨hf, hf, by simp [start]⟩, trivial⟩
  have caret : Trail.clear.Spans ['^'] .clear := Trail.spans_chars (by decide) (by decide) rfl
  rw [source_draft, hk, writtenFrom_append, List.append_assoc] at ha
  obtain ⟨s, first, ho, hs, ha⟩ := passes_spans caret outside trivial ha
  obtain ⟨T, m, calm, pass, outside, follows, ha⟩ := leads_tokens hk hcl isGuard_nil ht ho hs ha
  exact ⟨T, m, calm, first.append pass, outside, follows, ha⟩

/-- A template is read up to a parameter. There the scanner still finds what it finds in the rest of
the expression. -/
theorem leads_param {flags : Flags} {p : Param} {ls : List Token} (hf : flags.verbose = false)
    (ht : IsCalm t) (hk : tokens t = ks ++ .param p :: ls) (hcl : ∀ k ∈ ks, k.IsClosed)
    (ha : Accepts (start flags) ('^' :: ((draft t).source ++ v))) :
    ∃ m, Passes (start flags) ('^' :: writtenFrom [] ks) m ∧ m.Outside ∧ m.mode.Placed m.pos ∧
      (∀ capture, p.capture = some capture → IsBalanced capture) ∧
      ∀ r, m.scanned m.pos r = openingsFrom 1 (writtenFrom [] ks ++ r) := by
  obtain ⟨T, m, calm, pass, outside, -, -⟩ := leads_before hf ht hk hcl ha
  obtain ⟨-, placed, sees⟩ := pass.sees trivial
  refine ⟨m, pass, outside, placed, ?_, fun r => ?_⟩
  · obtain ⟨c, r, text, first, -⟩ := first_of_tokens hk
    exact (trail_param first (text ▸ calm)).1
  · rw [sees]
    exact openingsFrom_plain (by decide) (by decide) (by decide) 0 _

/-- The scanner finds a group where the group of a parameter opens. -/
theorem opening_mem {flags : Flags} {p : Param} {ls : List Token} (hf : flags.verbose = false)
    (ht : IsCalm t) (hk : tokens t = ks ++ .param p :: ls) (hcl : ∀ k ∈ ks, k.IsClosed)
    (ha : Accepts (start flags) ('^' :: ((draft t).source ++ v))) :
    ∃ g ∈ openings (draft t).source,
      g.index = (ks.foldl Draft.push {}).source.length + p.opening.length := by
  obtain ⟨m, pass, outside, placed, balanced, sees⟩ := leads_param hf ht hk hcl ha
  have before : (ks.foldl Draft.push {}).source = writtenFrom [] ks := source_foldl {} ks
  have guard : IsGuard (guardFrom [] ks) := isGuard_guardFrom isGuard_nil hcl
  have place : m.mode.IsPlace := by
    obtain ⟨u, hu, -⟩ := spans_written guard balanced
    rw [source_split hk, hu, List.append_assoc, ← List.cons_append] at ha
    exact (open_group (c := '?') outside (by decide) (pass.accepts.1 ha)).1
  obtain ⟨n, mem⟩ := sight_param place placed guard balanced
    (writtenFrom (Token.guardAfter (guardFrom [] ks) (.param p)) ls)
  have found : ⟨m.pos + p.opening.length, n⟩ ∈ openingsFrom (1 + 0) (draft t).source := by
    rw [source_split hk]
    exact sees _ ▸ List.mem_append_right m.found mem
  rw [openingsFrom_shift, List.mem_map] at found
  obtain ⟨g, hg, he⟩ := found
  refine ⟨g, hg, ?_⟩
  have index := congrArg Group.index he
  have pos := pass.pos
  have start : (start flags).pos = 0 := rfl
  rw [before]
  simp only [pos, start, List.length_cons] at index
  omega

end RoutePattern
