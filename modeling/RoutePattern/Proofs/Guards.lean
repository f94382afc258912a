import RoutePattern.Proofs.Chain.Reading
import RoutePattern.Proofs.Headers
import RoutePattern.Proofs.Path.Matching
import RoutePattern.Proofs.Template.Closing
import RoutePattern.Proofs.Values

/-! # What a guard keeps out of a value

Behind literal text a parameter captures up to where its guard comes up again. The guard is meant to
be the literal text behind a class or a group, but what repeats the class or group is in it too, and
so is the parenthesis that closes the group, with literal text in front of it.

* `EatsAt`, `between_lazyAt`: a repeat of an expression that looks ahead at every character.
* `Param.Guarded`, `reads_guarded`: what the group of a guarded parameter is read as; `Param.Keeps`:
  what it captures.
* `Enclosed`: a class or a group; `tokens_class`, `tokens_group`: what the guard is behind it.
* `match_guarded`: what the value of that parameter does not have.
-/

namespace RoutePattern

open Scan Regex Regex.Reader

/-! ## Repeats that look ahead -/

namespace Regex

/-- Every way to match takes one character, where what lies ahead has the property. -/
def EatsAt (P : Text → Prop) (r : Regex) : Prop :=
  ∀ f s, ∀ t ∈ r.outcomes f s, ∃ c, t.behind = c :: s.behind ∧ s.ahead = c :: t.ahead ∧ P s.ahead

theorem ahead_eat? {s t : Spot} {test : Char → Bool} (h : s.eat? test = some t) :
    ∃ c, t.behind = c :: s.behind ∧ s.ahead = c :: t.ahead := by
  unfold Spot.eat? at h
  split at h
  · cases h
  · next c r hc =>
    split at h
    · obtain rfl := Option.some.inj h
      exact ⟨c, rfl, hc⟩
    · cases h

/-- A lazy repeat looks ahead at every character of what it matches. -/
theorem between_lazyAt {P : Text → Prop} {r : Regex} (h : EatsAt P r) (f : Flags) (s : Spot) :
    ∀ t ∈ (rep 1 none .lazy r).outcomes f s,
      ∀ a b, s.between t = a ++ b → b ≠ [] → P (b ++ t.ahead) := by
  -- what has been matched since `s`, with what lay ahead at each of its characters
  let Past (t : Spot) : Prop := ∃ v, t.behind = v.reverse ++ s.behind ∧
    ∀ a b, v = a ++ b → b ≠ [] → P (b ++ t.ahead)
  have start : Past s := ⟨[], rfl, fun a b hv hb => absurd (List.append_eq_nil_iff.1 hv.symm).2 hb⟩
  have keeps : (r.outcomes f).Keeps Past := by
    rintro t ⟨v, behind, all⟩ u hu
    obtain ⟨c, hc, ahead, hp⟩ := h f t u hu
    refine ⟨v ++ [c], by simp [hc, behind], fun a b hv hb => ?_⟩
    obtain ⟨b, d, rfl⟩ := (List.eq_nil_or_concat' b).resolve_left hb
    rw [← List.append_assoc] at hv
    obtain ⟨rfl, hd⟩ := List.append_inj' hv rfl
    obtain rfl : c = d := by simpa using hd
    rw [List.append_assoc, List.singleton_append, ← ahead]
    by_cases hb : b = []
    · subst hb
      exact hp
    · exact all a b rfl hb
  intro t ht
  obtain ⟨u, hu, ht⟩ := List.mem_flatMap.1 ht
  have first : Past u := keeps.rounds 1 s start u hu
  obtain ⟨v, behind, all⟩ := keeps.fewFirst _ u first t ht
  have between : s.between t = v := by
    simp [Spot.between, Spot.pos, behind]
  rw [between]
  exact all

/-- Literal text matches itself, whatever the flags are. -/
theorem outcomes_text {w : Text} {f : Flags} {s : Spot} (h : w <+: s.ahead) :
    (concat (w.map fun c => .char c.toNat)).outcomes f s ≠ [] := by
  induction w generalizing s with
  | nil => exact List.cons_ne_nil s []
  | cons c w ih =>
    obtain ⟨u, hu⟩ := h
    have taken : (Regex.char c.toNat).outcomes f s = [s.move [c] (w ++ u)] := by
      rw [outcomes, eat?_cons (u := w ++ u) hu.symm, if_pos (sameChar_self f c)]
    rw [List.map_cons, outcomes_concat_cons, taken, List.flatMap_singleton]
    exact ih ⟨u, rfl⟩

/-- A guarded value ends where its guard comes up. -/
theorem eatsAt_guardedChar (w : Text) : EatsAt (fun u => ¬ w <+: u) (guardedChar w) := by
  intro f s t ht
  rw [guardedChar, outcomes_flagged, outcomes_concat_cons, outcomes_refusal] at ht
  split at ht
  · next refused =>
    rw [List.flatMap_singleton, concat_singleton] at ht
    obtain ⟨c, behind, ahead⟩ := ahead_eat? (Option.mem_toList.1 ht)
    refine ⟨c, behind, ahead, fun up => outcomes_text (f := f) up ?_⟩
    rw [List.isEmpty_iff, outcomes, List.append_eq_nil_iff] at refused
    exact refused.2
  · cases ht

/-- A guarded value does not have its guard in it. -/
theorem not_infix_guarded {w : Text} (hw : w ≠ []) (f : Flags) (s : Spot) :
    ∀ t ∈ (rep 1 none .lazy (guardedChar w)).outcomes f s, ¬ w <:+: s.between t := by
  rintro t ht ⟨a, b, between⟩
  refine between_lazyAt (eatsAt_guardedChar w) f s t ht a (w ++ b) ?_ (by simp [hw]) ?_
  · rw [← between, List.append_assoc]
  · rw [List.append_assoc]
    exact List.prefix_append w _

end Regex

/-! ## Guarded parameters -/

/-- A parameter with nothing but its name. -/
def Word.param (x : Word) : Param := ⟨⟨false, false, x.text⟩, none, ⟨false, false⟩⟩

/-- The body of the group of a parameter under a guard. -/
structure Param.Guarded (x : Param) (g : Text) (b : Regex) : Prop where
  captures : x.Captures b
  guarded : ∀ w, w ≠ [] → w.flatMap literal = g → b = .rep 1 none .lazy (guardedChar w)

theorem reads_guarded {g : Text} (x : Word) (hg : IsGuard g) :
    x.param.Reads g (x.param.Guarded g) := by
  intro s v ready ha
  obtain ⟨nx, b, build, nodes, captures⟩ := reads_captures (x := x.param) rfl hg ready ha
  refine ⟨nx, b, build, nodes, captures, ?_⟩
  rintro w hw rfl
  have some_ : (w.flatMap literal).isEmpty = false := by simpa using flatMap_literal_ne_nil hw
  have group : x.param.group (w.flatMap literal) =
      '(' :: (['(', '?', ':', '(', '?', '!', '/', '|'] ++
        (w.flatMap literal ++ [')', '.', ')']) ++ ['+', '?', ')']) := by
    simp [Param.group, Word.param, Param.defaultGroup, Param.guardFor, some_]
  obtain ⟨m, other⟩ := builds_guardedGroup ready w
  rw [group] at build
  obtain rfl := build.passes.reads.unique other.passes.reads
  have items := build.items.symm.trans other.items
  simpa using items

/-- What a parameter under a guard captures. -/
structure Param.Keeps (x : Param) (g v : Text) : Prop where
  some : v ≠ []
  admitted : ∀ c ∈ v, x.Admits c
  spelled : ∀ w, w ≠ [] → w.flatMap literal = g → ¬ w <:+: v

theorem Param.Guarded.keeps {x : Param} {g : Text} {b : Regex} (h : x.Guarded g b) (f : Flags)
    (s : Spot) : ∀ t ∈ b.outcomes f s, x.Keeps g (s.between t) := by
  intro t ht
  obtain ⟨c, hc, eats⟩ := h.captures
  obtain ⟨some, all⟩ := between_lazy eats f s t (hc ▸ ht)
  refine ⟨some, all, fun w hw spelled => ?_⟩
  rw [h.guarded w hw spelled] at ht
  exact not_infix_guarded hw f s t ht

/-! ## A class or a group with text behind it -/

/-- What repeats a class or a group. -/
inductive IsQuantifier : Text → Prop
  | once : IsQuantifier []
  | more : IsQuantifier ['+']
  | perhaps : IsQuantifier ['?']
  | bounds {n : Text} : (∀ c ∈ n, c.isDigit ∨ c = ',') → IsQuantifier ('\x7b' :: (n ++ ['\x7d']))

/-- A class with its closing bracket, or a balanced group without comments, conditions and headers
for verbose expressions. -/
inductive Enclosed : Text → Prop
  | charClass {G : Text} : ClosedClass G → Enclosed G
  | group {r : Text} : groupSize? ('(' :: r) = some ('(' :: r).length → IsCalm ('(' :: r) →
      Enclosed ('(' :: r)

/-- The characters that are more than literal text, in templates or in where a group ends. -/
def guardMarks : List Char := ['\\', '*', '(', ')', '[', ']', '/', '.', ':']

/-- Literal text that leaves all of itself for a guard. -/
def IsBare (t : Text) : Prop := ∀ c ∈ t, c ∉ guardMarks

variable {A G m t u : Text} {L : Literal} {x : Word}

theorem IsQuantifier.bare (h : IsQuantifier m) : IsBare m := by
  cases h with
  | once => exact fun c hc => absurd hc List.not_mem_nil
  | more => exact fun c hc => List.mem_singleton.1 hc ▸ by decide
  | perhaps => exact fun c hc => List.mem_singleton.1 hc ▸ by decide
  | @bounds n hn =>
    have digits : ∀ d ∈ guardMarks, d.isDigit = false ∧ d ≠ ',' := by decide
    intro c hc
    simp only [List.mem_cons, List.mem_append, List.not_mem_nil, or_false] at hc
    rcases hc with rfl | hc | rfl
    · decide
    · intro hd
      rcases hn c hc with h | h
      · rw [(digits c hd).1] at h
        cases h
      · exact (digits c hd).2 h
    · decide

theorem Literal.bare (h : '.' ∉ L.text) : IsBare L.text := by
  have marks : ∀ d ∈ guardMarks, d = '.' ∨ d ∈ pathMarks := by decide
  intro c hc hd
  rcases marks c hd with rfl | hd
  · exact h hc
  · exact L.plain c hc hd

theorem IsBare.append (h : IsBare t) (h' : IsBare u) : IsBare (t ++ u) :=
  fun c hc => (List.mem_append.1 hc).elim (h c) (h' c)

theorem IsBare.not_mem (h : IsBare t) {d : Char} (hd : d ∈ guardMarks) : d ∉ t :=
  fun hm => h d hm hd

theorem Enclosed.spans (h : Enclosed G) : Trail.clear.Spans G .clear := by
  cases h with
  | charClass closed => exact Trail.spans_class closed
  | group balanced calm =>
    obtain ⟨⟨ps, closed, text, rest, after⟩, -⟩ := capture_balanced balanced calm
    rw [List.take_length] at text
    have paren : (Piece.char '(').IsClosed := ⟨by decide, by decide⟩
    exact ⟨_, List.forall_mem_cons.2 ⟨paren, closed⟩, text, ⟨trivial, rest⟩, after⟩

theorem isCalm_of_spans {T : Trail} (h : Trail.clear.Spans t T) : IsCalm t := by
  obtain ⟨ps, closed, rfl, calm, -⟩ := h
  rw [IsCalm, pieces_spell closed]
  exact calm

/-- The template is calm. -/
theorem Enclosed.calm (h : Enclosed G) (hA : IsBare A) (x : Word) :
    IsCalm ('/' :: (G ++ A) ++ ':' :: x.text) := by
  have bare : ∀ d ∈ ['\\', '[', '('], ∀ c ∈ A ++ ':' :: x.text, c ≠ d := by
    have marks : ∀ d ∈ ['\\', '[', '('],
        d ∈ guardMarks ∧ ':' ≠ d ∧ Text.isWord d = false := by decide
    rintro d hd c hc rfl
    obtain ⟨mark, colon, word⟩ := marks c hd
    rcases List.mem_append.1 hc with hc | hc
    · exact hA c hc mark
    · rcases List.mem_cons.1 hc with rfl | hc
      · exact colon rfl
      · exact ne_of_word x.word word hc
  have slash : Trail.clear.Spans ['/'] .clear := Trail.spans_chars (by decide) (by decide) rfl
  obtain ⟨calm, after⟩ := Trail.clear_chars (bare '(' (by decide))
  have chars : Trail.clear.Spans (A ++ ':' :: x.text) .clear :=
    Trail.spans_chars (fun c hc => ⟨bare _ (by decide) c hc, bare _ (by decide) c hc⟩) calm after
  have whole := slash.append (h.spans.append chars)
  exact isCalm_of_spans (T := .clear) (by simpa using whole)

/-- Literal text that leaves a guard is a row of tokens by themselves. -/
theorem tokens_bare (hA : IsBare A) (u : Text) : tokens (A ++ u) = A.map .literal ++ tokens u := by
  induction A with
  | nil => rfl
  | cons c A ih =>
    have apart : ∀ l, l ⊆ guardMarks → c ∉ l := fun l hl hc => hA c (by simp) (hl hc)
    rw [List.cons_append, tokens_mark (apart _ (by decide)) (read?_mark (apart _ (by decide)) _),
      ih fun d hd => hA d (by simp [hd])]
    rfl

theorem guard_foldl (d : Draft) (ks : List Token) :
    (ks.foldl Draft.push d).guard = guardFrom d.guard ks := by
  induction ks generalizing d with
  | nil => rfl
  | cons k ks ih => exact ih (d.push k)

theorem guardFrom_bare (hA : IsBare A) (g : Text) :
    guardFrom g (A.map .literal) = g ++ A.flatMap literal := by
  induction A generalizing g with
  | nil => exact (List.append_nil g).symm
  | cons c A ih =>
    have slash : c ≠ '/' := fun h => hA c (by simp) (h ▸ by decide)
    have first : (Token.literal c).guardAfter g = g ++ literal c := if_neg slash
    rw [List.map_cons, guardFrom, List.foldl_cons, first, List.flatMap_cons, ← List.append_assoc]
    exact ih (fun d hd => hA d (by simp [hd])) _

/-- Nothing stands behind the name. -/
theorem tokens_name (x : Word) : tokens (':' :: x.text) = [.param x.param] := by
  have alone := tokens_apart false false x (u := []) ⟨rfl, by simp⟩
  rw [List.append_nil, tokens] at alone
  exact alone

/-- Behind a class the parameter has the literal text for a guard. -/
theorem tokens_class (closed : ClosedClass G) (hA : IsBare A) (x : Word) :
    ∃ as, tokens ('/' :: (G ++ A) ++ ':' :: x.text) = as ++ [.param x.param] ∧
      guardFrom [] as = A.flatMap literal := by
  refine ⟨.literal '/' :: .charClass G :: A.map .literal, ?_, guardFrom_bare hA []⟩
  have size := classSize_append closed (A ++ ':' :: x.text)
  obtain ⟨r, rfl, -⟩ := closed
  have slash : tokens ('/' :: '[' :: (r ++ (A ++ ':' :: x.text))) =
      .literal '/' :: tokens ('[' :: (r ++ (A ++ ':' :: x.text))) := tokens_first rfl rfl
  have charClass : tokens ('[' :: (r ++ (A ++ ':' :: x.text))) =
      .charClass ('[' :: r) :: tokens (A ++ ':' :: x.text) := by
    have first : Token.first '[' (r ++ (A ++ ':' :: x.text)) =
        .charClass (('[' :: r ++ (A ++ ':' :: x.text)).take
          (classSize ('[' :: r ++ (A ++ ':' :: x.text)))) := rfl
    rw [size, List.take_left] at first
    exact tokens_first first rfl
  have whole : '/' :: ('[' :: r ++ A) ++ ':' :: x.text =
      '/' :: '[' :: (r ++ (A ++ ':' :: x.text)) := by simp
  rw [whole, slash, charClass, tokens_bare hA, tokens_name]
  rfl

/-- Behind a group it has the parenthesis that closes the group in front of the literal text. -/
theorem tokens_group {o : Options} {r : Text}
    (balanced : groupSize? ('(' :: r) = some ('(' :: r).length) (hA : IsBare A)
    (ht : IsCalm ('/' :: ('(' :: r ++ A) ++ ':' :: x.text))
    (ha : Accepted o ('/' :: ('(' :: r ++ A) ++ ':' :: x.text)) :
    ∃ as g, tokens ('/' :: ('(' :: r ++ A) ++ ':' :: x.text) = as ++ [.param x.param] ∧
      guardFrom [] as = g ++ literal ')' ++ A.flatMap literal := by
  obtain ⟨ks, stray, hks⟩ := exists_closedUpTo ht ha
  obtain ⟨e, -, anchored⟩ := anchored_eq o (draft ('/' :: ('(' :: r ++ A) ++ ':' :: x.text)).source
  rw [Accepted, anchored] at ha
  obtain ⟨_, ⟨ps, closed, matched, rfl⟩, hr⟩ := isGroup_of_groupSize? balanced
  have slash : (Piece.char '/').IsClosed := ⟨by decide, by decide⟩
  have paren : (Piece.char '(').IsClosed := ⟨by decide, by decide⟩
  have outer : ∀ p ∈ Piece.char '/' :: .char '(' :: ps, p.IsClosed :=
    List.forall_mem_cons.2 ⟨slash, List.forall_mem_cons.2 ⟨paren, closed⟩⟩
  have last : ')' ∉ A ++ ':' :: x.text := by
    have word : ')' ∉ x.text := ne_of_word x.word (by decide)
    simpa using ⟨hA.not_mem (by decide), word⟩
  obtain ⟨as, hk⟩ := tokens_closing rfl ht ha hks outer matched (by rw [hr]; simp) last
  have close : tokens (')' :: (A ++ ':' :: x.text)) =
      (.literal ')' :: A.map .literal) ++ [.param x.param] := by
    rw [tokens_mark (by decide) (read?_mark (by decide) _), tokens_bare hA, tokens_name]
    rfl
  refine ⟨as ++ .literal ')' :: A.map .literal, guardFrom [] as, ?_, ?_⟩
  · rw [hk, close, List.append_assoc]
  · rw [guardFrom, List.foldl_append, List.foldl_cons]
    exact guardFrom_bare hA _

/-- Behind a class or a group and literal text, the last parameter of a compiled template captures
nothing that its guard spells. This is the literal text with what repeats the class or group in
front of it. Behind a group it has the parenthesis that closes the group in front of that, too. -/
theorem match_guarded {o : Options} {p p' : Progress} {q : Pattern} (hG : Enclosed G)
    (hm : IsQuantifier m) (hL : '.' ∉ L.text)
    (h : compile o (.template ('/' :: (G ++ (m ++ L.text)) ++ ':' :: x.text)) p = (.ok q, p')) :
    ∃ as front i g k,
      tokens ('/' :: (G ++ (m ++ L.text)) ++ ':' :: x.text) = as ++ [.param x.param] ∧
      (as.foldl Draft.push {}).guard = front ++ (m ++ L.text).flatMap literal ∧
      (ClosedClass G → front = []) ∧ (G.head? = some '(' → literal ')' <:+ front) ∧
      q.groups[i]? = some g ∧
      g.index = 1 + ((as.foldl Draft.push {}).source.length + x.param.opening.length) ∧
      p'.keys[p.keys.length + i]? = some k ∧ k.IsOf x.param ∧
      ∀ s r, q.match? s = some r → r.groups[i]? = some none ∨
        ∃ v, r.groups[i]? = some (some v) ∧ v ≠ [] ∧ '/' ∉ v ∧
          ∀ w, w.flatMap literal = front → ¬ w ++ (m ++ L.text) <:+: v := by
  have bare : IsBare (m ++ L.text) := hm.bare.append (L.bare hL)
  have some_ : m ++ L.text ≠ [] := fun hn => L.nonempty (List.append_eq_nil_iff.1 hn).2
  have calm := hG.calm bare x
  obtain ⟨as, front, hk, guard, behindClass, behindGroup⟩ : ∃ as front,
      tokens ('/' :: (G ++ (m ++ L.text)) ++ ':' :: x.text) = as ++ [.param x.param] ∧
      guardFrom [] as = front ++ (m ++ L.text).flatMap literal ∧
      (ClosedClass G → front = []) ∧ (G.head? = some '(' → literal ')' <:+ front) := by
    cases hG with
    | charClass closed =>
      obtain ⟨as, hk, guard⟩ := tokens_class closed bare x
      refine ⟨as, [], hk, guard, fun _ => rfl, fun paren => ?_⟩
      obtain ⟨r, rfl, -⟩ := closed
      exact absurd paren (by simp)
    | group balanced _ =>
      obtain ⟨as, g, hk, guard⟩ :=
        tokens_group balanced bare calm (accepts_of_read (conclude_ok h).1)
      refine ⟨as, g ++ literal ')', hk, guard, ?_, fun _ => List.suffix_append _ _⟩
      rintro ⟨_, hr, -⟩
      cases hr
  obtain ⟨i, g, k, hg, index, hkey, own, values⟩ :=
    values_of_param (P := x.param.Keeps (guardFrom [] as)) calm h hk rfl (reads_guarded x)
      fun b => Param.Guarded.keeps
  refine ⟨as, front, i, g, k, hk, (guard_foldl {} as).trans guard, behindClass, behindGroup, hg,
    index, hkey, own, fun s r hr => ?_⟩
  refine (values s r hr).imp_right fun ⟨v, hv, kept⟩ => ⟨v, hv, kept.some, ?_, ?_⟩
  · exact fun slash => (kept.admitted _ slash).1 rfl
  · rintro w rfl
    exact kept.spelled _ (by simp [some_]) (by rw [List.flatMap_append, guard])

/-- The guard behind this group is not the literal text alone. -/
theorem match_guarded_group :
    ∃ q p', compile {} (.template "/(?:a)+-:x".toList) {} = (.ok q, p') ∧
      ∃ i g k, q.groups[i]? = some g ∧ p'.keys[0 + i]? = some k ∧
        k.IsOf (Word.param ⟨['x'], by decide, by decide⟩) ∧
        ∀ s r, q.match? s = some r → r.groups[i]? = some none ∨
          ∃ v, r.groups[i]? = some (some v) ∧ v ≠ [] ∧ '/' ∉ v ∧ ¬ "a)+-".toList <:+: v := by
  have text : "/(?:a)+-:x".toList =
      '/' :: (['(', '?', ':', 'a', ')'] ++ (['+'] ++ ['-'])) ++ ':' :: ['x'] := by decide
  have spelled : "a)+-".toList = ['a', ')'] ++ (['+'] ++ ['-']) := by decide
  have compiles : ((compile {} (.template "/(?:a)+-:x".toList) {}).1.toOption).isSome := by
    decide +kernel
  rw [text] at compiles
  rw [text, spelled]
  have group : Enclosed ['(', '?', ':', 'a', ')'] :=
    .group (by decide +kernel) (by unfold IsCalm; decide +kernel)
  rcases hc : compile {} (.template
      ('/' :: (['(', '?', ':', 'a', ')'] ++ (['+'] ++ ['-'])) ++ ':' :: ['x'])) {} with ⟨e | q, p'⟩
  · rw [hc] at compiles; cases compiles
  · obtain ⟨as, front, i, g, k, hk, guard, -, -, hg, -, hkey, own, values⟩ :=
      match_guarded (L := ⟨['-'], by decide, by decide⟩) (x := ⟨['x'], by decide, by decide⟩)
        group .more (by decide) hc
    have before := congrArg List.dropLast hk
    rw [List.dropLast_concat] at before
    have whole : (as.foldl Draft.push {}).guard =
        ['a', ')'].flatMap literal ++ (['+'] ++ ['-']).flatMap literal := by
      rw [← before]
      decide +kernel
    have front_ : ['a', ')'].flatMap literal = front :=
      List.append_cancel_right (whole.symm.trans guard)
    refine ⟨q, p', rfl, i, g, k, hg, hkey, own, fun s r hr => ?_⟩
    exact (values s r hr).imp_right fun ⟨v, hv, ne, slash, apart⟩ =>
      ⟨v, hv, ne, slash, apart _ front_⟩

/-- Behind a group the literal text may come up in a value, and so it may behind a class that is
repeated. -/
theorem literal_in_value :
    ((compile { sensitive := true } (.template "/(?:a)-:x".toList) {}).1.toOption.bind
        (·.match? "/a-b-c".toList)).map (·.groups) = some [some "b-c".toList] ∧
      ((compile { sensitive := true } (.template "/[a]+-:x".toList) {}).1.toOption.bind
        (·.match? "/a-b-c".toList)).map (·.groups) = some [some "b-c".toList] := by
  decide +kernel

end RoutePattern
