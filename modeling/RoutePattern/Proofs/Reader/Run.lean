import RoutePattern.Proofs.Reader.Inversion
import RoutePattern.Regex.Pattern

/-! # Runs of the reader over a text

`Reads st t st'`: the reader, standing in `st`, reads the text `t` without a fault and then stands
in `st'`.

* `reads_append`: a text is read in turn, unless a lone backslash ends its first part.
* `Reads.along`: induction on what has been read; `pos_of_reads`: how far that is.
* `Passes st t st'`: the same, and no symbol stands in a comment or in the name of a condition.
* `Accepts st t`: the text is read to its end and nothing is left open there.
* `read_eq_ok`, `pattern_read_eq_ok`: the sources that are read are those accepted from the start.
-/

namespace RoutePattern.Regex.Reader

inductive Reads : State → Text → State → Prop
  | done (st : State) : Reads st [] st
  | plain {st st' st'' : State} {c : Char} {t : Text} : c ≠ '\\' → step st (.plain c) = .ok st' →
      Reads st' t st'' → Reads st (c :: t) st''
  | escaped {st st' st'' : State} {c : Char} {t : Text} : step st (.escaped c) = .ok st' →
      Reads st' t st'' → Reads st ('\\' :: c :: t) st''

/-- The text is read from the state, and nothing is left open at its end. -/
def Accepts (st : State) (t : Text) : Prop := ∃ st' q, Reads st t st' ∧ finish st' = .ok q

theorem reads_nil {st st' : State} : Reads st [] st' ↔ st' = st :=
  ⟨fun h => by cases h; rfl, fun h => h ▸ .done st⟩

theorem reads_plain {st st'' : State} {c : Char} {t : Text} (hc : c ≠ '\\') :
    Reads st (c :: t) st'' ↔ ∃ st', step st (.plain c) = .ok st' ∧ Reads st' t st'' := by
  refine ⟨fun h => ?_, fun ⟨st', hs, h⟩ => .plain hc hs h⟩
  generalize he : c :: t = u at h
  cases h with
  | done => simp at he
  | plain _ hs h =>
    obtain ⟨rfl, rfl⟩ := List.cons.inj he
    exact ⟨_, hs, h⟩
  | escaped hs h => exact absurd (List.cons.inj he).1 hc

theorem reads_escaped {st st'' : State} {c : Char} {t : Text} :
    Reads st ('\\' :: c :: t) st'' ↔ ∃ st', step st (.escaped c) = .ok st' ∧ Reads st' t st'' := by
  refine ⟨fun h => ?_, fun ⟨st', hs, h⟩ => .escaped hs h⟩
  generalize he : '\\' :: c :: t = u at h
  cases h with
  | done => simp at he
  | plain hc hs h => exact absurd (List.cons.inj he).1.symm hc
  | escaped hs h =>
    obtain ⟨rfl, rfl⟩ := List.cons.inj (List.cons.inj he).2
    exact ⟨_, hs, h⟩

theorem not_reads_backslash {st st' : State} : ¬ Reads st ['\\'] st' := by
  intro h
  generalize he : ['\\'] = u at h
  cases h with
  | done => simp at he
  | plain hc hs h => exact hc (List.cons.inj he).1.symm
  | escaped hs h => simp at he

theorem Reads.append {st st' st'' : State} {t u : Text} (h : Reads st t st')
    (h' : Reads st' u st'') : Reads st (t ++ u) st'' := by
  induction h with
  | done => exact h'
  | plain hc hs _ ih => exact .plain hc hs (ih h')
  | escaped hs _ ih => exact .escaped hs (ih h')

/-- Reading is a function of state and text. -/
theorem Reads.unique {st st' st'' : State} {t : Text} (h : Reads st t st')
    (h' : Reads st t st'') : st' = st'' := by
  induction h with
  | done => exact (reads_nil.1 h').symm
  | plain hc hs _ ih =>
    obtain ⟨s, hs', h'⟩ := (reads_plain hc).1 h'
    obtain rfl : _ = s := Except.ok.inj (hs.symm.trans hs')
    exact ih h'
  | escaped hs _ ih =>
    obtain ⟨s, hs', h'⟩ := reads_escaped.1 h'
    obtain rfl : _ = s := Except.ok.inj (hs.symm.trans hs')
    exact ih h'

/-- What every symbol keeps, a text keeps. -/
theorem Reads.keeps {P : State → Prop} {st st' : State} {t : Text} (h : Reads st t st')
    (hp : ∀ {st nx : State} {y : Symbol}, P st → step st y = .ok nx → P nx) (hs : P st) :
    P st' := by
  induction h with
  | done => exact hs
  | plain _ hs' _ ih => exact ih (hp hs hs')
  | escaped hs' _ ih => exact ih (hp hs hs')

/-- A text without a character keeps what only that character does not keep. -/
theorem Reads.keeps_without {P : State → Prop} {st st' : State} {t : Text} {c : Char}
    (h : Reads st t st') (ht : c ∉ t)
    (hp : ∀ {st nx : State} {y : Symbol}, y ≠ .plain c → P st → step st y = .ok nx → P nx)
    (hs : P st) : P st' := by
  induction h with
  | done => exact hs
  | plain _ hs' _ ih =>
    rw [List.mem_cons, not_or] at ht
    exact ih ht.2 (hp (fun hc => ht.1 (Symbol.plain.inj hc).symm) hs hs')
  | escaped hs' _ ih =>
    simp only [List.mem_cons, not_or] at ht
    exact ih ht.2.2 (hp (y := .escaped _) nofun hs hs')

/-- Induction on the symbols of a text, with the text that has been read at hand. -/
theorem Reads.along {P : Text → State → Prop} {st nx : State} {t : Text} (h : Reads st t nx)
    (first : P [] st)
    (next : ∀ {a : Text} {s s' : State} {y : Symbol}, Reads st a s → P a s → y ≠ .plain '\\' →
      step s y = .ok s' → P (a ++ y.text) s') : P t nx := by
  have go : ∀ {s s' : State} {u : Text}, Reads s u s' → ∀ a, Reads st a s → P a s →
      P (a ++ u) s' := by
    intro s s' u hu
    induction hu with
    | done =>
      intro a _ hp
      rwa [List.append_nil]
    | @plain s s' s'' c u hc hs _ ih =>
      intro a ha hp
      have one : Reads st (a ++ [c]) s' := ha.append (.plain hc hs (.done s'))
      have rest := ih (a ++ [c]) one (next ha hp (fun h => hc (Symbol.plain.inj h)) hs)
      rwa [List.append_assoc] at rest
    | @escaped s s' s'' c u hs _ ih =>
      intro a ha hp
      have two : Reads st (a ++ ['\\', c]) s' := ha.append (.escaped hs (.done s'))
      have rest := ih (a ++ ['\\', c]) two (next (y := .escaped c) ha hp nofun hs)
      rwa [List.append_assoc] at rest
  exact go h [] (.done st) first

theorem pos_of_reads {st nx : State} {t : Text} (h : Reads st t nx) :
    nx.pos = st.pos + t.length := by
  induction h with
  | done => rfl
  | plain _ hs _ ih =>
    have one := pos_of_step hs
    rw [ih, one, List.length_cons, Symbol.size]
    omega
  | escaped hs _ ih =>
    have two := pos_of_step hs
    rw [ih, two, List.length_cons, List.length_cons, Symbol.size]
    omega

/-- A source is read from its first place on. -/
theorem pos_of_source {flags : Flags} {st : State} {t : Text} (h : Reads (start flags) t st) :
    st.pos = t.length := (pos_of_reads h).trans (Nat.zero_add _)

/-- The reader stands in no comment, and in no name that a condition asks for. -/
def Mode.Quiet : Mode → Prop
  | .comment _ => False
  | .lineComment => False
  | .name .condition _ _ => False
  | _ => True

inductive Passes : State → Text → State → Prop
  | done (st : State) : Passes st [] st
  | step {st st' st'' : State} {y : Symbol} {t : Text} : y ≠ .plain '\\' → st.mode.Quiet →
      step st y = .ok st' → Passes st' t st'' → Passes st (y.text ++ t) st''

theorem passes_nil {st st' : State} : Passes st [] st' ↔ st' = st := by
  refine ⟨fun h => ?_, fun h => h ▸ .done st⟩
  generalize he : ([] : Text) = t at h
  cases h with
  | done => rfl
  | @step _ _ _ y => cases y <;> cases he

theorem Passes.one {st nx : State} {y : Symbol} (hy : y ≠ .plain '\\') (hq : st.mode.Quiet)
    (h : Reader.step st y = .ok nx) : Passes st y.text nx := by
  simpa using Passes.step hy hq h (.done nx)

theorem Passes.append {st st' st'' : State} {t u : Text} (h : Passes st t st')
    (h' : Passes st' u st'') : Passes st (t ++ u) st'' := by
  induction h with
  | done => exact h'
  | step hy hq hs _ ih => rw [List.append_assoc]; exact .step hy hq hs (ih h')

theorem Passes.reads {st st' : State} {t : Text} (h : Passes st t st') : Reads st t st' := by
  induction h with
  | done st => exact .done st
  | @step _ _ _ y _ hy _ hs _ ih =>
    cases y with
    | plain c => exact .plain (fun hc => hy (hc ▸ rfl)) hs ih
    | escaped c => exact .escaped hs ih

theorem accepts_nil {st : State} : Accepts st [] ↔ ∃ q, finish st = .ok q := by
  simp [Accepts, reads_nil]

theorem accepts_plain {st : State} {c : Char} {t : Text} (hc : c ≠ '\\') :
    Accepts st (c :: t) ↔ ∃ nx, step st (.plain c) = .ok nx ∧ Accepts nx t := by
  simp only [Accepts, reads_plain hc]
  exact ⟨fun ⟨s, q, ⟨nx, h1, h2⟩, h3⟩ => ⟨nx, h1, s, q, h2, h3⟩,
    fun ⟨nx, h1, s, q, h2, h3⟩ => ⟨s, q, ⟨nx, h1, h2⟩, h3⟩⟩

theorem accepts_escaped {st : State} {c : Char} {t : Text} :
    Accepts st ('\\' :: c :: t) ↔ ∃ nx, step st (.escaped c) = .ok nx ∧ Accepts nx t := by
  simp only [Accepts, reads_escaped]
  exact ⟨fun ⟨s, q, ⟨nx, h1, h2⟩, h3⟩ => ⟨nx, h1, s, q, h2, h3⟩,
    fun ⟨nx, h1, s, q, h2, h3⟩ => ⟨s, q, ⟨nx, h1, h2⟩, h3⟩⟩

theorem accepts_symbol {st : State} {y : Symbol} {t : Text} (hy : y ≠ .plain '\\') :
    Accepts st (y.text ++ t) ↔ ∃ nx, step st y = .ok nx ∧ Accepts nx t := by
  cases y with
  | plain c => exact accepts_plain fun hc => hy (hc ▸ rfl)
  | escaped c => exact accepts_escaped

/-- What is accepted behind a text that has been read. -/
theorem Passes.accepts {st nx : State} {t u : Text} (h : Passes st t nx) :
    Accepts st (t ++ u) ↔ Accepts nx u := by
  induction h with
  | done => rfl
  | step hy _ hs _ ih =>
    rw [List.append_assoc, accepts_symbol hy, ← ih]
    constructor
    · rintro ⟨s, hs', h⟩
      rwa [Except.ok.inj (hs.symm.trans hs')]
    · exact fun h => ⟨_, hs, h⟩

theorem not_accepts_backslash {st : State} : ¬ Accepts st ['\\'] :=
  fun ⟨_, _, h, _⟩ => not_reads_backslash h

/-! ## Symbols -/

theorem symbols?_escaped (c : Char) (r : Text) :
    symbols? ('\\' :: c :: r) = (symbols? r).map (.escaped c :: ·) := by rw [symbols?]

theorem reads_iff {st st' : State} {t : Text} :
    Reads st t st' ↔ ∃ ys, symbols? t = some ys ∧ readFrom st ys = .ok st' := by
  have cons : ∀ (st : State) (y : Symbol) (ys : List Symbol) (s : State),
      readFrom st (y :: ys) = .ok s ↔ ∃ s', step st y = .ok s' ∧ readFrom s' ys = .ok s := by
    intro st y ys s
    simp only [readFrom, List.foldlM_cons]
    cases step st y with
    | error e => simp [bind, Except.bind]
    | ok s' => simp [bind, Except.bind]
  constructor
  · intro h
    induction h with
    | done => exact ⟨[], rfl, rfl⟩
    | plain hc hs _ ih =>
      obtain ⟨ys, h1, h2⟩ := ih
      exact ⟨.plain _ :: ys, by rw [symbols?_plain hc, h1]; rfl, (cons _ _ _ _).2 ⟨_, hs, h2⟩⟩
    | escaped hs _ ih =>
      obtain ⟨ys, h1, h2⟩ := ih
      exact ⟨.escaped _ :: ys, by rw [symbols?_escaped, h1]; rfl, (cons _ _ _ _).2 ⟨_, hs, h2⟩⟩
  · rintro ⟨ys, h1, h2⟩
    fun_induction symbols? t generalizing st ys with
    | case1 =>
      obtain rfl : [] = ys := by simpa using h1
      exact reads_nil.2 (Except.ok.inj h2).symm
    | case2 => simp at h1
    | case3 c r ih =>
      obtain ⟨zs, hz, rfl⟩ := Option.map_eq_some_iff.1 h1
      obtain ⟨s, hs, h2⟩ := (cons _ _ _ _).1 h2
      exact .escaped hs (ih zs hz h2)
    | case4 c r h3 h4 ih =>
      obtain ⟨zs, hz, rfl⟩ := Option.map_eq_some_iff.1 h1
      obtain ⟨s, hs, h2⟩ := (cons _ _ _ _).1 h2
      exact .plain (Text.ne_backslash h3 h4) hs (ih zs hz h2)

theorem reads_append {st st'' : State} {t u : Text} {ys : List Symbol} (ht : symbols? t = some ys) :
    Reads st (t ++ u) st'' ↔ ∃ st', Reads st t st' ∧ Reads st' u st'' := by
  refine ⟨fun h => ?_, fun ⟨st', h, h'⟩ => h.append h'⟩
  obtain ⟨zs, hz, hr⟩ := reads_iff.1 h
  rw [symbols?_append ht] at hz
  obtain ⟨us, hu, rfl⟩ := Option.map_eq_some_iff.1 hz
  rw [readFrom_append] at hr
  cases hs : readFrom st ys with
  | error e => simp [hs, Except.bind] at hr
  | ok st' =>
    rw [hs] at hr
    exact ⟨st', reads_iff.2 ⟨ys, ht, hs⟩, reads_iff.2 ⟨us, hu, hr⟩⟩

theorem intercalate_cons (a b : Text) (l : List Text) :
    ['|'].intercalate (a :: b :: l) = a ++ '|' :: ['|'].intercalate (b :: l) := by
  simp [List.intercalate, List.intersperse]

/-- What is read behind a text that has been read. -/
theorem Reads.rest {st st' st'' : State} {t u : Text} (h : Reads st t st')
    (h' : Reads st (t ++ u) st'') : Reads st' u st'' := by
  obtain ⟨ys, ht, -⟩ := reads_iff.1 h
  obtain ⟨s, h1, h2⟩ := (reads_append ht).1 h'
  rwa [h.unique h1]

/-- What is read behind a character that has been read. -/
theorem Reads.behind {st s s' nx : State} {t u : Text} {c : Char} (h : Reads st t s) (hc : c ≠ '\\')
    (hs : step s (.plain c) = .ok s') (h' : Reads st (t ++ c :: u) nx) : Reads s' u nx := by
  obtain ⟨s'', hs', behind⟩ := (reads_plain hc).1 (h.rest h')
  rwa [Except.ok.inj (hs.symm.trans hs')]

theorem accepts_append {st : State} {t u : Text} {ys : List Symbol} (ht : symbols? t = some ys) :
    Accepts st (t ++ u) ↔ ∃ st', Reads st t st' ∧ Accepts st' u := by
  constructor
  · rintro ⟨s, q, h, hq⟩
    obtain ⟨st', h1, h2⟩ := (reads_append ht).1 h
    exact ⟨st', h1, s, q, h2, hq⟩
  · rintro ⟨st', h1, s, q, h2, hq⟩
    exact ⟨s, q, h1.append h2, hq⟩

/-! ## Accepted sources -/

theorem read_eq_ok {flags : Flags} {source : Text} {q : Parsed} :
    read flags source = .ok q ↔ ∃ st, Reads (start flags) source st ∧ finish st = .ok q := by
  simp only [read, reads_iff]
  constructor
  · intro h
    split at h
    · cases h
    · next ys hy =>
      cases hr : readFrom (start flags) ys with
      | error e => rw [hr] at h; cases h
      | ok st =>
        rw [hr] at h
        exact ⟨st, ⟨ys, hy, hr⟩, h⟩
  · rintro ⟨st, ⟨ys, hy, hr⟩, hq⟩
    simp only [hy, hr]
    exact hq

theorem pattern_read_eq_ok {flags : Flags} {source : Text} {q : Pattern} :
    Pattern.read flags source = .ok q ↔
      q.source = source ∧ ∃ st, Reads (start flags) source st ∧ finish st = .ok q.toParsed := by
  rw [Pattern.read, ← read_eq_ok]
  cases h : read flags source with
  | error e => simp [Except.map]
  | ok p =>
    simp only [Except.map, Except.ok.injEq]
    constructor
    · rintro rfl; exact ⟨rfl, rfl⟩
    · rintro ⟨rfl, rfl⟩; rfl

end RoutePattern.Regex.Reader
