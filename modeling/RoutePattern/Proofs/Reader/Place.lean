import RoutePattern.Proofs.Reader.Outside

/-! # Places for items

Where an item may start, the construct at hand ends and the next symbol is read between items.

* `step_settled`: a symbol that the construct at hand does not go on with.
* `Mode.Fresh`, `region`: wherever reading leads, the reader stands in no set, in a set, or in a
  comment.
* `Reads.last`: the last symbol of a text.
* `slash_of_reads`: a slash that ends a text is its last item.
* `header_of_accepts`: a header; `comment_of_accepts`, `named_of_header`: what stands behind it.
-/

namespace RoutePattern.Regex.Reader

variable {st nx : State}

/-! ## Settling -/

/-- Where an item may start, the construct at hand ends. -/
theorem items_of_settle {s : State} (hp : st.mode.IsPlace) (h : settle st = .ok s) :
    s.mode = .items := by
  cases settle_ok h with
  | octal hm placed =>
    rw [hm] at hp
    obtain rfl := hp
    obtain ⟨r, -, rfl⟩ := placed
    rfl
  | settled hm =>
    cases he : st.mode <;> rw [he] at hp hm <;> first | rfl | exact hp.elim | exact hm.elim
  | _ => rfl

theorem place_of_settle {s : State} (h : settle st = .ok s) (hs : s.mode = .items) :
    st.mode.IsPlace := by
  cases settle_ok h with
  | repeated hm => rw [hm]; trivial
  | braces hm => rw [hm]; trivial
  | opened hm => rw [hm]; trivial
  | @octal site _ _ hm placed =>
    rw [hm]
    cases site with
    | item => rfl
    | member t =>
      obtain ⟨y, m, rfl⟩ := placed
      cases hs
    | rangeEnd t y m =>
      obtain ⟨n, rfl⟩ := placed
      cases hs
  | reference _ hm => rw [hm]; trivial
  | settled _ => rw [hs]; trivial

/-- Where an expression may end, an item may start, but for a comment. -/
theorem place_of_finish {q : Parsed} (h : finish st = .ok q) :
    st.mode.IsPlace ∨ (st.mode = .lineComment ∧ st.frames = []) := by
  obtain ⟨s, hs, hi | hm, hf, -⟩ := finish_ok h
  · exact .inl (place_of_settle hs hi)
  · rcases mode_of_settle hs with between | ⟨-, rfl⟩
    · rw [hm] at between
      exact between.elim
    · exact .inr ⟨hm, hf⟩

/-- A symbol that the construct at hand does not go on with is read as if that had ended before. -/
theorem step_settled {s : State} {y : Symbol} (h : settle st = .ok s) (hs : s.mode = .items)
    (hn : extend? st y = none) : step st y = step s y := by
  have none : extend? s y = none := by simp [extend?, hs]
  have settled : settle s = .ok s := settle_eq (by rw [hs]; trivial)
  rw [step, take, hn, step, take, none, h, settled, pos_of_settle h]

theorem extend?_escaped (c : Char) : extend? st (.escaped c) = none := by
  unfold extend?
  split <;> rfl

/-- A symbol is read where an item may start, unless the construct at hand goes on with it. -/
theorem settles_of_step {y : Symbol} (hp : st.mode.IsPlace) (hn : extend? st y = none)
    (h : step st y = .ok nx) : ∃ s, settle st = .ok s ∧ s.mode = .items ∧ step s y = .ok nx := by
  obtain ⟨s', ht, rfl⟩ := step_ok h
  rcases take_ok ht with he | ⟨-, s, hs, -⟩
  · rw [hn] at he
    cases he
  · have items := items_of_settle hp hs
    exact ⟨s, hs, items, (step_settled hs items hn).symm.trans h⟩

/-! ## Regions -/

/-- A set that has just been opened has no members. -/
def Mode.Fresh (m : Mode) : Prop := ∀ s, m = .setStart s → s.members = []

/-- Every symbol leads to such a mode. -/
theorem fresh_of_step {y : Symbol} (h : step st y = .ok nx) : nx.mode.Fresh := by
  obtain ⟨s, -, he⟩ := enters_step h
  intro t ht
  rw [ht] at he
  exact he

theorem fresh_of_reads {t : Text} (h : Reads st t nx) (hs : st.mode.Fresh) : nx.mode.Fresh :=
  h.keeps (P := fun s => s.mode.Fresh) (fun _ hx => fresh_of_step hx) hs

/-- The reader stands in no set and no comment, or in a set, or in a comment. -/
theorem region {m : Mode} (h : m.Fresh) :
    m.IsBare ∨ m.InClass ∨ (∃ start, m = .comment start) ∨ m = .lineComment := by
  cases m with
  | lineComment => exact .inr (.inr (.inr rfl))
  | comment start => exact .inr (.inr (.inl ⟨start, rfl⟩))
  | setStart s => exact .inr (.inl (h s rfl))
  | setMember s => exact .inr (.inl trivial)
  | setAfter s first n => exact .inr (.inl trivial)
  | setDash s first n => exact .inr (.inl trivial)
  | hex site letter digits =>
    by_cases hs : site = .item
    · exact .inl hs
    · exact .inr (.inl hs)
  | nameBrace site =>
    by_cases hs : site = .item
    · exact .inl hs
    · exact .inr (.inl hs)
  | octal site digits =>
    by_cases hs : site = .item
    · exact .inl hs
    · exact .inr (.inl hs)
  | name use start text =>
    cases use with
    | character site =>
      by_cases hs : site = .item
      · exact .inl hs
      · exact .inr (.inl hs)
    | _ => exact .inl trivial
  | _ => exact .inl trivial

/-- A comment to the end of the line goes on until there. -/
theorem lineComment_step {y : Symbol} (hm : st.mode = .lineComment) (hy : y ≠ .plain '\n')
    (h : step st y = .ok nx) : nx.mode = .lineComment ∧ nx.frames = st.frames := by
  obtain ⟨s, ht, rfl⟩ := step_ok h
  rw [take_eq_react (by rw [hm]; trivial)] at ht
  simp only [react, hm, if_neg hy] at ht
  obtain rfl := Except.ok.inj ht
  exact ⟨hm, rfl⟩

/-- Where a class is read, it is not closed by a text without brackets. -/
theorem extent?_of_not_mem {t : Text} (h : ']' ∉ t) (m : Mode) : m.extent? t = none := by
  unfold Mode.extent?
  split
  · exact Scan.classExtent?_append_none (t := []) rfl h
  · split
    · exact Scan.firstExtent?_append_none (t := []) rfl h
    · exact Scan.membersExtent?_of_not_mem h
  · exact Scan.membersExtent?_of_not_mem h

/-! ## The last symbol -/

/-- The symbol that a text ends with is read last. -/
theorem Reads.last {t : Text} {c : Char} (h : Reads st t nx) (ht : t.getLast? = some c) :
    ∃ u p y, Reads st u p ∧ y ≠ .plain '\\' ∧ step p y = .ok nx ∧ y.text.getLast? = some c := by
  induction h with
  | done => cases ht
  | @plain st st' st'' d r hd hs hr ih =>
    cases hr with
    | done => exact ⟨[], st, .plain d, .done st, fun hb => hd (Symbol.plain.inj hb), hs, ht⟩
    | plain hd' hs' hr' =>
      obtain ⟨u, p, y, h1, h2⟩ := ih (by rwa [List.getLast?_cons_cons] at ht)
      exact ⟨d :: u, p, y, .plain hd hs h1, h2⟩
    | escaped hs' hr' =>
      obtain ⟨u, p, y, h1, h2⟩ := ih (by rwa [List.getLast?_cons_cons] at ht)
      exact ⟨d :: u, p, y, .plain hd hs h1, h2⟩
  | @escaped st st' st'' d r hs hr ih =>
    cases hr with
    | done => exact ⟨[], st, .escaped d, .done st, nofun, hs, ht⟩
    | plain hd' hs' hr' =>
      obtain ⟨u, p, y, h1, h2⟩ :=
        ih (by rwa [List.getLast?_cons_cons, List.getLast?_cons_cons] at ht)
      exact ⟨'\\' :: d :: u, p, y, .escaped hs h1, h2⟩
    | escaped hs' hr' =>
      obtain ⟨u, p, y, h1, h2⟩ :=
        ih (by rwa [List.getLast?_cons_cons, List.getLast?_cons_cons] at ht)
      exact ⟨'\\' :: d :: u, p, y, .escaped hs h1, h2⟩

/-- A symbol without the bracket that closes a class leads to no place outside of the class. -/
theorem not_place_of_class {y : Symbol} (hy : y ≠ .plain '\\') (hb : ']' ∉ y.text)
    (hs : st.mode.InClass) (h : step st y = .ok nx) : ¬ nx.mode.IsPlace := by
  intro hp
  have closed : st.mode.extent? (y.text ++ []) = none :=
    extent?_of_not_mem (by rwa [List.append_nil]) _
  rcases class_step hy hs h with ⟨use, start, w, hm, -⟩ | ⟨-, ⟨hc, -⟩ | ⟨-, hx⟩⟩
  · rw [hm] at hp
    exact hp.elim
  · -- a place in a class is only that behind an octal escape of a member
    cases hm : nx.mode <;> rw [hm] at hp hc <;>
      first | exact hp.elim | exact hc.elim | exact absurd hp hc
  · rw [hx] at closed
    cases closed

theorem step_slash (h : st.mode = .items) :
    step st (.plain '/') = .ok { st.push (.char 47) with pos := st.pos + 1 } := by
  obtain ⟨mode, pos, flags, verbose, branches, items, frames, groups, sets, asked, behind, v⟩ := st
  obtain rfl : mode = .items := h
  cases verbose <;> rfl

theorem step_slash_escaped (h : st.mode = .items) :
    step st (.escaped '/') = .ok { st.push (.char 47) with pos := st.pos + 2 } := by
  obtain ⟨mode, pos, flags, verbose, branches, items, frames, groups, sets, asked, behind, v⟩ := st
  obtain rfl : mode = .items := h
  rfl

/-- A slash, bare or escaped, behind which an item may start is an item. -/
theorem slash_of_step {y : Symbol} (hy : y = .plain '/' ∨ y = .escaped '/')
    (hst : st.mode.Fresh) (h : step st y = .ok nx) (hp : nx.mode.IsPlace) :
    nx.mode = .items ∧ ∃ rs, nx.items = .char 47 :: rs := by
  have parts : Parts y := by rcases hy with rfl | rfl <;> decide
  have symbol : y ≠ .plain '\\' := by rcases hy with rfl | rfl <;> simp
  have none : extend? st y = none := by
    rcases hy with rfl | rfl
    · exact extend?_eq_none (by decide) rfl
    · exact extend?_escaped '/'
  rcases region hst with bare | inside | ⟨start, hm⟩ | hm
  · rcases place_of_step bare parts h with place | ⟨use, start, w, hm, -⟩ | ⟨rfl, -⟩
    · obtain ⟨s, -, items, hs⟩ := settles_of_step place none h
      rcases hy with rfl | rfl
      · rw [step_slash items] at hs
        obtain rfl := Except.ok.inj hs
        exact ⟨rfl, _, rfl⟩
      · rw [step_slash_escaped items] at hs
        obtain rfl := Except.ok.inj hs
        exact ⟨rfl, _, rfl⟩
    · rw [hm] at hp
      exact hp.elim
    · rcases hy with hy | hy <;> cases hy
  · refine absurd hp (not_place_of_class symbol ?_ inside h)
    rcases hy with rfl | rfl <;> decide
  · obtain ⟨-, -, hn⟩ := comment_step hm h
    rw [if_neg (by rcases hy with rfl | rfl <;> simp)] at hn
    rw [hn] at hp
    exact hp.elim
  · have next := (lineComment_step hm (by rcases hy with rfl | rfl <;> simp) h).1
    rw [next] at hp
    exact hp.elim

/-- A slash that ends a text, where an item may start behind the text, is its last item. -/
theorem slash_of_reads {t : Text} (h : Reads st t nx) (ht : t.getLast? = some '/')
    (hst : st.mode.Fresh) (hp : nx.mode.IsPlace) :
    nx.mode = .items ∧ ∃ rs, nx.items = .char 47 :: rs := by
  obtain ⟨u, p, y, hu, -, hs, hy⟩ := h.last ht
  refine slash_of_step ?_ (fresh_of_reads hu hst) hs hp
  cases y with
  | plain c => exact .inl (congrArg _ (Option.some.inj hy))
  | escaped c => exact .inr (congrArg _ (Option.some.inj hy))

/-! ## Headers -/

/-- Behind `(?` a state stands in a header. -/
def State.heading (s : State) : State := { s with mode := .header s.pos, pos := s.pos + 2 }

theorem step_opens (h : st.mode = .items) : step st (.plain '(') = .ok st.opening := by
  obtain ⟨mode, pos, flags, verbose, branches, items, frames, groups, sets, asked, behind, v⟩ := st
  obtain rfl : mode = .items := h
  cases verbose <;> rfl

/-- Outside of classes and comments, a question mark behind a parenthesis starts a header: in the
name of a condition it would not be accepted. -/
theorem header_of_accepts {v : Text} (hs : st.mode.IsBare) (ha : Accepts st ('(' :: '?' :: v)) :
    ∃ s : State, Reads st ['(', '?'] s.heading ∧ Accepts s.heading v := by
  obtain ⟨nx, hx, ha⟩ := (accepts_plain (by decide)).1 ha
  rcases place_of_step (y := .plain '(') hs (by decide) hx with place | spoilt | ⟨-, i, hm⟩
  · obtain ⟨s, -, items, hi⟩ := settles_of_step place (extend?_eq_none (by decide) rfl) hx
    obtain rfl := Except.ok.inj ((step_opens items).symm.trans hi)
    have mark : step s.opening (.plain '?') = .ok s.heading := rfl
    obtain ⟨nx, hq, ha⟩ := (accepts_plain (by decide)).1 ha
    obtain rfl := Except.ok.inj (mark.symm.trans hq)
    exact ⟨s, .plain (by decide) hx (.plain (by decide) mark (.done _)), ha⟩
  · exact absurd ha (not_accepts_spoilt spoilt _)
  · exact absurd ha (not_accepts_mark hm (by decide) v)

/-- Behind `(?#` the reader stands in a comment. -/
theorem comment_of_accepts {v : Text} (hs : st.mode.IsBare)
    (ha : Accepts st ('(' :: '?' :: '#' :: v)) :
    ∃ nx start, Reads st ['(', '?', '#'] nx ∧ nx.mode = .comment start := by
  obtain ⟨s, reads, -⟩ := header_of_accepts hs ha
  have mark : step s.heading (.plain '#') =
      .ok { s.heading with mode := .comment s.pos, pos := s.heading.pos + 1 } := rfl
  exact ⟨_, s.pos, reads.append (.plain (by decide) mark (.done _)), rfl⟩

/-- A name between `(?P<` and `>` is only accepted if nothing in it is taken for another piece. -/
theorem named_of_header {name v : Text} (hn : '>' ∉ name) (hs : st.mode.IsBare)
    (ha : Accepts st (['(', '?', 'P', '<'] ++ name ++ ['>'] ++ v)) : Named name := by
  simp only [List.cons_append, List.nil_append, List.append_assoc] at ha
  obtain ⟨s, -, ha⟩ := header_of_accepts hs ha
  obtain ⟨nx, hp, ha⟩ := (accepts_plain (by decide)).1 ha
  have letter : step s.heading (.plain 'P') =
      .ok { s.heading with mode := .headerP s.pos, pos := s.heading.pos + 1 } := rfl
  obtain rfl := Except.ok.inj (letter.symm.trans hp)
  obtain ⟨nx, hx, ha⟩ := (accepts_plain (by decide)).1 ha
  have mode : nx.mode = .name .define s.pos [] := by
    obtain rfl := Except.ok.inj hx
    rfl
  exact named_of_accepts (w := []) mode hn ha

end RoutePattern.Regex.Reader
