import RoutePattern.Proofs.Reader.Place

/-! # Where there is nothing to repeat

* `State.Bare`: the reader stands where the body of a group or an alternative starts;
  `step_star_bare`: a star is refused there. `State.Filled`: some item stands before it.
* `moves_step`: what leads to such a place is a parenthesis, a bar, the end of a header or of a
  comment, or white space that means nothing.
* `not_filled_of_step`: behind a parenthesis or a bar no item stands.
-/

namespace RoutePattern.Regex.Reader

/-- The body of a group or an alternative starts here. -/
def State.Bare (st : State) : Prop := (st.mode = .items ∧ st.items = []) ∨ ∃ i, st.mode = .opened i

/-- An item may start here, and another stands before it. -/
def State.Filled (st : State) : Prop := ∃ s, settle st = .ok s ∧ s.mode = .items ∧ s.items ≠ []

/-- The next symbol may be the last one of a header or a comment. -/
def Mode.IsPreface : Mode → Prop
  | .lineComment => True
  | .comment _ => True
  | .header _ => True
  | .headerAngle _ => True
  | .name .define _ _ => True
  | .name .condition _ _ => True
  | .flagsOn _ _ => True
  | .flagsOff _ _ _ => True
  | _ => False

/-- The symbol means nothing where the reader stands, or is part of a header or a comment. -/
def Prefaces (st : State) (y : Symbol) : Prop :=
  st.mode.IsPreface ∨ (st.verbose ∧ ∃ c, y = .plain c ∧ isSkipped c)

/-- A repeat has been read. -/
def State.Sound (st : State) : Prop := st.mode = .repeated → st.items ≠ []

/-- Between items, behind a repeat or behind a parenthesis. -/
def Mode.IsRest : Mode → Prop
  | .items => True
  | .repeated => True
  | .opened _ => True
  | _ => False

/-- Behind a repeat. -/
def Mode.IsRepeated : Mode → Prop
  | .repeated => True
  | _ => False

/-- The symbol leads behind an item, into the middle of some construct, or to where the body of a
group or an alternative may start. -/
inductive Moves (st : State) (y : Symbol) (nx : State) : Prop
  | item : nx.items ≠ [] → nx.mode = .items ∨ nx.mode = .repeated → Moves st y nx
  | inside : ¬ nx.mode.IsRest → Moves st y nx
  | fresh : ¬ nx.mode.IsRepeated → y = .plain '(' ∨ y = .plain '|' ∨ Prefaces st y → Moves st y nx

variable {st nx : State} {y : Symbol} {c : Char}

theorem step_star_bare (h : st.Bare) :
    step st (.plain '*') = refuse .nothingToRepeat st.pos := by
  obtain ⟨mode, pos, flags, verbose, branches, items, frames, groups, sets, asked, behind, v⟩ := st
  rcases h with ⟨hm, hi⟩ | ⟨i, hm⟩
  · obtain rfl : mode = .items := hm
    obtain rfl : items = [] := hi
    cases verbose <;> rfl
  · obtain rfl : mode = .opened i := hm
    cases verbose <;> rfl

/-! ## What leads there -/

theorem Moves.sound (h : Moves st y nx) : nx.Sound := by
  intro hm
  cases h with
  | item hi _ => exact hi
  | inside hi => exact absurd (by rw [hm]; trivial) hi
  | fresh hr _ => exact absurd (by rw [hm]; trivial) hr

theorem Moves.of_bare (h : Moves st y nx) (hb : nx.Bare) :
    y = .plain '(' ∨ y = .plain '|' ∨ Prefaces st y := by
  cases h with
  | item hi ho =>
    rcases hb with ⟨-, hn⟩ | ⟨i, hm⟩
    · exact absurd hn hi
    · rw [hm] at ho
      rcases ho with ho | ho <;> cases ho
  | inside hi => rcases hb with ⟨hm, -⟩ | ⟨i, hm⟩ <;> exact absurd (by rw [hm]; trivial) hi
  | fresh _ hy => exact hy

theorem Moves.push (r : Regex) : Moves st y (st.push r) :=
  .item (List.cons_ne_nil _ _) (.inl rfl)

theorem moves_placed {site : Site} (h : Placed st site nx) : Moves st y nx := by
  cases site with
  | item => obtain ⟨r, -, rfl⟩ := h; exact .push r
  | member s => obtain ⟨z, m, rfl⟩ := h; exact .inside id
  | rangeEnd s z m => obtain ⟨n, rfl⟩ := h; exact .inside id

theorem moves_quantify {i least : Nat} {most : Option Nat}
    (h : st.quantify i least most = .ok nx) : Moves st y nx := by
  obtain ⟨r, rs, -, rfl⟩ := quantify_ok h
  exact .item (List.cons_ne_nil _ _) (.inr rfl)

theorem moves_readItem (hs : st.mode = .items) (h : readItem st c = .ok nx) :
    Moves st (.plain c) nx := by
  rcases readItem_ok h with ⟨hv, hc, rfl⟩ | ⟨-, rfl, rfl⟩ | ⟨rfl, hx⟩ | ⟨rfl, hx⟩ | ⟨rfl, rfl⟩ |
    ⟨rfl, rfl⟩ | ⟨rfl, rfl⟩ | ⟨-, least, most, hx⟩ | ⟨-, -, r, -, rfl⟩
  · exact .fresh (by rw [hs]; exact id) (.inr (.inr (.inr ⟨hv, c, rfl, hc⟩)))
  · exact .inside id
  · obtain rfl := bar_ok hx
    exact .fresh (by rw [hs]; exact id) (.inr (.inl rfl))
  · obtain ⟨f, -, hm, hi⟩ := close_ok hx
    exact .item (by rw [hi]; exact List.cons_ne_nil _ _) (.inl hm)
  · exact .fresh id (.inl rfl)
  · exact .inside id
  · exact .inside id
  · exact moves_quantify hx
  · exact .push r

theorem moves_readItemEscape (h : readItemEscape st c = .ok nx) : Moves st y nx := by
  rcases readItemEscape_ok h with ⟨r, -, rfl⟩ | rfl | rfl | rfl | ⟨-, rfl⟩
  · exact .push r
  all_goals exact .inside id

theorem moves_readSetEscape {site : Site} (h : readSetEscape st site c = .ok nx) :
    Moves st y nx := by
  rcases readSetEscape_ok h with hp | rfl | rfl | rfl
  · exact moves_placed hp
  all_goals exact .inside id

theorem moves_closeSet (s : OpenSet) : Moves st y (st.closeSet s) :=
  .item (List.cons_ne_nil _ _) (.inl rfl)

theorem moves_readSetMember {s : OpenSet} (h : readSetMember st s y = .ok nx) :
    Moves st y nx := by
  rcases readSetMember_ok h with ⟨c, -, hx⟩ | ⟨-, -, rfl⟩ | ⟨c, -, -, rfl⟩
  · exact moves_readSetEscape hx
  · exact moves_closeSet s
  · exact .inside id

theorem moves_readName {use : NameUse} {start : Nat} {w : Text}
    (hm : st.mode = .name use start w) (h : readName st use start w y = .ok nx) :
    Moves st y nx := by
  rcases readName_ok h with ⟨-, -, hc⟩ | ⟨-, rfl⟩
  · have closed := (closeName_ok hc).2
    cases use with
    | define =>
      rw [show nx = _ from closed]
      exact .fresh id (.inr (.inr (.inl (by rw [hm]; trivial))))
    | refer =>
      obtain ⟨n, rfl⟩ := closed
      exact .push _
    | condition =>
      obtain ⟨n, asked, rfl⟩ := closed
      exact .fresh id (.inr (.inr (.inl (by rw [hm]; trivial))))
    | character site => exact moves_placed closed
  · exact .inside id

/-- A header that ends leads to where the body of its group starts. -/
theorem Moves.of_preface (hm : st.mode.IsPreface) (hr : ¬ nx.mode.IsRepeated) : Moves st y nx :=
  .fresh hr (.inr (.inr (.inl hm)))

theorem moves_react (hn : st.mode.IsSettled) (h : react st y = .ok nx) : Moves st y nx := by
  cases react_ok hn h with
  | item hm read => exact moves_readItem hm read
  | escape _ read => exact moves_readItemEscape read
  | lineEnd hm => exact .of_preface (by rw [hm]; trivial) id
  | inLine hm _ => exact .of_preface (by rw [hm]; trivial) (by rw [hm]; exact id)
  | commentEnd hm => exact .of_preface (by rw [hm]; trivial) id
  | inComment hm _ => exact .of_preface (by rw [hm]; trivial) (by rw [hm]; exact id)
  | header hm read =>
    refine .of_preface (by rw [hm]; trivial) ?_
    rcases readHeader_ok read with ⟨d, o, -, -, rfl⟩ | ⟨-, rfl⟩ | ⟨-, rfl⟩ | ⟨-, rfl⟩ | ⟨-, rfl⟩ |
      ⟨-, rfl⟩ | ⟨d, f, -, -, rfl⟩ <;> exact id
  | headerP _ read =>
    rcases readHeaderP_ok read with ⟨-, rfl⟩ | ⟨-, rfl⟩ <;> exact .inside id
  | headerAngle hm read =>
    refine .of_preface (by rw [hm]; trivial) ?_
    rcases readHeaderAngle_ok read with ⟨-, rfl⟩ | ⟨-, rfl⟩ <;> exact id
  | name hm read => exact moves_readName hm read
  | flagsOn hm read =>
    refine .of_preface (by rw [hm]; trivial) ?_
    rcases readFlagsOn_ok read with ⟨-, hx⟩ | ⟨-, rfl⟩ | ⟨-, rfl⟩ | ⟨d, f, -, -, rfl⟩
    · obtain ⟨-, rfl⟩ := setFlags_ok hx
      exact id
    all_goals exact id
  | flagsDash _ read =>
    obtain ⟨d, f, -, -, rfl⟩ := readFlagsDash_ok read
    exact .inside id
  | flagsOff hm read =>
    refine .of_preface (by rw [hm]; trivial) ?_
    rcases readFlagsOff_ok read with ⟨-, rfl⟩ | ⟨d, f, -, -, rfl⟩ <;> exact id
  | setStart _ read =>
    rcases readSetStart_ok read with ⟨-, rfl⟩ | ⟨-, hx⟩
    · exact .inside id
    · exact moves_readSetMember hx
  | setMember _ read => exact moves_readSetMember read
  | setAfter _ read =>
    rcases readSetAfter_ok read with ⟨-, rfl⟩ | ⟨-, hx⟩
    · exact .inside id
    · exact moves_readSetMember hx
  | setDash _ read =>
    rcases readSetDash_ok read with ⟨d, -, hx⟩ | ⟨-, t, -, rfl⟩ | ⟨d, r, -, -, rfl⟩
    · exact moves_readSetEscape hx
    · exact moves_closeSet t
    · exact .inside id
  | hex _ read =>
    obtain ⟨d, -, -, rfl | hp⟩ := extendHex_ok read
    · exact .inside id
    · exact moves_placed hp
  | nameBrace _ => exact .inside id

theorem moves_extend (hs : st.Sound) (h : extend? st y = some (.ok nx)) : Moves st y nx := by
  cases extend?_ok h with
  | greed g hm _ =>
    obtain ⟨items, size, eq⟩ := setGreed_eq st g
    rw [eq]
    refine .item ?_ (.inl rfl)
    rintro rfl
    exact hs hm (List.eq_nil_of_length_eq_zero size.symm)
  | braces _ read =>
    obtain ⟨d, -, -, ⟨lo, hi, rfl⟩ | ⟨lo, hi, hx⟩⟩ := extendBraces?_ok read
    · exact .inside id
    · exact moves_quantify hx
  | opened _ => exact .inside id
  | octal _ read =>
    obtain ⟨d, -, -, rfl | hp⟩ := extendOctal?_ok read
    · exact .inside id
    · exact moves_placed hp
  | reference _ read =>
    obtain ⟨d, -, -, rfl | rfl | ⟨r, -, rfl⟩⟩ := extendReference?_ok read
    · exact .inside id
    · exact .inside id
    · exact .push r

theorem verbose_settle (h : settle st = .ok nx) : nx.verbose = st.verbose := by
  cases settle_ok h with
  | @octal site _ _ _ placed =>
    cases site with
    | item => obtain ⟨r, -, rfl⟩ := placed; rfl
    | member s => obtain ⟨z, m, rfl⟩ := placed; rfl
    | rangeEnd s z m => obtain ⟨n, rfl⟩ := placed; rfl
  | _ => rfl

theorem prefaces_of_settle {s : State} (h : settle st = .ok s) (hp : Prefaces s y) :
    Prefaces st y := by
  rcases hp with hm | ⟨hv, hy⟩
  · rcases mode_of_settle h with between | ⟨-, rfl⟩
    · cases he : s.mode <;> rw [he] at hm between <;> first | exact hm.elim | exact between.elim
    · exact .inl hm
  · exact .inr ⟨verbose_settle h ▸ hv, hy⟩

/-- Where a body or an alternative starts, the last symbol was a parenthesis or a bar, or it belongs to
a header or a comment or means nothing. -/
theorem moves_step (hs : st.Sound) (h : step st y = .ok nx) : Moves st y nx := by
  obtain ⟨s, ht, rfl⟩ := step_ok h
  have moved : Moves st y s → Moves st y { s with pos := st.pos + y.size } := by
    rintro (⟨hi, ho⟩ | hi | ⟨hr, hy⟩)
    · exact .item hi ho
    · exact .inside hi
    · exact .fresh hr hy
  apply moved
  rcases take_ok ht with he | ⟨-, s', h1, h2⟩
  · exact moves_extend hs he
  · cases moves_react (settled_of_settle h1) h2 with
    | item hi ho => exact .item hi ho
    | inside hi => exact .inside hi
    | fresh hr hy => exact .fresh hr (hy.imp_right (·.imp_right (prefaces_of_settle h1)))

theorem sound_start (fl : Flags) : (start fl).Sound := fun h => by cases h

theorem sound_of_reads {t : Text} (h : Reads st t nx) (hs : st.Sound) : nx.Sound :=
  h.keeps (P := State.Sound) (fun hs hx => (moves_step hs hx).sound) hs

theorem step_bar (hm : st.mode = .items) (h : step st (.plain '|') = .ok nx) :
    nx.mode = .items ∧ nx.items = [] := by
  obtain ⟨s, ht, rfl⟩ := step_ok h
  rw [take_eq_react (by rw [hm]; trivial)] at ht
  have bar : react st (.plain '|') = st.bar := by
    simp only [react, hm]
    unfold readItem
    cases st.verbose <;> rfl
  obtain rfl := bar_ok (bar ▸ ht)
  exact ⟨hm, rfl⟩

/-- Behind a parenthesis that opens or a bar no item stands. -/
theorem not_filled_of_step (hf : st.mode.Fresh) (hc : c = '(' ∨ c = '|')
    (h : step st (.plain c) = .ok nx) : ¬ nx.Filled := by
  rintro ⟨s, hs, hm, hi⟩
  have place : nx.mode.IsPlace := place_of_settle hs hm
  have parts : Parts (.plain c) := by rcases hc with rfl | rfl <;> decide
  have none : extend? st (.plain c) = Option.none := by
    rcases hc with rfl | rfl <;> exact extend?_eq_none (by decide) rfl
  rcases region hf with bare | inside | ⟨start, hm⟩ | hm
  · rcases place_of_step bare parts h with hp | ⟨use, start, w, hn, -⟩ | ⟨-, start, hn⟩
    · obtain ⟨a, -, items, hx⟩ := settles_of_step hp none h
      rcases hc with rfl | rfl
      · obtain rfl := Except.ok.inj ((step_opens items).symm.trans hx)
        obtain rfl := Except.ok.inj hs
        exact hi rfl
      · obtain ⟨mode, bare⟩ := step_bar items hx
        rw [settle_eq (by rw [mode]; trivial)] at hs
        obtain rfl := Except.ok.inj hs
        exact hi bare
    · rw [hn] at place
      exact place.elim
    · rw [hn] at place
      exact place.elim
  · refine not_place_of_class (y := .plain c) ?_ ?_ inside h place <;>
      rcases hc with rfl | rfl <;> decide
  · obtain ⟨-, -, next⟩ := comment_step hm h
    rw [if_neg (by rcases hc with rfl | rfl <;> simp)] at next
    rw [next] at place
    exact place
  · rw [(lineComment_step hm (by rcases hc with rfl | rfl <;> simp) h).1] at place
    exact place

end RoutePattern.Regex.Reader
