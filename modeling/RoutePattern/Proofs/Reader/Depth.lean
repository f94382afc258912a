import RoutePattern.Proofs.Reader.Place
import RoutePattern.Proofs.Scan.Rise

/-! # How many groups are open

A reader that does not stand in a class keeps count of the parentheses of a text: it has opened at
least as many groups as the text leaves open. A comment is the exception, since a parenthesis that
opens means nothing there.

* `State.depth`: the open groups, and the parentheses of the construct at hand.
* `Mode.Classless`: the reader stands in no class; `Mode.InComment`: it stands in a comment.
* `rises_step`: one symbol. `rises_pieces`: a row of closed pieces.
* `Uncommented st t`: nothing that opens a group or a class stands in a comment of the text.
* `depth_of_finish`: nothing is open where an expression may end.
-/

namespace RoutePattern.Regex.Reader

open Scan

/-- The parentheses of a construct that belong to no open group yet. -/
def Mode.pending : Mode → Nat
  | .comment _ => 1
  | .opened _ => 1
  | .header _ => 1
  | .headerP _ => 1
  | .headerAngle _ => 1
  | .name .define _ _ => 1
  | .name .refer _ _ => 1
  | .name .condition _ _ => 2
  | .flagsOn _ _ => 1
  | .flagsDash _ _ => 1
  | .flagsOff _ _ _ => 1
  | _ => 0

/-- The groups that are open, and the parentheses of the construct at hand. -/
def State.depth (st : State) : Nat := st.frames.length + st.mode.pending

/-- The reader stands in a comment. -/
def Mode.InComment : Mode → Prop
  | .comment _ => True
  | .lineComment => True
  | _ => False

/-- The reader stands in no class. -/
def Mode.Classless (m : Mode) : Prop := m.IsBare ∨ m.InComment

/-- The symbol opens no more than the reader does, and no class unless it is a bracket. -/
structure Rises (st : State) (y : Symbol) (nx : State) : Prop where
  depth : (st.depth : Int) + (pieceOf y).rise ≤ nx.depth
  classless : y ≠ .plain '[' → nx.mode.Classless

variable {st nx : State} {y : Symbol} {c : Char}

/-! ## One symbol -/

theorem rise_nonpos (h : y ≠ .plain '(') : (pieceOf y).rise ≤ 0 := by
  cases y with
  | escaped c => exact Int.le_refl 0
  | plain c =>
    by_cases hc : c = ')'
    · subst hc
      decide
    · exact Int.le_of_eq (rise_of_ne (fun hp => h (congrArg _ (Piece.char.inj hp)))
        (fun hp => hc (Piece.char.inj hp)))

/-- A symbol that opens no group, where nothing is closed either. -/
theorem Rises.of_depth (hy : y ≠ .plain '(') (hd : st.depth ≤ nx.depth)
    (hc : y ≠ .plain '[' → nx.mode.Classless) : Rises st y nx where
  depth := by
    have := rise_nonpos hy
    omega
  classless := hc

theorem Rises.of_open (hd : st.depth + 1 ≤ nx.depth) (hc : nx.mode.Classless) :
    Rises st (.plain '(') nx where
  depth := by
    show (st.depth : Int) + 1 ≤ nx.depth
    omega
  classless := fun _ => hc

theorem Rises.of_close (hd : st.depth ≤ nx.depth + 1) (hc : nx.mode.Classless) :
    Rises st (.plain ')') nx where
  depth := by
    show (st.depth : Int) + -1 ≤ nx.depth
    omega
  classless := fun _ => hc

/-- The depth of a state whose mode is known. -/
theorem depth_eq {m : Mode} (h : st.mode = m) : st.depth = st.frames.length + m.pending := by
  rw [State.depth, h]

theorem depth_of_placed {site : Site} (h : Placed st site nx) : nx.depth = st.frames.length := by
  cases site with
  | item => obtain ⟨r, -, rfl⟩ := h; rfl
  | member s => obtain ⟨y, m, rfl⟩ := h; rfl
  | rangeEnd s y m => obtain ⟨n, rfl⟩ := h; rfl

theorem depth_settle (h : settle st = .ok nx) : nx.depth = st.depth := by
  cases settle_ok h with
  | repeated hm => simp [State.depth, hm, Mode.pending]
  | braces hm => simp [State.depth, hm, Mode.pending, State.pushLiterals]
  | opened hm => simp [State.depth, hm, Mode.pending, State.enterCapture, State.enter]
  | octal hm placed =>
    rw [depth_of_placed placed, State.depth, hm]
    rfl
  | reference n hm => simp [State.depth, hm, Mode.pending, State.push]
  | settled _ => rfl

theorem classless_settle (hs : st.mode.Classless) (h : settle st = .ok nx) :
    nx.mode.Classless := by
  cases settle_ok h with
  | octal hm placed =>
    rw [hm] at hs
    obtain rfl := hs.resolve_right id
    obtain ⟨r, -, rfl⟩ := placed
    exact .inl trivial
  | settled _ => exact hs
  | _ => exact .inl trivial

theorem rises_readItem (hs : st.mode = .items) (h : readItem st c = .ok nx) :
    Rises st (.plain c) nx := by
  have here : st.depth = st.frames.length := depth_eq hs
  have same : c ≠ '(' → st.frames.length ≤ nx.depth → nx.mode.Classless → Rises st (.plain c) nx :=
    fun hc hd hm => .of_depth (fun hp => hc (Symbol.plain.inj hp)) (here ▸ hd) fun _ => hm
  rcases readItem_ok h with ⟨-, hc, rfl⟩ | ⟨-, rfl, rfl⟩ | ⟨rfl, hx⟩ | ⟨rfl, hx⟩ | ⟨rfl, rfl⟩ |
    ⟨rfl, rfl⟩ | ⟨rfl, rfl⟩ | ⟨hc, least, most, hx⟩ | ⟨hc, -, r, -, rfl⟩
  · refine same ?_ (Nat.le_of_eq here.symm) (.inl (hs ▸ trivial))
    rintro rfl
    cases hc
  · exact same (by decide) (Nat.le_refl _) (.inr trivial)
  · obtain rfl := bar_ok hx
    exact same (by decide) (Nat.le_of_eq here.symm) (.inl (hs ▸ trivial))
  · obtain ⟨f, hf, hm, -⟩ := close_ok hx
    refine .of_close ?_ (.inl (hm ▸ trivial))
    rw [here, hf, depth_eq hm]
    exact Nat.le_refl _
  · refine .of_open ?_ (.inl trivial)
    rw [here]
    exact Nat.le_refl _
  · exact .of_depth (by decide) (Nat.le_of_eq here) fun hb => absurd rfl hb
  · exact same (by decide) (Nat.le_refl _) (.inl trivial)
  · obtain ⟨r, rs, -, rfl⟩ := quantify_ok hx
    refine same ?_ (Nat.le_refl _) (.inl trivial)
    rintro rfl
    exact absurd hc (by decide)
  · exact same hc (Nat.le_refl _) (.inl trivial)

theorem rises_readItemEscape (hs : st.mode = .items) (h : readItemEscape st c = .ok nx) :
    Rises st (.escaped c) nx := by
  have same : st.frames.length ≤ nx.depth → nx.mode.IsBare → Rises st (.escaped c) nx :=
    fun hd hm => .of_depth nofun (depth_eq hs ▸ hd) fun _ => .inl hm
  rcases readItemEscape_ok h with ⟨r, -, rfl⟩ | rfl | rfl | rfl | ⟨-, rfl⟩
  · exact same (Nat.le_refl _) trivial
  · exact same (Nat.le_refl _) rfl
  · exact same (Nat.le_refl _) rfl
  · exact same (Nat.le_refl _) rfl
  · exact same (Nat.le_refl _) trivial

/-- A name that is closed becomes a group or an item; a parenthesis that opens spoils it. -/
theorem rises_readName {use : NameUse} {start : Nat} {w : Text} (hm : st.mode = .name use start w)
    (hs : st.mode.Classless) (h : readName st use start w y = .ok nx) :
    nx.Spoilt ∨ Rises st y nx := by
  have here : st.depth = st.frames.length + (Mode.name use start w).pending := depth_eq hm
  have bare : (Mode.name use start w).IsBare := hm ▸ hs.resolve_right (hm ▸ id)
  rcases readName_ok h with ⟨rfl, -, hc⟩ | ⟨hy, rfl⟩
  · right
    have closed := (closeName_ok hc).2
    cases use with
    | define =>
      obtain rfl : nx = _ := closed
      exact .of_depth (by decide) (Nat.le_of_eq here) fun _ => .inl trivial
    | refer =>
      obtain ⟨n, rfl⟩ := closed
      exact .of_close (Nat.le_of_eq here) (.inl trivial)
    | condition =>
      obtain ⟨n, asked, rfl⟩ := closed
      exact .of_close (Nat.le_of_eq here) (.inl trivial)
    | character site =>
      obtain rfl : site = .item := bare
      obtain ⟨r, -, rfl⟩ := closed
      exact .of_depth (by decide) (Nat.le_of_eq here) fun _ => .inl trivial
  · by_cases hp : y = .plain '('
    · left
      subst hp
      exact ⟨use, start, _, rfl, fun hn => hn '(' (by simp [Symbol.text]) (by decide)⟩
    · right
      refine .of_depth hp ?_ fun _ => .inl ?_
      · rw [here]
        cases use <;> exact Nat.le_refl _
      · cases use <;> exact bare

theorem ne_of_ofLetter? {f : Flag} (hf : Flag.ofLetter? c = some f) :
    Symbol.plain c ≠ .plain '(' := by
  rintro hp
  rw [Symbol.plain.inj hp] at hf
  cases hf

theorem rises_readHeader {start : Nat} (hm : st.mode = .header start)
    (h : readHeader st start y = .ok nx) : Rises st y nx := by
  have here : st.depth = st.frames.length + 1 := depth_eq hm
  have same : y ≠ .plain '(' → st.frames.length + 1 ≤ nx.depth → nx.mode.Classless →
      Rises st y nx := fun hy hd hc => .of_depth hy (here ▸ hd) fun _ => hc
  rcases readHeader_ok h with ⟨c, o, rfl, ho, rfl⟩ | ⟨rfl, rfl⟩ | ⟨rfl, rfl⟩ | ⟨rfl, rfl⟩ |
    ⟨rfl, rfl⟩ | ⟨rfl, rfl⟩ | ⟨c, f, rfl, hf, rfl⟩
  · refine same ?_ (Nat.le_refl _) (.inl trivial)
    rintro hp
    rw [Symbol.plain.inj hp] at ho
    cases ho
  · exact same (by decide) (Nat.le_refl _) (.inl trivial)
  · exact same (by decide) (Nat.le_refl _) (.inl trivial)
  · exact same (by decide) (Nat.le_refl _) (.inr trivial)
  · exact .of_open (Nat.le_of_eq (congrArg (· + 1) here)) (.inl trivial)
  · exact same (by decide) (Nat.le_refl _) (.inl trivial)
  · exact same (ne_of_ofLetter? hf) (Nat.le_refl _) (.inl trivial)

theorem rises_readFlagsOn {start : Nat} {on : Flags} (hm : st.mode = .flagsOn start on)
    (h : readFlagsOn st start on y = .ok nx) : Rises st y nx := by
  have here : st.depth = st.frames.length + 1 := depth_eq hm
  rcases readFlagsOn_ok h with ⟨rfl, h⟩ | ⟨rfl, rfl⟩ | ⟨rfl, rfl⟩ | ⟨c, f, rfl, hf, rfl⟩
  · obtain ⟨-, rfl⟩ := setFlags_ok h
    exact .of_close (Nat.le_of_eq here) (.inl trivial)
  · exact .of_depth (by decide) (Nat.le_of_eq here) fun _ => .inl trivial
  · exact .of_depth (by decide) (Nat.le_of_eq here) fun _ => .inl trivial
  · exact .of_depth (ne_of_ofLetter? hf) (Nat.le_of_eq here) fun _ => .inl trivial

/-- Where nothing that is at hand can end, the symbol is read by what is at hand. -/
theorem rises_react (hs : st.mode.Classless) (hn : st.mode.IsSettled)
    (hb : st.mode.InComment → y ≠ .plain '(') (h : react st y = .ok nx) :
    nx.Spoilt ∨ Rises st y nx := by
  cases react_ok hn h with
  | item hm read => exact .inr (rises_readItem hm read)
  | escape hm read => exact .inr (rises_readItemEscape hm read)
  | lineEnd hm =>
    have here : st.depth = st.frames.length := depth_eq hm
    exact .inr (.of_depth (by decide) (Nat.le_of_eq here) fun _ => .inl trivial)
  | inLine hm _ =>
    exact .inr (.of_depth (hb (by rw [hm]; trivial)) (Nat.le_refl _) fun _ => hs)
  | commentEnd hm =>
    have here : st.depth = st.frames.length + 1 := depth_eq hm
    exact .inr (.of_close (Nat.le_of_eq here) (.inl trivial))
  | inComment hm _ =>
    exact .inr (.of_depth (hb (by rw [hm]; trivial)) (Nat.le_refl _) fun _ => hs)
  | name hm read => exact rises_readName hm hs read
  | header hm read => exact .inr (rises_readHeader hm read)
  | headerP hm read =>
    right
    have here : st.depth = st.frames.length + 1 := depth_eq hm
    rcases readHeaderP_ok read with ⟨rfl, rfl⟩ | ⟨rfl, rfl⟩ <;>
      exact .of_depth (by decide) (Nat.le_of_eq here) fun _ => .inl trivial
  | headerAngle hm read =>
    right
    have here : st.depth = st.frames.length + 1 := depth_eq hm
    rcases readHeaderAngle_ok read with ⟨rfl, rfl⟩ | ⟨rfl, rfl⟩ <;>
      exact .of_depth (by decide) (Nat.le_of_eq here) fun _ => .inl trivial
  | flagsOn hm read => exact .inr (rises_readFlagsOn hm read)
  | flagsDash hm read =>
    right
    have here : st.depth = st.frames.length + 1 := depth_eq hm
    obtain ⟨c, f, rfl, hf, rfl⟩ := readFlagsDash_ok read
    exact .of_depth (ne_of_ofLetter? hf) (Nat.le_of_eq here) fun _ => .inl trivial
  | flagsOff hm read =>
    right
    have here : st.depth = st.frames.length + 1 := depth_eq hm
    rcases readFlagsOff_ok read with ⟨rfl, rfl⟩ | ⟨c, f, rfl, hf, rfl⟩
    · exact .of_depth (by decide) (Nat.le_of_eq here) fun _ => .inl trivial
    · exact .of_depth (ne_of_ofLetter? hf) (Nat.le_of_eq here) fun _ => .inl trivial
  | hex hm read =>
    right
    have here : st.depth = st.frames.length := depth_eq hm
    rw [hm] at hs
    obtain rfl := hs.resolve_right id
    obtain ⟨c, rfl, hc, hx⟩ := extendHex_ok read
    have hp : Symbol.plain c ≠ .plain '(' := by
      rintro hp
      rw [Symbol.plain.inj hp] at hc
      cases hc
    rcases hx with rfl | ⟨r, -, rfl⟩
    · exact .of_depth hp (Nat.le_of_eq here) fun _ => .inl rfl
    · exact .of_depth hp (Nat.le_of_eq here) fun _ => .inl trivial
  | nameBrace hm =>
    have here : st.depth = st.frames.length := depth_eq hm
    rw [hm] at hs
    obtain rfl := hs.resolve_right id
    exact .inr (.of_depth (by decide) (Nat.le_of_eq here) fun _ => .inl rfl)
  | _ => rw [‹st.mode = _›] at hs; exact (hs.elim id id).elim

/-- A construct that goes on with a symbol opens and closes nothing. -/
theorem rises_extend (hs : st.mode.Classless) (h : extend? st y = some (.ok nx)) :
    Rises st y nx := by
  have digit : ∀ {c : Char}, isDigit c → Symbol.plain c ≠ .plain '(' := by
    rintro c hc hp
    rw [Symbol.plain.inj hp] at hc
    cases hc
  cases extend?_ok h with
  | greed g hm mark =>
    have here : st.depth = st.frames.length := depth_eq hm
    obtain ⟨items, -, eq⟩ := setGreed_eq st g
    rw [eq]
    exact .of_depth (by rcases mark with rfl | rfl <;> decide) (Nat.le_of_eq here) fun _ =>
      .inl trivial
  | braces hm read =>
    have here : st.depth = st.frames.length := depth_eq hm
    obtain ⟨c, rfl, hc, hx⟩ := extendBraces?_ok read
    have hp : Symbol.plain c ≠ .plain '(' := by
      rcases hc with hc | rfl | rfl
      · exact digit hc
      · decide
      · decide
    rcases hx with ⟨lo, hi, rfl⟩ | ⟨lo, hi, hx⟩
    · exact .of_depth hp (Nat.le_of_eq here) fun _ => .inl trivial
    · obtain ⟨r, rs, -, rfl⟩ := quantify_ok hx
      exact .of_depth hp (Nat.le_of_eq here) fun _ => .inl trivial
  | opened hm =>
    have here : st.depth = st.frames.length + 1 := depth_eq hm
    exact .of_depth (by decide) (Nat.le_of_eq here) fun _ => .inl trivial
  | octal hm read =>
    have here : st.depth = st.frames.length := depth_eq hm
    rw [hm] at hs
    obtain rfl := hs.resolve_right id
    obtain ⟨c, rfl, hc, rfl | ⟨r, -, rfl⟩⟩ := extendOctal?_ok read
    · exact .of_depth (digit (isDigit_of_isOctal hc)) (Nat.le_of_eq here) fun _ => .inl rfl
    · exact .of_depth (digit (isDigit_of_isOctal hc)) (Nat.le_of_eq here) fun _ => .inl trivial
  | reference hm read =>
    have here : st.depth = st.frames.length := depth_eq hm
    obtain ⟨c, rfl, hc, rfl | rfl | ⟨r, -, rfl⟩⟩ := extendReference?_ok read
    · exact .of_depth (digit hc) (Nat.le_of_eq here) fun _ => .inl trivial
    · exact .of_depth (digit hc) (Nat.le_of_eq here) fun _ => .inl rfl
    · exact .of_depth (digit hc) (Nat.le_of_eq here) fun _ => .inl trivial

theorem inComment_of_settle (h : settle st = .ok nx) (hm : nx.mode.InComment) :
    st.mode.InComment := by
  rcases mode_of_settle h with between | ⟨-, rfl⟩
  · cases hn : nx.mode <;> rw [hn] at hm between <;> first | exact hm.elim | exact between.elim
  · exact hm

/-- A symbol outside of classes opens as much as it says, or it spoils a name. -/
theorem rises_step (hs : st.mode.Classless) (hb : st.mode.InComment → y ≠ .plain '(')
    (h : step st y = .ok nx) : nx.Spoilt ∨ Rises st y nx := by
  obtain ⟨s, ht, rfl⟩ := step_ok h
  rcases take_ok ht with he | ⟨-, s', h1, h2⟩
  · have rises := rises_extend hs he
    exact .inr ⟨rises.depth, rises.classless⟩
  · rcases rises_react (classless_settle hs h1) (settled_of_settle h1)
      (fun hm => hb (inComment_of_settle h1 hm)) h2 with spoilt | rises
    · exact .inl spoilt
    · refine .inr ⟨?_, rises.classless⟩
      rw [← depth_settle h1]
      exact rises.depth

/-- Outside of comments a bracket opens a class. -/
theorem set_of_step (hs : st.mode.IsBare) (h : step st (.plain '[') = .ok nx) :
    nx.Spoilt ∨ ∃ i, nx.mode = .setStart { start := i } := by
  rcases place_of_step hs (by decide) h with place | spoilt | ⟨hc, -⟩
  · right
    obtain ⟨s, -, hm, hs'⟩ := settles_of_step place (extend?_eq_none (by decide) rfl) h
    obtain ⟨s', ht, rfl⟩ := step_ok hs'
    rw [take_eq_react (by rw [hm]; trivial)] at ht
    simp only [react, hm] at ht
    rcases readItem_ok ht with ⟨-, hc, -⟩ | ⟨-, hc, -⟩ | ⟨hc, -⟩ | ⟨hc, -⟩ | ⟨hc, -⟩ | ⟨-, rfl⟩ |
      ⟨hc, -⟩ | ⟨hc, -⟩ | ⟨-, hc, -⟩
    · cases hc
    · cases hc
    · cases hc
    · cases hc
    · cases hc
    · exact ⟨s.pos, rfl⟩
    · cases hc
    · exact absurd hc (by decide)
    · exact absurd rfl hc
  · exact .inl spoilt
  · cases hc

/-! ## Texts -/

/-- Nothing that opens a group or a class stands in a comment of the text. -/
def Uncommented (st : State) (t : Text) : Prop :=
  ∀ u c v nx, t = u ++ c :: v → c ∈ ['(', '['] → Reads st u nx → ¬ nx.mode.InComment

theorem Uncommented.here {t : Text} (h : Uncommented st (c :: t)) (hc : c ∈ ['(', '[']) :
    ¬ st.mode.InComment := h [] c t st rfl hc (.done st)

theorem Uncommented.rest {t u : Text} (h : Uncommented st (t ++ u)) (hr : Reads st t nx) :
    Uncommented nx u := by
  rintro a c v s rfl hc ha
  exact h (t ++ a) c v s (List.append_assoc t a _).symm hc (hr.append ha)

/-- A closed piece outside of classes is read, and opens as much as it says. -/
theorem rises_piece {p : Piece} {v : Text} (hp : p.IsClosed) (hs : st.mode.Classless)
    (hu : Uncommented st (p.text ++ v)) (ha : Accepts st (p.text ++ v)) :
    ∃ nx, Reads st p.text nx ∧ nx.mode.Classless ∧ (st.depth : Int) + p.rise ≤ nx.depth ∧
      Accepts nx v := by
  have symbol : ∀ y : Symbol, y ≠ .plain '\\' → y ≠ .plain '[' →
      (st.mode.InComment → y ≠ .plain '(') → Accepts st (y.text ++ v) →
      ∃ nx, Reads st y.text nx ∧ nx.mode.Classless ∧
        (st.depth : Int) + (pieceOf y).rise ≤ nx.depth ∧ Accepts nx v := by
    intro y hy hb hc ha
    obtain ⟨nx, hx, ha⟩ := (accepts_symbol hy).1 ha
    rcases rises_step hs hc hx with spoilt | rises
    · exact absurd ha (not_accepts_spoilt spoilt v)
    · refine ⟨nx, ?_, rises.classless hb, rises.depth, ha⟩
      cases y with
      | plain c => exact .plain (fun h => hy (congrArg _ h)) hx (.done nx)
      | escaped c => exact .escaped hx (.done nx)
  cases p with
  | escape c =>
    obtain ⟨c, rfl⟩ := Option.isSome_iff_exists.1 hp
    exact symbol (.escaped c) nofun nofun (fun _ => nofun) ha
  | char c =>
    refine symbol (.plain c) (fun h => hp.1 (Symbol.plain.inj h))
      (fun h => hp.2 (Symbol.plain.inj h)) (fun hm h => ?_) ha
    obtain rfl := Symbol.plain.inj h
    exact hu.here (by decide) hm
  | charClass t =>
    obtain ⟨r, rfl, hr⟩ := hp
    have bare : st.mode.IsBare := hs.resolve_right (hu.here (by decide))
    obtain ⟨nx, hx, ha⟩ := (accepts_plain (by decide)).1 ha
    rcases set_of_step bare hx with spoilt | ⟨i, hm⟩
    · exact absurd ha (not_accepts_spoilt spoilt _)
    rcases rises_step hs (fun _ => by decide) hx with spoilt | rises
    · exact absurd ha (not_accepts_spoilt spoilt _)
    obtain ⟨s, passes, items, kept, ha⟩ :=
      class_run (by rw [hm]; rfl) (by rw [hm]; exact hr) ha
    refine ⟨s, .plain (by decide) hx passes.reads, .inl (items ▸ trivial), ?_, ha⟩
    have same : s.depth = nx.depth := by
      rw [depth_eq items, depth_eq hm, kept.frames]
      rfl
    rw [same]
    exact rises.depth

/-- So are closed pieces in a row. -/
theorem rises_pieces {ps : List Piece} {v : Text} (hp : ∀ p ∈ ps, p.IsClosed)
    (hs : st.mode.Classless) (hu : Uncommented st (spell ps ++ v))
    (ha : Accepts st (spell ps ++ v)) :
    ∃ nx, Reads st (spell ps) nx ∧ nx.mode.Classless ∧
      (st.depth : Int) + rises ps ≤ nx.depth ∧ Accepts nx v := by
  induction ps generalizing st with
  | nil => exact ⟨st, .done st, hs, by simp [rises], ha⟩
  | cons p ps ih =>
    rw [spell, List.flatMap_cons, List.append_assoc] at ha hu
    obtain ⟨s, h1, h2, h3, h4⟩ := rises_piece (hp p (by simp)) hs hu ha
    obtain ⟨nx, i1, i2, i3, i4⟩ := ih (fun q hq => hp q (by simp [hq])) h2 (hu.rest h1) h4
    refine ⟨nx, h1.append i1, i2, ?_, i4⟩
    rw [rises]
    omega

/-- An accepted text of closed pieces opens as much as it says. -/
theorem rises_spelled {t v : Text} (ht : IsSpelled t) (hs : st.mode.Classless)
    (hu : Uncommented st (t ++ v)) (ha : Accepts st (t ++ v)) :
    ∃ nx, Reads st t nx ∧ nx.mode.Classless ∧ (st.depth : Int) + rise t ≤ nx.depth ∧
      Uncommented nx v ∧ Accepts nx v := by
  obtain ⟨ps, closed, rfl⟩ := ht
  obtain ⟨nx, h1, h2, h3, h4⟩ := rises_pieces closed hs hu ha
  rw [rise_spell closed]
  exact ⟨nx, h1, h2, h3, hu.rest h1, h4⟩

theorem depth_of_finish {q : Parsed} (h : finish st = .ok q) : st.depth = 0 := by
  obtain ⟨s, hs, hm, hf, -⟩ := finish_ok h
  rw [← depth_settle hs]
  rcases hm with hm | hm <;> rw [depth_eq hm, hf] <;> rfl

/-- Where groups are open, no text is accepted that leaves as many open as it closes. -/
theorem not_accepts_deep {t : Text} (ht : IsSpelled t) (hr : rise t = 0) (hs : st.mode.Classless)
    (hu : Uncommented st t) (hd : 1 ≤ st.depth) : ¬ Accepts st t := by
  intro ha
  rw [← List.append_nil t] at ha hu
  obtain ⟨nx, -, -, h3, -, h5⟩ := rises_spelled ht hs hu ha
  obtain ⟨q, hq⟩ := accepts_nil.1 h5
  have := depth_of_finish hq
  omega

/-- A comment is entered by its mark only. -/
theorem comment_of_step (h : step st y = .ok nx) (hm : nx.mode.InComment) :
    st.mode.InComment ∨ y = .plain '#' := by
  obtain ⟨s, hs, enters⟩ := enters_step h
  have before : s.mode.InComment → st.mode.InComment := by
    rcases hs with rfl | hs
    · exact id
    · exact inComment_of_settle hs
  cases hn : nx.mode with
  | comment i =>
    rw [hn] at enters
    rcases enters with hy | hc
    · exact .inr hy
    · exact .inl (before (by rw [hc]; trivial))
  | lineComment =>
    rw [hn] at enters
    rcases enters with hy | hc
    · exact .inr hy
    · exact .inl (before (by rw [hc]; trivial))
  | _ => rw [hn] at hm; exact hm.elim

/-- A text without the mark of comments has nothing in a comment. -/
theorem uncommented_of_not_mem {t : Text} (ht : '#' ∉ t) (hs : ¬ st.mode.InComment) :
    Uncommented st t := by
  rintro u c v nx rfl - hr
  refine hr.keeps_without (P := fun s => ¬ s.mode.InComment)
    (fun hm => ht (List.mem_append_left _ hm)) (fun hy hp hx hn => ?_) hs
  exact (comment_of_step hx hn).elim hp hy

end RoutePattern.Regex.Reader
