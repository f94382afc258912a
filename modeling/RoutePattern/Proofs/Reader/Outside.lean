import RoutePattern.Proofs.Reader.Trail

/-! # Reading closed pieces

`State.Outside st`: the reader stands outside sets and comments, and nothing is verbose.

* `outside_step`: a symbol that the trail allows keeps this, unless it opens a set.
* `passes_piece`, `passes_pieces`: accepted closed pieces lead from outside to outside.
* `place_of_step`: where a slash, a bar or an escape is accepted, an item may start.
-/

namespace RoutePattern.Regex.Reader

open Scan

/-- Nothing is verbose, here or around the open groups. -/
structure State.Terse (st : State) : Prop where
  verbose : st.verbose = false
  flags : st.flags.verbose = false
  frames : ∀ f ∈ st.frames, f.verbose = false

/-- The reader stands outside sets and comments, and nothing is verbose. -/
structure State.Outside (st : State) : Prop extends st.Terse where
  mode : st.mode.IsOutside

variable {st nx : State}

/-! ## Nothing gets verbose -/

theorem terse_mode (h : st.Terse) (m : Mode) : State.Terse { st with mode := m } :=
  ⟨h.1, h.2, h.3⟩

theorem terse_push (h : st.Terse) (r : Regex) : (st.push r).Terse := ⟨h.1, h.2, h.3⟩

theorem terse_placed {site : Site} (h : st.Terse) (hp : Placed st site nx) : nx.Terse := by
  cases site with
  | item => obtain ⟨r, -, rfl⟩ := hp; exact ⟨h.1, h.2, h.3⟩
  | member s => obtain ⟨y, m, rfl⟩ := hp; exact ⟨h.1, h.2, h.3⟩
  | rangeEnd s y m => obtain ⟨n, rfl⟩ := hp; exact ⟨h.1, h.2, h.3⟩

theorem terse_enter (h : st.Terse) (o : Opener) (i : Nat) {v : Bool} (hv : v = false) :
    (st.enter o i v).Terse := by
  refine ⟨hv, h.2, fun f hf => ?_⟩
  rcases List.mem_cons.1 hf with rfl | hf
  · exact h.1
  · exact h.3 f hf

theorem terse_enterCapture (h : st.Terse) (i : Nat) (name : Option Text) :
    (st.enterCapture i name).Terse := by
  obtain ⟨h1, h2, h3⟩ := terse_enter h (.capture st.nextGroup) i h.1
  exact ⟨h1, h2, h3⟩

theorem terse_enterLookbehind (h : st.Terse) (i : Nat) (negated : Bool) :
    (st.enterLookbehind i negated).Terse := by
  obtain ⟨h1, h2, h3⟩ := terse_enter h (.lookbehind negated) i h.1
  exact ⟨h1, h2, h3⟩

theorem terse_enterFlagged (h : st.Terse) {on off : Flags} (hon : on.verbose = false) (i : Nat) :
    (enterFlagged st i on off).Terse :=
  terse_enter h _ i (by rw [h.1, hon]; rfl)

theorem terse_quantify {i least : Nat} {most : Option Nat} (h : st.Terse)
    (hq : st.quantify i least most = .ok nx) : nx.Terse := by
  unfold State.quantify at hq
  split at hq
  · simp at hq
  · split at hq
    · simp at hq
    · split at hq
      · simp at hq
      · cases hq; exact ⟨h.1, h.2, h.3⟩

theorem terse_setGreed (h : st.Terse) (g : Greed) : (st.setGreed g).Terse := by
  unfold State.setGreed
  split <;> exact ⟨h.1, h.2, h.3⟩

theorem terse_bar (h : st.Terse) (hb : st.bar = .ok nx) : nx.Terse := by
  unfold State.bar at hb
  simp only at hb
  split at hb
  · split at hb
    · cases hb; exact ⟨h.1, h.2, h.3⟩
    · simp at hb
  · cases hb; exact ⟨h.1, h.2, h.3⟩

theorem terse_close (h : st.Terse) (hc : st.close = .ok nx) : nx.Terse := by
  unfold State.close at hc
  split at hc
  · simp at hc
  · next f fs hf =>
    cases hc
    have frames : ∀ g ∈ f :: fs, g.verbose = false := hf ▸ h.3
    refine ⟨frames f (by simp), ?_, fun g hg => frames g (by simp [hg])⟩
    cases f.opener <;> exact h.2

theorem terse_settle (h : st.Terse) (hs : settle st = .ok nx) : nx.Terse := by
  cases settle_ok hs with
  | repeated _ => exact ⟨h.1, h.2, h.3⟩
  | braces _ => exact ⟨h.1, h.2, h.3⟩
  | opened _ => exact terse_enterCapture h _ none
  | octal _ placed => exact terse_placed h placed
  | reference n _ => exact terse_push h _
  | settled _ => exact h

/-! ## One symbol -/

theorem verbose_insert {on : Flags} {c : Char} {f : Flag} (h : on.verbose = false) (hc : c ≠ 'x')
    (hf : Flag.ofLetter? c = some f) : (on.insert f).verbose = false := by
  cases f with
  | verbose =>
    unfold Flag.ofLetter? at hf
    split at hf <;> first | exact absurd rfl hc | cases hf
  | _ => exact h

theorem outside_placed (h : st.Outside) (hp : Placed st .item nx) : nx.Outside := by
  obtain ⟨r, -, rfl⟩ := hp
  exact ⟨terse_push h.toTerse r, trivial⟩

theorem outside_readItem {c : Char} (hc : c ≠ '[') (h : st.Outside) (hs : st.mode = .items)
    (hr : readItem st c = .ok nx) : nx.Outside := by
  rcases readItem_ok hr with ⟨hv, -, -⟩ | ⟨hv, -, -⟩ | ⟨-, hx⟩ | ⟨-, hx⟩ | ⟨-, rfl⟩ | ⟨rfl, -⟩ |
    ⟨-, rfl⟩ | ⟨-, least, most, hx⟩ | ⟨-, -, r, -, rfl⟩
  · rw [h.verbose] at hv; cases hv
  · rw [h.verbose] at hv; cases hv
  · exact ⟨terse_bar h.toTerse hx, by rw [(found_bar hx).2, hs]; trivial⟩
  · exact ⟨terse_close h.toTerse hx, by rw [(found_close hx).2]; trivial⟩
  · exact ⟨terse_mode h.toTerse _, trivial⟩
  · exact absurd rfl hc
  · exact ⟨terse_mode h.toTerse _, trivial⟩
  · exact ⟨terse_quantify h.toTerse hx, by rw [(found_quantify hx).2]; trivial⟩
  · exact ⟨terse_push h.toTerse r, trivial⟩

theorem outside_readItemEscape {c : Char} (h : st.Outside) (hr : readItemEscape st c = .ok nx) :
    nx.Outside := by
  rcases readItemEscape_ok hr with ⟨r, -, rfl⟩ | rfl | rfl | rfl | ⟨-, rfl⟩
  · exact ⟨terse_push h.toTerse r, trivial⟩
  · exact ⟨terse_mode h.toTerse _, rfl⟩
  · exact ⟨terse_mode h.toTerse _, rfl⟩
  · exact ⟨terse_mode h.toTerse _, rfl⟩
  · exact ⟨terse_mode h.toTerse _, trivial⟩

theorem outside_extend {y : Symbol} (h : st.Outside) (he : extend? st y = some (.ok nx)) :
    nx.Outside := by
  have ho := h.mode
  cases extend?_ok he with
  | greed g _ _ => exact ⟨terse_setGreed h.toTerse g, by rw [(found_setGreed g).2]; trivial⟩
  | braces _ read =>
    obtain ⟨c, -, -, ⟨lo, hi, rfl⟩ | ⟨lo, hi, hx⟩⟩ := extendBraces?_ok read
    · exact ⟨terse_mode h.toTerse _, trivial⟩
    · exact ⟨terse_quantify h.toTerse hx, by rw [(found_quantify hx).2]; trivial⟩
  | opened _ => exact ⟨terse_mode h.toTerse _, trivial⟩
  | octal hs read =>
    rw [hs] at ho
    obtain rfl := ho
    obtain ⟨c, -, -, rfl | hp⟩ := extendOctal?_ok read
    · exact ⟨terse_mode h.toTerse _, rfl⟩
    · exact outside_placed h hp
  | reference _ read =>
    obtain ⟨c, -, -, rfl | rfl | ⟨r, -, rfl⟩⟩ := extendReference?_ok read
    · exact ⟨terse_mode h.toTerse _, trivial⟩
    · exact ⟨terse_mode h.toTerse _, rfl⟩
    · exact ⟨terse_push h.toTerse r, trivial⟩

theorem outside_readName {use : NameUse} {start : Nat} {w : Text} {y : Symbol} (h : st.Outside)
    (hs : st.mode = .name use start w) (hr : readName st use start w y = .ok nx) :
    nx.Outside := by
  have ho := h.mode
  rw [hs] at ho
  rcases readName_ok hr with ⟨-, -, hc⟩ | ⟨-, rfl⟩
  · obtain ⟨-, hx⟩ := closeName_ok hc
    rcases ho with rfl | rfl | rfl
    · rw [show nx = _ from hx]; exact ⟨terse_enterCapture h.toTerse _ _, trivial⟩
    · obtain ⟨n, rfl⟩ := hx; exact ⟨terse_push h.toTerse _, trivial⟩
    · exact outside_placed h hx
  · exact ⟨terse_mode h.toTerse _, ho⟩

theorem outside_readHeader {start : Nat} {y : Symbol} (h : st.Outside)
    (ha : Trail.head.Allows (pieceOf y)) (hr : readHeader st start y = .ok nx) : nx.Outside := by
  rcases readHeader_ok hr with ⟨c, o, -, -, rfl⟩ | ⟨-, rfl⟩ | ⟨-, rfl⟩ | ⟨rfl, -⟩ | ⟨rfl, -⟩ |
    ⟨-, rfl⟩ | ⟨c, f, rfl, hf, rfl⟩
  · exact ⟨terse_enter h.toTerse o start h.verbose, trivial⟩
  · exact ⟨terse_mode h.toTerse _, trivial⟩
  · exact ⟨terse_mode h.toTerse _, trivial⟩
  · exact absurd rfl ha.1
  · exact absurd rfl ha.2.1
  · exact ⟨terse_mode h.toTerse _, rfl⟩
  · exact ⟨terse_mode h.toTerse _, verbose_insert rfl ha.2.2 hf⟩

theorem outside_readFlags {start : Nat} {on : Flags} {y : Symbol} (h : st.Outside)
    (hon : on.verbose = false) (ha : Trail.flags.Allows (pieceOf y))
    (hr : readFlagsOn st start on y = .ok nx) : nx.Outside := by
  rcases readFlagsOn_ok hr with ⟨-, hx⟩ | ⟨-, rfl⟩ | ⟨-, rfl⟩ | ⟨c, f, rfl, hf, rfl⟩
  · obtain ⟨-, rfl⟩ := setFlags_ok hx
    have hv : (st.flags.union on).verbose = false := by simp [Flags.union, h.flags, hon]
    exact ⟨⟨hv, hv, h.frames⟩, trivial⟩
  · exact ⟨terse_enterFlagged h.toTerse hon start, trivial⟩
  · exact ⟨terse_mode h.toTerse _, hon⟩
  · exact ⟨terse_mode h.toTerse _, verbose_insert hon ha hf⟩

theorem outside_react {y : Symbol} {T : Trail} (h : st.Outside) (hn : st.mode.IsSettled)
    (hf : st.mode.Follows T) (ha : T.Allows (pieceOf y)) (hb : y ≠ .plain '[')
    (hr : react st y = .ok nx) : nx.Outside := by
  have ho := h.mode
  cases react_ok hn hr with
  | item hs read => exact outside_readItem (fun hc => hb (hc ▸ rfl)) h hs read
  | escape _ read => exact outside_readItemEscape h read
  | header hs read =>
    rw [hs] at hf
    rw [show T = .head from hf] at ha
    exact outside_readHeader h ha read
  | headerP _ read =>
    obtain ⟨-, rfl⟩ | ⟨-, rfl⟩ := readHeaderP_ok read
    · exact ⟨terse_mode h.toTerse _, .inl rfl⟩
    · exact ⟨terse_mode h.toTerse _, .inr (.inl rfl)⟩
  | headerAngle _ read =>
    obtain ⟨-, rfl⟩ | ⟨-, rfl⟩ := readHeaderAngle_ok read <;>
      exact ⟨terse_enterLookbehind h.toTerse _ _, trivial⟩
  | name hs read => exact outside_readName h hs read
  | flagsOn hs read =>
    rw [hs] at hf ho
    rw [show T = .flags from hf] at ha
    exact outside_readFlags h ho ha read
  | flagsDash hs read =>
    rw [hs] at ho
    obtain ⟨c, f, -, -, rfl⟩ := readFlagsDash_ok read
    exact ⟨terse_mode h.toTerse _, ho⟩
  | flagsOff hs read =>
    rw [hs] at ho
    rcases readFlagsOff_ok read with ⟨-, rfl⟩ | ⟨c, f, -, -, rfl⟩
    · exact ⟨terse_enterFlagged h.toTerse ho _, trivial⟩
    · exact ⟨terse_mode h.toTerse _, ho⟩
  | hex hs read =>
    rw [hs] at ho
    obtain rfl := ho
    obtain ⟨c, -, -, rfl | hp⟩ := extendHex_ok read
    · exact ⟨terse_mode h.toTerse _, rfl⟩
    · exact outside_placed h hp
  | nameBrace hs =>
    rw [hs] at ho
    obtain rfl := ho
    exact ⟨terse_mode h.toTerse _, .inr (.inr rfl)⟩
  | _ => rw [‹st.mode = _›] at ho; exact ho.elim

/-- A symbol that the trail allows keeps the reader outside, if it opens no set. -/
theorem outside_step {y : Symbol} {T : Trail} (h : st.Outside) (hf : st.mode.Follows T)
    (ha : T.Allows (pieceOf y)) (hb : y ≠ .plain '[') (hs : step st y = .ok nx) : nx.Outside := by
  obtain ⟨s, ht, rfl⟩ := step_ok hs
  have moved : s.Outside → State.Outside { s with pos := st.pos + y.size } :=
    fun h => ⟨⟨h.verbose, h.flags, h.frames⟩, h.mode⟩
  apply moved
  rcases take_ok ht with he | ⟨-, s', h1, h2⟩
  · exact outside_extend h he
  · obtain ⟨hn, ho', hm⟩ := outside_of_settle h.mode h1
    have hf' : s'.mode.Follows T := by
      rcases hm with hm | rfl
      · rw [hm]; trivial
      · exact hf
    exact outside_react ⟨terse_settle h.toTerse h1, ho'⟩ hn hf' ha hb h2

/-! ## Where an item may start -/

/-- An item may start here, perhaps after the end of the construct at hand. -/
def Mode.IsPlace : Mode → Prop
  | .items => True
  | .repeated => True
  | .braces _ _ _ => True
  | .opened _ => True
  | .octal site _ => site = .item
  | .reference _ => True
  | _ => False

/-- An item starts or ends with the symbol: nothing goes on with it in a header or a name, but for
the parenthesis of a condition. -/
def Parts : Symbol → Prop
  | .plain c => c ∈ ['/', '$', '|', '?', '[', '(']
  | .escaped _ => True

instance : (y : Symbol) → Decidable (Parts y)
  | .plain c => inferInstanceAs (Decidable (c ∈ ['/', '$', '|', '?', '[', '(']))
  | .escaped _ => inferInstanceAs (Decidable True)

/-- The reader stands in no set and in no comment. -/
def Mode.IsBare : Mode → Prop
  | .lineComment => False
  | .comment _ => False
  | .name (.character site) _ _ => site = .item
  | .setStart _ => False
  | .setMember _ => False
  | .setAfter _ _ _ => False
  | .setDash _ _ _ => False
  | .hex site _ _ => site = .item
  | .nameBrace site => site = .item
  | .octal site _ => site = .item
  | _ => True

theorem Mode.IsOutside.bare {m : Mode} (h : m.IsOutside) : m.IsBare := by
  cases m with
  | name use start w =>
    cases use with
    | character site =>
      rcases h with h | h | h
      · cases h
      · cases h
      · exact NameUse.character.inj h
    | _ => trivial
  | _ => trivial

/-- Where a symbol that parts items is read, an item may start, or a name is spoilt by it, or a
condition starts. -/
theorem place_of_step {y : Symbol} (ho : st.mode.IsBare) (hy : Parts y)
    (h : step st y = .ok nx) :
    st.mode.IsPlace ∨ nx.Spoilt ∨ (y = .plain '(' ∧ ∃ start, nx.mode = .name .condition start []) := by
  obtain ⟨s, ht, rfl⟩ := step_ok h
  have flag : ∀ c f, y = .plain c → Flag.ofLetter? c ≠ some f := by
    rintro c f rfl hf
    have marks : ∀ c ∈ ['/', '$', '|', '?', '[', '('], Flag.ofLetter? c = none := by decide
    rw [marks c hy] at hf
    cases hf
  have plain : ∀ c, c ∉ ['/', '$', '|', '?', '[', '('] → y ≠ .plain c := by
    rintro c hc rfl
    exact hc hy
  by_cases settled : st.mode.IsSettled
  · cases reacts_of_take settled ht with
    | item hm _ => exact .inl (by rw [hm]; trivial)
    | escape hm _ => exact .inl (by rw [hm]; trivial)
    | header hm read =>
      rcases readHeader_ok read with ⟨c, o, rfl, hc, -⟩ | ⟨h, -⟩ | ⟨h, -⟩ | ⟨h, -⟩ | ⟨hx, rfl⟩ |
        ⟨h, -⟩ | ⟨c, f, hc, hf, -⟩
      · have marks : ∀ c ∈ ['/', '$', '|', '?', '[', '('], headerOpener? c = none := by decide
        rw [marks c hy] at hc
        cases hc
      · exact absurd h (plain _ (by decide))
      · exact absurd h (plain _ (by decide))
      · exact absurd h (plain _ (by decide))
      · exact .inr (.inr ⟨hx, _, rfl⟩)
      · exact absurd h (plain _ (by decide))
      · exact absurd hf (flag c f hc)
    | headerP _ read =>
      obtain ⟨h, -⟩ | ⟨h, -⟩ := readHeaderP_ok read <;> exact absurd h (plain _ (by decide))
    | headerAngle _ read =>
      obtain ⟨h, -⟩ | ⟨h, -⟩ := readHeaderAngle_ok read <;> exact absurd h (plain _ (by decide))
    | @name use start w _ _ hm read =>
      rcases readName_ok read with ⟨h, -, -⟩ | ⟨-, rfl⟩
      · exact absurd h (plain _ (by cases use <;> simp [NameUse.close]))
      · refine .inr (.inl ⟨use, start, _, rfl, fun hn => ?_⟩)
        have clean := (named_append.1 hn).2
        cases y with
        | plain c =>
          have marks : ∀ c ∈ ['/', '$', '|', '?', '[', '('], c ∈ nameMarks := by decide
          exact clean c (by simp [Symbol.text]) (marks c hy)
        | escaped c => exact clean '\\' (by simp [Symbol.text]) (by decide)
    | flagsOn _ read =>
      rcases readFlagsOn_ok read with ⟨h, -⟩ | ⟨h, -⟩ | ⟨h, -⟩ | ⟨c, f, hc, hf, -⟩
      · exact absurd h (plain _ (by decide))
      · exact absurd h (plain _ (by decide))
      · exact absurd h (plain _ (by decide))
      · exact absurd hf (flag c f hc)
    | flagsDash _ read =>
      obtain ⟨c, f, hc, hf, -⟩ := readFlagsDash_ok read
      exact absurd hf (flag c f hc)
    | flagsOff _ read =>
      rcases readFlagsOff_ok read with ⟨h, -⟩ | ⟨c, f, hc, hf, -⟩
      · exact absurd h (plain _ (by decide))
      · exact absurd hf (flag c f hc)
    | hex _ read =>
      obtain ⟨c, rfl, hc, -⟩ := extendHex_ok read
      have marks : ∀ c ∈ ['/', '$', '|', '?', '[', '('], isHex c = false := by decide
      rw [marks c hy] at hc
      cases hc
    | nameBrace _ => exact absurd rfl (plain _ (by decide))
    | _ => rw [‹st.mode = _›] at ho; exact ho.elim
  · -- a construct that may end here is one behind which an item may start
    left
    cases hm : st.mode <;> rw [hm] at ho settled
    case octal => exact ho
    all_goals first | trivial | exact absurd trivial settled

/-- No construct at hand goes on with the character. -/
theorem extend?_eq_none {c : Char} (h1 : c ∉ ['?', '+', ',', '\x7d']) (h2 : isDigit c = false) :
    extend? st (.plain c) = none := by
  simp only [List.mem_cons, List.not_mem_nil, or_false, not_or] at h1
  have octal : ∀ site digits, extendOctal? st site digits (.plain c) = none := by
    intro site digits
    have : isOctal c = false := by
      cases ho : isOctal c with
      | false => rfl
      | true => rw [isDigit_of_isOctal ho] at h2; cases h2
    simp [extendOctal?, this]
  unfold extend?
  split
  · simp [h1]
  · simp [extendBraces?, h1, h2]
  · simp [h1]
  · exact octal _ _
  · simp [extendReference?, h2, octal]
  · rfl

/-- Where an item may start, the construct at hand ends and the symbol is read between items. -/
theorem place_step {c : Char} (hp : st.mode.IsPlace) (h : st.Outside)
    (hn : extend? st (.plain c) = none) (hs : step st (.plain c) = .ok nx) :
    ∃ s, settle st = .ok s ∧ s.mode = .items ∧ s.Outside ∧
      ∃ s', readItem s c = .ok s' ∧ nx = { s' with pos := st.pos + 1 } := by
  obtain ⟨s', ht, rfl⟩ := step_ok hs
  rcases take_ok ht with he | ⟨-, s, h1, h2⟩
  · rw [hn] at he; cases he
  · obtain ⟨hset, ho', hm⟩ := outside_of_settle h.mode h1
    have items : s.mode = .items := by
      rcases hm with hm | rfl
      · exact hm
      · cases hs : s.mode <;> rw [hs] at hp hset <;> first | rfl | exact hp.elim | exact hset.elim
    refine ⟨s, h1, items, ⟨terse_settle h.toTerse h1, ho'⟩, s', ?_, rfl⟩
    simpa [react, items] using h2

/-- A symbol that parts items is read where an item may start. -/
theorem place_of_accepts {y : Symbol} {v : Text} (h : st.Outside) (hy : Parts y)
    (hb : y ≠ .plain '\\') (hp : y ≠ .plain '(') (ha : Accepts st (y.text ++ v)) :
    st.mode.IsPlace ∧ ∃ nx, step st y = .ok nx ∧ Accepts nx v := by
  obtain ⟨nx, hs, ha⟩ := (accepts_symbol hb).1 ha
  rcases place_of_step h.mode.bare hy hs with hm | hd | ⟨hc, -⟩
  · exact ⟨hm, nx, hs, ha⟩
  · exact absurd ha (not_accepts_spoilt hd v)
  · exact absurd hc hp

/-- A bracket opens a set. -/
theorem open_set {v : Text} (h : st.Outside) (ha : Accepts st ('[' :: v)) :
    ∃ nx, step st (.plain '[') = .ok nx ∧ nx.Terse ∧ nx.mode = .setStart { start := st.pos } ∧
      Accepts nx v := by
  obtain ⟨hp, nx, hs, ha⟩ :=
    place_of_accepts (y := .plain '[') h (by decide) (by decide) (by decide) ha
  refine ⟨nx, hs, ?_, ?_, ha⟩
  all_goals
    obtain ⟨s, h1, hm, hso, s', hr, rfl⟩ := place_step hp h (extend?_eq_none (by decide) rfl) hs
    have hr' : s' = { s with mode := .setStart { start := s.pos } } := by
      simpa [readItem, hso.verbose] using hr.symm
    subst hr'
  · exact ⟨hso.verbose, hso.flags, hso.frames⟩
  · rw [← pos_of_settle h1]

/-- The state behind a parenthesis that opens a group. -/
def State.opening (s : State) : State := { s with mode := .opened s.pos, pos := s.pos + 1 }

/-- A parenthesis with a mark behind it opens a group: in the name of a condition the mark would
not be accepted. -/
theorem open_group {c : Char} {v : Text} (h : st.Outside) (hc : c ∈ ['?', '.', '(', '['])
    (ha : Accepts st ('(' :: c :: v)) :
    st.mode.IsPlace ∧ ∃ s, settle st = .ok s ∧ s.mode = .items ∧ s.Outside ∧ s.pos = st.pos ∧
      step st (.plain '(') = .ok s.opening ∧ Accepts s.opening (c :: v) := by
  obtain ⟨nx, hs, ha⟩ := (accepts_plain (by decide)).1 ha
  rcases place_of_step (y := .plain '(') h.mode.bare (by decide) hs with hp | hd | ⟨-, i, hm⟩
  · obtain ⟨s, h1, hm, hso, s', hr, rfl⟩ := place_step hp h (extend?_eq_none (by decide) rfl) hs
    have hpos := pos_of_settle h1
    have hr' : s' = { s with mode := .opened s.pos } := by
      simpa [readItem, hso.verbose] using hr.symm
    subst hr'
    rw [← hpos] at hs ha
    exact ⟨hp, s, h1, hm, hso, hpos, hs, ha⟩
  · exact absurd ha (not_accepts_spoilt hd _)
  · have marks : ∀ c ∈ ['?', '.', '(', '['], c ∈ nameMarks := by decide
    exact absurd ha (not_accepts_mark hm (marks c hc) v)

/-! ## Closed pieces -/

/-- A closed piece that the trail allows is read from outside to outside. -/
theorem passes_piece {p : Piece} {T : Trail} {v : Text} (hp : p.IsClosed) (h : st.Outside)
    (hf : st.mode.Follows T) (ha : T.Allows p) (hacc : Accepts st (p.text ++ v)) :
    ∃ nx, Passes st p.text nx ∧ nx.Outside ∧ nx.mode.Follows (T.next p) ∧ Accepts nx v := by
  have symbol : ∀ y : Symbol, y ≠ .plain '\\' → y ≠ .plain '[' → T.Allows (pieceOf y) →
      Accepts st (y.text ++ v) → ∃ nx, Passes st y.text nx ∧ nx.Outside ∧
        nx.mode.Follows (T.next (pieceOf y)) ∧ Accepts nx v := by
    intro y hy hb ha hacc
    obtain ⟨nx, hs, hacc⟩ := (accepts_symbol hy).1 hacc
    exact ⟨nx, .one hy h.mode.quiet hs, outside_step h hf ha hb hs, follows_step hf hs, hacc⟩
  cases p with
  | escape c =>
    cases c with
    | none => cases hp
    | some c => exact symbol (.escaped c) (by simp) (by simp) ha hacc
  | char c => exact symbol (.plain c) (by simpa using hp.1) (by simpa using hp.2) ha hacc
  | charClass t =>
    obtain ⟨r, rfl, hr⟩ := hp
    obtain ⟨nx, hs, hx, hm, hacc⟩ := open_set h hacc
    have inside : nx.mode.InClass := by rw [hm]; rfl
    obtain ⟨s, h1, h2, h3, h4⟩ := class_run inside (by rw [hm]; exact hr) hacc
    have terse : s.Terse :=
      ⟨h3.verbose.trans hx.1, by rw [h3.flags]; exact hx.2, by rw [h3.frames]; exact hx.3⟩
    refine ⟨s, (Passes.one (by decide) h.mode.quiet hs).append h1, ⟨terse, ?_⟩, ?_, h4⟩
    · rw [h2]; trivial
    · rw [h2]; trivial

theorem passes_pieces {ps : List Piece} {T : Trail} {v : Text} (hp : ∀ p ∈ ps, p.IsClosed)
    (h : st.Outside) (hf : st.mode.Follows T) (hc : T.Calm ps) (ha : Accepts st (spell ps ++ v)) :
    ∃ nx, Passes st (spell ps) nx ∧ nx.Outside ∧ nx.mode.Follows (T.after ps) ∧ Accepts nx v := by
  induction ps generalizing st T with
  | nil => exact ⟨st, .done st, h, hf, ha⟩
  | cons p ps ih =>
    rw [spell, List.flatMap_cons, List.append_assoc] at ha
    obtain ⟨s, h1, h2, h3, h4⟩ := passes_piece (hp p (by simp)) h hf hc.1 ha
    obtain ⟨nx, i1, i2, i3, i4⟩ := ih (fun q hq => hp q (by simp [hq])) h2 h3 hc.2 h4
    exact ⟨nx, h1.append i1, i2, i3, i4⟩

end RoutePattern.Regex.Reader
