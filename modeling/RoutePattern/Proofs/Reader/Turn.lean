import RoutePattern.Proofs.Reader.Name

/-! # Where sets open and close

A set is a stretch of the reader's run: a bracket leads into it, another one out of it, and what is
read in between keeps its start.

* `Mode.openAt?`: where the set starts in which the reader stands.
* `Turn st y nx`: the symbol leaves the sets alone, opens one, or closes the one at hand.
* `turn_step`: every symbol that is read does one of these. `turn_inside`: in a set it goes on or
  closes it.
-/

namespace RoutePattern.Regex.Reader

/-- Where the set starts in which an escape stands. -/
def Site.openAt? : Site → Option Nat
  | .item => none
  | .member s => some s.start
  | .rangeEnd s _ _ => some s.start

/-- Where the set starts in which the reader stands, if it stands in one. -/
def Mode.openAt? : Mode → Option Nat
  | .setStart s => some s.start
  | .setMember s => some s.start
  | .setAfter s _ _ => some s.start
  | .setDash s _ _ => some s.start
  | .hex site _ _ => site.openAt?
  | .nameBrace site => site.openAt?
  | .octal site _ => site.openAt?
  | .name (.character site) _ _ => site.openAt?
  | _ => none

/-- The set at hand, if there is one, stays open, and the closed ones are the same. -/
structure Still (st nx : State) : Prop where
  mode : nx.mode.openAt? = st.mode.openAt?
  sets : nx.sets = st.sets

/-- What a symbol does to the sets. -/
inductive Turn (st : State) (y : Symbol) (nx : State) : Prop
  | still (same : Still st nx)
  | opens (symbol : y = .plain '[') (outside : st.mode.openAt? = none)
      (mode : nx.mode = .setStart { start := st.pos }) (sets : nx.sets = st.sets)
  | closes (start : Nat) (symbol : y = .plain ']') (inside : st.mode.openAt? = some start)
      (mode : nx.mode = .items) (sets : nx.sets = (start, st.pos + 1) :: st.sets)

variable {st nx s : State} {y : Symbol}

/-! ## Items and groups -/

/-- What is read outside sets and leads to no set. -/
theorem Still.of_outside (hs : st.mode.openAt? = none) (hm : nx.mode.openAt? = none)
    (h : nx.sets = st.sets) : Still st nx := ⟨hm.trans hs.symm, h⟩

theorem still_placed {site : Site} (hs : st.mode.openAt? = site.openAt?)
    (h : Placed st site nx) : Still st nx := by
  cases site with
  | item =>
    obtain ⟨r, -, rfl⟩ := h
    exact .of_outside hs rfl rfl
  | member t =>
    obtain ⟨z, m, rfl⟩ := h
    exact ⟨hs.symm, rfl⟩
  | rangeEnd t z m =>
    obtain ⟨n, rfl⟩ := h
    exact ⟨hs.symm, rfl⟩

theorem still_quantify {i least : Nat} {most : Option Nat} (hs : st.mode.openAt? = none)
    (h : st.quantify i least most = .ok nx) : Still st nx := by
  obtain ⟨r, rs, -, rfl⟩ := quantify_ok h
  exact .of_outside hs rfl rfl

theorem still_setGreed (hs : st.mode.openAt? = none) (g : Greed) : Still st (st.setGreed g) := by
  obtain ⟨items, -, eq⟩ := setGreed_eq st g
  rw [eq]
  exact .of_outside hs rfl rfl

theorem still_close (hs : st.mode.openAt? = none) (h : st.close = .ok nx) : Still st nx := by
  unfold State.close at h
  split at h
  · exact absurd h refuse_ne_ok
  · next f fs hf =>
    obtain rfl := Except.ok.inj h
    refine .of_outside hs rfl ?_
    cases f.opener <;> rfl

theorem turn_readItem {c : Char} (hs : st.mode.openAt? = none) (h : readItem st c = .ok nx) :
    Turn st (.plain c) nx := by
  rcases readItem_ok h with ⟨-, -, rfl⟩ | ⟨-, -, rfl⟩ | ⟨-, hx⟩ | ⟨-, hx⟩ | ⟨-, rfl⟩ |
    ⟨rfl, rfl⟩ | ⟨-, rfl⟩ | ⟨-, least, most, hx⟩ | ⟨-, -, r, -, rfl⟩
  · exact .still ⟨rfl, rfl⟩
  · exact .still (.of_outside hs rfl rfl)
  · obtain rfl := bar_ok hx
    exact .still ⟨rfl, rfl⟩
  · exact .still (still_close hs hx)
  · exact .still (.of_outside hs rfl rfl)
  · exact .opens rfl hs rfl rfl
  · exact .still (.of_outside hs rfl rfl)
  · exact .still (still_quantify hs hx)
  · exact .still (.of_outside hs rfl rfl)

theorem still_readItemEscape {c : Char} (hs : st.mode.openAt? = none)
    (h : readItemEscape st c = .ok nx) : Still st nx := by
  rcases readItemEscape_ok h with ⟨r, -, rfl⟩ | rfl | rfl | rfl | ⟨-, rfl⟩ <;>
    exact .of_outside hs rfl rfl

/-! ## Headers and names -/

theorem still_readHeader {i : Nat} (hs : st.mode.openAt? = none)
    (h : readHeader st i y = .ok nx) : Still st nx := by
  rcases readHeader_ok h with ⟨c, o, -, -, rfl⟩ | ⟨-, rfl⟩ | ⟨-, rfl⟩ | ⟨-, rfl⟩ | ⟨-, rfl⟩ |
    ⟨-, rfl⟩ | ⟨c, f, -, -, rfl⟩ <;> exact .of_outside hs rfl rfl

theorem still_readFlagsOn {i : Nat} {on : Flags} (hs : st.mode.openAt? = none)
    (h : readFlagsOn st i on y = .ok nx) : Still st nx := by
  rcases readFlagsOn_ok h with ⟨-, hx⟩ | ⟨-, rfl⟩ | ⟨-, rfl⟩ | ⟨c, f, -, -, rfl⟩
  · obtain ⟨-, rfl⟩ := setFlags_ok hx
    exact .of_outside hs rfl rfl
  all_goals exact .of_outside hs rfl rfl

theorem still_readName {use : NameUse} {i : Nat} {w : Text} (hm : st.mode = .name use i w)
    (h : readName st use i w y = .ok nx) : Still st nx := by
  rcases readName_ok h with ⟨-, -, hc⟩ | ⟨-, rfl⟩
  · obtain ⟨-, hx⟩ := closeName_ok hc
    cases use with
    | define =>
      rw [show nx = _ from hx]
      exact .of_outside (by rw [hm]; rfl) rfl rfl
    | refer =>
      obtain ⟨n, rfl⟩ := hx
      exact .of_outside (by rw [hm]; rfl) rfl rfl
    | condition =>
      obtain ⟨n, asked, rfl⟩ := hx
      exact .of_outside (by rw [hm]; rfl) rfl rfl
    | character site => exact still_placed (by rw [hm]; rfl) hx
  · refine ⟨?_, rfl⟩
    rw [hm]
    cases use <;> rfl

/-! ## Members of a set -/

theorem still_readSetEscape {site : Site} {c : Char} (hs : st.mode.openAt? = site.openAt?)
    (h : readSetEscape st site c = .ok nx) : Still st nx := by
  rcases readSetEscape_ok h with hp | rfl | rfl | rfl
  · exact still_placed hs hp
  all_goals exact ⟨hs.symm, rfl⟩

theorem turn_readSetMember {t : OpenSet} (hs : st.mode.openAt? = some t.start)
    (h : readSetMember st t y = .ok nx) : Turn st y nx := by
  rcases readSetMember_ok h with ⟨c, -, hx⟩ | ⟨hy, -, rfl⟩ | ⟨c, -, -, rfl⟩
  · have inside : st.mode.openAt? = (Site.member t).openAt? := hs
    exact .still (still_readSetEscape inside hx)
  · exact .closes t.start hy hs rfl rfl
  · exact .still ⟨hs.symm, rfl⟩

theorem turn_readSetStart {t : OpenSet} (hs : st.mode.openAt? = some t.start)
    (h : readSetStart st t y = .ok nx) : Turn st y nx := by
  obtain ⟨-, rfl⟩ | ⟨-, hx⟩ := readSetStart_ok h
  · exact .still ⟨hs.symm, rfl⟩
  · exact turn_readSetMember hs hx

theorem turn_readSetAfter {t : OpenSet} {first : Symbol} {m : Member}
    (hs : st.mode.openAt? = some t.start) (h : readSetAfter st t first m y = .ok nx) :
    Turn st y nx := by
  obtain ⟨-, rfl⟩ | ⟨-, hx⟩ := readSetAfter_ok h
  · exact .still ⟨hs.symm, rfl⟩
  · exact turn_readSetMember (t := t.add m) hs hx

theorem turn_readSetDash {t : OpenSet} {first : Symbol} {m : Member}
    (hs : st.mode.openAt? = some t.start) (h : readSetDash st t first m y = .ok nx) :
    Turn st y nx := by
  rcases readSetDash_ok h with ⟨c, -, hx⟩ | ⟨hy, u, hu, rfl⟩ | ⟨c, r, -, -, rfl⟩
  · have inside : st.mode.openAt? = (Site.rangeEnd t first m).openAt? := hs
    exact .still (still_readSetEscape inside hx)
  · exact .closes u.start hy (hu ▸ hs) rfl rfl
  · exact .still ⟨hs.symm, rfl⟩

/-! ## One symbol -/

theorem still_settle (h : settle st = .ok nx) : Still st nx := by
  cases settle_ok h with
  | octal hm placed => exact still_placed (by rw [hm]; rfl) placed
  | settled _ => exact ⟨rfl, rfl⟩
  | _ => exact .of_outside (by rw [‹st.mode = _›]; rfl) rfl rfl

theorem still_extend (h : extend? st y = some (.ok nx)) : Still st nx := by
  cases extend?_ok h with
  | greed g hm _ => exact still_setGreed (by rw [hm]; rfl) g
  | braces hm read =>
    have outside : st.mode.openAt? = none := by rw [hm]; rfl
    obtain ⟨c, -, -, ⟨lo, hi, rfl⟩ | ⟨lo, hi, hx⟩⟩ := extendBraces?_ok read
    · exact .of_outside outside rfl rfl
    · exact still_quantify outside hx
  | opened hm => exact .of_outside (by rw [hm]; rfl) rfl rfl
  | @octal site _ _ _ hm read =>
    have inside : st.mode.openAt? = site.openAt? := by rw [hm]; rfl
    obtain ⟨c, -, -, rfl | hp⟩ := extendOctal?_ok read
    · exact ⟨inside.symm, rfl⟩
    · exact still_placed inside hp
  | reference hm read =>
    have outside : st.mode.openAt? = none := by rw [hm]; rfl
    obtain ⟨c, -, -, rfl | rfl | ⟨r, -, rfl⟩⟩ := extendReference?_ok read <;>
      exact .of_outside outside rfl rfl

/-- A symbol where no construct could end before it, by the construct at hand. -/
theorem turn_react (hn : st.mode.IsSettled) (h : react st y = .ok nx) : Turn st y nx := by
  cases react_ok hn h with
  | item hm read => exact turn_readItem (by rw [hm]; rfl) read
  | escape hm read => exact .still (still_readItemEscape (by rw [hm]; rfl) read)
  | lineEnd hm => exact .still (.of_outside (by rw [hm]; rfl) rfl rfl)
  | inLine _ _ => exact .still ⟨rfl, rfl⟩
  | commentEnd hm => exact .still (.of_outside (by rw [hm]; rfl) rfl rfl)
  | inComment _ _ => exact .still ⟨rfl, rfl⟩
  | header hm read => exact .still (still_readHeader (by rw [hm]; rfl) read)
  | headerP hm read =>
    obtain ⟨-, rfl⟩ | ⟨-, rfl⟩ := readHeaderP_ok read <;>
      exact .still (.of_outside (by rw [hm]; rfl) rfl rfl)
  | headerAngle hm read =>
    obtain ⟨-, rfl⟩ | ⟨-, rfl⟩ := readHeaderAngle_ok read <;>
      exact .still (.of_outside (by rw [hm]; rfl) rfl rfl)
  | name hm read => exact .still (still_readName hm read)
  | flagsOn hm read => exact .still (still_readFlagsOn (by rw [hm]; rfl) read)
  | flagsDash hm read =>
    obtain ⟨c, f, -, -, rfl⟩ := readFlagsDash_ok read
    exact .still (.of_outside (by rw [hm]; rfl) rfl rfl)
  | flagsOff hm read =>
    obtain ⟨-, rfl⟩ | ⟨c, f, -, -, rfl⟩ := readFlagsOff_ok read <;>
      exact .still (.of_outside (by rw [hm]; rfl) rfl rfl)
  | setStart hm read => exact turn_readSetStart (by rw [hm]; rfl) read
  | setMember hm read => exact turn_readSetMember (by rw [hm]; rfl) read
  | setAfter hm read => exact turn_readSetAfter (by rw [hm]; rfl) read
  | setDash hm read => exact turn_readSetDash (by rw [hm]; rfl) read
  | @hex site _ _ _ _ hm read =>
    have inside : st.mode.openAt? = site.openAt? := by rw [hm]; rfl
    obtain ⟨c, -, -, rfl | hp⟩ := extendHex_ok read
    · exact .still ⟨inside.symm, rfl⟩
    · exact .still (still_placed inside hp)
  | nameBrace hm => exact .still ⟨by rw [hm]; rfl, rfl⟩

/-- Where a construct ends before the symbol, the symbol does the same from there. -/
theorem Turn.of_settle (hs : settle st = .ok s) (h : Turn s y nx) : Turn st y nx := by
  obtain ⟨mode, sets⟩ := still_settle hs
  have pos := pos_of_settle hs
  cases h with
  | still same => exact .still ⟨same.mode.trans mode, same.sets.trans sets⟩
  | opens symbol outside opened kept =>
    exact .opens symbol (mode ▸ outside) (pos ▸ opened) (kept.trans sets)
  | closes i symbol inside items closed =>
    exact .closes i symbol (mode ▸ inside) items (by rw [closed, pos, sets])

theorem turn_step (h : step st y = .ok nx) : Turn st y nx := by
  obtain ⟨s, ht, rfl⟩ := step_ok h
  have turn : Turn st y s := by
    rcases take_ok ht with he | ⟨-, s', settled, reacted⟩
    · exact .still (still_extend he)
    · exact (turn_react (settled_of_settle settled) reacted).of_settle settled
  cases turn with
  | still same => exact .still ⟨same.mode, same.sets⟩
  | opens symbol outside mode sets => exact .opens symbol outside mode sets
  | closes i symbol inside mode sets => exact .closes i symbol inside mode sets

/-- In a set, a symbol goes on in it or closes it. -/
theorem turn_inside {i : Nat} (hi : st.mode.openAt? = some i) (h : step st y = .ok nx) :
    Still st nx ∨ (y = .plain ']' ∧ nx.mode = .items ∧ nx.sets = (i, st.pos + 1) :: st.sets) := by
  cases turn_step h with
  | still same => exact .inl same
  | opens _ outside =>
    rw [hi] at outside
    cases outside
  | closes start symbol inside mode sets =>
    obtain rfl := Option.some.inj (hi.symm.trans inside)
    exact .inr ⟨symbol, mode, sets⟩

/-- What closes a set. -/
theorem closing_of_step {i : Nat} (hi : st.mode.openAt? = some i) (h : step st y = .ok nx)
    (hn : nx.mode.openAt? = none) : nx.mode = .items ∧ nx.sets = (i, st.pos + 1) :: st.sets := by
  rcases turn_inside hi h with same | ⟨-, closed⟩
  · rw [same.mode, hi] at hn
    cases hn
  · exact closed

end RoutePattern.Regex.Reader
