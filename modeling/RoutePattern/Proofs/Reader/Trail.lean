import RoutePattern.Proofs.Reader.Sight
import RoutePattern.Proofs.Scan.Pieces

/-! # The trail of a group header

`Trail`: how much of a header the pieces read last make up: nothing, a parenthesis, `(?`, or `(?`
with letters of flags.

* `Trail.Calm`: from a trail on, no pieces make up a comment, a condition on a group or a flag for
  verbose expressions.
* `Mode.Follows`: the reader stands in the middle of a header only behind its trail;
  `follows_step` says that every symbol keeps this.
-/

namespace RoutePattern.Regex.Reader

open Scan

/-- How much of a group header has just been read. -/
inductive Trail
  | clear
  | paren
  | head
  | flags
  deriving DecidableEq

namespace Trail

/-- The trail with a character more that is no parenthesis. -/
def nextChar (c : Char) : Trail → Trail
  | clear => clear
  | paren => if c = '?' then head else clear
  | head => if (Flag.ofLetter? c).isSome then flags else clear
  | flags => if (Flag.ofLetter? c).isSome then flags else clear

/-- The trail with a piece more. -/
def next (T : Trail) : Piece → Trail
  | .char c => if c = '(' then paren else T.nextChar c
  | _ => clear

/-- The piece makes up neither a comment nor a condition nor a verbose header. -/
def Allows : Trail → Piece → Prop
  | head, .char c => c ≠ '#' ∧ c ≠ '(' ∧ c ≠ 'x'
  | flags, .char c => c ≠ 'x'
  | _, _ => True

/-- The trail behind a row of pieces. -/
def after (T : Trail) (ps : List Piece) : Trail := ps.foldl next T

/-- Every piece of a row is allowed where it stands. -/
def Calm : Trail → List Piece → Prop
  | _, [] => True
  | T, p :: ps => T.Allows p ∧ (T.next p).Calm ps

theorem calm_append {T : Trail} {ps qs : List Piece} :
    T.Calm (ps ++ qs) ↔ T.Calm ps ∧ (T.after ps).Calm qs := by
  induction ps generalizing T with
  | nil => simp [Calm, after]
  | cons p ps ih => simp only [List.cons_append, Calm, ih, and_assoc]; rfl

theorem next_char {T : Trail} {c : Char} (h : c ≠ '(') : T.next (.char c) = T.nextChar c := if_neg h

theorem next_eq_clear {T : Trail} {c : Char} (h1 : c ≠ '(') (h2 : c ≠ '?')
    (h3 : Flag.ofLetter? c = none) : T.next (.char c) = clear := by
  rw [next_char h1]
  cases T <;> simp [nextChar, h2, h3]

theorem clear_next {c : Char} (h : c ≠ '(') : clear.next (.char c) = clear := next_char h

theorem paren_next {c : Char} (h : c ≠ '(') :
    paren.next (.char c) = if c = '?' then head else clear := next_char h

theorem letter_next {T : Trail} {c : Char} (hT : T = head ∨ T = flags) (h : c ≠ '(') :
    T.next (.char c) = if (Flag.ofLetter? c).isSome then flags else clear := by
  rcases hT with rfl | rfl <;> exact next_char h

theorem next_ne_paren (T : Trail) {c : Char} (hc : c ≠ '(') : T.next (.char c) ≠ paren := by
  rw [next_char hc]
  unfold nextChar
  split
  · simp
  all_goals split <;> simp

@[simp] theorem next_paren (T : Trail) : T.next (.char '(') = paren := rfl

@[simp] theorem next_escape (T : Trail) (c : Option Char) : T.next (.escape c) = clear := rfl

@[simp] theorem next_charClass (T : Trail) (t : Text) : T.next (.charClass t) = clear := rfl

@[simp] theorem allows_clear (p : Piece) : clear.Allows p := by
  cases p <;> trivial

end Trail

/-- The reader stands in the middle of a header only behind its trail. -/
def Mode.Follows : Mode → Trail → Prop
  | .opened _, T => T = .paren
  | .header _, T => T = .head
  | .flagsOn _ _, T => T = .flags
  | _, _ => True

theorem Mode.Follows.of_clear {m : Mode} (h : m.Follows .clear) (T : Trail) : m.Follows T := by
  cases m <;> trivial

/-- Every mode follows some trail. -/
theorem exists_follows (m : Mode) : ∃ T, m.Follows T := by
  cases m with
  | opened i => exact ⟨.paren, rfl⟩
  | header i => exact ⟨.head, rfl⟩
  | flagsOn i on => exact ⟨.flags, rfl⟩
  | _ => exact ⟨.clear, trivial⟩

/-- The symbol as a piece. -/
def pieceOf : Symbol → Piece
  | .plain c => .char c
  | .escaped c => .escape (some c)

/-- The reader stands in no set, comment or name that a condition asks for, and in no header that
turns verbose rules on. -/
def Mode.IsOutside : Mode → Prop
  | .lineComment => False
  | .comment _ => False
  | .name use _ _ => use = .define ∨ use = .refer ∨ use = .character .item
  | .flagsOn _ on => on.verbose = false
  | .flagsDash _ on => on.verbose = false
  | .flagsOff _ on _ => on.verbose = false
  | .setStart _ => False
  | .setMember _ => False
  | .setAfter _ _ _ => False
  | .setDash _ _ _ => False
  | .hex site _ _ => site = .item
  | .nameBrace site => site = .item
  | .octal site _ => site = .item
  | _ => True

theorem Mode.IsOutside.quiet {m : Mode} (h : m.IsOutside) : m.Quiet := by
  unfold Mode.Quiet
  split
  · exact h
  · exact h
  · rcases h with h | h | h <;> cases h
  · trivial

/-- How a symbol leads from a mode into the middle of a header, into a reference to a group, behind
the bracket of a set or into a comment, if it does. -/
def Enters (m : Mode) (y : Symbol) : Mode → Prop
  | .opened _ => y = .plain '('
  | .header start => y = .plain '?' ∧ m = .opened start
  | .headerP start => y = .plain 'P' ∧ m = .header start
  | .name .refer start w =>
    (w = [] ∧ y = .plain '=' ∧ m = .headerP start) ∨ ∃ v, m = .name .refer start v
  | .name .condition start w =>
    (w = [] ∧ y = .plain '(' ∧ m = .header start) ∨ ∃ v, m = .name .condition start v
  | .reference _ => (∃ c, y = .escaped c ∧ isDigit c) ∨ ∃ digits, m = .reference digits
  | .setStart s => s.members = []
  | .flagsOn start _ => (∃ c f, y = .plain c ∧ Flag.ofLetter? c = some f) ∧
      (m = .header start ∨ ∃ on, m = .flagsOn start on)
  | .comment start => y = .plain '#' ∨ m = .comment start
  | .lineComment => y = .plain '#' ∨ m = .lineComment
  | _ => True

variable {st nx : State}

theorem enters_placed {m : Mode} {y : Symbol} {site : Site} (h : Placed st site nx) :
    Enters m y nx.mode := by
  cases site with
  | item => obtain ⟨r, -, rfl⟩ := h; trivial
  | member s => obtain ⟨z, n, rfl⟩ := h; trivial
  | rangeEnd s z n => obtain ⟨r, rfl⟩ := h; trivial

theorem enters_readItem {m : Mode} {c : Char} (hs : st.mode = .items)
    (h : readItem st c = .ok nx) : Enters m (.plain c) nx.mode := by
  rcases readItem_ok h with ⟨-, -, rfl⟩ | ⟨-, rfl, rfl⟩ | ⟨-, hx⟩ | ⟨-, hx⟩ | ⟨rfl, rfl⟩ |
    ⟨-, rfl⟩ | ⟨-, rfl⟩ | ⟨-, least, most, hx⟩ | ⟨-, -, r, -, rfl⟩
  · rw [hs]; trivial
  · exact .inl rfl
  · rw [(found_bar hx).2, hs]; trivial
  · rw [(found_close hx).2]; trivial
  · rfl
  · rfl
  · trivial
  · rw [(found_quantify hx).2]; trivial
  · trivial

theorem enters_extend {y : Symbol} (h : extend? st y = some (.ok nx)) :
    Enters st.mode y nx.mode := by
  cases extend?_ok h with
  | greed g _ _ => rw [(found_setGreed _).2]; trivial
  | braces _ read =>
    obtain ⟨c, -, -, ⟨lo, hi, rfl⟩ | ⟨lo, hi, hx⟩⟩ := extendBraces?_ok read
    · trivial
    · rw [(found_quantify hx).2]; trivial
  | opened hs => exact ⟨rfl, hs⟩
  | octal _ read =>
    obtain ⟨c, -, -, rfl | hp⟩ := extendOctal?_ok read
    · trivial
    · exact enters_placed hp
  | reference hs read =>
    obtain ⟨c, -, -, rfl | rfl | ⟨r, hr, rfl⟩⟩ := extendReference?_ok read
    · exact .inr ⟨_, hs⟩
    · trivial
    · trivial

theorem enters_readName {use : NameUse} {start : Nat} {w : Text} {y : Symbol}
    (h : readName st use start w y = .ok nx) : Enters (.name use start w) y nx.mode := by
  rcases readName_ok h with ⟨-, -, hc⟩ | ⟨-, rfl⟩
  · obtain ⟨-, hx⟩ := closeName_ok hc
    cases use with
    | define => rw [show nx = _ from hx]; trivial
    | refer => obtain ⟨n, rfl⟩ := hx; trivial
    | condition => obtain ⟨n, asked, rfl⟩ := hx; trivial
    | character site => exact enters_placed hx
  · cases use with
    | refer => exact .inr ⟨w, rfl⟩
    | condition => exact .inr ⟨w, rfl⟩
    | _ => trivial

theorem enters_readSetEscape {m : Mode} {y : Symbol} {site : Site} {c : Char}
    (h : readSetEscape st site c = .ok nx) : Enters m y nx.mode := by
  rcases readSetEscape_ok h with hp | rfl | rfl | rfl
  · exact enters_placed hp
  all_goals trivial

theorem enters_readSetMember {m : Mode} {s : OpenSet} {y : Symbol}
    (h : readSetMember st s y = .ok nx) : Enters m y nx.mode := by
  rcases readSetMember_ok h with ⟨c, -, hx⟩ | ⟨-, -, rfl⟩ | ⟨c, -, -, rfl⟩
  · exact enters_readSetEscape hx
  · trivial
  · trivial

theorem enters_react {y : Symbol} (hn : st.mode.IsSettled) (h : react st y = .ok nx) :
    Enters st.mode y nx.mode := by
  cases react_ok hn h with
  | item hs read => exact enters_readItem hs read
  | escape _ read =>
    rcases readItemEscape_ok read with ⟨r, hr, rfl⟩ | rfl | rfl | rfl | ⟨hd, rfl⟩
    · trivial
    · trivial
    · trivial
    · trivial
    · exact .inl ⟨_, rfl, hd⟩
  | lineEnd _ => trivial
  | inLine hs _ => rw [hs]; exact .inr rfl
  | commentEnd _ => trivial
  | inComment hs _ => rw [hs]; exact .inr rfl
  | header hs read =>
    rcases readHeader_ok read with ⟨c, o, -, ho, rfl⟩ | ⟨hy, rfl⟩ | ⟨-, rfl⟩ | ⟨hy, rfl⟩ |
      ⟨hy, rfl⟩ | ⟨-, rfl⟩ | ⟨c, f, hy, hf, rfl⟩
    · trivial
    · exact ⟨hy, hs⟩
    · trivial
    · exact .inl hy
    · exact .inl ⟨rfl, hy, hs⟩
    · trivial
    · exact ⟨⟨c, f, hy, hf⟩, .inl hs⟩
  | headerP hs read =>
    obtain ⟨-, rfl⟩ | ⟨hy, rfl⟩ := readHeaderP_ok read
    · trivial
    · exact .inl ⟨rfl, hy, hs⟩
  | headerAngle _ read => obtain ⟨-, rfl⟩ | ⟨-, rfl⟩ := readHeaderAngle_ok read <;> trivial
  | name hs read => rw [hs]; exact enters_readName read
  | flagsOn hs read =>
    rcases readFlagsOn_ok read with ⟨-, hx⟩ | ⟨-, rfl⟩ | ⟨-, rfl⟩ | ⟨c, f, hy, hf, rfl⟩
    · obtain ⟨-, rfl⟩ := setFlags_ok hx; trivial
    · trivial
    · trivial
    · exact ⟨⟨c, f, hy, hf⟩, .inr ⟨_, hs⟩⟩
  | flagsDash _ read => obtain ⟨c, f, -, -, rfl⟩ := readFlagsDash_ok read; trivial
  | flagsOff _ read => rcases readFlagsOff_ok read with ⟨-, rfl⟩ | ⟨c, f, -, -, rfl⟩ <;> trivial
  | setStart _ read =>
    obtain ⟨-, rfl⟩ | ⟨-, hx⟩ := readSetStart_ok read
    · trivial
    · exact enters_readSetMember hx
  | setMember _ read => exact enters_readSetMember read
  | setAfter _ read =>
    obtain ⟨-, rfl⟩ | ⟨-, hx⟩ := readSetAfter_ok read
    · trivial
    · exact enters_readSetMember hx
  | setDash _ read =>
    rcases readSetDash_ok read with ⟨c, -, hx⟩ | ⟨-, t, -, rfl⟩ | ⟨c, r, -, -, rfl⟩
    · exact enters_readSetEscape hx
    · trivial
    · trivial
  | hex _ read =>
    obtain ⟨c, -, -, rfl | hp⟩ := extendHex_ok read
    · trivial
    · exact enters_placed hp
  | nameBrace _ => trivial

/-- The mode that a symbol leads to is entered where the symbol is read, or where the construct at
hand has ended. -/
theorem enters_step {y : Symbol} (h : step st y = .ok nx) :
    ∃ s, (s = st ∨ settle st = .ok s) ∧ Enters s.mode y nx.mode := by
  obtain ⟨s, ht, rfl⟩ := step_ok h
  show ∃ s', (s' = st ∨ settle st = .ok s') ∧ Enters s'.mode y s.mode
  rcases take_ok ht with he | ⟨-, s', h1, h2⟩
  · exact ⟨st, .inl rfl, enters_extend he⟩
  · exact ⟨s', .inr h1, enters_react (settled_of_settle h1) h2⟩

theorem outside_of_settle (ho : st.mode.IsOutside) (h : settle st = .ok nx) :
    nx.mode.IsSettled ∧ nx.mode.IsOutside ∧ (nx.mode = .items ∨ nx = st) := by
  cases settle_ok h with
  | octal hs placed =>
    rw [hs] at ho
    obtain rfl := ho
    obtain ⟨r, -, rfl⟩ := placed
    exact ⟨trivial, trivial, .inl rfl⟩
  | settled hn => exact ⟨hn, ho, .inr rfl⟩
  | _ => exact ⟨trivial, trivial, .inl rfl⟩

theorem Enters.follows {m n : Mode} {y : Symbol} {T : Trail} (hf : m.Follows T)
    (h : Enters m y n) : n.Follows (T.next (pieceOf y)) := by
  cases n with
  | opened i => rw [show y = _ from h]; exact T.next_paren
  | header i =>
    obtain ⟨rfl, rfl⟩ := h
    rw [show T = .paren from hf]; rfl
  | flagsOn i on =>
    obtain ⟨⟨c, f, rfl, hc⟩, hm⟩ := h
    have hp : c ≠ '(' := by rintro rfl; cases hc
    rcases hm with rfl | ⟨on', rfl⟩
    · rw [show T = .head from hf]
      simp [Mode.Follows, pieceOf, Trail.next_char hp, Trail.nextChar, hc]
    · rw [show T = .flags from hf]
      simp [Mode.Follows, pieceOf, Trail.next_char hp, Trail.nextChar, hc]
  | _ => trivial

theorem Mode.IsBetween.follows {m : Mode} (h : m.IsBetween) (T : Trail) : m.Follows T := by
  cases m <;> trivial

theorem follows_settle {T : Trail} (hf : st.mode.Follows T) (h : settle st = .ok nx) :
    nx.mode.Follows T := by
  rcases mode_of_settle h with between | ⟨-, rfl⟩
  · exact between.follows T
  · exact hf

theorem follows_step {y : Symbol} {T : Trail} (hf : st.mode.Follows T)
    (h : step st y = .ok nx) : nx.mode.Follows (T.next (pieceOf y)) := by
  obtain ⟨s, rfl | hs, he⟩ := enters_step h
  · exact he.follows hf
  · exact he.follows (follows_settle hf hs)

/-- Behind a text that does not end with a parenthesis, no group has just been opened. -/
theorem Passes.not_opened {t : Text} {c : Char} (h : Passes st t nx) (ht : t.getLast? = some c)
    (hc : c ≠ '(') (start : Nat) : nx.mode ≠ .opened start := by
  induction h with
  | done => cases ht
  | @step st st' st'' y t hy _ hs h ih =>
    by_cases hn : t = []
    · subst hn
      obtain rfl := passes_nil.1 h
      intro hm
      obtain ⟨T, hT⟩ := exists_follows st.mode
      have := follows_step hT hs
      rw [hm] at this
      have next : T.next (pieceOf y) = .paren := this
      rw [List.append_nil] at ht
      cases y with
      | plain d =>
        obtain rfl : d = c := by simpa [Symbol.text] using ht
        exact T.next_ne_paren hc next
      | escaped d => rw [pieceOf, Trail.next_escape] at next; cases next
    · refine ih ?_
      rw [List.getLast?_append] at ht
      cases hl : t.getLast? with
      | none => exact absurd (List.getLast?_eq_none_iff.1 hl) hn
      | some d => rw [hl] at ht; exact ht

end RoutePattern.Regex.Reader
