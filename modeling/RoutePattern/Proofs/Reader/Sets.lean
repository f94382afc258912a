import RoutePattern.Proofs.Reader.Name
import RoutePattern.Proofs.Reader.Run
import RoutePattern.Proofs.Scan.Extent

/-! # Sets close where the scanner says

`Mode.extent? m t`: how far the scanner goes in the text `t` to leave the class in whose middle the
reader stands, in mode `m`.

* `set_step`: a symbol goes on in the set and shortens what is left to the scanner by itself, or it
  closes the set for both.
* `class_run`: an accepted text that starts with the rest of a class is read through that rest, and
  the reader then stands between items.
-/

namespace RoutePattern.Regex.Reader

open Scan

/-! ## Characters that the scanner passes over -/

/-- The character means nothing to the scanner, in a set or outside. -/
def Ordinary (c : Char) : Prop := c ≠ '\\' ∧ c ≠ '[' ∧ c ≠ '(' ∧ c ≠ ']'

instance (c : Char) : Decidable (Ordinary c) :=
  inferInstanceAs (Decidable (c ≠ '\\' ∧ c ≠ '[' ∧ c ≠ '(' ∧ c ≠ ']'))

theorem Ordinary.openings {c : Char} (h : Ordinary c) (i : Nat) (r : Text) :
    openingsFrom i (c :: r) = openingsFrom (i + 1) r := openingsFrom_plain h.1 h.2.1 h.2.2.1 i r

theorem Ordinary.members {c : Char} (h : Ordinary c) (r : Text) :
    membersExtent? (c :: r) = (membersExtent? r).map (· + 1) :=
  membersExtent?_member h.1 h.2.2.2 r

theorem ordinary_of_named {w : Text} (h : Named w) : ∀ c ∈ w, Ordinary c := by
  intro c hc
  have := h c hc
  refine ⟨?_, ?_, ?_, ?_⟩ <;> (rintro rfl; exact this (by decide))

theorem ordinary_of_range {lo hi : Char} (h : ∀ c ∈ ['\\', '[', '(', ']'], ¬(lo ≤ c ∧ c ≤ hi))
    {c : Char} (hc : lo ≤ c ∧ c ≤ hi) : Ordinary c := by
  refine ⟨?_, ?_, ?_, ?_⟩ <;> (rintro rfl; exact h _ (by simp) hc)

theorem ordinary_of_isDigit {c : Char} (h : isDigit c) : Ordinary c := by
  simp only [isDigit, Bool.and_eq_true, decide_eq_true_eq] at h
  exact ordinary_of_range (by decide) h

theorem ordinary_of_isHex {c : Char} (h : isHex c) : Ordinary c := by
  simp only [isHex, Bool.or_eq_true, Bool.and_eq_true, decide_eq_true_eq] at h
  rcases h with (h | h) | h
  · exact ordinary_of_isDigit h
  · exact ordinary_of_range (by decide) h
  · exact ordinary_of_range (by decide) h

theorem ordinary_of_ofLetter? {c : Char} {f : Flag} (h : Flag.ofLetter? c = some f) :
    Ordinary c := by
  refine ⟨?_, ?_, ?_, ?_⟩ <;> (rintro rfl; cases h)

theorem openingsFrom_ordinary {w : Text} (h : ∀ c ∈ w, Ordinary c) (i : Nat) (t : Text) :
    openingsFrom i (w ++ t) = openingsFrom (i + w.length) t := by
  induction w generalizing i with
  | nil => rfl
  | cons c w ih =>
    rw [List.cons_append, (h c (by simp)).openings, ih fun x hx => h x (by simp [hx])]
    simp only [List.length_cons]
    congr 1; omega

theorem membersExtent?_ordinary {w : Text} (h : ∀ c ∈ w, Ordinary c) (t : Text) :
    membersExtent? (w ++ t) = (membersExtent? t).map (· + w.length) := by
  induction w with
  | nil => simp
  | cons c w ih =>
    rw [List.cons_append, (h c (by simp)).members, ih fun x hx => h x (by simp [hx])]
    cases membersExtent? t <;> simp [Nat.add_assoc]

theorem length_text (y : Symbol) : y.text.length = y.size := by cases y <;> rfl

theorem size_pos (y : Symbol) : 0 < y.size := by cases y <;> exact Nat.zero_lt_succ _

/-! ## Modes -/

/-- The reader stands in a set, and not in a name there. -/
def Mode.InSet : Mode → Prop
  | .setStart s => s.members = []
  | .setMember _ => True
  | .setAfter _ _ _ => True
  | .setDash _ _ _ => True
  | .hex site _ _ => site ≠ .item
  | .nameBrace site => site ≠ .item
  | .octal site _ => site ≠ .item
  | _ => False

/-- The code points to where the scanner leaves the class. -/
def Mode.extent? : Mode → Text → Option Nat
  | .setStart _, t => classExtent? t
  | .setMember s, t => if s.members.isEmpty then firstExtent? t else membersExtent? t
  | _, t => membersExtent? t

variable {st nx : State}

/-- The symbol goes on in the set, for reader and scanner. -/
def Stays (st : State) (y : Symbol) (nx : State) : Prop :=
  ∃ m : Mode, nx = { st with mode := m } ∧ m.InSet ∧
    ∀ rest, st.mode.extent? (y.text ++ rest) = (m.extent? rest).map (· + y.size)

/-- The symbol closes the set, for reader and scanner. -/
def Leaves (st : State) (y : Symbol) (nx : State) : Prop :=
  y = .plain ']' ∧ (∃ s, nx = st.closeSet s) ∧ ∀ rest, st.mode.extent? (']' :: rest) = some 1

theorem stays_placed {site : Site} {y : Symbol} (hs : site ≠ .item)
    (he : ∀ rest, st.mode.extent? (y.text ++ rest) = (membersExtent? rest).map (· + y.size))
    (h : Placed st site nx) : Stays st y nx := by
  cases site with
  | item => exact absurd rfl hs
  | member s => obtain ⟨z, m, rfl⟩ := h; exact ⟨_, rfl, trivial, he⟩
  | rangeEnd s z m => obtain ⟨n, rfl⟩ := h; exact ⟨_, rfl, trivial, he⟩

theorem stays_readSetEscape {site : Site} {c : Char} (hs : site ≠ .item)
    (he : ∀ rest, st.mode.extent? ('\\' :: c :: rest) = (membersExtent? rest).map (· + 2))
    (h : readSetEscape st site c = .ok nx) : Stays st (.escaped c) nx := by
  rcases readSetEscape_ok h with h | rfl | rfl | rfl
  · exact stays_placed hs he h
  · exact ⟨_, rfl, hs, he⟩
  · exact ⟨_, rfl, hs, he⟩
  · exact ⟨_, rfl, hs, he⟩

/-- A symbol between members; the scanner may be at the first of them. -/
theorem set_readSetMember {s : OpenSet} {y : Symbol} (hy : y ≠ .plain '\\')
    (he : ∀ rest, st.mode.extent? (y.text ++ rest) = (Mode.setMember s).extent? (y.text ++ rest))
    (h : readSetMember st s y = .ok nx) : Stays st y nx ∨ Leaves st y nx := by
  rcases readSetMember_ok h with ⟨c, rfl, h⟩ | ⟨rfl, hs, rfl⟩ | ⟨c, rfl, hs, rfl⟩
  · refine .inl (stays_readSetEscape (by simp) (fun rest => (he rest).trans ?_) h)
    have first : firstExtent? ('\\' :: c :: rest) = membersExtent? ('\\' :: c :: rest) :=
      firstExtent?_of_ne (by simp)
    simp [Mode.extent?, Symbol.text, first]
  · refine .inr ⟨rfl, ⟨s, rfl⟩, fun rest => (he rest).trans ?_⟩
    simp [Mode.extent?, Symbol.text, hs]
  · refine .inl ⟨_, rfl, trivial, fun rest => (he rest).trans ?_⟩
    have hc : c ≠ '\\' := fun h => hy (h ▸ rfl)
    simp only [Mode.extent?, Symbol.text, Symbol.size, List.singleton_append]
    by_cases hb : c = ']'
    · subst hb
      simp [hs rfl]
    · have first : firstExtent? (c :: rest) = membersExtent? (c :: rest) :=
        firstExtent?_of_ne (by simp [hb])
      rw [first, ite_self, membersExtent?_member hc hb]

theorem set_readSetStart {s : OpenSet} {y : Symbol} (hy : y ≠ .plain '\\')
    (hs : st.mode = .setStart s) (he : s.members = []) (h : readSetStart st s y = .ok nx) :
    Stays st y nx ∨ Leaves st y nx := by
  rcases readSetStart_ok h with ⟨rfl, rfl⟩ | ⟨hc, h⟩
  · refine .inl ⟨_, rfl, trivial, fun rest => ?_⟩
    simp [hs, Mode.extent?, Symbol.text, Symbol.size, he]
  · refine set_readSetMember hy (fun rest => ?_) h
    have first : classExtent? (y.text ++ rest) = firstExtent? (y.text ++ rest) := by
      apply classExtent?_of_ne
      rintro r hr
      cases y with
      | plain c =>
        obtain ⟨rfl, -⟩ := List.cons.inj hr
        exact hc rfl
      | escaped c => exact absurd (List.cons.inj hr).1 (by decide)
    simp [hs, Mode.extent?, he, first]

theorem set_readSetAfter {s : OpenSet} {first : Symbol} {m : Member} {y : Symbol}
    (hy : y ≠ .plain '\\') (hs : st.mode = .setAfter s first m)
    (h : readSetAfter st s first m y = .ok nx) : Stays st y nx ∨ Leaves st y nx := by
  rcases readSetAfter_ok h with ⟨rfl, rfl⟩ | ⟨-, h⟩
  · refine .inl ⟨_, rfl, trivial, fun rest => ?_⟩
    rw [hs]
    exact membersExtent?_member (by decide) (by decide) rest
  · exact set_readSetMember hy (fun rest => by rw [hs]; rfl) h

theorem set_readSetDash {s : OpenSet} {first : Symbol} {m : Member} {y : Symbol}
    (hy : y ≠ .plain '\\') (hs : st.mode = .setDash s first m)
    (h : readSetDash st s first m y = .ok nx) : Stays st y nx ∨ Leaves st y nx := by
  rcases readSetDash_ok h with ⟨c, rfl, h⟩ | ⟨rfl, t, -, rfl⟩ | ⟨c, r, rfl, hc, rfl⟩
  · refine .inl (stays_readSetEscape (by simp) (fun rest => ?_) h)
    rw [hs]
    exact membersExtent?_escape c rest
  · refine .inr ⟨rfl, ⟨t, rfl⟩, fun rest => ?_⟩
    rw [hs]
    exact membersExtent?_close rest
  · refine .inl ⟨_, rfl, trivial, fun rest => ?_⟩
    rw [hs]
    exact membersExtent?_member (fun h => hy (h ▸ rfl)) hc rest

/-- Escapes with digits go on in the set; so does the brace before a character's name. -/
theorem stays_readHex {site : Site} {letter : Char} {digits : Text} {y : Symbol}
    (hs : st.mode = .hex site letter digits) (hn : site ≠ .item)
    (h : extendHex st site letter digits y = .ok nx) : Stays st y nx := by
  obtain ⟨c, rfl, hx, h⟩ := extendHex_ok h
  have he : ∀ rest, st.mode.extent? (c :: rest) = (membersExtent? rest).map (· + 1) := by
    intro rest
    rw [hs]
    exact (ordinary_of_isHex hx).members rest
  rcases h with rfl | h
  · exact ⟨_, rfl, hn, he⟩
  · exact stays_placed hn he h

theorem stays_readOctal {site : Site} {digits : Text} {y : Symbol}
    (hs : st.mode = .octal site digits) (hn : site ≠ .item)
    (h : extendOctal? st site digits y = some (.ok nx)) : Stays st y nx := by
  obtain ⟨c, rfl, hx, h⟩ := extendOctal?_ok h
  have he : ∀ rest, st.mode.extent? (c :: rest) = (membersExtent? rest).map (· + 1) := by
    intro rest
    rw [hs]
    exact (ordinary_of_isDigit (isDigit_of_isOctal hx)).members rest
  rcases h with rfl | h
  · exact ⟨_, rfl, hn, he⟩
  · exact stays_placed hn he h

/-- The symbol opens the name of a character. -/
def Names (st : State) (y : Symbol) (nx : State) : Prop :=
  y = .plain '\x7b' ∧ ∃ site start, site ≠ .item ∧
    nx = { st with mode := .name (.character site) start [] } ∧
    ∀ rest, st.mode.extent? ('\x7b' :: rest) = (membersExtent? rest).map (· + 1)

theorem set_react {y : Symbol} (hy : y ≠ .plain '\\') (hs : st.mode.InSet)
    (hn : st.mode.IsSettled) (h : react st y = .ok nx) :
    Stays st y nx ∨ Leaves st y nx ∨ Names st y nx := by
  have two : ∀ {s' : State}, Stays st y s' ∨ Leaves st y s' →
      Stays st y s' ∨ Leaves st y s' ∨ Names st y s' := fun h => h.imp_right .inl
  cases react_ok hn h with
  | setStart hm read =>
    rw [hm] at hs
    exact two (set_readSetStart hy hm hs read)
  | setMember hm read => exact two (set_readSetMember hy (fun _ => by rw [hm]) read)
  | setAfter hm read => exact two (set_readSetAfter hy hm read)
  | setDash hm read => exact two (set_readSetDash hy hm read)
  | hex hm read =>
    rw [hm] at hs
    exact .inl (stays_readHex hm hs read)
  | @nameBrace site hm =>
    rw [hm] at hs
    refine .inr (.inr ⟨rfl, site, st.pos, hs, rfl, fun rest => ?_⟩)
    rw [hm]
    exact membersExtent?_member (by decide) (by decide) rest
  | _ => rw [‹st.mode = _›] at hs; exact hs.elim

theorem set_step {y : Symbol} (hy : y ≠ .plain '\\') (hs : st.mode.InSet)
    (h : step st y = .ok nx) :
    ∃ s, nx = { s with pos := st.pos + y.size } ∧
      (Stays st y s ∨ Leaves st y s ∨ Names st y s) := by
  obtain ⟨s, ht, rfl⟩ := step_ok h
  refine ⟨s, rfl, ?_⟩
  by_cases ho : ∃ site digits, st.mode = .octal site digits
  · obtain ⟨site, digits, hm⟩ := ho
    have hn : site ≠ .item := by rw [hm] at hs; exact hs
    rcases take_ok ht with he | ⟨-, s', h1, h2⟩
    · exact .inl (stays_readOctal hm hn (by simpa [extend?, hm] using he))
    · -- the escape ends here, and the symbol is read in the set
      obtain ⟨m, rfl, hm', he⟩ : ∃ m : Mode, s' = { st with mode := m } ∧
          (m.InSet ∧ m.IsSettled) ∧ ∀ rest, m.extent? rest = st.mode.extent? rest := by
        cases settle_ok h1 with
        | octal hc placed =>
          obtain ⟨rfl, rfl⟩ := Mode.octal.inj (hm.symm.trans hc)
          cases site with
          | item => exact absurd rfl hn
          | member t =>
            obtain ⟨z, n, rfl⟩ := placed
            exact ⟨_, rfl, ⟨trivial, trivial⟩, fun _ => by rw [hm]; rfl⟩
          | rangeEnd t z n =>
            obtain ⟨r, rfl⟩ := placed
            exact ⟨_, rfl, ⟨trivial, trivial⟩, fun _ => by rw [hm]; rfl⟩
        | settled hc => rw [hm] at hc; exact hc.elim
        | repeated hc => rw [hm] at hc; cases hc
        | braces hc => rw [hm] at hc; cases hc
        | opened hc => rw [hm] at hc; cases hc
        | reference _ hc => rw [hm] at hc; cases hc
      rcases set_react hy hm'.1 hm'.2 h2 with ⟨n, rfl, hi, hx⟩ | ⟨hb, hc, hx⟩ |
        ⟨hb, t, i, hi, rfl, hx⟩
      · exact .inl ⟨n, rfl, hi, fun rest => (he _).symm.trans (hx rest)⟩
      · exact .inr (.inl ⟨hb, hc, fun rest => (he _).symm.trans (hx rest)⟩)
      · exact .inr (.inr ⟨hb, t, i, hi, rfl, fun rest => (he _).symm.trans (hx rest)⟩)
  · have hn : st.mode.IsSettled ∧ extend? st y = none := by
      cases hm : st.mode <;> simp_all [Mode.InSet, Mode.IsSettled, extend?]
    rcases take_ok ht with he | ⟨-, s', h1, h2⟩
    · rw [hn.2] at he; cases he
    · obtain rfl := Except.ok.inj ((settle_eq hn.1).symm.trans h1)
      exact set_react hy hs hn.1 h2

/-- No set starts where a construct ends. -/
theorem inSet_of_settle (h : settle st = .ok nx) (hi : nx.mode.InSet) : st.mode.InSet := by
  cases settle_ok h with
  | octal hs placed =>
    rw [hs]
    rintro rfl
    obtain ⟨r, -, rfl⟩ := placed
    exact hi
  | settled _ => exact hi
  | _ => exact hi.elim

/-! ## A whole class -/

/-- The reader stands in a set, perhaps in the name of a character there. -/
def Mode.InClass : Mode → Prop
  | .name (.character site) _ _ => site ≠ .item
  | m => m.InSet

theorem Mode.InSet.inClass {m : Mode} (h : m.InSet) : m.InClass := by
  cases m <;> first | exact h | exact h.elim

theorem Mode.InClass.cases {m : Mode} (h : m.InClass) :
    m.InSet ∨ ∃ site start w, site ≠ .item ∧ m = .name (.character site) start w := by
  unfold InClass at h
  split at h
  · exact .inr ⟨_, _, _, h, rfl⟩
  · exact .inl h

/-- What a set leaves alone. -/
structure Kept (st nx : State) : Prop where
  verbose : nx.verbose = st.verbose
  flags : nx.flags = st.flags
  frames : nx.frames = st.frames
  groups : nx.groups = st.groups
  branches : nx.branches = st.branches

theorem Kept.trans {st' : State} (h : Kept st st') (h' : Kept st' nx) : Kept st nx :=
  ⟨h'.1.trans h.1, h'.2.trans h.2, h'.3.trans h.3, h'.4.trans h.4, h'.5.trans h.5⟩

theorem class_step {y : Symbol} (hy : y ≠ .plain '\\') (hs : st.mode.InClass)
    (h : step st y = .ok nx) :
    nx.Spoilt ∨ (Kept st nx ∧
      ((nx.mode.InClass ∧
        ∀ rest, st.mode.extent? (y.text ++ rest) = (nx.mode.extent? rest).map (· + y.size)) ∨
      (nx.mode = .items ∧ ∀ rest, st.mode.extent? (y.text ++ rest) = some 1))) := by
  have moves : ∀ {s : State}, Stays st y s ∨ Leaves st y s ∨ Names st y s →
      Kept st s ∧ ((s.mode.InClass ∧
        ∀ rest, st.mode.extent? (y.text ++ rest) = (s.mode.extent? rest).map (· + y.size)) ∨
      (s.mode = .items ∧ ∀ rest, st.mode.extent? (y.text ++ rest) = some 1)) := by
    rintro s (⟨m, rfl, hm, he⟩ | ⟨rfl, ⟨t, rfl⟩, he⟩ | ⟨rfl, site, start, hn, rfl, he⟩)
    · exact ⟨⟨rfl, rfl, rfl, rfl, rfl⟩, .inl ⟨hm.inClass, he⟩⟩
    · exact ⟨⟨rfl, rfl, rfl, rfl, rfl⟩, .inr ⟨rfl, he⟩⟩
    · exact ⟨⟨rfl, rfl, rfl, rfl, rfl⟩, .inl ⟨hn, he⟩⟩
  rcases hs.cases with hs | ⟨site, start, w, hn, hm⟩
  · obtain ⟨s, rfl, hx⟩ := set_step hy hs h
    obtain ⟨⟨h1, h2, h3, h4, h5⟩, hx⟩ := moves hx
    exact .inr ⟨⟨h1, h2, h3, h4, h5⟩, hx⟩
  · obtain ⟨s, ht, rfl⟩ := step_ok h
    rw [take_name hm] at ht
    rcases readName_ok ht with ⟨rfl, -, hc⟩ | ⟨hb, rfl⟩
    · have he : ∀ rest, st.mode.extent? ('\x7d' :: rest) = (membersExtent? rest).map (· + 1) := by
        intro rest
        rw [hm]
        exact membersExtent?_member (by decide) (by decide) rest
      obtain ⟨⟨h1, h2, h3, h4, h5⟩, hx⟩ := moves (.inl (stays_placed hn he (closeName_ok hc).2))
      exact .inr ⟨⟨h1, h2, h3, h4, h5⟩, hx⟩
    · by_cases hw : Named (w ++ y.text)
      · refine .inr ⟨⟨rfl, rfl, rfl, rfl, rfl⟩, .inl ⟨hn, ?_⟩⟩
        intro rest
        rw [hm]
        have clean := (named_append.1 hw).2
        cases y with
        | plain c =>
          refine membersExtent?_member (fun h => hy (h ▸ rfl)) ?_ rest
          rintro rfl
          exact absurd clean (by decide)
        | escaped c => exact absurd (by simp [nameMarks]) (clean '\\' (by simp [Symbol.text]))
      · exact .inl ⟨_, start, _, rfl, hw⟩

theorem extent?_nil (m : Mode) : m.extent? [] = none := by
  unfold Mode.extent?
  split
  · rfl
  · split <;> rfl
  · rfl

theorem extent?_backslash (m : Mode) : m.extent? ['\\'] = none := by
  unfold Mode.extent?
  split
  · rfl
  · split <;> rfl
  · rfl

theorem quiet_of_inClass {m : Mode} (h : m.InClass) : m.Quiet := by
  rcases h.cases with h | ⟨site, start, w, -, rfl⟩
  · cases m <;> trivial
  · trivial

theorem inside_of_settle (hs : st.mode.InClass) (h : settle st = .ok nx) :
    ¬ (nx.mode = .items ∨ nx.mode = .lineComment) := by
  have outside : ∀ m : Mode, m = .items ∨ m = .lineComment → ¬ m.InClass := by
    rintro m (rfl | rfl) <;> exact id
  cases settle_ok h with
  | @octal site _ _ hm placed =>
    rw [hm] at hs
    cases site with
    | item => exact absurd rfl hs
    | member t =>
      obtain ⟨y, m, rfl⟩ := placed
      exact fun hi => outside _ hi trivial
    | rangeEnd t y m =>
      obtain ⟨n, rfl⟩ := placed
      exact fun hi => outside _ hi trivial
  | settled _ => exact fun hi => outside _ hi hs
  | _ => rw [‹st.mode = _›] at hs; exact hs.elim

/-- A class that the scanner does not close is not accepted. -/
theorem not_accepts_open {t : Text} (hs : st.mode.InClass) (he : st.mode.extent? t = none) :
    ¬ Accepts st t := by
  induction hn : t.length using Nat.strongRecOn generalizing st t with
  | ind n ih =>
    intro ha
    have go : ∀ {y : Symbol} {r : Text} {nx : State}, t = y.text ++ r → y ≠ .plain '\\' →
        step st y = .ok nx → ¬ Accepts nx r := by
      intro y r nx hr hy hstep hacc
      subst hr
      rw [List.length_append, length_text] at hn
      have pos := size_pos y
      rcases class_step hy hs hstep with hd | ⟨-, ⟨hi, hx⟩ | ⟨-, hx⟩⟩
      · exact not_accepts_spoilt hd _ hacc
      · rw [hx] at he
        exact ih r.length (by omega) hi (Option.map_eq_none_iff.1 he) rfl hacc
      · rw [hx] at he; cases he
    cases t with
    | nil =>
      obtain ⟨q, hq⟩ := accepts_nil.1 ha
      obtain ⟨s, hs', hi, -⟩ := finish_ok hq
      exact inside_of_settle hs hs' hi
    | cons c r =>
      by_cases hc : c = '\\'
      · subst hc
        cases r with
        | nil => exact not_accepts_backslash ha
        | cons d r =>
          obtain ⟨nx, hstep, hacc⟩ := accepts_escaped.1 ha
          exact go (y := .escaped d) rfl (by simp) hstep hacc
      · obtain ⟨nx, hstep, hacc⟩ := (accepts_plain hc).1 ha
        exact go (y := .plain c) rfl (by simpa using hc) hstep hacc

/-- The rest of a class is read up to where the scanner closes it. -/
theorem class_run {r v : Text} (hs : st.mode.InClass) (he : st.mode.extent? r = some r.length)
    (ha : Accepts st (r ++ v)) :
    ∃ nx, Passes st r nx ∧ nx.mode = .items ∧ Kept st nx ∧ Accepts nx v := by
  induction hn : r.length using Nat.strongRecOn generalizing st r with
  | ind n ih =>
    -- one symbol `y`, and the shorter text `r'` behind it
    have go : ∀ {y : Symbol} {r' : Text} {nx : State}, r = y.text ++ r' → y ≠ .plain '\\' →
        step st y = .ok nx → Accepts nx (r' ++ v) →
        ∃ s, Passes st r s ∧ s.mode = .items ∧ Kept st s ∧ Accepts s v := by
      intro y r' nx hr hy hstep hacc
      subst hr
      rw [List.length_append, length_text] at he hn
      rcases class_step hy hs hstep with hd | ⟨hk, ⟨hi, hx⟩ | ⟨hi, hx⟩⟩
      · exact absurd hacc (not_accepts_spoilt hd _)
      · have he' : nx.mode.extent? r' = some r'.length := by
          rw [hx] at he
          obtain ⟨m, hm, hadd⟩ := Option.map_eq_some_iff.1 he
          rw [hm]
          congr 1; omega
        have pos := size_pos y
        obtain ⟨s, h1, h2, h3, h4⟩ := ih r'.length (by omega) hi he' hacc rfl
        exact ⟨s, .step hy (quiet_of_inClass hs) hstep h1, h2, hk.trans h3, h4⟩
      · rw [hx] at he
        have : y.size + r'.length = 1 := (Option.some.inj he).symm
        have pos := size_pos y
        obtain rfl : r' = [] := List.length_eq_zero_iff.1 (by omega)
        exact ⟨nx, .step hy (quiet_of_inClass hs) hstep (.done nx), hi, hk, hacc⟩
    cases r with
    | nil => rw [extent?_nil] at he; cases he
    | cons c r =>
      by_cases hc : c = '\\'
      · subst hc
        cases r with
        | nil => rw [extent?_backslash] at he; cases he
        | cons d r =>
          obtain ⟨nx, hstep, hacc⟩ := accepts_escaped.1 ha
          exact go (y := .escaped d) rfl (by simp) hstep hacc
      · obtain ⟨nx, hstep, hacc⟩ := (accepts_plain hc).1 ha
        exact go (y := .plain c) rfl (by simpa using hc) hstep hacc

end RoutePattern.Regex.Reader
