import RoutePattern.Proofs.Reader.Inversion
import RoutePattern.Proofs.Reader.Run

/-! # Names

A name that the reader accepts, whatever it names, has no character that means something to a
scanner of groups.

* `nameMarks`: the characters in question; `Named w`: `w` has none of them (`named_of_forall`).
* `named_of_isIdentifier`, `named_of_readInt?`, `named_of_characterNamed?`: the three kinds of names.
* `closeName_ok`: what becomes of a name that is closed.
-/

namespace RoutePattern

/-- Characters that stand in no name. -/
def nameMarks : List Char := ['(', ')', '[', ']', '\\', '?', '.', '/', '|', '$', '^', '>']

/-- The text has no character that stands in no name. -/
def Named (w : Text) : Prop := ∀ c ∈ w, c ∉ nameMarks

instance (w : Text) : Decidable (Named w) := inferInstanceAs (Decidable (∀ c ∈ w, c ∉ nameMarks))

/-- A text over an alphabet without the marks. -/
theorem named_of_forall {p : Char → Bool} {w : Text} (marks : ∀ c ∈ nameMarks, p c = false)
    (h : ∀ c ∈ w, p c) : Named w := by
  intro c hc hm
  have := h c hc
  rw [marks c hm] at this
  cases this

namespace Text

theorem named_of_isIdentifier {w : Text} (h : isIdentifier w) : Named w := by
  have continues : ∀ c ∈ w, continuesIdentifier c := by
    cases w with
    | nil => simp
    | cons d r =>
      simp only [isIdentifier, Bool.and_eq_true, List.all_eq_true] at h
      intro c hc
      rcases List.mem_cons.1 hc with rfl | hc
      · simp [continuesIdentifier, h.1]
      · exact h.2 c hc
  exact named_of_forall (by decide) continues

/-- A character of an integer's numeral. -/
def isNumeric (c : Char) : Bool := c = '_' || c = '-' || c = '+' || isDecimal c || isBlank c

theorem isDecimal_of_decimalValue? {c : Char} {n : Nat} (h : decimalValue? c = some n) :
    isDecimal c := by
  unfold decimalValue? at h
  split at h
  · assumption
  · cases h

theorem numeric_of_readDigits? {n m : Nat} {t : Text} (h : readDigits? n t = some m) :
    ∀ c ∈ t, isNumeric c := by
  fun_induction readDigits? n t with
  | case1 => simp
  | case2 n c r ih =>
    obtain ⟨d, hd, h⟩ := Option.bind_eq_some_iff.1 h
    have := isDecimal_of_decimalValue? hd
    intro x hx
    rcases List.mem_cons.1 hx with rfl | hx
    · rfl
    · rcases List.mem_cons.1 hx with rfl | hx
      · simp [isNumeric, this]
      · exact ih d h x hx
  | case3 n c r _ ih =>
    obtain ⟨d, hd, h⟩ := Option.bind_eq_some_iff.1 h
    have := isDecimal_of_decimalValue? hd
    intro x hx
    rcases List.mem_cons.1 hx with rfl | hx
    · simp [isNumeric, this]
    · exact ih d h x hx

theorem numeric_of_readNat? {m : Nat} {t : Text} (h : readNat? t = some m) :
    ∀ c ∈ t, isNumeric c := by
  cases t with
  | nil => simp
  | cons c r =>
    obtain ⟨d, hd, h⟩ := Option.bind_eq_some_iff.1 h
    have := isDecimal_of_decimalValue? hd
    intro x hx
    rcases List.mem_cons.1 hx with rfl | hx
    · simp [isNumeric, this]
    · exact numeric_of_readDigits? h x hx

theorem mem_dropWhile_or {p : Char → Bool} {t : Text} {c : Char} (h : c ∈ t) :
    p c ∨ c ∈ t.dropWhile p := by
  rw [← List.takeWhile_append_dropWhile (p := p) (l := t), List.mem_append] at h
  exact h.imp_left (List.all_eq_true.1 List.all_takeWhile c)

theorem numeric_of_readInt? {w : Text} {n : Int} (h : readInt? w = some n) :
    ∀ c ∈ w, isNumeric c := by
  have trimmed : ∀ c ∈ ((w.dropWhile isBlank).reverse.dropWhile isBlank).reverse, isNumeric c := by
    unfold readInt? at h
    split at h <;> obtain ⟨m, hm, -⟩ := Option.map_eq_some_iff.1 h <;>
      obtain ⟨k, hk, -⟩ := Option.bind_eq_some_iff.1 hm
    · next r hr =>
      rw [hr]; intro c hc
      rcases List.mem_cons.1 hc with rfl | hc
      · rfl
      · exact numeric_of_readNat? hk c hc
    · next r hr =>
      rw [hr]; intro c hc
      rcases List.mem_cons.1 hc with rfl | hc
      · rfl
      · exact numeric_of_readNat? hk c hc
    · exact numeric_of_readNat? hk
  intro c hc
  rcases mem_dropWhile_or (p := isBlank) hc with hb | hc
  · simp [isNumeric, hb]
  · rcases mem_dropWhile_or (p := isBlank) (List.mem_reverse.2 hc) with hb | hc
    · simp [isNumeric, hb]
    · exact trimmed c (List.mem_reverse.2 hc)

theorem named_of_readInt? {w : Text} {n : Int} (h : readInt? w = some n) : Named w :=
  named_of_forall (by decide) (numeric_of_readInt? h)

end Text

namespace Regex

/-- A character has a name only over letters, digits, the space and the hyphen. -/
theorem named_of_characterNamed? {w : Text} {n : Nat} (h : characterNamed? w = some n) :
    Named w := by
  have capitals : (w.map Char.toUpper).all isNameChar := by
    simp only [characterNamed?] at h
    split at h
    · assumption
    · cases h
  have marks : ∀ c ∈ nameMarks, isNameChar c.toUpper = false := by decide
  exact named_of_forall marks fun c hc => List.all_eq_true.1 capitals _ (List.mem_map_of_mem hc)

namespace Reader

variable {st nx : State}

theorem defineGroup_ok {start : Nat} {name : Text} {index : Nat}
    (h : defineGroup st start name index = .ok nx) :
    Text.isIdentifier name ∧ nx = st.enterCapture start (some name) := by
  unfold defineGroup at h
  split at h
  · simp at h
  · next hi =>
    split at h
    · simp at h
    · exact ⟨by simpa using hi, (Except.ok.inj h).symm⟩

theorem referToGroup_ok {name : Text} {index : Nat} (h : referToGroup st name index = .ok nx) :
    Text.isIdentifier name ∧ ∃ n, nx = st.push (.backref n) := by
  unfold referToGroup at h
  split at h
  · simp at h
  · next hi =>
    split at h
    · simp at h
    · split at h
      · obtain ⟨_, -, rfl⟩ := map_eq_ok.1 h
        exact ⟨by simpa using hi, _, rfl⟩
      · simp at h

theorem askForGroup_ok {name : Text} {index number : Nat}
    (h : askForGroup st name index = .ok (number, nx)) :
    Named name ∧ ∃ asked, nx = { st with asked := asked } ∧
      ∀ x ∈ asked, x ∈ st.asked ∨ x.1 ≠ 0 := by
  unfold askForGroup at h
  split at h
  · next hi =>
    split at h
    · simp at h
    · cases h; exact ⟨Text.named_of_isIdentifier hi, _, rfl, fun x hx => .inl hx⟩
  · split at h
    · next hn =>
      refine ⟨Text.named_of_readInt? hn, ?_⟩
      split at h
      · simp at h
      · next h0 =>
        split at h
        · simp at h
        · split at h
          · cases h; exact ⟨_, rfl, fun x hx => .inl hx⟩
          · cases h
            refine ⟨_, rfl, fun x hx => ?_⟩
            rcases List.mem_cons.1 hx with rfl | hx
            · exact .inr h0
            · exact .inl hx
    · simp at h

theorem enterCondition_ok {start : Nat} {name : Text} {index : Nat}
    (h : enterCondition st start name index = .ok nx) :
    Named name ∧ ∃ n asked,
      nx = { st with asked := asked }.enter (.condition n) start st.verbose := by
  obtain ⟨⟨number, st1⟩, h1, h2⟩ := bind_eq_ok.1 h
  obtain ⟨hn, asked, rfl, -⟩ := askForGroup_ok h1
  obtain ⟨_, -, rfl⟩ := map_eq_ok.1 h2
  exact ⟨hn, _, _, rfl⟩

theorem placeNamed_ok {site : Site} {name : Text} {index : Nat}
    (h : placeNamed st site name index = .ok nx) : Named name ∧ Placed st site nx := by
  unfold placeNamed at h
  split at h
  · next hn => exact ⟨named_of_characterNamed? hn, placeChar_ok h⟩
  · simp at h

/-- What a name that is closed becomes. -/
def Closed (st : State) (start : Nat) (name : Text) (nx : State) : NameUse → Prop
  | .define => nx = st.enterCapture start (some name)
  | .refer => ∃ n, nx = st.push (.backref n)
  | .condition =>
    ∃ n asked, nx = { st with asked := asked }.enter (.condition n) start st.verbose
  | .character site => Placed st site nx

theorem closeName_ok {use : NameUse} {start : Nat} {name : Text}
    (h : closeName st use start name = .ok nx) : Named name ∧ Closed st start name nx use := by
  unfold closeName at h
  cases use with
  | define =>
    obtain ⟨hi, hx⟩ := defineGroup_ok h
    exact ⟨Text.named_of_isIdentifier hi, hx⟩
  | refer =>
    obtain ⟨hi, hx⟩ := referToGroup_ok h
    exact ⟨Text.named_of_isIdentifier hi, hx⟩
  | condition => exact enterCondition_ok h
  | character site => exact placeNamed_ok h

theorem readName_ok {use : NameUse} {start : Nat} {name : Text} {y : Symbol}
    (h : readName st use start name y = .ok nx) :
    (y = .plain use.close ∧ name ≠ [] ∧ closeName st use start name = .ok nx) ∨
      (y ≠ .plain use.close ∧ nx = { st with mode := .name use start (name ++ y.text) }) := by
  unfold readName at h
  split at h
  · next hy =>
    split at h
    · simp at h
    · next he => exact .inl ⟨hy, by simpa using he, h⟩
  · next hy => exact .inr ⟨hy, (Except.ok.inj h).symm⟩

/-- The symbol closes the name of a group that a condition asks for. -/
def Mode.asks : Mode → Symbol → Bool
  | .name .condition _ _, .plain ')' => true
  | _, _ => false

theorem eq_of_asks {m : Mode} {y : Symbol} (h : m.asks y) :
    ∃ start w, m = .name .condition start w ∧ y = .plain ')' := by
  unfold Mode.asks at h
  split at h
  · exact ⟨_, _, rfl, rfl⟩
  · cases h

theorem asks_settle (h : settle st = .ok nx) (y : Symbol) : nx.mode.asks y = st.mode.asks y := by
  cases settle_ok h with
  | @octal site _ _ hs placed =>
    rw [hs]
    cases site with
    | item => obtain ⟨r, -, rfl⟩ := placed; rfl
    | member s => obtain ⟨y, m, rfl⟩ := placed; rfl
    | rangeEnd s y m => obtain ⟨n, rfl⟩ := placed; rfl
  | settled _ => rfl
  | _ => rw [‹st.mode = _›]; rfl

/-- The reader stands in a name that has a mark in it. -/
def State.Spoilt (st : State) : Prop := ∃ use start w, st.mode = .name use start w ∧ ¬ Named w

theorem named_append {v w : Text} : Named (v ++ w) ↔ Named v ∧ Named w := by
  simp [Named, or_imp, forall_and]

theorem take_name {use : NameUse} {start : Nat} {w : Text} {y : Symbol}
    (hs : st.mode = .name use start w) : take st y = readName st use start w y := by
  simp [take, extend?, settle, react, hs, Except.bind]

theorem spoilt_step {y : Symbol} (hs : st.Spoilt) (h : step st y = .ok nx) : nx.Spoilt := by
  obtain ⟨use, start, w, hm, hw⟩ := hs
  obtain ⟨s, ht, rfl⟩ := step_ok h
  rw [take_name hm] at ht
  rcases readName_ok ht with ⟨-, -, hc⟩ | ⟨-, rfl⟩
  · exact absurd (closeName_ok hc).1 hw
  · exact ⟨use, start, _, rfl, fun hn => hw (named_append.1 hn).1⟩

/-- A name with a mark in it is never accepted, whatever follows. -/
theorem not_accepts_spoilt (hs : st.Spoilt) (t : Text) : ¬ Accepts st t := by
  rintro ⟨nx, q, hr, hq⟩
  obtain ⟨use, start, w, hm, -⟩ := hr.keeps spoilt_step hs
  obtain ⟨s, hs, hi, -⟩ := finish_ok hq
  have same : s = nx := by
    unfold settle at hs
    rw [hm] at hs
    exact (Except.ok.inj hs).symm
  subst same
  rcases hi with hi | hi <;> (rw [hm] at hi; cases hi)

theorem name_step {use : NameUse} {start : Nat} {w : Text} {y : Symbol}
    (hm : st.mode = .name use start w) (hy : y ≠ .plain use.close) (h : step st y = .ok nx) :
    nx.mode = .name use start (w ++ y.text) := by
  obtain ⟨s, ht, rfl⟩ := step_ok h
  rw [take_name hm] at ht
  rcases readName_ok ht with ⟨hc, -, -⟩ | ⟨-, rfl⟩
  · exact absurd hc hy
  · rfl

theorem not_accepts_name_escape {use : NameUse} {start : Nat} {w : Text}
    (hm : st.mode = .name use start w) (c : Char) (t : Text) : ¬ Accepts st ('\\' :: c :: t) := by
  intro ha
  obtain ⟨nx, hs, ha⟩ := accepts_escaped.1 ha
  refine not_accepts_spoilt ⟨use, start, _, name_step hm (by simp) hs, fun hn => ?_⟩ t ha
  exact hn '\\' (by simp [Symbol.text]) (by decide)

/-- The name in a condition does not start with a mark. -/
theorem not_accepts_mark {start : Nat} {c : Char} (hm : st.mode = .name .condition start [])
    (hc : c ∈ nameMarks) (t : Text) : ¬ Accepts st (c :: t) := by
  intro ha
  by_cases hb : c = '\\'
  · subst hb
    cases t with
    | nil => exact not_accepts_backslash ha
    | cons d t => exact not_accepts_name_escape hm d t ha
  · obtain ⟨nx, hs, ha⟩ := (accepts_plain hb).1 ha
    obtain ⟨s, ht, rfl⟩ := step_ok hs
    rw [take_name hm] at ht
    rcases readName_ok ht with ⟨-, ne, -⟩ | ⟨-, rfl⟩
    · exact ne rfl
    · refine not_accepts_spoilt ⟨_, start, _, rfl, fun hn => ?_⟩ t ha
      exact hn c (by simp [Symbol.text]) hc

/-- A name that is read up to its closing character has no mark in it. -/
theorem named_of_accepts {use : NameUse} {start : Nat} {w name v : Text}
    (hm : st.mode = .name use start w) (hn : use.close ∉ name)
    (ha : Accepts st (name ++ use.close :: v)) : Named (w ++ name) := by
  induction name generalizing st w with
  | nil =>
    have close : use.close ≠ '\\' := by cases use <;> simp [NameUse.close]
    obtain ⟨nx, hs, -⟩ := (accepts_plain close).1 ha
    obtain ⟨s, ht, rfl⟩ := step_ok hs
    rw [take_name hm] at ht
    rcases readName_ok ht with ⟨-, -, hc⟩ | ⟨hy, -⟩
    · rw [List.append_nil]; exact (closeName_ok hc).1
    · exact absurd rfl hy
  | cons c name ih =>
    simp only [List.mem_cons, not_or] at hn
    by_cases hb : c = '\\'
    · subst hb
      cases name with
      | nil => exact absurd ha (not_accepts_name_escape hm _ _)
      | cons d name => exact absurd ha (not_accepts_name_escape hm _ _)
    · obtain ⟨nx, hs, ha⟩ := (accepts_plain hb).1 ha
      have next : nx.mode = .name use start (w ++ [c]) :=
        name_step hm (fun h => hn.1 (Symbol.plain.inj h).symm) hs
      rw [← List.singleton_append, ← List.append_assoc]
      exact ih next hn.2 ha

end Reader

end Regex

end RoutePattern
