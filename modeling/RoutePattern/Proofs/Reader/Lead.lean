import RoutePattern.Proofs.Reader.Shift
import RoutePattern.Proofs.Reader.Trail

/-! # Texts that refer to no group

`Lead`: what the last characters of a text may be the start of, whether or not the reader takes them
for that: an escape, a group header, or the name in a condition.

* `Lead.Clean`: from a lead on, no characters make up a reference to a group.
* `Mode.Led`: the reader stands in the middle of a header only behind its lead; `led_step` says that
  every symbol keeps this.
* `free_of_clean`: an accepted text that is clean refers to no group.
-/

namespace RoutePattern.Regex.Reader

/-- What the last characters of a text may be the start of. -/
inductive Lead
  | clear
  /-- A backslash. -/
  | slash
  | paren
  /-- The text `(?`. -/
  | head
  /-- The text `(?P`. -/
  | headP
  /-- The text `(?(`. -/
  | ask
  deriving DecidableEq

namespace Lead

/-- The lead with a character more. -/
def next : Lead → Char → Lead
  | _, '\\' => slash
  | head, '(' => ask
  | _, '(' => paren
  | paren, '?' => head
  | ask, '?' => head
  | head, 'P' => headP
  | _, _ => clear

/-- The character makes up no reference to a group: behind `(?(` it is one that no name has. -/
def Allows : Lead → Char → Prop
  | slash, c => isDigit c = false
  | headP, c => c ≠ '='
  | ask, c => c ∈ nameMarks
  | _, _ => True

/-- The lead behind a text. -/
def after (L : Lead) (t : Text) : Lead := t.foldl next L

/-- No characters of the text make up a reference to a group. -/
def Clean : Lead → Text → Prop
  | _, [] => True
  | L, c :: t => L.Allows c ∧ (L.next c).Clean t

instance : (L : Lead) → (c : Char) → Decidable (L.Allows c)
  | slash, c => inferInstanceAs (Decidable (isDigit c = false))
  | headP, c => inferInstanceAs (Decidable (c ≠ '='))
  | ask, c => inferInstanceAs (Decidable (c ∈ nameMarks))
  | clear, _ => inferInstanceAs (Decidable True)
  | paren, _ => inferInstanceAs (Decidable True)
  | head, _ => inferInstanceAs (Decidable True)

instance decidableClean : (L : Lead) → (t : Text) → Decidable (L.Clean t)
  | _, [] => inferInstanceAs (Decidable True)
  | L, c :: t =>
    have := decidableClean (L.next c) t
    inferInstanceAs (Decidable (L.Allows c ∧ (L.next c).Clean t))

theorem after_append (L : Lead) (t u : Text) : L.after (t ++ u) = (L.after t).after u :=
  List.foldl_append

theorem clean_append {L : Lead} {t u : Text} :
    L.Clean (t ++ u) ↔ L.Clean t ∧ (L.after t).Clean u := by
  induction t generalizing L with
  | nil => simp [Clean, after]
  | cons c t ih =>
    simp only [List.cons_append, Clean, ih, and_assoc]
    rfl

@[simp] theorem next_backslash (L : Lead) : L.next '\\' = slash := by
  cases L <;> rfl

theorem slash_next (c : Char) : slash.next c = clear.next c := by
  unfold next
  split <;> simp_all

theorem next_paren (L : Lead) : L.next '(' = if L = head then ask else paren := by
  cases L <;> rfl

end Lead

/-- The reader stands in the middle of a header only behind its lead. -/
def Mode.Led : Mode → Lead → Prop
  | .opened _, L => L = .paren ∨ L = .ask
  | .header _, L => L = .head
  | .headerP _, L => L = .headP
  | _, _ => True

variable {st nx : State} {L : Lead}

theorem led_settle (hm : st.mode.Led L) (h : settle st = .ok nx) : nx.mode.Led L := by
  rcases mode_of_settle h with between | ⟨-, rfl⟩
  · cases he : nx.mode <;> rw [he] at between <;> trivial
  · exact hm

theorem Enters.led {m n : Mode} {y : Symbol} (hm : m.Led L) (h : Enters m y n) :
    n.Led (L.after y.text) := by
  cases n with
  | opened i =>
    rw [show y = _ from h]
    show L.next '(' = _ ∨ L.next '(' = _
    rw [Lead.next_paren]
    by_cases hl : L = .head <;> simp [hl]
  | header i =>
    obtain ⟨rfl, rfl⟩ := h
    rcases hm with rfl | rfl <;> rfl
  | headerP i =>
    obtain ⟨rfl, rfl⟩ := h
    rw [show L = _ from hm]
    rfl
  | _ => trivial

/-- Where the text is clean, only a condition may be entered that refers to a group. -/
theorem Enters.asked {m n : Mode} {y : Symbol} {t : Text} (hm : m.Led L) (hr : ¬ m.Refers)
    (hc : L.Clean (y.text ++ t)) (h : Enters m y n) (hn : n.Refers) :
    (∃ start, n = .name .condition start []) ∧ L.after y.text = .ask := by
  cases n with
  | reference digits =>
    rcases h with ⟨c, rfl, hd⟩ | ⟨digits, rfl⟩
    · have allowed : (L.next '\\').Allows c := hc.2.1
      rw [Lead.next_backslash, Lead.Allows, hd] at allowed
      cases allowed
    · exact absurd trivial hr
  | name use start w =>
    cases use with
    | refer =>
      rcases h with ⟨-, rfl, rfl⟩ | ⟨v, rfl⟩
      · have allowed : L.Allows '=' := hc.1
        rw [show L = .headP from hm] at allowed
        exact absurd rfl allowed
      · exact absurd trivial hr
    | condition =>
      rcases h with ⟨rfl, rfl, rfl⟩ | ⟨v, rfl⟩
      · refine ⟨⟨start, rfl⟩, ?_⟩
        rw [show L = .head from hm]
        rfl
      · exact absurd trivial hr
    | define => exact hn.elim
    | character site => exact hn.elim
  | _ => exact hn.elim

theorem led_step {y : Symbol} (hm : st.mode.Led L) (h : step st y = .ok nx) :
    nx.mode.Led (L.after y.text) := by
  obtain ⟨s, rfl | hs, he⟩ := enters_step h
  · exact he.led hm
  · exact he.led (led_settle hm hs)

theorem asked_step {y : Symbol} {t : Text} (hm : st.mode.Led L) (hr : ¬ st.mode.Refers)
    (hc : L.Clean (y.text ++ t)) (h : step st y = .ok nx) (hn : nx.mode.Refers) :
    (∃ start, nx.mode = .name .condition start []) ∧ L.after y.text = .ask := by
  obtain ⟨s, rfl | hs, he⟩ := enters_step h
  · exact he.asked hm hr hc hn
  · exact he.asked (led_settle hm hs) (not_refers_settle hs hr) hc hn

/-- A clean text is not accepted in the name of a condition. -/
theorem not_accepts_ask {start : Nat} {t : Text} (hm : st.mode = .name .condition start [])
    (ht : Lead.ask.Clean t) : ¬ Accepts st t := by
  intro ha
  cases t with
  | nil =>
    obtain ⟨q, hq⟩ := accepts_nil.1 ha
    obtain ⟨s, hs, hi, -⟩ := finish_ok hq
    rw [settle_eq (by rw [hm]; trivial)] at hs
    obtain rfl := Except.ok.inj hs
    rcases hi with hi | hi <;> rw [hm] at hi <;> cases hi
  | cons c t => exact not_accepts_mark hm ht.1 t ha

/-- An accepted text that is clean refers to no group. -/
theorem free_of_clean {t : Text} (hc : L.Clean t) (hm : st.mode.Led L) (hr : ¬ st.mode.Refers)
    (ha : Accepts st t) : Free st t := by
  rintro u v s rfl hu
  induction hu generalizing L with
  | done => exact hr
  | @plain st nx s c u hb hs _ ih =>
    have rest : (L.next c).Clean (u ++ v) := hc.2
    obtain ⟨nx', hs', ha⟩ := (accepts_plain hb).1 ha
    obtain rfl := Except.ok.inj (hs.symm.trans hs')
    refine ih (led_step hm hs) (fun hn => ?_) rest ha
    obtain ⟨⟨start, hm'⟩, ask⟩ := asked_step (y := .plain c) (t := u ++ v) hm hr hc hs hn
    exact not_accepts_ask hm' (ask ▸ rest) ha
  | @escaped st nx s c u hs _ ih =>
    have rest : ((L.next '\\').next c).Clean (u ++ v) := hc.2.2
    obtain ⟨nx', hs', ha⟩ := accepts_escaped.1 ha
    obtain rfl := Except.ok.inj (hs.symm.trans hs')
    refine ih (led_step hm hs) (fun hn => ?_) rest ha
    obtain ⟨⟨start, hm'⟩, ask⟩ := asked_step (y := .escaped c) (t := u ++ v) hm hr hc hs hn
    exact not_accepts_ask hm' (ask ▸ rest) ha

end RoutePattern.Regex.Reader
