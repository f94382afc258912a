import RoutePattern.Proofs.Reader.Effect
import RoutePattern.Proofs.Reader.Sight

/-! # The scanner of groups agrees with the reader

Over a whole expression, the groups that the scanner finds are those that the reader has met, and
one more for every condition.

* `misreads`: some symbol of a comment is taken by the scanner for a group or a class.
* `State.conditions`: the conditions read so far; every symbol keeps the sum of these and of the
  groups that the scanner still finds (`agrees_step`).
* `openings_of_read`: the groups of an accepted source.
-/

namespace RoutePattern.Regex

def isCond : Regex → Bool
  | cond _ _ _ => true
  | _ => false

/-- The number of conditions in an expression. -/
def conditions (r : Regex) : Nat := r.nodes.countP isCond

namespace Reader

open Scan

/-- The number of conditions met so far, those that are open included. -/
def State.conditions (st : State) : Nat :=
  st.nodes.countP isCond + st.openers.countP Opener.isCondition

/-- Some symbol of a comment is taken for a group or a class; `astray` says whether the scanner has
left the comment at hand. -/
def State.misreads (st : State) (astray : Bool) : List Symbol → Bool
  | [] => false
  | y :: ys => st.mode.misreads astray y ||
    match step st y with
    | .ok nx => nx.misreads (st.mode.strays astray y) ys
    | .error _ => false

/-- Some symbol in a comment of the source is taken for a group or a class. -/
def misreads (flags : Flags) (source : Text) : Bool :=
  ((symbols? source).map ((start flags).misreads false)).getD false

variable {st nx : State}

/-! ## Conditions -/

theorem conditions_own (o : Opener) :
    (st.own o).countP isCond = if o.isCondition then 1 else 0 := by
  cases o <;> rfl

theorem Effect.conditions (h : Effect st nx) : nx.conditions = st.conditions := by
  have plain : ∀ o : Opener, o.isNode = false → o.isCondition = false := by
    intro o; cases o <;> simp [Opener.isNode, Opener.isCondition]
  unfold State.conditions
  cases h with
  | keep hn ho hg => rw [hn.countP_eq, ho]
  | enter o hp hn ho hg => rw [hn.countP_eq, ho, List.countP_cons, plain o hp]; rfl
  | capture hn ho hg => rw [hn.countP_eq, ho, List.countP_cons]; rfl
  | close o hn ho hg =>
    rw [hn.countP_eq, ho, List.countP_cons, List.countP_append, conditions_own]
    omega

theorem Effects.conditions (h : Effects st nx) : nx.conditions = st.conditions := by
  induction h with
  | refl => rfl
  | tail _ h ih => exact h.conditions.trans ih

theorem conditions_step {y : Symbol} (h : step st y = .ok nx) :
    nx.conditions = st.conditions + if st.mode.asks y then 1 else 0 := by
  cases ha : st.mode.asks y with
  | false => exact (effects_step ha h).conditions
  | true =>
    obtain ⟨hn, -, n, ho⟩ := asks_opens ha h
    rw [State.conditions, hn.countP_eq, ho, List.countP_cons, State.conditions]
    rfl

/-! ## One symbol -/

/-- What the scanner finds when the reader stands in `st`, where it may have left a comment. -/
def State.scannedIn (st : State) (astray : Bool) (pos : Nat) (rest : Text) : List Group :=
  if astray then st.found ++ openingsFrom pos rest else st.scanned pos rest

/-- A construct starts where it says, and only a comment may be left. -/
def State.Along (st : State) (astray : Bool) : Prop :=
  st.mode.Placed st.pos ∧ (astray = true → ∃ start, st.mode = .comment start)

/-- Between two states, conditions take the place of groups that the scanner finds. -/
def Agrees (st : State) (a : Bool) (t : Text) (nx : State) (b : Bool) : Prop :=
  st.conditions ≤ nx.conditions ∧
    (∀ rest, (st.scannedIn a st.pos (t ++ rest)).length + st.conditions =
      (nx.scannedIn b nx.pos rest).length + nx.conditions) ∧
    (nx.conditions = st.conditions →
      ∀ rest, st.scannedIn a st.pos (t ++ rest) = nx.scannedIn b nx.pos rest)

theorem Agrees.of_eq {a b : Bool} {t : Text} (hc : nx.conditions = st.conditions)
    (h : ∀ rest, st.scannedIn a st.pos (t ++ rest) = nx.scannedIn b nx.pos rest) :
    Agrees st a t nx b :=
  ⟨Nat.le_of_eq hc.symm, fun rest => by rw [h, hc], fun _ => h⟩

theorem Agrees.trans {st' : State} {a b c : Bool} {t u : Text} (h : Agrees st a t st' b)
    (h' : Agrees st' b u nx c) : Agrees st a (t ++ u) nx c := by
  refine ⟨Nat.le_trans h.1 h'.1, fun rest => ?_, fun hc rest => ?_⟩
  · rw [List.append_assoc, h.2.1, h'.2.1]
  · have := h.1
    have := h'.1
    rw [List.append_assoc, h.2.2 (by omega), h'.2.2 (by omega)]

theorem agrees_comment {start : Nat} {y : Symbol} {a : Bool} (hs : st.mode = .comment start)
    (hy : y ≠ .plain '\\') (hm : st.mode.misreads a y = false) (h : step st y = .ok nx) :
    nx.Along (st.mode.strays a y) ∧ Agrees st a y.text nx (st.mode.strays a y) := by
  obtain ⟨hpos, hf, hn⟩ := comment_step hs h
  have hc : nx.conditions = st.conditions := by
    rw [conditions_step h, hs]; rfl
  rw [hs] at hm ⊢
  cases y with
  | plain c =>
    by_cases hp : c = ')'
    · subst hp
      rw [if_pos rfl] at hn
      have strays : (Mode.comment start).strays a (.plain ')') = false := by
        simp [Mode.strays]
      rw [strays]
      refine ⟨⟨by rw [hn]; trivial, nofun⟩, .of_eq hc fun rest => ?_⟩
      simp only [State.scannedIn, State.scanned, hf, hn, hs, hpos, Bool.false_eq_true, if_false]
      cases a with
      | false => exact congrArg (st.found ++ ·) (commentSight_close _ _)
      | true => exact congrArg (st.found ++ ·) (Ordinary.openings (by decide) _ _)
    · rw [if_neg (by simpa using hp)] at hn
      have strays : (Mode.comment start).strays a (.plain c) = a := by simp [Mode.strays, hp]
      rw [strays]
      refine ⟨⟨by rw [hn]; trivial, fun _ => ⟨start, hn⟩⟩, .of_eq hc fun rest => ?_⟩
      simp only [State.scannedIn, State.scanned, hf, hn, hs, hpos]
      cases a with
      | false => exact congrArg (st.found ++ ·) (commentSight_cons hp _ _)
      | true =>
        simp only [Mode.misreads, Bool.true_and, Bool.or_eq_false_iff,
          decide_eq_false_iff_not] at hm
        have hb : c ≠ '\\' := fun h => hy (h ▸ rfl)
        exact congrArg (st.found ++ ·) (openingsFrom_plain hb hm.2 hm.1 _ _)
  | escaped c =>
    rw [if_neg (by simp)] at hn
    refine ⟨⟨by rw [hn]; trivial, fun _ => ⟨start, hn⟩⟩, .of_eq hc fun rest => ?_⟩
    simp only [State.scannedIn, State.scanned, hf, hn, hs, hpos, Mode.strays]
    cases a with
    | true => exact congrArg (st.found ++ ·) (openingsFrom_escape _ _ _)
    | false =>
      have skip := commentSight_cons (c := '\\') (by decide) st.pos (c :: rest)
      by_cases hp : c = ')'
      · subst hp
        simp only [Bool.false_or, decide_true, Bool.false_eq_true, if_false, if_true]
        exact congrArg (st.found ++ ·) (skip.trans (commentSight_close _ _))
      · simp only [Bool.false_or, hp, decide_false, Bool.false_eq_true, if_false]
        exact congrArg (st.found ++ ·) (skip.trans (commentSight_cons hp _ _))

theorem agrees_step {y : Symbol} {a : Bool} (hy : y ≠ .plain '\\') (hst : st.Along a)
    (hm : st.mode.misreads a y = false) (h : step st y = .ok nx) :
    nx.Along (st.mode.strays a y) ∧ Agrees st a y.text nx (st.mode.strays a y) := by
  by_cases hc : ∃ start, st.mode = .comment start
  · obtain ⟨start, hs⟩ := hc
    exact agrees_comment hs hy hm h
  · obtain rfl : a = false := Bool.eq_false_iff.2 fun ha => hc (hst.2 ha)
    have strays : st.mode.strays false y = false := by
      unfold Mode.strays
      split
      · next start _ hs => exact absurd ⟨start, hs⟩ hc
      · next start _ hs => exact absurd ⟨start, hs⟩ hc
      · rfl
    rw [strays]
    have count := conditions_step h
    cases ha : st.mode.asks y with
    | true =>
      obtain ⟨hpos, hp, hx⟩ := asks_step hst.1 ha h
      rw [if_pos ha] at count
      refine ⟨⟨hp, nofun⟩, by omega, fun rest => ?_, fun he => by omega⟩
      obtain ⟨g, hg⟩ := hx rest
      have one : (st.scanned st.pos (y.text ++ rest)).length =
          (nx.scanned nx.pos rest).length + 1 := by
        rw [hg, State.scanned, List.length_append, List.length_append, List.length_cons]
        omega
      simp only [State.scannedIn, Bool.false_eq_true, if_false]
      omega
    | false =>
      obtain ⟨hpos, hp, hx⟩ := sees_step hy hst.1 (fun i hi => hc ⟨i, hi⟩) hm ha h
      rw [if_neg (by simp [ha])] at count
      refine ⟨⟨hpos ▸ hp, nofun⟩, .of_eq count fun rest => ?_⟩
      simp only [State.scannedIn, Bool.false_eq_true, if_false, hpos]
      exact (hx rest).symm

/-! ## A whole expression -/

theorem readFrom_cons {y : Symbol} {ys : List Symbol} :
    readFrom st (y :: ys) = (step st y).bind fun s => readFrom s ys := by
  rw [← List.singleton_append, readFrom_append]
  congr 1
  simp only [readFrom, List.foldlM_cons, List.foldlM_nil]
  cases step st y <;> rfl

/-- Induction on the symbols, from any state that the scanner goes along with. -/
theorem agrees_readFrom {ys : List Symbol} {a : Bool} (hy : .plain '\\' ∉ ys) (hst : st.Along a)
    (hm : st.misreads a ys = false) (h : readFrom st ys = .ok nx) :
    ∃ b, nx.Along b ∧ Agrees st a (ys.flatMap Symbol.text) nx b := by
  induction ys generalizing st a with
  | nil =>
    obtain rfl := Except.ok.inj h
    exact ⟨a, hst, .of_eq rfl fun _ => rfl⟩
  | cons y ys ih =>
    rw [readFrom_cons] at h
    obtain ⟨s, hs, h⟩ := bind_eq_ok.1 h
    simp only [State.misreads, hs, Bool.or_eq_false_iff] at hm
    simp only [List.mem_cons, not_or] at hy
    obtain ⟨hst', agrees⟩ := agrees_step (Ne.symm hy.1) hst hm.1 hs
    obtain ⟨b, hb, agrees'⟩ := ih hy.2 hst' hm.2 h
    exact ⟨b, hb, agrees.trans agrees'⟩

theorem not_mem_symbols? {t : Text} {ys : List Symbol} (h : symbols? t = some ys) :
    .plain '\\' ∉ ys := by
  fun_induction symbols? t generalizing ys with
  | case1 => simp_all
  | case2 => simp at h
  | case3 c r ih =>
    obtain ⟨zs, hz, rfl⟩ := Option.map_eq_some_iff.1 h
    simpa using ih hz
  | case4 c r h1 h2 ih =>
    obtain ⟨zs, hz, rfl⟩ := Option.map_eq_some_iff.1 h
    refine List.not_mem_cons_of_ne_of_not_mem ?_ (ih hz)
    intro hc
    exact Text.ne_backslash h1 h2 (Symbol.plain.inj hc).symm

/-- Nothing is left for the scanner where an expression may end. -/
theorem scannedIn_of_finish {q : Parsed} {a : Bool} (hst : st.Along a) (h : finish st = .ok q) :
    q.groups = st.scannedIn a st.pos [] ∧ q.tree.conditions = st.conditions := by
  obtain ⟨s, hs, hm, hf, ht, -, hg⟩ := finish_ok h
  have notComment : ∀ start, s.mode ≠ .comment start := by
    rcases hm with hm | hm <;> simp [hm]
  have hc : ∀ start, st.mode ≠ .comment start := by
    intro start hst'
    obtain rfl := Except.ok.inj (hs.symm.trans (settle_eq (by rw [hst']; trivial)))
    exact notComment start hst'
  obtain rfl : a = false := Bool.eq_false_iff.2 fun ha => (hst.2 ha).elim hc
  obtain ⟨-, -, -, hv⟩ := scanned_settle hst.1 hs
  constructor
  · rw [State.scannedIn, if_neg (by simp), ← hv [] nofun, State.scanned, hg]
    rcases hm with hm | hm <;> simp [hm, Mode.sight, State.found]
  · rw [← (effect_settle hs).conditions, State.conditions, State.openers, hf, ht,
      Regex.conditions, nodes_body.countP_eq, State.nodes, hf]
    simp

/-- Where an expression ends outside comments, the scanner has found its groups. -/
theorem groups_of_finish {q : Parsed} (hp : st.mode.Placed st.pos) (h : finish st = .ok q) :
    q.groups = st.scanned st.pos [] :=
  (scannedIn_of_finish (a := false) ⟨hp, nofun⟩ h).1

/-- The groups that the scanner finds in an accepted source are its capture groups, but for one
more with every condition. -/
theorem openings_of_read {flags : Flags} {source : Text} {q : Parsed}
    (h : read flags source = .ok q) (hm : misreads flags source = false) :
    (openings source).length = q.groups.length + q.tree.conditions ∧
      (q.tree.conditions = 0 → openings source = q.groups) := by
  unfold read at h
  split at h
  · simp at h
  · next ys hy =>
    obtain ⟨st, hr, hq⟩ := bind_eq_ok.1 h
    have along : (start flags).Along false := ⟨trivial, nofun⟩
    simp only [misreads, hy, Option.map_some, Option.getD_some] at hm
    obtain ⟨b, hb, -, count, agree⟩ := agrees_readFrom (not_mem_symbols? hy) along hm hr
    obtain ⟨hg, hc⟩ := scannedIn_of_finish hb hq
    have first : (start flags).scannedIn false (start flags).pos
        (ys.flatMap Symbol.text ++ []) = openings source := by
      rw [List.append_nil, text_symbols? hy]; rfl
    have zero : (start flags).conditions = 0 := rfl
    constructor
    · have := count []
      rw [first, zero, ← hg, ← hc] at this
      exact this
    · intro h0
      rw [← first, agree (by rw [← hc, h0, zero]), hg]

end Reader

end RoutePattern.Regex
