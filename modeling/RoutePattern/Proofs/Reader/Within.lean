import Mathlib.Logic.Function.Basic
import RoutePattern.Proofs.Match.Renumber
import RoutePattern.Proofs.Reader.Effect
import RoutePattern.Proofs.Reader.Name

/-! # A text behind another one

What is read of a text does not depend on what has been read before it, as long as the text refers
to no group by name or number.

* `State.after`: the state of a text that is read alone, when it is read behind another one: places
  and group numbers are shifted, and the items of the text before stand in front of its own.
* `Shifted fl c a st`: `st` is behind `c` what `a` is alone, under the flags `fl`.
* `Carries fl c x x'`: if the step behind `c` is possible, then so is the step alone, with the same
  result. There is a lemma for each operation on states.
-/

namespace RoutePattern.Regex

/-- The number of a group that comes behind `k` others. No group has the number 0. -/
def moved (k n : Nat) : Nat := if n = 0 then 0 else n + k

theorem moved_injective (k : Nat) : (moved k).Injective := by
  intro m n h
  unfold moved at h
  split at h <;> split at h <;> omega

theorem moved_of_pos {k n : Nat} (h : n ≠ 0) : moved k n = n + k := if_neg h

theorem moved_none (n : Nat) : moved 0 n = n := by
  unfold moved
  split <;> omega

namespace Reader

/-! ## Places -/

/-- The set, `p` places further on. -/
def OpenSet.shift (p : Nat) (s : OpenSet) : OpenSet := { s with start := p + s.start }

/-- The site, `p` places further on. -/
def Site.shift (p : Nat) : Site → Site
  | .item => .item
  | .member s => .member (s.shift p)
  | .rangeEnd s first m => .rangeEnd (s.shift p) first m

/-- The use, `p` places further on. -/
def NameUse.shift (p : Nat) : NameUse → NameUse
  | .define => .define
  | .refer => .refer
  | .condition => .condition
  | .character site => .character (site.shift p)

theorem NameUse.close_shift (p : Nat) (use : NameUse) : (use.shift p).close = use.close := by
  cases use <;> rfl

/-- The mode, `p` places further on. -/
def Mode.shift (p : Nat) : Mode → Mode
  | .items => .items
  | .repeated => .repeated
  | .braces start least most => .braces (p + start) least most
  | .lineComment => .lineComment
  | .comment start => .comment (p + start)
  | .opened start => .opened (p + start)
  | .header start => .header (p + start)
  | .headerP start => .headerP (p + start)
  | .headerAngle start => .headerAngle (p + start)
  | .name use start text => .name (use.shift p) (p + start) text
  | .flagsOn start on => .flagsOn (p + start) on
  | .flagsDash start on => .flagsDash (p + start) on
  | .flagsOff start on off => .flagsOff (p + start) on off
  | .setStart s => .setStart (s.shift p)
  | .setMember s => .setMember (s.shift p)
  | .setAfter s first m => .setAfter (s.shift p) first m
  | .setDash s first m => .setDash (s.shift p) first m
  | .hex site letter digits => .hex (site.shift p) letter digits
  | .nameBrace site => .nameBrace (site.shift p)
  | .octal site digits => .octal (site.shift p) digits
  | .reference digits => .reference digits

/-- The opener with its group renumbered. -/
def Opener.renumber (ρ : Nat → Nat) : Opener → Opener
  | .capture n => .capture (ρ n)
  | .flagged on off => .flagged on off
  | .atomic => .atomic
  | .lookahead negated => .lookahead negated
  | .lookbehind negated => .lookbehind negated
  | .condition n => .condition (ρ n)

/-- The group, `p` places further on. -/
def MetGroup.shift (p : Nat) (g : MetGroup) : MetGroup := { g with index := p + g.index }

/-! ## States -/

namespace State

/-- The new numbers of the groups of a text behind the state. -/
def move (c : State) : Nat → Nat := moved c.groups.length

/-- The items of an alternative. In front of the first one stand the items of the text before. -/
def itemsAfter (c : State) (outermost : Bool) (branches items : List Regex) : List Regex :=
  items.map (renumber c.move) ++ if branches.isEmpty && outermost then c.items else []

/-- The alternatives of the text; the first one is `y` if it starts with items of the text before. -/
def ownBranches (c : State) (y : Regex) : List Regex → List Regex
  | [] => []
  | [b] => [if c.items.isEmpty then b.renumber c.move else y]
  | b :: bs => b.renumber c.move :: c.ownBranches y bs

/-- The alternatives between the bounds of a group, or of no group. -/
def branchesAfter (c : State) (y : Regex) (outermost : Bool) (branches : List Regex) :
    List Regex :=
  if outermost then c.ownBranches y branches ++ c.branches else branches.map (renumber c.move)

/-- The open groups. -/
def framesAfter (c : State) (y : Regex) : List Frame → List Frame
  | [] => []
  | f :: fs =>
    { opener := f.opener.renumber c.move
      start := c.pos + f.start
      branches := c.branchesAfter y fs.isEmpty f.branches
      items := c.itemsAfter fs.isEmpty f.branches f.items
      verbose := f.verbose
      behind := f.behind.map (· + c.groups.length) } :: c.framesAfter y fs

/-- The state of a text, when the text is read behind the state `c`. -/
def after (c : State) (y : Regex) (asked : List (Nat × Nat)) (a : State) : State where
  mode := a.mode.shift c.pos
  pos := c.pos + a.pos
  flags := c.flags
  verbose := a.verbose
  branches := c.branchesAfter y a.frames.isEmpty a.branches
  items := c.itemsAfter a.frames.isEmpty a.branches a.items
  frames := c.framesAfter y a.frames
  groups := c.groups ++ a.groups.map (MetGroup.shift c.pos)
  sets := a.sets.map (fun x => (c.pos + x.1, c.pos + x.2)) ++ c.sets
  asked := asked
  behind := a.behind.map (· + c.groups.length)
  variableLookbehind := a.variableLookbehind || c.variableLookbehind

/-- Whether the text is verbose outside all groups, and in which look-behind it is there, by what
holds inside the groups that are open. -/
def groundOf (verbose : Bool) (behind : Option Nat) : List Frame → Bool × Option Nat
  | [] => (verbose, behind)
  | f :: fs => groundOf f.verbose f.behind fs

/-- Whether the text is verbose outside all groups, and in which look-behind it is there. -/
def ground (a : State) : Bool × Option Nat := groundOf a.verbose a.behind a.frames

/-- There are no groups, and none is asked for. -/
def Groupless (c : State) : Prop := c.groups = [] ∧ c.asked = []

/-- What a text can be read behind: nothing is left open, and something has been read of which
nothing can be repeated. -/
structure IsBase (c : State) : Prop where
  mode : c.mode = .items
  frames : c.frames = []
  verbose : c.verbose = false
  behind : c.behind = none
  items : c.items = [] ∨ ∃ x r, c.items = anchor x :: r
  begun : c.items ≠ [] ∨ c.branches ≠ []

end State

/-- The state `st` is behind `c` what `a` is alone, where the flags are `fl`. -/
structure Shifted (fl : Flags) (c a st : State) : Prop where
  eq : ∃ y asked, (c.Groupless → asked.map Prod.fst = a.asked.map Prod.fst) ∧
    st = c.after y asked a
  flags : a.flags = fl
  numbered : ∀ f ∈ a.frames, ∀ n, f.opener = .capture n → n ≠ 0
  ground : a.ground = (false, none)
  comment : a.mode = .lineComment → a.verbose = true

/-- If there is the second result, then there is the first, and behind `c` it is the second. -/
def Carries (fl : Flags) (c : State) (x x' : Except Error State) : Prop :=
  ∀ st, x' = .ok st → ∃ a, x = .ok a ∧ Shifted fl c a st

variable {fl : Flags} {c a st : State}

namespace Carries

theorem ok (h : Shifted fl c a st) : Carries fl c (.ok a) (.ok st) := by
  intro nx hx
  rw [← Except.ok.inj hx]
  exact ⟨a, rfl, h⟩

theorem error {x : Except Error State} {e : Error} : Carries fl c x (.error e) := by
  intro nx hx
  cases hx

theorem refuse {x : Except Error State} {f : Fault} {i : Nat} :
    Carries fl c x (Reader.refuse f i) := error

theorem ite {p : Prop} [Decidable p] {x x' z z' : Except Error State} (h : p → Carries fl c x x')
    (h' : ¬ p → Carries fl c z z') : Carries fl c (if p then x else z) (if p then x' else z') := by
  by_cases hp : p
  · rw [if_pos hp, if_pos hp]
    exact h hp
  · rw [if_neg hp, if_neg hp]
    exact h' hp

end Carries

theorem shifted_start (h : c.IsBase) (hfl : fl.verbose = false) :
    Shifted fl c (start fl) c where
  eq := by
    refine ⟨.empty, c.asked, fun none => by rw [none.2]; rfl, ?_⟩
    obtain ⟨mode, pos, flags, verbose, branches, items, frames, groups, sets, asked, behind, v⟩ := c
    obtain ⟨rfl, rfl, rfl, rfl, -, -⟩ := h
    rw [State.after, start, hfl]
    simp [State.branchesAfter, State.ownBranches, State.itemsAfter, State.framesAfter, Mode.shift]
  flags := rfl
  numbered := fun f hf => absurd hf List.not_mem_nil
  ground := congrArg (·, none) hfl
  comment := fun h => by cases h

namespace Shifted

theorem pos (h : Shifted fl c a st) : st.pos = c.pos + a.pos := by
  obtain ⟨y, asked, -, rfl⟩ := h.eq
  rfl

theorem verbose (h : Shifted fl c a st) : st.verbose = a.verbose := by
  obtain ⟨y, asked, -, rfl⟩ := h.eq
  rfl

theorem mode (h : Shifted fl c a st) : st.mode = a.mode.shift c.pos := by
  obtain ⟨y, asked, -, rfl⟩ := h.eq
  rfl

theorem behind (h : Shifted fl c a st) : st.behind = a.behind.map (· + c.groups.length) := by
  obtain ⟨y, asked, -, rfl⟩ := h.eq
  rfl

theorem groups (h : Shifted fl c a st) :
    st.groups = c.groups ++ a.groups.map (MetGroup.shift c.pos) := by
  obtain ⟨y, asked, -, rfl⟩ := h.eq
  rfl

theorem items (h : Shifted fl c a st) :
    st.items = c.itemsAfter a.frames.isEmpty a.branches a.items := by
  obtain ⟨y, asked, -, rfl⟩ := h.eq
  rfl

end Shifted

/-! ## Groups -/

theorem nextGroup_move (h : Shifted fl c a st) : st.nextGroup = c.move a.nextGroup := by
  rw [State.nextGroup, h.groups, State.move, State.nextGroup, moved_of_pos (by omega)]
  simp only [List.length_append, List.length_map]
  omega

theorem move_eq (hc : c.Groupless) (n : Nat) : c.move n = n := by
  rw [State.move, hc.1]
  exact moved_none n

theorem group?_move (h : Shifted fl c a st) (n : Nat) :
    st.group? (c.move n) = (a.group? n).map (MetGroup.shift c.pos) := by
  by_cases hn : n = 0
  · rw [hn]
    rfl
  · have behind : c.groups.length ≤ n + c.groups.length - 1 := by omega
    have index : n + c.groups.length - 1 - c.groups.length = n - 1 := by omega
    rw [State.move, moved_of_pos hn, State.group?, State.group?, if_neg (by omega), if_neg hn,
      h.groups, List.getElem?_append_right behind, index, List.getElem?_map]

theorem width_move (h : Shifted fl c a st) (n : Nat) :
    (st.group? (c.move n)).bind (·.width) = (a.group? n).bind (·.width) := by
  rw [group?_move h]
  cases a.group? n <;> rfl

theorem isClosed_move (h : Shifted fl c a st) (n : Nat) : st.isClosed (c.move n) = a.isClosed n :=
  congrArg Option.isSome (width_move h n)

theorem groupWidth_move (h : Shifted fl c a st) (n : Nat) :
    st.groupWidth (c.move n) = a.groupWidth n :=
  congrArg (·.getD ⟨0, 0⟩) (width_move h n)

/-- A name that is free behind another text is free. -/
theorem groupNamed?_none (h : Shifted fl c a st) {name : Text} (hn : st.groupNamed? name = none) :
    a.groupNamed? name = none := by
  simp only [State.groupNamed?, Option.map_eq_none_iff, List.findIdx?_eq_none_iff] at hn ⊢
  intro g hg
  rw [h.groups] at hn
  exact hn (g.shift c.pos) (List.mem_append_right _ (List.mem_map_of_mem hg))

/-- Behind no other groups, a name is that of the same group. -/
theorem groupNamed?_eq (h : Shifted fl c a st) (hc : c.Groupless) (name : Text) :
    st.groupNamed? name = a.groupNamed? name := by
  rw [State.groupNamed?, State.groupNamed?, h.groups, hc.1, List.nil_append, List.findIdx?_map]
  rfl

/-- A reference that is possible inside a look-behind of the text is possible alone. -/
theorem checkBehind_move (h : Shifted fl c a st) {n stop stop' : Nat}
    (hb : st.checkBehind (c.move n) stop' = .ok ()) : a.checkBehind n stop = .ok () := by
  unfold State.checkBehind at hb ⊢
  rw [h.behind, isClosed_move h n] at hb
  cases ha : a.behind with
  | none => rfl
  | some limit =>
    rw [ha] at hb
    dsimp only [Option.map_some] at hb ⊢
    by_cases hn : (!a.isClosed n) = true
    · simp [hn] at hb
    · rw [if_neg hn] at hb ⊢
      have number : n ≠ 0 := by
        rintro rfl
        simp [State.isClosed, State.group?] at hn
      rw [State.move, moved_of_pos number] at hb
      by_cases hl : limit ≤ n
      · simp [hl] at hb
      · rw [if_neg hl]

/-! ## What has been read -/

theorem alternatives_move (h : Shifted fl c a st) (hf : a.frames ≠ []) :
    st.alternatives = (a.alternatives.1.renumber c.move, a.alternatives.2.map (renumber c.move)) := by
  obtain ⟨y, asked, -, rfl⟩ := h.eq
  have inner : a.frames.isEmpty = false := by simpa using hf
  have rows : (concat (c.after y asked a).items.reverse :: (c.after y asked a).branches).reverse =
      (concat a.items.reverse :: a.branches).reverse.map (renumber c.move) := by
    simp [State.after, inner, State.itemsAfter, State.branchesAfter, renumber_concat]
  unfold State.alternatives
  rw [rows]
  cases (concat a.items.reverse :: a.branches).reverse <;> rfl

theorem body_move (h : Shifted fl c a st) (hf : a.frames ≠ []) :
    st.body = a.body.renumber c.move := by
  rw [State.body, alternatives_move h hf, State.body, renumber_choice]

theorem bodyWidth_move (h : Shifted fl c a st) (hf : a.frames ≠ []) :
    st.body.width st.groupWidth = a.body.width a.groupWidth := by
  rw [body_move h hf]
  exact width_renumber (groupWidth_move h) a.body

theorem closed_move (h : Shifted fl c a st) (hf : a.frames ≠ []) (o : Opener) :
    st.closed (o.renumber c.move) = (a.closed o).renumber c.move := by
  have body := body_move h hf
  cases o with
  | lookbehind negated =>
    have width := bodyWidth_move h hf
    simp only [Opener.renumber, State.closed, renumber, body]
    rw [← body, width]
  | condition n =>
    simp only [Opener.renumber, State.closed, renumber, alternatives_move h hf, renumber_concat]
  | _ => simp only [Opener.renumber, State.closed, renumber, body]

namespace Shifted

/-! ## Operations -/

theorem withMode (h : Shifted fl c a st) (m : Mode) (hm : m ≠ .lineComment) :
    Shifted fl c { a with mode := m } { st with mode := m.shift c.pos } where
  eq := by
    obtain ⟨y, asked, same, rfl⟩ := h.eq
    exact ⟨y, asked, same, rfl⟩
  flags := h.flags
  numbered := h.numbered
  ground := h.ground
  comment := fun h => absurd h hm

theorem withPos (h : Shifted fl c a st) (p : Nat) :
    Shifted fl c { a with pos := p } { st with pos := c.pos + p } where
  eq := by
    obtain ⟨y, asked, same, rfl⟩ := h.eq
    exact ⟨y, asked, same, rfl⟩
  flags := h.flags
  numbered := h.numbered
  ground := h.ground
  comment := h.comment

theorem push (h : Shifted fl c a st) (r : Regex) :
    Shifted fl c (a.push r) (st.push (r.renumber c.move)) where
  eq := by
    obtain ⟨y, asked, same, rfl⟩ := h.eq
    exact ⟨y, asked, same, rfl⟩
  flags := h.flags
  numbered := h.numbered
  ground := h.ground
  comment := fun h => by cases h

theorem pushLiterals (h : Shifted fl c a st) (t : Text) :
    Shifted fl c (a.pushLiterals t) (st.pushLiterals t) where
  eq := by
    obtain ⟨y, asked, same, rfl⟩ := h.eq
    refine ⟨y, asked, same, ?_⟩
    simp [State.pushLiterals, State.after, State.itemsAfter, Mode.shift, renumber]
  flags := h.flags
  numbered := h.numbered
  ground := h.ground
  comment := fun h => by cases h

/-- Nothing that stands in front of the text can be repeated. -/
theorem front (hc : c.IsBase) (outermost : Bool) (branches : List Regex) :
    c.itemsAfter outermost branches [] = [] ∨
      ∃ x r, c.itemsAfter outermost branches [] = anchor x :: r := by
  unfold State.itemsAfter
  split
  · exact hc.items
  · exact .inl rfl

theorem quantify (hc : c.IsBase) (h : Shifted fl c a st) (index index' least : Nat)
    (most : Option Nat) :
    Carries fl c (a.quantify index least most) (st.quantify index' least most) := by
  intro nx hx
  unfold State.quantify at hx ⊢
  rw [h.items] at hx
  cases ha : a.items with
  | nil =>
    rw [ha] at hx
    rcases front hc a.frames.isEmpty a.branches with none | ⟨x, r, anchored⟩
    · simp [none] at hx
    · simp [anchored, isAnchor] at hx
  | cons r rs =>
    rw [ha, State.itemsAfter, List.map_cons, List.cons_append] at hx
    dsimp only at hx ⊢
    rw [isAnchor_renumber, isRepeat_renumber] at hx
    by_cases h1 : r.isAnchor = true
    · simp [h1] at hx
    · by_cases h2 : r.isRepeat = true
      · simp [h1, h2] at hx
      · rw [if_neg h1, if_neg h2] at hx ⊢
        obtain ⟨y, asked, same, rfl⟩ := h.eq
        rw [← Except.ok.inj hx]
        exact ⟨_, rfl, ⟨y, asked, same, rfl⟩, h.flags, h.numbered, h.ground, fun h => by cases h⟩

theorem setGreed_of_rep {least : Nat} {most : Option Nat} {old : Greed} {r : Regex}
    {rs : List Regex} (h : st.items = rep least most old r :: rs) (g : Greed) :
    st.setGreed g = { st with items := rep least most g r :: rs, mode := .items } := by
  rw [State.setGreed, h]

theorem setGreed_of_not_rep (h : ∀ least most old r rs, st.items ≠ rep least most old r :: rs)
    (g : Greed) : st.setGreed g = { st with mode := .items } := by
  unfold State.setGreed
  split
  · next hi => exact absurd hi (h _ _ _ _ _)
  · rfl

theorem setGreed (hc : c.IsBase) (h : Shifted fl c a st) (g : Greed) :
    Shifted fl c (a.setGreed g) (st.setGreed g) := by
  have other : (∀ least most old r rs, a.items ≠ rep least most old r :: rs) →
      (∀ least most old r rs, st.items ≠ rep least most old r :: rs) →
      Shifted fl c (a.setGreed g) (st.setGreed g) := by
    intro ha hst
    rw [setGreed_of_not_rep ha, setGreed_of_not_rep hst]
    exact h.withMode .items nofun
  have items := h.items
  cases ha : a.items with
  | nil =>
    refine other (by simp [ha]) ?_
    rw [items, ha]
    rcases front hc a.frames.isEmpty a.branches with none | ⟨x, r, anchored⟩
    · simp [none]
    · simp [anchored]
  | cons r rs =>
    rw [ha, State.itemsAfter, List.map_cons, List.cons_append] at items
    cases r with
    | rep least most old r =>
      obtain ⟨y, asked, same, hst⟩ := h.eq
      rw [setGreed_of_rep ha, setGreed_of_rep items]
      refine ⟨⟨y, asked, same, ?_⟩, h.flags, h.numbered, h.ground, fun h => by cases h⟩
      rw [hst]
      rfl
    | _ => exact other (by simp [ha]) (by simp [items, renumber])

end Shifted

/-! ## Bars -/

namespace State

/-- A condition that has both its alternatives. -/
def isFull (st : State) : Bool :=
  st.frames.head?.any (·.opener.isCondition) && !st.branches.isEmpty

/-- The state behind a bar. -/
def barred (st : State) : State :=
  { st with branches := concat st.items.reverse :: st.branches, items := [] }

theorem bar_eq (st : State) :
    st.bar = if st.isFull then refuse .thirdBranch st.pos else .ok st.barred := by
  unfold bar isFull barred
  cases st.frames with
  | nil => rfl
  | cons f fs =>
    obtain ⟨opener, start, branches, items, verbose, behind⟩ := f
    cases opener with
    | condition n => cases st.branches.isEmpty <;> simp [Opener.isCondition]
    | _ => rfl

end State

/-- An alternative that ends outside all groups of the text. -/
theorem outer_bar (c : State) (y : Regex) (branches items : List Regex) :
    ∃ y', concat (c.itemsAfter true branches items).reverse :: c.branchesAfter y true branches =
      c.branchesAfter y' true (concat items.reverse :: branches) := by
  cases branches with
  | nil =>
    refine ⟨concat (c.itemsAfter true [] items).reverse, ?_⟩
    cases hi : c.items <;>
      simp [State.branchesAfter, State.ownBranches, State.itemsAfter, hi, renumber_concat]
  | cons b bs =>
    refine ⟨y, ?_⟩
    simp [State.branchesAfter, State.ownBranches, State.itemsAfter, renumber_concat]

/-- An alternative that ends inside a group of the text. -/
theorem inner_bar (c : State) (y : Regex) (branches items : List Regex) :
    concat (c.itemsAfter false branches items).reverse :: c.branchesAfter y false branches =
      c.branchesAfter y false (concat items.reverse :: branches) := by
  simp [State.branchesAfter, State.itemsAfter, renumber_concat]

theorem barred_after {y y' : Regex} {asked : List (Nat × Nat)}
    (hf : c.framesAfter y a.frames = c.framesAfter y' a.frames)
    (hb : concat (c.itemsAfter a.frames.isEmpty a.branches a.items).reverse ::
        c.branchesAfter y a.frames.isEmpty a.branches =
      c.branchesAfter y' a.frames.isEmpty (concat a.items.reverse :: a.branches)) :
    (c.after y asked a).barred = c.after y' asked a.barred := by
  unfold State.barred State.after
  dsimp only
  rw [hf, hb]
  rfl

theorem isFull_after (y : Regex) (asked : List (Nat × Nat)) :
    (c.after y asked a).isFull = a.isFull := by
  unfold State.isFull State.after
  dsimp only
  cases a.frames with
  | nil => rfl
  | cons f fs =>
    have opener : (f.opener.renumber c.move).isCondition = f.opener.isCondition := by
      cases f.opener <;> rfl
    simp [State.framesAfter, State.branchesAfter, opener]

theorem Shifted.bar (h : Shifted fl c a st) : Carries fl c a.bar st.bar := by
  obtain ⟨y, asked, same, rfl⟩ := h.eq
  rw [State.bar_eq, State.bar_eq, isFull_after]
  refine .ite (fun _ => .refuse) fun _ => .ok ⟨?_, h.flags, h.numbered, h.ground, h.comment⟩
  cases hf : a.frames with
  | nil =>
    obtain ⟨y', row⟩ := outer_bar c y a.branches a.items
    refine ⟨y', asked, same, barred_after ?_ ?_⟩
    · rw [hf]
      rfl
    · rw [hf]
      exact row
  | cons f fs =>
    refine ⟨y, asked, same, barred_after rfl ?_⟩
    rw [hf]
    exact inner_bar c y a.branches a.items

/-! ## Groups that open and close -/

theorem map_modify {α β : Type} {f : α → β} {g : α → α} {g' : β → β} (h : ∀ x, g' (f x) = f (g x))
    (l : List α) (i : Nat) : (l.map f).modify i g' = (l.modify i g).map f := by
  induction l generalizing i with
  | nil => simp
  | cons x l ih =>
    cases i with
    | zero => simp [h]
    | succ i => simp [ih]

namespace Shifted

theorem enter (h : Shifted fl c a st) {o : Opener} (ho : ∀ n, o = .capture n → n ≠ 0)
    (start : Nat) (verbose : Bool) :
    Shifted fl c (a.enter o start verbose)
      (st.enter (o.renumber c.move) (c.pos + start) verbose) where
  eq := by
    obtain ⟨y, asked, same, rfl⟩ := h.eq
    exact ⟨y, asked, same, rfl⟩
  flags := h.flags
  numbered := by
    intro f hf n hn
    rcases List.mem_cons.1 hf with rfl | hf
    · exact ho n hn
    · exact h.numbered f hf n hn
  ground := h.ground
  comment := fun h => by cases h

theorem enterCapture (h : Shifted fl c a st) (start : Nat) (name : Option Text) :
    Shifted fl c (a.enterCapture start name) (st.enterCapture (c.pos + start) name) := by
  have opened := h.enter (o := .capture a.nextGroup) (fun n hn => by cases hn; simp [State.nextGroup])
    start a.verbose
  obtain ⟨y, asked, same, eq⟩ := opened.eq
  refine ⟨⟨y, asked, same, ?_⟩, opened.flags, opened.numbered, opened.ground, opened.comment⟩
  rw [State.enterCapture, nextGroup_move h, h.verbose]
  have entered : st.enter (.capture (c.move a.nextGroup)) (c.pos + start) a.verbose =
    c.after y asked (a.enter (.capture a.nextGroup) start a.verbose) := eq
  rw [entered, h.groups]
  simp [State.after, State.enterCapture, State.enter, MetGroup.shift]

theorem enterLookbehind (h : Shifted fl c a st) (start : Nat) (negated : Bool) :
    Shifted fl c (a.enterLookbehind start negated)
      (st.enterLookbehind (c.pos + start) negated) := by
  have opened := h.enter (o := .lookbehind negated) nofun start a.verbose
  obtain ⟨y, asked, same, eq⟩ := opened.eq
  refine ⟨⟨y, asked, same, ?_⟩, opened.flags, opened.numbered, opened.ground, opened.comment⟩
  have limit : st.behind.getD st.nextGroup = a.behind.getD a.nextGroup + c.groups.length := by
    rw [h.behind, nextGroup_move h, State.move, moved_of_pos (by simp [State.nextGroup])]
    cases a.behind <;> rfl
  have entered : st.enter (.lookbehind negated) (c.pos + start) a.verbose =
    c.after y asked (a.enter (.lookbehind negated) start a.verbose) := eq
  rw [State.enterLookbehind, limit, h.verbose, entered]
  rfl

theorem noteClosed (h : Shifted fl c a st) (hf : a.frames ≠ []) {o : Opener}
    (ho : ∀ n, o = .capture n → n ≠ 0) :
    Shifted fl c (a.noteClosed o) (st.noteClosed (o.renumber c.move)) := by
  have width := bodyWidth_move h hf
  obtain ⟨y, asked, same, eq⟩ := h.eq
  cases o with
  | capture n =>
    have index : n + c.groups.length - 1 = c.groups.length + (n - 1) := by
      have := ho n rfl
      omega
    have groups : ∀ w : Option Width,
        (c.groups ++ a.groups.map (MetGroup.shift c.pos)).modify (n + c.groups.length - 1)
            (fun g => { g with width := w }) =
          c.groups ++ (a.groups.modify (n - 1) fun g => { g with width := w }).map
            (MetGroup.shift c.pos) := by
      intro w
      have own : (a.groups.map (MetGroup.shift c.pos)).modify (n - 1)
          (fun g => { g with width := w }) =
        (a.groups.modify (n - 1) fun g => { g with width := w }).map (MetGroup.shift c.pos) :=
        map_modify (by intro g; rfl) _ _
      rw [index, List.modify, List.modifyTailIdx_add]
      exact congrArg (c.groups ++ ·) own
    refine ⟨⟨y, asked, same, ?_⟩, h.flags, h.numbered, h.ground, h.comment⟩
    rw [Opener.renumber, State.noteClosed, State.noteWidth, State.move, moved_of_pos (ho n rfl),
      width, h.groups, groups, eq]
    rfl
  | lookbehind negated =>
    refine ⟨⟨y, asked, same, ?_⟩, h.flags, h.numbered, h.ground, h.comment⟩
    rw [Opener.renumber, State.noteClosed, width, eq]
    simp only [State.after, State.noteClosed]
    rw [Bool.or_right_comm]
  | _ => exact h

theorem close (h : Shifted fl c a st) : Carries fl c a.close st.close := by
  intro nx hx
  unfold State.close at hx ⊢
  cases hf : a.frames with
  | nil =>
    obtain ⟨y, asked, same, rfl⟩ := h.eq
    rw [State.after, hf] at hx
    exact absurd hx refuse_ne_ok
  | cons f fs =>
    have inside : a.frames ≠ [] := by simp [hf]
    have closed := closed_move h inside f.opener
    have noted := h.noteClosed inside (h.numbered f (by simp [hf]))
    have kept : (a.noteClosed f.opener).frames = f :: fs := by
      rw [← hf]
      cases f.opener <;> rfl
    obtain ⟨y, asked, same, eq⟩ := noted.eq
    have frames : st.frames = c.framesAfter y (f :: fs) := by
      have same : (st.noteClosed (f.opener.renumber c.move)).frames = st.frames := by
        cases f.opener <;> rfl
      rw [← same, eq, State.after, kept]
    rw [frames, State.framesAfter] at hx
    dsimp only at hx ⊢
    rw [eq, closed] at hx
    refine ⟨_, rfl, ⟨y, asked, same, (Except.ok.inj hx).symm⟩, noted.flags, fun g hg => ?_, ?_,
      fun h => by cases h⟩
    · exact h.numbered g (by rw [hf]; exact List.mem_cons_of_mem _ hg)
    · have ground := h.ground
      rwa [State.ground, hf] at ground

end Shifted

end Reader

end RoutePattern.Regex
