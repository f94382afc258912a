import RoutePattern.Proofs.Match.Rows
import RoutePattern.Proofs.Reader.Growth
import RoutePattern.Proofs.Reader.Lead
import RoutePattern.Proofs.Reader.Place

/-! # Rows of expressions

Expressions that are joined by bars are read in turn, each as it is read alone.

* `Reader.State.rows`: the alternatives read so far.
* `Reader.Headed`: an expression behind an anchor; `Reader.Headed.behind`: it is the same behind a
  bar, where nothing before the bar can be referred to.
* `Reader.Element`: one that refers to no group.
* `Reader.Joins`: the alternatives and groups of an expression come behind those of a state.
* `Reader.joins_of_reads`: what an element does where an alternative starts.
* `outcomes_of_row`: the whole row matches what its elements do, in their order.
-/

namespace RoutePattern.Regex

namespace Reader

variable {fl f : Flags} {a b c m nx s : State} {v : Spot} {t : Text} {e : Pattern}

/-! ## Alternatives -/

/-- The alternatives read since the innermost group opened. -/
def State.rows (st : State) : List Regex := (concat st.items.reverse :: st.branches).reverse

theorem body_of_rows {r : Regex} {rs : List Regex} (h : s.rows = r :: rs) :
    s.body = choice r rs := by
  rw [State.rows] at h
  rw [State.body, State.alternatives, h]

theorem outcomes_body_renumber (ρ : Nat → Nat) :
    (s.body.renumber ρ).outcomes f v =
      (s.rows.map (renumber ρ)).flatMap fun r => r.outcomes f v := by
  cases h : s.rows with
  | nil => simp [State.rows] at h
  | cons r rs => rw [body_of_rows h, renumber_choice, outcomes_choice, List.map_cons]

theorem outcomes_body : s.body.outcomes f v = s.rows.flatMap fun r => r.outcomes f v := by
  cases h : s.rows with
  | nil => simp [State.rows] at h
  | cons r rs => rw [body_of_rows h, outcomes_choice]

/-! ## The end of an element -/

/-- The reader stands between items, outside all groups. -/
structure State.Idle (fl : Flags) (s : State) : Prop where
  mode : s.mode = .items
  frames : s.frames = []
  verbose : s.verbose = false
  behind : s.behind = none
  flags : s.flags = fl

theorem idle_of_settle (hg : c.Groupless) (h : Shifted c.flags c a b) (hp : b.mode.IsPlace)
    (hs : settle b = .ok s) (hf : s.frames = []) : s.Idle c.flags := by
  obtain ⟨a', -, shifted⟩ := shifted_settle (.inl hg) h s hs
  obtain ⟨-, plain, ahead⟩ := shifted.level hf
  refine ⟨items_of_settle hp hs, hf, shifted.verbose.trans plain, ?_, ?_⟩
  · rw [shifted.behind, ahead]
    rfl
  · obtain ⟨y, asked, -, rfl⟩ := shifted.eq
    rfl

/-- An expression behind an anchor. -/
structure Headed (fl : Flags) (t : Text) (e : Pattern) : Prop where
  anchor : ∃ u, t = '^' :: u
  read : Pattern.read fl t = .ok e

/-- Nothing is left open where such an expression ends. -/
theorem Headed.ends (h : Headed fl t e) (hfl : fl.verbose = false) :
    ∃ b a, Reads (start fl) t b ∧ b.mode.IsPlace ∧ settle b = .ok a ∧ a.Idle fl ∧
      e.tree = a.body ∧ e.flags = fl.settled ∧ e.groups = a.met := by
  obtain ⟨u, rfl⟩ := h.anchor
  obtain ⟨-, b, reads, hb⟩ := pattern_read_eq_ok.1 h.read
  have behind := (reads_start hfl).1 reads
  obtain ⟨a', -, shifted⟩ :=
    shifted_reads (isBase_begun hfl) behind (shifted_start (isBase_begun hfl) hfl) (.inl ⟨rfl, rfl⟩)
  have place : b.mode.IsPlace := by
    rcases place_of_finish hb with hp | ⟨hm, hf⟩
    · exact hp
    · exact absurd hf (frames_of_lineComment shifted hm)
  obtain ⟨a, ha, -, frames, tree, flags, groups⟩ := finish_ok hb
  have idle : a.Idle fl := idle_of_settle (c := begun fl) ⟨rfl, rfl⟩ shifted place ha frames
  exact ⟨b, a, reads, place, ha, idle, tree, idle.flags ▸ flags, groups⟩

/-- The expression is read, then the bar behind it, and then the rest. -/
theorem Headed.split {u : Text} (h : Headed fl t e) (hr : Reads c (t ++ '|' :: u) nx) :
    ∃ m b, Reads c t m ∧ step m (.plain '|') = .ok b ∧ Reads b u nx := by
  obtain ⟨-, _, alone, -⟩ := pattern_read_eq_ok.1 h.read
  obtain ⟨ys, symbols, -⟩ := reads_iff.1 alone
  obtain ⟨m, hm, hr⟩ := (reads_append symbols).1 hr
  obtain ⟨b, hb, rest⟩ := (reads_plain (by decide)).1 hr
  exact ⟨m, b, hm, hb, rest⟩

/-- An expression behind an anchor, that refers to no group. -/
structure Element (fl : Flags) (t : Text) (e : Pattern) : Prop where
  anchor : ∃ u, t = '^' :: u
  clean : Lead.clear.Clean t
  read : Pattern.read fl t = .ok e

theorem Element.headed (h : Element fl t e) : Headed fl t e := ⟨h.anchor, h.read⟩

/-! ## One element -/

/-- An alternative may start here, and is read as it would be at the start. -/
inductive State.Begins (fl : Flags) : State → Prop
  | start : Begins fl (start fl)
  | bar {c : State} : c.IsBase → c.items = [] → c.flags = fl → Begins fl c

/-- The alternatives and the groups of the expression come behind those of the state. -/
structure Joins (fl : Flags) (c : State) (e : Pattern) (s : State) : Prop where
  idle : s.Idle fl
  ways : ∀ f v, (s.rows.flatMap fun r => r.outcomes f v) =
    (c.branches.reverse.flatMap fun r => r.outcomes f v) ++ (e.tree.renumber c.move).outcomes f v
  groups : s.groups.length = c.groups.length + e.groups.length

theorem isPlace_shift {m : Mode} (h : m.IsPlace) (p : Nat) : (m.shift p).IsPlace := by
  cases m with
  | octal site digits =>
    obtain rfl : site = .item := h
    rfl
  | _ => exact h

theorem rows_after {y : Regex} {asked : List (Nat × Nat)} (hi : c.items = []) (hf : a.frames = []) :
    (c.after y asked a).rows = c.branches.reverse ++ a.rows.map (renumber c.move) := by
  have own : c.ownBranches y a.branches = a.branches.map (renumber c.move) := by
    induction a.branches with
    | nil => rfl
    | cons b bs ih =>
      cases bs with
      | nil => rw [State.ownBranches, hi]; rfl
      | cons b' bs => exact congrArg (_ :: ·) ih
  simp [State.rows, State.after, State.itemsAfter, State.branchesAfter, hf, hi, own,
    renumber_concat]

theorem State.Idle.after (h : a.Idle fl) (y : Regex) (asked : List (Nat × Nat)) :
    (c.after y asked a).Idle c.flags where
  mode := congrArg (·.shift c.pos) h.mode
  frames := congrArg (c.framesAfter y) h.frames
  verbose := h.verbose
  behind := congrArg (Option.map (· + c.groups.length)) h.behind
  flags := rfl

/-- Behind a bar an expression is what it is alone, if nothing before the bar can be referred to. -/
theorem Headed.behind (h : Headed fl t e) (hfl : fl.verbose = false) (hc : c.IsBase)
    (hr : Reads c t m) (ht : c.Groupless ∨ Free (start fl) t) :
    m.mode.IsPlace ∧ ∀ s, settle m = .ok s → ∃ b a y asked, Reads (start fl) t b ∧
      settle b = .ok a ∧ a.Idle fl ∧ e.tree = a.body ∧ e.groups = a.met ∧
      s = c.after y asked a ∧ (c.Groupless → asked.map Prod.fst = a.asked.map Prod.fst) := by
  obtain ⟨b, a, reads, place, ha, idle, tree, -, groups⟩ := h.ends hfl
  obtain ⟨b', reads', shifted⟩ := shifted_reads hc hr (shifted_start hc hfl) ht
  obtain rfl := reads.unique reads'
  refine ⟨shifted.mode ▸ isPlace_shift place _, fun s hs => ?_⟩
  have here : c.Groupless ∨ ¬ b.mode.Refers :=
    ht.imp_right fun free => free _ [] _ (by simp) reads
  obtain ⟨a', ha', shifted'⟩ := shifted_settle here shifted s hs
  obtain rfl := Except.ok.inj (ha.symm.trans ha')
  obtain ⟨y, asked, same, rfl⟩ := shifted'.eq
  exact ⟨b, a, y, asked, reads, ha, idle, tree, groups, rfl, same⟩

/-- An element where an alternative may start: nothing is left open, and its own alternatives and
groups have been added. -/
theorem joins_of_reads (hc : c.Begins fl) (hfl : fl.verbose = false) (he : Element fl t e)
    (hr : Reads c t m) : m.mode.IsPlace ∧ ∀ s, settle m = .ok s → Joins fl c e s := by
  cases hc with
  | start =>
    obtain ⟨b, a, reads, place, ha, idle, tree, -, groups⟩ := he.headed.ends hfl
    obtain rfl := reads.unique hr
    refine ⟨place, fun s hs => ?_⟩
    obtain rfl := Except.ok.inj (ha.symm.trans hs)
    refine ⟨idle, fun f v => ?_, by simp [groups, State.met, start]⟩
    rw [renumber_of_fixed (ρ := (start fl).move) moved_none, tree, outcomes_body]
    rfl
  | bar base none flags =>
    -- no reference can reach a group before the bar, so the element is read as it is alone
    have free : Free (start fl) t := by
      obtain ⟨-, nx, hr, hf⟩ := pattern_read_eq_ok.1 he.read
      exact free_of_clean he.clean trivial id ⟨nx, _, hr, hf⟩
    obtain ⟨place, behind⟩ := he.headed.behind hfl base hr (.inr free)
    refine ⟨place, fun s hs => ?_⟩
    obtain ⟨b, a, y, asked, -, -, idle, tree, groups, rfl, -⟩ := behind s hs
    refine ⟨flags ▸ idle.after y asked, fun f v => ?_, by simp [groups, State.met, State.after]⟩
    rw [rows_after none idle.frames, List.flatMap_append, tree, outcomes_body_renumber]

/-- Behind a bar the next alternative starts. -/
theorem begins_bar (h : s.Idle fl) (hfl : fl.verbose = false) (hs : step s (.plain '|') = .ok nx) :
    nx.Begins fl ∧ nx.branches.reverse = s.rows ∧ nx.groups = s.groups := by
  obtain ⟨mode, pos, flags, verbose, branches, items, frames, groups, sets, asked, behind, w⟩ := s
  obtain ⟨rfl, rfl, rfl, rfl, rfl⟩ := h
  cases hs
  exact ⟨.bar ⟨rfl, rfl, rfl, rfl, .inl rfl, .inr (List.cons_ne_nil _ _)⟩ rfl rfl, rfl, rfl⟩

/-! ## The row -/

/-- The trees of expressions joined by bars, behind a number of groups. -/
def joined : Nat → List Pattern → List Regex
  | _, [] => []
  | k, e :: es => e.tree.renumber (moved k) :: joined (k + e.groups.length) es

/-- The number of groups of the expressions. -/
def groupCount : List Pattern → Nat
  | [] => 0
  | e :: es => e.groups.length + groupCount es

theorem groupCount_cons (e : Pattern) (es : List Pattern) :
    groupCount (e :: es) = e.groups.length + groupCount es := rfl

/-- A row of elements matches, in this order, what has been read before it matches, and then what
each element does, its groups behind those of the elements before. -/
theorem outcomes_of_row {ts : List Text} {es : List Pattern} {q : Parsed} (hc : c.Begins fl)
    (hfl : fl.verbose = false) (he : List.Forall₂ (Element fl) ts es) (hn : ts ≠ [])
    (hr : Reads c (['|'].intercalate ts) nx) (hq : finish nx = .ok q) :
    q.flags = fl.settled ∧ q.groups.length = c.groups.length + groupCount es ∧
      ∀ f v, q.tree.outcomes f v = (c.branches.reverse.flatMap fun r => r.outcomes f v) ++
        (joined c.groups.length es).flatMap fun r => r.outcomes f v := by
  -- the rest of the row is read behind a bar, where the first element has been added to the state
  induction he generalizing c with
  | nil => exact absurd rfl hn
  | @cons t e ts es first rest ih =>
    cases rest with
    | nil =>
      obtain ⟨-, joins⟩ := joins_of_reads hc hfl first (by simpa [List.intercalate] using hr)
      obtain ⟨s, hs, -, -, tree, flags, groups⟩ := finish_ok hq
      have joins := joins s hs
      refine ⟨joins.idle.flags ▸ flags, ?_, fun f v => ?_⟩
      · rw [groups, List.length_map, joins.groups]
        simp [groupCount]
      · rw [tree, outcomes_body, joins.ways]
        simp [joined, State.move]
    | @cons t' e' ts es second rest =>
      rw [intercalate_cons] at hr
      obtain ⟨m, c', hm, hb, hr⟩ := first.headed.split hr
      obtain ⟨place, joins⟩ := joins_of_reads hc hfl first hm
      obtain ⟨s, hs, -, hb⟩ := settles_of_step place (extend?_eq_none (by decide) rfl) hb
      have joins := joins s hs
      obtain ⟨begins, branches, groups⟩ := begins_bar joins.idle hfl hb
      obtain ⟨flags, count, ways⟩ := ih begins (List.cons_ne_nil _ _) hr
      refine ⟨flags, ?_, fun f v => ?_⟩
      · rw [count, groups, joins.groups, groupCount_cons e, Nat.add_assoc]
      · rw [ways, branches, joins.ways, groups, joins.groups, joined, List.flatMap_cons,
          List.append_assoc]
        rfl

end Reader

end RoutePattern.Regex
