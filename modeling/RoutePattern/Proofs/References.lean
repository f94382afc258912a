import RoutePattern.Proofs.Alternation

/-! # Back-references in rows

A row is joined by bars and its escapes stay as they are, so a back-reference counts the groups of
the whole row. It is the one that it is alone if no group stands before its element; that is all
that joining can promise (`reference_drifts`).

* `Pattern.Keeps`: an expression is part of a pattern, with its groups and what refers to them.
* `Adds`: what an expression adds where nothing before it has groups.
* `keeps_of_row`: an expression in a row, with no group before it.
* `match_referring`: a row of templates, and one of them with no group before it.
-/

namespace RoutePattern

open Regex Regex.Reader

variable {o : Options} {p p' : Progress} {q e : Pattern} {fl : Flags}

/-- The group, `p` places further on. -/
def Group.shift (p : Nat) (g : Group) : Group := { g with index := p + g.index }

/-- The group that a back-reference with the number denotes. -/
def Pattern.group? (q : Pattern) (number : Nat) : Option Group :=
  if number = 0 then none else q.groups[number - 1]?

/-- The expression is read in the pattern as it is read alone, `p` places further on. Its
alternatives are among those of the pattern, with the numbers of its groups and of its
back-references unchanged, and each number denotes the same group. -/
structure Pattern.Keeps (q : Pattern) (p : Nat) (e : Pattern) : Prop where
  flags : q.flags = e.flags
  tree : ∃ x xs y ys, q.tree = choice x xs ∧ e.tree = choice y ys ∧ y :: ys <:+: x :: xs
  group : ∀ k g, e.group? k = some g → q.group? k = some (g.shift p)

/-- Groups that come first have the first numbers. -/
theorem group?_of_prefix {k n : Nat} {g : Group} (h : e.groups.map (Group.shift k) <+: q.groups)
    (hg : e.group? n = some g) : q.group? n = some (g.shift k) := by
  unfold Pattern.group? at hg ⊢
  by_cases hn : n = 0
  · rw [if_pos hn] at hg
    cases hg
  · rw [if_neg hn] at hg ⊢
    obtain ⟨later, behind⟩ := h
    have own : (e.groups.map (Group.shift k))[n - 1]? = some (g.shift k) := by
      rw [List.getElem?_map, hg]
      rfl
    have inside := (List.getElem?_eq_some_iff.1 own).1
    rw [← behind, List.getElem?_append_left inside, own]

/-- What the expression matches, the pattern matches. -/
theorem Pattern.Keeps.isSome_match? {k : Nat} (h : q.Keeps k e) {s : Text}
    (hs : (e.match? s).isSome) : (q.match? s).isSome := by
  obtain ⟨x, xs, y, ys, whole, own, part⟩ := h.tree
  rw [match?_eq_head?, Option.isSome_map, own, outcomes_choice] at hs
  rw [match?_eq_head?, Option.isSome_map, whole, outcomes_choice, h.flags]
  obtain ⟨u, hu⟩ := Option.isSome_iff_exists.1 hs
  obtain ⟨r, hr, way⟩ := List.mem_flatMap.1 (List.mem_of_head? hu)
  have among : u ∈ (x :: xs).flatMap fun r => r.outcomes e.flags (.before s) :=
    List.mem_flatMap.2 ⟨r, part.subset hr, way⟩
  rw [List.isSome_head?]
  exact List.ne_nil_of_mem among

/-- The sources of the expressions, each with the bar behind it. -/
def barred (es : List Pattern) : Text := es.flatMap fun e => e.source ++ ['|']

/-- A row of expressions, and what stands behind the bar of the first one. -/
theorem intercalate_first (a : Pattern) (as : List Pattern) (t : Text) (us : List Text) :
    ['|'].intercalate ((a :: as).map (·.source) ++ t :: us) =
      a.source ++ '|' :: ['|'].intercalate (as.map (·.source) ++ t :: us) := by
  obtain ⟨t', us', rest⟩ : ∃ t' us', as.map (·.source) ++ t :: us = t' :: us' :=
    List.exists_cons_of_ne_nil (List.append_ne_nil_of_right_ne_nil _ (List.cons_ne_nil _ _))
  rw [List.map_cons, List.cons_append, rest, intercalate_cons]

theorem barred_prefix (as : List Pattern) (t : Text) (us : List Text) :
    barred as ++ t <+: ['|'].intercalate (as.map (·.source) ++ t :: us) := by
  induction as with
  | nil =>
    cases us with
    | nil =>
      rw [List.map_nil, List.nil_append, List.intercalate_singleton]
      exact List.prefix_refl _
    | cons u us =>
      rw [List.map_nil, List.nil_append, intercalate_cons]
      exact List.prefix_append _ _
  | cons a as ih =>
    rw [intercalate_first, barred, List.flatMap_cons, List.append_assoc, List.append_assoc]
    apply (List.prefix_append_right_inj _).2
    apply (List.prefix_append_right_inj _).2
    exact ih

namespace Regex.Reader

variable {c s m nx : State} {t : Text}

/-! ## One expression -/

/-- The alternatives and the groups of the expression come, as they are, behind those of a state that
has no groups. -/
structure Adds (fl : Flags) (c : State) (e : Pattern) (s : State) : Prop where
  idle : s.Idle fl
  rows : ∃ y ys, e.tree = choice y ys ∧ s.rows = c.branches.reverse ++ y :: ys
  met : s.met = e.groups.map (Group.shift c.pos)
  groupless : e.groups = [] → s.Groupless

theorem exists_rows (s : State) : ∃ r rs, s.rows = r :: rs :=
  List.exists_cons_of_ne_nil (by simp [State.rows])

/-- An expression without groups leaves none behind, and asks for none. -/
theorem Headed.groupless (h : Headed fl t e) (hr : Reads (start fl) t m) (hs : settle m = .ok s)
    (none : e.groups = []) : s.Groupless := by
  obtain ⟨-, b, reads, finished⟩ := pattern_read_eq_ok.1 h.read
  obtain rfl := hr.unique reads
  exact groupless_of_finish hr hs finished none

theorem groupless_after {y : Regex} {asked : List (Nat × Nat)} (hc : c.Groupless)
    (hs : s.Groupless) (same : asked.map Prod.fst = s.asked.map Prod.fst) :
    (c.after y asked s).Groupless := by
  obtain ⟨groups, ask⟩ := hs
  refine ⟨?_, ?_⟩
  · rw [State.after, hc.1, groups]
    rfl
  · rw [ask, List.map_nil, List.map_eq_nil_iff] at same
    exact same

theorem met_after {y : Regex} {asked : List (Nat × Nat)} (hc : c.Groupless) :
    (c.after y asked s).met = s.met.map (Group.shift c.pos) := by
  rw [State.met, State.after, hc.1, List.nil_append, State.met, List.map_map, List.map_map]
  rfl

theorem map_shift_zero (gs : List Group) : gs.map (Group.shift 0) = gs := by
  have here : Group.shift 0 = id := by
    funext g
    rw [Group.shift, Nat.zero_add]
    rfl
  rw [here, List.map_id]

theorem adds_of_reads (hc : c.Begins fl) (hg : c.Groupless) (hfl : fl.verbose = false)
    (he : Headed fl t e) (hr : Reads c t m) :
    m.mode.IsPlace ∧ ∀ s, settle m = .ok s → Adds fl c e s := by
  cases hc with
  | start =>
    obtain ⟨b, a, reads, place, ha, idle, tree, -, groups⟩ := he.ends hfl
    obtain rfl := reads.unique hr
    refine ⟨place, fun s hs => ?_⟩
    obtain rfl := Except.ok.inj (ha.symm.trans hs)
    obtain ⟨y, ys, rows⟩ := exists_rows a
    exact {
      idle := idle
      rows := ⟨y, ys, tree.trans (body_of_rows rows), rows⟩
      met := groups ▸ (map_shift_zero _).symm
      groupless := he.groupless reads ha }
  | bar base begun flags =>
    obtain ⟨place, behind⟩ := he.behind hfl base hr (.inl hg)
    refine ⟨place, fun s hs => ?_⟩
    obtain ⟨b, a, x, asked, reads, ha, idle, tree, groups, rfl, same⟩ := behind s hs
    obtain ⟨y, ys, rows⟩ := exists_rows a
    have fixed : renumber c.move = id := funext (renumber_of_fixed (move_eq hg))
    exact {
      idle := flags ▸ idle.after x asked
      rows := by
        refine ⟨y, ys, tree.trans (body_of_rows rows), ?_⟩
        rw [rows_after begun idle.frames, fixed, List.map_id, rows]
      met := groups ▸ met_after hg
      groupless := fun none => groupless_after hg (he.groupless reads ha none) (same hg) }

/-! ## The row -/

theorem State.Begins.outside (h : c.Begins fl) : c.frames = [] ∧ c.flags = fl := by
  cases h with
  | start => exact ⟨rfl, rfl⟩
  | bar base _ flags => exact ⟨base.frames, flags⟩

/-- What an expression has added is still there where the row ends. -/
theorem Adds.keeps {z : State} (h : Adds fl c e s) (he : e.flags = fl.settled)
    (hq : q.tree = z.body ∧ q.flags = z.flags.settled ∧ q.groups = z.met) (hf : z.flags = fl)
    (hm : s.met <+: z.met) (hr : s.rows <+: z.rows) : q.Keeps c.pos e := by
  obtain ⟨tree, flags, groups⟩ := hq
  obtain ⟨y, ys, own, rows⟩ := h.rows
  obtain ⟨x, xs, all⟩ := exists_rows z
  refine ⟨by rw [flags, hf, he], ⟨x, xs, y, ys, tree.trans (body_of_rows all), own, ?_⟩, ?_⟩
  · rw [← all]
    have part : y :: ys <:+: s.rows := rows ▸ (List.suffix_append _ _).isInfix
    exact part.trans hr.isInfix
  · have first : e.groups.map (Group.shift c.pos) <+: q.groups := by
      rw [groups, ← h.met]
      exact hm
    exact fun _ _ hg => group?_of_prefix first hg

theorem groupless_bar (h : s.Idle fl) (hg : s.Groupless) (hs : step s (.plain '|') = .ok nx) :
    nx.Groupless := by
  obtain ⟨mode, pos, flags, verbose, branches, items, frames, groups, sets, asked, behind, w⟩ := s
  obtain ⟨rfl, rfl, rfl, rfl, rfl⟩ := h
  cases hs
  exact hg

/-- The alternatives before a bar stay the first ones. -/
theorem rows_prefix {z : State} (hc : c.frames = []) (hz : z.frames = []) (h : Grows c z) :
    c.branches.reverse <+: z.rows := by
  have branches : c.branches <:+ z.branches := by
    have grown := h.outermost
    rwa [State.outermost, State.outermost, hc, hz] at grown
  rw [State.rows, List.reverse_cons]
  exact (List.reverse_prefix.2 branches).trans (List.prefix_append _ _)

/-- The bar behind an expression: the next one starts behind its alternatives and groups. -/
theorem begins_behind {u : Text} (hc : c.Begins fl) (hg : c.Groupless) (hfl : fl.verbose = false)
    (he : Headed fl t e) (hr : Reads c (t ++ '|' :: u) nx) :
    ∃ s b, Adds fl c e s ∧ b.Begins fl ∧ b.branches.reverse = s.rows ∧ b.met = s.met ∧
      b.pos = c.pos + (t ++ ['|']).length ∧ (e.groups = [] → b.Groupless) ∧ Reads b u nx := by
  obtain ⟨m, b, hm, hb, hr⟩ := he.split hr
  obtain ⟨place, adds⟩ := adds_of_reads hc hg hfl he hm
  obtain ⟨s, hs, -, bar⟩ := settles_of_step place (extend?_eq_none (by decide) rfl) hb
  have adds := adds s hs
  obtain ⟨begins, branches, groups⟩ := begins_bar adds.idle hfl bar
  refine ⟨s, b, adds, begins, branches, congrArg (List.map MetGroup.toGroup) groups, ?_,
    fun none => ?_, hr⟩
  · rw [pos_of_step hb, pos_of_reads hm, List.length_append, Nat.add_assoc]
    rfl
  · exact groupless_bar adds.idle (adds.groupless none) bar

/-- An expression at the start of the rest of a row: the rest leaves it as it is. -/
theorem keeps_of_first {us : List Text} (hc : c.Begins fl) (hg : c.Groupless)
    (hfl : fl.verbose = false) (he : Headed fl t e) (hr : Reads c (['|'].intercalate (t :: us)) nx)
    (hq : finish nx = .ok q.toParsed) : q.Keeps c.pos e := by
  obtain ⟨_, _, -, -, -, -, -, flags, -⟩ := he.ends hfl
  obtain ⟨z, hz, -, outside, parsed⟩ := finish_ok hq
  cases us with
  | nil =>
    rw [List.intercalate_singleton] at hr
    have adds := (adds_of_reads hc hg hfl he hr).2 z hz
    exact adds.keeps flags parsed adds.idle.flags (List.prefix_refl _) (List.prefix_refl _)
  | cons u us =>
    rw [intercalate_cons] at hr
    obtain ⟨s, b, adds, begins, branches, met, -, -, hr⟩ := begins_behind hc hg hfl he hr
    have grown : Grows b z := (grows_of_reads hr).trans (grows_settle hz)
    have frames := begins.outside.1
    have kept : z.flags = fl := by
      rcases grown.flags with none | same
      · -- behind a bar there is an alternative
        obtain ⟨r, rs, rows⟩ := exists_rows s
        rw [State.outermost, frames] at none
        rw [rows, show b.branches = [] from none] at branches
        cases branches
      · exact same.trans begins.outside.2
    apply adds.keeps flags parsed kept
    · exact met ▸ grown.met
    · exact branches ▸ rows_prefix frames outside grown

/-- An expression of a row, with no group before it. -/
theorem keeps_of_row {as : List Pattern} {us : List Text} (hc : c.Begins fl) (hg : c.Groupless)
    (hfl : fl.verbose = false) (has : ∀ a ∈ as, Headed fl a.source a ∧ a.groups = [])
    (he : Headed fl t e) (hr : Reads c (['|'].intercalate (as.map (·.source) ++ t :: us)) nx)
    (hq : finish nx = .ok q.toParsed) : q.Keeps (c.pos + (barred as).length) e := by
  -- behind an expression without groups and its bar, nothing before has groups either
  induction as generalizing c with
  | nil => exact keeps_of_first hc hg hfl he hr hq
  | cons a as ih =>
    obtain ⟨⟨headed, none⟩, rest⟩ := List.forall_mem_cons.1 has
    rw [intercalate_first] at hr
    obtain ⟨s, b, -, begins, -, -, pos, groupless, hr⟩ := begins_behind hc hg hfl headed hr
    have kept := ih begins (groupless none) rest hr
    rw [pos, Nat.add_assoc, ← List.length_append] at kept
    exact kept

end Regex.Reader

/-! ## Templates -/

/-- Where a row of templates compiles, each of them compiles alone under the same options. One that
has no group before it is part of the row as it is: a back-reference in it denotes the same group of
it as alone, and the row matches whatever it matches. -/
theorem match_referring {shape : RowShape} {ts : List Text}
    (hq : compile o (.row shape (ts.map .template)) p = (.ok q, p')) :
    ∃ es, List.Forall₂ (fun t e => ∀ p, (compile o (.template t) p).1 = .ok e) ts es ∧
      ∀ as e bs, es = as ++ e :: bs → (∀ a ∈ as, a.groups = []) →
        barred as ++ e.source <+: q.source ∧ q.Keeps (barred as).length e ∧
          ∀ s, (e.match? s).isSome → (q.match? s).isSome := by
  rw [compile] at hq
  split at hq
  · next sources p₁ h =>
    obtain ⟨rfl, es, reads⟩ := compileAll_templates h
    obtain ⟨source, nx, row, finished⟩ := pattern_read_eq_ok.1 (conclude_ok hq).1
    have own : ts.map (fun t => o.anchored (draft t).source) = es.map (·.source) := by
      rw [← List.forall₂_eq_eq_eq, List.forall₂_map_left_iff, List.forall₂_map_right_iff]
      exact reads.imp fun t e read => (pattern_read_eq_ok.1 read).1.symm
    have each : ∀ e ∈ es, Headed o.flags e.source e := by
      refine ((List.forall₂_and_left _ _).1 (reads.flip.imp fun e t read => ⟨?_, read⟩)).1
      rw [(pattern_read_eq_ok.1 read).1]
      exact ⟨⟨_, rfl⟩, read⟩
    refine ⟨es, reads.imp fun t e read => compile_of_read read, ?_⟩
    rintro as e bs rfl none
    rw [own, List.map_append, List.map_cons] at row source
    have plain : o.flags.verbose = false := rfl
    have before : ∀ a ∈ as, Headed o.flags a.source a ∧ a.groups = [] := fun a ha =>
      ⟨each a (by simp [ha]), none a ha⟩
    have kept := keeps_of_row .start ⟨rfl, rfl⟩ plain before (each e (by simp)) row finished
    rw [show (start o.flags).pos = 0 from rfl, Nat.zero_add] at kept
    exact ⟨source ▸ barred_prefix as _ _, kept, fun s hs => kept.isSome_match? hs⟩
  · cases hq

theorem match_referring_second :
    ∃ q p' e, compile {} (.row .list (["/a".toList, "/:b/\\1".toList].map .template)) {} =
        (.ok q, p') ∧
      (compile {} (.template "/:b/\\1".toList) {}).1 = .ok e ∧ q.Keeps 7 e ∧
      (e.match? "/x/x".toList).isSome ∧ (q.match? "/x/x".toList).isSome := by
  have compiles : ((compile {} (.row .list
      (["/a".toList, "/:b/\\1".toList].map .template)) {}).1.toOption).isSome := by
    decide +kernel
  have first : ((compile {} (.template "/a".toList) {}).1.toOption.map
      fun e => (e.groups, e.source.length)) = some ([], 6) := by
    decide +kernel
  have second : ((compile {} (.template "/:b/\\1".toList) {}).1.toOption.map
      fun e => (e.match? "/x/x".toList).isSome) = some true := by
    decide +kernel
  rcases hc : compile {} (.row .list (["/a".toList, "/:b/\\1".toList].map .template)) {} with
    ⟨e | q, p'⟩
  · rw [hc] at compiles
    cases compiles
  · obtain ⟨es, alone, row⟩ := match_referring hc
    cases alone with
    | @cons _ e₁ _ _ h₁ rest =>
      cases rest with
      | @cons _ e₂ _ _ h₂ rest =>
        cases rest
        rw [h₁] at first
        rw [h₂] at second
        obtain ⟨none, length⟩ := Prod.mk.inj (Option.some.inj first)
        have matched : (e₂.match? "/x/x".toList).isSome := Option.some.inj second
        obtain ⟨-, kept, all⟩ := row [e₁] e₂ [] rfl (by simpa using none)
        have place : (barred [e₁]).length = 7 := by simp [barred, length]
        exact ⟨q, p', e₂, rfl, h₂ {}, place ▸ kept, matched, all _ matched⟩

/-- Behind an element with a group, the same back-reference denotes that group. -/
theorem reference_drifts :
    ∃ e₁ e₂ q p', (compile {} (.template "/:a".toList) {}).1 = .ok e₁ ∧
      (compile {} (.template "/:b/\\1".toList) {}).1 = .ok e₂ ∧
      compile {} (.row .list (["/:a".toList, "/:b/\\1".toList].map .template)) {} = (.ok q, p') ∧
      (e₂.group? 1).isSome ∧ q.group? 1 = e₁.group? 1 ∧
      (e₂.match? "/x/x".toList).isSome ∧ q.match? "/x/x".toList = none := by
  have first : ((compile {} (.template "/:a".toList) {}).1.toOption.map (·.group? 1)) =
      some (some ⟨5, none⟩) := by
    decide +kernel
  have second : ((compile {} (.template "/:b/\\1".toList) {}).1.toOption.map
      fun e => ((e.group? 1).isSome, (e.match? "/x/x".toList).isSome)) = some (true, true) := by
    decide +kernel
  have whole : ((compile {} (.row .list
      (["/:a".toList, "/:b/\\1".toList].map .template)) {}).1.toOption.map
      fun q => (q.group? 1, q.match? "/x/x".toList)) = some (some ⟨5, none⟩, none) := by
    decide +kernel
  rcases h₁ : (compile {} (.template "/:a".toList) {}).1 with f₁ | e₁
  · rw [h₁] at first
    cases first
  rcases h₂ : (compile {} (.template "/:b/\\1".toList) {}).1 with f₂ | e₂
  · rw [h₂] at second
    cases second
  rcases hc : compile {} (.row .list (["/:a".toList, "/:b/\\1".toList].map .template)) {} with
    ⟨f | q, p'⟩
  · rw [hc] at whole
    cases whole
  rw [h₁] at first
  rw [h₂] at second
  rw [hc] at whole
  obtain ⟨denoted, matched⟩ := Prod.mk.inj (Option.some.inj second)
  obtain ⟨drifted, missed⟩ := Prod.mk.inj (Option.some.inj whole)
  have own : e₁.group? 1 = some ⟨5, none⟩ := Option.some.inj first
  exact ⟨e₁, e₂, q, p', rfl, rfl, rfl, denoted, drifted.trans own.symm, matched, missed⟩

end RoutePattern
