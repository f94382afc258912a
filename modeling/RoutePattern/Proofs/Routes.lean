import RoutePattern.Proofs.Template.Keys
import RoutePattern.Proofs.Template.Leaf

/-! # Rows of templates

* `Route.source`, `Route.opened`: what a route becomes, and the parameters in it.
* `Route.Only`: every leaf of a route is a template of some kind.
* `passes_route`: where the source of a route is accepted, the reader meets the groups that the
  scanner finds template by template.
-/

namespace RoutePattern

open Scan Regex Regex.Reader

/-! ## Routes -/

mutual

/-- The source of the pattern for a route. -/
def Route.source (o : Options) : Route → Text
  | .template t => o.anchored (draft t).source
  | .pattern q => q.source
  | .row _ rs => ['|'].intercalate (Route.sources o rs)
  | .illTyped _ => []

def Route.sources (o : Options) : List Route → List Text
  | [] => []
  | r :: rs => r.source o :: Route.sources o rs

end

mutual

/-- What is at the templates of a route, given where each starts in the source. -/
def Route.atLeaves {α : Type} (f : Nat → Text → List α) (o : Options) (base : Nat) :
    Route → List α
  | .template t => f base t
  | .row _ rs => Route.atAllLeaves f o base rs
  | _ => []

def Route.atAllLeaves {α : Type} (f : Nat → Text → List α) (o : Options) (base : Nat) :
    List Route → List α
  | [] => []
  | r :: rs => r.atLeaves f o base ++ Route.atAllLeaves f o (base + (r.source o).length + 1) rs

end

/-- The parameters of a template whose anchored expression starts at an index. -/
def openedAt (base : Nat) (t : Text) : List (Nat × Param) :=
  (opened t).map fun x => (base + 1 + x.1, x.2)

/-- The groups that the scanner finds in a template whose anchored expression starts at an index. -/
def groupsAt (base : Nat) (t : Text) : List Group := openingsFrom (base + 1) (draft t).source

/-- The parameters of a route, by the index at which the capture group of each opens in the
source. -/
def Route.opened (o : Options) (base : Nat) (r : Route) : List (Nat × Param) :=
  r.atLeaves openedAt o base

/-- The groups that the scanner finds in the templates of a route. -/
def Route.groups (o : Options) (base : Nat) (r : Route) : List Group := r.atLeaves groupsAt o base

/-- Every leaf of the route is a template with the property. -/
inductive Route.Only (P : Text → Prop) : Route → Prop
  | template {t : Text} : P t → Only P (.template t)
  | row {shape : RowShape} {rs : List Route} : (∀ r ∈ rs, Only P r) → Only P (.row shape rs)

/-- What holds of the leaves between the bounds of each holds between those of the route. -/
theorem atLeaves_bounds {α : Type} {f : Nat → Text → List α} {index : α → Nat} {o : Options}
    {P : Text → Prop} {r : Route} (hr : r.Only P)
    (hf : ∀ base t, ∀ x ∈ f base t,
      base ≤ index x ∧ index x < base + (o.anchored (draft t).source).length) (base : Nat) :
    ∀ x ∈ r.atLeaves f o base, base ≤ index x ∧ index x < base + (r.source o).length := by
  induction hr generalizing base with
  | template _ => exact hf base _
  | @row shape rs _ ih =>
    rw [Route.atLeaves, Route.source]
    clear * - ih
    induction rs generalizing base with
    | nil => simp [Route.atAllLeaves]
    | cons r rs ihs =>
      intro x hx
      rw [Route.atAllLeaves, List.mem_append] at hx
      have first := ih r (by simp) base x
      have rest := ihs (fun s hs => ih s (by simp [hs])) (base + (r.source o).length + 1) x
      cases rs with
      | nil =>
        simp only [Route.atAllLeaves, List.not_mem_nil, or_false] at hx
        simpa [Route.sources, List.intercalate] using first hx
      | cons r' rs =>
        simp only [Route.sources, intercalate_cons, List.length_append, List.length_cons] at *
        rcases hx with hx | hx
        · have := first hx; omega
        · have := rest hx; omega

/-- What is ordered in the leaves is ordered in the route. -/
theorem atLeaves_pairwise {α : Type} {f : Nat → Text → List α} (index : α → Nat) {o : Options}
    {P : Text → Prop} {r : Route} (hr : r.Only P)
    (hf : ∀ base t, ∀ x ∈ f base t,
      base ≤ index x ∧ index x < base + (o.anchored (draft t).source).length)
    (hp : ∀ base t, (f base t).Pairwise (index · < index ·)) (base : Nat) :
    (r.atLeaves f o base).Pairwise (index · < index ·) := by
  induction hr generalizing base with
  | template _ => exact hp base _
  | @row shape rs hrs ih =>
    rw [Route.atLeaves]
    induction rs generalizing base with
    | nil => exact .nil
    | cons r rs ihs =>
      have only : ∀ s ∈ rs, s.Only P := fun s hs => hrs s (by simp [hs])
      rw [Route.atAllLeaves, List.pairwise_append]
      refine ⟨ih r (by simp) base, ihs only (fun s hs => ih s (by simp [hs])) _, ?_⟩
      intro x hx y hy
      have hx' := (atLeaves_bounds (hrs r (by simp)) hf base x hx).2
      have later : (Route.row shape rs).Only P := .row only
      have hy' := (atLeaves_bounds later hf _ y hy).1
      omega

/-! ## Reading a row -/

/-- A bar leads from one alternative to the start of the next. -/
theorem passes_bar {st : State} {v : Text} (h : st.Rests) (ha : Accepts st ('|' :: v)) :
    ∃ nx, Passes st ['|'] nx ∧ nx.Outside ∧ nx.mode = .items ∧ nx.found = st.found ∧
      nx.pos = st.pos + 1 ∧ Accepts nx v := by
  obtain ⟨nx, hs, ha⟩ := (accepts_plain (by decide)).1 ha
  have pass : Passes st ['|'] nx := .one (y := .plain '|') (by decide) h.outside.mode.quiet hs
  have items : nx.mode = .items := by
    obtain ⟨s, -, hm, hso, s', hr, rfl⟩ :=
      place_step h.place h.outside (extend?_eq_none (by decide) rfl) hs
    have hb : s.bar = .ok s' := by simpa [readItem, hso.verbose] using hr
    exact (found_bar hb).2.trans hm
  obtain ⟨pos, -, sees⟩ := pass.sees (placed_of_isPlace h.place h.entered _)
  refine ⟨nx, pass, ?_, items, ?_, pos, ha⟩
  · exact outside_step h.outside (follows_clear h.place h.entered) trivial (by decide) hs
  · have := sees []
    rw [State.scanned, State.scanned, items, sight_of_isPlace h.place h.entered,
      List.append_nil, openingsFrom_plain (by decide) (by decide) (by decide), openingsFrom_nil,
      List.append_nil] at this
    simpa [Mode.sight] using this

/-- The expression of the template is accepted by itself. -/
def Accepted (o : Options) (t : Text) : Prop :=
  Accepts (start o.flags) (o.anchored (draft t).source)

theorem start_outside (o : Options) : (start o.flags).Outside :=
  ⟨⟨rfl, rfl, by simp [start]⟩, trivial⟩

theorem exists_closedUpTo {o : Options} {t : Text} (ht : IsCalm t) (ha : Accepted o t) :
    ∃ ks b, ClosedUpTo t ks b := by
  obtain ⟨e, he, heq⟩ := anchored_eq o (draft t).source
  have noBracket : ∀ slash, ∀ e ∈ endings slash, ']' ∉ e := by decide
  have caret : Trail.clear.Spans ['^'] .clear := Trail.spans_chars (by decide) (by decide) rfl
  rw [Accepted, heq] at ha
  obtain ⟨s, -, h1, h2, h3⟩ := passes_spans (T := .clear) caret (start_outside o) trivial ha
  rw [source_draft] at h3
  obtain ⟨ks, tail, hk, hcl, rfl | rfl⟩ := closed_tokens ht (noBracket _ e he) h1 h2 h3
  · exact ⟨ks, false, hk, hcl⟩
  · exact ⟨ks, true, hk, hcl⟩

/-- Where the source of a route is accepted, in front of a bar or at the end, the reader meets the
groups that the scanner finds in the templates one by one. -/
theorem passes_route {o : Options} {r : Route} (hr : r.Only fun t => IsCalm t ∧ Accepted o t)
    {st : State} {w : Text} (ho : st.Outside) (hm : st.mode = .items)
    (hw : w = [] ∨ ∃ u, w = '|' :: u) (ha : Accepts st (r.source o ++ w)) :
    ∃ nx, Passes st (r.source o) nx ∧ nx.Rests ∧ Accepts nx w ∧
      nx.found = st.found ++ r.groups o st.pos := by
  induction hr generalizing st w with
  | template ht =>
    obtain ⟨ks, b, hk⟩ := exists_closedUpTo ht.1 ht.2
    exact passes_anchored ht.1 hk ho hm hw ha
  | @row shape rs _ ih =>
    rw [Route.source] at ha ⊢
    clear * - ih ho hm hw ha
    induction rs generalizing st with
    | nil =>
      refine ⟨st, .done st, ⟨ho, ?_, ?_⟩, ha, ?_⟩
      · rw [hm]; trivial
      · simp [hm]
      · simp [Route.groups, Route.atLeaves, Route.atAllLeaves]
    | cons r rs ihs =>
      cases rs with
      | nil =>
        have join : ['|'].intercalate (Route.sources o [r]) = r.source o := by
          simp [Route.sources, List.intercalate]
        rw [join] at ha ⊢
        obtain ⟨nx, h1, h2, h3, h4⟩ := ih r (by simp) ho hm hw ha
        refine ⟨nx, h1, h2, h3, h4.trans ?_⟩
        simp [Route.groups, Route.atLeaves, Route.atAllLeaves]
      | cons r' rs =>
        have join : ['|'].intercalate (Route.sources o (r :: r' :: rs)) =
            r.source o ++ '|' :: ['|'].intercalate (Route.sources o (r' :: rs)) :=
          intercalate_cons _ _ _
        rw [join, List.append_assoc] at ha
        obtain ⟨m, h1, h2, ha, h4⟩ := ih r (by simp) ho hm (.inr ⟨_, rfl⟩) ha
        obtain ⟨s, b1, b2, b3, b4, b5, ha⟩ := passes_bar h2 ha
        obtain ⟨pos, -, -⟩ := h1.sees (by rw [hm]; trivial)
        obtain ⟨nx, i1, i2, i3, i4⟩ := ihs (fun q hq => ih q (by simp [hq])) b2 b3 ha
        refine ⟨nx, ?_, i2, i3, ?_⟩
        · rw [join]; exact h1.append (b1.append i1)
        · rw [i4, b4, h4, b5, pos, List.append_assoc]
          rfl

/-! ## Compiling a row -/

theorem length_anchored (o : Options) (source : Text) :
    source.length + 1 ≤ (o.anchored source).length := by
  obtain ⟨e, -, h⟩ := anchored_eq o source
  rw [h, List.length_cons, List.length_append]
  omega

theorem openedAt_bounds (o : Options) (base : Nat) (t : Text) :
    ∀ x ∈ openedAt base t,
      base ≤ x.1 ∧ x.1 < base + (o.anchored (draft t).source).length := by
  intro x hx
  obtain ⟨⟨i, p⟩, hi, rfl⟩ := List.mem_map.1 hx
  have := (openedFrom_bounds hi).2
  have := length_anchored o (draft t).source
  simp only [draft] at *
  omega

theorem groupsAt_eq (base : Nat) (t : Text) : groupsAt base t =
    (openings (draft t).source).map fun g => { g with index := base + 1 + g.index } :=
  openingsFrom_shift (base + 1) 0 (draft t).source

theorem groupsAt_bounds (o : Options) (base : Nat) (t : Text) :
    ∀ g ∈ groupsAt base t,
      base ≤ g.index ∧ g.index < base + (o.anchored (draft t).source).length := by
  intro g hg
  have := openingsFrom_bounds _ _ g hg
  have := length_anchored o (draft t).source
  omega

theorem Key.IsFor.append_right {A : List (Nat × Param)} {k : Key} {g : Group} (h : k.IsFor A g)
    {B : List (Nat × Param)} (hB : ∀ p, (g.index, p) ∉ B) : k.IsFor (A ++ B) g := by
  rcases h with ⟨p, hp, hk⟩ | ⟨hn, hc⟩
  · exact .inl ⟨p, List.mem_append_left B hp, hk⟩
  · exact .inr ⟨fun p hp => (List.mem_append.1 hp).elim (hn p) (hB p), hc⟩

theorem Key.IsFor.append_left {B : List (Nat × Param)} {k : Key} {g : Group} (h : k.IsFor B g)
    {A : List (Nat × Param)} (hA : ∀ p, (g.index, p) ∉ A) : k.IsFor (A ++ B) g := by
  rcases h with ⟨p, hp, hk⟩ | ⟨hn, hc⟩
  · exact .inl ⟨p, List.mem_append_right A hp, hk⟩
  · exact .inr ⟨fun p hp => (List.mem_append.1 hp).elim (hA p) (hn p), hc⟩

theorem Key.IsFor.shift {params : List (Nat × Param)} {k : Key} {g : Group} (h : k.IsFor params g)
    (n : Nat) :
    k.IsFor (params.map fun x => (n + x.1, x.2)) { g with index := n + g.index } := by
  rcases h with ⟨p, hp, hk⟩ | ⟨hn, hc⟩
  · exact .inl ⟨p, List.mem_map.2 ⟨_, hp, rfl⟩, hk⟩
  · refine .inr ⟨fun p hp => ?_, hc⟩
    obtain ⟨⟨i, q⟩, hi, he⟩ := List.mem_map.1 hp
    simp only [Prod.mk.injEq, Nat.add_left_cancel_iff] at he
    obtain ⟨rfl, rfl⟩ := he
    exact hn q hi

theorem forall₂_imp_mem {α β : Type} {R S : α → β → Prop} {as : List α} {bs : List β}
    (h : List.Forall₂ R as bs) (hi : ∀ a, ∀ b ∈ bs, R a b → S a b) : List.Forall₂ S as bs := by
  induction h with
  | nil => exact .nil
  | cons hr _ ih => exact .cons (hi _ _ (by simp) hr) (ih fun a b hb => hi a b (by simp [hb]))

/-- What is known of a route that compiles. -/
structure Compiled (o : Options) (r : Route) (p : Progress) (q : Pattern) (p' : Progress) :
    Prop where
  read : Pattern.read o.flags (r.source o) = .ok q
  leaves : r.Only fun t => IsCalm t ∧ Accepted o t
  keys : ∃ added, p'.keys = p.keys ++ added ∧
    ∀ base, List.Forall₂ (Key.IsFor (r.opened o base)) added (r.groups o base)

theorem conclude_ok {p p' : Progress} {flags : Flags} {route : Route} {source : Text}
    {q : Pattern} (h : p.conclude flags route source = (.ok q, p')) :
    Pattern.read flags source = .ok q ∧ p'.keys = p.keys := by
  unfold Progress.conclude at h
  split at h
  · next hq => cases h; exact ⟨hq, rfl⟩
  · cases h

/-- A template whose anchored expression is read has its pattern, whatever has been compiled
before. -/
theorem compile_of_read {o : Options} {t : Text} {q : Pattern}
    (h : Pattern.read o.flags (o.anchored (draft t).source) = .ok q) (p : Progress) :
    (compile o (.template t) p).1 = .ok q := by
  rw [compile, compileTemplate, Progress.conclude, h]

theorem accepts_of_read {flags : Flags} {source : Text} {q : Pattern}
    (h : Pattern.read flags source = .ok q) : Accepts (start flags) source := by
  obtain ⟨-, st, hr, hf⟩ := pattern_read_eq_ok.1 h
  exact ⟨st, q.toParsed, hr, hf⟩

theorem compiled_template {o : Options} {t : Text} {p p' : Progress} {q : Pattern}
    (ht : IsCalm t) (h : compileTemplate o t p = (.ok q, p')) :
    Compiled o (.template t) p q p' := by
  obtain ⟨hq, hk⟩ := conclude_ok h
  refine ⟨hq, .template ⟨ht, accepts_of_read hq⟩, _, hk.trans (Progress.keys_collect _ _ _), ?_⟩
  intro base
  have own := (assign_forall₂ (draft t).named (Key.nextNumber p.keys) (openings (draft t).source)).imp
    fun _ _ => isFor_of_gives
  rw [Route.groups, Route.atLeaves, groupsAt_eq, List.forall₂_map_right_iff]
  exact own.imp fun k g hk => hk.shift (base + 1)

/-- The sources and keys of a row: what is at one route does not meddle with the others, since each
has its own part of the source. -/
theorem compiled_row {o : Options} {rs : List Route} (hs : ∀ r ∈ rs, r.Only IsSimple)
    (ih : ∀ r ∈ rs, ∀ {p p' q}, compile o r p = (.ok q, p') → Compiled o r p q p')
    {p p' : Progress} {sources : List Text} (h : compileAll o rs p = (.ok sources, p')) :
    sources = Route.sources o rs ∧ (∀ r ∈ rs, r.Only fun t => IsCalm t ∧ Accepted o t) ∧
      ∃ added, p'.keys = p.keys ++ added ∧ ∀ base, List.Forall₂
        (Key.IsFor (Route.atAllLeaves openedAt o base rs)) added
        (Route.atAllLeaves groupsAt o base rs) := by
  induction rs generalizing p sources with
  | nil =>
    rw [compileAll] at h
    cases h
    exact ⟨rfl, by simp, [], by simp, fun base => .nil⟩
  | cons r rs ihs =>
    rw [compileAll] at h
    split at h
    · next q p1 h1 =>
      split at h
      · next ss p2 h2 =>
        cases h
        obtain ⟨read, leaves, added, hk, keys⟩ := ih r (by simp) h1
        obtain ⟨rfl, leaves', added', hk', keys'⟩ :=
          ihs (fun s hm => hs s (by simp [hm])) (fun s hm => ih s (by simp [hm])) h2
        refine ⟨?_, ?_, added ++ added', ?_, fun base => ?_⟩
        · rw [Route.sources, (pattern_read_eq_ok.1 read).1]
        · intro s hm
          rcases List.mem_cons.1 hm with rfl | hm
          · exact leaves
          · exact leaves' s hm
        · rw [hk', hk, List.append_assoc]
        · have later : (Route.row .list rs).Only fun t => IsCalm t ∧ Accepted o t := .row leaves'
          have opened := fun b => atLeaves_bounds later (openedAt_bounds o) b
          have groups := fun b => atLeaves_bounds later (groupsAt_bounds o) b
          refine List.rel_append (forall₂_imp_mem (keys base) fun k g hg hk => ?_)
            (forall₂_imp_mem (keys' _) fun k g hg hk => ?_)
          · refine hk.append_right fun x hx => ?_
            have := (atLeaves_bounds leaves (groupsAt_bounds o) base g hg).2
            have := (opened _ (g.index, x) hx).1
            omega
          · refine hk.append_left fun x hx => ?_
            have := (atLeaves_bounds leaves (openedAt_bounds o) base (g.index, x) hx).2
            have := (groups _ g hg).1
            omega
      · cases h
    · cases h

theorem compiled_route {o : Options} {r : Route} {p p' : Progress} {q : Pattern}
    (hr : r.Only IsSimple) (h : compile o r p = (.ok q, p')) : Compiled o r p q p' := by
  induction hr generalizing p p' q with
  | template ht =>
    rw [compile] at h
    exact compiled_template ht.calm h
  | @row shape rs hs ih =>
    rw [compile] at h
    split at h
    · next sources p1 h1 =>
      obtain ⟨rfl, leaves, added, hk, keys⟩ := compiled_row hs (fun r hm => ih r hm) h1
      obtain ⟨hq, hk'⟩ := conclude_ok h
      exact ⟨hq, .row leaves, added, hk'.trans hk, keys⟩
    · cases h

/-- The capture groups of a compiled route are those that the scanner finds in its templates. -/
theorem groups_route {o : Options} {r : Route} {q : Pattern}
    (hr : r.Only fun t => IsCalm t ∧ Accepted o t)
    (h : Pattern.read o.flags (r.source o) = .ok q) : q.groups = r.groups o 0 := by
  obtain ⟨-, st, reads, hf⟩ := pattern_read_eq_ok.1 h
  have accepts : Accepts (start o.flags) (r.source o ++ []) := by
    rw [List.append_nil]; exact ⟨st, _, reads, hf⟩
  obtain ⟨nx, pass, rests, -, found⟩ :=
    passes_route hr (start_outside o) rfl (.inl rfl) accepts
  obtain rfl := pass.reads.unique reads
  obtain ⟨-, placed, -⟩ := pass.sees trivial
  have groups : q.groups = nx.scanned nx.pos [] := groups_of_finish placed hf
  rw [groups, scanned_nil rests.place rests.entered, found]
  rfl

/-- The scanner finds the group of every parameter of a route. -/
theorem group_of_opened {o : Options} {r : Route} (hr : r.Only fun t => IsCalm t ∧ Accepted o t)
    (base : Nat) : ∀ x ∈ r.opened o base, ∃ g ∈ r.groups o base, g.index = x.1 := by
  induction hr generalizing base with
  | @template t ht =>
    rintro x hx
    obtain ⟨⟨i, p⟩, hi, rfl⟩ := List.mem_map.1 hx
    obtain ⟨as, bs, hk, rfl⟩ := mem_openedFrom.1 hi
    obtain ⟨ks, b, closed⟩ := exists_closedUpTo ht.1 ht.2
    obtain ⟨e, -, he⟩ := anchored_eq o (draft t).source
    have accepts := ht.2
    rw [Accepted, he] at accepts
    obtain ⟨g, hg, index⟩ := opening_mem rfl ht.1 hk (closed.before hk) accepts
    rw [Route.groups, Route.atLeaves, groupsAt_eq]
    exact ⟨_, List.mem_map.2 ⟨g, hg, rfl⟩, by simp [index]⟩
  | @row shape rs _ ih =>
    simp only [Route.opened, Route.groups, Route.atLeaves] at ih ⊢
    clear * - ih
    induction rs generalizing base with
    | nil => simp [Route.atAllLeaves]
    | cons r rs ihs =>
      intro x hx
      rw [Route.atAllLeaves, List.mem_append] at hx
      rw [Route.atAllLeaves]
      rcases hx with hx | hx
      · obtain ⟨g, hg, h⟩ := ih r (by simp) base x hx
        exact ⟨g, List.mem_append_left _ hg, h⟩
      · obtain ⟨g, hg, h⟩ := ihs (fun s hs => ih s (by simp [hs])) _ x hx
        exact ⟨g, List.mem_append_right _ hg, h⟩

/-- The group of a parameter stands in the source at its index. -/
theorem source_at_opened {o : Options} {P : Text → Prop} {r : Route} (hr : r.Only P) (base : Nat) :
    ∀ x ∈ r.opened o base, ∃ guard before after,
      r.source o = before ++ (x.2.group guard ++ after) ∧ x.1 = base + before.length := by
  induction hr generalizing base with
  | @template t _ =>
    rintro x hx
    obtain ⟨⟨i, p⟩, hi, rfl⟩ := List.mem_map.1 hx
    obtain ⟨as, bs, hk, rfl⟩ := mem_openedFrom.1 hi
    obtain ⟨e, -, he⟩ := anchored_eq o (draft t).source
    have source : (draft t).source = (as.foldl Draft.push {}).source ++
        (p.written (as.foldl Draft.push {}).guard ++
          writtenFrom (((as.foldl Draft.push {}).push (.param p)).guard) bs) := by
      rw [draft, hk, List.foldl_append, source_foldl, writtenFrom]
      rfl
    refine ⟨(as.foldl Draft.push {}).guard, '^' :: ((as.foldl Draft.push {}).source ++ p.opening),
      p.restGroup ++ (')' :: (if p.marks.optional then ['?'] else []) ++
        (writtenFrom ((as.foldl Draft.push {}).push (.param p)).guard bs ++ e)), ?_, ?_⟩
    · rw [Route.source, he, source, Param.written]
      simp only [List.append_assoc, List.cons_append]
    · simp only [List.length_cons, List.length_append]
      omega
  | @row shape rs _ ih =>
    simp only [Route.opened, Route.atLeaves, Route.source] at ih ⊢
    clear * - ih
    induction rs generalizing base with
    | nil => simp [Route.atAllLeaves]
    | cons r rs ihs =>
      intro x hx
      rw [Route.atAllLeaves, List.mem_append] at hx
      have join : ∃ u, ['|'].intercalate (Route.sources o (r :: rs)) = r.source o ++ u ∧
          (rs ≠ [] → u = '|' :: ['|'].intercalate (Route.sources o rs)) := by
        cases rs with
        | nil => exact ⟨[], by simp [Route.sources, List.intercalate], by simp⟩
        | cons r' rs => exact ⟨_, intercalate_cons _ _ _, fun _ => rfl⟩
      obtain ⟨u, hu, hj⟩ := join
      rw [hu]
      rcases hx with hx | hx
      · obtain ⟨guard, before, after, h1, h2⟩ := ih r (by simp) base x hx
        exact ⟨guard, before, after ++ u, by rw [h1]; simp, h2⟩
      · have some : rs ≠ [] := by rintro rfl; cases hx
        obtain ⟨guard, before, after, h1, h2⟩ := ihs (fun s hs => ih s (by simp [hs])) _ x hx
        refine ⟨guard, r.source o ++ '|' :: before, after, ?_, ?_⟩
        · rw [hj some, h1]; simp
        · rw [h2, List.length_append, List.length_cons]; omega

/-! ## The keys of a route -/

/-- A route of templates that compiles adds one key for every capture group of its pattern, in
order. A parameter's key stands at the group that the parameter's capture opens, every other key at
a group that no parameter opens and says the group's name, or else a number. -/
theorem compile_templates {o : Options} {r : Route} {p p' : Progress} {q : Pattern}
    (hr : r.Only IsSimple) (h : compile o r p = (.ok q, p')) :
    q.source = r.source o ∧
      (∃ added, p'.keys = p.keys ++ added ∧
        List.Forall₂ (Key.IsFor (r.opened o 0)) added q.groups) ∧
      (∀ x ∈ r.opened o 0, (∃ g ∈ q.groups, g.index = x.1) ∧ ∃ guard before after,
        q.source = before ++ (x.2.group guard ++ after) ∧ x.1 = before.length) ∧
      (r.opened o 0).Pairwise (·.1 < ·.1) ∧ q.groups.Pairwise (·.index < ·.index) := by
  obtain ⟨read, leaves, added, hk, keys⟩ := compiled_route hr h
  have source := (pattern_read_eq_ok.1 read).1
  have groups := groups_route leaves read
  rw [source, groups]
  refine ⟨rfl, ⟨added, hk, keys 0⟩, fun x hx => ⟨group_of_opened leaves 0 x hx, ?_⟩, ?_, ?_⟩
  · obtain ⟨guard, before, after, h1, h2⟩ := source_at_opened hr 0 x hx
    exact ⟨guard, before, after, h1, by omega⟩
  · refine atLeaves_pairwise Prod.fst hr (openedAt_bounds o) (fun base t => ?_) 0
    rw [openedAt, List.pairwise_map]
    exact (openedFrom_pairwise {} (tokens t)).imp fun h => by omega
  · exact atLeaves_pairwise Group.index hr (groupsAt_bounds o)
      (fun base t => openingsFrom_pairwise _ _) 0

theorem isSimple_of_not_mem {t : Text} {c : Char} (hc : c ∈ ['(', '?']) (h : c ∉ t) :
    IsSimple t := by
  have clear : ∀ u, c ∈ u → ¬ u <:+: t := fun u hu hi => h (hi.subset hu)
  have marks : c = '(' ∨ c = '?' := by simpa using hc
  refine ⟨clear _ ?_, clear _ ?_, ?_⟩
  · rcases marks with rfl | rfl <;> simp
  · rcases marks with rfl | rfl <;> simp
  · intro letters _ hi
    have mem : Piece.char c ∈ pieces t := hi.subset (by rcases marks with rfl | rfl <;> simp)
    rw [← text_pieces t] at h
    exact h (List.mem_flatMap.2 ⟨_, mem, by simp [Piece.text]⟩)

theorem compile_templates_row :
    ∃ q p', compile {} (.row .list [.template "/:a(\\d+)".toList, .template "/b*/(c)".toList]) {} =
        (.ok q, p') ∧
      List.Forall₂ (Key.IsFor (Route.opened {} 0
          (.row .list [.template "/:a(\\d+)".toList, .template "/b*/(c)".toList])))
        p'.keys q.groups := by
  have simple : (Route.row .list
      [.template "/:a(\\d+)".toList, .template "/b*/(c)".toList]).Only IsSimple := by
    refine .row fun r hr => ?_
    simp only [List.mem_cons, List.not_mem_nil, or_false] at hr
    rcases hr with rfl | rfl <;> exact .template (@isSimple_of_not_mem _ '?' (by decide) (by decide))
  have compiles : ((compile {} (.row .list
      [.template "/:a(\\d+)".toList, .template "/b*/(c)".toList]) {}).1.toOption).isSome := by
    decide +kernel
  rcases hc : compile {} (.row .list
      [.template "/:a(\\d+)".toList, .template "/b*/(c)".toList]) {} with ⟨e | q, p'⟩
  · rw [hc] at compiles; cases compiles
  · obtain ⟨-, ⟨added, hk, keys⟩, -⟩ := compile_templates simple hc
    exact ⟨q, p', rfl, by rwa [hk]⟩

end RoutePattern
