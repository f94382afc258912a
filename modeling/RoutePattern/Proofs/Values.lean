import RoutePattern.Proofs.Match.Rows
import RoutePattern.Proofs.Reader.Bodies
import RoutePattern.Proofs.Routes
import RoutePattern.Proofs.Template.Guarded

/-! # What parameters capture

A parameter without a group of its own captures one or more characters up to the next slash, and up
to the next dot if it has a dot in front.

* `Param.Reads`: what the group of a parameter is read as; `reads_captures`: a group that captures
  such characters only.
* `group_of_param`: the number of its group, and the bodies of the group in the expression.
* `values_of_param`: what the group has captured in a match, by what it is read as.
* `captures_of_param`: what it has captured, whatever stands in front of the parameter.
-/

namespace RoutePattern

open Scan Regex Regex.Reader

/-! ## Reading the group of a parameter -/

/-- A capture group without groups in it, in front of which all groups have been numbered. -/
theorem bodies_of_builds {s nx : State} {t : Text} {b : Regex} {g : Group} {G : Regex → Prop}
    (hn : s.Numbered) (h : Builds s t nx [.capture s.nextGroup b] [g]) (hb : b.nodes = [])
    (hG : G b) : nx.Bodies s.nextGroup G := by
  have around := h.around
  simp only [State.around, Prod.mk.injEq] at around
  obtain ⟨branches, frames, -⟩ := around
  have met : nx.groups.length = s.groups.length + 1 := by
    have found := congrArg List.length h.found
    simpa [State.found] using found
  refine ⟨fun c hc => ?_, fun hm => ?_, by rw [met]; exact Nat.le_refl _⟩
  · have split : nx.nodes = .capture s.nextGroup b :: s.nodes := by
      rw [State.nodes, h.items, branches, frames]
      simp [State.nodes, Regex.nodes, hb]
    rw [split, List.mem_cons] at hc
    rcases hc with hc | hc
    · rwa [(Regex.capture.inj hc).2]
    · have : s.groups.length + 1 ≤ s.groups.length := hn.nodes _ c hc
      omega
  · rw [State.openers, frames] at hm
    have : s.groups.length + 1 ≤ s.groups.length := hn.openers _ hm
    omega

/-- A parenthesis that opens a group is read as it is where the construct at hand has ended. -/
theorem ready_of_group {a : State} {c : Char} {v : Text} (ho : a.Outside) (hc : c ∈ ['[', '('])
    (ha : Accepts a ('(' :: c :: v)) :
    ∃ s, settle a = .ok s ∧ s.Ready ∧ s.mode = .items ∧ s.pos = a.pos ∧
      Accepts s ('(' :: c :: v) ∧ ∀ u nx, Reads s ('(' :: u) nx → Reads a ('(' :: u) nx := by
  have marks : ∀ c ∈ ['[', '('], c ∈ ['?', '.', '(', '['] := by decide
  obtain ⟨-, s, settled, items, outside, pos, hs, ha⟩ := open_group ho (marks c hc) ha
  have ready : s.Ready := ⟨.inl items, outside.verbose⟩
  have paren : step s (.plain '(') = .ok s.opening := by
    have rested : s.rested = s := by rw [State.rested, ← items, ← ready.verbose]
    rw [step_paren ready, rested]
  refine ⟨s, settled, ready, items, pos, (accepts_plain (by decide)).2 ⟨_, paren, ha⟩, ?_⟩
  intro u nx h
  obtain ⟨s', hs', rest⟩ := (reads_plain (by decide)).1 h
  obtain rfl := Except.ok.inj (paren.symm.trans hs')
  exact (reads_plain (by decide)).2 ⟨_, hs, rest⟩

/-- The group of a parameter is read as one without groups in it, whose body has a property. -/
def Param.Reads (x : Param) (g : Text) (G : Regex → Prop) : Prop :=
  ∀ {s : State} {v : Text}, s.Ready → Accepts s (x.group g ++ v) →
    ∃ nx b, Builds s (x.group g) nx [.capture s.nextGroup b] [⟨s.pos, none⟩] ∧ b.nodes = [] ∧ G b

/-- The body of the group of a parameter that has none of its own. -/
def Param.Captures (x : Param) (b : Regex) : Prop := ∃ c, b = .rep 1 none .lazy c ∧ Eats x.Admits c

theorem reads_captures {x : Param} {g : Text} (hx : x.capture = none) (hg : IsGuard g) :
    x.Reads g x.Captures := by
  intro s v ready ha
  have group : x.group g = x.defaultGroup g := by rw [Param.group, hx]
  rw [group] at ha ⊢
  obtain ⟨nx, b, build, nodes, eats⟩ :=
    builds_defaultGroup x ready (guardedAt_of_accepts x ready hg ha)
  exact ⟨nx, _, build, by simpa [Regex.nodes] using nodes, b, rfl, eats⟩

/-- The group of a parameter without one of its own gets the next number, and has one body. -/
theorem bodies_group {a : State} {x : Param} {g v : Text} {G : Regex → Prop}
    (hx : x.capture = none) (hg : IsGuard g) (hG : x.Reads g G) (ho : a.Outside)
    (hp : a.mode.Placed a.pos) (hn : a.Numbered) (ha : Accepts a (x.group g ++ v)) :
    ∃ i nx, Reads a (x.group g) nx ∧ nx.Bodies (i + 1) G ∧
      ∀ w, (a.scanned a.pos (x.group g ++ w))[i]? = some ⟨a.pos, none⟩ := by
  obtain ⟨c, u, hu, hc⟩ : ∃ c u, x.group g = '(' :: c :: u ∧ c ∈ ['[', '('] := by
    obtain ⟨c, u, hu, hc, -⟩ := spans_defaultGroup hg x
    exact ⟨c, u, by rw [Param.group, hx]; exact hu, hc⟩
  rw [hu] at ha
  obtain ⟨s, settled, ready, items, pos, ha, reads⟩ := ready_of_group ho hc ha
  obtain ⟨nx, b, build, nodes, body⟩ := hG (v := v) ready (by rw [hu]; exact ha)
  have numbered : s.Numbered := (effect_settle settled).numbered hn
  have bodies : nx.Bodies s.nextGroup G := bodies_of_builds numbered build nodes body
  refine ⟨s.groups.length, nx, ?_, bodies, fun w => ?_⟩
  · rw [hu]; exact reads _ nx (hu ▸ build.passes.reads)
  · obtain ⟨-, -, -, sees⟩ := scanned_settle hp settled
    have head : c ≠ '?' := by rintro rfl; exact absurd hc (by decide)
    have length : s.found.length = s.groups.length := List.length_map _
    rw [← sees _ fun _ _ => by rw [hu]; simp, State.scanned, items, hu, ← length]
    simp only [Mode.sight, List.cons_append]
    rw [openingsFrom_entered head, List.getElem?_append_right (Nat.le_refl _), pos]
    simp

/-! ## The group of a parameter -/

variable {t e : Text} {as bs : List Token} {x : Param}

/-- The group that a parameter without one of its own opens, by its number. -/
theorem group_of_param {flags : Flags} {st : State} {q : Parsed} {G : Regex → Prop}
    (hf : flags.verbose = false) (ht : IsCalm t) (hk : tokens t = as ++ .param x :: bs)
    (hcl : ∀ k ∈ as, k.IsClosed) (hx : x.capture = none) (hG : x.Reads (guardFrom [] as) G)
    (hr : Reads (start flags) ('^' :: ((draft t).source ++ e)) st) (hq : finish st = .ok q) :
    ∃ i, (openingsFrom 1 (draft t).source)[i]? =
        some ⟨1 + ((as.foldl Draft.push {}).source.length + x.opening.length), none⟩ ∧
      ∀ b, capture (i + 1) b ∈ q.tree.nodes → G b := by
  have accepts : Accepts (start flags) ('^' :: ((draft t).source ++ e)) := ⟨st, q, hr, hq⟩
  obtain ⟨m, pass, outside, placed, balanced, sees⟩ := leads_param hf ht hk hcl accepts
  have guard : IsGuard (guardFrom [] as) := isGuard_guardFrom isGuard_nil hcl
  have source : (draft t).source = writtenFrom [] as ++ (x.opening ++ (x.group (guardFrom [] as) ++
      (x.restGroup ++ (')' :: (if x.marks.optional then ['?'] else []) ++
        writtenFrom (Token.guardAfter (guardFrom [] as) (.param x)) bs)))) := by
    rw [source_split hk, Param.written]
    simp only [List.append_assoc, List.cons_append]
  have before : (as.foldl Draft.push {}).source = writtenFrom [] as := source_foldl {} as
  rw [source] at hr
  simp only [List.append_assoc, List.cons_append] at hr
  have here := pass.reads.rest hr
  obtain ⟨u, hu, spans⟩ := spans_opening x
  have opens : Accepts m (x.opening ++ _) := ⟨st, q, here, hq⟩
  rw [hu] at opens
  obtain ⟨-, a, pass', outside', -, ha⟩ := passes_group (by decide) spans outside opens
  rw [← hu] at pass'
  have numbered : a.Numbered :=
    (pass.append pass').reads.keeps numbered_step (numbered_start flags)
  obtain ⟨-, placed', sees'⟩ := pass'.sees placed
  obtain ⟨i, nx, reads, bodies, found⟩ :=
    bodies_group hx guard hG outside' placed' numbered ha
  have last := (reads.rest (pass'.reads.rest here)).keeps bodies_step bodies
  have pos : a.pos = 1 + ((writtenFrom [] as).length + x.opening.length) := by
    have start : (start flags).pos = 0 := rfl
    simp only [pass'.pos, pass.pos, start, List.length_cons]
    omega
  refine ⟨i, ?_, bodies_of_finish last hq⟩
  rw [before, ← pos, ← found, sees', sees, source]

/-- What a group has captured at the end of a match. -/
theorem holds_match {q : Pattern} {s : Text} {m : Match} {i : Nat} {P : Text → Prop}
    (hm : q.match? s = some m) (hi : i < q.groups.length)
    (h : ∀ b, capture (i + 1) b ∈ q.tree.nodes → ∀ f s, ∀ t ∈ b.outcomes f s, P (s.between t)) :
    m.groups[i]? = some none ∨ ∃ v, m.groups[i]? = some (some v) ∧ P v := by
  obtain ⟨u, mem, rfl⟩ := outcome_of_match? hm
  have holds := holds_outcomes h q.flags _ (holds_before _ P s) u mem
  have group : (q.matchAt u).groups[i]? = some (u.captured? (i + 1)) := by
    simp [Pattern.matchAt, hi]
  rw [group]
  cases hv : u.captured? (i + 1) with
  | none => exact .inl rfl
  | some v => exact .inr ⟨v, rfl, holds.of_captured? hv⟩

/-- The key at the group of a parameter is the parameter's. -/
theorem isOf_of_isFor {o : Options} {n : Nat} {k : Key} {g : Group} (hx : (n, x) ∈ opened t)
    (hg : g.index = 1 + n) (hk : k.IsFor ((Route.template t).opened o 0) g) : k.IsOf x := by
  have opens : (g.index, x) ∈ (Route.template t).opened o 0 :=
    List.mem_map.2 ⟨_, hx, by simp [hg]⟩
  rcases hk with ⟨y, hy, hk⟩ | ⟨hn, -⟩
  · obtain ⟨⟨m, z⟩, hz, he⟩ := List.mem_map.1 hy
    simp only [Prod.mk.injEq, hg] at he
    obtain ⟨hm, rfl⟩ := he
    obtain rfl : m = n := by omega
    rwa [opened_unique hx hz]
  · exact absurd opens (hn x)

/-- In a match of a compiled template, the group of a parameter that has none of its own has captured
nothing, or a value that its body gives. The group's key is the parameter's. -/
theorem values_of_param {o : Options} {p p' : Progress} {q : Pattern} {G : Regex → Prop}
    {P : Text → Prop} (ht : IsCalm t) (h : compile o (.template t) p = (.ok q, p'))
    (hk : tokens t = as ++ .param x :: bs) (hc : x.capture = none)
    (hG : IsGuard (guardFrom [] as) → x.Reads (guardFrom [] as) G)
    (hP : ∀ b, G b → ∀ f s, ∀ t ∈ b.outcomes f s, P (s.between t)) :
    ∃ i g k, q.groups[i]? = some g ∧
      g.index = 1 + ((as.foldl Draft.push {}).source.length + x.opening.length) ∧
      p'.keys[p.keys.length + i]? = some k ∧ k.IsOf x ∧
      ∀ s m, q.match? s = some m → m.groups[i]? = some none ∨
        ∃ v, m.groups[i]? = some (some v) ∧ P v := by
  rw [compile] at h
  obtain ⟨read, leaves, added, keys, fits⟩ := compiled_template ht h
  obtain ⟨-, st, reads, finished⟩ := pattern_read_eq_ok.1 read
  have groups : q.groups = openingsFrom 1 (draft t).source := groups_route leaves read
  obtain ⟨ks, b, closed⟩ := exists_closedUpTo ht (accepts_of_read read)
  obtain ⟨e, -, anchored⟩ := anchored_eq o (draft t).source
  rw [Route.source, anchored] at reads
  have before := closed.before hk
  obtain ⟨i, hi, bodies⟩ := group_of_param rfl ht hk before hc
    (hG (isGuard_guardFrom isGuard_nil before)) reads finished
  rw [← groups] at hi
  obtain ⟨bound, at_i⟩ := List.getElem?_eq_some_iff.1 hi
  have fit : List.Forall₂ (Key.IsFor ((Route.template t).opened o 0)) added q.groups := by
    rw [groups]; exact fits 0
  obtain ⟨length, each⟩ := List.forall₂_iff_get.1 fit
  have own : added[i].IsOf x := isOf_of_isFor (mem_openedFrom.2 ⟨as, bs, hk, rfl⟩)
    (congrArg Group.index at_i) (each i (length ▸ bound) bound)
  refine ⟨i, _, added[i], hi, rfl, ?_, own, fun s m hm => ?_⟩
  · rw [keys, List.getElem?_append_right (by omega), Nat.add_sub_cancel_left]
    exact List.getElem?_eq_getElem _
  · exact holds_match hm bound fun b hb => hP b (bodies b hb)

/-- In a match of a compiled template, the group of a parameter that has none of its own has captured
nothing, or one or more characters. None of these is a slash, and with a dot in front of the
parameter none is a dot. The group's key is the parameter's. -/
theorem captures_of_param {o : Options} {p p' : Progress} {q : Pattern} {n : Nat}
    (ht : IsSimple t) (h : compile o (.template t) p = (.ok q, p')) (hx : (n, x) ∈ opened t)
    (hc : x.capture = none) :
    ∃ i g k, q.groups[i]? = some g ∧ g.index = 1 + n ∧
      p'.keys[p.keys.length + i]? = some k ∧ k.IsOf x ∧
      ∀ s m, q.match? s = some m → m.groups[i]? = some none ∨
        ∃ v, m.groups[i]? = some (some v) ∧ v ≠ [] ∧ '/' ∉ v ∧ (x.format → '.' ∉ v) := by
  obtain ⟨as, bs, hk, rfl⟩ := mem_openedFrom.1 hx
  refine values_of_param ht.calm h hk hc (reads_captures hc) fun b hb f s t ht => ?_
  obtain ⟨c, rfl, eats⟩ := hb
  obtain ⟨some, all⟩ := between_lazy eats f s t ht
  exact ⟨some, fun hs => (all _ hs).1 rfl, fun hf hd => (all _ hd).2 hf rfl⟩

theorem captures_of_param_format :
    ∃ q p', compile {} (.template "/x:a.:b".toList) {} = (.ok q, p') ∧
      ∃ i g k, q.groups[i]? = some g ∧ g.index = 1 + 27 ∧ p'.keys[0 + i]? = some k ∧
        k.IsOf ⟨⟨false, true, ['b']⟩, none, ⟨false, false⟩⟩ ∧
        ∀ s m, q.match? s = some m → m.groups[i]? = some none ∨
          ∃ v, m.groups[i]? = some (some v) ∧ v ≠ [] ∧ '/' ∉ v ∧ '.' ∉ v := by
  have compiles : ((compile {} (.template "/x:a.:b".toList) {}).1.toOption).isSome := by
    decide +kernel
  have opens : (27, ⟨⟨false, true, ['b']⟩, none, ⟨false, false⟩⟩) ∈ opened "/x:a.:b".toList := by
    decide +kernel
  rcases hc : compile {} (.template "/x:a.:b".toList) {} with ⟨e | q, p'⟩
  · rw [hc] at compiles; cases compiles
  · obtain ⟨i, g, k, h1, h2, h3, h4, values⟩ :=
      captures_of_param (@isSimple_of_not_mem _ '?' (by decide) (by decide)) hc opens rfl
    refine ⟨q, p', rfl, i, g, k, h1, h2, h3, h4, fun s m hm => ?_⟩
    exact (values s m hm).imp_right fun ⟨v, hv, ne, slash, dot⟩ => ⟨v, hv, ne, slash, dot rfl⟩

end RoutePattern
