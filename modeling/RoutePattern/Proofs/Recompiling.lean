import RoutePattern.Proofs.Numbering
import RoutePattern.Proofs.Routes

/-! # A template's pattern, passed through

The keys of a template are those of its expression, and the keys of a pattern are those of its
finished source. The anchors between the two neither open a group, nor hide one, nor name one.

* `openingsFrom_append`: what stands behind an expression leaves its groups as they are, wherever
  the expression ends for the scanner.
* `openings_anchored`: the groups of an anchored expression.
* `Key.Returns`: a key that a template gave to a group, and the key that its pattern gives to it.
* `keys_of_pattern`: the keys of a template and of its pattern, one by one.
-/

namespace RoutePattern

open Scan

/-! ## Headers -/

namespace Scan.Header

variable {slash : Bool} {e r : Text}

/-- What stands behind an expression changes no header in it, unless a comment is left open. -/
theorem read_append (he : e ∈ endings slash) (hs : slash = true → endsInSlash ('(' :: r)) :
    read ('(' :: (r ++ e)) = read ('(' :: r) ∨ ∃ s, r = '?' :: '#' :: s ∧ ')' ∉ s := by
  -- Where the expression ends within a header, the next character does not go on with it.
  have next : ¬ endsInSlash ('(' :: r) → ∃ c u, e = c :: u ∧ c ∉ ['?', '#', 'P', '<', '=', '!'] := by
    intro h
    obtain rfl : slash = false := Bool.eq_false_iff.2 (h ∘ hs)
    obtain ⟨c, u, rfl, hc⟩ := ending_cons he
    refine ⟨c, u, rfl, ?_⟩
    rcases hc with rfl | rfl | ⟨_, rfl, -⟩ <;> decide
  have named := readName_append (not_mem_endings (by decide) he)
  simp only [List.mem_cons, List.not_mem_nil, or_false, not_or] at next
  cases r with
  | nil =>
    obtain ⟨c, u, rfl, hc⟩ := next (by decide)
    exact .inl (read_plain hc.1 u)
  | cons c s =>
  by_cases hc : c = '?'
  swap
  · left
    rw [List.cons_append, read_plain hc, read_plain hc]
  subst hc
  cases s with
  | nil =>
    obtain ⟨c, u, rfl, hc⟩ := next (by decide)
    exact .inl (read_silent (by simp [hc]) u)
  | cons c s =>
  by_cases hash : c = '#'
  · subst hash
    by_cases hs : ')' ∈ s
    · exact .inl (readComment_append hs 3 e)
    · exact .inr ⟨s, rfl, hs⟩
  left
  by_cases hp : c = 'P'
  · subst hp
    cases s with
    | nil =>
      obtain ⟨c, u, rfl, hc⟩ := next (by decide)
      exact read_silentP hc.2.2.2.1 u
    | cons c s =>
      by_cases hc : c = '<'
      · subst hc
        exact named 4 s
      · rw [List.cons_append, List.cons_append, List.cons_append, read_silentP hc, read_silentP hc]
  by_cases hl : c = '<'
  · subst hl
    cases s with
    | nil =>
      obtain ⟨c, u, rfl, hc⟩ := next (by decide)
      exact (read_name hc.2.2.2.2.1 hc.2.2.2.2.2 u).trans (named 3 [])
    | cons c s =>
      by_cases hc : c = '=' ∨ c = '!'
      · rcases hc with rfl | rfl <;> rfl
      · rw [not_or] at hc
        rw [List.cons_append, List.cons_append, List.cons_append, read_name hc.1 hc.2,
          read_name hc.1 hc.2]
        exact named 3 (c :: s)
  have other : c ∉ ['#', 'P', '<'] := by simp [hash, hp, hl]
  rw [List.cons_append, List.cons_append, read_silent other,
    read_silent other]

end Scan.Header

/-! ## Expressions -/

/-- What is left of an expression ends as the whole does. -/
theorem endsInSlash_drop {t : Text} {n : Nat} (h : endsInSlash t) :
    t.drop n = [] ∨ endsInSlash (t.drop n) := by
  by_cases hn : t.drop n = []
  · exact .inl hn
  · rw [← List.take_append_drop n t, endsInSlash_append hn] at h
    exact .inr h

/-- A comment that takes the rest of a text leaves nothing to the scanner. -/
theorem openingsFrom_comment {t : Text} (h : ')' ∉ t.dropLast) (i : Nat) :
    openingsFrom i ('(' :: '?' :: '#' :: t) = [] := by
  have read : Header.read ('(' :: '?' :: '#' :: t) = ⟨.silent, 3 + t.length⟩ :=
    Header.readComment_last h 3
  rw [openingsFrom_group, read, List.drop_eq_nil_of_le (by simp only [List.length_cons]; omega),
    openingsFrom_nil]
  rfl

/-- A group opens as it did, if the scan behind its header goes on as it did. -/
theorem openingsFrom_group_append {slash : Bool} {e r : Text} {i n : Nat} (he : e ∈ endings slash)
    (hs : slash = true → endsInSlash ('(' :: r)) (hn : n = (Header.read ('(' :: r)).size)
    (later : openingsFrom (i + n) (('(' :: r).drop n ++ e) =
      openingsFrom (i + n) (('(' :: r).drop n)) :
    openingsFrom i ('(' :: (r ++ e)) = openingsFrom i ('(' :: r) := by
  rcases Header.read_append he hs with same | ⟨s, rfl, comment⟩
  · rw [openingsFrom_group, openingsFrom_group i r, same, ← hn, ← later, ← List.cons_append,
      List.drop_append_of_le_length]
    rw [hn]
    exact Header.read_size_le r
  · have closes : ∀ slash, ∀ e ∈ endings slash, ')' ∉ e.dropLast := by decide
    have comment' : ')' ∉ (s ++ e).dropLast := by
      rw [List.dropLast_append]
      split
      · exact fun h => comment ((List.dropLast_sublist s).subset h)
      · exact fun h => (List.mem_append.1 h).elim comment (closes slash e he)
    have open_ : ')' ∉ s.dropLast := fun h => comment ((List.dropLast_sublist s).subset h)
    exact (openingsFrom_comment comment' i).trans (openingsFrom_comment open_ i).symm

/-- The groups of an expression are the same with what stands behind it. Induction on the scan: if
the expression ends with a slash, so does what is left of it. -/
theorem openingsFrom_append {slash : Bool} {e t : Text} (i : Nat) (he : e ∈ endings slash)
    (hs : slash = true → t = [] ∨ endsInSlash t) : openingsFrom i (t ++ e) = openingsFrom i t := by
  have whole : ∀ {c : Char} {r : Text}, (slash = true → c :: r = [] ∨ endsInSlash (c :: r)) →
      slash = true → endsInSlash (c :: r) := by
    intro c r h ht
    exact (h ht).resolve_left (List.cons_ne_nil c r)
  have rest : ∀ {c : Char} {r : Text} (n : Nat),
      (slash = true → c :: r = [] ∨ endsInSlash (c :: r)) →
      slash = true → (c :: r).drop n = [] ∨ endsInSlash ((c :: r).drop n) := by
    intro c r n h ht
    exact endsInSlash_drop (whole h ht)
  induction i, t using openingsFrom.induct with
  | case1 i =>
    rw [openingsFrom_nil]
    exact openingsFrom_ending (b := false) he nofun i
  | case2 i r ih =>
    cases r with
    | nil =>
      have open_ : slash = false := Bool.eq_false_iff.2 fun h => absurd (whole hs h) (by decide)
      exact (openingsFrom_ending (b := true) he (fun _ => open_) i).trans
        (openingsFrom_stray true i).symm
    | cons c r =>
      rw [List.cons_append, List.cons_append, openingsFrom_escape, openingsFrom_escape]
      exact ih (rest 2 hs)
  | case3 i r n ih =>
    rw [List.cons_append, openingsFrom_class, openingsFrom_class]
    rcases classSize_cases r with ⟨m, hm, size⟩ | ⟨hm, size⟩
    · obtain ⟨later, bound⟩ := classExtent?_append hm e
      have ih := ih (rest n hs)
      rw [show n = m + 1 from size, List.drop_succ_cons] at ih
      rw [later, hm, openingsAfter, openingsAfter, List.drop_append_of_le_length bound,
        Nat.add_right_comm]
      exact ih
    · rw [hm, classExtent?_append_none hm (not_mem_endings (by decide) he)]
      rfl
  | case4 i r h hc ih => exact openingsFrom_group_append he (whole hs) rfl (ih (rest _ hs))
  | case5 i r h hc ih => exact openingsFrom_group_append he (whole hs) rfl (ih (rest _ hs))
  | case6 i c r h1 h2 h3 ih =>
    have plain : ∀ s, openingsFrom i (c :: s) = openingsFrom (i + 1) s :=
      openingsFrom_plain (by rintro rfl; exact h1 rfl) (by rintro rfl; exact h2 rfl)
        (by rintro rfl; exact h3 rfl) i
    rw [List.cons_append, plain, plain]
    exact ih (rest 1 hs)

/-- The groups of an anchored expression are those of the expression, one code point later. -/
theorem openings_anchored (o : Options) (source : Text) :
    openings (o.anchored source) = (openings source).map fun g => { g with index := 1 + g.index } := by
  rw [anchored_ending, openings, openingsFrom_plain (by decide) (by decide) (by decide),
    openingsFrom_append 1 (ending_mem o _) .inr, openings, ← openingsFrom_shift]

/-! ## Keys -/

/-- What becomes of the key that a template gave to a group of its expression: the pattern gives the
group a key again, for itself and one code point later. A parameter's name is lost, since it does
not stand in the expression; the name of a group stays. -/
structure Key.Returns (params : List (Nat × Param)) (g : Group) (k l : Key) : Prop where
  first : k.IsFor params g
  calls : l.Calls g
  offset : l.offset = g.index + 1
  same : (∀ p, (g.index, p) ∉ params) →
    l.offset = k.offset + 1 ∧ ∀ name, k.name = .text name → l.name = .text name

theorem returns_of_gives {t : Text} {g : Group} {k l : Key} (hk : (draft t).named.Gives k g)
    (hl : l.StandsFor { g with index := 1 + g.index }) : Key.Returns (opened t) g k l := by
  obtain ⟨offset, calls⟩ := hl
  have offset : l.offset = g.index + 1 := by
    rw [offset]
    show ((1 + g.index : Nat) : Int) = g.index + 1
    omega
  have calls : l.Calls g := calls
  refine ⟨isFor_of_gives hk, calls, offset, fun own => ?_⟩
  rcases hk with known | ⟨-, index, called⟩
  · obtain ⟨p, mem, -⟩ := opened_of_key? known
    exact absurd mem (own p)
  · refine ⟨by rw [offset, index], fun name hname => ?_⟩
    unfold Key.Calls at called calls
    cases hg : g.name with
    | none =>
      rw [hg] at called
      obtain ⟨n, hn⟩ := called
      rw [hname] at hn
      cases hn
    | some own =>
      rw [hg] at called calls
      rw [calls, ← called, hname]

/-- The pattern of a template comes back when it is compiled, with one key for every key of the
template: at each place, both are keys of the same group of the expression. Keys without a name are
numbered from 0 on. -/
theorem keys_of_pattern {o o' : Options} {t : Text} {q : Pattern} {p : Progress}
    (h : compile o (.template t) {} = (.ok q, p)) :
    ∃ p' : Progress, compile o' (.pattern q) {} = (.ok q, p') ∧
      p.keys.length = (openings (draft t).source).length ∧
      p'.keys.length = (openings (draft t).source).length ∧
      (∀ (i : Nat) (g : Group) (k l : Key), (openings (draft t).source)[i]? = some g →
        p.keys[i]? = some k → p'.keys[i]? = some l → Key.Returns (opened t) g k l) ∧
      ∃ size, Key.numbers p'.keys = Key.series 0 size := by
  rw [compile] at h
  obtain ⟨hq, keys⟩ := conclude_ok h
  rw [Progress.keys_collect, List.nil_append] at keys
  have source : q.source = o.anchored (draft t).source := (Regex.Reader.pattern_read_eq_ok.1 hq).1
  have first := assign_forall₂ (draft t).named (Key.nextNumber []) (openings (draft t).source)
  rw [← keys] at first
  refine ⟨_, by rw [compile], first.length_eq, ?_⟩
  have again := assign_nil_forall₂ (Key.nextNumber []) (openings q.source)
  have numbered := @numbers_assign [] nofun (Key.nextNumber []) (openings q.source)
  rw [Progress.keys_collect, List.nil_append]
  generalize (assign [] (Key.nextNumber []) (openings q.source)).map Assigned.key = ls at *
  rw [source, openings_anchored] at again
  refine ⟨by rw [again.length_eq, List.length_map], ?_, numbered⟩
  intro i g k l hg hk hl
  rw [List.forall₂_map_right_iff] at again
  obtain ⟨hi, rfl⟩ := List.getElem?_eq_some_iff.1 hg
  obtain ⟨hi', rfl⟩ := List.getElem?_eq_some_iff.1 hk
  obtain ⟨hi'', rfl⟩ := List.getElem?_eq_some_iff.1 hl
  exact returns_of_gives (first.get hi' hi) (again.get hi'' hi)

theorem keys_of_pattern_mixed :
    ∃ q p, compile {} (.template "/:a-(?P<n>b)*(c)".toList) {} = (.ok q, p) ∧
      ∃ p' : Progress, compile {} (.pattern q) {} = (.ok q, p') ∧ p'.keys.length = p.keys.length ∧
        ∀ k l, p.keys[1]? = some k → p'.keys[1]? = some l →
          Key.Returns (opened "/:a-(?P<n>b)*(c)".toList) ⟨14, some ['n']⟩ k l := by
  have compiles : ((compile {} (.template "/:a-(?P<n>b)*(c)".toList) {}).1.toOption).isSome := by
    decide +kernel
  have second : (openings (draft "/:a-(?P<n>b)*(c)".toList).source)[1]? = some ⟨14, some ['n']⟩ := by
    decide +kernel
  rcases hc : compile {} (.template "/:a-(?P<n>b)*(c)".toList) {} with ⟨e | q, p⟩
  · rw [hc] at compiles
    cases compiles
  · obtain ⟨p', again, size, size', returns, -⟩ := @keys_of_pattern {} {} _ _ _ hc
    exact ⟨q, p, rfl, p', again, size'.trans size.symm, fun k l => returns 1 _ k l second⟩

end RoutePattern
