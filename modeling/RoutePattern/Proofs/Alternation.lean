import RoutePattern.Proofs.Match.Captures
import RoutePattern.Proofs.Reader.Bodies
import RoutePattern.Proofs.Reader.Row
import RoutePattern.Proofs.Routes
import RoutePattern.Proofs.Template.Clean

/-! # Rows match as their first template that does

* `Match.among`: a match of one expression, among the groups of the others.
* `Pattern.IsRow`: the pattern of expressions in a row; `match?_eq_first`: it matches as the first of
  them that does.
* `match_row`: a row of templates, none of which refers to a group.
-/

namespace RoutePattern

open Regex Regex.Reader

variable {o : Options} {p p' : Progress} {q : Pattern} {t : Text} {f : Flags}

/-! ## One expression of a row -/

/-- The match of an expression that stands behind `k` groups, and in front of `l` others. -/
def Match.among (k l : Nat) (m : Match) : Match where
  stop := m.stop
  groups := List.replicate k none ++ m.groups ++ List.replicate l none

theorem length_groups {s : Text} {m : Match} (h : q.match? s = some m) :
    m.groups.length = q.groups.length := by
  obtain ⟨u, -, rfl⟩ := outcome_of_match? h
  simp [Pattern.matchAt]

theorem outcomes_moved (k : Nat) (r : Regex) :
    (r.renumber (moved k)).outcomes f (.before t) =
      (r.outcomes f (.before t)).map (Spot.renumber (moved k)) :=
  outcomes_renumber (moved_injective k) r f (.before t)

/-- A group that the expression does not have has captured nothing. -/
theorem captured?_of_read {fl : Flags} {source : Text} {u : Spot} {n : Nat}
    (hq : Pattern.read fl source = .ok q) (hn : q.groups.length < n)
    (hu : u ∈ q.tree.outcomes f (.before t)) : u.captured? n = none := by
  obtain ⟨-, st, reads, finished⟩ := pattern_read_eq_ok.1 hq
  have numbered : st.Numbered := reads.keeps (fun h hs => numbered_step h hs) (numbered_start fl)
  have none : ∀ b, capture n b ∈ q.tree.nodes → False := by
    intro b hb
    have := number_le_of_finish numbered finished hb
    omega
  have empty : u.Holds n fun _ => False :=
    holds_outcomes (fun b hb => (none b hb).elim) f (.before t) (holds_before n _ t) u hu
  cases h : u.captured? n with
  | none => rfl
  | some v => exact (empty.of_captured? h).elim

/-- The groups of the others have captured nothing. -/
theorem matchAt_renumber {e : Pattern} {u : Spot} {k l : Nat}
    (hq : q.groups.length = k + (e.groups.length + l))
    (hu : ∀ n, e.groups.length < n → u.captured? n = none) :
    q.matchAt (u.renumber (moved k)) = (e.matchAt u).among k l := by
  have first : ∀ i < k, (u.renumber (moved k)).captured? (i + 1) = none := by
    intro i hi
    refine Spot.captured?_renumber_none (fun m hm => ?_) u
    unfold moved at hm
    split at hm <;> omega
  have own : ∀ i, (u.renumber (moved k)).captured? (k + i + 1) = u.captured? (i + 1) := by
    intro i
    have number : k + i + 1 = moved k (i + 1) := by
      rw [moved_of_pos (by omega)]
      omega
    rw [number, Spot.captured?_renumber (moved_injective k)]
  have last : ∀ i, u.captured? (e.groups.length + i + 1) = none := fun i => hu _ (by omega)
  unfold Pattern.matchAt Match.among
  rw [hq, List.range_add, List.range_add]
  simp only [List.map_append, List.map_map, Function.comp_def, own, last, List.append_assoc]
  refine congrArg _ (congrArg₂ _ ?_ (congrArg _ ?_))
  · exact List.eq_replicate_iff.2 ⟨by simp, by simpa using first⟩
  · exact List.eq_replicate_iff.2 ⟨by simp, by simp⟩

/-! ## The first match -/

theorem joined_append (k : Nat) (as bs : List Pattern) :
    joined k (as ++ bs) = joined k as ++ joined (k + groupCount as) bs := by
  induction as generalizing k with
  | nil => rfl
  | cons a as ih =>
    rw [List.cons_append, joined, joined, ih, groupCount_cons, Nat.add_assoc, List.cons_append]

theorem groupCount_append (as bs : List Pattern) :
    groupCount (as ++ bs) = groupCount as + groupCount bs := by
  induction as with
  | nil => exact (Nat.zero_add _).symm
  | cons a as ih => rw [List.cons_append, groupCount_cons, groupCount_cons, ih, Nat.add_assoc]

/-- No expression of a row matches if none matches alone. -/
theorem outcomes_joined_eq_nil (k : Nat) (es : List Pattern) :
    ((joined k es).flatMap fun r => r.outcomes f (.before t)) = [] ↔
      ∀ e ∈ es, e.tree.outcomes f (.before t) = [] := by
  induction es generalizing k with
  | nil => simp [joined]
  | cons e es ih =>
    rw [joined, List.flatMap_cons, List.append_eq_nil_iff, ih, outcomes_moved,
      List.map_eq_nil_iff, List.forall_mem_cons]

/-- The pattern is that of the expressions in a row. -/
structure Pattern.IsRow (q : Pattern) (es : List Pattern) : Prop where
  flags : ∀ e ∈ es, e.flags = q.flags
  read : ∀ e ∈ es, ∃ fl source, Pattern.read fl source = .ok e
  groups : q.groups.length = groupCount es
  ways : ∀ f v, q.tree.outcomes f v = (joined 0 es).flatMap fun r => r.outcomes f v

namespace Pattern.IsRow

variable {es as bs : List Pattern} {e : Pattern} {m : Match}

theorem match?_eq_none (h : q.IsRow es) (t : Text) :
    q.match? t = none ↔ ∀ e ∈ es, e.match? t = none := by
  have alone : ∀ e ∈ es, (e.match? t = none ↔ e.tree.outcomes q.flags (.before t) = []) := by
    intro e he
    rw [match?_eq_head?, Option.map_eq_none_iff, List.head?_eq_none_iff, h.flags e he]
  rw [match?_eq_head?, Option.map_eq_none_iff, List.head?_eq_none_iff, h.ways,
    outcomes_joined_eq_nil]
  exact forall₂_congr fun e he => (alone e he).symm

theorem match?_eq_first (h : q.IsRow (as ++ e :: bs)) (has : ∀ a ∈ as, a.match? t = none)
    (he : e.match? t = some m) :
    q.match? t = some (m.among (groupCount as) (groupCount bs)) := by
  obtain ⟨fl, source, read⟩ := h.read e (by simp)
  rw [match?_eq_head?, h.flags e (by simp), Option.map_eq_some_iff] at he
  obtain ⟨u, hu, rfl⟩ := he
  have before : ((joined 0 as).flatMap fun r => r.outcomes q.flags (.before t)) = [] := by
    refine (outcomes_joined_eq_nil 0 as).2 fun a ha => ?_
    have none := has a ha
    rwa [match?_eq_head?, Option.map_eq_none_iff, List.head?_eq_none_iff,
      h.flags a (by simp [ha])] at none
  have first : (q.tree.outcomes q.flags (.before t)).head? =
      some (u.renumber (moved (groupCount as))) := by
    rw [h.ways, joined_append, Nat.zero_add, List.flatMap_append, before, List.nil_append, joined,
      List.flatMap_cons, outcomes_moved, List.head?_append, List.head?_map, hu]
    rfl
  have groups := h.groups
  rw [groupCount_append, groupCount_cons] at groups
  rw [match?_eq_head?, first, Option.map_some, matchAt_renumber groups]
  exact fun n hn => captured?_of_read read hn (List.mem_of_head? hu)

end Pattern.IsRow

/-! ## Templates -/

/-- Each template of a row that compiles is accepted by itself. -/
theorem compileAll_templates {ts sources : List Text}
    (h : compileAll o (ts.map .template) p = (.ok sources, p')) :
    sources = ts.map (fun t => o.anchored (draft t).source) ∧
      ∃ es, List.Forall₂ (fun t e => Pattern.read o.flags (o.anchored (draft t).source) = .ok e)
        ts es := by
  induction ts generalizing p sources with
  | nil =>
    rw [List.map_nil, compileAll] at h
    cases h
    exact ⟨rfl, [], .nil⟩
  | cons t ts ih =>
    rw [List.map_cons, compileAll, compile] at h
    split at h
    · next e p₁ he =>
      obtain ⟨read, -⟩ := conclude_ok he
      split at h
      · next ss p₂ hs =>
        cases h
        obtain ⟨rfl, es, reads⟩ := ih hs
        exact ⟨by rw [(pattern_read_eq_ok.1 read).1]; rfl, e :: es, .cons read reads⟩
      · cases h
    · cases h

/-- The pattern of a row of templates that refer to no group. -/
theorem isRow_of_compile {shape : RowShape} {ts : List Text} (hn : ts ≠ [])
    (hts : ∀ t ∈ ts, RefersNowhere t)
    (hq : compile o (.row shape (ts.map .template)) p = (.ok q, p')) :
    ∃ es, List.Forall₂ (fun t e => ∀ p, (compile o (.template t) p).1 = .ok e) ts es ∧
      q.IsRow es := by
  rw [compile] at hq
  split at hq
  · next sources p₁ h =>
    obtain ⟨rfl, es, reads⟩ := compileAll_templates h
    obtain ⟨-, nx, row, finished⟩ := pattern_read_eq_ok.1 (conclude_ok hq).1
    have elements : List.Forall₂ (Element o.flags) (ts.map fun t => o.anchored (draft t).source)
        es := by
      refine List.forall₂_map_left_iff.2 ?_
      exact ((List.forall₂_and_left _ _).2 ⟨hts, reads⟩).imp
        fun t e h => ⟨⟨_, rfl⟩, clean_anchored h.1 o, h.2⟩
    have plain : o.flags.verbose = false := rfl
    obtain ⟨flags, groups, ways⟩ := outcomes_of_row .start plain elements (by simpa using hn) row
      finished
    have each : ∀ e ∈ es, e.flags = q.flags ∧ ∃ fl source, Pattern.read fl source = .ok e := by
      refine ((List.forall₂_and_left _ _).1 (elements.flip.imp fun e t h => ⟨?_, h⟩)).1
      obtain ⟨b, a, -, -, -, -, -, own, -⟩ := h.headed.ends plain
      exact ⟨own.trans flags.symm, _, _, h.read⟩
    refine ⟨es, reads.imp fun t e h => compile_of_read h, ?_⟩
    exact ⟨fun e he => (each e he).1, fun e he => (each e he).2, by simpa [start] using groups, ways⟩
  · cases hq

/-- Where a row of templates compiles that refer to no group, each of them compiles alone under the
same options. The row matches a text if one of them does; then it matches as the first that does,
and the groups of the others have captured nothing. -/
theorem match_row {shape : RowShape} {ts : List Text} (hn : ts ≠ [])
    (hts : ∀ t ∈ ts, RefersNowhere t)
    (hq : compile o (.row shape (ts.map .template)) p = (.ok q, p')) :
    ∃ es, List.Forall₂ (fun t e => ∀ p, (compile o (.template t) p).1 = .ok e) ts es ∧
      q.groups.length = groupCount es ∧
      ∀ s, (q.match? s = none ↔ ∀ e ∈ es, e.match? s = none) ∧
        ∀ as e bs m, es = as ++ e :: bs → (∀ a ∈ as, a.match? s = none) → e.match? s = some m →
          m.groups.length = e.groups.length ∧
            q.match? s = some (m.among (groupCount as) (groupCount bs)) := by
  obtain ⟨es, alone, row⟩ := isRow_of_compile hn hts hq
  refine ⟨es, alone, row.groups, fun s => ⟨row.match?_eq_none s, ?_⟩⟩
  rintro as e bs m rfl has he
  exact ⟨length_groups he, row.match?_eq_first has he⟩

theorem refersNowhere_of_not_mem {t : Text} (hs : '\\' ∉ t) (hp : '(' ∉ t) : RefersNowhere t where
  number := fun d _ h => hs (h.subset (by simp))
  name := fun h => hp (h.subset (by simp))
  condition := fun h => hp (h.subset (by simp))

theorem match_row_second :
    ∃ q p' e₁ e₂ m, compile {} (.row .list (["/a/:x".toList, "/b/:y".toList].map .template)) {} =
        (.ok q, p') ∧
      (compile {} (.template "/a/:x".toList) {}).1 = .ok e₁ ∧
      (compile {} (.template "/b/:y".toList) {}).1 = .ok e₂ ∧
      e₁.match? "/b/7".toList = none ∧ e₂.match? "/b/7".toList = some m ∧
      q.match? "/b/7".toList = some (m.among (groupCount [e₁]) (groupCount [])) := by
  have compiles : ((compile {} (.row .list
      (["/a/:x".toList, "/b/:y".toList].map .template)) {}).1.toOption).isSome := by
    decide +kernel
  have first : ((compile {} (.template "/a/:x".toList) {}).1.toOption.map
      (·.match? "/b/7".toList)) = some none := by
    decide +kernel
  have second : ((compile {} (.template "/b/:y".toList) {}).1.toOption.map
      (·.match? "/b/7".toList)) = some (some ⟨4, [some "7".toList]⟩) := by
    decide +kernel
  rcases hc : compile {} (.row .list (["/a/:x".toList, "/b/:y".toList].map .template)) {} with
    ⟨e | q, p'⟩
  · rw [hc] at compiles
    cases compiles
  · have plain : ∀ t ∈ ["/a/:x".toList, "/b/:y".toList], RefersNowhere t := by
      intro t ht
      have marks : '\\' ∉ t ∧ '(' ∉ t := by
        revert t
        decide
      exact refersNowhere_of_not_mem marks.1 marks.2
    obtain ⟨es, alone, -, row⟩ := match_row (List.cons_ne_nil _ _) plain hc
    cases alone with
    | @cons _ e₁ _ _ h₁ rest =>
      cases rest with
      | @cons _ e₂ _ _ h₂ rest =>
        cases rest
        rw [h₁] at first
        rw [h₂] at second
        have none : e₁.match? "/b/7".toList = none := Option.some.inj first
        have some : e₂.match? "/b/7".toList = some _ := Option.some.inj second
        refine ⟨q, p', e₁, e₂, _, rfl, h₁ {}, h₂ {}, none, some, ?_⟩
        exact ((row _).2 [e₁] e₂ [] _ rfl (by simpa using none) some).2

end RoutePattern
