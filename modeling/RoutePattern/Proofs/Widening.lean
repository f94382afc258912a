import RoutePattern.Proofs.Alternation
import RoutePattern.Proofs.Numbering
import RoutePattern.Proofs.Template.Alone

/-! # Options that ask for less match more

The options decide on the last items of an expression only: on its final slash, and on the anchor
behind it.

* `Regex.Fits`: an expression matches at a spot; `fits_concat`: a row of items does.
* `Options.Narrows`: options that ask for more; `lastItems_fit`: what their last items match, those
  of other options do.
* `compile_widens`: options that differ in what they ask for at the end compile the same templates,
  with the same keys, and if they ask for less their patterns match what the others do.
-/

namespace RoutePattern

open Regex Regex.Reader

/-! ## Matching -/

namespace Regex

variable {f : Flags} {s : Spot}

/-- The expression matches at a spot. -/
def Fits (f : Flags) (s : Spot) (r : Regex) : Prop := ∃ u, u ∈ r.outcomes f s

/-- A row of items matches where its first items lead to where the others match. -/
theorem fits_concat (rs qs : List Regex) :
    (concat (rs ++ qs)).Fits f s ↔ ∃ u ∈ (concat rs).outcomes f s, (concat qs).Fits f u := by
  unfold Fits
  rw [outcomes_concat_append]
  constructor
  · intro h
    obtain ⟨v, hv⟩ := h
    obtain ⟨u, hu, hv⟩ := List.mem_flatMap.1 hv
    exact ⟨u, hu, v, hv⟩
  · intro h
    obtain ⟨u, hu, v, hv⟩ := h
    exact ⟨v, List.mem_flatMap.2 ⟨u, hu, hv⟩⟩

theorem fits_cons (r : Regex) (rs : List Regex) :
    (concat (r :: rs)).Fits f s ↔ ∃ u ∈ r.outcomes f s, (concat rs).Fits f u :=
  fits_concat [r] rs

theorem fits_nil : (concat []).Fits f s := ⟨s, List.mem_singleton_self s⟩

theorem fits_alt (r q : Regex) : (alt r q).Fits f s ↔ r.Fits f s ∨ q.Fits f s := by
  unfold Fits
  rw [outcomes]
  simp only [List.mem_append, exists_or]

theorem fits_flagged (r : Regex) : (flagged {} {} r).Fits f s ↔ r.Fits f s := by
  unfold Fits
  rw [outcomes_flagged]

theorem isSome_match? (q : Pattern) (t : Text) :
    (q.match? t).isSome ↔ q.tree.Fits q.flags (.before t) := by
  rw [match?_eq_head?, Option.isSome_map, Fits]
  cases q.tree.outcomes q.flags (.before t) <;> simp

/-- A slash that may be left out matches where the slash does, and leads on from where it is. -/
theorem mem_optionalSlash {u : Spot} :
    u ∈ optionalSlash.outcomes f s ↔ u ∈ (char 47).outcomes f s ∨ u = s := by
  rw [optionalSlash, outcomes_optional, List.mem_append, List.mem_singleton]

end Regex

/-! ## Options -/

/-- The first options ask for what the second ask for, and perhaps for more: that a final slash is
as it is, and that the whole path matches. -/
structure Options.Narrows (o o' : Options) : Prop where
  strict : o'.strict = true → o.strict = true
  toEnd : o'.toEnd = true → o.toEnd = true

namespace Options.Narrows

variable {o o' : Options} {f : Flags} {s : Spot}

/-- The end of the text is one of the ends of a segment. -/
theorem closingItem_fits (h : o.Narrows o') (hf : o.closingItem.Fits f s) :
    o'.closingItem.Fits f s := by
  unfold closingItem at hf ⊢
  by_cases narrow : o'.toEnd = true
  · rw [if_pos (h.toEnd narrow)] at hf
    rwa [if_pos narrow]
  · rw [if_neg narrow]
    by_cases toEnd : o.toEnd = true
    · rw [if_pos toEnd] at hf
      exact (fits_flagged _).2 ((fits_alt _ _).2 (.inr hf))
    · rwa [if_neg toEnd] at hf

/-- A slash is an end of a segment. -/
theorem closingItem_slash (h : o'.toEnd = false) (hf : (char 47).Fits f s) :
    o'.closingItem.Fits f s := by
  rw [closingItem, if_neg (Bool.eq_false_iff.1 h)]
  exact (fits_flagged _).2 ((fits_alt _ _).2 (.inl hf))

/-- What the last items of an expression match, they match under options that ask for less. -/
theorem lastItems_fit (h : o.Narrows o') (slash : Bool)
    (hf : (concat (o.lastItems slash)).Fits f s) : (concat (o'.lastItems slash)).Fits f s := by
  have toEnd : o.toEnd = false → o'.toEnd = false := fun ho =>
    Bool.eq_false_iff.2 fun he => by rw [h.toEnd he] at ho; cases ho
  have closing : ∀ {u}, (concat [o.closingItem]).Fits f u → (concat [o'.closingItem]).Fits f u :=
    h.closingItem_fits
  unfold lastItems at hf ⊢
  by_cases narrow : o'.strict = true
  · rw [if_pos (h.strict narrow), fits_concat] at hf
    obtain ⟨u, hu, hf⟩ := hf
    rw [if_pos narrow, fits_concat]
    refine ⟨u, hu, ?_⟩
    by_cases more : (slash && !o'.toEnd) = true
    · rw [if_pos more]
      exact fits_nil
    · rw [if_neg more]
      rw [if_neg (fun ho => more (by simp_all))] at hf
      exact closing hf
  · rw [if_neg narrow, fits_cons]
    by_cases strict : o.strict = true
    · rw [if_pos strict] at hf
      cases slash with
      | false => exact ⟨s, mem_optionalSlash.2 (.inr rfl), closing hf⟩
      | true =>
        by_cases more : o.toEnd = true
        · rw [if_neg (by simp [more]), slashItem, if_pos rfl, fits_concat] at hf
          obtain ⟨u, hu, hf⟩ := hf
          exact ⟨u, mem_optionalSlash.2 (.inl hu), closing hf⟩
        · rw [Bool.not_eq_true] at more
          rw [if_pos (by simp [more])] at hf
          exact ⟨s, mem_optionalSlash.2 (.inr rfl), closingItem_slash (toEnd more) hf⟩
    · rw [if_neg strict, fits_cons] at hf
      obtain ⟨u, hu, hf⟩ := hf
      exact ⟨u, hu, closing hf⟩

end Options.Narrows

/-! ## Alternatives -/

/-- What has been read matches where an alternative in front of the last does, or where the items in
front of the last ones lead to where these match. -/
theorem fits_body {f : Flags} {v : Spot} {s : State} {rs ls : List Regex}
    (h : s.items = ls.reverse ++ rs) : s.body.Fits f v ↔ (∃ r ∈ s.branches, r.Fits f v) ∨
      ∃ u ∈ (concat rs.reverse).outcomes f v, (concat ls).Fits f u := by
  rw [← fits_concat, Fits, outcomes_body, State.rows, h]
  simp only [List.reverse_append, List.reverse_reverse, List.reverse_cons, List.mem_flatMap,
    List.mem_append, List.mem_reverse, List.mem_singleton]
  constructor
  · intro hf
    obtain ⟨u, r, hr | rfl, hu⟩ := hf
    · exact .inl ⟨r, hr, u, hu⟩
    · exact .inr ⟨u, hu⟩
  · intro hf
    rcases hf with ⟨r, hr, u, hu⟩ | ⟨u, hu⟩
    · exact ⟨u, r, .inl hr, hu⟩
    · exact ⟨u, _, .inr rfl, hu⟩

/-! ## Templates -/

variable {fl : Flags} {t : Text} {x : Pattern}

/-- If an expression is accepted alone, it is accepted between the anchors of all options that say
the same about case, or of none. -/
theorem reads_all_or_none (hfl : fl.verbose = false) {source : Text}
    (hx : Pattern.read fl source = .ok x) (sensitive : Bool) :
    (∀ o : Options, o.sensitive = sensitive →
      ∃ e, Pattern.read o.flags (o.anchored source) = .error e) ∨
    ∃ st s rs c, EndsAt (endsInSlash source) st s rs ∧ conclude s = .ok c ∧
      ∀ o : Options, o.sensitive = sensitive → Reads (begun o.flags) source st := by
  by_cases none : ∀ o : Options, o.sensitive = sensitive →
      ∃ e, Pattern.read o.flags (o.anchored source) = .error e
  · exact .inl none
  right
  simp only [not_forall, not_exists] at none
  obtain ⟨o, rfl, ok⟩ := none
  cases hq : Pattern.read o.flags (o.anchored source) with
  | error e => exact absurd hq (ok e)
  | ok q =>
    obtain ⟨-, a, ha, alone⟩ := pattern_read_eq_ok.1 hx
    obtain ⟨ys, symbols, -⟩ := reads_iff.1 ha
    obtain ⟨-, nx, reads, finished⟩ := pattern_read_eq_ok.1 hq
    obtain ⟨a', st, ha', hst, shifted, last⟩ := reads_anchored hfl symbols reads
    obtain rfl := ha.unique ha'
    obtain ⟨s, rs, ends⟩ := ends_of_anchored alone hst shifted last finished
    obtain rfl := last.unique (reads_ending o ends)
    obtain ⟨c, concluded⟩ := conclude_of_finish ends.mode finished
    refine ⟨st, s, rs, c, ends, concluded, fun o' same => ?_⟩
    rwa [Options.flags, same]

/-- A template whose expression is accepted alone compiles under all options that say the same about
case, or under none, and adds the same keys under all. If it does, its pattern matches wherever the
pattern for strict options does, and wherever the pattern that has to match to the end does. -/
theorem compile_widens (hfl : fl.verbose = false) (hx : Pattern.read fl (draft t).source = .ok x)
    (sensitive : Bool) (p : Progress) :
    ∃ keys, (∀ strict toEnd,
        (compile ⟨strict, toEnd, sensitive⟩ (.template t) p).2.keys = p.keys ++ keys) ∧
      ((∀ strict toEnd, ∃ e, (compile ⟨strict, toEnd, sensitive⟩ (.template t) p).1 = .error e) ∨
        ∃ q : Bool → Bool → Pattern,
          (∀ strict toEnd, (compile ⟨strict, toEnd, sensitive⟩ (.template t) p).1 =
            .ok (q strict toEnd)) ∧
          ∀ s, (∀ toEnd, ((q true toEnd).match? s).isSome → ((q false toEnd).match? s).isSome) ∧
            ∀ strict, ((q strict true).match? s).isSome → ((q strict false).match? s).isSome) := by
  refine ⟨(assign (draft t).named (Key.nextNumber p.keys) (Scan.openings (draft t).source)).map
    Assigned.key, fun strict toEnd => ?_, ?_⟩
  · rw [compile, compileTemplate, keys_conclude, Progress.keys_collect]
  rcases reads_all_or_none hfl hx sensitive with none | ⟨st, s, rs, c, ends, concluded, reads⟩
  · left
    intro strict toEnd
    obtain ⟨e, he⟩ := none ⟨strict, toEnd, sensitive⟩ rfl
    rw [compile, compileTemplate, Progress.conclude, he]
    exact ⟨_, rfl⟩
  · right
    have each := fun strict toEnd =>
      read_ended (o := ⟨strict, toEnd, sensitive⟩) (reads _ rfl) ends concluded
    choose q read flags tree using each
    -- The patterns have all but their last items in common.
    have wider : ∀ {strict strict' toEnd toEnd' s}, Options.Narrows ⟨strict, toEnd, sensitive⟩
        ⟨strict', toEnd', sensitive⟩ → ((q strict toEnd).match? s).isSome →
        ((q strict' toEnd').match? s).isSome := by
      intro strict strict' toEnd toEnd' s narrows
      rw [isSome_match?, isSome_match?, flags, flags, tree, tree, fits_body rfl, fits_body rfl]
      apply Or.imp_right
      intro h
      obtain ⟨u, hu, last⟩ := h
      exact ⟨u, hu, narrows.lastItems_fit _ last⟩
    refine ⟨q, fun strict toEnd => compile_of_read (read strict toEnd) p, fun s => ⟨?_, ?_⟩⟩
    · intro toEnd
      exact wider ⟨fun _ => rfl, id⟩
    · intro strict
      exact wider ⟨id, fun _ => rfl⟩

theorem compile_widens_slash :
    ∃ keys, (∀ strict toEnd,
        (compile ⟨strict, toEnd, false⟩ (.template "/:a/".toList) {}).2.keys = [] ++ keys) ∧
      ∃ q : Bool → Bool → Pattern,
        (∀ strict toEnd, (compile ⟨strict, toEnd, false⟩ (.template "/:a/".toList) {}).1 =
          .ok (q strict toEnd)) ∧
        ∀ s, (∀ toEnd, ((q true toEnd).match? s).isSome → ((q false toEnd).match? s).isSome) ∧
          ∀ strict, ((q strict true).match? s).isSome → ((q strict false).match? s).isSome := by
  have alone : (Pattern.read {} (draft "/:a/".toList).source).toOption.isSome := by decide +kernel
  have compiles : ((compile {} (.template "/:a/".toList) {}).1.toOption).isSome := by
    decide +kernel
  cases hx : Pattern.read {} (draft "/:a/".toList).source with
  | error e =>
    rw [hx] at alone
    cases alone
  | ok x =>
    obtain ⟨keys, same, none | all⟩ := compile_widens rfl hx false {}
    · obtain ⟨e, he⟩ := none false true
      rw [show (⟨false, true, false⟩ : Options) = {} from rfl] at he
      rw [he] at compiles
      cases compiles
    · exact ⟨keys, same, all⟩

end RoutePattern
