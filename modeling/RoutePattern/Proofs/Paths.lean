import RoutePattern.Proofs.Path.Compiled
import RoutePattern.Proofs.Path.Matching

/-! # Matching paths

A path compiles, and its pattern matches the texts that fit the path, with the values that are
preferred.

* `groups_matchAt`: what the groups of a match hold.
* `match_path`: the pattern of a path.
-/

namespace RoutePattern

open Regex

namespace Path

/-- A value for every group of the expression. -/
theorem Splits.length_eq {p : Path} {vs : List (Option Text)} {u : Text} (h : p.Splits vs u)
    (i : Nat) : vs.length = (p.groups i).length := by
  induction h generalizing i with
  | stop => rfl
  | rest => rfl
  | literal _ ih => exact ih _
  | present _ _ ih => exact congrArg Nat.succ (ih _)
  | absent _ ih => exact congrArg Nat.succ (ih _)

theorem le_of_mem_noted {n : Nat} {vs : List (Option Text)} {x : Nat × Text}
    (h : x ∈ noted n vs) : n ≤ x.1 := by
  induction vs generalizing n with
  | nil => cases h
  | cons v vs ih =>
    rcases List.mem_append.1 h with h | h
    · exact Nat.le_of_succ_le (ih h)
    · cases v with
      | none => cases h
      | some t =>
        obtain rfl : x = (n, t) := List.mem_singleton.1 h
        exact Nat.le_refl n

/-- The capture of a group is its value. -/
theorem lookup_noted (n i : Nat) (vs : List (Option Text)) :
    (noted n vs).lookup (n + i) = vs[i]?.join := by
  induction vs generalizing n i with
  | nil => rfl
  | cons v vs ih =>
    rw [noted, List.lookup_append]
    cases i with
    | zero =>
      have later : (noted (n + 1) vs).lookup n = none := by
        refine List.lookup_eq_none_iff.2 fun x hx => ?_
        have := le_of_mem_noted hx
        simp only [bne_iff_ne]
        omega
      cases v <;> simp [later]
    | succ i =>
      have own : (v.map fun t => (n, t)).toList.lookup (n + (i + 1)) = none := by
        have other : (n + (i + 1) == n) = false := by simp
        cases v <;> simp [List.lookup_cons, other]
      rw [own, Option.or_none, List.getElem?_cons_succ, ← ih (n + 1) i]
      congr 1
      omega

/-- The groups of a match hold the values whose captures have been made. -/
theorem groups_matchAt {q : Pattern} {s : Spot} {vs : List (Option Text)}
    (hs : s.captures = noted 1 vs) (hl : vs.length = q.groups.length) :
    (q.matchAt s).groups = vs := by
  refine List.ext_getElem (by simp [Pattern.matchAt, hl]) fun i h1 h2 => ?_
  have value : s.captured? (i + 1) = vs[i] := by
    rw [Spot.captured?, hs, Nat.add_comm, lookup_noted]
    simp [h2]
  simpa [Pattern.matchAt] using value

/-- A match holds the values of the first way to match. -/
theorem groups_of_views {q : Pattern} {s : Text} {ways : List (List (Option Text))}
    (views : (q.tree.outcomes q.flags (.before s)).map view = ways.map fun vs => ([], noted 1 vs))
    (hl : ∀ vs ∈ ways, vs.length = q.groups.length) :
    (q.match? s).map Match.groups = ways.head? := by
  rw [match?_eq_head?, Option.map_map]
  generalize q.tree.outcomes q.flags (.before s) = ends at views ⊢
  cases ends with
  | nil =>
    rw [List.map_eq_nil_iff.1 views.symm]
    rfl
  | cons t ends =>
    obtain ⟨vs, rest, rfl, first, -⟩ := List.map_eq_cons_iff.1 views.symm
    have captures : t.captures = noted 1 vs := (congrArg Prod.snd first).symm
    exact congrArg some (groups_matchAt captures (hl vs List.mem_cons_self))

/-- A match holds the values of the first way that leaves no more than may be left. -/
theorem match?_eq {strict : Bool} {p : Path} {q : Pattern} {s : Text}
    (ht : q.tree = concat (p.anchoredItems strict)) (hf : q.flags = { unicode := true })
    (hg : q.groups = p.groups 1) (hn : '\n' ∉ s) :
    (q.match? s).map Match.groups =
      ((p.ways s).find? fun x => IsEnd strict x.2).map Prod.fst := by
  have views := @view_anchored { unicode := true } rfl rfl rfl strict p s hn
  rw [← ht, ← hf] at views
  rw [← List.head?_filter, ← List.head?_map]
  refine groups_of_views (by rw [views, List.map_map]; rfl) fun vs hvs => ?_
  obtain ⟨x, hx, rfl⟩ := List.mem_map.1 hvs
  obtain ⟨u, -, split⟩ := (mem_ways hn).1 (List.mem_filter.1 hx).1
  exact hg ▸ split.length_eq 1

/-- The first way that leaves no more than may be left has the values that come before all others. -/
theorem before_of_find? {strict : Bool} {p : Path} {s r : Text} {vs ws : List (Option Text)}
    (hn : '\n' ∉ s) (h : ((p.ways s).find? fun x => IsEnd strict x.2) = some (vs, r))
    (hw : p.Answers strict ws s) : ws = vs ∨ Before vs ws := by
  obtain ⟨q, way, hq⟩ := (answers_iff_ways hn).1 hw
  obtain ⟨hr, as, bs, ways, none⟩ := List.find?_eq_some_iff_append.1 h
  have first : (vs, r) ∈ p.ways s := ways ▸ List.mem_append_right as List.mem_cons_self
  obtain ⟨u, hu, split⟩ := (mem_ways hn).1 first
  obtain ⟨v, hv, split'⟩ := (mem_ways hn).1 way
  have order := p.ways_pairwise s
  rw [ways] at way order
  rcases List.mem_append.1 way with hm | hm
  · exact absurd hq (by simpa using none _ hm)
  · rcases List.mem_cons.1 hm with he | hm
    · exact .inl (congrArg Prod.fst he)
    · have sooner := (List.pairwise_cons.1 (List.pairwise_append.1 order).2.1).1 _ hm
      exact .inr (before_of_sooner sooner split split' (by simpa using hr) hq (hu.symm.trans hv))

end Path

/-- The template of a path compiles. Its keys are those of the path. The pattern matches the texts
that fit the path, and its groups hold the values that come before all others. -/
theorem match_path (p : Path) (strict : Bool) (g : Progress) :
    ∃ q g', compile ⟨strict, true, true⟩ (.template p.template) g = (.ok q, g') ∧
      (∃ ks, g'.keys = g.keys ++ ks ∧ p.Keyed (Key.nextNumber g.keys) ks) ∧
      ∀ s, '\n' ∉ s → ((q.match? s).isSome ↔ ∃ vs, p.Answers strict vs s) ∧
        ∀ m, q.match? s = some m → p.Answers strict m.groups s ∧
          ∀ vs, p.Answers strict vs s → vs = m.groups ∨ Path.Before m.groups vs := by
  obtain ⟨q, g', compiled, tree, flags, groups⟩ := compile_path p strict g
  refine ⟨q, g', compiled, keyed_of_compile compiled groups, fun s hn => ?_⟩
  have first := Path.match?_eq tree flags groups hn
  rcases hf : (p.ways s).find? fun x => Path.IsEnd strict x.2 with _ | ⟨vs, r⟩
  · rw [hf, Option.map_none, Option.map_eq_none_iff] at first
    rw [first]
    refine ⟨⟨nofun, fun ⟨vs, h⟩ => ?_⟩, nofun⟩
    obtain ⟨r, way, hr⟩ := (Path.answers_iff_ways hn).1 h
    exact absurd hr (by simpa using List.find?_eq_none.1 hf _ way)
  · rw [hf] at first
    obtain ⟨m, hm, rfl⟩ := Option.map_eq_some_iff.1 first
    have answers : p.Answers strict m.groups s :=
      (Path.answers_iff_ways hn).2
        ⟨r, List.mem_of_find?_eq_some hf, by simpa using List.find?_some hf⟩
    rw [hm]
    refine ⟨⟨fun _ => ⟨_, answers⟩, fun _ => rfl⟩, fun m' hm' => ?_⟩
    obtain rfl := Option.some.inj hm'
    exact ⟨answers, fun vs h => Path.before_of_find? hn hf h⟩

/-- Literal text, a parameter that may be absent and one that takes the rest; what is matched has a
final slash. -/
theorem match_path_rest :
    '\n' ∉ "/a/b/c/d/".toList ∧ ∃ q g,
      compile { sensitive := true } (.template "/a/:x?/:y*".toList) {} = (.ok q, g) ∧
      ∃ m, q.match? "/a/b/c/d/".toList = some m ∧
        ([some ['b'], some ['c'], some ['/', 'd']] = m.groups ∨
          Path.Before m.groups [some ['b'], some ['c'], some ['/', 'd']]) := by
  let path : Path := .literal ⟨['a'], by decide, by decide⟩ <|
    .param ⟨['x'], by decide, by decide⟩ true <| .rest ⟨['y'], by decide, by decide⟩
  have answers : path.Answers false [some ['b'], some ['c'], some ['/', 'd']]
      "/a/b/c/d/".toList :=
    .inr ⟨rfl, "/a/b/c/d".toList, by decide, .literal <|
      .present (v := ['b']) ⟨by decide, by decide⟩ <|
      .rest (v := ['c']) ⟨by decide, by decide⟩ (.inr ⟨'d', [], rfl⟩)⟩
  have fits : '\n' ∉ "/a/b/c/d/".toList := by decide
  obtain ⟨q, g, compiled, -, finds⟩ := match_path path false {}
  obtain ⟨m, hm⟩ := Option.isSome_iff_exists.1 ((finds _ fits).1.2 ⟨_, answers⟩)
  exact ⟨fits, q, g, compiled, m, hm, ((finds _ fits).2 m hm).2 _ answers⟩

end RoutePattern
