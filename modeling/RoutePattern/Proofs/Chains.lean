import RoutePattern.Proofs.Chain.Reading
import RoutePattern.Proofs.Chain.Ways
import RoutePattern.Proofs.Paths

/-! # Matching chains

A chain compiles, and its pattern matches the texts that are split along it, with the values that
are preferred.

* `takesAt_valueChar`: where a value goes on.
* `view_links`, `view_chain`: the items of links match as their ways say, and the expression of a
  chain as the splits of the text, in that order.
* `match_chain`: the pattern of a chain.
-/

namespace RoutePattern

open Regex

variable {f : Flags}

/-! ## Items -/

theorem takes_noSlashDot (hf : f.ignoreCase = false) :
    Takes f (fun c => c != '/' && c != '.') (.set true [.char 47, .char 46]) := by
  intro s
  have slash : ∀ c, sameChar f 47 c = (c == '/') := sameChar_eq hf '/'
  have dot : ∀ c, sameChar f 46 c = (c == '.') := sameChar_eq hf '.'
  have test : inSet f true [.char 47, .char 46] = fun c => c != '/' && c != '.' := by
    funext c
    simp [inSet, Member.holds, slash, dot, bne]
  rw [outcomes, test]

/-- There is no slash ahead, nor the text. -/
theorem isEmpty_guard (hf : f.ignoreCase = false) (w : Text) (s : Spot) :
    ((Regex.alt (.char 47) (concat (w.map fun c => .char c.toNat))).outcomes f s).isEmpty =
      (!s.ahead.head?.any (· == '/') && !w.isPrefixOf s.ahead) := by
  have slash : ((Regex.char 47).outcomes f s).isEmpty = !s.ahead.head?.any (· == '/') := by
    rw [Path.takes_slash hf s]
    cases ha : s.ahead with
    | nil => rw [eat?_nil ha]; rfl
    | cons c u =>
      rw [eat?_cons ha]
      by_cases hc : c = '/' <;> simp [hc]
  have text : ((concat (w.map fun c => .char c.toNat)).outcomes f s).isEmpty =
      !w.isPrefixOf s.ahead := by
    rw [outcomes_chars hf, ← List.isSome_isPrefixOf?_eq_isPrefixOf]
    cases w.isPrefixOf? s.ahead <;> rfl
  rw [outcomes, ← slash, ← text]
  cases (Regex.char 47).outcomes f s <;> rfl

/-- A value goes on where its separator admits it. -/
theorem takesAt_valueChar (hf : f.ignoreCase = false) (hd : f.dotAll = false) (d : Separator) :
    TakesAt f d.admits d.valueChar := by
  cases d with
  | dot => exact (takes_noSlashDot hf).takesAt
  | mark w =>
    intro s
    rw [Separator.valueChar, outcomes_flagged, outcomes_concat_cons, outcomes_refusal,
      isEmpty_guard hf, concat_singleton, Separator.admits]
    cases ha : s.ahead with
    | nil => simp [takes_any hd s, eat?_nil ha]
    | cons c u =>
      have any := takes_any hd s
      rw [eat?_cons ha] at any
      rw [eat?_cons ha]
      by_cases hc : c = '/' <;> by_cases hn : c = '\n' <;>
        cases w.text.isPrefixOf (c :: u) <;> simp [hc, hn, any]

/-- A link matches its separator, and a value that its separator admits. -/
theorem outcomes_separator (hf : f.ignoreCase = false) (hd : f.dotAll = false) (d : Separator)
    (n : Nat) (s : Spot) :
    (concat (d.items n)).outcomes f s = (d.text.isPrefixOf? s.ahead).toList.flatMap fun v =>
      (stretches d.admits v).map fun x => (s.move (d.text ++ x.1) x.2).keep n x.1 := by
  have value : ∀ t : Spot, (d.valueItem n).outcomes f t =
      (stretches d.admits t.ahead).map fun x => (t.move x.1 x.2).keep n x.1 := by
    intro t
    rw [Separator.valueItem, outcomes, outcomes_lazyAt (takesAt_valueChar hf hd d), List.map_map]
    exact List.map_congr_left fun x _ => Spot.capture_move t n x.1 x.2
  have row : (concat (d.text.map (fun c => .char c.toNat) ++ [d.valueItem n])).outcomes f s =
      (d.text.isPrefixOf? s.ahead).toList.flatMap fun v =>
        (stretches d.admits v).map fun x => (s.move (d.text ++ x.1) x.2).keep n x.1 := by
    rw [outcomes_concat_append, outcomes_chars hf, List.flatMap_map]
    refine List.flatMap_congr fun v _ => ?_
    rw [concat_singleton, value]
    simp
  rw [← row]
  cases d with
  | dot => exact outcomes_flagged _ s
  | mark w =>
    rw [Separator.items, outcomes_concat_append, outcomes_concat_append]
    exact List.flatMap_congr fun t _ => outcomes_flagged _ t

/-- The items of links match as the ways of the links say. -/
theorem view_links (hf : f.ignoreCase = false) (hd : f.dotAll = false) (ks : List Link) (n : Nat)
    (s : Spot) :
    ((concat (Link.items n ks)).outcomes f s).map Path.view =
      (Link.ways ks s.ahead).map fun x =>
        (x.2, Path.noted n (x.1.map some) ++ s.captures) := by
  induction ks generalizing n s with
  | nil => rfl
  | cons k ks ih =>
    rw [Link.items, outcomes_concat_append, outcomes_separator hf hd, List.flatMap_assoc,
      List.map_flatMap, Link.ways, List.map_flatMap]
    refine List.flatMap_congr fun v _ => ?_
    rw [List.flatMap_map, List.map_flatMap, List.map_flatMap]
    refine List.flatMap_congr fun x _ => ?_
    rw [ih, List.map_map]
    refine List.map_congr_left fun y _ => ?_
    simp [Path.noted, Spot.keep, Spot.move]

/-- The expression of a chain matches in the ways to split the text. -/
theorem view_chain (hf : f.ignoreCase = false) (hd : f.dotAll = false) (hm : f.multiline = false)
    (p : Chain) {u : Text} (hn : '\n' ∉ u) :
    ((concat p.anchoredItems).outcomes f (.before u)).map Path.view =
      ((p.splits u).map (List.map some)).map fun vs => ([], Path.noted 1 vs) := by
  have views : ((concat (.flagged {} {} (concat [.char 47, .capture 1 Path.valueItem]) ::
      Link.items 2 p.links)).outcomes f (.before u)).map Path.view =
      ((p.ways u).map fun x => (x.1.map some, x.2)).map fun x => (x.2, Path.noted 1 x.1) := by
    rw [outcomes_concat_cons, outcomes_flagged, Path.outcomes_slashValue hf, List.flatMap_assoc,
      List.map_flatMap, Chain.ways, List.map_flatMap, List.map_flatMap]
    refine List.flatMap_congr fun x _ => ?_
    have alone : ∀ t, (concat []).outcomes f t = [t] := fun _ => rfl
    rw [alone, List.flatMap_singleton, view_links hf hd, List.map_map, List.map_map]
    refine List.map_congr_left fun y _ => ?_
    simp [Path.noted, Spot.keep, Spot.move, Spot.before]
  have whole := Path.view_between hf hm true views fun x hx hl => ?_
  · rw [Chain.anchoredItems, whole, Chain.splits, List.filter_map, List.map_map, List.map_map,
      List.map_map]
    simp [Function.comp_def, Path.IsEnd]
  · obtain ⟨y, hy, rfl⟩ := List.mem_map.1 hx
    exact hn ((Chain.suffix_of_mem hy).subset hl)

/-! ## Patterns -/

theorem Link.Splits.length_eq {ks : List Link} {xs : List Text} {u : Text} (h : Splits ks xs u) :
    xs.length = ks.length := by
  induction h with
  | nil => rfl
  | cons _ _ _ ih => exact congrArg Nat.succ ih

theorem Chain.Splits.length_eq {p : Chain} {xs : List Text} {u : Text} (h : p.Splits xs u) :
    xs.length = p.links.length + 1 := by
  cases h with
  | intro _ rest => exact congrArg Nat.succ rest.length_eq

/-- The template of a chain compiles. Its pattern matches the texts that are split along the chain,
and its groups hold the values that are shorter than those of all other splits. -/
theorem match_chain (p : Chain) (g : Progress) :
    ∃ q g', compile ⟨true, true, true⟩ (.template p.template) g = (.ok q, g') ∧
      ∀ s, '\n' ∉ s → ((q.match? s).isSome ↔ ∃ xs, p.Splits xs s) ∧
        ∀ m, q.match? s = some m → ∃ xs, m.groups = xs.map some ∧ p.Splits xs s ∧
          ∀ ys, p.Splits ys s → ys = xs ∨ Shorter xs ys := by
  obtain ⟨q, read, tree, flags, groups⟩ := read_chain p
  rw [← p.source_draft] at read
  refine ⟨q, _, Prod.ext (compile_of_read read g) rfl, fun s hn => ?_⟩
  have views := @view_chain { unicode := true } rfl rfl rfl p s hn
  rw [← tree, ← flags] at views
  have member : ∀ xs, xs ∈ p.splits s ↔ p.Splits xs s := fun _ => Chain.mem_splits hn
  have order := p.splits_pairwise s
  have first := Path.groups_of_views views fun vs hvs => by
    obtain ⟨xs, hx, rfl⟩ := List.mem_map.1 hvs
    rw [List.length_map, groups]
    exact ((member xs).1 hx).length_eq
  cases hs : p.splits s with
  | nil =>
    rw [hs] at first member
    have none : q.match? s = none := Option.map_eq_none_iff.1 first
    rw [none]
    exact ⟨⟨nofun, fun ⟨xs, h⟩ => absurd ((member xs).2 h) List.not_mem_nil⟩, nofun⟩
  | cons xs others =>
    rw [hs] at first member order
    obtain ⟨m, hm, values⟩ := Option.map_eq_some_iff.1 first
    have split := (member xs).1 List.mem_cons_self
    rw [hm]
    refine ⟨⟨fun _ => ⟨xs, split⟩, fun _ => rfl⟩, fun m' hm' => ?_⟩
    obtain rfl := Option.some.inj hm'
    refine ⟨xs, values, split, fun ys h => ?_⟩
    rcases List.mem_cons.1 ((member ys).2 h) with same | later
    · exact .inl same
    · exact .inr ((List.pairwise_cons.1 order).1 ys later)

/-- The dashes could be told apart from the values in two ways. -/
theorem match_chain_dashes :
    '\n' ∉ "/a---b.c".toList ∧ ∃ q g,
      compile ⟨true, true, true⟩ (.template "/:x--:y.:z".toList) {} = (.ok q, g) ∧
      ∃ m xs, q.match? "/a---b.c".toList = some m ∧ m.groups = xs.map some ∧
        ([['a'], ['-', 'b'], ['c']] = xs ∨ Shorter xs [['a'], ['-', 'b'], ['c']]) ∧
        ([['a', '-'], ['b'], ['c']] = xs ∨ Shorter xs [['a', '-'], ['b'], ['c']]) := by
  let dashes : Mark := ⟨⟨['-', '-'], by decide, by decide⟩, by decide, by decide⟩
  let chain : Chain := ⟨⟨['x'], by decide, by decide⟩,
    [⟨.mark dashes, ⟨['y'], by decide, by decide⟩⟩, ⟨.dot, ⟨['z'], by decide, by decide⟩⟩]⟩
  have last : Link.Splits [chain.links[1]] [['c']] ['.', 'c'] :=
    .cons ⟨by decide, by decide⟩ (by decide) .nil
  have sooner : chain.Splits [['a'], ['-', 'b'], ['c']] "/a---b.c".toList :=
    .intro ⟨by decide, by decide⟩ (.cons ⟨by decide, by decide⟩ (by decide) last)
  have later : chain.Splits [['a', '-'], ['b'], ['c']] "/a---b.c".toList :=
    .intro ⟨by decide, by decide⟩ (.cons ⟨by decide, by decide⟩ (by decide) last)
  have fits : '\n' ∉ "/a---b.c".toList := by decide
  obtain ⟨q, g, compiled, finds⟩ := match_chain chain {}
  obtain ⟨m, hm⟩ := Option.isSome_iff_exists.1 ((finds _ fits).1.2 ⟨_, sooner⟩)
  obtain ⟨xs, groups, -, least⟩ := (finds _ fits).2 m hm
  exact ⟨fits, q, g, compiled, m, xs, hm, groups, least _ sooner, least _ later⟩

end RoutePattern
