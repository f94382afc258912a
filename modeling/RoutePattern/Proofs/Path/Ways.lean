import RoutePattern.Proofs.Path.Syntax

/-! # The ways to split a text along a path

* `stretches`, `runs`, `values`, `rests`: the beginnings of a text that a parameter can take, in
  order of preference.
* `Path.ways`: the values with which the segments of a path take a beginning of a text, and what is
  left, in order of preference.
* `mem_ways`: these are the splits of the beginnings of the text.
* `ways_pairwise`, `before_of_sooner`: the order of the ways, and what it is among those that take
  the whole text.
-/

namespace RoutePattern

/-! ## Beginnings of a text -/

/-- The nonempty beginnings of a text whose characters pass a test, the shortest first, each with
what is left. -/
def runs (test : Char → Bool) : Text → List (Text × Text)
  | [] => []
  | c :: r =>
    if test c then ([c], r) :: (runs test r).map fun x => (c :: x.1, x.2) else []

/-- The nonempty beginnings of a text at whose places a test holds of what lies ahead, the shortest
first, each with what is left. -/
def stretches (test : Text → Bool) : Text → List (Text × Text)
  | [] => []
  | c :: r =>
    if test (c :: r) then ([c], r) :: (stretches test r).map fun x => (c :: x.1, x.2) else []

/-- The values of a parameter at the start of a text. -/
def values : Text → List (Text × Text)
  | '/' :: r => runs (· != '/') r
  | _ => []

/-- What a parameter with a star may take behind its value. A line feed ends it. -/
def rests : Text → List (Text × Text)
  | '/' :: r => ((runs (· != '\n') r).map fun x => ('/' :: x.1, x.2)) ++ [([], '/' :: r)]
  | u => [([], u)]

theorem values_of_ne {c : Char} (h : c ≠ '/') (u : Text) : values (c :: u) = [] := by
  unfold values
  split
  · next he => exact absurd (List.cons.inj he).1 h
  · rfl

theorem rests_of_ne {c : Char} (h : c ≠ '/') (u : Text) : rests (c :: u) = [([], c :: u)] := by
  unfold rests
  split
  · next he => exact absurd (List.cons.inj he).1 h
  · rfl

/-- Characters that pass a test are places where the first character ahead does. -/
theorem runs_eq (test : Char → Bool) (u : Text) :
    runs test u = stretches (fun v => v.head?.any test) u := by
  induction u with
  | nil => rfl
  | cons c u ih => rw [runs, stretches, ih]; rfl

theorem mem_stretches {test : Text → Bool} {u v r : Text} :
    (v, r) ∈ stretches test u ↔
      u = v ++ r ∧ v ≠ [] ∧ ∀ a b, v = a ++ b → b ≠ [] → test (b ++ r) := by
  induction u generalizing v with
  | nil =>
    simp only [stretches, List.not_mem_nil, false_iff]
    rintro ⟨h, hv, -⟩
    exact hv (List.append_eq_nil_iff.1 h.symm).1
  | cons c u ih =>
    cases v with
    | nil => simp [stretches]
    | cons d v =>
      rw [stretches]
      split
      · next hc =>
        simp only [List.mem_cons, Prod.mk.injEq, List.mem_map, Prod.exists]
        constructor
        · rintro (⟨h, rfl⟩ | ⟨w, q, hw, h, rfl⟩)
          · obtain ⟨rfl, rfl⟩ := List.cons.inj h
            refine ⟨rfl, by simp, fun a b hab hb => ?_⟩
            rcases List.singleton_eq_append_iff.1 hab with ⟨-, rfl⟩ | ⟨-, rfl⟩
            · exact hc
            · exact absurd rfl hb
          · obtain ⟨rfl, rfl⟩ := List.cons.inj h
            obtain ⟨rfl, -, hall⟩ := ih.1 hw
            refine ⟨rfl, by simp, fun a b hab hb => ?_⟩
            cases a with
            | nil =>
              obtain rfl : _ = b := hab
              exact hc
            | cons e a => exact hall a b (List.cons.inj hab).2 hb
        · rintro ⟨h, -, hall⟩
          obtain ⟨rfl, tail⟩ := List.cons.inj h
          cases v with
          | nil => exact .inl ⟨rfl, tail.symm⟩
          | cons e v =>
            refine .inr ⟨e :: v, r, ih.2 ⟨tail, by simp, fun a b hab hb => ?_⟩, rfl, rfl⟩
            exact hall (c :: a) b (congrArg _ hab) hb
      · next hc =>
        simp only [List.not_mem_nil, false_iff]
        rintro ⟨h, -, hall⟩
        exact hc (h ▸ hall [] _ rfl (by simp))

theorem stretches_pairwise (test : Text → Bool) (u : Text) :
    (stretches test u).Pairwise fun x y => x.1.length < y.1.length := by
  induction u with
  | nil => exact .nil
  | cons c u ih =>
    rw [stretches]
    split
    · refine List.pairwise_cons.2 ⟨?_, List.pairwise_map.2 (ih.imp fun h => by simpa using h)⟩
      rintro ⟨v, r⟩ hv
      obtain ⟨⟨w, q⟩, hw, he⟩ := List.mem_map.1 hv
      obtain ⟨-, hne, -⟩ := mem_stretches.1 hw
      rw [← (Prod.mk.inj he).1]
      simpa [Nat.pos_iff_ne_zero] using hne
    · exact .nil

theorem mem_runs {test : Char → Bool} {u v r : Text} :
    (v, r) ∈ runs test u ↔ u = v ++ r ∧ v ≠ [] ∧ ∀ c ∈ v, test c := by
  rw [runs_eq, mem_stretches]
  refine and_congr_right fun _ => and_congr_right fun _ => ?_
  constructor
  · intro h c hc
    obtain ⟨a, b, rfl⟩ := List.append_of_mem hc
    exact h a (c :: b) rfl (by simp)
  · rintro h a b rfl hb
    obtain ⟨c, b, rfl⟩ := List.exists_cons_of_ne_nil hb
    exact h c (by simp)

theorem runs_pairwise (test : Char → Bool) (u : Text) :
    (runs test u).Pairwise fun x y => x.1.length < y.1.length :=
  runs_eq test u ▸ stretches_pairwise _ u

theorem mem_values {u v r : Text} : (v, r) ∈ values u ↔ u = '/' :: v ++ r ∧ Path.IsValue v := by
  have test : ∀ c : Char, (c != '/') = true ↔ c ≠ '/' := by simp
  unfold values
  split
  · next s =>
    rw [mem_runs, Path.IsValue]
    simp only [List.cons_append, List.cons.injEq, true_and, test]
    refine and_congr_right fun _ => and_congr_right fun _ => ?_
    exact ⟨fun h hm => h '/' hm rfl, fun h c hc he => h (he ▸ hc)⟩
  · next h =>
    simp only [List.not_mem_nil, false_iff]
    rintro ⟨rfl, -⟩
    exact h _ rfl

theorem values_pairwise (u : Text) :
    (values u).Pairwise fun x y => x.1.length < y.1.length := by
  unfold values
  split
  · exact runs_pairwise _ _
  · exact .nil

theorem mem_rests {u v r : Text} (hn : '\n' ∉ u) :
    (v, r) ∈ rests u ↔ u = v ++ r ∧ Path.IsRest v := by
  unfold rests
  split
  · next s =>
    simp only [List.mem_append, List.mem_map, List.mem_singleton, Prod.mk.injEq, Prod.exists]
    constructor
    · rintro (⟨w, q, hw, rfl, rfl⟩ | ⟨rfl, rfl⟩)
      · obtain ⟨rfl, hne, -⟩ := mem_runs.1 hw
        obtain ⟨c, w, rfl⟩ := List.exists_cons_of_ne_nil hne
        exact ⟨rfl, .inr ⟨c, w, rfl⟩⟩
      · exact ⟨rfl, .inl rfl⟩
    · rintro ⟨h, rfl | ⟨c, w, rfl⟩⟩
      · exact .inr ⟨rfl, h.symm⟩
      · obtain ⟨-, h⟩ := List.cons.inj h
        refine .inl ⟨c :: w, r, mem_runs.2 ⟨h, by simp, fun d hd => ?_⟩, rfl, rfl⟩
        have : d ≠ '\n' := by
          rintro rfl
          exact hn (List.mem_cons_of_mem _ (h ▸ List.mem_append_left _ hd))
        simpa using this
  · next h =>
    simp only [List.mem_singleton, Prod.mk.injEq]
    constructor
    · rintro ⟨rfl, rfl⟩
      exact ⟨rfl, .inl rfl⟩
    · rintro ⟨rfl, rfl | ⟨c, w, rfl⟩⟩
      · exact ⟨rfl, rfl⟩
      · exact absurd rfl (h _)

/-! ## Ways -/

namespace Path

/-- The values of the segments at the start of a text, each with what is left. -/
def ways : Path → Text → List (List (Option Text) × Text)
  | stop, u => [([], u)]
  | rest _, u => (values u).flatMap fun x => (rests x.2).map fun y => ([some x.1, some y.1], y.2)
  | literal w p, u => (List.isPrefixOf? ('/' :: w.text) u).toList.flatMap p.ways
  | param _ optional p, u =>
    ((values u).flatMap fun x => (p.ways x.2).map fun y => (some x.1 :: y.1, y.2)) ++
      if optional then (p.ways u).map fun y => (none :: y.1, y.2) else []

/-- The ways are the splits of the beginnings of the text. -/
theorem mem_ways {p : Path} {u r : Text} {vs : List (Option Text)} (hn : '\n' ∉ u) :
    (vs, r) ∈ p.ways u ↔ ∃ v, u = v ++ r ∧ p.Splits vs v := by
  induction p generalizing u vs with
  | stop =>
    rw [ways, List.mem_singleton, Prod.mk.injEq]
    constructor
    · rintro ⟨rfl, rfl⟩
      exact ⟨[], rfl, .stop⟩
    · rintro ⟨v, rfl, h⟩
      cases h
      exact ⟨rfl, rfl⟩
  | rest name =>
    simp only [ways, List.mem_flatMap, List.mem_map, Prod.mk.injEq, Prod.exists]
    constructor
    · rintro ⟨v, s, hv, q, t, hq, rfl, rfl⟩
      obtain ⟨rfl, value⟩ := mem_values.1 hv
      obtain ⟨rfl, rest⟩ := (mem_rests fun h => hn (List.mem_append_right _ h)).1 hq
      exact ⟨'/' :: v ++ q, by simp, .rest value rest⟩
    · rintro ⟨v, rfl, h⟩
      cases h with
      | @rest _ v q hv hq =>
        refine ⟨v, q ++ r, mem_values.2 ⟨by simp, hv⟩, q, r, ?_, rfl, rfl⟩
        refine (mem_rests fun h => hn ?_).2 ⟨rfl, hq⟩
        simp only [List.append_assoc]
        exact List.mem_append_right _ h
  | literal w p ih =>
    have first : ∀ t, ('/' :: w.text).isPrefixOf? u = some t ↔ u = '/' :: w.text ++ t := by
      intro t
      rw [List.isPrefixOf?_eq_some_iff_append_eq, eq_comm]
    simp only [ways, List.mem_flatMap, Option.mem_toList, first]
    constructor
    · rintro ⟨t, rfl, h⟩
      obtain ⟨v, rfl, split⟩ := (ih fun h => hn (List.mem_append_right _ h)).1 h
      exact ⟨'/' :: w.text ++ v, by simp, .literal split⟩
    · rintro ⟨v, rfl, h⟩
      cases h with
      | @literal _ _ _ v split =>
        rw [List.append_assoc] at hn ⊢
        exact ⟨v ++ r, rfl, (ih fun h => hn (List.mem_append_right _ h)).2 ⟨v, rfl, split⟩⟩
  | param name optional p ih =>
    simp only [ways, List.mem_append, List.mem_flatMap, List.mem_map, Prod.mk.injEq, Prod.exists]
    constructor
    · rintro (⟨v, t, hv, ws, q, h, rfl, rfl⟩ | h)
      · obtain ⟨rfl, value⟩ := mem_values.1 hv
        obtain ⟨a, rfl, split⟩ := (ih fun h => hn (List.mem_append_right _ h)).1 h
        exact ⟨'/' :: v ++ a, by simp, .present value split⟩
      · split at h
        · next ho =>
          subst ho
          obtain ⟨⟨ws, q⟩, hw, he⟩ := List.mem_map.1 h
          obtain ⟨rfl, rfl⟩ := Prod.mk.inj he
          obtain ⟨a, rfl, split⟩ := (ih hn).1 hw
          exact ⟨a, rfl, .absent split⟩
        · cases h
    · rintro ⟨v, rfl, h⟩
      cases h with
      | @present _ _ _ v a ws value split =>
        rw [List.append_assoc] at hn ⊢
        refine .inl ⟨v, a ++ r, mem_values.2 ⟨rfl, value⟩, ws, r, ?_, rfl, rfl⟩
        exact (ih fun h => hn (List.mem_append_right _ h)).2 ⟨a, rfl, split⟩
      | @absent _ _ ws _ split =>
        exact .inr (List.mem_map.2 ⟨(ws, r), (ih hn).2 ⟨v, rfl, split⟩, rfl⟩)

/-! ## Order -/

/-- The order of the ways: a value before none, a shorter value before a longer one, and any rest
before an empty one. -/
inductive Sooner : List (Option Text) → List (Option Text) → Prop
  | present {v : Text} {vs ws : List (Option Text)} : Sooner (some v :: vs) (none :: ws)
  | shorter {v w : Text} {vs ws : List (Option Text)} : v.length < w.length →
      Sooner (some v :: vs) (some w :: ws)
  | filled {v : Text} {vs ws : List (Option Text)} : v ≠ [] → Sooner (some v :: vs) (some [] :: ws)
  | later {v : Option Text} {vs ws : List (Option Text)} : Sooner vs ws →
      Sooner (v :: vs) (v :: ws)

theorem rests_pairwise (u : Text) :
    (rests u).Pairwise fun x y => Sooner [some x.1] [some y.1] := by
  unfold rests
  split
  · next r =>
    refine List.pairwise_append.2 ⟨List.pairwise_map.2 ?_, List.pairwise_singleton _ _, ?_⟩
    · exact (runs_pairwise _ r).imp fun h => .shorter (by simpa using h)
    · intro x hx y hy
      obtain ⟨z, -, rfl⟩ := List.mem_map.1 hx
      rw [List.mem_singleton.1 hy]
      exact .filled (by simp)
  · exact List.pairwise_singleton _ _

/-- The ways come in the order of the values. -/
theorem ways_pairwise (p : Path) (u : Text) :
    (p.ways u).Pairwise fun x y => Sooner x.1 y.1 := by
  have spread : ∀ {u : Text} {g : Text × Text → List (List (Option Text) × Text)},
      (∀ x, (g x).Pairwise fun a b => Sooner a.1 b.1) →
      (∀ x, ∀ a ∈ g x, ∃ vs, a.1 = some x.1 :: vs) →
      ((values u).flatMap g).Pairwise fun a b => Sooner a.1 b.1 := by
    intro u g hp hg
    refine List.pairwise_flatMap.2 ⟨fun x _ => hp x, ?_⟩
    refine (values_pairwise u).imp fun {x y} h a ha b hb => ?_
    obtain ⟨vs, hv⟩ := hg x a ha
    obtain ⟨ws, hw⟩ := hg y b hb
    rw [hv, hw]
    exact .shorter h
  induction p generalizing u with
  | stop => exact List.pairwise_singleton _ _
  | rest name =>
    refine spread (fun x => List.pairwise_map.2 ?_) fun x a ha => ?_
    · exact (rests_pairwise x.2).imp fun h => .later h
    · obtain ⟨y, -, rfl⟩ := List.mem_map.1 ha
      exact ⟨_, rfl⟩
  | literal w p ih =>
    rw [ways]
    cases ('/' :: w.text).isPrefixOf? u with
    | none => exact .nil
    | some t => simpa using ih t
  | param name optional p ih =>
    refine List.pairwise_append.2 ⟨spread (fun x => List.pairwise_map.2 ?_) fun x a ha => ?_, ?_, ?_⟩
    · exact (ih x.2).imp fun h => .later h
    · obtain ⟨y, -, rfl⟩ := List.mem_map.1 ha
      exact ⟨_, rfl⟩
    · split
      · exact List.pairwise_map.2 ((ih u).imp fun h => .later h)
      · exact .nil
    · intro a ha b hb
      obtain ⟨x, -, ha⟩ := List.mem_flatMap.1 ha
      obtain ⟨y, -, rfl⟩ := List.mem_map.1 ha
      split at hb
      · obtain ⟨z, -, rfl⟩ := List.mem_map.1 hb
        exact .present
      · cases hb

/-! ## Whole texts -/

theorem Splits.isTail {p : Path} {vs : List (Option Text)} {u : Text} (h : p.Splits vs u) :
    IsTail u := by
  induction h with
  | stop => exact .inl rfl
  | rest => exact .inr ⟨_, rfl⟩
  | literal => exact .inr ⟨_, rfl⟩
  | present => exact .inr ⟨_, rfl⟩
  | absent _ ih => exact ih

theorem IsRest.isTail {r : Text} (h : IsRest r) : IsTail r := by
  rcases h with rfl | ⟨c, q, rfl⟩
  · exact .inl rfl
  · exact .inr ⟨_, rfl⟩

/-- A text has one value at its start that a slash or the end follows. -/
theorem value_unique {v w a b : Text} (hv : '/' ∉ v) (hw : '/' ∉ w) (ha : IsTail a) (hb : IsTail b)
    (h : v ++ a = w ++ b) : v = w ∧ a = b := by
  have upTo : ∀ {v a : Text}, '/' ∉ v → IsTail a → (v ++ a).takeWhile (· != '/') = v := by
    intro v a hv ha
    have stops : a.takeWhile (· != '/') = [] := by
      rcases ha with rfl | ⟨r, rfl⟩ <;> rfl
    rw [List.takeWhile_append_of_pos fun c hc => ?_, stops, List.append_nil]
    have : c ≠ '/' := by rintro rfl; exact hv hc
    simpa using this
  have same : v = w := by rw [← upTo hv ha, h, upTo hw hb]
  subst same
  exact ⟨rfl, List.append_cancel_left h⟩

/-- What may be left of a text behind the segments of a path: nothing, or a slash if it is
tolerated. -/
def IsEnd (strict : Bool) (r : Text) : Prop := r = [] ∨ (strict = false ∧ r = ['/'])

instance (strict : Bool) (r : Text) : Decidable (IsEnd strict r) := inferInstanceAs (Decidable (_ ∨ _))

theorem IsEnd.isTail {strict : Bool} {r : Text} (h : IsEnd strict r) : IsTail r := by
  rcases h with rfl | ⟨-, rfl⟩
  · exact .inl rfl
  · exact .inr ⟨_, rfl⟩

theorem answers_iff {strict : Bool} {p : Path} {vs : List (Option Text)} {s : Text} :
    p.Answers strict vs s ↔ ∃ u r, s = u ++ r ∧ IsEnd strict r ∧ p.Splits vs u := by
  constructor
  · rintro (h | ⟨tolerant, u, hs, h⟩)
    · exact ⟨s, [], by simp, .inl rfl, h⟩
    · exact ⟨u, ['/'], hs, .inr ⟨tolerant, rfl⟩, h⟩
  · rintro ⟨u, r, rfl, rfl | ⟨tolerant, rfl⟩, h⟩
    · exact .inl (by simpa using h)
    · exact .inr ⟨tolerant, u, rfl, h⟩

/-- The texts that fit a path are those of which a way leaves no more than may be left. -/
theorem answers_iff_ways {strict : Bool} {p : Path} {vs : List (Option Text)} {s : Text}
    (hn : '\n' ∉ s) : p.Answers strict vs s ↔ ∃ r, (vs, r) ∈ p.ways s ∧ IsEnd strict r := by
  rw [answers_iff]
  constructor
  · rintro ⟨u, r, hs, hr, h⟩
    exact ⟨r, (mem_ways hn).2 ⟨u, hs, h⟩, hr⟩
  · rintro ⟨r, hw, hr⟩
    obtain ⟨u, hs, h⟩ := (mem_ways hn).1 hw
    exact ⟨u, r, hs, hr, h⟩

/-- Two rests of one text that are told apart by the order differ by the final slash. -/
theorem before_of_rests {strict : Bool} {a b r q : Text} (h : Sooner [some a] [some b])
    (ha : IsRest a) (hr : IsEnd strict r) (hq : IsEnd strict q) (he : a ++ r = b ++ q) :
    Before [some a] [some b] := by
  cases h with
  | shorter h =>
    have lengths := congrArg List.length he
    simp only [List.length_append] at lengths
    rcases hr with rfl | ⟨-, rfl⟩ <;> rcases hq with rfl | ⟨-, rfl⟩ <;>
      simp only [List.length_nil, List.length_singleton] at lengths
    · omega
    · omega
    · rw [List.append_nil] at he
      exact he ▸ .slash
    · omega
  | filled hne =>
    obtain ⟨c, t, rfl⟩ := ha.resolve_left hne
    rcases hq with rfl | ⟨-, rfl⟩ <;> simp at he
  | later h => cases h

/-- Among the ways to take a whole text, the sooner one comes before. -/
theorem before_of_sooner {strict : Bool} {p : Path} {vs ws : List (Option Text)} {u v r q : Text}
    (h : Sooner vs ws) (hu : p.Splits vs u) (hv : p.Splits ws v) (hr : IsEnd strict r)
    (hq : IsEnd strict q) (he : u ++ r = v ++ q) : Before vs ws := by
  induction hu generalizing ws v with
  | stop => cases h
  | @rest _ a b ha hb =>
    cases hv with
    | @rest _ c d hc hd =>
      simp only [List.cons_append, List.append_assoc, List.cons.injEq, true_and] at he
      obtain ⟨rfl, tails⟩ := value_unique ha.2 hc.2 (hb.isTail.append hr.isTail)
        (hd.isTail.append hq.isTail) he
      cases h with
      | shorter h => exact absurd h (Nat.lt_irrefl _)
      | filled => exact absurd rfl hc.1
      | later h => exact .later (before_of_rests h hb hr hq tails)
  | @literal w p vs u hu ih =>
    cases hv with
    | literal hv =>
      rw [List.append_assoc, List.append_assoc] at he
      exact ih h hv (List.append_cancel_left he)
  | @present _ _ p a u vs ha hu ih =>
    cases hv with
    | @present _ _ _ b v ws hb hv =>
      simp only [List.cons_append, List.append_assoc, List.cons.injEq, true_and] at he
      obtain ⟨rfl, tails⟩ := value_unique ha.2 hb.2 (hu.isTail.append hr.isTail)
        (hv.isTail.append hq.isTail) he
      cases h with
      | shorter h => exact absurd h (Nat.lt_irrefl _)
      | filled => exact absurd rfl hb.1
      | later h => exact .later (ih h hv tails)
    | absent => exact .present
  | @absent _ p vs u hu ih =>
    cases hv with
    | present => cases h
    | absent hv =>
      cases h with
      | later h => exact .later (ih h hv he)

end Path

end RoutePattern
