import RoutePattern.Proofs.Chain.Syntax
import RoutePattern.Proofs.Path.Ways

/-! # The ways to split a text along a chain

* `Separator.admits`: the places that a value behind a separator may have.
* `Link.ways`, `Chain.ways`: the values with which a chain takes a beginning of a text, and what is
  left, in order of preference.
* `mem_ways`: the ways that leave nothing are the splits of the text.
* `ways_pairwise`: the ways come in the order of the lengths of their values.
* `Chain.splits`: the splits of a text, in that order.
-/

namespace RoutePattern

/-! ## Places -/

/-- With this text ahead, a value behind the separator may go on. -/
def Separator.admits : Separator → Text → Bool
  | dot, v => v.head?.any fun c => c != '/' && c != '.'
  | mark w, v => (v.head?.any fun c => c != '/' && c != '\n') && !w.text.isPrefixOf v

/-- A value may go on where there is no slash and its separator does not come again. -/
theorem Separator.admits_cons (d : Separator) {c : Char} {v : Text} (hc : c ≠ '\n') :
    d.admits (c :: v) ↔ c ≠ '/' ∧ ¬ d.text <+: c :: v := by
  cases d with
  | dot =>
    have dot : ['.'] <+: c :: v ↔ c = '.' := by simp [List.cons_prefix_cons, eq_comm (a := c)]
    rw [text, dot]
    simp [admits]
  | mark w =>
    have mark : w.text.isPrefixOf (c :: v) = false ↔ ¬ w.text <+: c :: v := by
      rw [← List.isPrefixOf_iff_prefix, Bool.not_eq_true]
    simp [admits, text, hc, mark]

/-- The places of a value are those of a text without slashes in which its separator does not come
up. -/
theorem isValue_iff (d : Separator) {x u : Text} (hn : '\n' ∉ x) :
    (x ≠ [] ∧ ∀ a b, x = a ++ b → b ≠ [] → d.admits (b ++ u)) ↔
      Path.IsValue x ∧ d.Spares x u := by
  have place : ∀ {a b : Text}, x = a ++ b → b ≠ [] →
      (d.admits (b ++ u) ↔ b.head? ≠ some '/' ∧ ¬ d.text <+: b ++ u) := by
    rintro a b rfl hb
    obtain ⟨c, b, rfl⟩ := List.exists_cons_of_ne_nil hb
    rw [List.cons_append, d.admits_cons (by rintro rfl; exact hn (by simp))]
    simp
  constructor
  · rintro ⟨nonempty, all⟩
    refine ⟨⟨nonempty, fun slash => ?_⟩, fun a b hab hb => ((place hab hb).1 (all a b hab hb)).2⟩
    obtain ⟨a, b, hab⟩ := List.append_of_mem slash
    exact ((place hab (by simp)).1 (all a _ hab (by simp))).1 rfl
  · rintro ⟨⟨nonempty, slash⟩, spares⟩
    refine ⟨nonempty, fun a b hab hb => (place hab hb).2 ⟨fun first => ?_, spares a b hab hb⟩⟩
    exact slash (hab ▸ List.mem_append_right a (List.mem_of_head? first))

/-! ## Ways -/

/-- The values of the links at the start of a text, each with what is left. -/
def Link.ways : List Link → Text → List (List Text × Text)
  | [], u => [([], u)]
  | k :: ks, u => (k.separator.text.isPrefixOf? u).toList.flatMap fun v =>
      (stretches k.separator.admits v).flatMap fun x => (ways ks x.2).map fun y => (x.1 :: y.1, y.2)

/-- The values of a chain at the start of a text, each with what is left. -/
def Chain.ways (p : Chain) (u : Text) : List (List Text × Text) :=
  (values u).flatMap fun x => (Link.ways p.links x.2).map fun y => (x.1 :: y.1, y.2)

theorem isPrefixOf?_iff {w u v : Text} : w.isPrefixOf? u = some v ↔ u = w ++ v := by
  rw [List.isPrefixOf?_eq_some_iff_append_eq, eq_comm]

/-- What is left of a text is its end. -/
theorem Link.suffix_of_mem {ks : List Link} {u : Text} {x : List Text × Text} (h : x ∈ ways ks u) :
    x.2 <:+ u := by
  induction ks generalizing u x with
  | nil =>
    obtain rfl := List.mem_singleton.1 h
    exact List.suffix_rfl
  | cons k ks ih =>
    simp only [ways, List.mem_flatMap, List.mem_map, Option.mem_toList, isPrefixOf?_iff] at h
    obtain ⟨v, rfl, ⟨y, r⟩, hy, z, hz, rfl⟩ := h
    obtain ⟨rfl, -⟩ := mem_stretches.1 hy
    exact (ih hz).trans ((List.suffix_append y r).trans (List.suffix_append _ _))

theorem Chain.suffix_of_mem {p : Chain} {u : Text} {x : List Text × Text} (h : x ∈ p.ways u) :
    x.2 <:+ u := by
  obtain ⟨⟨y, r⟩, hy, hx⟩ := List.mem_flatMap.1 h
  obtain ⟨z, hz, rfl⟩ := List.mem_map.1 hx
  obtain ⟨rfl, -⟩ := mem_values.1 hy
  exact (Link.suffix_of_mem hz).trans (List.suffix_append _ _)

/-- The ways that leave nothing are the splits of the text. -/
theorem Link.mem_ways {ks : List Link} {u : Text} {xs : List Text} (hn : '\n' ∉ u) :
    (xs, []) ∈ ways ks u ↔ Splits ks xs u := by
  induction ks generalizing u xs with
  | nil =>
    rw [ways, List.mem_singleton, Prod.mk.injEq]
    constructor
    · rintro ⟨rfl, rfl⟩
      exact .nil
    · intro h
      cases h
      exact ⟨rfl, rfl⟩
  | cons k ks ih =>
    simp only [ways, List.mem_flatMap, List.mem_map, Option.mem_toList, isPrefixOf?_iff,
      Prod.exists, Prod.mk.injEq]
    constructor
    · rintro ⟨v, rfl, x, r, hx, ys, q, h, rfl, rfl⟩
      obtain ⟨rfl, places⟩ := mem_stretches.1 hx
      simp only [List.mem_append, not_or] at hn
      obtain ⟨value, spares⟩ := (isValue_iff _ hn.2.1).1 places
      rw [← List.append_assoc]
      exact .cons value spares ((ih hn.2.2).1 h)
    · intro h
      cases h with
      | @cons _ _ x r ys value spares rest =>
        simp only [List.mem_append, not_or] at hn
        refine ⟨x ++ r, List.append_assoc .., x, r, ?_, ys, [], (ih hn.2).2 rest, rfl, rfl⟩
        exact mem_stretches.2 ⟨rfl, (isValue_iff _ hn.1.2).2 ⟨value, spares⟩⟩

theorem Chain.mem_ways {p : Chain} {u : Text} {xs : List Text} (hn : '\n' ∉ u) :
    (xs, []) ∈ p.ways u ↔ p.Splits xs u := by
  simp only [ways, List.mem_flatMap, List.mem_map, Prod.exists, Prod.mk.injEq]
  constructor
  · rintro ⟨x, r, hx, ys, q, h, rfl, rfl⟩
    obtain ⟨rfl, value⟩ := mem_values.1 hx
    exact .intro value ((Link.mem_ways fun hr => hn (List.mem_append_right _ hr)).1 h)
  · intro h
    cases h with
    | @intro x r ys value rest =>
      refine ⟨x, r, mem_values.2 ⟨rfl, value⟩, ys, [], ?_, rfl, rfl⟩
      exact (Link.mem_ways fun hr => hn (List.mem_append_right _ hr)).2 rest

/-! ## Order -/

/-- Values that come in the order of their lengths, each with further values in order. -/
theorem shorter_flatMap {xs : List (Text × Text)} {g : Text → List (List Text × Text)}
    (hx : xs.Pairwise fun x y => x.1.length < y.1.length)
    (hg : ∀ u, (g u).Pairwise fun x y => Shorter x.1 y.1) :
    (xs.flatMap fun x => (g x.2).map fun y => (x.1 :: y.1, y.2)).Pairwise
      fun x y => Shorter x.1 y.1 := by
  refine List.pairwise_flatMap.2 ⟨fun x _ => ?_, hx.imp fun {x y} h a ha b hb => ?_⟩
  · exact List.pairwise_map.2 ((hg x.2).imp .cons)
  · obtain ⟨a, -, rfl⟩ := List.mem_map.1 ha
    obtain ⟨b, -, rfl⟩ := List.mem_map.1 hb
    exact .rel h

theorem Link.ways_pairwise (ks : List Link) (u : Text) :
    (ways ks u).Pairwise fun x y => Shorter x.1 y.1 := by
  induction ks generalizing u with
  | nil => exact List.pairwise_singleton _ _
  | cons k ks ih =>
    rw [ways]
    cases k.separator.text.isPrefixOf? u with
    | none => exact .nil
    | some v =>
      rw [Option.toList_some, List.flatMap_singleton]
      exact shorter_flatMap (stretches_pairwise _ v) ih

theorem Chain.ways_pairwise (p : Chain) (u : Text) :
    (p.ways u).Pairwise fun x y => Shorter x.1 y.1 :=
  shorter_flatMap (values_pairwise u) (Link.ways_pairwise p.links)

/-! ## Splits -/

/-- The values with which a chain takes a whole text. -/
def Chain.splits (p : Chain) (u : Text) : List (List Text) :=
  ((p.ways u).filter fun x => x.2 = []).map Prod.fst

theorem Chain.mem_splits {p : Chain} {u : Text} {xs : List Text} (hn : '\n' ∉ u) :
    xs ∈ p.splits u ↔ p.Splits xs u := by
  rw [← mem_ways hn, splits, List.mem_map]
  constructor
  · rintro ⟨⟨xs, r⟩, h, rfl⟩
    obtain ⟨way, hr⟩ := List.mem_filter.1 h
    obtain rfl : r = [] := of_decide_eq_true hr
    exact way
  · intro way
    exact ⟨_, List.mem_filter.2 ⟨way, decide_eq_true rfl⟩, rfl⟩

theorem Chain.splits_pairwise (p : Chain) (u : Text) : (p.splits u).Pairwise Shorter :=
  List.pairwise_map.2 ((p.ways_pairwise u).filter _)

end RoutePattern
