import RoutePattern.Proofs.Failures

/-! # Rows within rows

A row can stand within a row. What a row compiles to depends on its leaves alone, in their order,
and not on how they are gathered.

* `Route.leaves`: the leaves of a route from left to right.
* `Route.Filled`: every row in the route has an element.
* `source_of_filled`, `keysBehind_allNodes`: the source and the keys of a route are those of its
  leaves.
* `row_of_leaves`: a row compiles as the row of its leaves does.
* `compile_regrouped`: two rows with the same leaves.
-/

namespace RoutePattern

open Regex Regex.Reader

/-! ## Leaves -/

mutual

/-- The leaves of a route, from left to right: what is no row. -/
def Route.leaves : Route → List Route
  | .row _ rs => Route.allLeaves rs
  | r => [r]

def Route.allLeaves : List Route → List Route
  | [] => []
  | r :: rs => r.leaves ++ Route.allLeaves rs

end

/-- Every row in the route has an element. -/
inductive Route.Filled : Route → Prop
  | template (t : Text) : Filled (.template t)
  | pattern (q : Pattern) : Filled (.pattern q)
  | illTyped (k : Kind) : Filled (.illTyped k)
  | row {shape : RowShape} {rs : List Route} :
      rs ≠ [] → (∀ r ∈ rs, Filled r) → Filled (.row shape rs)

theorem Route.filled_row {shape : RowShape} {rs : List Route} :
    (Route.row shape rs).Filled ↔ rs ≠ [] ∧ ∀ r ∈ rs, r.Filled := by
  constructor
  · intro h
    cases h with
    | row ne all => exact ⟨ne, all⟩
  · rintro ⟨ne, all⟩
    exact .row ne all

variable {o : Options} {shape shape' : RowShape} {r : Route} {rs rs' : List Route}
  {g g' p p' : Progress} {q q' : Pattern}

theorem leaves_ne_nil (hr : r.Filled) : r.leaves ≠ [] := by
  induction hr with
  | template t => exact List.cons_ne_nil _ _
  | pattern q => exact List.cons_ne_nil _ _
  | illTyped k => exact List.cons_ne_nil _ _
  | @row shape rs ne _ ih =>
    cases rs with
    | nil => exact absurd rfl ne
    | cons r rs =>
      rw [Route.leaves, Route.allLeaves]
      exact List.append_ne_nil_of_left_ne_nil (ih r (by simp)) _

/-! ## Sources -/

theorem intercalate_append {as bs : List Text} (ha : as ≠ []) (hb : bs ≠ []) :
    ['|'].intercalate (as ++ bs) = ['|'].intercalate as ++ '|' :: ['|'].intercalate bs := by
  induction as with
  | nil => exact absurd rfl ha
  | cons a as ih =>
    cases as with
    | nil =>
      obtain ⟨b, bs, rfl⟩ := List.exists_cons_of_ne_nil hb
      rw [List.singleton_append, intercalate_cons]
      rw [List.intercalate_singleton]
    | cons a' as =>
      have rest := ih (List.cons_ne_nil _ _)
      rw [List.cons_append] at rest
      rw [List.cons_append, List.cons_append, intercalate_cons, intercalate_cons, rest,
        List.append_assoc, List.cons_append]

/-- The source of a row is that of its leaves, if this is so for its elements. An element without
leaves would still have a bar of its own. -/
theorem intercalate_sources (hf : ∀ r ∈ rs, r.Filled)
    (each : ∀ r ∈ rs, r.source o = ['|'].intercalate (r.leaves.map (Route.source o))) :
    ['|'].intercalate (Route.sources o rs) =
      ['|'].intercalate ((Route.allLeaves rs).map (Route.source o)) := by
  induction rs with
  | nil => rfl
  | cons r rs ih =>
    have first := each r (by simp)
    have rest := ih (fun s hs => hf s (by simp [hs])) (fun s hs => each s (by simp [hs]))
    cases rs with
    | nil =>
      rw [Route.sources, Route.sources, List.intercalate_singleton, first, Route.allLeaves,
        Route.allLeaves, List.append_nil]
    | cons r' rs =>
      have nonempty : ∀ s ∈ r :: r' :: rs, s.leaves.map (Route.source o) ≠ [] := fun s hs h =>
        leaves_ne_nil (hf s hs) (List.map_eq_nil_iff.1 h)
      have later : (Route.allLeaves (r' :: rs)).map (Route.source o) ≠ [] := by
        rw [Route.allLeaves, List.map_append]
        exact List.append_ne_nil_of_left_ne_nil (nonempty r' (by simp)) _
      have all : (Route.allLeaves (r :: r' :: rs)).map (Route.source o) =
          r.leaves.map (Route.source o) ++ (Route.allLeaves (r' :: rs)).map (Route.source o) := by
        rw [Route.allLeaves, List.map_append]
      rw [all, intercalate_append (nonempty r (by simp)) later, ← first, ← rest]
      exact intercalate_cons _ _ _

theorem source_of_filled (o : Options) (hr : r.Filled) :
    r.source o = ['|'].intercalate (r.leaves.map (Route.source o)) := by
  induction hr with
  | template t => exact List.intercalate_singleton.symm
  | pattern q => exact List.intercalate_singleton.symm
  | illTyped k => exact List.intercalate_singleton.symm
  | row _ hf ih =>
    rw [Route.source, Route.leaves]
    exact intercalate_sources hf ih

/-! ## Keys -/

mutual

/-- A row has no keys of its own: the keys behind the nodes of a route are those of its leaves. -/
theorem keysBehind_nodes (r : Route) (keys : List Key) :
    keysBehind r.nodes keys = keysBehind r.leaves keys := by
  cases r with
  | row shape rs =>
    rw [Route.nodes, keysBehind_row, Route.leaves]
    exact keysBehind_allNodes rs keys
  | template t => rfl
  | pattern q => rfl
  | illTyped k => rfl

theorem keysBehind_allNodes (rs : List Route) (keys : List Key) :
    keysBehind (Route.allNodes rs) keys = keysBehind (Route.allLeaves rs) keys := by
  cases rs with
  | nil => rfl
  | cons r rs =>
    rw [Route.allNodes, Route.allLeaves, keysBehind_append, keysBehind_append,
      keysBehind_nodes r keys]
    exact keysBehind_allNodes rs _

end

/-! ## Rows -/

theorem Visits.keys_eq {keys keys' : List Key} {ns : List Route} (h : Visits o keys ns none keys') :
    keys' = keysBehind ns keys := by
  generalize hr : (none : Option Failure) = result at h
  cases h with
  | sound _ => rfl
  | failed _ _ _ _ => cases hr

/-- A row that compiles is read from the sources of its leaves, joined by bars, and adds their
keys. -/
theorem row_of_leaves (hf : ∀ r ∈ rs, r.Filled)
    (h : compile o (.row shape rs) g = (.ok q, p)) :
    Pattern.read o.flags (['|'].intercalate ((Route.allLeaves rs).map (Route.source o))) = .ok q ∧
      p.keys = keysBehind (Route.allLeaves rs) g.keys := by
  rw [← intercalate_sources hf fun r hr => source_of_filled o (hf r hr)]
  have all := visits_compileAll o rs g
  unfold VisitedAll at all
  rw [compile] at h
  split at h
  · next sources p₁ hs =>
    rw [hs] at all
    obtain ⟨read, keys⟩ := conclude_ok h
    rcases all with ⟨hsources, visits⟩ | ⟨e, he, -⟩
    · obtain rfl := Except.ok.inj hsources
      exact ⟨read, keys.trans (visits.keys_eq.trans (keysBehind_allNodes rs g.keys))⟩
    · cases he
  · cases h

/-- Two rows with the same leaves from left to right, whose rows within have elements: if both
compile under the same options behind the same keys, they have one pattern and the same keys,
however the leaves are gathered. -/
theorem compile_regrouped (hf : ∀ r ∈ rs, r.Filled) (hf' : ∀ r ∈ rs', r.Filled)
    (leaves : Route.allLeaves rs = Route.allLeaves rs') (keys : g.keys = g'.keys)
    (h : compile o (.row shape rs) g = (.ok q, p))
    (h' : compile o (.row shape' rs') g' = (.ok q', p')) : q = q' ∧ p.keys = p'.keys := by
  obtain ⟨read, added⟩ := row_of_leaves hf h
  obtain ⟨read', added'⟩ := row_of_leaves hf' h'
  rw [leaves, read'] at read
  refine ⟨(Except.ok.inj read).symm, ?_⟩
  rw [added, added', leaves, keys]

theorem exists_ok {α : Type} {x : Outcome α} (h : x.1.toOption.isSome) :
    ∃ a p, x = (.ok a, p) := by
  rcases x with ⟨e | a, p⟩
  · cases h
  · exact ⟨a, p, rfl⟩

/-- The pattern of `(c)(?P<n>d)`. -/
def pairPattern : Pattern where
  tree := .seq (.capture 1 (.char 99)) (.capture 2 (.char 100))
  flags := { unicode := true }
  groups := [⟨0, none⟩, ⟨3, some ['n']⟩]
  sets := []
  source := "(c)(?P<n>d)".toList

/-- A pattern in a tuple in a list, and in a tuple behind a list of lists. -/
theorem compile_regrouped_pattern : Pattern.read {} "(c)(?P<n>d)".toList = .ok pairPattern ∧
    ∃ q p p',
      compile {} (.row .list [.template "/:a(\\d+)".toList,
        .row .tuple [.template "/b*".toList, .pattern pairPattern]]) {} = (.ok q, p) ∧
      compile {} (.row .tuple [.row .list [.row .list [.template "/:a(\\d+)".toList],
        .template "/b*".toList], .pattern pairPattern]) {} = (.ok q, p') ∧ p.keys = p'.keys := by
  refine ⟨by decide, ?_⟩
  obtain ⟨q, p, h⟩ := exists_ok (x := compile {} (.row .list [.template "/:a(\\d+)".toList,
    .row .tuple [.template "/b*".toList, .pattern pairPattern]]) {}) (by decide +kernel)
  obtain ⟨q', p', h'⟩ := exists_ok (x := compile {} (.row .tuple [.row .list
    [.row .list [.template "/:a(\\d+)".toList], .template "/b*".toList], .pattern pairPattern]) {})
    (by decide +kernel)
  have filled : ∀ r ∈ [Route.template "/:a(\\d+)".toList,
      .row .tuple [.template "/b*".toList, .pattern pairPattern]], r.Filled := by
    simp [Route.filled_row, Route.Filled.template, Route.Filled.pattern]
  have filled' : ∀ r ∈ [Route.row .list [.row .list [.template "/:a(\\d+)".toList],
      .template "/b*".toList], .pattern pairPattern], r.Filled := by
    simp [Route.filled_row, Route.Filled.template, Route.Filled.pattern]
  obtain ⟨rfl, keys⟩ := compile_regrouped filled filled' rfl rfl h h'
  exact ⟨q, p, p', h, h', keys⟩

end RoutePattern
