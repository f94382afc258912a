import RoutePattern.Proofs.Numbering
import RoutePattern.Proofs.Routes

/-! # What a failure leaves

A route that does not compile fails at one of its nodes, and the keys that were added before stay.

* `Route.nodes`: the nodes of a route in depth-first order, from left to right.
* `Route.Fails`: a node fails by itself, and nothing below it does.
* `Visits`: what becomes of nodes in turn; `visits_compile`: compiling a route visits its nodes.
* `compile_fails_iff`: the failure and the keys are those of the first node that fails.
-/

namespace RoutePattern

open Regex

/-! ## Nodes -/

mutual

/-- The nodes of a route in depth-first order: a row stands in front of its elements. -/
def Route.nodes : Route → List Route
  | .row shape rs => .row shape rs :: Route.allNodes rs
  | r => [r]

def Route.allNodes : List Route → List Route
  | [] => []
  | r :: rs => r.nodes ++ Route.allNodes rs

end

/-- The nodes below a node. -/
def Route.inner (r : Route) : List Route := r.nodes.tail

/-- Why the reader refuses a source. -/
def refusal? (flags : Flags) (source : Text) : Option Failure :=
  match Pattern.read flags source with
  | .ok _ => none
  | .error e => some (.ofError source e)

/-- What is wrong with a node, its elements apart: its kind, or its source is refused. -/
def Route.fault? (o : Options) : Route → Option Failure
  | .template t => refusal? o.flags (Route.source o (.template t))
  | .pattern _ => none
  | .row shape rs => refusal? o.flags (Route.source o (.row shape rs))
  | .illTyped k => some (.illTyped k)

/-- The node fails by itself: there is nothing wrong below it. -/
def Route.Fails (o : Options) (r : Route) (e : Failure) : Prop :=
  r.fault? o = some e ∧ ∀ s ∈ r.inner, s.fault? o = none

/-- The node is the first of the route that fails, `before` are the nodes in front of it. -/
structure Route.FailsAt (o : Options) (r : Route) (before : List Route) (n : Route) (e : Failure) :
    Prop where
  place : ∃ after, r.nodes = before ++ n :: after
  first : ∀ m ∈ before, ∀ e', ¬ m.Fails o e'
  fails : n.Fails o e

/-- The keys that a node adds behind others. A row has none of its own. -/
def Route.newKeys (keys : List Key) : Route → List Key
  | .template t =>
    (assign (draft t).named (Key.nextNumber keys) (Scan.openings (draft t).source)).map Assigned.key
  | .pattern q => (assign [] (Key.nextNumber keys) (Scan.openings q.source)).map Assigned.key
  | .row _ _ => []
  | .illTyped _ => []

/-- The keys behind nodes that add theirs in turn. -/
def keysBehind (ns : List Route) (keys : List Key) : List Key :=
  ns.foldl (fun keys n => keys ++ n.newKeys keys) keys

theorem keysBehind_append (ms ns : List Route) (keys : List Key) :
    keysBehind (ms ++ ns) keys = keysBehind ns (keysBehind ms keys) := List.foldl_append

theorem keysBehind_row (shape : RowShape) (rs ns : List Route) (keys : List Key) :
    keysBehind (.row shape rs :: ns) keys = keysBehind ns keys := by
  rw [keysBehind, List.foldl_cons, Route.newKeys, List.append_nil]
  rfl

/-! ## Nodes in turn -/

/-- What becomes of nodes in turn: there is nothing wrong with any, or the first one that fails ends
it. The keys of that node stay, and those of the nodes below it. -/
inductive Visits (o : Options) (keys : List Key) (ns : List Route) : Option Failure → List Key → Prop
  | sound : (∀ n ∈ ns, n.fault? o = none) → Visits o keys ns none (keysBehind ns keys)
  | failed {before : List Route} {n : Route} (after : List Route) {e : Failure} :
      ns = before ++ n :: after → (∀ m ∈ before, ∀ e', ¬ m.Fails o e') → n.Fails o e →
      Visits o keys ns (some e) (keysBehind (before ++ n.nodes) keys)

namespace Visits

variable {o : Options} {keys keys' keys'' : List Key} {ms ns : List Route} {e : Failure}
  {result : Option Failure}

/-- Nodes with nothing wrong in front. -/
theorem behind (h : Visits o keys ms none keys') (h' : Visits o keys' ns result keys'') :
    Visits o keys (ms ++ ns) result keys'' := by
  cases h with
  | sound sound =>
    cases h' with
    | sound sound' =>
      rw [← keysBehind_append]
      apply Visits.sound
      intro n hn
      exact (List.mem_append.1 hn).elim (sound n) (sound' n)
    | @failed before n after e place first fails =>
      rw [← keysBehind_append, ← List.append_assoc]
      refine .failed after ?_ ?_ fails
      · rw [place, List.append_assoc]
      · intro m hm e' hf
        rcases List.mem_append.1 hm with hm | hm
        · exact absurd (hf.1.symm.trans (sound m hm)) nofun
        · exact first m hm e' hf

/-- Nodes behind one that fails are not visited. -/
theorem stops (h : Visits o keys ms (some e) keys') (ns : List Route) :
    Visits o keys (ms ++ ns) (some e) keys' := by
  cases h with
  | @failed before n after e place first fails =>
    refine .failed (after ++ ns) ?_ first fails
    rw [place, List.append_assoc, List.cons_append]

/-- A row is read behind its elements, if there is nothing wrong with these. -/
theorem row (shape : RowShape) {rs : List Route}
    (h : Visits o keys (Route.allNodes rs) none keys') :
    Visits o keys (Route.row shape rs).nodes ((Route.row shape rs).fault? o) keys' := by
  have whole : keysBehind (Route.row shape rs).nodes keys = keysBehind (Route.allNodes rs) keys := by
    rw [Route.nodes, keysBehind_row]
  cases h with
  | sound sound =>
    rw [← whole]
    cases hf : (Route.row shape rs).fault? o with
    | none =>
      apply Visits.sound
      intro n hn
      rw [Route.nodes, List.mem_cons] at hn
      rcases hn with rfl | hn
      · exact hf
      · exact sound n hn
    | some e =>
      have place : (Route.row shape rs).nodes = [] ++ Route.row shape rs :: Route.allNodes rs := by
        rw [Route.nodes, List.nil_append]
      refine .failed _ place (fun m hm => absurd hm List.not_mem_nil) ⟨hf, ?_⟩
      rw [Route.inner, Route.nodes, List.tail_cons]
      exact sound

/-- A row does not fail itself if something in it does. -/
theorem within {shape : RowShape} {rs : List Route}
    (h : Visits o keys (Route.allNodes rs) (some e) keys') :
    Visits o keys (Route.row shape rs).nodes (some e) keys' := by
  cases h with
  | @failed before n after e place first fails =>
    have same : keysBehind (before ++ n.nodes) keys =
        keysBehind (Route.row shape rs :: before ++ n.nodes) keys := by
      rw [List.cons_append, keysBehind_row]
    rw [same]
    refine .failed after ?_ ?_ fails
    · rw [Route.nodes, place, List.cons_append]
    · intro m hm e' hf
      rcases List.mem_cons.1 hm with rfl | hm
      · have inside : n ∈ (Route.row shape rs).inner := by
          rw [Route.inner, Route.nodes, List.tail_cons, place]
          simp
        have sound := hf.2 n inside
        rw [fails.1] at sound
        cases sound
      · exact first m hm e' hf

end Visits

/-! ## Compiling visits the nodes -/

/-- A source is concluded: it is accepted, or refused for what the reader finds; keys stay. -/
theorem conclude_cases (g : Progress) (flags : Flags) (r : Route) (source : Text) :
    (∃ q, (g.conclude flags r source).1 = .ok q ∧ q.source = source ∧
      refusal? flags source = none) ∨
    ∃ e, (g.conclude flags r source).1 = .error e ∧ refusal? flags source = some e := by
  unfold Progress.conclude refusal?
  cases hq : Pattern.read flags source with
  | ok q =>
    left
    exact ⟨q, rfl, (Reader.pattern_read_eq_ok.1 hq).1, rfl⟩
  | error e =>
    right
    exact ⟨_, rfl, rfl⟩

/-- The route compiles to its source, or it fails, and its nodes are visited. -/
def Visited (o : Options) (r : Route) (g : Progress) : Prop :=
  (∃ q, (compile o r g).1 = .ok q ∧ q.source = r.source o ∧
    Visits o g.keys r.nodes none (compile o r g).2.keys) ∨
  ∃ e, (compile o r g).1 = .error e ∧ Visits o g.keys r.nodes (some e) (compile o r g).2.keys

/-- The routes compile to their sources, or one of them fails, and their nodes are visited. -/
def VisitedAll (o : Options) (rs : List Route) (g : Progress) : Prop :=
  ((compileAll o rs g).1 = .ok (Route.sources o rs) ∧
    Visits o g.keys (Route.allNodes rs) none (compileAll o rs g).2.keys) ∨
  ∃ e, (compileAll o rs g).1 = .error e ∧
    Visits o g.keys (Route.allNodes rs) (some e) (compileAll o rs g).2.keys

/-- A leaf adds its keys before its source is read. -/
theorem visited_leaf {o : Options} {r : Route} {g : Progress} (hr : r.nodes = [r])
    (hk : (compile o r g).2.keys = g.keys ++ r.newKeys g.keys)
    (hc : (∃ q, (compile o r g).1 = .ok q ∧ q.source = r.source o ∧ r.fault? o = none) ∨
      ∃ e, (compile o r g).1 = .error e ∧ r.fault? o = some e) : Visited o r g := by
  have keys : (compile o r g).2.keys = keysBehind ([] ++ r.nodes) g.keys := by
    rw [hk, hr]
    rfl
  have none_inner : r.inner = [] := by rw [Route.inner, hr]; rfl
  rcases hc with ⟨q, hq, source, sound⟩ | ⟨e, he, fault⟩
  · left
    refine ⟨q, hq, source, ?_⟩
    rw [keys]
    apply Visits.sound
    intro n hn
    rw [hr, List.mem_singleton] at hn
    rwa [hn]
  · right
    refine ⟨e, he, ?_⟩
    rw [keys]
    refine .failed [] hr (fun m hm => absurd hm List.not_mem_nil) ⟨fault, ?_⟩
    rw [none_inner]
    exact fun s hs => absurd hs List.not_mem_nil

mutual

/-- Induction on the route: a row visits its elements, and is read only if nothing in them fails. -/
theorem visits_compile (o : Options) (r : Route) (g : Progress) : Visited o r g := by
  cases r with
  | template t =>
    apply visited_leaf rfl
    · rw [compile, compileTemplate, keys_conclude, Progress.keys_collect]
      rfl
    · rw [compile]
      exact conclude_cases _ o.flags (.template t) (o.anchored (draft t).source)
  | pattern q =>
    apply visited_leaf rfl
    · rw [compile, Progress.keys_collect]
      rfl
    · left
      rw [compile]
      exact ⟨q, rfl, rfl, rfl⟩
  | illTyped k =>
    apply visited_leaf rfl
    · rw [compile]
      exact (List.append_nil _).symm
    · right
      rw [compile]
      exact ⟨_, rfl, rfl⟩
  | row shape rs =>
    have all := visits_compileAll o rs g
    unfold VisitedAll at all
    unfold Visited
    rw [compile]
    split
    · next sources g' h =>
      rw [h] at all
      rcases all with ⟨hs, visits⟩ | ⟨e, he, -⟩
      · obtain rfl := Except.ok.inj hs
        have row := visits.row shape
        rw [keys_conclude]
        rcases conclude_cases g' o.flags (.row shape rs) (Route.source o (.row shape rs)) with
          ⟨q, hq, source, sound⟩ | ⟨e, he, fault⟩
        · left
          rw [Route.fault?, sound] at row
          exact ⟨q, hq, source, row⟩
        · right
          rw [Route.fault?, fault] at row
          exact ⟨e, he, row⟩
      · cases he
    · next e g' h =>
      rw [h] at all
      rcases all with ⟨he, -⟩ | ⟨e', he, visits⟩
      · cases he
      · obtain rfl := Except.error.inj he
        right
        exact ⟨e, rfl, visits.within⟩

/-- So do routes in turn, up to the first that fails. -/
theorem visits_compileAll (o : Options) (rs : List Route) (g : Progress) : VisitedAll o rs g := by
  cases rs with
  | nil =>
    left
    rw [compileAll]
    exact ⟨rfl, .sound fun n hn => absurd hn List.not_mem_nil⟩
  | cons r rs =>
    have first := visits_compile o r g
    unfold Visited at first
    unfold VisitedAll
    rw [compileAll, Route.allNodes]
    split
    · next q g' h =>
      rw [h] at first
      rcases first with ⟨q', hq, source, visits⟩ | ⟨e, he, -⟩
      · obtain rfl := Except.ok.inj hq
        have rest := visits_compileAll o rs g'
        unfold VisitedAll at rest
        split
        · next h' =>
          rw [h'] at rest
          rcases rest with ⟨hs, visits'⟩ | ⟨e, he, -⟩
          · left
            rw [Route.sources, ← source, ← Except.ok.inj hs]
            exact ⟨rfl, visits.behind visits'⟩
          · cases he
        · next h' =>
          rw [h'] at rest
          rcases rest with ⟨hs, -⟩ | ⟨e, he, visits'⟩
          · cases hs
          · right
            exact ⟨e, he, visits.behind visits'⟩
      · cases he
    · next e g' h =>
      rw [h] at first
      rcases first with ⟨q, hq, -⟩ | ⟨e', he, visits⟩
      · cases hq
      · obtain rfl := Except.error.inj he
        right
        exact ⟨e, rfl, visits.stops _⟩

end

/-! ## The first node that fails -/

/-- Only one node of a route is the first that fails. -/
theorem Route.FailsAt.unique {o : Options} {r : Route} {before before' : List Route} {n n' : Route}
    {e e' : Failure} (h : r.FailsAt o before n e) (h' : r.FailsAt o before' n' e') :
    before = before' ∧ n = n' ∧ e = e' := by
  obtain ⟨after, place⟩ := h.place
  obtain ⟨after', place'⟩ := h'.place
  have split := place.symm.trans place'
  rcases List.append_eq_append_iff.1 split with ⟨c, rfl, hc⟩ | ⟨c, rfl, hc⟩
  · cases c with
    | nil =>
      obtain ⟨rfl, -⟩ := List.cons.inj hc
      have same : some e = some e' := h.fails.1.symm.trans h'.fails.1
      exact ⟨(List.append_nil _).symm, rfl, Option.some.inj same⟩
    | cons m c =>
      obtain ⟨rfl, -⟩ := List.cons.inj hc
      exact absurd h.fails (h'.first n (by simp) e)
  · cases c with
    | nil =>
      obtain ⟨rfl, -⟩ := List.cons.inj hc
      have same : some e = some e' := h.fails.1.symm.trans h'.fails.1
      exact ⟨List.append_nil _, rfl, Option.some.inj same⟩
    | cons m c =>
      obtain ⟨rfl, -⟩ := List.cons.inj hc
      exact absurd h'.fails (h.first n' (by simp) e')

/-- A route fails where the first of its nodes does, and with what is wrong there. The keys that
stay are those of the leaves in front of that node and its own: of a template all keys of its
expression, of a row those of its leaves, and none of what is no route. -/
theorem compile_fails_iff (o : Options) (r : Route) (g : Progress) (e : Failure)
    (keys : List Key) :
    ((compile o r g).1 = .error e ∧ (compile o r g).2.keys = keys) ↔
      ∃ before n, r.FailsAt o before n e ∧ keys = keysBehind (before ++ n.nodes) g.keys := by
  have visited := visits_compile o r g
  unfold Visited at visited
  constructor
  · rintro ⟨he, rfl⟩
    rcases visited with ⟨q, hq, -⟩ | ⟨e', he', visits⟩
    · rw [he] at hq
      cases hq
    · obtain rfl := Except.error.inj (he.symm.trans he')
      generalize (compile o r g).2.keys = ks at visits
      cases visits with
      | @failed before n after e place first fails =>
        exact ⟨before, n, ⟨⟨after, place⟩, first, fails⟩, rfl⟩
  · rintro ⟨before, n, fails, rfl⟩
    rcases visited with ⟨q, -, -, visits⟩ | ⟨e', he', visits⟩
    · generalize (compile o r g).2.keys = ks at visits
      cases visits with
      | sound sound =>
        obtain ⟨after, place⟩ := fails.place
        have none := sound n (by rw [place]; simp)
        rw [fails.fails.1] at none
        cases none
    · generalize (compile o r g).2.keys = ks at visits ⊢
      cases visits with
      | @failed before' n' after' e' place first fails' =>
        obtain ⟨rfl, rfl, rfl⟩ := fails.unique ⟨⟨after', place⟩, first, fails'⟩
        exact ⟨he', rfl⟩

/-- The keys of a template that is refused stay, and nothing behind it is compiled. -/
example : (compile {} (.row .list [.template "/:x".toList,
      .row .tuple [.template "/b(".toList, .template "/:y".toList]]) {}).2.keys.map Key.name =
    [.text ['x'], .number 0] := by
  decide +kernel

end RoutePattern
