import RoutePattern.Proofs.Failures
import RoutePattern.Session

/-! # What is reported while a route is compiled

Compiling adds keys and makes records. Both tell of the same events.

* `Event`: a key is added, or a node is done. `Event.key?`, `Event.record?`: what it leaves.
* `Route.order`: the nodes of a route as they are done, a row behind its elements.
* `Course`: the events at nodes in turn, up to the first that there is something wrong with.
* `Progress.Through`: keys and records have been added, those of some events.
* `through_compile`: compiling a route goes through the events at its nodes.
* `log_of_compile`: the text that the streams receive for a step that compiles.
-/

namespace RoutePattern

open Regex

/-! ## Events -/

/-- What happens while a route is compiled. -/
inductive Event
  /-- A key is added; `param` if a parameter opened its group. -/
  | added (k : Key) (param : Bool)
  /-- A node is done: its source has been accepted. -/
  | compiled (n : Route) (source : Text)

/-- The key that an event adds. -/
def Event.key? : Event → Option Key
  | .added k _ => some k
  | .compiled _ _ => none

/-- What is reported of an event: nothing of a key that a parameter brought along. -/
def Event.record? : Event → Option Record
  | .added _ true => none
  | .added k false => some (.implicitGroup k.name k.offset)
  | .compiled n source => some (.compiled n source)

/-- The expression of a node, whose groups get keys. A row has none of its own. -/
def Route.expression : Route → Text
  | .template t => (draft t).source
  | .pattern q => q.source
  | .row _ _ => []
  | .illTyped _ => []

/-- A parameter of the node opens a group at the index. -/
def Route.opensAt : Route → Nat → Bool
  | .template t, i => (RoutePattern.opened t).any (·.1 = i)
  | _, _ => false

/-- The keys that a node adds behind others, one for each group of its expression. -/
def Route.added (keys : List Key) (n : Route) : List Event :=
  List.zipWith (fun g k => .added k (n.opensAt g.index)) (Scan.openings n.expression)
    (n.newKeys keys)

/-- A template or a row is done once it is accepted; a pattern comes back as it is. -/
def Route.done (o : Options) : Route → List Event
  | .template t => [.compiled (.template t) (Route.source o (.template t))]
  | .row shape rs => [.compiled (.row shape rs) (Route.source o (.row shape rs))]
  | .pattern _ => []
  | .illTyped _ => []

/-- The events at nodes in turn, if there is nothing wrong with any. -/
def events (o : Options) (keys : List Key) : List Route → List Event
  | [] => []
  | n :: ns => n.added keys ++ n.done o ++ events o (keys ++ n.newKeys keys) ns

mutual

/-- The nodes of a route in the order in which they are done: a row stands behind its elements. -/
def Route.order : Route → List Route
  | .row shape rs => Route.orderAll rs ++ [.row shape rs]
  | r => [r]

def Route.orderAll : List Route → List Route
  | [] => []
  | r :: rs => r.order ++ Route.orderAll rs

end

/-- What happens at nodes in turn: all are done, or the first that there is something wrong with
ends it. That node adds its keys, but it is not done, and nothing happens at the nodes behind it. -/
inductive Course (o : Options) (keys : List Key) (ns : List Route) :
    Option Failure → List Event → Prop
  | whole : (∀ n ∈ ns, n.fault? o = none) → Course o keys ns none (events o keys ns)
  | ended {before : List Route} {n : Route} (after : List Route) {e : Failure} :
      ns = before ++ n :: after → (∀ m ∈ before, m.fault? o = none) → n.fault? o = some e →
      Course o keys ns (some e) (events o keys before ++ n.added (keysBehind before keys))

variable {o : Options} {keys : List Key} {es es' : List Event} {ms ns : List Route} {n : Route}
  {g g' g'' : Progress} {e : Failure} {result : Option Failure}

/-! ## The keys of events -/

theorem key?_done (o : Options) (n : Route) : (n.done o).filterMap Event.key? = [] := by
  cases n <;> rfl

theorem length_assign (known : KnownKeys) (next : Int) (gs : List Group) :
    (assign known next gs).length = gs.length := by
  have each := (assign_forall₂ known next gs).length_eq
  rwa [List.length_map] at each

theorem length_newKeys (keys : List Key) (n : Route) :
    (n.newKeys keys).length = (Scan.openings n.expression).length := by
  cases n with
  | template t => rw [Route.newKeys, List.length_map, length_assign, Route.expression]
  | pattern q => rw [Route.newKeys, List.length_map, length_assign, Route.expression]
  | row shape rs => rw [Route.newKeys, Route.expression, Scan.openings, Scan.openingsFrom_nil]; rfl
  | illTyped k => rw [Route.newKeys, Route.expression, Scan.openings, Scan.openingsFrom_nil]; rfl

theorem key?_zipWith (f : Group → Bool) {gs : List Group} {ks : List Key}
    (h : ks.length = gs.length) :
    (List.zipWith (fun g k => Event.added k (f g)) gs ks).filterMap Event.key? = ks := by
  induction gs generalizing ks with
  | nil => rw [List.length_eq_zero_iff.1 h]; rfl
  | cons g gs ih =>
    cases ks with
    | nil => cases h
    | cons k ks =>
      have first : Event.key? (.added k (f g)) = some k := rfl
      rw [List.zipWith_cons_cons, List.filterMap_cons_some first, ih (Nat.succ.inj h)]

theorem key?_added (keys : List Key) (n : Route) :
    (n.added keys).filterMap Event.key? = n.newKeys keys :=
  key?_zipWith _ (length_newKeys keys n)

theorem key?_events (o : Options) (keys : List Key) (ns : List Route) :
    keys ++ (events o keys ns).filterMap Event.key? = keysBehind ns keys := by
  induction ns generalizing keys with
  | nil => exact List.append_nil _
  | cons n ns ih =>
    rw [events, List.filterMap_append, List.filterMap_append, key?_added, key?_done,
      List.append_nil, ← List.append_assoc, ih]
    rfl

theorem events_append (o : Options) (keys : List Key) (ms ns : List Route) :
    events o keys (ms ++ ns) = events o keys ms ++ events o (keysBehind ms keys) ns := by
  induction ms generalizing keys with
  | nil => rfl
  | cons m ms ih =>
    rw [List.cons_append, events, events, ih, List.append_assoc _ (events _ _ _)]
    rfl

/-! ## Nodes in turn -/

namespace Course

/-- Nodes that are done in front. -/
theorem behind (h : Course o keys ms none es)
    (h' : Course o (keys ++ es.filterMap Event.key?) ns result es') :
    Course o keys (ms ++ ns) result (es ++ es') := by
  cases h with
  | whole sound =>
    rw [key?_events] at h'
    cases h' with
    | whole sound' =>
      rw [← events_append]
      apply Course.whole
      intro n hn
      exact (List.mem_append.1 hn).elim (sound n) (sound' n)
    | @ended before n after e place sound' fault =>
      rw [← List.append_assoc, ← events_append, ← keysBehind_append]
      refine .ended after ?_ ?_ fault
      · rw [place, List.append_assoc]
      · intro m hm
        exact (List.mem_append.1 hm).elim (sound m) (sound' m)

/-- Nothing happens behind a node that there is something wrong with. -/
theorem stops (h : Course o keys ms (some e) es) (ns : List Route) :
    Course o keys (ms ++ ns) (some e) es := by
  cases h with
  | @ended before n after e place sound fault =>
    refine .ended (after ++ ns) ?_ sound fault
    rw [place, List.append_assoc, List.cons_append]

/-- One node: it adds its keys, and is done if there is nothing wrong with it. -/
theorem one (o : Options) (keys : List Key) (n : Route) :
    Course o keys [n] (n.fault? o)
      (n.added keys ++ if (n.fault? o).isNone then n.done o else []) := by
  cases fault : n.fault? o with
  | none =>
    have all : events o keys [n] = n.added keys ++ n.done o := List.append_nil _
    rw [Option.isNone_none, if_pos rfl, ← all]
    exact .whole fun m hm => List.mem_singleton.1 hm ▸ fault
  | some e =>
    rw [Option.isNone_some, if_neg Bool.false_ne_true, List.append_nil]
    exact .ended [] (List.nil_append _).symm (fun m hm => absurd hm List.not_mem_nil) fault

end Course

/-! ## The progress of events -/

/-- Keys and records have been added, those of some events. -/
structure Progress.Through (g : Progress) (es : List Event) (g' : Progress) : Prop where
  keys : g'.keys = g.keys ++ es.filterMap Event.key?
  log : g'.log = g.log ++ es.filterMap Event.record?

namespace Progress.Through

theorem refl (g : Progress) : g.Through [] g := ⟨(List.append_nil _).symm, (List.append_nil _).symm⟩

theorem trans (h : g.Through es g') (h' : g'.Through es' g'') : g.Through (es ++ es') g'' where
  keys := by rw [h'.keys, h.keys, List.filterMap_append, List.append_assoc]
  log := by rw [h'.log, h.log, List.filterMap_append, List.append_assoc]

end Progress.Through

/-- The event of a key that has been given to a group. -/
def Assigned.event (a : Assigned) : Event := .added a.key !a.implicit

/-- The events for the keys of a row of groups. -/
theorem zipWith_assign (known : KnownKeys) (next : Int) (gs : List Group) :
    List.zipWith (fun g k => Event.added k (known.key? g.index).isSome) gs
        ((assign known next gs).map Assigned.key) =
      (assign known next gs).map Assigned.event := by
  induction gs generalizing next with
  | nil => rfl
  | cons g gs ih =>
    unfold assign
    split
    · next h => simp [h, ih, Assigned.event]
    · next h _ => simp [h, ih, Assigned.event]
    · next h _ => simp [h, ih, Assigned.event]

theorem through_note (g : Progress) (a : Assigned) : g.Through [a.event] (g.note a) where
  keys := rfl
  log := by
    unfold Progress.note Assigned.event
    cases a.implicit with
    | true => rfl
    | false => exact (List.append_nil _).symm

theorem through_foldl_note (g : Progress) (as : List Assigned) :
    g.Through (as.map Assigned.event) (as.foldl Progress.note g) := by
  induction as generalizing g with
  | nil => exact .refl g
  | cons a as ih => exact (through_note g a).trans (ih _)

/-- Keys are collected: one is reported if no parameter opened its group. -/
theorem through_collect (g : Progress) (source : Text) (known : KnownKeys) :
    g.Through (List.zipWith (fun h k => .added k (known.key? h.index).isSome)
        (Scan.openings source)
        ((assign known (Key.nextNumber g.keys) (Scan.openings source)).map Assigned.key))
      (g.collect source known) := by
  rw [zipWith_assign]
  exact through_foldl_note g _

/-- A parameter opens the group at an index if the draft knows a key for it. -/
theorem isSome_key?_draft (t : Text) (i : Nat) :
    ((draft t).named.key? i).isSome = (Route.template t).opensAt i := by
  rw [Bool.eq_iff_iff, Option.isSome_iff_exists, Route.opensAt, List.any_eq_true]
  constructor
  · rintro ⟨k, hk⟩
    obtain ⟨p, mem, -⟩ := opened_of_key? hk
    exact ⟨(i, p), mem, by simp⟩
  · rintro ⟨⟨j, p⟩, mem, hj⟩
    obtain rfl : j = i := by simpa using hj
    obtain ⟨k, hk, -⟩ := key?_of_opened mem
    exact ⟨k, hk⟩

theorem through_template (g : Progress) (t : Text) :
    g.Through ((Route.template t).added g.keys)
      (g.collect (draft t).source (draft t).named) := by
  have all := through_collect g (draft t).source (draft t).named
  simp only [isSome_key?_draft] at all
  exact all

theorem through_pattern (g : Progress) (q : Pattern) :
    g.Through ((Route.pattern q).added g.keys) (g.collect q.source []) :=
  through_collect g q.source []

/-! ## Compiling -/

/-- Why there is no result, if there is none. -/
def failure? {α : Type} : Except Failure α → Option Failure
  | .ok _ => none
  | .error e => some e

/-- A node's source is concluded: the node is done if its source is accepted. -/
theorem through_conclude (g : Progress) (flags : Flags) (n : Route) (source : Text) :
    failure? (g.conclude flags n source).1 = refusal? flags source ∧
      g.Through (if (refusal? flags source).isNone then [.compiled n source] else [])
        (g.conclude flags n source).2 := by
  unfold Progress.conclude refusal?
  cases h : Pattern.read flags source with
  | ok q =>
    rw [← (Reader.pattern_read_eq_ok.1 h).1]
    exact ⟨rfl, (List.append_nil _).symm, rfl⟩
  | error e => exact ⟨rfl, .refl g⟩

/-- The events at the nodes have happened. -/
def Traced {α : Type} (o : Options) (ns : List Route) (g : Progress) (out : Outcome α) : Prop :=
  ∃ es, Course o g.keys ns (failure? out.1) es ∧ g.Through es out.2

/-- Routes that compile have their sources as results. -/
theorem sources_of_compileAll {rs : List Route} {sources : List Text}
    (h : (compileAll o rs g).1 = .ok sources) : sources = Route.sources o rs := by
  rcases visits_compileAll o rs g with ⟨hs, -⟩ | ⟨e, he, -⟩
  · exact Except.ok.inj (h.symm.trans hs)
  · cases h.symm.trans he

mutual

/-- Induction on the route: a row is done, or refused, behind its elements. -/
theorem through_compile (o : Options) (r : Route) (g : Progress) :
    Traced o r.order g (compile o r g) := by
  cases r with
  | template t =>
    have one := Course.one o g.keys (.template t)
    obtain ⟨same, done⟩ := through_conclude (g.collect (draft t).source (draft t).named) o.flags
      (.template t) (Route.source o (.template t))
    rw [compile]
    refine ⟨_, ?_, (through_template g t).trans done⟩
    exact same.symm ▸ one
  | pattern q =>
    have one := Course.one o g.keys (.pattern q)
    rw [compile]
    exact ⟨_, one, (through_pattern g q).trans (.refl _)⟩
  | illTyped k =>
    have one := Course.one o g.keys (.illTyped k)
    have nothing : (Route.illTyped k).added g.keys = [] := List.zipWith_nil_right
    rw [nothing] at one
    rw [compile]
    exact ⟨_, one, .refl g⟩
  | row shape rs =>
    obtain ⟨es, course, through⟩ := through_compileAll o rs g
    rw [compile, Route.order]
    split
    · next sources g' h =>
      have whole := sources_of_compileAll (congrArg Prod.fst h)
      rw [h] at course through
      have one := Course.one o (g.keys ++ es.filterMap Event.key?) (.row shape rs)
      have nothing : (Route.row shape rs).added (g.keys ++ es.filterMap Event.key?) = [] :=
        List.zipWith_nil_right
      rw [nothing, List.nil_append] at one
      obtain ⟨same, done⟩ := through_conclude g' o.flags (.row shape rs)
        (Route.source o (.row shape rs))
      rw [whole]
      exact ⟨_, same.symm ▸ course.behind one, through.trans done⟩
    · next e g' h =>
      rw [h] at course through
      exact ⟨es, course.stops _, through⟩

/-- Routes in turn, up to the first that does not compile. -/
theorem through_compileAll (o : Options) (rs : List Route) (g : Progress) :
    Traced o (Route.orderAll rs) g (compileAll o rs g) := by
  cases rs with
  | nil =>
    rw [compileAll]
    exact ⟨[], .whole fun n hn => absurd hn List.not_mem_nil, .refl g⟩
  | cons r rs =>
    obtain ⟨es, course, through⟩ := through_compile o r g
    rw [compileAll, Route.orderAll]
    split
    · next q g' h =>
      rw [h] at course through
      obtain ⟨es', course', through'⟩ := through_compileAll o rs g'
      rw [through.keys] at course'
      split
      · next h' =>
        rw [h'] at course' through'
        exact ⟨_, course.behind course', through.trans through'⟩
      · next h' =>
        rw [h'] at course' through'
        exact ⟨_, course.behind course', through.trans through'⟩
    · next e g' h =>
      rw [h] at course through
      exact ⟨es, course.stops _, through⟩

end

/-! ## Sessions -/

/-- What happens when a route is compiled under options that are read first. -/
inductive CourseWith (source : OptionsSource) (r : Route) (keys : List Key) :
    Option Failure → List Event → Prop
  | unread {e : NoSettings} : Options.read source = .error e →
      CourseWith source r keys (some (.options e)) []
  | read {o : Options} {result : Option Failure} {es : List Event} : Options.read source = .ok o →
      Course o keys r.order result es → CourseWith source r keys result es

theorem through_compileWith (source : OptionsSource) (r : Route) (g : Progress) :
    ∃ es, CourseWith source r g.keys (failure? (compileWith source r g).1) es ∧
      g.Through es (compileWith source r g).2 := by
  unfold compileWith
  split
  · next o h =>
    obtain ⟨es, course, through⟩ := through_compile o r g
    exact ⟨es, .read h course, through⟩
  · next e h => exact ⟨[], .unread h, .refl g⟩

/-- The text that a stream received in a step. -/
def Report.received (report : Report) (stream : Text) : Text :=
  (report.log.lookup stream).getD []

/-- With debugging on, a stream receives the lines of the records. -/
theorem received_deliver {l : Logging} (debug : l.debug = true) {x : Text} (hx : x ∈ l.streams)
    (records : List Record) :
    ((l.deliver records).lookup x).getD [] = records.flatMap Record.line := by
  have found : ∀ {xs : List Text} (text : Text), x ∈ xs →
      (xs.map fun y => (y, text)).lookup x = some text := by
    intro xs text hx
    induction xs with
    | nil => cases hx
    | cons y ys ih =>
      by_cases same : x = y
      · subst same
        exact List.lookup_cons_self
      · rw [List.map_cons, List.lookup_cons, beq_false_of_ne same]
        exact ih ((List.mem_cons.1 hx).resolve_left same)
  unfold Logging.deliver
  cases records with
  | nil => simp
  | cons r rs =>
    rw [debug, List.isEmpty_cons, Bool.not_false, Bool.and_self, if_pos rfl, found _ hx,
      Option.getD_some]

/-- A step that compiles, with debugging on: events happen at the nodes of the route in the order in
which these are done, up to the first that there is something wrong with. The keys that the step
adds are those of the events. Every stream receives a line for each key that no parameter brought
along, and one for each template and row that is done, in the order of the events. -/
theorem log_of_compile (s : Session) (source : OptionsSource) (r : Option Route)
    (debug : s.logging.debug = true) :
    ∃ result es, CourseWith source (s.route r) s.keys (failure? result) es ∧
      (s.step (.compile source r)).1.keys = s.keys ++ es.filterMap Event.key? ∧
      (s.step (.compile source r)).2.answer =
        .compiled result (s.route r).isPattern (s.keys ++ es.filterMap Event.key?) ∧
      ∀ x ∈ s.logging.streams, (s.step (.compile source r)).2.received x =
        (es.filterMap Event.record?).flatMap Record.line := by
  obtain ⟨es, course, keys, log⟩ := through_compileWith source (s.route r) { keys := s.keys }
  refine ⟨_, es, course, keys, ?_, fun x hx => ?_⟩
  · rw [← keys]
    rfl
  · rw [← received_deliver debug hx, ← List.nil_append (es.filterMap Event.record?), ← log]
    rfl

/-- Of a row that is refused for its second template, the first is reported, and the keys of both,
but neither the second template nor the row. -/
theorem log_of_compile_refused :
    let s : Session := { logging := Logging.configure {} true none }
    let r : Route := .row .list [.template "/:x-(b)".toList, .template "/d(".toList]
    s.logging.debug = true ∧
      (∃ result es, CourseWith .absent (s.route r) s.keys (failure? result) es ∧
        (s.step (.compile .absent r)).1.keys = s.keys ++ es.filterMap Event.key? ∧
        (s.step (.compile .absent r)).2.answer =
          .compiled result (s.route r).isPattern (s.keys ++ es.filterMap Event.key?) ∧
        ∀ x ∈ s.logging.streams, (s.step (.compile .absent r)).2.received x =
          (es.filterMap Event.record?).flatMap Record.line) ∧
      (s.step (.compile .absent r)).2.received Logging.standardStream =
        "[path_to_regexp.compiler] - [DEBUG] - Implicit group 0 at 14\n".toList ++
          "[path_to_regexp.compiler] - [DEBUG] - Compiled '/:x-(b)' to ^(?:/([^/]+?))-(b)/?$\n".toList
          ++ "[path_to_regexp.compiler] - [DEBUG] - Implicit group 1 at 2\n".toList :=
  ⟨rfl, log_of_compile _ _ _ rfl, by decide +kernel⟩

end RoutePattern
