import RoutePattern.Proofs.Path.Reading
import RoutePattern.Proofs.Routes

/-! # The pattern of a path

* `read_path`, `compile_path`: the template of a path becomes an expression that is read without a
  fault.
* `keyed_of_compile`: the keys that compiling the template adds.
-/

namespace RoutePattern

open Scan Regex Regex.Reader

/-! ## Reading -/

/-- The last character of literal text is no slash. -/
theorem not_endsInSlash_literal (w : Literal) (t : Text) :
    endsInSlash (t ++ w.text.flatMap Path.charSource) = false := by
  have last := List.dropLast_append_getLast w.nonempty
  have slash : w.text.getLast w.nonempty ≠ '/' :=
    Literal.ne (List.getLast_mem w.nonempty) (by decide)
  generalize w.text.getLast w.nonempty = c at last slash
  have char : Path.charSource c ≠ [] ∧ endsInSlash (Path.charSource c) = false := by
    unfold Path.charSource
    split
    · decide
    · simpa [endsInSlash] using slash
  rw [← last, List.flatMap_append, List.flatMap_singleton, ← List.append_assoc,
    endsInSlash_append char.1, char.2]

/-- No slash ends the expression for a path. -/
theorem not_endsInSlash (p : Path) {t : Text} (ht : endsInSlash t = false) :
    endsInSlash (t ++ p.source) = false := by
  induction p generalizing t with
  | stop => rwa [Path.source, List.append_nil]
  | rest name =>
    rw [endsInSlash_append (by simp [Path.source])]
    rfl
  | literal w p ih =>
    rw [Path.source, ← List.append_assoc]
    refine ih ?_
    rw [show t ++ '/' :: w.text.flatMap Path.charSource =
      (t ++ ['/']) ++ w.text.flatMap Path.charSource by simp]
    exact not_endsInSlash_literal w _
  | param name optional p ih =>
    rw [Path.source, ← List.append_assoc]
    refine ih ?_
    rw [endsInSlash_append (by simp [Path.paramSource])]
    cases optional <;> rfl

theorem read_path (p : Path) (strict : Bool) : ∃ q,
    Pattern.read (Options.flags ⟨strict, true, true⟩)
      (Options.anchored ⟨strict, true, true⟩ p.source) = .ok q ∧
    q.tree = concat (p.anchoredItems strict) ∧ q.flags = { unicode := true } ∧
    q.groups = p.groups 1 := by
  have slash : endsInSlash p.source = false := @not_endsInSlash p [] rfl
  refine read_between (P := (· = p.groups 1)) (fun _ => slash) fun st ready next pos => ?_
  obtain ⟨nx, build⟩ := builds_path p ready
  rw [next, pos] at build
  exact ⟨nx, _, build, rfl⟩

/-- The template of a path compiles. -/
theorem compile_path (p : Path) (strict : Bool) (g : Progress) : ∃ q g',
    compile ⟨strict, true, true⟩ (.template p.template) g = (.ok q, g') ∧
    q.tree = concat (p.anchoredItems strict) ∧ q.flags = { unicode := true } ∧
    q.groups = p.groups 1 := by
  obtain ⟨q, read, parts⟩ := read_path p strict
  rw [← p.source_draft] at read
  exact ⟨q, _, Prod.ext (compile_of_read read g) rfl, parts⟩

/-! ## Keys -/

namespace Path

/-- The parameters that open groups in the expression for a path. -/
def params (i : Nat) (p : Path) : List (Nat × Param) :=
  (p.opens i).filterMap fun x => x.2.map fun y => (x.1, y)

theorem not_mem_template (p : Path) : '(' ∉ p.template := by
  have word : ∀ name : Word, '(' ∉ name.text := fun name h => (word_ne (name.word _ h)).2.2 rfl
  induction p with
  | stop => simp [template]
  | rest name => simp [template, word]
  | literal w p ih =>
    have text : '(' ∉ w.text := fun h => w.plain _ h (by decide)
    simp [template, text, ih]
  | param name optional p ih => cases optional <;> simp [template, word, ih]

theorem openedFrom_chars (t : Text) (d : Draft) (ks : List Token) :
    ∃ d' : Draft, openedFrom d (t.map charToken ++ ks) = openedFrom d' ks ∧
      d'.source.length = d.source.length + (t.flatMap charSource).length := by
  induction t generalizing d with
  | nil => exact ⟨d, rfl, rfl⟩
  | cons c t ih =>
    obtain ⟨d', h1, h2⟩ := ih (d.push (charToken c))
    have closed : d.opened (charToken c) = [] := by
      unfold charToken
      split <;> rfl
    have size : (d.push (charToken c)).source.length = d.source.length + (charSource c).length := by
      rw [length_push, written_charToken]
    refine ⟨d', ?_, ?_⟩
    · rw [List.map_cons, List.cons_append, openedFrom, closed, List.nil_append, h1]
    · rw [h2, size, List.flatMap_cons, List.length_append]
      omega

/-- The parameters that the tokens of a path open, at an offset. -/
theorem map_openedFrom (p : Path) (d : Draft) (k : Nat) :
    (openedFrom d p.tokens).map (fun x => (k + x.1, x.2)) = p.params (k + d.source.length) := by
  induction p generalizing d with
  | stop => rfl
  | rest name => rfl
  | literal w p ih =>
    obtain ⟨d', h1, h2⟩ := openedFrom_chars w.text (d.push (.literal '/')) p.tokens
    have size : (d.push (.literal '/')).source.length = d.source.length + 1 := length_push d _
    have closed : d.opened (.literal '/') = [] := rfl
    rw [tokens, List.cons_append, openedFrom, closed, List.nil_append, h1, ih d', h2, size]
    simp only [params, opens, List.length_cons]
    congr 2
    omega
  | param name optional p ih =>
    have size : (d.push (.param (slashParam name ⟨false, optional⟩))).source.length =
        d.source.length + (paramSource optional).length := length_push d _
    rw [tokens, openedFrom, Draft.opened, List.singleton_append, List.map_cons, ih, size,
      ← Nat.add_assoc k d.source.length (paramSource optional).length]
    rfl

end Path

/-- The key says what is to be said of a group: its parameter's name and mark, or a number. -/
def Key.Says (k : Key) (x : Nat × Option Param) : Prop :=
  (∀ y, x.2 = some y → k.IsOf y) ∧ (x.2 = none → ∃ n, k.name = .number n)

/-- The groups of parameters have their keys, the others have numbers. -/
theorem keys_of_isFor {l : List (Nat × Option Param)} {ks : List Key}
    (hl : l.Pairwise (·.1 < ·.1))
    (h : List.Forall₂ (Key.IsFor (l.filterMap fun x => x.2.map fun y => (x.1, y))) ks
      (l.map fun x => ⟨x.1, none⟩)) :
    List.Forall₂ Key.Says ks l := by
  refine forall₂_imp_mem (List.forall₂_map_right_iff.1 h) fun k x hx hk => ?_
  rcases hk with ⟨y, hy, own⟩ | ⟨none, calls⟩
  · obtain ⟨z, hz, he⟩ := List.mem_filterMap.1 hy
    obtain ⟨y', hy', he⟩ := Option.map_eq_some_iff.1 he
    obtain ⟨index, rfl⟩ := Prod.mk.inj he
    obtain rfl := unique_of_ascending hl hz hx index
    refine ⟨fun w hw => ?_, fun hn => ?_⟩
    · obtain rfl := Option.some.inj (hy'.symm.trans hw)
      exact own
    · rw [hn] at hy'; cases hy'
  · refine ⟨fun y hy => ?_, fun _ => calls⟩
    exact absurd (List.mem_filterMap.2 ⟨x, hx, by rw [hy]; rfl⟩) (none y)

theorem keyed_of_says {p : Path} {i : Nat} {ks : List Key} {n : Int}
    (h : List.Forall₂ Key.Says ks (p.opens i))
    (hn : ∀ as k bs, ks = as ++ k :: bs → (∀ a ∈ as, a.IsNamed) → ¬ k.IsNamed →
      k.name = .number n ∧ k.optional = false) : p.Keyed n ks := by
  induction p generalizing i ks with
  | stop => exact List.forall₂_nil_right_iff.1 h
  | rest name =>
    obtain ⟨k, ls, own, hl, rfl⟩ := List.forall₂_cons_right_iff.1 h
    obtain ⟨l, ms, own', hm, rfl⟩ := List.forall₂_cons_right_iff.1 hl
    obtain rfl := List.forall₂_nil_right_iff.1 hm
    obtain ⟨m, hm⟩ := own'.2 rfl
    have first := (own.1 _ rfl).1
    have last := hn [k] l [] rfl (by simpa using ⟨_, first⟩) (by rintro ⟨t, ht⟩; simp [hm] at ht)
    exact ⟨k, l, rfl, first, (own.1 _ rfl).2, last⟩
  | literal w p ih => exact ih h hn
  | param name optional p ih =>
    obtain ⟨k, ls, own, hl, rfl⟩ := List.forall₂_cons_right_iff.1 h
    have first := (own.1 _ rfl).1
    refine ⟨k, ls, rfl, first, (own.1 _ rfl).2, ih hl fun as l bs he ha hb => ?_⟩
    exact hn (k :: as) l bs (by rw [he]; rfl) (by simpa using ⟨⟨_, first⟩, ha⟩) hb

/-- The keys that compiling the template of a path adds. -/
theorem keyed_of_compile {o : Options} {p : Path} {g g' : Progress} {q : Pattern}
    (h : compile o (.template p.template) g = (.ok q, g')) (hq : q.groups = p.groups 1) :
    ∃ ks, g'.keys = g.keys ++ ks ∧ p.Keyed (Key.nextNumber g.keys) ks := by
  have simple : IsSimple p.template := @isSimple_of_not_mem _ '(' (by decide) p.not_mem_template
  rw [compile] at h
  obtain ⟨read, leaves, added, keys, fits⟩ := compiled_template simple.calm h
  have groups := groups_route leaves read
  have opened : (Route.template p.template).opened o 0 = p.params 1 := by
    rw [Route.opened, Route.atLeaves, openedAt, opened, tokens_template]
    exact p.map_openedFrom {} 1
  have ascending : (p.opens 1).Pairwise (·.1 < ·.1) := by
    have pairwise : q.groups.Pairwise (·.index < ·.index) := groups ▸ openingsFrom_pairwise _ _
    rw [hq, Path.groups, List.pairwise_map] at pairwise
    exact pairwise
  have fit := fits 0
  rw [← groups, hq, opened] at fit
  refine ⟨added, keys, keyed_of_says (keys_of_isFor ascending fit) fun as k bs he ha hk => ?_⟩
  have all := (conclude_ok h).2.trans (Progress.keys_collect _ _ _)
  rw [keys] at all
  exact assign_first (isNamed_draft _) ((List.append_cancel_left all).symm.trans he) ha hk

end RoutePattern
