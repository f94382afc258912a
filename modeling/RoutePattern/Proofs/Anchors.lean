import RoutePattern.Proofs.Match.Rows
import RoutePattern.Proofs.Routes
import RoutePattern.Proofs.Template.Alone

/-! # What the anchors of a template do

* `compile_refused`: a template whose expression is refused is refused. Only a lone backslash at the
  end and, for routes that need not match to the end, an open comment are completed by what stands
  behind the expression (`Options.Completes`); `backslash_completed` is such a template.
* `stop_of_match`: a match of an expression with one alternative ends where the text does, or
  behind a slash.
-/

namespace RoutePattern

open Regex Regex.Reader

variable {o : Options} {fl : Flags} {t s : Text} {p p' : Progress}

/-! ## Refused expressions -/

/-- The end completes what the expression leaves open: a lone backslash behind a text that is read
without a fault, or a comment. -/
def Options.Completes (o : Options) (fl : Flags) (source : Text) : Prop :=
  (∃ u a, source = u ++ ['\\'] ∧ Reads (start fl) u a) ∨
    (o.toEnd = false ∧ ∃ a i, Reads (start fl) source a ∧ a.mode = .comment i)

/-- Only a lone backslash at its end keeps a text from being read in symbols. -/
theorem symbols?_cases (u : Text) :
    (∃ ys, symbols? u = some ys) ∨ ∃ v ys, u = v ++ ['\\'] ∧ symbols? v = some ys := by
  fun_induction symbols? u with
  | case1 => exact .inl ⟨[], rfl⟩
  | case2 => exact .inr ⟨[], [], rfl, rfl⟩
  | case3 c r ih =>
    rcases ih with ⟨ys, h⟩ | ⟨v, ys, rfl, h⟩
    · exact .inl ⟨_, by rw [h]; rfl⟩
    · exact .inr ⟨'\\' :: c :: v, .escaped c :: ys, rfl, by rw [symbols?_escaped, h]; rfl⟩
  | case4 c r h1 h2 ih =>
    have hc : c ≠ '\\' := Text.ne_backslash h1 h2
    rcases ih with ⟨ys, h⟩ | ⟨v, ys, rfl, h⟩
    · exact .inl ⟨_, by rw [h]; rfl⟩
    · exact .inr ⟨c :: v, .plain c :: ys, rfl, by rw [symbols?_plain hc, h]; rfl⟩

/-- What is accepted between the anchors is accepted alone, or the end completes it. -/
theorem accepted_or_completed {source : Text} (hfl : fl.verbose = false)
    (ha : Accepts (start o.flags) (o.anchored source)) :
    (∃ x, Pattern.read fl source = .ok x) ∨ o.Completes fl source := by
  rcases symbols?_cases source with ⟨ys, hs⟩ | ⟨u, ys, rfl, hs⟩
  · exact (accepted_alone hfl hs ha).imp_right .inr
  · -- the backslash takes the first character of the end, so only what stands before it is read
    have plain : o.flags.verbose = false := rfl
    rw [anchored_ending, List.append_assoc, accepts_start plain] at ha
    obtain ⟨st, hst, -⟩ := (accepts_append hs).1 ha
    obtain ⟨a, reads, -⟩ :=
      shifted_reads (isBase_begun plain) hst (shifted_start (isBase_begun plain) hfl) (.inl ⟨rfl, rfl⟩)
    exact .inr (.inl ⟨u, a, rfl, reads⟩)

/-- A template whose expression is refused is refused, unless the end completes the expression. The
keys of the expression stay. -/
theorem compile_refused {e : Error} (hfl : fl.verbose = false)
    (he : Pattern.read fl (draft t).source = .error e)
    (hc : ¬ o.Completes fl (draft t).source) (p : Progress) :
    ∃ e', compile o (.template t) p =
      (.error (.ofError (o.anchored (draft t).source) e'),
        p.collect (draft t).source (draft t).named) := by
  rw [compile, compileTemplate, Progress.conclude]
  cases hq : Pattern.read o.flags (o.anchored (draft t).source) with
  | error e' => exact ⟨e', rfl⟩
  | ok q =>
    rcases accepted_or_completed hfl (accepts_of_read hq) with ⟨x, hx⟩ | completes
    · rw [hx] at he
      cases he
    · exact absurd completes hc

theorem compile_refused_group :
    ∃ e', compile {} (.template "/a(b".toList) {} =
      (.error (.ofError "^/a(b/?$".toList e'), Progress.collect {} "/a(b".toList []) := by
  have source : (draft "/a(b".toList).source = "/a(b".toList := by decide +kernel
  have named : (draft "/a(b".toList).named = [] := by decide +kernel
  have refused : Pattern.read {} (draft "/a(b".toList).source = .error (.located .openGroup 2) := by
    decide +kernel
  have whole : ¬ Options.Completes {} {} (draft "/a(b".toList).source := by
    rw [source]
    rintro (⟨u, a, h, -⟩ | ⟨h, -⟩)
    · have last := congrArg List.getLast? h
      rw [List.getLast?_append] at last
      cases last
    · cases h
  obtain ⟨e', h⟩ := compile_refused rfl refused whole {}
  rw [source, named] at h
  exact ⟨e', h⟩

/-- A backslash at the end of a template makes the anchor behind it a character, and the template is
accepted. -/
theorem backslash_completed :
    Pattern.read {} (draft "/a\\".toList).source = .error (.located .finalBackslash 2) ∧
      ((compile { strict := true } (.template "/a\\".toList) {}).1.toOption.map (·.source)) =
        some "^/a\\$".toList := by
  constructor <;> decide +kernel

/-- A comment at the end of a template is closed behind it. -/
example :
    Pattern.read {} (draft "/a(?#x".toList).source = .error (.located .openComment 2) ∧
      ((compile { toEnd := false } (.template "/a(?#x".toList) {}).1.toOption.map (·.source)) =
        some "^/a(?#x/?(?:/|$)".toList := by
  constructor <;> decide +kernel

/-! ## Where matches end -/

/-- The index is the end of the text, or stands before a newline that is its last character. -/
def AtEnd (s : Text) (i : Nat) : Prop :=
  i = s.length ∨ (i + 1 = s.length ∧ s.getLast? = some '\n')

/-- Behind the end of an expression no more than a newline is left, or a slash has been matched. -/
theorem ends_outcomes {f : Flags} {r : Regex} {u v : Spot} (hf : f.multiline = false)
    (hr : o.Ends r) (hu : u ∈ r.outcomes f v) :
    (u.ahead = [] ∨ u.ahead = ['\n']) ∨ (o.toEnd = false ∧ u.behind.head? = some '/') := by
  have stop : ∀ f : Flags, f.multiline = false → u ∈ (Regex.anchor .stop).outcomes f v →
      u.ahead = [] ∨ u.ahead = ['\n'] := by
    intro f hf hu
    rw [outcomes] at hu
    split at hu
    · next h =>
      rw [List.mem_singleton.1 hu]
      simpa [Anchor.holds, hf] using h
    · cases hu
  have slash : ∀ f : Flags, u ∈ (Regex.char 47).outcomes f v → u.behind.head? = some '/' := by
    intro f hu
    obtain ⟨c, hc, -, hb⟩ := behind_eat? (Option.mem_toList.1 hu)
    rw [hb, eq_slash_of_sameChar hc]
    rfl
  rcases hr with rfl | ⟨hend, rfl⟩
  · unfold Options.closingItem at hu
    split at hu
    · exact .inl (stop f hf hu)
    · next hend =>
      rcases List.mem_append.1 hu with hu | hu
      · exact .inr ⟨by simpa using hend, slash _ hu⟩
      · rw [inside_nothing] at hu
        exact .inl (stop f hf hu)
  · exact .inr ⟨hend, slash f hu⟩

/-- A match of an accepted expression with one alternative ends where the text does, perhaps before
a last newline, or behind a slash if there may be more text. -/
theorem stop_of_match {x q : Pattern} {m : Match} (hfl : fl.verbose = false)
    (hx : Pattern.read fl (draft t).source = .ok x) (hb : ∀ r r', x.tree ≠ .alt r r')
    (hq : compile o (.template t) p = (.ok q, p')) (hm : q.match? s = some m) :
    AtEnd s m.stop ∨ (o.toEnd = false ∧ 0 < m.stop ∧ s[m.stop - 1]? = some '/') := by
  obtain ⟨read, -⟩ := conclude_ok hq
  obtain ⟨flags, rs, r, tree, ends⟩ := tree_of_anchored hfl hx hb read
  obtain ⟨u, mem, rfl⟩ := outcome_of_match? hm
  have text : u.behind.reverse ++ u.ahead = s := text_outcomes _ mem
  rw [tree, outcomes_concat_append] at mem
  obtain ⟨v, -, mem⟩ := List.mem_flatMap.1 mem
  have multiline : q.flags.multiline = false := by rw [flags]; rfl
  show AtEnd s u.behind.length ∨ _
  rcases ends_outcomes multiline ends mem with (none | newline) | ⟨hend, slash⟩
  · left; left
    rw [← text, none]
    simp
  · left; right
    rw [← text, newline]
    simp
  · obtain ⟨b, hb⟩ := List.head?_eq_some_iff.1 slash
    refine .inr ⟨hend, ?_⟩
    rw [← text, Pattern.matchAt, Spot.pos, hb]
    simp

theorem stop_of_match_prefix :
    ∃ q p' m, compile { toEnd := false } (.template "/:x".toList) {} = (.ok q, p') ∧
      q.match? "/ab/c".toList = some m ∧ (AtEnd "/ab/c".toList m.stop ∨
        (false = false ∧ 0 < m.stop ∧ "/ab/c".toList[m.stop - 1]? = some '/')) := by
  have trees : ((Pattern.read {} (draft "/:x".toList).source).toOption.map (·.tree)) =
      some (.flagged {} {} (.seq (.char 47)
        (.capture 1 (.rep 1 none .lazy (.set true [.char 47]))))) := by
    decide +kernel
  have stops : ((compile { toEnd := false } (.template "/:x".toList) {}).1.toOption.bind
      (·.match? "/ab/c".toList)).isSome := by
    decide +kernel
  rcases hc : compile { toEnd := false } (.template "/:x".toList) {} with ⟨e | q, p'⟩
  · rw [hc] at stops
    cases stops
  · rw [hc] at stops
    obtain ⟨m, hm⟩ := Option.isSome_iff_exists.1 stops
    cases hx : Pattern.read {} (draft "/:x".toList).source with
    | error e =>
      rw [hx] at trees
      cases trees
    | ok x =>
      rw [hx] at trees
      have tree := Option.some.inj trees
      dsimp only at tree
      exact ⟨q, p', m, rfl, hm, stop_of_match rfl hx (by rw [tree]; exact nofun) hc hm⟩

end RoutePattern
