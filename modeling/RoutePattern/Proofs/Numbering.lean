import RoutePattern.Proofs.Template.Keys

/-! # Numbering

Compiling only ever adds keys, and the keys without a name are numbered in turn.

* `Key.Next keys n`: the number `n` comes next after the numbers of the keys.
* `Progress.Extends`: keys have been added, numbered from the next number on.
* `extends_compile`: one route, whether it compiles or not.
* `numbers_compileEach`: routes compiled in turn with one list of keys.
-/

namespace RoutePattern

namespace Key

/-- The numbers of the keys without a name. -/
def numbers (keys : List Key) : List Int := keys.filterMap number?

/-- The number is one more than the largest number of the keys, or 0 if they have none. -/
def Next (keys : List Key) (n : Int) : Prop :=
  (numbers keys = [] ∧ n = 0) ∨ (n - 1 ∈ numbers keys ∧ ∀ k ∈ numbers keys, k ≤ n - 1)

/-- Numbers in turn, from `n` on. -/
def series (n : Int) (size : Nat) : List Int := (List.range size).map fun i : Nat => n + i

theorem numbers_append (ks ls : List Key) : numbers (ks ++ ls) = numbers ks ++ numbers ls :=
  List.filterMap_append

theorem series_succ (n : Int) (size : Nat) : series n (size + 1) = n :: series (n + 1) size := by
  have shift : ∀ i : Nat, n + (i + 1 : Nat) = n + 1 + i := fun i => by omega
  simp [series, List.range_succ_eq_map, Function.comp_def, ← shift]

theorem series_append (n : Int) (a b : Nat) :
    series n a ++ series (n + a) b = series n (a + b) := by
  have shift : ∀ i : Nat, n + (a + i : Nat) = n + a + i := fun i => by omega
  simp [series, List.range_add, Function.comp_def, ← shift]

theorem mem_series {n k : Int} {size : Nat} : k ∈ series n size ↔ n ≤ k ∧ k < n + size := by
  simp only [series, List.mem_map, List.mem_range]
  constructor
  · rintro ⟨i, hi, rfl⟩
    omega
  · rintro ⟨h1, h2⟩
    exact ⟨(k - n).toNat, by omega, by omega⟩

theorem next_nextNumber (keys : List Key) : Next keys (nextNumber keys) := by
  unfold nextNumber
  cases h : (keys.filterMap number?).max? with
  | none => exact .inl ⟨List.max?_eq_none_iff.1 h, rfl⟩
  | some k =>
    obtain ⟨mem, max⟩ := List.max?_eq_some_iff.1 h
    refine .inr ⟨?_, fun l hl => ?_⟩
    · simpa [numbers] using mem
    · simpa using max l hl

theorem Next.unique {keys : List Key} {m n : Int} (hm : Next keys m) (hn : Next keys n) :
    m = n := by
  rcases hm with ⟨h, rfl⟩ | ⟨h1, h2⟩
  · rcases hn with ⟨-, rfl⟩ | ⟨h1, -⟩
    · rfl
    · rw [h] at h1
      cases h1
  · rcases hn with ⟨h, -⟩ | ⟨h3, h4⟩
    · rw [h] at h1
      cases h1
    · have := h2 _ h3
      have := h4 _ h1
      omega

/-- The number that comes next after numbers in turn. -/
theorem Next.append {keys ks : List Key} {n : Int} {size : Nat} (h : Next keys n)
    (hk : numbers ks = series n size) : Next (keys ++ ks) (n + size) := by
  cases size with
  | zero =>
    have same : numbers (keys ++ ks) = numbers keys := by
      rw [numbers_append, hk]
      exact List.append_nil _
    rw [Int.natCast_zero, Int.add_zero]
    unfold Next at h ⊢
    rwa [same]
  | succ size =>
    refine .inr ⟨?_, fun k hk' => ?_⟩
    · rw [numbers_append, List.mem_append, hk, mem_series]
      omega
    · rw [numbers_append, List.mem_append, hk, mem_series] at hk'
      rcases hk' with old | new
      · rcases h with ⟨none, -⟩ | ⟨-, max⟩
        · rw [none] at old
          cases old
        · have := max k old
          omega
      · omega

end Key

open Key

/-! ## One leaf -/

theorem number?_of_isNamed {k : Key} (h : k.IsNamed) : k.number? = none := by
  obtain ⟨t, ht⟩ := h
  rw [number?, ht]

/-- The keys of a row of groups are numbered in turn, if all keys that are known have names. -/
theorem numbers_assign {known : KnownKeys} (hk : ∀ x ∈ known, x.2.IsNamed) (next : Int)
    (gs : List Group) :
    ∃ size, numbers ((assign known next gs).map Assigned.key) = series next size := by
  induction gs generalizing next with
  | nil => exact ⟨0, rfl⟩
  | cons g gs ih =>
    unfold assign
    split
    · next k hg =>
      obtain ⟨size, h⟩ := ih next
      have named := number?_of_isNamed (hk _ (KnownKeys.mem_of_key? hg))
      refine ⟨size, ?_⟩
      rw [List.map_cons, numbers, List.filterMap_cons_none named]
      exact h
    · obtain ⟨size, h⟩ := ih next
      exact ⟨size, h⟩
    · obtain ⟨size, h⟩ := ih (next + 1)
      refine ⟨size + 1, ?_⟩
      rw [series_succ, ← h]
      rfl

/-- Keys have been added, and those without a name are numbered from the next number on. -/
def Progress.Extends (g g' : Progress) : Prop :=
  ∃ ks size, g'.keys = g.keys ++ ks ∧ numbers ks = series (nextNumber g.keys) size

namespace Progress.Extends

variable {g g' g'' : Progress}

theorem of_keys_eq (h : g'.keys = g.keys) : g.Extends g' :=
  ⟨[], 0, by rw [h, List.append_nil], rfl⟩

theorem trans (h : g.Extends g') (h' : g'.Extends g'') : g.Extends g'' := by
  obtain ⟨ks, a, keys, numbers⟩ := h
  obtain ⟨ls, b, keys', numbers'⟩ := h'
  have next : nextNumber g'.keys = nextNumber g.keys + a := by
    rw [keys]
    exact (next_nextNumber _).unique ((next_nextNumber _).append numbers)
  refine ⟨ks ++ ls, a + b, ?_, ?_⟩
  · rw [keys', keys, List.append_assoc]
  · rw [numbers_append, numbers, numbers', next, series_append]

theorem collect {known : KnownKeys} (hk : ∀ x ∈ known, x.2.IsNamed) (source : Text) :
    g.Extends (g.collect source known) := by
  obtain ⟨size, numbers⟩ := numbers_assign hk (nextNumber g.keys) (Scan.openings source)
  exact ⟨_, size, keys_collect g source known, numbers⟩

end Progress.Extends

/-! ## Routes -/

theorem keys_conclude (g : Progress) (flags : Regex.Flags) (route : Route) (source : Text) :
    (g.conclude flags route source).2.keys = g.keys := by
  unfold Progress.conclude
  split <;> rfl

mutual

/-- A route adds keys in turn, whether it compiles or not. -/
theorem extends_compile (o : Options) (r : Route) (g : Progress) :
    g.Extends (compile o r g).2 := by
  cases r with
  | template t =>
    rw [compile, compileTemplate]
    exact .trans (.collect (isNamed_draft t) _) (.of_keys_eq (keys_conclude _ _ _ _))
  | pattern q =>
    rw [compile]
    exact .collect (fun x hx => by cases hx) _
  | row shape rs =>
    have all := extends_compileAll o rs g
    rw [compile]
    split
    · next sources g' h =>
      rw [h] at all
      exact all.trans (.of_keys_eq (keys_conclude _ _ _ _))
    · next e g' h =>
      rw [h] at all
      exact all
  | illTyped k =>
    rw [compile]
    exact .of_keys_eq rfl

/-- So does a row of routes, up to the first that does not compile. -/
theorem extends_compileAll (o : Options) (rs : List Route) (g : Progress) :
    g.Extends (compileAll o rs g).2 := by
  cases rs with
  | nil =>
    rw [compileAll]
    exact .of_keys_eq rfl
  | cons r rs =>
    have first := extends_compile o r g
    rw [compileAll]
    split
    · next q g' h =>
      rw [h] at first
      have rest := extends_compileAll o rs g'
      split
      · next h' =>
        rw [h'] at rest
        exact first.trans rest
      · next h' =>
        rw [h'] at rest
        exact first.trans rest
    · next e g' h =>
      rw [h] at first
      exact first

end

theorem extends_compileWith (source : OptionsSource) (r : Route) (g : Progress) :
    g.Extends (compileWith source r g).2 := by
  unfold compileWith
  split
  · exact extends_compile _ r g
  · exact .of_keys_eq rfl

/-! ## Calls in turn -/

/-- Routes compiled in turn, each with options of its own, with one list of keys. -/
def compileEach (calls : List (OptionsSource × Route)) (g : Progress) : Progress :=
  calls.foldl (fun g c => (compileWith c.1 c.2 g).2) g

theorem extends_compileEach (calls : List (OptionsSource × Route)) (g : Progress) :
    g.Extends (compileEach calls g) := by
  induction calls generalizing g with
  | nil => exact .of_keys_eq rfl
  | cons c calls ih => exact (extends_compileWith c.1 c.2 g).trans (ih _)

/-- Calls that share a list of keys only add keys to it. Those without a name are numbered in turn,
from one more than the largest number in the list on, and later calls go on with the numbers. -/
theorem numbers_compileEach (calls later : List (OptionsSource × Route)) (g : Progress) :
    ∃ n, Next g.keys n ∧ ∃ ks a, (compileEach calls g).keys = g.keys ++ ks ∧
      numbers ks = series n a ∧ ∃ ls b,
        (compileEach (calls ++ later) g).keys = g.keys ++ ks ++ ls ∧
          numbers ls = series (n + a) b := by
  obtain ⟨ks, a, keys, nums⟩ := extends_compileEach calls g
  obtain ⟨ls, b, keys', nums'⟩ := extends_compileEach later (compileEach calls g)
  have next := next_nextNumber g.keys
  have next' : nextNumber (compileEach calls g).keys = nextNumber g.keys + a := by
    rw [keys]
    exact (next_nextNumber _).unique (next.append nums)
  refine ⟨_, next, ks, a, keys, nums, ls, b, ?_, next' ▸ nums'⟩
  rw [← keys, ← keys', compileEach, compileEach, compileEach, List.foldl_append]

end RoutePattern
