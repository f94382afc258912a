import Mathlib.Data.List.Forall2
import RoutePattern.Compile

/-! # The keys of a row of groups

* `Key.Calls k g`, `Key.StandsFor k g`: what a key says of a group that no parameter opened.
* `assign_forall₂`: every group of a row gets one key, in order: the one that is known for its
  index, or one that stands for it.
* `assign_first`: the number of the first key that has no name.
-/

namespace RoutePattern

/-- The key gives the name of the group, or else a number. -/
def Key.Calls (k : Key) (g : Group) : Prop :=
  match g.name with
  | some name => k.name = .text name
  | none => ∃ n, k.name = .number n

/-- The key gives the index of the group, and its name or else a number. -/
def Key.StandsFor (k : Key) (g : Group) : Prop := k.offset = g.index ∧ k.Calls g

/-- The key that a group gets: the known one, if there is one for the group's index. -/
def KnownKeys.Gives (known : KnownKeys) (k : Key) (g : Group) : Prop :=
  known.key? g.index = some k ∨ (known.key? g.index = none ∧ k.StandsFor g)

theorem assign_forall₂ (known : KnownKeys) (next : Int) (gs : List Group) :
    List.Forall₂ known.Gives ((assign known next gs).map Assigned.key) gs := by
  induction gs generalizing next with
  | nil => exact .nil
  | cons g gs ih =>
    unfold assign
    split
    · next hk => exact .cons (.inl hk) (ih _)
    · next hk hn => exact .cons (.inr ⟨hk, rfl, by simp [Key.Calls, hn]⟩) (ih _)
    · next hk hn => exact .cons (.inr ⟨hk, rfl, by simp [Key.Calls, hn]⟩) (ih _)

/-- Without known keys, every key stands for its group. -/
theorem assign_nil_forall₂ (next : Int) (gs : List Group) :
    List.Forall₂ Key.StandsFor ((assign [] next gs).map Assigned.key) gs :=
  (assign_forall₂ [] next gs).imp fun _ _ h => by
    rcases h with h | ⟨-, h⟩
    · cases h
    · exact h

/-- The key is called by a name. -/
def Key.IsNamed (k : Key) : Prop := ∃ t, k.name = .text t

theorem KnownKeys.mem_of_key? {known : KnownKeys} {i : Nat} {k : Key}
    (h : known.key? i = some k) : (i, k) ∈ known := by
  obtain ⟨as, bs, he, -⟩ := List.lookup_eq_some_iff.1 h
  rw [← List.mem_reverse, he]
  simp

/-- The first key without a name gets the next number, if all keys that are known have names. -/
theorem assign_first {known : KnownKeys} (hk : ∀ x ∈ known, x.2.IsNamed) {next : Int}
    {gs : List Group} {as bs : List Key} {k : Key}
    (h : (assign known next gs).map Assigned.key = as ++ k :: bs) (ha : ∀ a ∈ as, a.IsNamed)
    (hn : ¬ k.IsNamed) : k.name = .number next ∧ k.optional = false := by
  induction gs generalizing as with
  | nil => simp [assign] at h
  | cons g gs ih =>
    -- A key with a name is none that is looked for.
    have skip : ∀ {a : Key} {ks : List Key}, a.IsNamed → a :: ks = as ++ k :: bs →
        ∃ cs, ks = cs ++ k :: bs ∧ ∀ c ∈ cs, c.IsNamed := by
      intro a ks named he
      cases as with
      | nil => exact absurd ((List.cons.inj he).1 ▸ named) hn
      | cons c cs => exact ⟨cs, (List.cons.inj he).2, fun d hd => ha d (by simp [hd])⟩
    unfold assign at h
    split at h
    · next hg =>
      obtain ⟨cs, hc, named⟩ := skip (hk _ (KnownKeys.mem_of_key? hg)) h
      exact ih hc named
    · obtain ⟨cs, hc, named⟩ := skip ⟨_, rfl⟩ h
      exact ih hc named
    · cases as with
      | nil =>
        obtain ⟨rfl, -⟩ := List.cons.inj h
        exact ⟨rfl, rfl⟩
      | cons a as =>
        obtain ⟨t, ht⟩ := ha a (by simp)
        rw [← (List.cons.inj h).1] at ht
        cases ht

end RoutePattern
