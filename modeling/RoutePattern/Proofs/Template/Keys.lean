import Mathlib.Data.List.Nodup
import RoutePattern.Proofs.Keys
import RoutePattern.Proofs.Template.Walk

/-! # The parameters of a template

* `opened`: the parameters of a template, by the index at which the capture group of each opens in
  the expression.
* `Key.IsFor`: the key that a group gets, for its parameter or for itself.
* `opened_of_key?`, `key?_of_opened`, `isFor_of_gives`: the keys that the draft knows are those of its
  parameters.
-/

namespace RoutePattern

open Scan

/-- The parameter of a token, by the index at which its capture group opens. -/
def Draft.opened (d : Draft) : Token → List (Nat × Param)
  | .param p => [(d.source.length + p.opening.length, p)]
  | _ => []

/-- The parameters of a row of tokens that is drafted after others. -/
def openedFrom (d : Draft) : List Token → List (Nat × Param)
  | [] => []
  | k :: ks => d.opened k ++ openedFrom (d.push k) ks

/-- The parameters of a template, by the index at which the capture group of each opens in the
expression. -/
def opened (t : Text) : List (Nat × Param) := openedFrom {} (tokens t)

/-- The key has the name of the parameter, and its mark if it may be missing. -/
def Key.IsOf (k : Key) (p : Param) : Prop := k.name = .text p.name ∧ k.optional = p.marks.optional

/-- The key of a group: its parameter's if a parameter opened it, else its own. -/
def Key.IsFor (params : List (Nat × Param)) (k : Key) (g : Group) : Prop :=
  (∃ p, (g.index, p) ∈ params ∧ k.IsOf p) ∨ ((∀ p, (g.index, p) ∉ params) ∧ k.Calls g)

/-! ## Indexes -/

theorem mem_opened {d : Draft} {k : Token} {i : Nat} {p : Param} :
    (i, p) ∈ d.opened k ↔ k = .param p ∧ i = d.source.length + p.opening.length := by
  cases k with
  | param q =>
    simp only [Draft.opened, List.mem_singleton, Prod.mk.injEq, Token.param.injEq]
    constructor
    · rintro ⟨rfl, rfl⟩; exact ⟨rfl, rfl⟩
    · rintro ⟨rfl, rfl⟩; exact ⟨rfl, rfl⟩
  | _ => simp [Draft.opened]

/-- A parameter is opened where it stands among the tokens. -/
theorem mem_openedFrom {d : Draft} {ks : List Token} {i : Nat} {p : Param} :
    (i, p) ∈ openedFrom d ks ↔ ∃ as bs, ks = as ++ .param p :: bs ∧
      i = (as.foldl Draft.push d).source.length + p.opening.length := by
  induction ks generalizing d with
  | nil => simp [openedFrom]
  | cons k ks ih =>
    rw [openedFrom, List.mem_append, mem_opened, ih]
    constructor
    · rintro (⟨rfl, rfl⟩ | ⟨as, bs, rfl, rfl⟩)
      · exact ⟨[], ks, rfl, rfl⟩
      · exact ⟨k :: as, bs, rfl, rfl⟩
    · rintro ⟨as, bs, h, rfl⟩
      cases as with
      | nil =>
        obtain ⟨rfl, rfl⟩ := List.cons.inj h
        exact .inl ⟨rfl, rfl⟩
      | cons a as =>
        obtain ⟨rfl, rfl⟩ := List.cons.inj h
        exact .inr ⟨as, bs, rfl, rfl⟩

theorem length_push (d : Draft) (k : Token) :
    (d.push k).source.length = d.source.length + (k.written d.guard).length :=
  List.length_append

theorem length_le_foldl (d : Draft) (ks : List Token) :
    d.source.length ≤ (ks.foldl Draft.push d).source.length := by
  rw [source_foldl, List.length_append]
  omega

/-- A parameter is opened inside what its token becomes. -/
theorem opened_bounds {d : Draft} {k : Token} {i : Nat} {p : Param} (h : (i, p) ∈ d.opened k) :
    d.source.length ≤ i ∧ i < (d.push k).source.length := by
  obtain ⟨rfl, rfl⟩ := mem_opened.1 h
  rw [length_push, Token.written, Param.written]
  simp only [List.length_append, List.length_cons]
  omega

theorem openedFrom_bounds {d : Draft} {ks : List Token} {i : Nat} {p : Param}
    (h : (i, p) ∈ openedFrom d ks) :
    d.source.length ≤ i ∧ i < (ks.foldl Draft.push d).source.length := by
  induction ks generalizing d with
  | nil => cases h
  | cons k ks ih =>
    rw [openedFrom, List.mem_append] at h
    rw [List.foldl_cons]
    rcases h with h | h
    · have := opened_bounds h
      have := length_le_foldl (d.push k) ks
      omega
    · have := ih h
      have := length_push d k
      omega

theorem openedFrom_pairwise (d : Draft) (ks : List Token) :
    (openedFrom d ks).Pairwise (·.1 < ·.1) := by
  induction ks generalizing d with
  | nil => exact .nil
  | cons k ks ih =>
    rw [openedFrom, List.pairwise_append]
    refine ⟨?_, ih _, ?_⟩
    · cases k <;> simp [Draft.opened]
    · rintro ⟨i, p⟩ hi ⟨j, q⟩ hj
      have := (opened_bounds hi).2
      have := (openedFrom_bounds hj).1
      simp only
      omega

/-- In a row with ascending indexes, an index stands for one entry. -/
theorem unique_of_ascending {α : Type} {l : List (Nat × α)} (h : l.Pairwise (·.1 < ·.1))
    {x y : Nat × α} (hx : x ∈ l) (hy : y ∈ l) (he : x.1 = y.1) : x = y := by
  have nodup : (l.map Prod.fst).Nodup := by
    rw [List.Nodup, List.pairwise_map]
    exact h.imp Nat.ne_of_lt
  exact List.inj_on_of_nodup_map nodup hx hy he

/-- Only one parameter opens its group at an index. -/
theorem opened_unique {t : Text} {i : Nat} {p q : Param} (hp : (i, p) ∈ opened t)
    (hq : (i, q) ∈ opened t) : p = q :=
  congrArg Prod.snd (unique_of_ascending (openedFrom_pairwise {} (tokens t)) hp hq rfl)

/-! ## Known keys -/

/-- A known key is the key of a parameter at its index. -/
def Knows (x : Nat × Key) (y : Nat × Param) : Prop := x.1 = y.1 ∧ x.2.IsOf y.2

theorem knows_newKeys (d : Draft) (k : Token) :
    List.Forall₂ Knows (d.newKeys k) (d.opened k) := by
  cases k with
  | param p => exact .cons ⟨rfl, rfl, rfl⟩ .nil
  | _ => exact .nil

theorem knows_foldl (d : Draft) (ks : List Token) :
    ∃ more, (ks.foldl Draft.push d).named = d.named ++ more ∧
      List.Forall₂ Knows more (openedFrom d ks) := by
  induction ks generalizing d with
  | nil => exact ⟨[], by simp, .nil⟩
  | cons k ks ih =>
    obtain ⟨more, h1, h2⟩ := ih (d.push k)
    refine ⟨d.newKeys k ++ more, ?_, List.rel_append (knows_newKeys d k) h2⟩
    rw [List.foldl_cons, h1, ← List.append_assoc]
    rfl

theorem knows_draft (t : Text) : List.Forall₂ Knows (draft t).named (opened t) := by
  obtain ⟨more, h1, h2⟩ := knows_foldl {} (tokens t)
  rw [draft, h1]
  exact h2

theorem exists_of_forall₂ {α β : Type} {R : α → β → Prop} {as : List α} {bs : List β}
    (h : List.Forall₂ R as bs) :
    (∀ a ∈ as, ∃ b ∈ bs, R a b) ∧ ∀ b ∈ bs, ∃ a ∈ as, R a b := by
  induction h with
  | nil => simp
  | cons hr _ ih => simp_all

/-- The keys that the draft knows have names. -/
theorem isNamed_draft (t : Text) : ∀ x ∈ (draft t).named, x.2.IsNamed := by
  intro x hx
  obtain ⟨p, -, -, own⟩ := (exists_of_forall₂ (knows_draft t)).1 x hx
  exact ⟨_, own.1⟩

/-- A key that the draft knows is that of the parameter that opens the group. -/
theorem opened_of_key? {t : Text} {i : Nat} {k : Key} (h : (draft t).named.key? i = some k) :
    ∃ p, (i, p) ∈ opened t ∧ k.IsOf p := by
  obtain ⟨⟨j, p⟩, mem, rfl, own⟩ :=
    (exists_of_forall₂ (knows_draft t)).1 _ (KnownKeys.mem_of_key? h)
  exact ⟨p, mem, own⟩

/-- The key of a parameter is known for the group that it opens. -/
theorem key?_of_opened {t : Text} {i : Nat} {p : Param} (h : (i, p) ∈ opened t) :
    ∃ k, (draft t).named.key? i = some k ∧ k.IsOf p := by
  cases hk : (draft t).named.key? i with
  | none =>
    obtain ⟨⟨j, k⟩, mem, rfl, -⟩ := (exists_of_forall₂ (knows_draft t)).2 _ h
    have other := List.lookup_eq_none_iff.1 hk _ (List.mem_reverse.2 mem)
    simp at other
  | some k =>
    obtain ⟨q, mem, own⟩ := opened_of_key? hk
    obtain rfl := opened_unique mem h
    exact ⟨k, rfl, own⟩

/-- The keys that the draft knows are those of its parameters. -/
theorem isFor_of_gives {t : Text} {k : Key} {g : Group} (h : (draft t).named.Gives k g) :
    k.IsFor (opened t) g := by
  rcases h with h | ⟨h, -, hc⟩
  · exact .inl (opened_of_key? h)
  · refine .inr ⟨fun p hp => ?_, hc⟩
    obtain ⟨k', key, -⟩ := key?_of_opened hp
    rw [h] at key
    cases key

end RoutePattern
