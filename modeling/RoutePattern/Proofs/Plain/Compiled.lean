import RoutePattern.Proofs.Numbering
import RoutePattern.Proofs.Plain.Reading
import RoutePattern.Proofs.Template.Alone
import RoutePattern.Proofs.Template.Leaf

/-! # Plain templates compile

* `groups_plain`: the scanner finds the groups of the tokens, `calls_groupsFrom`: these ask for the
  keys that the template asks for.
* `Call.Fits`, `fits_known`: the keys that the draft knows fit what asks for them.
* `assign_unnamed`: groups without names get the keys that are asked for.
* `read_plain`: what a plain template becomes is accepted between all anchors.
* `compile_plain`: a plain template compiles, with the keys that it asks for.
-/

namespace RoutePattern

open Scan Regex Regex.Reader

variable {t : Text}

/-! ## Groups -/

theorem calls_groups (d : Draft) (k : Token) : (d.groups k).map Prod.snd = k.calls := by
  cases k with
  | param p =>
    rw [Draft.groups, Token.calls]
    cases p.marks.star <;> rfl
  | _ => rfl

/-- The groups of a row of tokens ask for the same keys as the tokens. -/
theorem calls_groupsFrom (d : Draft) (ks : List Token) :
    (groupsFrom d ks).map Prod.snd = ks.flatMap Token.calls := by
  induction ks generalizing d with
  | nil => rfl
  | cons k ks ih => rw [groupsFrom, List.map_append, calls_groups, ih, List.flatMap_cons]

/-- A group asks for the key of a parameter if and only if the parameter has opened it. -/
theorem mem_groups {d : Draft} {k : Token} {i : Nat} {name : Text} {optional : Bool} :
    (i, Call.param name optional) ∈ d.groups k ↔
      ∃ p, (i, p) ∈ d.opened k ∧ p.name = name ∧ p.marks.optional = optional := by
  cases k with
  | param p =>
    have none : ∀ n, (i, Call.param name optional) ∉
        if p.marks.star then [(n, Call.star)] else [] := by
      intro n
      cases p.marks.star <;> simp
    simp only [Draft.groups, Draft.opened, List.mem_cons, none, or_false, List.not_mem_nil,
      Prod.mk.injEq, Call.param.injEq]
    constructor
    · intro h
      obtain ⟨rfl, rfl, rfl⟩ := h
      exact ⟨p, ⟨rfl, rfl⟩, rfl, rfl⟩
    · intro h
      obtain ⟨q, ⟨rfl, rfl⟩, rfl, rfl⟩ := h
      exact ⟨rfl, rfl, rfl⟩
  | _ => simp [Draft.groups, Draft.opened]

theorem mem_groupsFrom {d : Draft} {ks : List Token} {i : Nat} {name : Text} {optional : Bool} :
    (i, Call.param name optional) ∈ groupsFrom d ks ↔
      ∃ p, (i, p) ∈ openedFrom d ks ∧ p.name = name ∧ p.marks.optional = optional := by
  induction ks generalizing d with
  | nil => simp [groupsFrom, openedFrom]
  | cons k ks ih =>
    rw [groupsFrom, openedFrom, List.mem_append, mem_groups, ih]
    simp only [List.mem_append]
    constructor
    · intro h
      rcases h with h | h
      · obtain ⟨p, mem, own⟩ := h
        exact ⟨p, .inl mem, own⟩
      · obtain ⟨p, mem, own⟩ := h
        exact ⟨p, .inr mem, own⟩
    · intro h
      obtain ⟨p, mem | mem, own⟩ := h
      · exact .inl ⟨p, mem, own⟩
      · exact .inr ⟨p, mem, own⟩

/-- A plain template is read from any state between items and outside of all groups. -/
theorem walks_plain {st : State} {base : Nat} (h : IsPlain t) (hr : st.Ready)
    (hf : st.frames = []) (hpos : st.pos = base) :
    ∃ nx, Walks st (draft t).source nx (unnamed base (groupsFrom {} (tokens t))) := by
  rw [source_draft]
  exact walks_tokens (d := {}) (w := []) (plain_tokens h).1 rfl hr hf hpos

/-- The scanner finds the groups of the tokens. -/
theorem groups_plain (h : IsPlain t) :
    openings (draft t).source = unnamed 0 (groupsFrom {} (tokens t)) := by
  have ready : (start {}).Ready := ⟨.inl rfl, rfl⟩
  obtain ⟨nx, walk⟩ := walks_plain h ready rfl rfl
  exact (openings_of_passes walk.passes walk.ready.place walk.ready.entered).trans walk.found

theorem groups_ascending (h : IsPlain t) :
    (groupsFrom {} (tokens t)).Pairwise (·.1 < ·.1) := by
  have found : (openings (draft t).source).Pairwise (·.index < ·.index) :=
    openingsFrom_pairwise 0 _
  rw [groups_plain h, unnamed, List.pairwise_map] at found
  exact found.imp Nat.add_lt_add_iff_left.1

/-! ## Keys -/

/-- The key that is known for a group, if one is, is what asks for it. -/
def Call.Fits : Call → Option Key → Prop
  | .param name optional, k => ∃ own, k = some own ∧ own.name = .text name ∧ own.optional = optional
  | .star, k => k = none

/-- Groups without names get the keys that are asked for, if the known ones fit. -/
theorem assign_unnamed {known : KnownKeys} {next : Int} {xs : List (Nat × Call)}
    (h : ∀ x ∈ xs, x.2.Fits (known.key? x.1)) :
    ((assign known next (unnamed 0 xs)).map Assigned.key).map (fun k => (k.name, k.optional)) =
      called next (xs.map Prod.snd) := by
  induction xs generalizing next with
  | nil => rfl
  | cons x xs ih =>
    obtain ⟨i, call⟩ := x
    have first := h _ List.mem_cons_self
    have rest : ∀ x ∈ xs, x.2.Fits (known.key? x.1) := fun x hx =>
      h x (List.mem_cons_of_mem _ hx)
    rw [unnamed, List.map_cons, Nat.zero_add, assign]
    cases call with
    | param name optional =>
      obtain ⟨own, key, hn, ho⟩ := first
      rw [key, List.map_cons, List.map_cons, hn, ho]
      exact congrArg _ (ih rest)
    | star =>
      rw [show known.key? i = none from first]
      exact congrArg _ (ih rest)

/-- The keys that the draft of a plain template knows fit the groups of its tokens. -/
theorem fits_known (h : IsPlain t) :
    ∀ x ∈ groupsFrom {} (tokens t), x.2.Fits ((draft t).named.key? x.1) := by
  intro x hx
  obtain ⟨i, call⟩ := x
  cases call with
  | param name optional =>
    obtain ⟨p, mem, rfl, rfl⟩ := mem_groupsFrom.1 hx
    obtain ⟨k, key, own⟩ := key?_of_opened mem
    exact ⟨k, key, own⟩
  | star =>
    cases hk : (draft t).named.key? i with
    | none => rfl
    | some k =>
      obtain ⟨p, mem, -⟩ := opened_of_key? hk
      have asked := mem_groupsFrom.2 ⟨p, mem, rfl, rfl⟩
      have same := unique_of_ascending (groups_ascending h) hx asked rfl
      cases same

/-! ## Compiling -/

/-- What a plain template becomes is accepted between all anchors. -/
theorem read_plain (h : IsPlain t) (o : Options) :
    ∃ q, Pattern.read o.flags (o.anchored (draft t).source) = .ok q := by
  have ready : (begun o.flags).Ready := ⟨.inl rfl, rfl⟩
  obtain ⟨st, walk⟩ := walks_plain h ready rfl rfl
  have reads := walk.passes.reads
  obtain ⟨rs, ends⟩ :=
    endsAt_of_settle walk.ready.settle rfl (last_slash reads walk.ready.place)
  have kept := walk.kept
  simp only [State.kept, Prod.mk.injEq] at kept
  obtain ⟨frames, asked, variableLookbehind⟩ := kept
  have concluded := @conclude_outside st.rested rfl frames asked variableLookbehind
  obtain ⟨q, read, -⟩ := read_ended reads ends concluded
  exact ⟨q, read⟩

/-- A plain template compiles under all options, whatever keys there are. From left to right it adds
a key with its name for every parameter, and a number for every star; a key may be missing if its
parameter has a mark. The numbers go on from those of the keys that there are. -/
theorem compile_plain (h : IsPlain t) (o : Options) (p : Progress) :
    ∃ q p' ks, compile o (.template t) p = (.ok q, p') ∧ p'.keys = p.keys ++ ks ∧
      ks.map (fun k => (k.name, k.optional)) = called (Key.nextNumber p.keys) (calls t) := by
  obtain ⟨q, read⟩ := read_plain h o
  let g := p.collect (draft t).source (draft t).named
  refine ⟨q, { g with log := g.log ++ [.compiled (.template t) q.source] }, _, ?_,
    Progress.keys_collect _ _ _, ?_⟩
  · rw [compile, compileTemplate, Progress.conclude, read]
  · rw [groups_plain h, assign_unnamed (fits_known h), calls_groupsFrom, (plain_tokens h).2]

theorem compile_plain_marks :
    ∃ q p' ks, compile {} (.template ['/', ':', 'a', '*', '?', '|', '*'])
        ⟨[⟨.number 4, false, 0⟩], []⟩ = (.ok q, p') ∧
      p'.keys = [⟨.number 4, false, 0⟩] ++ ks ∧ ks.map (fun k => (k.name, k.optional)) =
        [(.text ['a'], true), (.number 5, false), (.number 6, false)] := by
  have plain : IsPlain ['/', ':', 'a', '*', '?', '|', '*'] :=
    .char (by decide) (@IsPlain.optional ['a'] _ true (by decide) (by decide +kernel)
      (.char (by decide) (.char (by decide) .nil)))
  have asked : called (Key.nextNumber [⟨.number 4, false, 0⟩])
      (calls ['/', ':', 'a', '*', '?', '|', '*']) =
      [(.text ['a'], true), (.number 5, false), (.number 6, false)] := by
    decide +kernel
  rw [← asked]
  exact compile_plain plain {} ⟨[⟨.number 4, false, 0⟩], []⟩

end RoutePattern
