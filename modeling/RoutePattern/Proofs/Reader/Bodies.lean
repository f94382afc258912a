import RoutePattern.Proofs.Reader.Effect

/-! # The bodies of a capture group

Capture groups are numbered in turn, so a group that is closed gets no other body.

* `State.Numbered`: every group met has a number that has been given out.
* `State.Bodies`: a group is closed and all its bodies have a property.
* `bodies_of_finish`: what is kept to the end holds of the whole expression.
* `number_le_of_finish`: the expression has no groups but those that have been met.
-/

namespace RoutePattern.Regex.Reader

/-- No group has a number that has not been given out. -/
structure State.Numbered (st : State) : Prop where
  nodes : ∀ n b, capture n b ∈ st.nodes → n ≤ st.groups.length
  openers : ∀ n, .capture n ∈ st.openers → n ≤ st.groups.length

/-- The group with a number is closed, and its bodies have the property. -/
structure State.Bodies (n : Nat) (G : Regex → Prop) (st : State) : Prop where
  nodes : ∀ b, capture n b ∈ st.nodes → G b
  openers : .capture n ∉ st.openers
  met : n ≤ st.groups.length

variable {st nx : State} {n : Nat} {G : Regex → Prop}

theorem opener_of_mem_own {b : Regex} {o : Opener} (h : capture n b ∈ st.own o) :
    o = .capture n := by
  unfold State.own at h
  cases o with
  | capture m =>
    simp only [Opener.isNode, if_true, State.closed, List.mem_singleton] at h
    rw [(Regex.capture.inj h).1]
  | condition m => simp [Opener.isNode, State.closed] at h
  | _ => simp [Opener.isNode] at h

/-! ## One symbol -/

theorem Effect.numbered (h : Effect st nx) (hs : st.Numbered) : nx.Numbered := by
  cases h with
  | keep hn ho hg =>
    refine ⟨fun n b hb => ?_, fun n hm => ?_⟩
    · rw [hg]; exact hs.nodes n b (hn.mem_iff.1 hb)
    · rw [hg]; exact hs.openers n (ho ▸ hm)
  | enter o hp hn ho hg =>
    refine ⟨fun n b hb => ?_, fun n hm => ?_⟩
    · rw [hg]; exact hs.nodes n b (hn.mem_iff.1 hb)
    · rw [ho, List.mem_cons] at hm
      rcases hm with rfl | hm
      · cases hp
      · rw [hg]; exact hs.openers n hm
  | capture hn ho hg =>
    refine ⟨fun n b hb => ?_, fun n hm => ?_⟩
    · have := hs.nodes n b (hn.mem_iff.1 hb)
      omega
    · rw [ho, List.mem_cons] at hm
      rcases hm with hm | hm
      · rw [Opener.capture.inj hm, hg]; exact Nat.le_refl _
      · have := hs.openers n hm
        omega
  | close o hn ho hg =>
    refine ⟨fun n b hb => ?_, fun n hm => ?_⟩
    · rcases List.mem_append.1 (hn.mem_iff.1 hb) with hb | hb
      · rw [hg]
        exact hs.openers n (by rw [ho, opener_of_mem_own hb]; exact List.mem_cons_self)
      · rw [hg]; exact hs.nodes n b hb
    · rw [hg]
      exact hs.openers n (by rw [ho]; exact List.mem_cons_of_mem _ hm)

theorem Effect.bodies (h : Effect st nx) (hs : st.Bodies n G) : nx.Bodies n G := by
  cases h with
  | keep hn ho hg =>
    exact ⟨fun b hb => hs.nodes b (hn.mem_iff.1 hb), ho ▸ hs.openers, hg ▸ hs.met⟩
  | enter o hp hn ho hg =>
    refine ⟨fun b hb => hs.nodes b (hn.mem_iff.1 hb), fun hm => ?_, hg ▸ hs.met⟩
    rw [ho, List.mem_cons] at hm
    rcases hm with rfl | hm
    · cases hp
    · exact hs.openers hm
  | capture hn ho hg =>
    have met := hs.met
    refine ⟨fun b hb => hs.nodes b (hn.mem_iff.1 hb), fun hm => ?_, by omega⟩
    rw [ho, List.mem_cons] at hm
    rcases hm with hm | hm
    · have : n = st.groups.length + 1 := Opener.capture.inj hm
      omega
    · exact hs.openers hm
  | close o hn ho hg =>
    refine ⟨fun b hb => ?_, fun hm => ?_, hg ▸ hs.met⟩
    · rcases List.mem_append.1 (hn.mem_iff.1 hb) with hb | hb
      · exact absurd (by rw [ho, opener_of_mem_own hb]; exact List.mem_cons_self) hs.openers
      · exact hs.nodes b hb
    · exact hs.openers (by rw [ho]; exact List.mem_cons_of_mem _ hm)

theorem Effects.numbered (h : Effects st nx) (hs : st.Numbered) : nx.Numbered := by
  induction h with
  | refl => exact hs
  | tail _ h ih => exact h.numbered ih

theorem Effects.bodies (h : Effects st nx) (hs : st.Bodies n G) : nx.Bodies n G := by
  induction h with
  | refl => exact hs
  | tail _ h ih => exact h.bodies ih

theorem numbered_step {y : Symbol} (hs : st.Numbered) (h : step st y = .ok nx) :
    nx.Numbered := by
  cases ha : st.mode.asks y with
  | false => exact (effects_step ha h).numbered hs
  | true =>
    obtain ⟨hn, hg, m, ho⟩ := asks_opens ha h
    refine ⟨fun n b hb => hg ▸ hs.nodes n b (hn.mem_iff.1 hb), fun n hm => ?_⟩
    rw [ho] at hm
    exact hg ▸ hs.openers n (by simpa using hm)

theorem bodies_step {y : Symbol} (hs : st.Bodies n G) (h : step st y = .ok nx) :
    nx.Bodies n G := by
  cases ha : st.mode.asks y with
  | false => exact (effects_step ha h).bodies hs
  | true =>
    obtain ⟨hn, hg, m, ho⟩ := asks_opens ha h
    refine ⟨fun b hb => hs.nodes b (hn.mem_iff.1 hb), ?_, hg ▸ hs.met⟩
    rw [ho]
    simpa using hs.openers

/-! ## The whole expression -/

theorem numbered_start (flags : Flags) : (start flags).Numbered :=
  ⟨fun n b hb => absurd hb (by simp [State.nodes, start]),
    fun n hm => absurd hm (by simp [State.openers, start])⟩

theorem bodies_of_finish {q : Parsed} (hs : st.Bodies n G) (h : finish st = .ok q) :
    ∀ b, capture n b ∈ q.tree.nodes → G b := by
  obtain ⟨s, hset, -, hf, ht, -⟩ := finish_ok h
  have settled := (effect_settle hset).bodies hs
  intro b hb
  refine settled.nodes b ?_
  rw [ht, nodes_body.mem_iff] at hb
  simpa [State.nodes, hf] using hb

theorem number_le_of_finish {q : Parsed} {b : Regex} (hs : st.Numbered) (h : finish st = .ok q)
    (hb : capture n b ∈ q.tree.nodes) : n ≤ q.groups.length := by
  obtain ⟨s, hset, -, hf, ht, -, hg⟩ := finish_ok h
  have settled := (effect_settle hset).numbered hs
  rw [ht, nodes_body.mem_iff] at hb
  rw [hg, List.length_map]
  exact settled.nodes n b (by simpa [State.nodes, hf] using hb)

end RoutePattern.Regex.Reader
