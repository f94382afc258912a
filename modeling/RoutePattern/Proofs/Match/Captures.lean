import RoutePattern.Proofs.Reader.Effect
import RoutePattern.Regex.Matcher

/-! # What a group may capture

Whatever way an expression matches, what a group captures is what a body of it has matched.

* `Ways.Keeps`: a property of spots that every way to match keeps; repeats keep what their body
  keeps.
* `keeps_outcomes`: a property that does not hang on the place is kept if captures keep it.
* `holds_outcomes`: a property of all that the bodies of a group match holds of all that the group
  captures.
* `Eats`, `between_lazy`: a repeat of an expression that matches one character.
-/

namespace RoutePattern.Regex

/-! ## Ways that keep a property -/

/-- The property holds after every way to match if it held before. -/
def Ways.Keeps (Q : Spot → Prop) (w : Ways) : Prop := ∀ s, Q s → ∀ t ∈ w s, Q t

namespace Ways.Keeps

variable {Q : Spot → Prop} {w : Ways}

theorem rounds (h : w.Keeps Q) (n : Nat) : (w.rounds n).Keeps Q := by
  induction n with
  | zero => intro s hs t ht; rwa [List.mem_singleton.1 ht]
  | succ n ih =>
    intro s hs t ht
    obtain ⟨u, hu, ht⟩ := List.mem_flatMap.1 ht
    exact ih u (h s hs u hu) t ht

theorem manyFirst (h : w.Keeps Q) (n : Nat) : (w.manyFirst n).Keeps Q := by
  induction n with
  | zero => intro s hs t ht; rwa [List.mem_singleton.1 ht]
  | succ n ih =>
    intro s hs t ht
    rw [Ways.manyFirst, List.mem_append] at ht
    rcases ht with ht | ht
    · obtain ⟨u, hu, ht⟩ := List.mem_flatMap.1 ht
      have kept := h s hs u hu
      split at ht
      · rwa [List.mem_singleton.1 ht]
      · exact ih u kept t ht
    · rwa [List.mem_singleton.1 ht]

theorem fewFirst (h : w.Keeps Q) (n : Nat) : (w.fewFirst n).Keeps Q := by
  induction n with
  | zero => intro s hs t ht; rwa [List.mem_singleton.1 ht]
  | succ n ih =>
    intro s hs t ht
    rw [Ways.fewFirst, List.mem_cons] at ht
    rcases ht with rfl | ht
    · exact hs
    · obtain ⟨u, hu, ht⟩ := List.mem_flatMap.1 ht
      have kept := h s hs u hu
      split at ht
      · rwa [List.mem_singleton.1 ht]
      · exact ih u kept t ht

theorem first (h : w.Keeps Q) : w.first.Keeps Q := by
  intro s hs t ht
  rw [Ways.first, Option.mem_toList] at ht
  exact h s hs t (List.mem_of_head? ht)

theorem exhaust (h : w.Keeps Q) (n : Nat) {s : Spot} (hs : Q s) : Q (w.exhaust n s) := by
  induction n generalizing s with
  | zero => exact hs
  | succ n ih =>
    rw [Ways.exhaust]
    split
    · exact hs
    · next t ht =>
      have kept := h s hs t (List.mem_of_head? ht)
      split
      · exact kept
      · exact ih kept

end Ways.Keeps

/-! ## Captures -/

namespace Spot

/-- The text between two spots. -/
def between (s t : Spot) : Text := (t.behind.take (t.pos - s.pos)).reverse

/-- All that a group has captured has the property. -/
def Holds (n : Nat) (P : Text → Prop) (s : Spot) : Prop := ∀ v, (n, v) ∈ s.captures → P v

theorem captures_eat? {s t : Spot} {test : Char → Bool} (h : s.eat? test = some t) :
    t.captures = s.captures := by
  unfold eat? at h
  split at h
  · cases h
  · split at h
    · rw [← Option.some.inj h]
    · cases h

theorem captures_back? {n : Nat} {s t : Spot} (h : s.back? n = some t) :
    t.captures = s.captures := by
  induction n generalizing s with
  | zero => rw [← Option.some.inj h]
  | succ n ih =>
    rw [back?] at h
    split at h
    · cases h
    · next c r _ => exact @ih { s with behind := r, ahead := c :: s.ahead } h

theorem Holds.of_captures {n : Nat} {P : Text → Prop} {s t : Spot} (h : s.Holds n P)
    (hc : t.captures = s.captures) : t.Holds n P := by
  intro v hv
  exact h v (hc ▸ hv)

theorem Holds.of_captured? {n : Nat} {P : Text → Prop} {s : Spot} (h : s.Holds n P) {v : Text}
    (hv : s.captured? n = some v) : P v := by
  refine h v ?_
  rw [captured?] at hv
  obtain ⟨l, r, he, -⟩ := List.lookup_eq_some_iff.1 hv
  rw [he]
  simp

end Spot

/-- The property does not hang on where in the text a spot is, and is kept by a look-around that
keeps it. -/
structure Spot.Stable (Q : Spot → Prop) : Prop where
  eat : ∀ {s t : Spot} {test : Char → Bool}, Q s → s.eat? test = some t → Q t
  back : ∀ {s t : Spot} {n : Nat}, Q s → s.back? n = some t → Q t
  around : ∀ {s t : Spot}, Q s → Q t → Q (s.withCaptures t)

theorem Spot.Stable.eatText {Q : Spot → Prop} (h : Stable Q) {same : Char → Char → Bool} {v : Text}
    {s t : Spot} (hs : Q s) (ht : eatText? same v s = some t) : Q t := by
  induction v generalizing s with
  | nil => rwa [← Option.some.inj ht]
  | cons c v ih =>
    obtain ⟨u, hu, ht⟩ := Option.bind_eq_some_iff.1 ht
    exact ih (h.eat hs hu) ht

theorem keeps_rep {Q : Spot → Prop} {f : Flags} {body : Regex} (h : (body.outcomes f).Keeps Q)
    (least : Nat) (most : Option Nat) (greed : Greed) :
    ((rep least most greed body).outcomes f).Keeps Q := by
  intro s hs t ht
  cases greed with
  | greedy =>
    obtain ⟨u, hu, ht⟩ := List.mem_flatMap.1 ht
    exact h.manyFirst _ u (h.rounds least s hs u hu) t ht
  | «lazy» =>
    obtain ⟨u, hu, ht⟩ := List.mem_flatMap.1 ht
    exact h.fewFirst _ u (h.rounds least s hs u hu) t ht
  | possessive =>
    obtain ⟨u, hu, rfl⟩ := List.mem_map.1 ht
    exact h.exhaust _ (h.first.rounds least s hs u hu)

/-- Every way to match an expression keeps a stable property that its captures keep. -/
theorem keeps_outcomes {Q : Spot → Prop} (hQ : Spot.Stable Q) {r : Regex}
    (h : ∀ n b, capture n b ∈ r.nodes → ∀ f s, Q s → ∀ t ∈ b.outcomes f s, Q t →
      Q (Spot.capture n s t)) (f : Flags) : (r.outcomes f).Keeps Q := by
  have eaten : ∀ (test : Char → Bool) (s : Spot), Q s → ∀ t ∈ (s.eat? test).toList, Q t :=
    fun test s hs t ht => hQ.eat hs (Option.mem_toList.1 ht)
  induction r generalizing f with
  | empty => intro s hs t ht; rwa [List.mem_singleton.1 ht]
  | char c => exact eaten _
  | any => exact eaten _
  | set negated members => exact eaten _
  | anchor a =>
    intro s hs t ht
    rw [outcomes] at ht
    split at ht
    · rwa [List.mem_singleton.1 ht]
    · cases ht
  | seq q r hq hr =>
    intro s hs t ht
    obtain ⟨u, hu, ht⟩ := List.mem_flatMap.1 ht
    have first := hq (fun n b hb => h n b (List.mem_append_left _ hb)) f s hs u hu
    exact hr (fun n b hb => h n b (List.mem_append_right _ hb)) f u first t ht
  | alt q r hq hr =>
    intro s hs t ht
    rcases List.mem_append.1 ht with ht | ht
    · exact hq (fun n b hb => h n b (List.mem_append_left _ hb)) f s hs t ht
    · exact hr (fun n b hb => h n b (List.mem_append_right _ hb)) f s hs t ht
  | rep least most greed body ih => exact keeps_rep (ih h f) least most greed
  | capture m body ih =>
    intro s hs t ht
    obtain ⟨u, hu, rfl⟩ := List.mem_map.1 ht
    have kept := ih (fun n b hb => h n b (List.mem_cons_of_mem _ hb)) f s hs u hu
    exact h m body (by simp [nodes]) f s hs u hu kept
  | backref m =>
    intro s hs t ht
    rw [outcomes] at ht
    split at ht
    · cases ht
    · exact hQ.eatText hs (Option.mem_toList.1 ht)
  | lookahead negated body ih =>
    intro s hs t ht
    unfold outcomes at ht
    split at ht
    · next u hu =>
      rw [List.mem_singleton.1 ht]
      exact hQ.around hs (ih h f s hs u (List.mem_of_head? hu))
    · rwa [List.mem_singleton.1 ht]
    · cases ht
  | lookbehind back negated body ih =>
    intro s hs t ht
    unfold outcomes at ht
    split at ht
    · next u hu =>
      obtain ⟨s', hb, hu⟩ := Option.bind_eq_some_iff.1 hu
      rw [List.mem_singleton.1 ht]
      exact hQ.around hs (ih h f s' (hQ.back hs hb) u (List.mem_of_head? hu))
    · rwa [List.mem_singleton.1 ht]
    · cases ht
  | cond m yes no hy hn =>
    intro s hs t ht
    rw [outcomes] at ht
    split at ht
    · exact hy (fun n b hb => h n b (by simp [nodes, hb])) f s hs t ht
    · exact hn (fun n b hb => h n b (by simp [nodes, hb])) f s hs t ht
  | atomic body ih => exact (ih h f).first
  | flagged on off body ih => exact ih h _

theorem stable_holds (n : Nat) (P : Text → Prop) : Spot.Stable (Spot.Holds n P) where
  eat := fun hs ht => hs.of_captures (Spot.captures_eat? ht)
  back := fun hs ht => hs.of_captures (Spot.captures_back? ht)
  around := fun _ ht => ht

/-- If a property holds of all that the bodies of a group match, then it holds of all that the
group captures. -/
theorem holds_outcomes {n : Nat} {P : Text → Prop} {r : Regex}
    (h : ∀ b, capture n b ∈ r.nodes → ∀ f s, ∀ t ∈ b.outcomes f s, P (s.between t)) (f : Flags) :
    (r.outcomes f).Keeps (Spot.Holds n P) := by
  refine keeps_outcomes (stable_holds n P) (fun m b hb f s _ t ht kept v hv => ?_) f
  rcases List.mem_cons.1 hv with hv | hv
  · obtain ⟨rfl, rfl⟩ := Prod.mk.inj hv
    exact h b hb f s t ht
  · exact kept v hv

/-! ## Repeats of one character -/

/-- Every way to match the expression matches one character that has the property. -/
def Eats (P : Char → Prop) (r : Regex) : Prop :=
  ∀ f s, ∀ t ∈ r.outcomes f s, ∃ c, P c ∧ t.behind = c :: s.behind

theorem behind_eat? {s t : Spot} {test : Char → Bool} (h : s.eat? test = some t) :
    ∃ c, test c ∧ s.ahead.head? = some c ∧ t.behind = c :: s.behind := by
  unfold Spot.eat? at h
  split at h
  · cases h
  · next c r hc =>
    split at h
    · next ht => exact ⟨c, ht, by rw [hc]; rfl, by rw [← Option.some.inj h]⟩
    · cases h

/-- What a lazy repeat of an expression matches that matches one character. -/
theorem between_lazy {P : Char → Prop} {r : Regex} (h : Eats P r) (f : Flags) (s : Spot) :
    ∀ t ∈ (rep 1 none .lazy r).outcomes f s, s.between t ≠ [] ∧ ∀ c ∈ s.between t, P c := by
  -- what has been matched since `s`, the latest character first
  let Past (t : Spot) : Prop := ∃ v, v ≠ [] ∧ (∀ c ∈ v, P c) ∧ t.behind = v ++ s.behind
  have keeps : (r.outcomes f).Keeps Past := by
    rintro t ⟨v, -, hp, hb⟩ u hu
    obtain ⟨c, hc, hu⟩ := h f t u hu
    exact ⟨c :: v, by simp, by simpa using ⟨hc, hp⟩, by rw [hu, hb]; rfl⟩
  intro t ht
  obtain ⟨u, hu, ht⟩ := List.mem_flatMap.1 ht
  have first : Past u := by
    obtain ⟨w, hw, hu⟩ := List.mem_flatMap.1 hu
    obtain ⟨c, hc, hb⟩ := h f s w hw
    rw [List.mem_singleton.1 hu]
    exact ⟨[c], by simp, by simpa using hc, hb⟩
  obtain ⟨v, hv, hp, hb⟩ := keeps.fewFirst _ u first t ht
  have between : s.between t = v.reverse := by
    simp [Spot.between, Spot.pos, hb]
  rw [between]
  exact ⟨by simpa using hv, by simpa using hp⟩

/-! ## Characters -/

theorem mem_variantsOfLower (n : Nat) : n ∈ Text.variantsOfLower n := by
  unfold Text.variantsOfLower
  cases h : Text.lowerVariants.find? (·.contains n) with
  | none => simp
  | some l => simpa using List.find?_some h

theorem same_self (rule : Text.CaseRule) (n : Nat) : rule.same n n := by
  unfold Text.CaseRule.same
  cases rule with
  | ascii => simp [Text.CaseRule.lowerClass]
  | unicode => simpa [Text.CaseRule.lowerClass] using mem_variantsOfLower _

theorem sameChar_self (f : Flags) (c : Char) : sameChar f c.toNat c := by
  unfold sameChar
  split
  · exact same_self _ _
  · simp

/-- A character that is no member is matched by a negated set. -/
theorem eats_set (ms : List Member) : Eats (fun c => .char c.toNat ∉ ms) (set true ms) := by
  intro f s t ht
  obtain ⟨c, hc, -, hb⟩ := behind_eat? (Option.mem_toList.1 ht)
  refine ⟨c, fun hm => ?_, hb⟩
  have holds : ms.any (·.holds f c) = true := List.any_eq_true.2 ⟨_, hm, sameChar_self f c⟩
  rw [inSet, holds] at hc
  cases hc

/-- Behind a look-ahead that refuses a character, another one is matched. -/
theorem eats_guarded {d : Char} (r : Regex) :
    Eats (· ≠ d) (flagged {} {} (seq (lookahead true (alt (char d.toNat) r)) any)) := by
  intro f s t ht
  generalize hf : f.inside {} {} = g at *
  rw [outcomes, hf, outcomes] at ht
  obtain ⟨u, hu, ht⟩ := List.mem_flatMap.1 ht
  obtain ⟨c, -, hc, hb⟩ := behind_eat? (Option.mem_toList.1 ht)
  unfold outcomes at hu
  split at hu
  · next hn => cases hn
  · next hn _ =>
    obtain rfl := List.mem_singleton.1 hu
    refine ⟨c, ?_, hb⟩
    rintro rfl
    have eats : (u.eat? (sameChar g c.toNat)).isSome := by
      unfold Spot.eat?
      cases ha : u.ahead with
      | nil => rw [ha] at hc; cases hc
      | cons e v =>
        obtain rfl : e = c := by simpa [ha] using hc
        simp [sameChar_self]
    simp only [outcomes, List.head?_eq_none_iff, List.append_eq_nil_iff] at hn
    rw [Option.toList_eq_nil_iff.1 hn.1] at eats
    cases eats
  · cases hu

end RoutePattern.Regex
