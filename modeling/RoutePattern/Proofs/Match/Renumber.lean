import Mathlib.Logic.Function.Defs
import RoutePattern.Regex.Outcomes
import RoutePattern.Regex.Width

/-! # Renumbered groups

What an expression matches does not depend on the numbers of its groups, as long as different
groups have different numbers.

* `Regex.renumber`, `Spot.renumber`: an expression or spot with other group numbers.
* `Ways.Renames`: ways to match that differ only in the numbers; repeats keep this.
* `outcomes_renumber`: a renumbered expression matches as before, with its captures renumbered.
-/

namespace RoutePattern.Regex

/-! ## Trees -/

/-- The expression with its groups renumbered. -/
def renumber (ρ : Nat → Nat) : Regex → Regex
  | empty => empty
  | char c => char c
  | any => any
  | set negated members => set negated members
  | anchor a => anchor a
  | seq r s => seq (r.renumber ρ) (s.renumber ρ)
  | alt r s => alt (r.renumber ρ) (s.renumber ρ)
  | rep least most greed body => rep least most greed (body.renumber ρ)
  | capture n body => capture (ρ n) (body.renumber ρ)
  | backref n => backref (ρ n)
  | lookahead negated body => lookahead negated (body.renumber ρ)
  | lookbehind back negated body => lookbehind back negated (body.renumber ρ)
  | cond n yes no => cond (ρ n) (yes.renumber ρ) (no.renumber ρ)
  | atomic body => atomic (body.renumber ρ)
  | flagged on off body => flagged on off (body.renumber ρ)

variable {ρ : Nat → Nat}

theorem isAnchor_renumber (r : Regex) : (r.renumber ρ).isAnchor = r.isAnchor := by
  cases r <;> rfl

theorem isRepeat_renumber (r : Regex) : (r.renumber ρ).isRepeat = r.isRepeat := by
  cases r <;> rfl

theorem renumber_concat (rs : List Regex) :
    (concat rs).renumber ρ = concat (rs.map (renumber ρ)) := by
  induction rs with
  | nil => rfl
  | cons r rs ih =>
    cases rs with
    | nil => rfl
    | cons s rs => exact congrArg (seq _) ih

theorem renumber_choice (r : Regex) (rs : List Regex) :
    (choice r rs).renumber ρ = choice (r.renumber ρ) (rs.map (renumber ρ)) := by
  induction rs generalizing r with
  | nil => rfl
  | cons s rs ih => exact congrArg (alt _) (ih s)

theorem renumber_of_fixed (h : ∀ n, ρ n = n) (r : Regex) : r.renumber ρ = r := by
  induction r <;> simp only [renumber, *]

/-- The width does not change if the groups keep theirs. -/
theorem width_renumber {g g' : Nat → Width} (h : ∀ n, g' (ρ n) = g n) (r : Regex) :
    (r.renumber ρ).width g' = r.width g := by
  induction r with
  | seq r s hr hs => simp only [renumber, width, hr, hs]
  | alt r s hr hs => simp only [renumber, width, hr, hs]
  | rep least most greed body ih => simp only [renumber, width, ih]
  | capture n body ih => exact ih
  | backref n => exact h n
  | cond n yes no hy hn => simp only [renumber, width, hy, hn]
  | atomic body ih => exact ih
  | flagged on off body ih => exact ih
  | _ => rfl

/-! ## Spots -/

namespace Spot

/-- The spot with the groups of its captures renumbered. -/
def renumber (ρ : Nat → Nat) (s : Spot) : Spot :=
  { s with captures := s.captures.map fun x => (ρ x.1, x.2) }

variable {s t : Spot}

@[simp] theorem ahead_renumber (s : Spot) : (s.renumber ρ).ahead = s.ahead := rfl

theorem eat?_renumber (test : Char → Bool) (s : Spot) :
    (s.renumber ρ).eat? test = (s.eat? test).map (renumber ρ) := by
  unfold eat?
  rw [ahead_renumber]
  cases s.ahead with
  | nil => rfl
  | cons c r =>
    dsimp only
    split <;> rfl

theorem eatText?_renumber (same : Char → Char → Bool) (v : Text) (s : Spot) :
    eatText? same v (s.renumber ρ) = (eatText? same v s).map (renumber ρ) := by
  induction v generalizing s with
  | nil => rfl
  | cons c v ih =>
    rw [eatText?, eatText?, eat?_renumber]
    cases s.eat? (same c) with
    | none => rfl
    | some t => exact ih t

theorem back?_renumber (n : Nat) (s : Spot) :
    (s.renumber ρ).back? n = (s.back? n).map (renumber ρ) := by
  induction n generalizing s with
  | zero => rfl
  | succ n ih =>
    rw [back?, back?]
    have behind : (s.renumber ρ).behind = s.behind := rfl
    rw [behind]
    cases s.behind with
    | nil => rfl
    | cons c r => exact ih { s with behind := r, ahead := c :: s.ahead }

theorem captured?_renumber (hρ : ρ.Injective) (s : Spot) (n : Nat) :
    (s.renumber ρ).captured? (ρ n) = s.captured? n := by
  unfold captured? renumber
  induction s.captures with
  | nil => rfl
  | cons x xs ih =>
    rw [List.map_cons, List.lookup_cons, List.lookup_cons, ih]
    have same : (ρ n == ρ x.1) = (n == x.1) := by
      rw [Bool.eq_iff_iff, beq_iff_eq, beq_iff_eq, hρ.eq_iff]
    rw [same]

/-- A number that no group has got has captured nothing. -/
theorem captured?_renumber_none {n : Nat} (h : ∀ m, ρ m ≠ n) (s : Spot) :
    (s.renumber ρ).captured? n = none := by
  rw [captured?, renumber, List.lookup_eq_none_iff]
  rintro x hx
  obtain ⟨y, -, rfl⟩ := List.mem_map.1 hx
  simpa using (h y.1).symm

end Spot

/-! ## Ways -/

/-- The second ways differ from the first only in the numbers of the groups. -/
def Ways.Renames (ρ : Nat → Nat) (w w' : Ways) : Prop :=
  ∀ s : Spot, w' (s.renumber ρ) = (w s).map (Spot.renumber ρ)

namespace Ways.Renames

variable {w w' : Ways}

theorem flatMap {v v' : Ways} (h : Renames ρ v v') (l : List Spot) :
    (l.map (Spot.renumber ρ)).flatMap v' = (l.flatMap v).map (Spot.renumber ρ) := by
  induction l with
  | nil => rfl
  | cons s l ih => rw [List.map_cons, List.flatMap_cons, List.flatMap_cons, List.map_append, h, ih]

theorem rounds (h : Renames ρ w w') (n : Nat) : Renames ρ (w.rounds n) (w'.rounds n) := by
  induction n with
  | zero => exact fun s => rfl
  | succ n ih =>
    intro s
    rw [Ways.rounds, Ways.rounds, h s]
    exact ih.flatMap _

/-- A round that matched nothing is the last. -/
theorem further {v v' : Ways} (h : Renames ρ v v') (s : Spot) :
    Renames ρ (fun t => if t.pos = s.pos then [t] else v t)
      (fun t => if t.pos = (s.renumber ρ).pos then [t] else v' t) := by
  intro t
  have same : (t.renumber ρ).pos = (s.renumber ρ).pos ↔ t.pos = s.pos := Iff.rfl
  dsimp only
  by_cases hp : t.pos = s.pos
  · rw [if_pos hp, if_pos (same.2 hp)]
    rfl
  · rw [if_neg hp, if_neg (fun h => hp (same.1 h))]
    exact h t

theorem manyFirst (h : Renames ρ w w') (n : Nat) :
    Renames ρ (w.manyFirst n) (w'.manyFirst n) := by
  induction n with
  | zero => exact fun s => rfl
  | succ n ih =>
    intro s
    rw [Ways.manyFirst, Ways.manyFirst, h s, (ih.further s).flatMap, List.map_append]
    rfl

theorem fewFirst (h : Renames ρ w w') (n : Nat) : Renames ρ (w.fewFirst n) (w'.fewFirst n) := by
  induction n with
  | zero => exact fun s => rfl
  | succ n ih =>
    intro s
    rw [Ways.fewFirst, Ways.fewFirst, h s, (ih.further s).flatMap, List.map_cons]

theorem first (h : Renames ρ w w') : Renames ρ w.first w'.first := by
  intro s
  rw [Ways.first, Ways.first, h s, List.head?_map]
  cases (w s).head? <;> rfl

theorem exhaust (h : Renames ρ w w') (n : Nat) (s : Spot) :
    w'.exhaust n (s.renumber ρ) = (w.exhaust n s).renumber ρ := by
  induction n generalizing s with
  | zero => rfl
  | succ n ih =>
    rw [Ways.exhaust, Ways.exhaust, h s, List.head?_map]
    cases (w s).head? with
    | none => rfl
    | some t =>
      have same : (t.renumber ρ).pos = (s.renumber ρ).pos ↔ t.pos = s.pos := Iff.rfl
      dsimp only [Option.map_some]
      by_cases hp : t.pos = s.pos
      · rw [if_pos hp, if_pos (same.2 hp)]
      · rw [if_neg hp, if_neg (fun h => hp (same.1 h))]
        exact ih t

end Ways.Renames

/-! ## Expressions -/

theorem outcomes_rep_renumber {f : Flags} {body : Regex}
    (ih : Ways.Renames ρ (body.outcomes f) ((body.renumber ρ).outcomes f)) (least : Nat)
    (most : Option Nat) (greed : Greed) :
    Ways.Renames ρ ((rep least most greed body).outcomes f)
      (((rep least most greed body).renumber ρ).outcomes f) := by
  intro s
  have spared : ∀ t : Spot, spare least most (t.renumber ρ) = spare least most t := by
    intro t
    cases most <;> rfl
  cases greed with
  | greedy =>
    have more : Ways.Renames ρ
        (fun t => Ways.manyFirst (body.outcomes f) (spare least most t) t)
        (fun t => Ways.manyFirst ((body.renumber ρ).outcomes f) (spare least most t) t) := by
      intro t
      simp only [spared]
      exact ih.manyFirst _ t
    simp only [renumber, outcomes]
    rw [ih.rounds least s, more.flatMap]
  | «lazy» =>
    have more : Ways.Renames ρ
        (fun t => Ways.fewFirst (body.outcomes f) (spare least most t) t)
        (fun t => Ways.fewFirst ((body.renumber ρ).outcomes f) (spare least most t) t) := by
      intro t
      simp only [spared]
      exact ih.fewFirst _ t
    simp only [renumber, outcomes]
    rw [ih.rounds least s, more.flatMap]
  | possessive =>
    simp only [renumber, outcomes]
    rw [ih.first.rounds least s, List.map_map, List.map_map]
    refine List.map_congr_left fun t _ => ?_
    simp only [Function.comp_apply, spared]
    exact ih.exhaust _ t

theorem outcomes_backref_renumber (hρ : ρ.Injective) (n : Nat) (f : Flags) :
    Ways.Renames ρ ((backref n).outcomes f) (((backref n).renumber ρ).outcomes f) := by
  intro s
  rw [renumber, outcomes, outcomes, Spot.captured?_renumber hρ]
  cases s.captured? n with
  | none => rfl
  | some t =>
    dsimp only
    rw [Spot.eatText?_renumber]
    cases Spot.eatText? (sameLower f) t s <;> rfl

/-- A renumbered expression matches as before, with its captures renumbered. -/
theorem outcomes_renumber (hρ : ρ.Injective) (r : Regex) (f : Flags) :
    Ways.Renames ρ (r.outcomes f) ((r.renumber ρ).outcomes f) := by
  have eaten : ∀ test : Char → Bool, Ways.Renames ρ (fun s => (s.eat? test).toList)
      (fun s => (s.eat? test).toList) := by
    intro test s
    dsimp only
    rw [Spot.eat?_renumber]
    cases s.eat? test <;> rfl
  induction r generalizing f with
  | empty => exact fun s => rfl
  | char c => exact eaten _
  | any => exact eaten _
  | set negated members => exact eaten _
  | anchor a =>
    intro s
    have same : a.holds f (s.renumber ρ) = a.holds f s := by cases a <;> rfl
    rw [renumber, outcomes, outcomes, same]
    split <;> rfl
  | seq q r hq hr =>
    intro s
    rw [renumber, outcomes, outcomes, hq f s]
    exact (hr f).flatMap _
  | alt q r hq hr =>
    intro s
    rw [renumber, outcomes, outcomes, hq f s, hr f s, List.map_append]
  | rep least most greed body ih => exact outcomes_rep_renumber (ih f) least most greed
  | capture n body ih =>
    intro s
    rw [renumber, outcomes, outcomes, ih f s, List.map_map, List.map_map]
    rfl
  | backref n => exact outcomes_backref_renumber hρ n f
  | lookahead negated body ih =>
    intro s
    simp only [renumber, outcomes, ih f s, List.head?_map]
    cases (body.outcomes f s).head? <;> cases negated <;> rfl
  | lookbehind back negated body ih =>
    intro s
    have found : ((s.renumber ρ).back? back).bind
          (fun s => ((body.renumber ρ).outcomes f s).head?) =
        ((s.back? back).bind fun s => (body.outcomes f s).head?).map (Spot.renumber ρ) := by
      rw [Spot.back?_renumber]
      cases s.back? back with
      | none => rfl
      | some t => exact (congrArg List.head? (ih f t)).trans List.head?_map
    simp only [renumber, outcomes, found]
    cases (s.back? back).bind fun s => (body.outcomes f s).head? <;> cases negated <;> rfl
  | cond n yes no hy hn =>
    intro s
    rw [renumber, outcomes, outcomes, Spot.captured?_renumber hρ]
    split
    · exact hy f s
    · exact hn f s
  | atomic body ih => exact (ih f).first
  | flagged on off body ih => exact ih _

end RoutePattern.Regex
