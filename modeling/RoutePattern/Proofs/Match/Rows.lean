import Mathlib.Data.List.Basic
import RoutePattern.Proofs.Match.Captures

/-! # Rows of items and of alternatives

* `outcomes_concat_append`, `outcomes_choice`: how a row matches.
* `text_outcomes`: matching does not change the text.
* `match?_eq_head?`, `outcome_of_match?`: the match of a pattern.
* `eq_slash_of_sameChar`: a slash equals no other character, whatever is said of case.
-/

namespace RoutePattern

namespace Regex

variable {f : Flags} {s t : Spot}

/-! ## Rows -/

theorem outcomes_concat_cons (r : Regex) (rs : List Regex) :
    (concat (r :: rs)).outcomes f s = (r.outcomes f s).flatMap ((concat rs).outcomes f) := by
  cases rs with
  | nil =>
    have alone : (concat []).outcomes f = fun t => [t] := rfl
    rw [alone, List.flatMap_singleton']
    rfl
  | cons q rs => rfl

theorem outcomes_concat_append (rs qs : List Regex) :
    (concat (rs ++ qs)).outcomes f s =
      ((concat rs).outcomes f s).flatMap ((concat qs).outcomes f) := by
  induction rs generalizing s with
  | nil => exact (List.flatMap_singleton _ s).symm
  | cons r rs ih =>
    rw [List.cons_append, outcomes_concat_cons, outcomes_concat_cons, List.flatMap_assoc]
    exact List.flatMap_congr fun t _ => ih

theorem outcomes_choice (r : Regex) (rs : List Regex) :
    (choice r rs).outcomes f s = (r :: rs).flatMap fun q => q.outcomes f s := by
  induction rs generalizing r with
  | nil => simp [choice]
  | cons q rs ih => rw [choice, outcomes, ih, List.flatMap_cons (x := r)]

theorem inside_nothing (f : Flags) : f.inside {} {} = f := by
  simp [Flags.inside, Flags.union, Flags.diff]

theorem outcomes_flagged (r : Regex) (s : Spot) :
    (Regex.flagged {} {} r).outcomes f s = r.outcomes f s := by
  rw [outcomes, inside_nothing]

theorem outcomes_optional (r : Regex) (s : Spot) :
    (rep 0 (some 1) .greedy r).outcomes f s = r.outcomes f s ++ [s] := by
  have once : Ways.manyFirst (r.outcomes f) 1 s = r.outcomes f s ++ [s] := by
    simp [Ways.manyFirst]
  rw [outcomes]
  exact (List.flatMap_singleton _ s).trans once

/-- A look-ahead refuses what it matches. -/
theorem outcomes_refusal (r : Regex) (s : Spot) :
    (Regex.lookahead true r).outcomes f s = if (r.outcomes f s).isEmpty then [s] else [] := by
  cases h : r.outcomes f s <;> simp [outcomes, h]

/-! ## The text -/

/-- The text that a spot is in. -/
def Spot.text (s : Spot) : Text := s.behind.reverse ++ s.ahead

theorem Spot.text_eat? {test : Char → Bool} (h : s.eat? test = some t) : t.text = s.text := by
  unfold eat? at h
  split at h
  · cases h
  · next c r hc =>
    split at h
    · rw [← Option.some.inj h]
      simp [text, hc]
    · cases h

theorem Spot.text_back? {n : Nat} (h : s.back? n = some t) : t.text = s.text := by
  induction n generalizing s with
  | zero => rw [← Option.some.inj h]
  | succ n ih =>
    rw [back?] at h
    split at h
    · cases h
    · next c r hc => exact (ih h).trans (by simp [text, hc])

/-- No way to match an expression changes the text. -/
theorem text_outcomes (r : Regex) (ht : t ∈ r.outcomes f s) : t.text = s.text := by
  have stable : Spot.Stable fun u => u.text = s.text :=
    { eat := fun hs hu => (Spot.text_eat? hu).trans hs
      back := fun hs hu => (Spot.text_back? hu).trans hs
      around := fun hs _ => hs }
  exact keeps_outcomes stable (fun _ _ _ _ _ _ _ _ hu => hu) f s rfl t ht

/-! ## The match of a pattern -/

/-- The spot in front of a text. -/
def Spot.before (t : Text) : Spot := { behind := [], ahead := t }

theorem holds_before (n : Nat) (P : Text → Prop) (t : Text) : (Spot.before t).Holds n P := nofun

theorem match?_eq_head? (q : Pattern) (t : Text) :
    q.match? t = (q.tree.outcomes q.flags (.before t)).head?.map q.matchAt := by
  rw [Pattern.match?, (run_finds _ _).some_eq]
  rfl

/-- The preferred match is one of the ways to match. -/
theorem outcome_of_match? {q : Pattern} {t : Text} {m : Match} (h : q.match? t = some m) :
    ∃ u ∈ q.tree.outcomes q.flags (.before t), m = q.matchAt u := by
  rw [match?_eq_head?, Option.map_eq_some_iff] at h
  obtain ⟨u, hu, rfl⟩ := h
  exact ⟨u, List.mem_of_head? hu, rfl⟩

/-! ## Slashes -/

/-- A character that no run of capitals has for its lower case is the lower case of itself only. -/
theorem eq_of_lowerBy {k n : Nat} {rs : List Text.LowerRun}
    (h : ∀ r ∈ rs, (k : Int) < r.first + r.shift) (hn : Text.lowerBy rs n = k) : n = k := by
  induction rs with
  | nil => exact hn
  | cons r rs ih =>
    have far := h r (by simp)
    rw [Text.lowerBy] at hn
    by_cases before : n < r.first
    · rwa [if_pos before] at hn
    · rw [if_neg before] at hn
      by_cases held : r.holds n = true
      · rw [if_pos held, Text.LowerRun.lower] at hn
        omega
      · rw [if_neg held] at hn
        exact ih (fun q hq => h q (by simp [hq])) hn

theorem eq_slash_of_sameChar {c : Char} (h : sameChar f 47 c) : c = '/' := by
  have lower : ∀ rule : Text.CaseRule, ∀ n, rule.lower n = 47 → n = 47 := by
    intro rule n hn
    cases rule with
    | ascii =>
      simp only [Text.CaseRule.lower, Text.toAsciiLower, Bool.and_eq_true, decide_eq_true_eq] at hn
      split at hn
      · omega
      · exact hn
    | unicode => exact eq_of_lowerBy (by decide +kernel) hn
  have alone : ∀ rule : Text.CaseRule, rule.lowerClass (rule.lower 47) = [47] := by
    intro rule
    cases rule <;> decide
  have code : c.toNat = 47 := by
    unfold sameChar at h
    split at h
    · refine lower f.caseRule _ ?_
      simpa [Text.CaseRule.same, alone] using h
    · exact (eq_of_beq h).symm
  exact Char.toNat_inj.1 code

end Regex

end RoutePattern
