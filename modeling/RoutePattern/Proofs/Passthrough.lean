import RoutePattern.Proofs.Keys
import RoutePattern.Proofs.Reader.Agreement

/-! # Keys of a pattern that is passed through

A pattern comes back as it is, and the keys are those of the groups that the scanner finds in its
source.

* `compile_pattern`: how many keys there are; they stand for the capture groups one by one exactly
  if the pattern has no condition.
* `condition_adds_key`: the scanner takes a condition on a group for a group. It does not read
  comments as the reader does either.
-/

namespace RoutePattern

theorem keys_compile_pattern (o : Options) (q : Pattern) (p : Progress) :
    ∃ added, (compile o (.pattern q) p).2.keys = p.keys ++ added ∧
      List.Forall₂ Key.StandsFor added (Scan.openings q.source) := by
  refine ⟨_, ?_, assign_nil_forall₂ (Key.nextNumber p.keys) _⟩
  rw [compile]
  exact Progress.keys_collect p q.source []

/-- A pattern comes back itself. Unless a comment holds what the scanner takes for a group or a
class, one key is added for every capture group and one for every condition; so the keys stand for
the groups one by one exactly if there is no condition. -/
theorem compile_pattern (o : Options) (p : Progress) {flags : Regex.Flags} {source : Text}
    {q : Pattern} (hq : Pattern.read flags source = .ok q)
    (hm : Regex.Reader.misreads flags source = false) :
    (compile o (.pattern q) p).1 = .ok q ∧
      ∃ added, (compile o (.pattern q) p).2.keys = p.keys ++ added ∧
        added.length = q.groups.length + q.tree.conditions ∧
        (List.Forall₂ Key.StandsFor added q.groups ↔ q.tree.conditions = 0) := by
  refine ⟨by rw [compile], ?_⟩
  obtain ⟨added, hadded, hstands⟩ := keys_compile_pattern o q p
  obtain ⟨parsed, hr, rfl⟩ := Regex.Reader.map_eq_ok.1 hq
  obtain ⟨count, agree⟩ := Regex.Reader.openings_of_read hr hm
  refine ⟨added, hadded, hstands.length_eq.trans count, fun h => ?_, fun h0 => ?_⟩
  · have total : parsed.groups.length = parsed.groups.length + parsed.tree.conditions :=
      h.length_eq.symm.trans (hstands.length_eq.trans count)
    exact Nat.left_eq_add.1 total
  · exact (agree h0) ▸ hstands

theorem compile_pattern_two_groups :
    ∃ q, Pattern.read {} "(a)(?P<n>b)".toList = .ok q ∧
      Regex.Reader.misreads {} "(a)(?P<n>b)".toList = false ∧
      ∃ added, (compile {} (.pattern q) {}).2.keys = [] ++ added ∧
        List.Forall₂ Key.StandsFor added q.groups := by
  have hq : Pattern.read {} "(a)(?P<n>b)".toList = .ok
      { tree := .seq (.capture 1 (.char 97)) (.capture 2 (.char 98))
        flags := { unicode := true }
        groups := [⟨0, none⟩, ⟨3, some ['n']⟩]
        sets := []
        source := "(a)(?P<n>b)".toList } := by decide
  obtain ⟨-, added, hk, -, hs⟩ := compile_pattern {} {} hq (by decide)
  exact ⟨_, hq, by decide, added, hk, hs.2 (by decide)⟩

/-- The name of the group that a condition asks for stands in parentheses, and gets a key. -/
theorem condition_adds_key :
    ∃ q, Pattern.read {} "(a)(?(1)b|c)".toList = .ok q ∧ q.groups.length = 1 ∧
      (compile {} (.pattern q) {}).2.keys.length = 2 := by
  refine ⟨
    { tree := .seq (.capture 1 (.char 97)) (.cond 1 (.char 98) (.char 99))
      flags := { unicode := true }
      groups := [⟨0, none⟩]
      sets := []
      source := "(a)(?(1)b|c)".toList }, by decide, by decide, by decide +kernel⟩

/-- An escaped parenthesis does not end a comment, but the scanner goes on behind it. -/
example :
    ((Pattern.read {} "(?#\\)(a)".toList).toOption.map fun q =>
      (q.groups.length, (compile {} (.pattern q) {}).2.keys.length)) = some (0, 1) := by
  decide +kernel

/-- The scanner takes a bracket in a line comment for a class, and steps over the group. -/
example :
    ((Pattern.read { verbose := true } "#[\n(a)".toList).toOption.map fun q =>
      (q.groups.length, (compile {} (.pattern q) {}).2.keys.length)) = some (1, 0) := by
  decide +kernel

end RoutePattern
