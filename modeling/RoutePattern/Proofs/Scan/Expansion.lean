import RoutePattern.Proofs.Scan.Groups

/-! # Wildcards of an expanded text

* `expandPieces_again`: in an expanded text there is nothing left to expand.
* `expandWildcards_stable`: so for whole texts, and a balanced group stays one.
-/

namespace RoutePattern.Scan

/-! ## One piece -/

theorem expandPieces_escape (b : Bool) (d : Option Char) (ps : List Piece) :
    expandPieces b (.escape d :: ps) = '\\' :: (d.toList ++ expandPieces true ps) := rfl

theorem expandPieces_class (b : Bool) (t : Text) (ps : List Piece) :
    expandPieces b (.charClass t :: ps) = t ++ expandPieces true ps := rfl

/-! ## Expanding again -/

/-- A wildcard group is read as what it is: its star repeats the dot. -/
theorem expandPieces_wildcard (t : Text) :
    expandPieces false (pieces (wildcard ++ t)) = wildcard ++ expandPieces true (pieces t) := by
  have read : pieces (wildcard ++ t) =
      .char '(' :: .char '.' :: .char '*' :: .char ')' :: pieces t := by
    show pieces ('(' :: '.' :: '*' :: ')' :: t) = _
    rw [pieces_plain (by decide) (by decide), pieces_plain (by decide) (by decide),
      pieces_plain (by decide) (by decide), pieces_plain (by decide) (by decide)]
  rw [read]
  rfl

/-- What is expanded from some place on has nothing to expand from there. -/
theorem expandPieces_again (b : Bool) (t : Text) :
    expandPieces b (pieces (expandPieces b (pieces t))) = expandPieces b (pieces t) := by
  fun_induction pieces t generalizing b with
  | case1 => rw [expandPieces, pieces, expandPieces]
  | case2 => rw [expandPieces_escape, expandPieces, Option.toList_none, List.append_nil, pieces]; rfl
  | case3 d r ih =>
    rw [expandPieces_escape, Option.toList_some, List.singleton_append, pieces_escape,
      expandPieces_escape, ih]
    rfl
  | case4 r n ih =>
    rw [expandPieces_class]
    obtain closed | ⟨whole, rest⟩ := class_cases r
    · have read := pieces_text_append (p := .charClass (('[' :: r).take n)) closed
      simp only [Piece.text] at read
      rw [read, expandPieces_class, ih]
    · have text : ('[' :: r).take n = '[' :: r := whole
      have none_left : pieces (('[' :: r).drop n) = [] := by rw [rest, pieces]
      rw [none_left, text, expandPieces, List.append_nil, pieces_class, whole, rest, pieces,
        expandPieces_class, expandPieces, List.append_nil]
  | case5 d r lone pair bracket ih =>
    by_cases star : d = '*'
    · subst star
      rw [expandPieces_star]
      cases b with
      | true =>
        rw [if_pos rfl, List.singleton_append, pieces_plain (by decide) (by decide),
          expandPieces_star, if_pos rfl, List.singleton_append, ih]
      | false => rw [if_neg (by decide), expandPieces_wildcard, ih]
    · have slash : d ≠ '\\' := Text.ne_backslash lone pair
      rw [expandPieces_char star, pieces_plain slash bracket, expandPieces_char star, ih]

/-- Expanding the wildcards of an expanded text changes nothing, and expanding those of a balanced
group gives a balanced group. -/
theorem expandWildcards_stable :
    (∀ t, expandWildcards (expandWildcards t) = expandWildcards t) ∧
    ∀ c, c.head? = some '(' → groupSize? c = some c.length →
      groupSize? (expandWildcards c) = some (expandWildcards c).length := by
  refine ⟨fun t => expandPieces_again false t, ?_⟩
  intro c opens balanced
  obtain ⟨r, rfl⟩ := List.head?_eq_some_iff.1 opens
  have group := (isGroup_of_groupSize? balanced).expandWildcards
  have size := group.groupSize? []
  rwa [List.append_nil] at size

/-- A star in a class stays, the one behind the bar becomes a group. -/
theorem expandWildcards_stable_class :
    groupSize? (.ofString "([)*]|*)") = some 8 ∧
      expandWildcards (.ofString "([)*]|*)") = .ofString "([)*]|(.*))" ∧
      groupSize? (.ofString "([)*]|(.*))") = some 11 := by
  have balanced : groupSize? (.ofString "([)*]|*)") = some 8 := by decide +kernel
  have expanded : expandWildcards (.ofString "([)*]|*)") = .ofString "([)*]|(.*))" := by
    decide +kernel
  refine ⟨balanced, expanded, ?_⟩
  have size := expandWildcards_stable.2 (.ofString "([)*]|*)") rfl balanced
  rwa [expanded] at size

end RoutePattern.Scan
