/-! # Text

A text is the list of its code points; indexes and sizes count code points.

* `cut?`: the parts of a text before and after the first occurrence of a character;
  `cut?_eq_some` says how they make up the text, `cut?_append` where more text follows.
* `ofNat`, `ofInt`: decimal numerals.
-/

namespace RoutePattern

/-- A text, as the list of its code points. -/
abbrev Text := List Char

namespace Text

/-- A property is decided for the characters of a text, not for all that there are. -/
instance (priority := 2000) decidableForallMem {P : Char → Prop} [DecidablePred P] (t : Text) :
    Decidable (∀ c ∈ t, P c) := List.decidableBAll P t

/-- The text of a string. -/
def ofString (s : String) : Text := s.toList

/-- The decimal numeral of a number. -/
def ofNat (n : Nat) : Text := Nat.toDigits 10 n

/-- The decimal numeral of an integer, a minus sign first if it is negative. -/
def ofInt : Int → Text
  | .ofNat n => ofNat n
  | .negSucc n => '-' :: ofNat (n + 1)

/-- The text before and the text after the first occurrence of a character. -/
def cut? (c : Char) : Text → Option (Text × Text)
  | [] => none
  | d :: r => if d = c then some ([], r) else (cut? c r).map fun p => (d :: p.1, p.2)

theorem cut?_eq_some {c : Char} {t u v : Text} (h : cut? c t = some (u, v)) :
    t = u ++ c :: v ∧ c ∉ u := by
  induction t generalizing u with
  | nil => simp [cut?] at h
  | cons d r ih =>
    by_cases hd : d = c
    · simp only [cut?, hd, if_true, Option.some.injEq, Prod.mk.injEq] at h
      obtain ⟨rfl, rfl⟩ := h
      simp [hd]
    · simp only [cut?, hd, if_false, Option.map_eq_some_iff, Prod.mk.injEq] at h
      obtain ⟨⟨u', v'⟩, hr, rfl, rfl⟩ := h
      obtain ⟨rfl, hn⟩ := ih hr
      exact ⟨rfl, by simp [hn, Ne.symm hd]⟩

theorem cut?_eq_none {c : Char} {t : Text} : cut? c t = none ↔ c ∉ t := by
  induction t with
  | nil => simp [cut?]
  | cons d r ih =>
    by_cases hd : d = c
    · simp [cut?, hd]
    · simp [cut?, hd, Ne.symm hd, ih]

theorem cut?_of_not_mem {c : Char} {u : Text} (h : c ∉ u) (v : Text) :
    cut? c (u ++ c :: v) = some (u, v) := by
  induction u with
  | nil => simp [cut?]
  | cons d u ih =>
    simp only [List.mem_cons, not_or] at h
    simp [cut?, Ne.symm h.1, ih h.2]

theorem cut?_append (c : Char) (t u : Text) :
    cut? c (t ++ u) = ((cut? c t).map fun p => (p.1, p.2 ++ u)).or
      ((cut? c u).map fun p => (t ++ p.1, p.2)) := by
  induction t with
  | nil => simp [cut?]
  | cons d r ih =>
    rw [List.cons_append, cut?, cut?]
    by_cases hd : d = c
    · simp [hd]
    · rw [if_neg hd, if_neg hd, ih]
      cases cut? c r <;> cases cut? c u <;> rfl

/-- A character that is neither a lone backslash nor the first of a pair is no backslash. -/
theorem ne_backslash {c : Char} {r : Text} (lone : c = '\\' → r = [] → False)
    (pair : ∀ d s, c = '\\' → r = d :: s → False) : c ≠ '\\' := by
  intro hc
  cases r with
  | nil => exact lone hc rfl
  | cons d s => exact pair d s hc rfl

end Text

end RoutePattern
