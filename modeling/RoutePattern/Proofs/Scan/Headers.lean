import RoutePattern.Scan.Header

/-! # Headers, by what they start with

* `read_plain`, `read_silent`, `read_silentP`, `read_name`: the header for the characters that a
  group starts with.
* `read_cases`: the headers of groups that start with a question mark.
* `readName_append`, `readComment_append`: headers stay as they are where more text follows that
  does not end them.
* `read_size_le`: a header stands within its text.
-/

namespace RoutePattern.Scan.Header

/-! ## Names and comments -/

theorem readName_cases (n : Nat) (t : Text) :
    readName n t = ⟨.silent, n⟩ ∨ ∃ name u, t = name ++ '>' :: u ∧ '>' ∉ name ∧
      readName n t = ⟨.named name, n + name.length + 1⟩ := by
  unfold readName
  split
  · next name u h =>
    obtain ⟨h1, h2⟩ := Text.cut?_eq_some h
    exact .inr ⟨name, u, h1, h2, rfl⟩
  · exact .inl rfl

theorem readComment_cases (n : Nat) (t : Text) :
    (')' ∉ t ∧ readComment n t = ⟨.silent, n + t.length⟩) ∨ ∃ comment u, t = comment ++ ')' :: u ∧
      ')' ∉ comment ∧ readComment n t = ⟨.silent, n + comment.length + 1⟩ := by
  unfold readComment
  split
  · next comment u h =>
    obtain ⟨h1, h2⟩ := Text.cut?_eq_some h
    exact .inr ⟨comment, u, h1, h2, rfl⟩
  · next h => exact .inl ⟨Text.cut?_eq_none.1 h, rfl⟩

/-- A name ends where it did, behind whatever does not end one. -/
theorem readName_append {e : Text} (he : '>' ∉ e) (n : Nat) (t : Text) :
    readName n (t ++ e) = readName n t := by
  unfold readName
  rw [Text.cut?_append, Text.cut?_eq_none.2 he]
  cases t.cut? '>' <;> rfl

/-- So does a comment that is closed. -/
theorem readComment_append {t : Text} (ht : ')' ∈ t) (n : Nat) (e : Text) :
    readComment n (t ++ e) = readComment n t := by
  unfold readComment
  rw [Text.cut?_append]
  cases h : t.cut? ')' with
  | some p => rfl
  | none => exact absurd ht (Text.cut?_eq_none.1 h)

/-- A comment that only the end of the text closes, if anything does, takes everything. -/
theorem readComment_last {t : Text} (h : ')' ∉ t.dropLast) (n : Nat) :
    readComment n t = ⟨.silent, n + t.length⟩ := by
  rcases readComment_cases n t with ⟨-, read⟩ | ⟨comment, u, rfl, -, read⟩
  · exact read
  · cases u with
    | nil =>
      rw [read, List.length_append]
      rfl
    | cons c u => simp at h

/-! ## Groups -/

theorem read_plain {c : Char} (h : c ≠ '?') (t : Text) : read ('(' :: c :: t) = ⟨.plain, 1⟩ := by
  rw [read] <;> simp_all

/-- Of most headers only the two first characters are taken. -/
theorem read_silent {c : Char} (h : c ∉ ['#', 'P', '<']) (t : Text) :
    read ('(' :: '?' :: c :: t) = ⟨.silent, 2⟩ := by
  rw [read] <;> simp_all

theorem read_silentP {c : Char} (h : c ≠ '<') (t : Text) :
    read ('(' :: '?' :: 'P' :: c :: t) = ⟨.silent, 2⟩ := by
  rw [read] <;> simp_all

theorem read_name {c : Char} (h1 : c ≠ '=') (h2 : c ≠ '!') (t : Text) :
    read ('(' :: '?' :: '<' :: c :: t) = readName 3 (c :: t) := by
  rw [read] <;> simp_all

theorem read_cases (r : Text) :
    (∃ s, r = '#' :: s) ∨
      (∃ s, r = 'P' :: '<' :: s ∧ read ('(' :: '?' :: r) = readName 4 s) ∨
      (∃ s, r = '<' :: s ∧ read ('(' :: '?' :: r) = readName 3 s) ∨
      read ('(' :: '?' :: r) = ⟨.silent, 2⟩ := by
  unfold read
  split
  · next s he => exact .inl ⟨s, by simpa using he⟩
  · next s he => exact .inr (.inl ⟨s, by simpa using he, rfl⟩)
  · exact .inr (.inr (.inr rfl))
  · exact .inr (.inr (.inr rfl))
  · next s h1 h2 he => exact .inr (.inr (.inl ⟨s, by simpa using he, rfl⟩))
  · exact .inr (.inr (.inr rfl))
  · next h1 h2 h3 h4 h5 h6 => exact absurd rfl (h6 r)

/-- A header stands within its text. -/
theorem read_size_le (r : Text) : (read ('(' :: r)).size ≤ ('(' :: r).length := by
  have name : ∀ n t, (readName n t).size ≤ n + t.length := by
    intro n t
    rcases readName_cases n t with read | ⟨name, u, rfl, -, read⟩
    · rw [read]
      exact Nat.le_add_right n _
    · rw [read]
      simp only [List.length_append, List.length_cons]
      omega
  have comment : ∀ n t, (readComment n t).size ≤ n + t.length := by
    intro n t
    rcases readComment_cases n t with ⟨-, read⟩ | ⟨comment, u, rfl, -, read⟩
    · exact Nat.le_of_eq (congrArg size read)
    · rw [read]
      simp only [List.length_append, List.length_cons]
      omega
  cases r with
  | nil => exact Nat.le_refl 1
  | cons c r =>
    by_cases hc : c = '?'
    · subst hc
      simp only [List.length_cons]
      rcases read_cases r with ⟨s, rfl⟩ | ⟨s, rfl, h⟩ | ⟨s, rfl, h⟩ | h
      · have := comment 3 s
        rw [show read ('(' :: '?' :: '#' :: s) = readComment 3 s from rfl, List.length_cons]
        omega
      · have := name 4 s
        rw [h, List.length_cons, List.length_cons]
        omega
      · have := name 3 s
        rw [h, List.length_cons]
        omega
      · rw [h]
        show 2 ≤ r.length + 1 + 1
        omega
    · rw [read_plain hc]
      show 1 ≤ r.length + 1 + 1
      omega

end RoutePattern.Scan.Header
