import RoutePattern.Scan.Openings

/-! # Where a class closes, and what the scanner of groups does at each character

* `membersExtent?`, `classExtent?`: like `membersSize` and `classSize`, but none for a class that is
  left open (`classSize_cases`).
* `openingsFrom_plain`, `openingsFrom_escape`, `openingsFrom_class`, `openingsFrom_group`: one step
  of the scanner; after a class it goes on with `openingsAfter`.
* `openingsFrom_shift`: where the scan starts does not matter but for the indexes.
-/

namespace RoutePattern.Scan

/-! ## Classes -/

/-- The code points of the members of a class through the bracket that closes it. -/
def membersExtent? : Text → Option Nat
  | [] => none
  | ['\\'] => none
  | '\\' :: _ :: r => (membersExtent? r).map (· + 2)
  | ']' :: _ => some 1
  | _ :: r => (membersExtent? r).map (· + 1)

/-- The same where the first member is yet to come: a bracket is one. -/
def firstExtent? : Text → Option Nat
  | ']' :: r => (membersExtent? r).map (· + 1)
  | r => membersExtent? r

/-- The same after the bracket that opens the class. -/
def classExtent? : Text → Option Nat
  | '^' :: r => (firstExtent? r).map (· + 1)
  | r => firstExtent? r

@[simp] theorem membersExtent?_nil : membersExtent? [] = none := rfl

@[simp] theorem membersExtent?_escape (c : Char) (r : Text) :
    membersExtent? ('\\' :: c :: r) = (membersExtent? r).map (· + 2) := by
  rw [membersExtent?]

@[simp] theorem membersExtent?_close (r : Text) : membersExtent? (']' :: r) = some 1 := by
  rw [membersExtent?]

theorem membersExtent?_member {c : Char} (h1 : c ≠ '\\') (h2 : c ≠ ']') (r : Text) :
    membersExtent? (c :: r) = (membersExtent? r).map (· + 1) := by
  rw [membersExtent?] <;> simp_all

@[simp] theorem firstExtent?_close (r : Text) :
    firstExtent? (']' :: r) = (membersExtent? r).map (· + 1) := rfl

theorem firstExtent?_of_ne {t : Text} (h : ∀ r, t ≠ ']' :: r) :
    firstExtent? t = membersExtent? t := by
  unfold firstExtent?
  split
  · exact absurd rfl (h _)
  · rfl

@[simp] theorem classExtent?_caret (r : Text) :
    classExtent? ('^' :: r) = (firstExtent? r).map (· + 1) := rfl

theorem classExtent?_of_ne {t : Text} (h : ∀ r, t ≠ '^' :: r) :
    classExtent? t = firstExtent? t := by
  unfold classExtent?
  split
  · exact absurd rfl (h _)
  · rfl

/-- Members that are closed end within the text, whatever follows. -/
theorem membersExtent?_append {t : Text} {n : Nat} (h : membersExtent? t = some n) (u : Text) :
    membersExtent? (t ++ u) = some n ∧ n ≤ t.length := by
  fun_induction membersExtent? t generalizing n with
  | case1 => simp at h
  | case2 => simp at h
  | case3 c r ih =>
    obtain ⟨m, hm, rfl⟩ := Option.map_eq_some_iff.1 h
    obtain ⟨h1, h2⟩ := ih hm
    exact ⟨by simp [h1], by simp; omega⟩
  | case4 r =>
    obtain rfl : 1 = n := by simpa using h
    exact ⟨by simp, by simp⟩
  | case5 c r h1 h2 h3 ih =>
    obtain ⟨m, hm, rfl⟩ := Option.map_eq_some_iff.1 h
    obtain ⟨i1, i2⟩ := ih hm
    have hc : c ≠ '\\' := Text.ne_backslash h1 h2
    rw [List.cons_append, membersExtent?_member hc h3, i1]
    exact ⟨rfl, by simp; omega⟩

theorem firstExtent?_append {t : Text} {n : Nat} (h : firstExtent? t = some n) (u : Text) :
    firstExtent? (t ++ u) = some n ∧ n ≤ t.length := by
  cases t with
  | nil => simp [firstExtent?] at h
  | cons c r =>
    by_cases hc : c = ']'
    · subst hc
      obtain ⟨m, hm, rfl⟩ := Option.map_eq_some_iff.1 h
      obtain ⟨h1, h2⟩ := membersExtent?_append hm u
      exact ⟨by simp [h1], by simp; omega⟩
    · rw [firstExtent?_of_ne (by simp [hc])] at h
      rw [List.cons_append, firstExtent?_of_ne (by simp [hc])]
      exact membersExtent?_append h u

theorem classExtent?_append {t : Text} {n : Nat} (h : classExtent? t = some n) (u : Text) :
    classExtent? (t ++ u) = some n ∧ n ≤ t.length := by
  cases t with
  | nil => simp [classExtent?, firstExtent?] at h
  | cons c r =>
    by_cases hc : c = '^'
    · subst hc
      obtain ⟨m, hm, rfl⟩ := Option.map_eq_some_iff.1 h
      obtain ⟨h1, h2⟩ := firstExtent?_append hm u
      exact ⟨by simp [h1], by simp; omega⟩
    · rw [classExtent?_of_ne (by simp [hc])] at h
      rw [List.cons_append, classExtent?_of_ne (by simp [hc])]
      exact firstExtent?_append h u

/-- What closes the members is among them, not behind. -/
theorem membersExtent?_take {t : Text} {n : Nat} (h : membersExtent? t = some n) :
    membersExtent? (t.take n) = some n := by
  fun_induction membersExtent? t generalizing n with
  | case1 => simp at h
  | case2 => simp at h
  | case3 c r ih =>
    obtain ⟨m, hm, rfl⟩ := Option.map_eq_some_iff.1 h
    simp [ih hm]
  | case4 r =>
    obtain rfl : 1 = n := by simpa using h
    simp
  | case5 c r h1 h2 h3 ih =>
    obtain ⟨m, hm, rfl⟩ := Option.map_eq_some_iff.1 h
    have hc : c ≠ '\\' := Text.ne_backslash h1 h2
    rw [List.take_succ_cons, membersExtent?_member hc h3, ih hm]
    rfl

theorem firstExtent?_take {t : Text} {n : Nat} (h : firstExtent? t = some n) :
    firstExtent? (t.take n) = some n := by
  cases t with
  | nil => simp [firstExtent?] at h
  | cons c r =>
    by_cases hc : c = ']'
    · subst hc
      obtain ⟨m, hm, rfl⟩ := Option.map_eq_some_iff.1 h
      simp [membersExtent?_take hm]
    · rw [firstExtent?_of_ne (by simp [hc])] at h
      have ht := membersExtent?_take h
      rw [firstExtent?_of_ne ?_, ht]
      intro u hu
      cases n with
      | zero => cases hu
      | succ n => exact hc (List.cons.inj hu).1

theorem classExtent?_take {t : Text} {n : Nat} (h : classExtent? t = some n) :
    classExtent? (t.take n) = some n := by
  cases t with
  | nil => simp [classExtent?, firstExtent?] at h
  | cons c r =>
    by_cases hc : c = '^'
    · subst hc
      obtain ⟨m, hm, rfl⟩ := Option.map_eq_some_iff.1 h
      simp [firstExtent?_take hm]
    · rw [classExtent?_of_ne (by simp [hc])] at h
      have ht := firstExtent?_take h
      rw [classExtent?_of_ne ?_, ht]
      intro u hu
      cases n with
      | zero => cases hu
      | succ n => exact hc (List.cons.inj hu).1

theorem membersExtent?_of_not_mem {t : Text} (h : ']' ∉ t) : membersExtent? t = none := by
  fun_induction membersExtent? t with
  | case1 => rfl
  | case2 => rfl
  | case3 c r ih => simp only [List.mem_cons, not_or] at h; rw [ih h.2.2]; rfl
  | case4 r => simp at h
  | case5 c r _ _ _ ih => simp only [List.mem_cons, not_or] at h; rw [ih h.2]; rfl

/-- Members left open stay open unless a bracket follows. -/
theorem membersExtent?_append_none {t u : Text} (h : membersExtent? t = none) (hu : ']' ∉ u) :
    membersExtent? (t ++ u) = none := by
  fun_induction membersExtent? t with
  | case1 => exact membersExtent?_of_not_mem hu
  | case2 =>
    cases u with
    | nil => rfl
    | cons c r =>
      simp only [List.mem_cons, not_or] at hu
      simp [membersExtent?_of_not_mem hu.2]
  | case3 c r ih => simp [ih (by simpa using h)]
  | case4 r => simp at h
  | case5 c r h1 h2 h3 ih =>
    by_cases hc : c = '\\'
    · subst hc
      cases r with
      | nil => exact absurd rfl (h1 rfl)
      | cons d r => exact (h2 d r rfl rfl).elim
    · rw [List.cons_append, membersExtent?_member hc h3, ih (by simpa using h)]
      rfl

theorem firstExtent?_append_none {t u : Text} (h : firstExtent? t = none) (hu : ']' ∉ u) :
    firstExtent? (t ++ u) = none := by
  cases t with
  | nil =>
    rw [List.nil_append, firstExtent?_of_ne (by rintro r rfl; simp at hu)]
    exact membersExtent?_of_not_mem hu
  | cons c r =>
    by_cases hc : c = ']'
    · subst hc
      simp [membersExtent?_append_none (by simpa using h) hu]
    · rw [firstExtent?_of_ne (by simp [hc])] at h
      rw [List.cons_append, firstExtent?_of_ne (by simp [hc])]
      exact membersExtent?_append_none h hu

/-- A class left open stays open unless a bracket follows. -/
theorem classExtent?_append_none {t u : Text} (h : classExtent? t = none) (hu : ']' ∉ u) :
    classExtent? (t ++ u) = none := by
  have first : ∀ v : Text, ']' ∉ v → firstExtent? v = none := fun v hv =>
    firstExtent?_append_none (t := []) rfl hv
  cases t with
  | nil =>
    rw [List.nil_append]
    unfold classExtent?
    split
    · next r =>
      rw [first r (by simp_all)]
      rfl
    · exact first u hu
  | cons c r =>
    by_cases hc : c = '^'
    · subst hc
      simp [firstExtent?_append_none (by simpa using h) hu]
    · rw [classExtent?_of_ne (by simp [hc])] at h
      rw [List.cons_append, classExtent?_of_ne (by simp [hc])]
      exact firstExtent?_append_none h hu

theorem membersSize_eq {t : Text} {n : Nat} (h : membersExtent? t = some n) :
    membersSize t = n := by
  fun_induction membersExtent? t generalizing n with
  | case1 => simp at h
  | case2 => simp at h
  | case3 c r ih =>
    obtain ⟨m, hm, rfl⟩ := Option.map_eq_some_iff.1 h
    rw [membersSize, ih hm]
  | case4 r =>
    obtain rfl : 1 = n := by simpa using h
    rw [membersSize]
  | case5 c r h1 h2 h3 ih =>
    obtain ⟨m, hm, rfl⟩ := Option.map_eq_some_iff.1 h
    rw [membersSize, ih hm] <;> simp_all

theorem length_le_membersSize {t : Text} (h : membersExtent? t = none) :
    t.length ≤ membersSize t := by
  fun_induction membersExtent? t with
  | case1 => simp
  | case2 => simp [membersSize]
  | case3 c r ih =>
    have := ih (by simpa using h)
    rw [membersSize]; simp; omega
  | case4 r => simp at h
  | case5 c r h1 h2 h3 ih =>
    have := ih (by simpa using h)
    rw [membersSize]
    · simp; omega
    all_goals simp_all

/-- The size of a class is where it closes, or at least the whole text if it is left open. -/
theorem classSize_cases (r : Text) :
    (∃ n, classExtent? r = some n ∧ classSize ('[' :: r) = n + 1) ∨
      (classExtent? r = none ∧ r.length < classSize ('[' :: r)) := by
  have members : ∀ t : Text, (∃ n, membersExtent? t = some n ∧ membersSize t = n) ∨
      (membersExtent? t = none ∧ t.length ≤ membersSize t) := by
    intro t
    cases h : membersExtent? t with
    | none => exact .inr ⟨rfl, length_le_membersSize h⟩
    | some n => exact .inl ⟨n, rfl, membersSize_eq h⟩
  unfold classSize
  rw [List.drop_one, List.tail_cons]
  split
  · next t =>
    rcases members t with ⟨n, h1, h2⟩ | ⟨h1, h2⟩
    · exact .inl ⟨n + 2, by simp [h1], by omega⟩
    · exact .inr ⟨by simp [h1], by simp; omega⟩
  · next t ht =>
    rw [classExtent?_caret, firstExtent?_of_ne ht]
    rcases members t with ⟨n, h1, h2⟩ | ⟨h1, h2⟩
    · exact .inl ⟨n + 1, by simp [h1], by omega⟩
    · exact .inr ⟨by simp [h1], by simp; omega⟩
  · next t =>
    rw [classExtent?_of_ne (by simp), firstExtent?_close]
    rcases members t with ⟨n, h1, h2⟩ | ⟨h1, h2⟩
    · exact .inl ⟨n + 1, by simp [h1], by omega⟩
    · exact .inr ⟨by simp [h1], by simp; omega⟩
  · next h1 h2 h3 =>
    rw [classExtent?_of_ne h2, firstExtent?_of_ne h3]
    rcases members r with ⟨n, h1, h2⟩ | ⟨h1, h2⟩
    · exact .inl ⟨n, h1, by omega⟩
    · exact .inr ⟨h1, by omega⟩

/-! ## One step of the scanner -/

/-- The capture groups after a class that closes within a text, from where it closes. -/
def openingsAfter (extent : Option Nat) (i : Nat) (t : Text) : List Group :=
  match extent with
  | some n => openingsFrom (i + n) (t.drop n)
  | none => []

@[simp] theorem openingsFrom_nil (i : Nat) : openingsFrom i [] = [] := by rw [openingsFrom]

theorem openingsFrom_plain {c : Char} (h1 : c ≠ '\\') (h2 : c ≠ '[') (h3 : c ≠ '(') (i : Nat)
    (r : Text) : openingsFrom i (c :: r) = openingsFrom (i + 1) r := by
  rw [openingsFrom] <;> simp_all

@[simp] theorem openingsFrom_escape (i : Nat) (c : Char) (r : Text) :
    openingsFrom i ('\\' :: c :: r) = openingsFrom (i + 2) r := by
  rw [openingsFrom]; simp

theorem openingsFrom_class (i : Nat) (r : Text) :
    openingsFrom i ('[' :: r) = openingsAfter (classExtent? r) (i + 1) r := by
  rw [openingsFrom]
  rcases classSize_cases r with ⟨n, h1, h2⟩ | ⟨h1, h2⟩
  · simp only [h1, h2, openingsAfter, List.drop_succ_cons]
    rw [Nat.add_right_comm, Nat.add_assoc]
  · rw [h1, openingsAfter, List.drop_eq_nil_of_le (by simp; omega), openingsFrom_nil]

/-- A header that captures gives a group; the scan goes on behind the header. -/
theorem openingsFrom_group (i : Nat) (r : Text) :
    openingsFrom i ('(' :: r) =
      (if (Header.read ('(' :: r)).opening.captures then
        [⟨i, (Header.read ('(' :: r)).opening.name?⟩] else []) ++
      openingsFrom (i + (Header.read ('(' :: r)).size)
        (('(' :: r).drop (Header.read ('(' :: r)).size) := by
  rw [openingsFrom]
  split <;> simp_all

/-- The scan from another index. -/
theorem openingsFrom_shift (k i : Nat) (t : Text) :
    openingsFrom (k + i) t = (openingsFrom i t).map fun g => { g with index := k + g.index } := by
  fun_induction openingsFrom i t with
  | case1 => simp
  | case2 i r ih =>
    cases r with
    | nil => rw [openingsFrom]; simp
    | cons c r => simpa [Nat.add_assoc] using ih
  | case3 i r n ih =>
    rw [openingsFrom, ← ih, Nat.add_assoc]
  | case4 i r h later hc ih =>
    rw [openingsFrom, if_pos hc, List.map_cons, ← ih, Nat.add_assoc]
  | case5 i r h later hc ih =>
    rw [openingsFrom, if_neg hc, ← ih, Nat.add_assoc]
  | case6 i c r h1 h2 h3 ih =>
    rw [openingsFrom_plain (by rintro rfl; exact h1 rfl) (by rintro rfl; exact h2 rfl)
      (by rintro rfl; exact h3 rfl), Nat.add_assoc]
    exact ih

/-- Groups open inside the text. -/
theorem openingsFrom_bounds (i : Nat) (t : Text) :
    ∀ g ∈ openingsFrom i t, i ≤ g.index ∧ g.index < i + t.length := by
  fun_induction openingsFrom i t with
  | case1 => simp
  | case2 i r ih =>
    intro g hg
    have := ih g hg
    simp only [List.length_drop, List.length_cons] at this ⊢
    omega
  | case3 i r n ih =>
    intro g hg
    have := ih g hg
    simp only [List.length_drop, List.length_cons] at this ⊢
    omega
  | case4 i r h later hc ih =>
    intro g hg
    rcases List.mem_cons.1 hg with rfl | hg
    · simp
    · have := ih g hg
      simp only [List.length_drop, List.length_cons] at this ⊢
      omega
  | case5 i r h later hc ih =>
    intro g hg
    have := ih g hg
    simp only [List.length_drop, List.length_cons] at this ⊢
    omega
  | case6 i c r h1 h2 h3 ih =>
    intro g hg
    have := ih g hg
    simp only [List.length_cons] at this ⊢
    omega

/-- Groups are found from left to right. -/
theorem openingsFrom_pairwise (i : Nat) (t : Text) :
    (openingsFrom i t).Pairwise (·.index < ·.index) := by
  fun_induction openingsFrom i t with
  | case1 => exact .nil
  | case2 i r ih => exact ih
  | case3 i r n ih => exact ih
  | case4 i r h later hc ih =>
    have pos : 0 < h.size := Header.read_size_pos _
    refine List.pairwise_cons.2 ⟨fun g hg => ?_, ih⟩
    have := (openingsFrom_bounds _ _ g hg).1
    simp only
    omega
  | case5 i r h later hc ih => exact ih
  | case6 i c r h1 h2 h3 ih => exact ih

end RoutePattern.Scan
