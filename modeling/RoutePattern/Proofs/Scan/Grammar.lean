import RoutePattern.Proofs.Scan.Groups

/-! # The grammar of balanced groups

A group is written `(` items `)`, where an item is an escape, a class, a group, or a character that
opens none of them and closes no group.

* `Grammar.IsClass`, `Grammar.IsGroup`: the grammar.
* `Grammar.isClass_iff`: the classes are the texts that close where the scanner of classes says.
* `Grammar.isItems_iff`: rows of items are the texts whose parentheses match.
* `groupEnd?`: where the group ends that opens at an index. `groupEnd?_delimits`: the texts it
  delimits are the groups of the grammar.
-/

namespace RoutePattern.Scan

namespace Grammar

/-! ## Classes -/

/-- Members of a class behind the first one. -/
inductive IsMembers : Text → Prop
  | nil : IsMembers []
  | escape (c : Char) {t : Text} : IsMembers t → IsMembers ('\\' :: c :: t)
  | char {c : Char} {t : Text} : c ≠ '\\' → c ≠ ']' → IsMembers t → IsMembers (c :: t)

/-- All members of a class. The first one may be a closing bracket. -/
inductive IsBody : Text → Prop
  | escape (c : Char) {t : Text} : IsMembers t → IsBody ('\\' :: c :: t)
  | char {c : Char} {t : Text} : c ≠ '\\' → IsMembers t → IsBody (c :: t)

/-- A class. A caret behind the bracket that opens it is never its first member. -/
inductive IsClass : Text → Prop
  | negated {t : Text} : IsBody t → IsClass ('[' :: '^' :: (t ++ [']']))
  | positive {t : Text} : t.head? ≠ some '^' → IsBody t → IsClass ('[' :: (t ++ [']']))

variable {c r t : Text}

theorem isMembers_of_extent (h : membersExtent? r = some r.length) :
    ∃ t, IsMembers t ∧ r = t ++ [']'] := by
  fun_induction membersExtent? r with
  | case1 => cases h
  | case2 => cases h
  | case3 c r ih =>
    obtain ⟨t, ht, rfl⟩ := ih (by simpa using h)
    exact ⟨_, .escape c ht, rfl⟩
  | case4 r =>
    obtain rfl : r = [] := by simpa using h
    exact ⟨[], .nil, rfl⟩
  | case5 c r lone pair close ih =>
    have slash : c ≠ '\\' := Text.ne_backslash lone pair
    obtain ⟨t, ht, rfl⟩ := ih (by simpa using h)
    exact ⟨_, .char slash close ht, rfl⟩

theorem IsMembers.extent (h : IsMembers t) :
    membersExtent? (t ++ [']']) = some (t ++ [']']).length := by
  induction h with
  | nil => rfl
  | escape c _ ih =>
    rw [List.cons_append, List.cons_append, membersExtent?_escape, ih]
    rfl
  | char h1 h2 _ ih =>
    rw [List.cons_append, membersExtent?_member h1 h2, ih]
    rfl

theorem isBody_of_extent (h : firstExtent? r = some r.length) :
    ∃ t, IsBody t ∧ r = t ++ [']'] := by
  cases r with
  | nil => cases h
  | cons c s =>
    by_cases hc : c = ']'
    · subst hc
      obtain ⟨t, ht, rfl⟩ := isMembers_of_extent (r := s) (by simpa using h)
      exact ⟨_, .char (by decide) ht, rfl⟩
    · rw [firstExtent?_of_ne (by simp [hc])] at h
      obtain ⟨t, ht, hr⟩ := isMembers_of_extent h
      refine ⟨t, ?_, hr⟩
      cases ht with
      | nil => exact absurd (List.cons.inj hr).1 hc
      | escape d ht => exact .escape d ht
      | char h1 _ ht => exact .char h1 ht

theorem IsBody.extent (h : IsBody t) :
    firstExtent? (t ++ [']']) = some (t ++ [']']).length := by
  cases h with
  | escape c ht =>
    rw [List.cons_append, firstExtent?_of_ne (by simp)]
    exact (IsMembers.escape c ht).extent
  | @char c t h1 ht =>
    by_cases hc : c = ']'
    · subst hc
      rw [List.cons_append, firstExtent?_close, ht.extent]
      rfl
    · rw [List.cons_append, firstExtent?_of_ne (by simp [hc])]
      exact (IsMembers.char h1 hc ht).extent

theorem IsBody.ne_nil (h : IsBody t) : t ≠ [] := by
  cases h <;> exact List.cons_ne_nil _ _

/-- A class of the grammar is one that closes at the end of its text. -/
theorem isClass_iff : IsClass c ↔ ClosedClass c := by
  constructor
  · intro h
    cases h with
    | negated body =>
      refine ⟨_, rfl, ?_⟩
      rw [classExtent?_caret, body.extent]
      rfl
    | @positive t caret body =>
      refine ⟨_, rfl, ?_⟩
      obtain ⟨d, t, rfl⟩ := List.exists_cons_of_ne_nil body.ne_nil
      rw [classExtent?_of_ne (by simpa using caret), body.extent]
  · intro h
    obtain ⟨r, rfl, hr⟩ := h
    cases r with
    | nil => cases hr
    | cons d s =>
      by_cases hd : d = '^'
      · subst hd
        obtain ⟨t, body, rfl⟩ := isBody_of_extent (r := s) (by simpa using hr)
        exact .negated body
      · rw [classExtent?_of_ne (by simp [hd])] at hr
        obtain ⟨t, body, ht⟩ := isBody_of_extent hr
        rw [ht]
        apply IsClass.positive _ body
        intro caret
        obtain ⟨u, rfl⟩ := List.head?_eq_some_iff.1 caret
        exact hd (List.cons.inj ht).1

/-! ## Groups -/

mutual

/-- What a group may contain. -/
inductive IsItem : Text → Prop
  | escape (c : Char) : IsItem ['\\', c]
  | charClass {t : Text} : IsClass t → IsItem t
  | group {t : Text} : IsGroup t → IsItem t
  | char {c : Char} : c ∉ ['\\', '(', ')', '['] → IsItem [c]

/-- A row of items. -/
inductive IsItems : Text → Prop
  | nil : IsItems []
  | cons {t u : Text} : IsItem t → IsItems u → IsItems (t ++ u)

/-- Items between parentheses. -/
inductive IsGroup : Text → Prop
  | intro {t : Text} : IsItems t → IsGroup ('(' :: (t ++ [')']))

end

mutual

theorem IsItem.isMatched : ∀ {t : Text}, IsItem t → IsMatched t
  | _, .escape c => isMatched_escape c
  | _, .charClass h => isMatched_class (isClass_iff.1 h)
  | _, .group h => h.isGroup.isMatched
  | _, .char h => isMatched_chars (by simp_all)

theorem IsItems.isMatched : ∀ {t : Text}, IsItems t → IsMatched t
  | _, .nil => isMatched_nil
  | _, .cons h h' => h.isMatched.append h'.isMatched

theorem IsGroup.isGroup : ∀ {t : Text}, IsGroup t → Scan.IsGroup t
  | _, .intro h => h.isMatched.group

end

theorem isItem_of_closed {p : Piece} (h : p.IsClosed) (h1 : p ≠ .char '(') (h2 : p ≠ .char ')') :
    IsItem p.text := by
  cases p with
  | escape c =>
    obtain ⟨c, rfl⟩ := Option.isSome_iff_exists.1 h
    exact .escape c
  | charClass t => exact .charClass (isClass_iff.2 h)
  | char c =>
    apply IsItem.char
    simp_all [Piece.IsClosed]

/-- Closed pieces whose parentheses match are items, each group with all that is in it. -/
theorem isItems_of_matched {ps : List Piece} (h : Matched ps) (closed : ∀ p ∈ ps, p.IsClosed) :
    IsItems (spell ps) := by
  induction h with
  | nil => exact .nil
  | @piece p ps h1 h2 _ ih =>
    rw [spell, List.flatMap_cons]
    exact .cons (isItem_of_closed (closed p (by simp)) h1 h2) (ih fun q hq => closed q (by simp [hq]))
  | @group ps qs _ _ ih1 ih2 =>
    have inner := ih1 fun p hp => closed p (by simp [hp])
    have rest := ih2 fun p hp => closed p (by simp [hp])
    have text : spell (.char '(' :: (ps ++ .char ')' :: qs)) =
        '(' :: (spell ps ++ [')']) ++ spell qs := by simp [Piece.text]
    rw [text]
    exact .cons (.group (.intro inner)) rest

theorem isItems_iff : IsItems t ↔ IsMatched t := by
  constructor
  · exact IsItems.isMatched
  · intro h
    obtain ⟨ps, closed, matched, rfl⟩ := h
    exact isItems_of_matched matched closed

/-- The groups of the grammar are the texts with matching parentheses between two more. -/
theorem isGroup_iff : IsGroup c ↔ Scan.IsGroup c := by
  constructor
  · exact IsGroup.isGroup
  · intro h
    obtain ⟨t, matched, rfl⟩ := h
    exact .intro (isItems_iff.2 matched)

end Grammar

/-! ## Where a group ends -/

/-- The index behind the group that opens at an index of a text, if it is ever closed. -/
def groupEnd? (source : Text) (start : Nat) : Option Nat :=
  (groupSize? (source.drop start)).map (start + ·)

variable {source : Text} {start e : Nat}

/-- A balanced group is the only prefix that is a group of the grammar. -/
theorem groupSize?_eq_iff {r : Text} {n : Nat} :
    groupSize? ('(' :: r) = some n ↔
      n ≤ ('(' :: r).length ∧ Grammar.IsGroup (('(' :: r).take n) := by
  constructor
  · intro h
    obtain ⟨c, u, group, hr, rfl⟩ := exists_group h
    rw [hr, List.take_left, List.length_append]
    exact ⟨by omega, Grammar.isGroup_iff.2 group⟩
  · intro h
    obtain ⟨le, group⟩ := h
    have size := (Grammar.isGroup_iff.1 group).groupSize? (('(' :: r).drop n)
    rwa [List.take_append_drop, List.length_take_of_le le] at size

theorem drop_eq_cons_of_getElem? {c : Char} (h : source[start]? = some c) :
    source.drop start = c :: source.drop (start + 1) := by
  obtain ⟨hs, rfl⟩ := List.getElem?_eq_some_iff.1 h
  exact List.drop_eq_getElem_cons hs

theorem groupEnd?_eq_iff (opens : source[start]? = some '(') :
    groupEnd? source start = some e ↔
      e ≤ source.length ∧ Grammar.IsGroup ((source.take e).drop start) := by
  have hs : start < source.length := (List.getElem?_eq_some_iff.1 opens).1
  have front := drop_eq_cons_of_getElem? opens
  have size : ∀ n, groupSize? (source.drop start) = some n ↔
      n ≤ (source.drop start).length ∧ Grammar.IsGroup ((source.drop start).take n) := by
    intro n
    rw [front]
    exact groupSize?_eq_iff
  rw [groupEnd?, Option.map_eq_some_iff]
  constructor
  · intro h
    obtain ⟨n, hn, rfl⟩ := h
    obtain ⟨le, group⟩ := (size n).1 hn
    rw [List.length_drop] at le
    refine ⟨by omega, ?_⟩
    rwa [List.drop_take, Nat.add_sub_cancel_left]
  · intro h
    obtain ⟨le, group⟩ := h
    rw [List.drop_take] at group
    have lt : start ≤ e := by
      apply Nat.le_of_not_lt
      intro lt
      rw [show e - start = 0 by omega, List.take_zero] at group
      cases group
    refine ⟨e - start, (size _).2 ⟨?_, group⟩, by omega⟩
    rw [List.length_drop]
    omega

/-- The scanner finds the group of the grammar that opens at an index, the only one there, and
fails if there is none. -/
theorem groupEnd?_delimits (opens : source[start]? = some '(') :
    (∀ e, groupEnd? source start = some e ↔
      e ≤ source.length ∧ Grammar.IsGroup ((source.take e).drop start)) ∧
    (∀ e e', e ≤ source.length → Grammar.IsGroup ((source.take e).drop start) →
      e' ≤ source.length → Grammar.IsGroup ((source.take e').drop start) → e = e') ∧
    (groupEnd? source start = none ↔
      ∀ c, c <+: source.drop start → ¬ Grammar.IsGroup c) := by
  refine ⟨fun e => groupEnd?_eq_iff opens, ?_, ?_⟩
  · intro e e' le group le' group'
    have first := (groupEnd?_eq_iff opens).2 ⟨le, group⟩
    have second := (groupEnd?_eq_iff opens).2 ⟨le', group'⟩
    exact Option.some.inj (first.symm.trans second)
  · constructor
    · intro unclosed c hc group
      obtain ⟨u, hu⟩ := hc
      have size := (Grammar.isGroup_iff.1 group).groupSize? u
      rw [groupEnd?, ← hu, size] at unclosed
      cases unclosed
    · intro h
      apply Option.eq_none_iff_forall_ne_some.2
      intro e he
      obtain ⟨-, group⟩ := (groupEnd?_eq_iff opens).1 he
      rw [List.drop_take] at group
      exact h _ (List.take_prefix _ _) group

theorem groupEnd?_delimits_class :
    groupEnd? (.ofString "/a([^]])b") 2 = some 8 ∧
      Grammar.IsGroup (.ofString "([^]])") := by
  have opens : (Text.ofString "/a([^]])b")[2]? = some '(' := rfl
  have found : groupEnd? (.ofString "/a([^]])b") 2 = some 8 := by decide +kernel
  obtain ⟨-, group⟩ := ((groupEnd?_delimits opens).1 8).1 found
  exact ⟨found, group⟩

end RoutePattern.Scan
