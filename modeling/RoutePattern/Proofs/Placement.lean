import RoutePattern.Proofs.Scan.Groups
import RoutePattern.Proofs.Template.Anchored
import RoutePattern.Proofs.Template.Continued

/-! # Where the groups of parameters stand

* `isGroup_group`: the capture group of a parameter is balanced, whatever the template is.
* `Draft.Places`: the known keys stand for groups that follow each other; `places_push`,
  `places_foldl`: so they do in every draft.
* `mem_named`: a known key is that of a parameter among the tokens.
* `named_placed`: where a template's groups stand, where its parameters end, and what a parameter's
  own group becomes.
-/

namespace RoutePattern

open Scan Regex

variable {c : Char} {g r t u : Text} {p : Param} {d : Draft}

/-! ## Groups of parameters -/

theorem IsLiteral.isMatched {q : Piece} (h : IsLiteral q) : IsMatched q.text := by
  cases q with
  | escape c =>
    obtain ⟨c, rfl⟩ := Option.isSome_iff_exists.1 h
    exact isMatched_escape c
  | charClass t => exact h.elim
  | char c =>
    refine isMatched_chars fun x hx => ?_
    obtain rfl := List.mem_singleton.1 hx
    have special : ∀ x ∈ ['\\', '[', '(', ')'], x ∈ specialChars := by decide
    exact fun hx => h (special x hx)

theorem IsGuard.isMatched (h : IsGuard g) : IsMatched g := by
  obtain ⟨ps, h, rfl⟩ := h
  induction ps with
  | nil => exact isMatched_nil
  | cons q ps ih => exact (h q (by simp)).isMatched.append (ih fun x hx => h x (by simp [hx]))

theorem isGroup_defaultGroup (hg : IsGuard g) (p : Param) : IsGroup (p.defaultGroup g) := by
  unfold Param.defaultGroup
  dsimp only
  split
  · have set : ClosedClass (['[', '^', '/'] ++ p.formatText ++ [']']) := by
      unfold Param.formatText
      split <;> exact ⟨_, rfl, rfl⟩
    have inner := (isMatched_class set).append (u := ['+', '?']) (isMatched_chars (by decide))
    simpa using inner.group
  · have guard : IsGuard (p.guardFor g) := by
      unfold Param.guardFor
      split
      · exact isGuard_nil
      · exact hg
    have mark : IsMatched ['?', '!', '/', '|'] := isMatched_chars (by decide)
    have refusal := (mark.append guard.isMatched).group.isMatched
    have colon : IsMatched ['?', ':'] := isMatched_chars (by decide)
    have body := (colon.append (refusal.append (u := ['.']) (isMatched_chars (by decide)))).group
    have inner := body.isMatched.append (u := ['+', '?']) (isMatched_chars (by decide))
    simpa using inner.group

theorem isGroup_ownGroup (h : IsGroup t) : IsGroup (Param.ownGroup t) := by
  unfold Param.ownGroup
  dsimp only
  split
  · exact h.expandWildcards
  · exact h.expandWildcards.isMatched.group

/-- The capture group of a parameter is balanced. -/
theorem isGroup_group (hg : IsGuard g) (hp : ∀ t, p.capture = some t → IsGroup t) :
    IsGroup (p.group g) := by
  unfold Param.group
  split
  · next h => exact isGroup_ownGroup (hp _ h)
  · exact isGroup_defaultGroup hg p

theorem capture_readParam {name : ParamName} (h : (Token.readParam name r).capture = some t) :
    IsGroup t := by
  unfold Token.readParam at h
  dsimp only at h
  split at h
  · obtain ⟨n, hn, rfl⟩ := Option.map_eq_some_iff.1 h
    obtain ⟨c, u, group, hr, rfl⟩ := exists_group hn
    rw [hr, List.take_left]
    exact group
  · cases h

/-- A parameter is read from its name on. -/
theorem readParam_of_first (h : Token.first c r = .param p) :
    p = Token.readParam p.toParamName ((c :: r).drop p.toParamName.text.length) := by
  unfold Token.first at h
  split at h
  · obtain rfl := Token.param.inj h
    rfl
  · unfold Token.firstPlain at h
    split at h <;> cases h

/-- The name of a parameter is a word. -/
theorem word_of_first (h : Token.first c r = .param p) : ∀ c ∈ p.name, Text.isWord c := by
  unfold Token.first at h
  split at h
  · next hn =>
    obtain rfl := Token.param.inj h
    exact (word_of_read? hn).1
  · unfold Token.firstPlain at h
    split at h <;> cases h

/-- A group behind the name of a parameter is the parameter's. -/
theorem capture_of_first (h : Token.first c r = .param p) (hg : IsGroup t)
    (hr : c :: r = p.toParamName.text ++ (t ++ u)) : p.capture = some t := by
  have paren : (Token.readParam p.toParamName (t ++ u)).capture =
      (groupSize? (t ++ u)).map (t ++ u).take := by
    obtain ⟨s, -, rfl⟩ := hg
    rfl
  rw [readParam_of_first h, hr, List.drop_left, paren, hg.groupSize?, Option.map_some,
    List.take_left]

/-! ## Known keys in their places -/

namespace Draft

/-- The key of a parameter, by the index at which its capture group opens. -/
def entry (d : Draft) (p : Param) : Nat × Key :=
  (d.source.length + p.opening.length,
    ⟨.text p.name, p.marks.optional, (d.consumed + p.text.length : Nat)⟩)

/-- At the indexes of the known keys stand groups that follow each other, and the parameters end one
after the other. -/
structure Places (d : Draft) : Prop where
  apart : d.named.Pairwise fun x y =>
    (∃ n, GroupAt d.source x.1 n ∧ x.1 + n ≤ y.1) ∧ x.2.offset < y.2.offset
  within : ∀ x ∈ d.named, (∃ n, GroupAt d.source x.1 n) ∧ x.2.offset ≤ d.consumed

/-- The group of a parameter stands in the draft with that parameter. -/
theorem groupAt_entry (hg : IsGroup (p.group d.guard)) :
    GroupAt (d.push (.param p)).source (d.entry p).1 (p.group d.guard).length :=
  ⟨d.source ++ p.opening, p.group d.guard,
    p.restGroup ++ ')' :: (if p.marks.optional then ['?'] else []), hg, by
      simp [push, Token.written, Param.written], by simp [entry], rfl⟩

theorem places_push {k : Token} (h : d.Places)
    (hk : ∀ p, k = .param p → IsGroup (p.group d.guard)) : (d.push k).Places := by
  have old : ∀ {i n : Nat}, GroupAt d.source i n → GroupAt (d.push k).source i n :=
    fun group => group.append _
  have kept : d.named.Pairwise fun x y =>
      (∃ n, GroupAt (d.push k).source x.1 n ∧ x.1 + n ≤ y.1) ∧ x.2.offset < y.2.offset :=
    h.apart.imp fun ⟨⟨n, group, le⟩, lt⟩ => ⟨⟨n, old group, le⟩, lt⟩
  have read : (d.push k).consumed = d.consumed + k.size := rfl
  have stays : ∀ x ∈ d.named, (∃ n, GroupAt (d.push k).source x.1 n) ∧
      x.2.offset ≤ (d.push k).consumed := fun x hx => by
    obtain ⟨⟨n, group⟩, le⟩ := h.within x hx
    exact ⟨⟨n, old group⟩, by omega⟩
  by_cases hp : ∃ p, k = .param p
  · obtain ⟨p, rfl⟩ := hp
    have named : (d.push (.param p)).named = d.named ++ [d.entry p] := rfl
    have offset : (d.entry p).2.offset = (d.push (.param p)).consumed := rfl
    have positive : 0 < (Token.param p).size := by
      have := p.toParamName.text_length_pos
      simp only [Token.size, Token.text, Param.text, List.length_append]
      omega
    refine ⟨?_, ?_⟩ <;> rw [named]
    · refine List.pairwise_append.2 ⟨kept, List.pairwise_singleton _ _, fun x hx y hy => ?_⟩
      obtain rfl := List.mem_singleton.1 hy
      obtain ⟨⟨n, group⟩, le⟩ := h.within x hx
      have bound := group.le_length
      have start : (d.entry p).1 = d.source.length + p.opening.length := rfl
      exact ⟨⟨n, old group, by omega⟩, by omega⟩
    · intro x hx
      rcases List.mem_append.1 hx with hx | hx
      · exact stays x hx
      · obtain rfl := List.mem_singleton.1 hx
        exact ⟨⟨_, groupAt_entry (hk p rfl)⟩, by omega⟩
  · have named : (d.push k).named = d.named := by
      rw [push, newKeys_of_ne fun p hk => hp ⟨p, hk⟩]
      exact List.append_nil _
    exact ⟨by rwa [named], by rwa [named]⟩

/-- A lone backslash is the last token of a template, so it ends no guard that counts. -/
theorem places_foldl (h : d.Places) (hg : IsGuard d.guard) (t : Text) :
    ((tokens t).foldl push d).Places := by
  fun_induction tokens t generalizing d with
  | case1 => exact h
  | case2 c r k =>
    rename_i ih
    have next : (d.push k).Places := places_push h fun p hp =>
      isGroup_group hg fun t ht => capture_readParam (readParam_of_first hp ▸ ht)
    by_cases lone : k = .escape none
    · have ends : (c :: r).drop k.size = [] := by
        have last : Token.first c r = .escape none := lone
        rcases open_first (c := c) (r := r) (by simp [last, Token.IsClosed]) with ⟨-, rfl, rfl⟩ | ⟨other, -⟩
        · rw [lone]
          rfl
        · rw [last] at other
          cases other
      rw [ends, tokens]
      exact next
    · exact ih next (isGuard_guardAfter hg lone)

/-- A key that tokens add is that of a parameter among them. -/
theorem mem_named {ks : List Token} {x : Nat × Key} (h : x ∈ (ks.foldl push d).named) :
    x ∈ d.named ∨ ∃ as p bs, ks = as ++ .param p :: bs ∧ x = (as.foldl push d).entry p := by
  induction ks generalizing d with
  | nil => exact .inl h
  | cons k ks ih =>
    rcases ih h with h | ⟨as, p, bs, rfl, rfl⟩
    · rcases List.mem_append.1 h with h | h
      · exact .inl h
      · cases k with
        | param p => exact .inr ⟨[], p, ks, rfl, List.mem_singleton.1 h⟩
        | _ => cases h
    · exact .inr ⟨k :: as, p, bs, rfl, rfl⟩

/-- The known keys of a template stand for groups that follow each other. -/
theorem places_draft (t : Text) : (draft t).Places :=
  places_foldl ⟨.nil, by simp⟩ isGuard_nil t

end Draft

/-! ## Templates -/

/-- What stands in the expression for a template where the group of a parameter opens. -/
theorem group_of_entry {ks ls : List Token} (h : tokens t = ks ++ .param p :: ls) :
    ∃ u, (draft t).source.drop ((ks.foldl Draft.push {}).entry p).1 =
      p.group (ks.foldl Draft.push {}).guard ++ u := by
  rw [draft, h, List.foldl_append, List.foldl_cons, source_foldl]
  refine ⟨p.restGroup ++ ')' :: ((if p.marks.optional then ['?'] else []) ++
    writtenFrom ((ks.foldl Draft.push {}).push (.param p)).guard ls), ?_⟩
  have split : ∀ d : Draft, (d.push (.param p)).source = (d.source ++ p.opening) ++
      (p.group d.guard ++ (p.restGroup ++ ')' :: if p.marks.optional then ['?'] else [])) := by
    intro d
    simp [Draft.push, Token.written, Param.written]
  rw [split, List.append_assoc]
  have index : ((ks.foldl Draft.push {}).entry p).1 =
      ((ks.foldl Draft.push {}).source ++ p.opening).length := by simp [Draft.entry]
  rw [index, List.drop_left]
  simp

/-- A group that stands behind the name of a parameter in the template is the parameter's. -/
theorem capture_of_tokens {ks ls : List Token} (h : tokens t = ks ++ .param p :: ls)
    (hg : IsGroup g) (ht : t = ks.flatMap Token.text ++ (p.toParamName.text ++ (g ++ u))) :
    p.capture = some g := by
  have rest : (Token.param p :: ls).flatMap Token.text = p.toParamName.text ++ (g ++ u) := by
    have text := text_tokens t
    rw [h, List.flatMap_append, ht] at text
    exact List.append_cancel_left text
  obtain ⟨c, r, text, first, -⟩ := first_of_tokens h
  exact capture_of_first first hg (text.symm.trans rest)

/-- The groups of the known keys follow each other in the expression, and the parameters that the
keys are for end one after the other in the template. A group that stands behind the name of a
parameter becomes that parameter's group. -/
theorem named_placed (t : Text) :
    (draft t).named.Pairwise (fun x y =>
      x.1 < y.1 ∧ x.2.offset < y.2.offset ∧
        ∀ n, groupSize? ((draft t).source.drop x.1) = some n → x.1 + n ≤ y.1) ∧
    ∀ x ∈ (draft t).named,
      x.2.offset ≤ t.length ∧ (draft t).source[x.1]? = some '(' ∧
      ∃ n, groupSize? ((draft t).source.drop x.1) = some n ∧ x.1 + n ≤ (draft t).source.length ∧
      ∃ ks p ls, tokens t = ks ++ .param p :: ls ∧ x.2.name = .text p.name ∧
        x.2.offset = (ks.flatMap Token.text ++ p.text).length ∧
        ∀ c u, t = ks.flatMap Token.text ++ (p.toParamName.text ++ ('(' :: c ++ u)) →
          groupSize? ('(' :: c) = some ('(' :: c).length →
          ((draft t).source.drop x.1).take n =
            if (Header.read (expandWildcards ('(' :: c))).opening.captures
            then expandWildcards ('(' :: c) else '(' :: (expandWildcards ('(' :: c) ++ [')']) := by
  have places := Draft.places_draft t
  refine ⟨places.apart.imp ?_, fun x hx => ?_⟩
  · rintro x y ⟨⟨n, group, le⟩, lt⟩
    have := group.pos
    refine ⟨by omega, lt, fun m hm => ?_⟩
    obtain rfl : n = m := Option.some.inj (group.groupSize?.symm.trans hm)
    exact le
  · obtain ⟨⟨n, group⟩, le⟩ := places.within x hx
    rw [Draft.consumed_draft] at le
    obtain ⟨ks, p, ls, hk, rfl⟩ : ∃ ks p ls, tokens t = ks ++ .param p :: ls ∧
        x = (ks.foldl Draft.push {}).entry p := by
      simpa using Draft.mem_named (d := {}) hx
    have offset : ((ks.foldl Draft.push {}).entry p).2.offset =
        (ks.flatMap Token.text ++ p.text).length := by
      simp [Draft.entry, Draft.consumed_foldl]
    refine ⟨le, group.head, n, group.groupSize?, group.le_length, ks, p, ls, hk, rfl, offset,
      fun c u ht hc => ?_⟩
    have own := isGroup_of_groupSize? hc
    obtain ⟨v, hv⟩ := group_of_entry hk
    have whole : p.group (ks.foldl Draft.push {}).guard = Param.ownGroup ('(' :: c) := by
      rw [Param.group, capture_of_tokens hk own ht]
    have size : n = (Param.ownGroup ('(' :: c)).length := by
      have group := group.groupSize?
      rw [hv, whole, (isGroup_ownGroup own).groupSize?] at group
      exact (Option.some.inj group).symm
    rw [hv, whole, size, List.take_left]
    rfl

end RoutePattern
