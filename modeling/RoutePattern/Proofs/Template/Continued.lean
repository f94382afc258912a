import RoutePattern.Proofs.Template.Walk

/-! # Drafts that go on

A row of tokens adds the same to every draft that has the same guard.

* `draftUnder`: a template drafted under a guard that is there already.
* `Draft.followedBy`: a draft, and what another one adds to it; `foldl_push`: a row of tokens does.
* `consumed_foldl`: a draft has read the text of its tokens.
* `usesGuard`: whether the guard in front of a row of tokens makes a difference; `agree_foldl` and
  `length_writtenFrom_lt`: only then it does.
-/

namespace RoutePattern

open Regex

/-- Keys whose groups open `index` characters later and whose parameters end `offset` characters
later. -/
def KnownKeys.shift (known : KnownKeys) (index offset : Nat) : KnownKeys :=
  known.map fun x => (index + x.1, { x.2 with offset := offset + x.2.offset })

@[simp] theorem KnownKeys.shift_nil (index offset : Nat) :
    KnownKeys.shift [] index offset = [] := rfl

theorem KnownKeys.shift_append (known more : KnownKeys) (index offset : Nat) :
    KnownKeys.shift (known ++ more) index offset =
      known.shift index offset ++ more.shift index offset := List.map_append

theorem KnownKeys.shift_shift (known : KnownKeys) (i j m n : Nat) :
    (known.shift i m).shift j n = known.shift (j + i) (n + m) := by
  simp [KnownKeys.shift, Nat.add_assoc, Int.add_assoc]

theorem KnownKeys.shift_inj {known more : KnownKeys} {i n : Nat} :
    known.shift i n = more.shift i n ↔ known = more := by
  refine List.map_inj_right fun x y h => ?_
  simp only [Prod.mk.injEq, Key.mk.injEq] at h
  obtain ⟨index, name, optional, offset⟩ := h
  exact Prod.ext (by omega) (by
    cases hx : x.2
    cases hy : y.2
    simp_all)

/-- The expression for a template behind literal text that has left a guard. -/
def draftUnder (guard : Text) (t : Text) : Draft := (tokens t).foldl Draft.push { guard := guard }

theorem draftUnder_nil (t : Text) : draftUnder [] t = draft t := rfl

namespace Draft

/-- A draft, and what another one adds to it. -/
def followedBy (d e : Draft) : Draft where
  source := d.source ++ e.source
  guard := e.guard
  consumed := d.consumed + e.consumed
  named := d.named ++ e.named.shift d.source.length d.consumed

theorem newKeys_of_ne {d : Draft} {k : Token} (h : ∀ p, k ≠ .param p) : d.newKeys k = [] := by
  cases k with
  | param p => exact absurd rfl (h p)
  | _ => rfl

theorem newKeys_followedBy (d e : Draft) (k : Token) :
    (d.followedBy e).newKeys k = KnownKeys.shift (e.newKeys k) d.source.length d.consumed := by
  cases k with
  | param p =>
    simp only [newKeys, KnownKeys.shift, followedBy, List.map_cons, List.map_nil,
      List.cons.injEq, Prod.mk.injEq, Key.mk.injEq, true_and, and_true, List.length_append]
    omega
  | _ => rfl

theorem followedBy_push (d e : Draft) (k : Token) :
    (d.followedBy e).push k = d.followedBy (e.push k) := by
  rw [push, newKeys_followedBy]
  simp only [push, followedBy, KnownKeys.shift_append, List.append_assoc, Nat.add_assoc]

theorem foldl_followedBy (d e : Draft) (ks : List Token) :
    ks.foldl push (d.followedBy e) = d.followedBy (ks.foldl push e) := by
  induction ks generalizing e with
  | nil => rfl
  | cons k ks ih => rw [List.foldl_cons, List.foldl_cons, followedBy_push, ih]

/-- A row of tokens adds to a draft what it adds to an empty one with the same guard. -/
theorem foldl_push (d : Draft) (ks : List Token) :
    ks.foldl push d = d.followedBy (ks.foldl push { guard := d.guard }) := by
  rw [← foldl_followedBy]
  simp [followedBy]

theorem consumed_foldl (d : Draft) (ks : List Token) :
    (ks.foldl push d).consumed = d.consumed + (ks.flatMap Token.text).length := by
  induction ks generalizing d with
  | nil => rfl
  | cons k ks ih =>
    rw [List.foldl_cons, ih, List.flatMap_cons, List.length_append, ← Nat.add_assoc]
    rfl

/-- A draft has read the whole template. -/
theorem consumed_draft (t : Text) : (draft t).consumed = t.length := by
  rw [draft, consumed_foldl, text_tokens, Nat.zero_add]

end Draft

/-! ## Guards that make a difference -/

namespace Token

/-- What the token becomes depends on the guard. -/
def usesGuard : Token → Bool
  | param p => p.capture.isNone && !p.slash && !p.format
  | _ => false

/-- The guard goes on behind the token. -/
def keepsGuard : Token → Bool
  | escape _ => true
  | dot => true
  | literal c => c != '/'
  | _ => false

variable {k : Token} {g u : Text}

theorem guardAfter_of_keeps (h : k.keepsGuard) (g : Text) :
    k.guardAfter g = g ++ k.guardAfter [] := by
  cases k with
  | literal c =>
    have hc : c ≠ '/' := by simpa [keepsGuard] using h
    simp [guardAfter, hc]
  | escape c => rfl
  | dot => rfl
  | _ => cases h

theorem guardAfter_of_not_keeps (h : k.keepsGuard = false) (g : Text) : k.guardAfter g = [] := by
  cases k with
  | literal c =>
    have hc : c = '/' := by simpa [keepsGuard] using h
    simp [guardAfter, hc]
  | escape c => cases h
  | dot => cases h
  | _ => rfl

theorem written_of_not_uses (h : k.usesGuard = false) (g u : Text) :
    k.written g = k.written u := by
  cases k with
  | param p =>
    have group : p.group g = p.group u := by
      unfold Param.group
      cases hc : p.capture with
      | some capture => rfl
      | none =>
        have apart : (p.slash || p.format) = true := by
          rw [usesGuard, hc] at h
          cases hs : p.slash <;> simp_all
        simp only [Param.defaultGroup, Param.guardFor, apart, if_true]
    simp only [written, Param.written, group]
  | header source name => cases name <;> rfl
  | _ => rfl

/-- Under a longer guard, a token that uses it becomes longer. -/
theorem length_written_lt (h : k.usesGuard) (hg : u.length < g.length) :
    (k.written u).length < (k.written g).length := by
  cases k with
  | param p =>
    simp only [usesGuard, Bool.and_eq_true, Option.isNone_iff_eq_none, Bool.not_eq_true'] at h
    obtain ⟨⟨capture, slash⟩, format⟩ := h
    have guard : ∀ g : Text, p.guardFor g = g := by
      intro g
      simp [Param.guardFor, slash, format]
    have some_ : g.isEmpty = false := by
      cases g with
      | nil => cases hg
      | cons c g => rfl
    have group : (p.group u).length < (p.group g).length := by
      simp only [Param.group, capture, Param.defaultGroup, guard, some_]
      split
      · simp only [Param.formatText, format, List.length_append, List.length_cons, List.length_nil,
          Bool.false_eq_true, if_false]
        omega
      · simp only [List.length_append, List.length_cons, List.length_nil, Bool.false_eq_true,
          if_false]
        omega
    simp only [written, Param.written, List.length_append]
    omega
  | _ => cases h

end Token

/-- The guard in front of these tokens makes a difference. -/
def usesGuard : List Token → Bool
  | [] => false
  | k :: ks => k.usesGuard || (k.keepsGuard && usesGuard ks)

variable {d e : Draft} {k : Token} {ks : List Token} {g u : Text}

/-- The drafts differ in their guards at most. -/
structure Draft.Agree (d e : Draft) : Prop where
  source : d.source = e.source
  consumed : d.consumed = e.consumed
  named : d.named = e.named

theorem Draft.Agree.push (h : d.Agree e) (hk : k.usesGuard = false) :
    (d.push k).Agree (e.push k) := by
  refine ⟨?_, ?_, ?_⟩
  · rw [Draft.push, Draft.push, h.source, Token.written_of_not_uses hk d.guard e.guard]
  · rw [Draft.push, Draft.push, h.consumed]
  · have keys : d.newKeys k = e.newKeys k := by
      cases k with
      | param p => simp only [Draft.newKeys, h.source, h.consumed]
      | _ => rfl
    rw [Draft.push, Draft.push, h.named, keys]

theorem Draft.Agree.eq (h : d.Agree e) (hg : d.guard = e.guard) : d = e := by
  obtain ⟨h1, h2, h3⟩ := h
  cases d
  cases e
  simp_all

/-- A guard that no token uses makes no difference. -/
theorem agree_foldl (h : d.Agree e) (hk : usesGuard ks = false) :
    (ks.foldl Draft.push d).Agree (ks.foldl Draft.push e) := by
  induction ks generalizing d e with
  | nil => exact h
  | cons k ks ih =>
    simp only [usesGuard, Bool.or_eq_false_iff, Bool.and_eq_false_iff] at hk
    obtain ⟨used, keeps | later⟩ := hk
    · have guards : (d.push k).guard = (e.push k).guard := by
        rw [Draft.push, Draft.push, Token.guardAfter_of_not_keeps keeps,
          Token.guardAfter_of_not_keeps keeps]
      rw [List.foldl_cons, List.foldl_cons, (h.push used).eq guards]
      exact ⟨rfl, rfl, rfl⟩
    · exact ih (h.push used) later

/-- A guard that a token uses makes the expression longer than a shorter one does. -/
theorem length_writtenFrom_lt (hk : usesGuard ks) (hg : u.length < g.length) :
    (writtenFrom u ks).length < (writtenFrom g ks).length := by
  induction ks generalizing g u with
  | nil => cases hk
  | cons k ks ih =>
    simp only [writtenFrom, List.length_append]
    simp only [usesGuard, Bool.or_eq_true, Bool.and_eq_true] at hk
    cases used : k.usesGuard with
    | true =>
      have keeps : k.keepsGuard = false := by
        cases k with
        | param p => rfl
        | _ => cases used
      have := Token.length_written_lt used hg
      simp only [Token.guardAfter_of_not_keeps keeps]
      omega
    | false =>
      obtain ⟨keeps, later⟩ := hk.resolve_left (by simp [used])
      have longer := ih later (g := k.guardAfter g) (u := k.guardAfter u) (by
        rw [Token.guardAfter_of_keeps keeps g, Token.guardAfter_of_keeps keeps u,
          List.length_append, List.length_append]
        omega)
      rw [Token.written_of_not_uses used u g]
      omega

theorem length_writtenFrom_le (ks : List Token) (g : Text) :
    (writtenFrom [] ks).length ≤ (writtenFrom g ks).length := by
  cases used : usesGuard ks with
  | true =>
    cases g with
    | nil => exact Nat.le_refl _
    | cons c g => exact Nat.le_of_lt (length_writtenFrom_lt (u := []) used (by simp))
  | false =>
    have same := (agree_foldl (d := { guard := g }) (e := {}) ⟨rfl, rfl, rfl⟩ used).source
    rw [source_foldl, source_foldl] at same
    exact Nat.le_of_eq (congrArg List.length same.symm)

theorem source_draftUnder (g t : Text) : (draftUnder g t).source = writtenFrom g (tokens t) :=
  source_foldl { guard := g } _

theorem agree_draftUnder {t : Text} (h : usesGuard (tokens t) = false) (g : Text) :
    (draftUnder g t).Agree (draft t) :=
  agree_foldl ⟨rfl, rfl, rfl⟩ h

/-- A guard makes a difference to a template where a token uses it. -/
theorem agree_draftUnder_iff {t : Text} (hg : g ≠ []) :
    ((draftUnder g t).source = (draft t).source ∧ (draftUnder g t).named = (draft t).named) ↔
      usesGuard (tokens t) = false := by
  refine ⟨?_, fun h => ⟨(agree_draftUnder h g).source, (agree_draftUnder h g).named⟩⟩
  rintro ⟨h, -⟩
  rw [source_draftUnder, source_draft] at h
  rw [← Bool.not_eq_true]
  intro used
  have := length_writtenFrom_lt (u := []) used (List.length_pos_iff.2 hg)
  rw [h] at this
  exact absurd this (Nat.lt_irrefl _)

end RoutePattern
