import RoutePattern.Proofs.Reader.Place
import RoutePattern.Proofs.Reader.Shift
import RoutePattern.Proofs.Template.Anchored

/-! # What stands behind the expression of a template

The text behind an expression is read as items of its own wherever the expression could end, and
nowhere else, but for a comment.

* `Options.lastItems`, `Options.Ends`: the items that an expression ends with.
* `EndsAt`, `reads_ending`: where an item may start, and what the end is read as there.
* `place_of_ending`: where it is accepted, an item may start, or a comment is open.
* `settles_of_ending`: if an item may start, the end is read there.
-/

namespace RoutePattern

open Scan Regex Regex.Reader

/-! ## The text -/

/-- The item that the end of an expression is read as. -/
def Options.closingItem (o : Options) : Regex :=
  if o.toEnd then .anchor .stop else .flagged {} {} (.alt (.char 47) (.anchor .stop))

/-- A slash at the end of an expression that may be left out. -/
def optionalSlash : Regex := .rep 0 (some 1) .greedy (.char 47)

/-- The slash that an expression ends with, as an item, if it does. -/
def slashItem (slash : Bool) : List Regex := if slash then [.char 47] else []

/-- The items at the end of an expression, from its last slash on if it ends with one. -/
def Options.lastItems (o : Options) (slash : Bool) : List Regex :=
  if o.strict then slashItem slash ++ if slash && !o.toEnd then [] else [o.closingItem]
  else [optionalSlash, o.closingItem]

/-- An item that the expression may end with: a slash does if there may be more text. -/
def Options.Ends (o : Options) (r : Regex) : Prop :=
  r = o.closingItem ∨ (o.toEnd = false ∧ r = .char 47)

theorem lastItems_ends (o : Options) (slash : Bool) :
    ∃ rs r, o.lastItems slash = rs ++ [r] ∧ o.Ends r := by
  unfold Options.lastItems
  split
  · split
    · next h =>
      obtain ⟨rfl, more⟩ : slash = true ∧ o.toEnd = false := by simpa using h
      exact ⟨[], _, rfl, .inr ⟨more, rfl⟩⟩
    · exact ⟨_, _, rfl, .inl rfl⟩
  · exact ⟨[optionalSlash], _, rfl, .inl rfl⟩

theorem not_mem_ending {c : Char} (hc : c ∉ ['/', '?', '$', '(', ':', '|', ')']) (o : Options)
    (slash : Bool) : c ∉ o.ending slash := not_mem_endings hc (ending_mem o slash)

namespace Regex.Reader

variable {st nx s : State}

/-! ## Where an item may start -/

theorem reads_closing (o : Options) (h : settle st = .ok s) (hs : s.mode = .items) :
    Reads st o.closing { s with
      items := o.closingItem :: s.items, pos := s.pos + o.closing.length } := by
  have first : ∀ {c : Char} {t : Text} {nx : State}, c ∉ ['?', '+', ',', '\x7d'] →
      isDigit c = false → c ≠ '\\' → Reads s (c :: t) nx → Reads st (c :: t) nx := by
    intro c t nx h1 h2 hb hr
    obtain ⟨m, hm, hr⟩ := (reads_plain hb).1 hr
    exact .plain hb ((step_settled h hs (extend?_eq_none h1 h2)).trans hm) hr
  obtain ⟨mode, pos, flags, verbose, branches, items, frames, groups, sets, asked, behind, v⟩ := s
  obtain rfl : mode = .items := hs
  obtain ⟨strict, toEnd, sensitive⟩ := o
  cases toEnd with
  | true =>
    refine first (c := '$') (by decide) rfl (by decide) ?_
    cases verbose <;> exact .plain (by decide) rfl (.done _)
  | false =>
    refine first (c := '(') (by decide) rfl (by decide) ?_
    cases verbose <;>
      exact .plain (by decide) rfl <| .plain (by decide) rfl <| .plain (by decide) rfl <|
        .plain (by decide) rfl <| .plain (by decide) rfl <| .plain (by decide) rfl <|
        .plain (by decide) rfl <| .done _

/-- A slash that is the last item may be left out, and then the end is read. -/
theorem reads_optional {rs : List Regex} (o : Options) (h : st.mode = .items)
    (hi : st.items = .char 47 :: rs) :
    Reads st ('?' :: o.closing) { st with
      items := o.closingItem :: optionalSlash :: rs
      pos := st.pos + ('?' :: o.closing).length } := by
  obtain ⟨mode, pos, flags, verbose, branches, items, frames, groups, sets, asked, behind, v⟩ := st
  obtain rfl : mode = .items := h
  obtain rfl : items = .char 47 :: rs := hi
  have mark : step ⟨.items, pos, flags, verbose, branches, .char 47 :: rs, frames, groups, sets,
      asked, behind, v⟩ (.plain '?') = .ok ⟨.repeated, pos + 1, flags, verbose, branches,
      optionalSlash :: rs, frames, groups, sets, asked, behind, v⟩ := by
    cases verbose <;> rfl
  have settled : settle ⟨.repeated, pos + 1, flags, verbose, branches, optionalSlash :: rs, frames,
      groups, sets, asked, behind, v⟩ = .ok ⟨.items, pos + 1, flags, verbose, branches,
      optionalSlash :: rs, frames, groups, sets, asked, behind, v⟩ := rfl
  refine .plain (by decide) mark ?_
  have closed := reads_closing o settled rfl
  rwa [show pos + ('?' :: o.closing).length = pos + 1 + o.closing.length by simp; omega]

/-- The construct at hand ends, `s` is the state behind it; of its items, `rs` stand in front of the
slash that the expression ends with, if it does. -/
structure EndsAt (slash : Bool) (st s : State) (rs : List Regex) : Prop where
  settled : settle st = .ok s
  mode : s.mode = .items
  same : slash = true → st = s
  items : s.items = slashItem slash ++ rs

/-- What stands behind an expression is read as its last items, of which its slash is one. -/
theorem reads_ending (o : Options) {slash : Bool} {rs : List Regex} (h : EndsAt slash st s rs) :
    Reads st (o.ending slash) { s with
      items := (o.lastItems slash).reverse ++ rs, pos := s.pos + (o.ending slash).length } := by
  obtain ⟨h, hs, hl, hi⟩ := h
  unfold Options.ending Options.lastItems
  by_cases strict : o.strict = true
  · rw [if_pos strict, if_pos strict]
    by_cases more : (slash && !o.toEnd) = true
    · obtain ⟨rfl, -⟩ : slash = true ∧ o.toEnd = false := by simpa using more
      obtain rfl := hl rfl
      rw [if_pos more, if_pos more]
      have same : ([Regex.char 47].reverse ++ rs) = st.items := hi.symm
      exact same ▸ .done st
    · rw [if_neg more, if_neg more]
      have closing := reads_closing o h hs
      rw [hi] at closing
      have items : o.closingItem :: (slashItem slash ++ rs) =
          (slashItem slash ++ [o.closingItem]).reverse ++ rs := by
        cases slash <;> rfl
      rwa [items] at closing
  · rw [if_neg strict, if_neg strict]
    cases slash with
    | true =>
      obtain rfl := hl rfl
      exact reads_optional o hs hi
    | false =>
      have slash := (step_settled h hs (extend?_eq_none (by decide) rfl)).trans (step_slash hs)
      have optional : Reads { s.push (.char 47) with pos := s.pos + 1 } ('?' :: o.closing) _ :=
        reads_optional o rfl rfl
      have last : Reads st ('/' :: '?' :: o.closing) _ := .plain (by decide) slash optional
      rw [show ((if false = true then ['?'] else ['/', '?']) ++ o.closing) =
        '/' :: '?' :: o.closing from rfl, show s.pos + ('/' :: '?' :: o.closing).length =
        s.pos + 1 + ('?' :: o.closing).length by simp; omega]
      have items : s.items = rs := hi
      simpa [State.push, hs, items] using last

/-! ## Elsewhere -/

theorem ending_parts (o : Options) {slash : Bool} (he : o.ending slash ≠ []) :
    ∃ c t, o.ending slash = c :: t ∧ c ≠ '\\' ∧ Parts (.plain c) ∧ (c = '?' → slash = true) ∧
      (c = '(' → ∃ u, t = '?' :: u) := by
  have closing : ∃ c t, o.closing = c :: t ∧ c ≠ '\\' ∧ Parts (.plain c) ∧ c ≠ '?' ∧
      (c = '(' → ∃ u, t = '?' :: u) := by
    unfold Options.closing
    split
    · exact ⟨'$', _, rfl, by decide, by decide, by decide, nofun⟩
    · exact ⟨'(', _, rfl, by decide, by decide, by decide, fun _ => ⟨_, rfl⟩⟩
  rcases ending_cases o slash with ⟨h, -⟩ | h | ⟨hs, h⟩ | h
  · exact absurd h he
  · obtain ⟨c, t, hc, h1, h2, h3, h4⟩ := closing
    exact ⟨c, t, h.trans hc, h1, h2, fun h => absurd h h3, h4⟩
  · exact ⟨'?', _, h, by decide, by decide, fun _ => hs, nofun⟩
  · exact ⟨'/', _, h, by decide, by decide, nofun, nofun⟩

/-- A comment that is open stays open behind a text without parentheses that close. -/
theorem not_accepts_comment {start : Nat} {t : Text} (hm : st.mode = .comment start)
    (ht : ')' ∉ t) : ¬ Accepts st t := by
  rintro ⟨nx, q, hr, hq⟩
  have stays : nx.mode = .comment start :=
    hr.keeps_without (P := fun s => s.mode = .comment start) ht
      (fun hy hm hs => by rw [(comment_step hm hs).2.2, if_neg hy]) hm
  obtain ⟨s, hs, hi, -⟩ := finish_ok hq
  rw [settle_eq (by rw [stays]; trivial)] at hs
  obtain rfl := Except.ok.inj hs
  rcases hi with hi | hi <;> rw [stays] at hi <;> cases hi

/-- So does a comment to the end of the line, which no group may end with. -/
theorem not_accepts_lineComment {t : Text} (hm : st.mode = .lineComment) (hf : st.frames ≠ [])
    (ht : '\n' ∉ t) : ¬ Accepts st t := by
  rintro ⟨nx, q, hr, hq⟩
  have stays : nx.mode = .lineComment ∧ nx.frames = st.frames := by
    refine hr.keeps_without (P := fun s => s.mode = .lineComment ∧ s.frames = st.frames) ht
      (fun hy h hs => ?_) ⟨hm, rfl⟩
    obtain ⟨mode, frames⟩ := lineComment_step h.1 hy hs
    exact ⟨mode, frames.trans h.2⟩
  obtain ⟨s, hs, -, nf, -⟩ := finish_ok hq
  rw [settle_eq (by rw [stays.1]; trivial)] at hs
  obtain rfl := Except.ok.inj hs
  exact hf (stays.2.symm.trans nf)

/-- Where the end is accepted an item may start, or it closes a comment. -/
theorem place_of_ending {o : Options} {slash : Bool} (hst : st.mode.Fresh)
    (hf : st.mode = .lineComment → st.frames ≠ []) (ha : Accepts st (o.ending slash)) :
    st.mode.IsPlace ∨ (o.toEnd = false ∧ ∃ start, st.mode = .comment start) := by
  by_cases he : o.ending slash = []
  · rw [he] at ha
    obtain ⟨q, hq⟩ := accepts_nil.1 ha
    rcases place_of_finish hq with place | ⟨hm, none⟩
    · exact .inl place
    · exact absurd none (hf hm)
  rcases region hst with bare | inside | ⟨start, hm⟩ | hm
  · obtain ⟨c, t, hc, hb, hp, -, paren⟩ := ending_parts o he
    rw [hc] at ha
    obtain ⟨nx, hs, ha⟩ := (accepts_plain hb).1 ha
    rcases place_of_step bare hp hs with place | spoilt | ⟨hx, start, hm⟩
    · exact .inl place
    · exact absurd ha (not_accepts_spoilt spoilt t)
    · obtain ⟨u, rfl⟩ := paren (Symbol.plain.inj hx)
      exact absurd ha (not_accepts_mark hm (by decide) u)
  · exact absurd ha (not_accepts_open inside (extent?_of_not_mem (not_mem_ending (by decide) _ _) _))
  · refine .inr ⟨Bool.eq_false_iff.2 fun ht => not_accepts_comment hm ?_ ha, start, hm⟩
    have closing : o.closing = ['$'] := by rw [Options.closing, if_pos ht]
    rcases ending_cases o slash with ⟨h, -⟩ | h | ⟨-, h⟩ | h <;> simp [h, closing]
  · exact absurd ha (not_accepts_lineComment hm (hf hm) (not_mem_ending (by decide) _ _))

/-- Where the construct at hand ends before an item, the expression may end. -/
theorem endsAt_of_settle {slash : Bool} (hs : settle st = .ok s) (hm : s.mode = .items)
    (hl : slash = true → st.mode = .items ∧ ∃ rs, st.items = .char 47 :: rs) :
    ∃ rs, EndsAt slash st s rs := by
  cases slash with
  | true =>
    obtain ⟨items, rs, hi⟩ := hl rfl
    rw [settle_eq (by rw [items]; trivial)] at hs
    obtain rfl := Except.ok.inj hs
    exact ⟨rs, settle_eq (by rw [items]; trivial), items, fun _ => rfl, hi⟩
  | false => exact ⟨s.items, hs, hm, nofun, rfl⟩

/-- Where the end is accepted and an item may start, the construct at hand ends. -/
theorem settles_of_ending {o : Options} {slash : Bool} (hp : st.mode.IsPlace)
    (hl : slash = true → st.mode = .items ∧ ∃ rs, st.items = .char 47 :: rs)
    (h : Reads st (o.ending slash) nx) : ∃ s rs, EndsAt slash st s rs := by
  have settled : ∃ s, settle st = .ok s ∧ s.mode = .items := by
    by_cases hs : slash = true
    · obtain ⟨items, -⟩ := hl hs
      exact ⟨st, settle_eq (by rw [items]; trivial), items⟩
    · have ne : o.ending slash ≠ [] := fun he => hs (ending_eq_nil he).1
      obtain ⟨c, t, hc, hb, parts, mark, -⟩ := ending_parts o ne
      rw [hc] at h
      obtain ⟨m, hm, -⟩ := (reads_plain hb).1 h
      have none : extend? st (.plain c) = none := by
        have marks : ∀ c ∈ ['/', '$', '|', '?', '[', '('], c ≠ '?' →
            c ∉ ['?', '+', ',', '\x7d'] ∧ isDigit c = false := by decide
        obtain ⟨h1, h2⟩ := marks c parts fun hq => hs (mark hq)
        exact extend?_eq_none h1 h2
      obtain ⟨s, hs, items, -⟩ := settles_of_step hp none hm
      exact ⟨s, hs, items⟩
  obtain ⟨s, hs, items⟩ := settled
  obtain ⟨rs, ends⟩ := endsAt_of_settle hs items hl
  exact ⟨s, rs, ends⟩

end Regex.Reader

end RoutePattern
