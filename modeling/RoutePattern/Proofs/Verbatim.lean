import RoutePattern.Proofs.Path.Matching
import RoutePattern.Proofs.Plain.Reading
import RoutePattern.Proofs.Widening

/-! # Templates that stand for a text

A template of characters without a meaning and of escapes stands for one text, character by
character.

* `Denotes`: the text that a template stands for.
* `Options.Takes`: the texts that are taken for it under options.
* `builds_denotes`: what the template becomes is read as the characters of its text.
* `Options.Closes`, `fits_lastItems`: what may be left where the last items of an expression match.
* `match_verbatim`: the pattern of such a template.
-/

namespace RoutePattern

open Scan Regex Regex.Reader

/-! ## What is denoted -/

/-- The characters that mean something in a template. A dot means itself. -/
def meaningful : List Char :=
  ['\\', '*', '(', ')', '[', '\x7b', '+', '?', '|', '^', '$', ':']

/-- The template stands for the text: its characters mean nothing, or are escaped and neither
letters nor digits. -/
inductive Denotes : Text → Text → Prop
  | nil : Denotes [] []
  | char {c : Char} {t l : Text} : c ∉ meaningful → Denotes t l → Denotes (c :: t) (c :: l)
  | escaped {c : Char} {t l : Text} : c.isAlphanum = false → Denotes t l →
      Denotes ('\\' :: c :: t) (c :: l)

/-- A text without its final slash, if it has one. -/
def unslashed (l : Text) : Text := if endsInSlash l then l.dropLast else l

/-- The text `s` is taken for the text `l`: as a whole or, if there may be more text, up to a slash.
Unless the options are strict, the final slash does not count. -/
def Options.Takes (o : Options) (l s : Text) : Prop :=
  match o.strict, o.toEnd with
  | true, true => s = l ∨ s = l ++ ['\n']
  | false, true => s = unslashed l ∨ s = unslashed l ++ ['\n'] ∨
      s = unslashed l ++ ['/'] ∨ s = unslashed l ++ ['/', '\n']
  | true, false =>
    if endsInSlash l then l <+: s else s = l ∨ s = l ++ ['\n'] ∨ l ++ ['/'] <+: s
  | false, false => s = unslashed l ∨ s = unslashed l ++ ['\n'] ∨ unslashed l ++ ['/'] <+: s

/-! ## Tokens -/

variable {c : Char} {t l : Text}

theorem Denotes.tail (h : Denotes (c :: t) l) (hc : c ≠ '\\') :
    c ∉ meaningful ∧ ∃ l', Denotes t l' := by
  cases h with
  | char plain rest => exact ⟨plain, _, rest⟩
  | escaped => exact absurd rfl hc

theorem Denotes.head?_ne (h : Denotes t l) (hc : c ∈ meaningful) (hb : c ≠ '\\') :
    t.head? ≠ some c := by
  cases h with
  | nil => simp
  | char plain =>
    rw [List.head?_cons]
    rintro ⟨⟩
    exact plain hc
  | escaped => simpa using hb.symm

/-- No parameter stands in the template. -/
theorem Denotes.read?_eq_none (h : Denotes t l) : ParamName.read? t = none := by
  have bare : ∀ {slash format : Bool} {u k : Text}, Denotes u k →
      ParamName.readWord? slash format u = none := fun hu =>
    readWord?_eq_none (hu.head?_ne (by decide) (by decide))
  unfold ParamName.read?
  split
  · obtain ⟨-, l₁, h₁⟩ := h.tail (by decide)
    obtain ⟨-, l₂, h₂⟩ := h₁.tail (by decide)
    exact bare h₂
  · obtain ⟨-, l₁, h₁⟩ := h.tail (by decide)
    exact bare h₁
  · obtain ⟨-, l₁, h₁⟩ := h.tail (by decide)
    exact bare h₁
  · exact bare h

/-- A character that means nothing is a token by itself. -/
theorem tokens_denoted (hc : c ∉ meaningful) (h : Denotes t l) :
    tokens (c :: t) = Path.charToken c :: tokens t := by
  have starts : ∀ d ∈ ['\\', '*', '(', '['], d ∈ meaningful := by decide
  have paren : t.head? ≠ some '(' := h.head?_ne (by decide) (by decide)
  have first : Token.first c t = Path.charToken c := by
    rw [Token.first, (Denotes.char hc h).read?_eq_none]
    exact firstPlain_char (fun hm => hc (starts c hm)) fun _ => paren
  rw [tokens, first, size_charToken]
  rfl

theorem tokens_escape (c : Char) (t : Text) :
    tokens ('\\' :: c :: t) = .escape (some c) :: tokens t := by
  have first : Token.first '\\' (c :: t) = .escape (some c) := rfl
  rw [tokens, first]
  rfl

/-! ## Reading -/

variable {st nx : State}

/-- The escape of a character that is neither a letter nor a digit is the character. -/
theorem builds_escape (hc : c.isAlphanum = false) (h : st.Ready) :
    ∃ nx, Builds st ['\\', c] nx [.char c.toNat] [] := by
  obtain ⟨nx, build, -⟩ := builds_push (y := .escaped c) h nofun
    ((step_escaped h c).trans (congrArg _ (readItemEscape_verbatim hc st.rested)))
  exact ⟨nx, build⟩

/-- What the template becomes is read as the characters of its text. -/
theorem builds_denotes (h : Denotes t l) (g : Text) (hr : st.Ready) :
    ∃ nx, Builds st (writtenFrom g (tokens t)) nx (l.map fun c => .char c.toNat) [] := by
  induction h generalizing g st with
  | nil =>
    rw [tokens]
    exact ⟨st, .nil hr⟩
  | @char c t l hc h ih =>
    have marks : ∀ d ∈ itemMarks, d = '.' ∨ d ∈ meaningful := by decide
    obtain ⟨m, first⟩ := builds_charSource hr fun hm => (marks c hm).resolve_right hc
    obtain ⟨nx, rest⟩ := ih ((Path.charToken c).guardAfter g) first.ready
    rw [tokens_denoted hc h, writtenFrom, Path.written_charToken]
    exact ⟨nx, first.append rest⟩
  | @escaped c t l hc h ih =>
    obtain ⟨m, first⟩ := builds_escape hc hr
    obtain ⟨nx, rest⟩ := ih (g ++ ['\\', c]) first.ready
    rw [tokens_escape, writtenFrom]
    exact ⟨nx, first.append rest⟩

/-- What the template becomes has the last character of its text. -/
theorem getLast?_denotes (h : Denotes t l) (g : Text) :
    (writtenFrom g (tokens t)).getLast? = l.getLast? := by
  have behind : ∀ {u v k : Text} {c : Char}, u.getLast? = some c → v.getLast? = k.getLast? →
      (u ++ v).getLast? = (c :: k).getLast? := by
    intro u v k c hu hv
    rw [List.getLast?_append, hu, hv, List.getLast?_cons]
    cases k.getLast? <;> rfl
  induction h generalizing g with
  | nil => rw [tokens]; rfl
  | @char c t l hc h ih =>
    rw [tokens_denoted hc h, writtenFrom, Path.written_charToken]
    refine behind ?_ (ih _)
    unfold Path.charSource
    split
    · next dot => rw [dot]; rfl
    · rfl
  | @escaped c t l hc h ih =>
    rw [tokens_escape, writtenFrom]
    exact behind rfl (ih _)

theorem endsInSlash_denotes (h : Denotes t l) : endsInSlash (draft t).source = endsInSlash l := by
  rw [endsInSlash, source_draft, getLast?_denotes h, endsInSlash]

/-- The expression of the template opens no group. -/
theorem openings_denotes (h : Denotes t l) : openings (draft t).source = [] := by
  have ready : (start {}).Ready := ⟨.inl rfl, rfl⟩
  obtain ⟨nx, build⟩ := builds_denotes h [] ready
  rw [source_draft]
  exact (openings_of_passes build.passes build.ready.place build.ready.entered).trans build.found

/-- A slash that ends a text is behind the text without it. -/
theorem unslashed_append (l : Text) : unslashed l ++ (if endsInSlash l then ['/'] else []) = l := by
  unfold unslashed
  split
  · next slash =>
    exact List.dropLast_append_getLast? _ (of_decide_eq_true slash)
  · exact List.append_nil l

/-- Between the anchors the template is read as the characters of its text up to its final slash,
and as the items of the end. -/
theorem read_denotes (h : Denotes t l) (o : Options) :
    ∃ q, Pattern.read o.flags (o.anchored (draft t).source) = .ok q ∧
      q.flags = o.flags.settled ∧
      q.tree = concat (.anchor .start :: ((unslashed l).map fun c => .char c.toNat) ++
        o.lastItems (endsInSlash l)) := by
  have ready : (begun o.flags).Ready := ⟨.inl rfl, rfl⟩
  obtain ⟨st, build⟩ := builds_denotes h [] ready
  rw [← source_draft] at build
  have reads := build.passes.reads
  obtain ⟨rs, ends⟩ :=
    endsAt_of_settle build.ready.settle rfl (last_slash reads build.ready.place)
  have around := build.ready.around.trans build.around
  simp only [State.around, Prod.mk.injEq] at around
  obtain ⟨branches, frames, -, flags, asked, -, variableLookbehind⟩ := around
  have concluded := conclude_outside rfl frames asked variableLookbehind
  obtain ⟨q, read, settled, tree⟩ := read_ended reads ends concluded
  rw [endsInSlash_denotes h] at tree ends
  have items : rs = (.anchor .start :: ((unslashed l).map fun c => .char c.toNat)).reverse := by
    have all : slashItem (endsInSlash l) ++ rs =
        (l.map fun c => Regex.char c.toNat).reverse ++ [.anchor .start] :=
      ends.items.symm.trans build.items
    have last : (l.map fun c => Regex.char c.toNat).reverse =
        slashItem (endsInSlash l) ++ ((unslashed l).map fun c => Regex.char c.toNat).reverse := by
      conv => lhs; rw [← unslashed_append l]
      cases endsInSlash l <;> simp [slashItem]
    rw [last, List.append_assoc] at all
    rw [List.append_cancel_left all, List.reverse_cons]
  refine ⟨q, read, settled.trans (congrArg _ flags), tree.trans (body_eq branches ?_)⟩
  rw [items, List.reverse_append]

/-! ## Matching -/

variable {f : Flags} {o : Options} {s u : Spot}

theorem mem_slash (hf : f.ignoreCase = false) :
    u ∈ (Regex.char 47).outcomes f s ↔ ∃ r, s.ahead = '/' :: r ∧ u = s.move ['/'] r := by
  rw [Path.takes_slash hf s]
  cases ha : s.ahead with
  | nil => simp [eat?_nil ha]
  | cons c r =>
    rw [eat?_cons ha]
    by_cases hc : c = '/' <;> simp [hc]

/-- What may be left where an expression ends: nothing or a final line feed, or more text behind a
slash. -/
def Options.Closes (o : Options) (u : Text) : Prop :=
  u = [] ∨ u = ['\n'] ∨ (o.toEnd = false ∧ ['/'] <+: u)

theorem fits_stop (hm : f.multiline = false) :
    (Regex.anchor .stop).Fits f s ↔ s.ahead = [] ∨ s.ahead = ['\n'] := by
  have holds : Anchor.stop.holds f s = true ↔ s.ahead = [] ∨ s.ahead = ['\n'] := by
    simp [Anchor.holds, hm]
  rw [← holds, Fits, outcomes]
  split <;> simp_all

theorem fits_slash (hf : f.ignoreCase = false) : (Regex.char 47).Fits f s ↔ ['/'] <+: s.ahead := by
  unfold Fits
  constructor
  · rintro ⟨u, hu⟩
    obtain ⟨r, ahead, -⟩ := (mem_slash hf).1 hu
    exact ⟨r, ahead.symm⟩
  · rintro ⟨r, ahead⟩
    exact ⟨_, (mem_slash hf).2 ⟨r, ahead.symm, rfl⟩⟩

theorem fits_closingItem (hf : f.ignoreCase = false) (hm : f.multiline = false) :
    o.closingItem.Fits f s ↔ o.Closes s.ahead := by
  unfold Options.closingItem Options.Closes
  split
  · next toEnd => rw [fits_stop hm]; simp [toEnd]
  · next more =>
    rw [fits_flagged, fits_alt, fits_slash hf, fits_stop hm]
    simp only [more]
    tauto

/-- What may be left behind a text without its final slash. -/
def Options.Leaves (o : Options) (slash : Bool) (u : Text) : Prop :=
  if o.strict then
    if slash then ∃ r, u = '/' :: r ∧ (o.toEnd = true → o.Closes r) else o.Closes u
  else o.Closes u ∨ ∃ r, u = '/' :: r ∧ o.Closes r

theorem fits_lastItems (hf : f.ignoreCase = false) (hm : f.multiline = false) (slash : Bool) :
    (concat (o.lastItems slash)).Fits f s ↔ o.Leaves slash s.ahead := by
  have closing : ∀ u : Spot, (concat [o.closingItem]).Fits f u ↔ o.Closes u.ahead :=
    fun u => fits_closingItem hf hm
  -- A slash, and what may stand behind it.
  have behind : ∀ P : Text → Prop, (∃ u ∈ (Regex.char 47).outcomes f s, P u.ahead) ↔
      ∃ r, s.ahead = '/' :: r ∧ P r := by
    intro P
    constructor
    · rintro ⟨u, hu, hp⟩
      obtain ⟨r, ahead, rfl⟩ := (mem_slash hf).1 hu
      exact ⟨r, ahead, hp⟩
    · rintro ⟨r, ahead, hp⟩
      exact ⟨_, (mem_slash hf).2 ⟨r, ahead, rfl⟩, hp⟩
  unfold Options.lastItems Options.Leaves
  by_cases strict : o.strict = true
  · rw [if_pos strict, if_pos strict]
    cases slash with
    | false => exact closing s
    | true =>
      rw [slashItem, if_pos rfl, if_pos rfl, ← behind fun r => o.toEnd = true → o.Closes r,
        List.singleton_append, fits_cons]
      refine exists_congr fun u => and_congr_right fun _ => ?_
      by_cases toEnd : o.toEnd = true
      · simp [toEnd, fits_closingItem hf hm]
      · simp [toEnd, fits_nil]
  · rw [if_neg strict, if_neg strict, fits_cons, ← behind]
    simp only [mem_optionalSlash, closing, or_and_right, exists_or, exists_eq_left]
    exact or_comm

/-! ## Texts -/

/-- What is taken for a text is the text without its final slash, and then what may be left. -/
theorem takes_iff (o : Options) (l s : Text) :
    o.Takes l s ↔ ∃ u, s = unslashed l ++ u ∧ o.Leaves (endsInSlash l) u := by
  have whole := unslashed_append l
  have slash : ∀ a u : Text, a ++ ['/'] <+: u ↔ ∃ r, u = a ++ '/' :: r := fun a u => by
    simp [List.IsPrefix, eq_comm]
  have first : ∀ u : Text, ['/'] <+: u ↔ ∃ r, u = '/' :: r := slash []
  unfold Options.Takes Options.Leaves Options.Closes
  generalize unslashed l = b at whole ⊢
  obtain ⟨strict, toEnd, sensitive⟩ := o
  simp only [slash, first]
  cases strict with
  | false =>
    cases toEnd with
    | true => simp [and_or_left, exists_or, or_assoc]
    | false =>
      -- Behind the slash stands anything, so nothing is gained by a slash in front of it.
      simp only [Bool.false_eq_true, if_false, true_and]
      constructor
      · rintro (rfl | rfl | ⟨r, rfl⟩)
        · exact ⟨[], (List.append_nil _).symm, .inl (.inl rfl)⟩
        · exact ⟨['\n'], rfl, .inl (.inr (.inl rfl))⟩
        · exact ⟨'/' :: r, rfl, .inl (.inr (.inr ⟨r, rfl⟩))⟩
      · rintro ⟨u, rfl, (rfl | rfl | ⟨r, rfl⟩) | ⟨r, rfl, -⟩⟩
        · exact .inl (List.append_nil _)
        · exact .inr (.inl rfl)
        · exact .inr (.inr ⟨r, rfl⟩)
        · exact .inr (.inr ⟨r, rfl⟩)
  | true =>
    cases hs : endsInSlash l with
    | false =>
      obtain rfl : b = l := by simpa [hs] using whole
      cases toEnd <;> simp [and_or_left, exists_or]
    | true =>
      obtain rfl : b ++ ['/'] = l := by simpa [hs] using whole
      cases toEnd with
      | true => simp [and_or_left, exists_or]
      | false => simp [slash]

/-- A template that stands for a text compiles and adds no keys. If case counts, its pattern matches
what is taken for the text. -/
theorem match_verbatim (h : Denotes t l) {o : Options} (sensitive : o.sensitive = true)
    (p : Progress) : ∃ q p', compile o (.template t) p = (.ok q, p') ∧ p'.keys = p.keys ∧
      ∀ s, (q.match? s).isSome ↔ o.Takes l s := by
  obtain ⟨q, read, flags, tree⟩ := read_denotes h o
  have ignoreCase : q.flags.ignoreCase = false := by
    rw [flags]
    simp [Options.flags, Flags.settled, sensitive]
  have multiline : q.flags.multiline = false := by rw [flags]; rfl
  refine ⟨q, _, Prod.ext (compile_of_read read p) rfl, ?_, fun s => ?_⟩
  · rw [compile, compileTemplate, keys_conclude, Progress.keys_collect, openings_denotes h]
    exact List.append_nil _
  · have first : (concat (.anchor .start :: (unslashed l).map fun c => .char c.toNat)).outcomes
        q.flags (.before s) =
        ((unslashed l).isPrefixOf? s).toList.map ((Spot.before s).move (unslashed l)) := by
      rw [outcomes_concat_cons]
      exact (List.flatMap_singleton _ _).trans (outcomes_chars ignoreCase _ _)
    rw [isSome_match?, tree, fits_concat, first, takes_iff]
    simp only [List.mem_map, Option.mem_toList, List.isPrefixOf?_eq_some_iff_append_eq]
    constructor
    · rintro ⟨v, ⟨u, rfl, rfl⟩, fits⟩
      exact ⟨u, rfl, (fits_lastItems ignoreCase multiline _).1 fits⟩
    · rintro ⟨u, rfl, leaves⟩
      exact ⟨_, ⟨u, rfl, rfl⟩, (fits_lastItems ignoreCase multiline _).2 leaves⟩

/-- The slash that ends this text is escaped, and may be left out. -/
theorem match_verbatim_slash :
    Denotes "/a\\(b\\/".toList "/a(b/".toList ∧
      ∃ q p', compile { sensitive := true } (.template "/a\\(b\\/".toList) {} = (.ok q, p') ∧
        p'.keys = [] ∧ (q.match? "/a(b".toList).isSome ∧ ¬ (q.match? "/A(b".toList).isSome := by
  have denotes : Denotes "/a\\(b\\/".toList "/a(b/".toList :=
    .char (by decide) <| .char (by decide) <| .escaped (by decide) <| .char (by decide) <|
      .escaped (by decide) .nil
  obtain ⟨q, p', compiled, keys, finds⟩ :=
    match_verbatim denotes (o := { sensitive := true }) rfl {}
  refine ⟨denotes, q, p', compiled, keys, (finds _).2 (.inl (by decide)), fun found => ?_⟩
  have other : ¬ Options.Takes { sensitive := true } "/a(b/".toList "/A(b".toList := by
    simp only [Options.Takes]
    decide
  exact other ((finds _).1 found)

end RoutePattern
